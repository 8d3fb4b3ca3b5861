import PassDelta.Duration
import PassDelta.Mode
import PassDelta.Path
/-!
# Setups

What a batch has to know: which compiler, with which arguments in each mode, and where captures go. A compiler
run gets the shared arguments, then those of its mode, then the module path byte for byte.
-/

namespace PassDelta

structure Setup where
  compiler : String
  baseArgs : List String
  flags : PerMode (List String)
  outputDir : Path
  extension : String
  timeout : Option Duration
  previewLimit : Nat
  deriving DecidableEq, Repr

/-- Whether a deadline is set for a run; an executor without clock can only be asked untimed. -/
inductive Limit where
  | untimed
  | within (deadline : Option Duration)
  deriving DecidableEq, Repr

def Limit.span : Limit → Option Duration
  | untimed => none
  | within deadline => deadline

structure Command where
  program : String
  arguments : List Bytes
  limit : Limit
  deriving DecidableEq, Repr

namespace Setup

def arguments (s : Setup) (module : Path) (mode : Mode) : List Bytes :=
  (s.baseArgs ++ s.flags.get mode).map Text.encode ++ [module.bytes]

end Setup
end PassDelta
