import PassDelta.Config.Store
/-!
# Options

What the caller of a comparison sets over its configuration file. The settings that result must describe a usable
comparison and name at least one module.
-/

namespace PassDelta

structure Options where
  modules : List Path
  compiler : Option String
  outputDir : Option Path
  timeoutSecs : Option Nat
  previewLimit : Option Nat
  config : Option Path
  json : Bool
  deriving DecidableEq, Repr

namespace Options

def none : Options := ⟨[], .none, .none, .none, .none, .none, false⟩

/-- The settings with the options put over them; a list of modules replaces the configured one whole. -/
def apply (o : Options) (c : Config) : Config :=
  { c with
    modules := if o.modules.isEmpty then c.modules else o.modules
    compiler := o.compiler.getD c.compiler
    outputDir := o.outputDir.getD c.outputDir
    timeoutSecs := o.timeoutSecs.or c.timeoutSecs
    previewLimit := o.previewLimit.getD c.previewLimit }

/-- The settings with the options put over them, if they are usable. `origin` is the file to blame. -/
def merge (o : Options) (c : Config) (origin : Path) : Except Trouble Config :=
  let merged := o.apply c
  match merged.validate with
  | .error fault => .error (.ofFailure (.invalidConfig origin fault.message))
  | .ok () => if merged.modules.isEmpty then .error (.ofFailure .noModules) else .ok merged

variable {σ : Type}

/-- The settings of a comparison started in `root`: from the file that the options name, else from the project's
own file. -/
def resolve (h : Host σ) (root : Path) (o : Options) : Work σ (Except Trouble Config) := do
  match o.config with
  | some path =>
    match ← Config.loadFile h path with
    | .error t => return .error t
    | .ok c => return o.merge c path
  | .none =>
    match ← Config.load h root with
    | .error t => return .error t
    | .ok c => return o.merge c (Path.ofString Config.fileName)

end Options
end PassDelta
