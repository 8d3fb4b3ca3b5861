import PassDelta.Setup
import PassDelta.Text.Blank
/-!
# Configurations

The settings of a configuration file, their defaults, and the conditions under which they describe a usable
comparison.
-/

namespace PassDelta

structure Config where
  compiler : String
  baseArgs : List String
  flags : PerMode (List String)
  modules : List Path
  outputDir : Path
  extension : String
  timeoutSecs : Option Nat
  previewLimit : Nat
  deriving DecidableEq, Repr

namespace Config

def fileName : String := ".ir-compare.toml"

def initial : Config where
  compiler := "vyper"
  baseArgs := ["-f", "bb_runtime"]
  flags := ⟨["--no-optimize"], []⟩
  modules := []
  outputDir := Path.ofString "venom_output"
  extension := "venom"
  timeoutSecs := none
  previewLimit := 1000

instance : Inhabited Config := ⟨initial⟩

/-- The defaults with a list of demo modules, as written into a new project. -/
def starter : Config :=
  { initial with
    modules := ["algebraic", "storage", "sccp", "sccp_simultaneous", "branch", "comparison"].map fun topic =>
      Path.ofString ("track2-advanced/src/" ++ topic ++ "_demo.vy") }

inductive Invalid where
  | blankCompiler
  | emptyExtension
  | dottedExtension (extension : String)
  | separatorInExtension (extension : String)
  | zeroTimeout
  deriving DecidableEq, Repr

def Invalid.message : Invalid → String
  | blankCompiler => "compiler must not be empty"
  | emptyExtension => "extension must not be empty"
  | dottedExtension ext =>
    let bare := String.ofList (ext.toList.dropWhile (· = '.'))
    "extension '" ++ ext ++ "' must not start with a dot (use '" ++ bare ++ "')"
  | separatorInExtension ext => "extension '" ++ ext ++ "' must not contain a path separator"
  | zeroTimeout => "timeout-secs must be greater than zero"

def fault? (c : Config) : Option Invalid :=
  let ext := c.extension.toList
  if Text.isAllBlank c.compiler then some .blankCompiler
  else if ext = [] then some .emptyExtension
  else if ext.head? = some '.' then some (.dottedExtension c.extension)
  else if ext.any (fun ch => ch = '/' || ch = '\\') then some (.separatorInExtension c.extension)
  else if c.timeoutSecs = some 0 then some .zeroTimeout
  else none

def validate (c : Config) : Except Invalid Unit :=
  match c.fault? with
  | some fault => .error fault
  | none => .ok ()

def setup (c : Config) : Setup where
  compiler := c.compiler
  baseArgs := c.baseArgs
  flags := c.flags
  outputDir := c.outputDir
  extension := c.extension
  timeout := c.timeoutSecs.map Duration.ofSeconds
  previewLimit := c.previewLimit

end Config
end PassDelta
