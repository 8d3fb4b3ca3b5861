import PassDelta.Session
import PassDelta.Style
/-!
# Compiler probes

Before a batch the compiler is looked for on the search path and asked for its version. The answer is only told:
a batch runs whatever it is.
-/

namespace PassDelta

inductive ToolStatus where
  | available (version : String)
  | unknown
  | missing
  deriving DecidableEq, Repr

inductive ToolError where
  | io (source : IoError)
  | unsuccessful (program : String)
  deriving DecidableEq, Repr

def ToolError.message : ToolError → String
  | io source => "I/O error: " ++ source.message
  | unsuccessful program => "Failed to get version for " ++ program

namespace Tool

variable {σ : Type}

def firstLine (text : String) : String := String.ofList (Text.trim ((Text.lines text.toList).headD []))

/-- The first line that the program prints when asked for its version. -/
def version (h : Host σ) (program : String) : Work σ (Except ToolError String) := do
  match ← Work.execute h ⟨program, [Text.encode "--version"], .untimed⟩ with
  | .error source => return .error (.io source)
  | .ok done =>
    if done.status.isSuccess then return .ok (firstLine (Text.lossy done.stdout))
    else return .error (.unsuccessful program)

/-- Looks for the program and, if it is there, asks for its version; an empty one counts as none. -/
def probe (h : Host σ) (program : String) : Work σ ToolStatus := do
  match ← Work.locate h program with
  | none => return .missing
  | some path =>
    Work.log .debug (program ++ " resolved to " ++ path.display)
    match ← version h program with
    | .ok v => if v = "" then return .unknown else return .available v
    | .error _ => return .unknown

def describe (style : Style) (program : String) : ToolStatus → String
  | .available version =>
    style.check ++ " Using " ++ style.strong program ++ " (" ++ style.faint version ++ ")"
  | .unknown => style.check ++ " Using " ++ style.strong program ++ " (version unknown)"
  | .missing =>
    style.warning ++ " " ++ style.bold .yellow program ++ " not found on PATH; compilation will fail"

end Tool
end PassDelta
