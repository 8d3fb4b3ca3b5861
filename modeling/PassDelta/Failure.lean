import PassDelta.Artifact
import PassDelta.Config
import PassDelta.Invocation
import PassDelta.Style
import PassDelta.Text.Lines
/-!
# Failures

The errors a command can end with, the advice and exit code that belong to each, and their rendering together
with the contexts added on the way out and the causes below.
-/

namespace PassDelta

inductive Failure where
  | batchAborted (module : Path) (source : InvocationError)
  | configNotFound (path : Path) (source : IoError)
  | invalidConfig (path : Path) (reason : String)
  | configExists (path : Path)
  | noModules
  | io (context : String) (source : IoError)
  deriving DecidableEq, Repr

namespace Failure

def ofInvocation (e : InvocationError) : Failure := .batchAborted e.module e

def message : Failure → String
  | batchAborted m _ => "Comparison aborted at " ++ m.display
  | configNotFound p _ => "Configuration file not found: " ++ p.display
  | invalidConfig p reason => "Invalid configuration in " ++ p.display ++ ": " ++ reason
  | configExists p => "Configuration file already exists: " ++ p.display
  | noModules => "No modules to compare"
  | io context _ => "I/O error: " ++ context

def advice : Failure → String
  | batchAborted _ e =>
    match e.cause with
    | .notStarted _ => "Install '" ++ e.program ++ "' or point --compiler at the right executable"
    | .unsuccessful .. => "Fix the compiler errors shown above, or remove the module from the list"
    | .timedOut _ => "Raise --timeout (or timeout-secs in the config file) for large modules"
  | configNotFound .. => "Run 'ir-compare init' to create a " ++ Config.fileName
  | invalidConfig .. => "Fix the value in " ++ Config.fileName ++ " or delete the key to use its default"
  | configExists _ => "Pass --force to overwrite the existing file"
  | noModules => "Pass module paths as arguments or list them under 'modules' in " ++ Config.fileName
  | io context _ => "Check file permissions and that " ++ context ++ " is accessible"

/-- Exit codes of the system's convention; a compiler that cannot be started counts as a missing command. -/
def exitCode : Failure → Nat
  | batchAborted _ e =>
    match e.cause with
    | .notStarted _ => 127
    | _ => 1
  | configNotFound .. => 66
  | invalidConfig .. => 65
  | configExists _ => 73
  | noModules => 64
  | io .. => 74

def invocation? : Failure → Option InvocationError
  | batchAborted _ e => some e
  | _ => none

end Failure

/-- An error at the bottom of a chain: one of the failures above, or one that is none of them. -/
inductive Root where
  | failure (f : Failure)
  | invocation (e : InvocationError)
  | artifact (e : ArtifactError)
  | words (text : String)
  deriving DecidableEq, Repr

/-- An error with the contexts added to it, the outermost first. -/
structure Trouble where
  contexts : List String
  root : Root
  deriving DecidableEq, Repr

def InvocationError.chain (e : InvocationError) : List String :=
  e.message :: (e.source.map IoError.message).toList

namespace Root

def chain : Root → List String
  | failure f =>
    f.message :: match f with
      | .batchAborted _ e => e.chain
      | .configNotFound _ source => [source.message]
      | .io _ source => [source.message]
      | _ => []
  | invocation e => e.chain
  | artifact e => [e.message, e.source.message]
  | words text => [text]

end Root

namespace Trouble

def ofFailure (f : Failure) : Trouble := ⟨[], .failure f⟩

def context (t : Trouble) (words : String) : Trouble := { t with contexts := words :: t.contexts }

/-- Contexts from the outermost in, then the error, then its causes. -/
def chain (t : Trouble) : List String := t.contexts ++ t.root.chain

def message (t : Trouble) : String := t.chain.headD ""

def failure? (t : Trouble) : Option Failure :=
  match t.root with
  | .failure f => some f
  | _ => none

def exitCode (t : Trouble) : Nat := (t.failure?.map Failure.exitCode).getD 1

/-- The causes, each indented two columns further than the one that it caused. -/
def causes (style : Style) : Nat → List String → String
  | _, [] => ""
  | depth, text :: rest =>
    String.ofList (List.replicate (2 * depth) ' ') ++ style.tint .yellow "caused by:" ++ " " ++ text ++ "\n" ++
      causes style (depth + 1) rest

/-- The captured words of the compiler without white space at the end, indented line by line. -/
def diagnostics (style : Style) (stderr : String) : String :=
  "\n" ++ style.faint "stderr:" ++ "\n" ++
    String.join ((Text.lines (Text.trimEnd stderr.toList)).map fun l => "  " ++ String.ofList l ++ "\n")

def render (style : Style) (t : Trouble) : String :=
  style.bold .red "error:" ++ " " ++ t.message ++ "\n" ++ causes style 1 t.chain.tail ++
    match t.failure? with
    | none => ""
    | some f =>
      (((f.invocation?).bind InvocationError.stderr).map (diagnostics style)).getD "" ++
        "\n" ++ style.bold .cyan "help:" ++ " " ++ f.advice ++ "\n"

end Trouble
end PassDelta
