import PassDelta.Batch
import PassDelta.CommandLine.Completion
import PassDelta.CommandLine.Help
import PassDelta.CommandLine.Request
import PassDelta.Document
import PassDelta.Tool
/-!
# Performing requests

A request becomes work in a session and an exit code. A comparison tells its outcome as text or as one JSON
document; a failure is explained on the error channel, and its code is that of the program.
-/

namespace PassDelta

namespace CommandLine

variable {σ : Type}

def announcement (style : Style) (c : Config) : String :=
  style.rocket ++ " " ++ style.strong "Comparing" ++ " " ++ toString c.modules.length ++ " module(s) with " ++
    style.tint .cyan c.compiler ++ "\n"

/-- The lines before a batch: what is compared, and what is known of the compiler. -/
def announce (h : Host σ) (style : Style) (c : Config) : Work σ (Except IoError Unit) := do
  match ← Work.offer h (announcement style c) with
  | .error e => return .error e
  | .ok () =>
    let status ← Tool.probe h c.compiler
    Work.offer h (Tool.describe style c.compiler status ++ "\n")

def deliver (h : Host σ) (summary : Summary) : Work σ (Except IoError Unit) := do
  match (Document.ofSummary summary).write with
  | .ok text => Work.offer h (text ++ "\n")
  | .error problem =>
    Work.complain ("Error formatting JSON: " ++ problem ++ "\n")
    return .ok ()

def compareAsDocument (h : Host σ) (style : Style) (c : Config) : Work σ (Summary × Except IoError Unit) := do
  let summary ← Batch.run (h.withConsole fun _ => .dropped) style c.setup c.modules
  return (summary, ← deliver h summary)

def outcome (summary : Summary) : Except Trouble Unit :=
  match summary.failure with
  | some e => .error (.ofFailure (.ofInvocation e))
  | none => .ok ()

/-- What a command came to, or why a text that it had to show was refused. -/
abbrev Ending : Type := Except IoError (Except Trouble Unit)

def compare (h : Host σ) (style : Style) (root : Path) (o : Options) : Work σ Ending := do
  match ← o.resolve h root with
  | .error t => return .ok (.error t)
  | .ok c =>
    if o.json then
      let (summary, shown) ← compareAsDocument h style c
      return shown.map fun _ => outcome summary
    else
      match ← announce h style c with
      | .error e => return .error e
      | .ok () => return .ok (outcome (← Batch.run h style c.setup c.modules))

def created (style : Style) (c : Config) (path : Path) : String :=
  style.check ++ " Created " ++ style.bold .cyan path.display ++ "\n\n" ++
    style.sparkles ++ " Modules:\n" ++
    String.join (c.modules.map fun m => "   " ++ style.faint "•" ++ " " ++ m.display ++ "\n") ++
    "\n   Edit " ++ Config.fileName ++ " to change the compiler, flags or module list,\n" ++
    "   then run " ++ style.tint .cyan (program ++ " compare") ++ " to compare optimized and unoptimized IR.\n"

def create (h : Host σ) (style : Style) (root : Path) (force : Bool) : Work σ Ending := do
  match ← Config.create h .starter root force with
  | .error t => return .ok (.error t)
  | .ok path => return (← Work.offer h (created style .starter path)).map .ok

def conclude (style : Style) : Except Trouble Unit → Work σ Nat
  | .ok () => return 0
  | .error t => do
    Work.complain (t.render style ++ "\n")
    return t.exitCode

def crashCode : Nat := 101

def crash (attempt : String) (e : IoError) : Work σ Nat := do
  Work.complain (attempt ++ ": " ++ e.message ++ "\n")
  return crashCode

def finish (style : Style) : Ending → Work σ Nat
  | .ok result => conclude style result
  | .error e => crash "failed printing to stdout" e

def misuseCode : Nat := 2

/-- Does what a command line asks for, in the directory `root`. Nobody minds whether help was taken. -/
def perform (h : Host σ) (style : Style) (root : Path) : Request → Work σ Nat
  | .compare o => do finish style (← compare h style root o)
  | .create force => do finish style (← create h style root force)
  | .overview => do finish style ((← Work.offer h overview).map .ok)
  | .completions shell => do
    match ← Work.offer h (Completion.script shell) with
    | .ok () => return 0
    | .error e => crash "failed to write completion file" e
  | .help topic => do
    let _ ← Work.offer h (match topic with
      | some g => g.help ⟨style.coloured⟩
      | none => programHelp ⟨style.coloured⟩)
    return 0
  | .version g => do
    let _ ← Work.offer h (versionLine g)
    return 0
  | .misuse => do Work.complain misuse; return misuseCode

end CommandLine
end PassDelta
