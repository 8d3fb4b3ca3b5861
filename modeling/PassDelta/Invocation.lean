import PassDelta.IoError
import PassDelta.Setup
import PassDelta.Text.Blank
import PassDelta.Text.Lines
/-!
# Invocations

How one compiler run ends: with captured output, or in one of three ways that are fatal to the batch.
-/

namespace PassDelta

/-- The status word of a finished process: exited when its low seven bits are zero, then with the next byte
as code; else ended by the signal they name. -/
structure WaitStatus where
  word : Nat
  deriving DecidableEq, Repr

namespace WaitStatus

def exited (code : Nat) : WaitStatus := ⟨code * 256⟩
def killed (signal : Nat) : WaitStatus := ⟨signal⟩
def code? (s : WaitStatus) : Option Nat := if s.word % 128 = 0 then some (s.word / 256 % 256) else none
def isSuccess (s : WaitStatus) : Bool := s.word = 0

end WaitStatus

structure Completion where
  status : WaitStatus
  stdout : Bytes
  stderr : Bytes
  elapsed : Duration
  deriving DecidableEq, Repr

structure Capture where
  module : Path
  mode : Mode
  status : WaitStatus
  stdout : Bytes
  stderr : String
  elapsed : Duration
  deriving DecidableEq, Repr

def Capture.text (c : Capture) : String := Text.lossy c.stdout

inductive InvocationCause where
  | notStarted (source : IoError)
  | unsuccessful (code : Option Int) (stderr : String)
  | timedOut (limit : Duration)
  deriving DecidableEq, Repr

structure InvocationError where
  program : String
  module : Path
  mode : Mode
  cause : InvocationCause
  deriving DecidableEq, Repr

namespace InvocationError

def kind (e : InvocationError) : String :=
  match e.cause with
  | .notStarted _ => "spawn_failure"
  | .unsuccessful .. => "compiler_failure"
  | .timedOut _ => "timeout"

def stderr (e : InvocationError) : Option String :=
  match e.cause with
  | .unsuccessful _ text => if Text.isAllBlank text then none else some text
  | _ => none

def source (e : InvocationError) : Option IoError :=
  match e.cause with
  | .notStarted source => some source
  | _ => none

def describeCode : Option Int → String
  | some code => "exit status " ++ toString code
  | none => "no exit status (terminated by signal)"

def message (e : InvocationError) : String :=
  let run := e.module.display ++ " (" ++ e.mode.name ++ ")"
  match e.cause with
  | .notStarted source => "failed to start `" ++ e.program ++ "` for " ++ run ++ ": " ++ source.message
  | .unsuccessful code _ => "`" ++ e.program ++ "` failed on " ++ run ++ " with " ++ describeCode code
  | .timedOut limit => "`" ++ e.program ++ "` timed out on " ++ run ++ " after " ++ limit.exact

end InvocationError
end PassDelta
