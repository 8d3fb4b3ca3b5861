import PassDelta.Duration
import PassDelta.Mode
import PassDelta.Path
import PassDelta.Text.Quoted
/-!
# Events

The steps of a batch as told to an observer, their line in the log, and observers that share what they have
recorded.
-/

namespace PassDelta

inductive Event where
  | moduleStarted (module : Path)
  | moduleSkipped (module : Path)
  | invocationFinished (module : Path) (mode : Mode) (elapsed : Duration)
  | artifactWriteFailed (module : Path) (path : Path)
  | moduleCompared (module : Path) (lines : PerMode Nat)
  | batchCompleted (analyzed skipped : Nat)
  | batchAborted (module : Path)
  deriving DecidableEq, Repr

namespace Event

def name : Event → String
  | moduleStarted _ => "module_started"
  | moduleSkipped _ => "module_skipped"
  | invocationFinished .. => "invocation_finished"
  | artifactWriteFailed .. => "artifact_write_failed"
  | moduleCompared .. => "module_compared"
  | batchCompleted .. => "batch_completed"
  | batchAborted _ => "batch_aborted"

def showRecord (title : String) (fields : List (String × String)) : String :=
  title ++ " \x7b " ++ ", ".intercalate (fields.map fun f => f.1 ++ ": " ++ f.2) ++ " \x7d"

def showPath (p : Path) : String := Text.quoteBytes p.bytes

/-- What the log says of an event: a run in words, any other event as a record. -/
def describe : Event → String
  | moduleStarted m => showRecord "ModuleStarted" [("module", showPath m)]
  | moduleSkipped m => showRecord "ModuleSkipped" [("module", showPath m)]
  | invocationFinished m mode elapsed => m.display ++ " " ++ mode.name ++ " in " ++ elapsed.twoDecimals
  | artifactWriteFailed m p => showRecord "ArtifactWriteFailed" [("module", showPath m), ("path", showPath p)]
  | moduleCompared m lines => showRecord "ModuleCompared" [("module", showPath m),
      ("unoptimized_lines", toString lines.unoptimized), ("optimized_lines", toString lines.optimized)]
  | batchCompleted analyzed skipped =>
    showRecord "BatchCompleted" [("analyzed", toString analyzed), ("skipped", toString skipped)]
  | batchAborted m => showRecord "BatchAborted" [("module", showPath m)]

def logLine (e : Event) : String := e.name ++ ": " ++ e.describe

end Event

/-- Observers by handle. Each handle names a book of events; copies of a handle name the same book. -/
structure Observers where
  books : List (List Event)
  handles : List Nat
  deriving DecidableEq, Repr

namespace Observers

def single : Observers := ⟨[[]], [0]⟩

def add (o : Observers) : Observers := ⟨o.books ++ [[]], o.handles ++ [o.books.length]⟩

def book (o : Observers) (handle : Nat) : Nat := (o.handles[handle]?).getD o.books.length

def copy (o : Observers) (handle : Nat) : Observers := { o with handles := o.handles ++ [o.book handle] }

def events (o : Observers) (handle : Nat) : List Event := (o.books[o.book handle]?).getD []

def clear (o : Observers) (handle : Nat) : Observers :=
  { o with books := o.books.modify (o.book handle) fun _ => [] }

def record (o : Observers) (handle : Nat) (e : Event) : Observers :=
  { o with books := o.books.modify (o.book handle) (· ++ [e]) }

end Observers
end PassDelta
