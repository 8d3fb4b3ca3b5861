import PassDelta.Event
import PassDelta.Invocation
/-!
# Sessions

Work on the outside world, as a value. A `Host` answers questions about files and runs programs on a state of
its own; a `Session` carries that state together with the trace of everything done and said so far. A console may
refuse a text: where that matters to the program it learns of it, elsewhere a line in the log is all that is left.
-/

namespace PassDelta

inductive Level where
  | debug
  | info
  | warn
  | error
  deriving DecidableEq, Repr

def Level.name : Level → String
  | debug => "debug"
  | info => "info"
  | warn => "warn"
  | error => "error"

/-- One thing done or said. File operations and runs are listed whether or not they succeed. -/
inductive Action where
  | asked (path : Path)
  | madeDir (path : Path)
  | fetched (path : Path)
  | wrote (path : Path) (size : Nat)
  | ran (command : Command)
  | logged (level : Level) (text : String)
  | recorded (event : Event)
  | flushed
  | printed (text : String)
  | complained (text : String)
  deriving DecidableEq, Repr

inductive Shown where
  | shown
  | dropped
  | refused (error : IoError)
  deriving DecidableEq, Repr

/-- The outside world: files, programs and where a program is found, and for every block of console text, by
number, what becomes of it. The words for a text that is no TOML are also taken from it. -/
structure Host (σ : Type) where
  isPresent : σ → Path → Bool
  createDir : σ → Path → Except IoError Unit × σ
  read : σ → Path → Except IoError String
  write : σ → Path → Bytes → Except IoError Unit × σ
  execute : σ → Command → Except IoError Completion × σ
  locate : σ → String → Option Path
  enforcesDeadlines : Bool
  console : Nat → Shown
  wording : String → String

structure Session (σ : Type) where
  world : σ
  trace : List Action
  blocks : Nat

def Session.start {σ : Type} (world : σ) : Session σ := ⟨world, [], 0⟩

abbrev Work (σ : Type) := StateM (Session σ)

namespace Work

variable {σ : Type}

def note (a : Action) : Work σ Unit := modify fun s => { s with trace := s.trace ++ [a] }

def log (level : Level) (text : String) : Work σ Unit := note (.logged level text)

def record (event : Event) : Work σ Unit := note (.recorded event)

def flush : Work σ Unit := note .flushed

def offer (h : Host σ) (text : String) : Work σ (Except IoError Unit) := do
  let s ← get
  set { s with blocks := s.blocks + 1 }
  match h.console s.blocks with
  | .shown =>
    note (.printed text)
    return .ok ()
  | .dropped => return .ok ()
  | .refused e => return .error e

def print (h : Host σ) (text : String) : Work σ Unit := do
  match ← offer h text with
  | .ok () => pure ()
  | .error e => log .debug ("console write failed: " ++ e.message)

def complain (text : String) : Work σ Unit := note (.complained text)

def isPresent (h : Host σ) (path : Path) : Work σ Bool := do
  note (.asked path)
  return h.isPresent (← get).world path

def read (h : Host σ) (path : Path) : Work σ (Except IoError String) := do
  note (.fetched path)
  return h.read (← get).world path

def act {α : Type} (f : σ → α × σ) : Work σ α := do
  let s ← get
  let (answer, world) := f s.world
  set { s with world := world }
  return answer

def createDir (h : Host σ) (path : Path) : Work σ (Except IoError Unit) := do
  note (.madeDir path)
  act fun w => h.createDir w path

def write (h : Host σ) (path : Path) (contents : Bytes) : Work σ (Except IoError Unit) := do
  note (.wrote path contents.length)
  act fun w => h.write w path contents

def execute (h : Host σ) (command : Command) : Work σ (Except IoError Completion) := do
  note (.ran command)
  act fun w => h.execute w command

def locate (h : Host σ) (program : String) : Work σ (Option Path) := do
  return h.locate (← get).world program

end Work

namespace Host

variable {σ : Type}

/-- The limit asked of the host for a deadline: none that it cannot enforce. -/
def limit (h : Host σ) (deadline : Option Duration) : Limit :=
  if h.enforcesDeadlines then .within deadline else .untimed

def withConsole (h : Host σ) (console : Nat → Shown) : Host σ := { h with console := console }

end Host
end PassDelta
