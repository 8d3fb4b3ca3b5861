import PassDelta.Machine.Shell.Script
import PassDelta.Machine.Shell.Switch
import PassDelta.Machine.World
/-!
# The state of a shell

What a shell knows while it runs a script: its variables and functions, its open streams, the jobs it has begun,
and whether it is leaving the command it is in.
-/

namespace PassDelta.Machine

namespace Shell

structure Row where
  named : Bool
  items : List (Octets × Octets)
  deriving DecidableEq, Repr

/-- A variable; one without a value is only marked. The value of a table is that of its element zero. The letters of
`kinds` tell how values are changed when they are assigned: to the value of a sum, to small or to capital letters, or
that they are names of other variables. -/
structure Variable where
  value : Option Octets
  exported : Bool
  readonly : Bool
  row : Option Row
  kinds : List Char
  deriving DecidableEq, Repr

def nameSlot (name : Octets) : Nat :=
  name.foldl (fun h c => Nat.xor ((h * 16777619) % twoTo 32) c.toNat) 2166136261 % 1024

namespace Row

def empty (named : Bool) : Row := ⟨named, []⟩

def get? (r : Row) (key : Octets) : Option Octets := r.items.lookup key

def place (r : Row) (key : Octets) : Nat := if r.named then nameSlot key else valueIn 10 key

def put (r : Row) (key value : Octets) : Row :=
  if r.items.any (·.1 = key) then
    { r with items := r.items.map fun (x : Octets × Octets) => if x.1 = key then (key, value) else x }
  else
    let n := r.place key
    let before (x : Octets × Octets) : Bool := if r.named then r.place x.1 < n else r.place x.1 ≤ n
    { r with items := r.items.takeWhile before ++ (key, value) :: r.items.dropWhile before }

def erase (r : Row) (key : Octets) : Row := { r with items := r.items.filter (·.1 ≠ key) }

def values (r : Row) : List Octets := r.items.map Prod.snd

def next (r : Row) : Nat := (r.items.getLast?.map fun x => valueIn 10 x.1 + 1).getD 0

def ofValues (values : List Octets) : Row := ⟨false, values.zipIdx.map fun (v, i) => (Nat.toDigits 10 i, v)⟩

end Row

namespace Variable

def plain (value : Option Octets) (exported readonly : Bool) : Variable := ⟨value, exported, readonly, none, []⟩

def recased (v : Variable) (text : Octets) : Octets :=
  if v.kinds.contains 'l' then text.map Char.toLower else if v.kinds.contains 'u' then text.map Char.toUpper else text

def withRow (v : Variable) (r : Row) : Variable := { v with row := some r, value := r.get? ['0'] }

def withValue (v : Variable) (text : Octets) : Variable :=
  match v.row with
  | some r => v.withRow (r.put ['0'] (v.recased text))
  | none => { v with value := some (v.recased text) }

end Variable

structure Job where
  number : Nat
  ends : Nat
  ending : Ending
  deriving DecidableEq, Repr

structure Function where
  body : Command
  source : Octets

/-- A function or a text that is being run: its name, the text that it is in, and the line that it was called from. -/
structure Frame where
  function : String
  source : Octets
  line : Nat
  deriving DecidableEq, Repr

def Frame.isCall (f : Frame) : Bool := f.function ≠ "main" && f.function ≠ "source"

/-- Why the rest of a script is passed over: to leave loops, to go on with their next turns, to leave a function,
to go on with the next line of the script, or for good. -/
inductive Flow where
  | leave (loops : Nat)
  | again (loops : Nat)
  | back
  | dropped
  | ended (e : Ending)
  deriving DecidableEq, Repr

end Shell

/-- The state of a shell. `number` is the process number that the script sees and `self` that of this process;
`speaker` is the command that messages name; `tested` holds where a failure does not end the script. The rich shell also
knows its switches, the statuses of the parts of the last pipeline, what it is in the midst of, where its text came
from, how deep it is in processes of its own and in texts that commands run, the last word of the last command, the
directories to go back to, the commands that wait for what is written to a stream, and when it began. -/
structure Shell where
  world : World
  bindings : List (String × Shell.Variable)
  functions : List (String × Shell.Function)
  aliases : List (Octets × Octets)
  name : Octets
  positional : List Octets
  status : Nat
  options : List Char
  streams : List (Nat × Nat)
  here : Place
  line : Nat
  number : Nat
  self : Nat
  jobs : List Shell.Job
  latest : Option Nat
  traps : List (Nat × Octets)
  flow : Option Shell.Flow
  locals : List (List (String × Option Shell.Variable))
  speaker : Option Octets
  loops : Nat
  tested : Bool
  optionOffset : Nat
  lastCaptured : Option Nat
  mask : Nat
  dialect : Shell.Dialect
  switches : List String
  statuses : List Nat
  callers : List Shell.Frame
  origin : Octets
  nesting : Nat
  depth : Nat
  lastWord : Octets
  dirs : List Octets
  readers : List (Nat × List Shell.Command)
  began : Nat

abbrev Exec := StateM Shell

namespace Shell

def digits (n : Nat) : Octets := Nat.toDigits 10 n

def binding? (s : Shell) (name : String) : Option Variable := s.bindings.lookup name

def putVariable (s : Shell) (name : String) (v : Variable) : Shell :=
  { s with bindings := (name, v) :: s.bindings.filter (·.1 ≠ name) }

def dropVariable (s : Shell) (name : String) : Shell := { s with bindings := s.bindings.filter (·.1 ≠ name) }

def assign (s : Shell) (name : String) (text : Octets) : Shell :=
  let s := if name = "OPTIND" then { s with optionOffset := 0 } else s
  match s.binding? name with
  | some v => s.putVariable name (v.withValue text)
  | none => s.putVariable name (.plain (some text) (s.options.contains 'a') false)

def isReadonly (s : Shell) (name : String) : Bool := (s.binding? name).any Variable.readonly

def isRich (s : Shell) : Bool := s.dialect = .rich

def has (s : Shell) (option : Char) : Bool := s.options.contains option

def isOn (s : Shell) (name : String) : Bool :=
  match richOptions.lookup name with
  | some (some c) => s.has c
  | _ => s.switches.contains name

def optionsOn (s : Shell) (names : List String) : Octets := (":".intercalate (names.filter (isOn s))).toList

def given? (s : Shell) (name : String) : Option Octets :=
  match name with
  | "LINENO" => some (digits s.line)
  | "SECONDS" => some (digits ((s.world.clock - s.began) / tenTo 9))
  | "BASHPID" => some (digits s.self)
  | "BASH_SUBSHELL" => some (digits s.nesting)
  | "FUNCNAME" => (s.callers.head?.filter fun _ => s.callers.any Frame.isCall).map fun f => f.function.toList
  | "BASH_SOURCE" => s.callers.head?.map Frame.source
  | "BASH_LINENO" => s.callers.head?.map fun f => digits f.line
  | "PIPESTATUS" => s.statuses.head?.map digits
  | "RANDOM" => some (digits ((s.world.next * 1103515245 + s.line * 12345 + s.status) / 65536 % 32768))
  | "EPOCHSECONDS" => some (digits (s.world.clock / tenTo 9))
  | "SHELLOPTS" => some (optionsOn s (richOptions.map Prod.fst))
  | "BASHOPTS" => some (optionsOn s switchNames)
  | "_" => some s.lastWord
  | _ => none

def value? (s : Shell) (name : String) : Option Octets :=
  match name with
  | "?" => some (digits s.status)
  | "#" => some (digits s.positional.length)
  | "$" => some (digits s.number)
  | "!" => s.latest.map digits
  | "-" => some (if s.isRich then "abefhikmnprtuvxBCEHPTsc".toList.filter s.options.contains else s.options)
  | "0" => some s.name
  | _ =>
    if name.toList.all Char.isDigit then s.positional[valueIn 10 name.toList - 1]?
    else ((s.binding? name).bind Variable.value).or (if s.isRich then s.given? name else none)

def value (s : Shell) (name : String) : Octets := (s.value? name).getD []

def isWide (s : Shell) : Bool :=
  let chosen := (["LC_ALL", "LC_CTYPE", "LANG"].filterMap s.value?).find? fun text => !text.isEmpty
  s.isRich && chosen.any fun text => ["UTF-8", "utf8"].any fun e => e.toList.isSuffixOf text

def characters (s : Shell) (text : Octets) : List Octets :=
  if !s.isWide then text.map fun c => [c]
  else
    let goesOn (c : Char) : Bool := 128 ≤ c.toNat && c.toNat < 192
    let (found, behind) := text.foldr
      (fun c (found, behind) => if goesOn c then (found, c :: behind) else ((c :: behind) :: found, []))
      (([] : List Octets), ([] : Octets))
    behind.map (fun c => [c]) ++ found

def separators (s : Shell) : Octets := (s.value? "IFS").getD [' ', '\t', '\n']

/-- What programs that are started get to know. The rich shell keeps it in an order of its own. -/
def environment (s : Shell) : List (String × Octets) :=
  let known := s.bindings.filterMap fun (name, v) =>
    if v.exported ∧ v.row.isNone then v.value.map fun text => (name, text) else none
  if s.isRich then known.mergeSort fun a b => nameSlot a.1.toList ≤ nameSlot b.1.toList else known

def say (stream : Nat) (text : Octets) : Exec Bool := do
  let s ← get
  match s.streams.lookup stream with
  | none => return text.isEmpty
  | some n =>
    match s.world.say n text with
    | .ok w =>
      set { s with world := w }
      return true
    | .error _ => return false

def title (s : Shell) : Octets :=
  match s.callers with
  | f :: _ => if f.source.isEmpty then s.name else f.source
  | [] => s.name

def complain (text : Octets) : Exec Unit := do
  let s ← get
  let speaker := match s.speaker with
    | some name => name ++ ": ".toList
    | none => []
  let place : Octets := if s.isRich then "line ".toList ++ digits s.line else digits s.line
  let _ ← say 2 (s.title ++ ": ".toList ++ place ++ ": ".toList ++ speaker ++ text ++ ['\n'])

def setStatus (n : Nat) : Exec Unit := modify fun s => { s with status := n }

def finish (e : Ending) : Exec Unit := modify fun s => { s with flow := some (.ended e) }

def abandon (status : Nat) (text : Octets) : Exec Unit := do
  complain text
  setStatus status
  finish (.exited status)

/-- A message after which the rest of a line of the script is passed over, even if the text that is run is a part of
it. -/
def dropAll (text : Octets) : Exec Unit := do
  complain text
  setStatus 1
  if (← get).has 'c' then finish (.exited 1) else modify fun s => { s with flow := some .dropped }

def dropLine (text : Octets) : Exec Unit := do
  complain text
  setStatus 1
  modify fun s => { s with flow := some .dropped }

def isRunning : Exec Bool := do return (← get).flow.isNone

def checkTime : Exec Unit := do if (← get).world.isLate then finish .late

def assignOr (name : String) (text : Octets) : Exec Unit := do
  let s ← get
  if s.isReadonly name then
    if s.isRich then dropLine (name.toList ++ ": readonly variable".toList)
    else abandon 2 (name.toList ++ ": is read only".toList)
  else set (s.assign name text)

def statusOf : Ending → Nat
  | .exited n => n
  | .killed n => 128 + n
  | .late => 0

def signalNames : List (String × Nat) := [
  ("HUP", 1), ("INT", 2), ("QUIT", 3), ("ILL", 4), ("TRAP", 5), ("ABRT", 6), ("BUS", 7), ("FPE", 8), ("KILL", 9),
  ("USR1", 10), ("SEGV", 11), ("USR2", 12), ("PIPE", 13), ("ALRM", 14), ("TERM", 15), ("STKFLT", 16), ("CHLD", 17),
  ("CONT", 18), ("STOP", 19), ("TSTP", 20), ("TTIN", 21), ("TTOU", 22), ("URG", 23), ("XCPU", 24), ("XFSZ", 25),
  ("VTALRM", 26), ("PROF", 27), ("WINCH", 28), ("IO", 29), ("PWR", 30), ("SYS", 31)]

/-- The signal that a word names, by its number or its name; zero is the end of the shell. -/
def signal? (word : Octets) : Option Nat :=
  if word ≠ [] ∧ word.all Char.isDigit then some (valueIn 10 word)
  else
    let name := String.ofList (word.map Char.toUpper)
    if name = "EXIT" then some 0 else signalNames.lookup name

def isHarmless (n : Nat) : Bool := n = 0 || n = 17 || n = 18 || n = 23 || n = 28

def signalWords (n : Nat) : Option Octets :=
  ([(1, "Hangup"), (3, "Quit"), (4, "Illegal instruction"), (5, "Trace/breakpoint trap"), (6, "Aborted"),
    (7, "Bus error"), (8, "Floating point exception"), (9, "Killed"), (10, "User defined signal 1"),
    (11, "Segmentation fault"), (12, "User defined signal 2"), (14, "Alarm clock"), (15, "Terminated"),
    (16, "Stack fault"), (24, "CPU time limit exceeded"), (25, "File size limit exceeded"),
    (26, "Virtual timer expired"), (27, "Profiling timer expired"), (29, "I/O possible"), (30, "Power failure"),
    (31, "Bad system call")].lookup n).map String.toList

end Shell
end PassDelta.Machine
