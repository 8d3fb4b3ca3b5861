import PassDelta.Machine.Records.State
import PassDelta.Machine.Records.Token
/-!
# Records in and out

Where records come from and where output goes: the files among the operands, files and commands that are read, and
files and commands that are written. Output waits until something is started that could say more on the same
channel.
-/

namespace PassDelta.Machine.Records
namespace Run

def nameOfInput : Octets := "/dev/stdin".toList

def nameOfOutput : Octets := "/dev/stdout".toList

def nameOfErrors : Octets := "/dev/stderr".toList

def heedTime : Run Unit := do if (← get).world.isLate then throw .late

def deliver (channel : Option Nat) (name text : Octets) : Run Unit := do
  let s ← get
  let written := match channel with
    | some n => s.world.say n text
    | none => if text.isEmpty then .ok s.world else .error .ebadf
  match written with
  | .ok w => set { s with world := w }
  | .error e =>
    throw (.failed ("close failed on file \"".toList ++ name ++ "\" (".toList ++ octetsOfText e.words ++ [')']))

def flushOutput : Run Unit := do
  let s ← get
  let text := s.said.reverse.flatten
  set { s with said := [], saidSize := 0 }
  deliver (s.call.streams.lookup 1) nameOfOutput text

def roomForOutput : Nat := 4096

def say (text : Octets) : Run Unit := do
  modify fun s => { s with said := text :: s.said, saidSize := s.saidSize + text.length }
  if roomForOutput < (← get).saidSize then flushOutput

def complain (text : Octets) : Run Unit := do
  let s ← get
  match (s.call.streams.lookup 2).map fun n => s.world.say n text with
  | some (.ok w) => set { s with world := w }
  | _ => pure ()

def flushFiles : Run Unit := do
  for sink in (← get).sinks do
    match sink.channel with
    | some n =>
      deliver (some n) sink.name sink.waiting.reverse.flatten
      modify fun s => { s with
        sinks := s.sinks.map fun k => if k.name = sink.name ∧ k.channel.isSome then { k with waiting := [] } else k }
    | none => pure ()

def flushAll : Run Unit := do
  flushOutput
  flushFiles

/-- The status of a process as a number; one above those of exits for a signal. -/
def statusOf : Ending → Nat
  | .exited n => n
  | .killed n => 256 + n
  | .late => 0

def runCommand (spawn : Spawn) (shell : String) (command : Octets) (streams : List (Nat × Nat)) : Run Nat := do
  let s ← get
  let call : Call := { s.call with name := shell.toList, args := ["-c".toList, command], streams := streams }
  let (answer, w) := spawn s.world call
  set { s with world := w }
  heedTime
  match answer with
  | .ok .late => throw .late
  | .ok e => return statusOf e
  | .error _ => return 127

def feedCommand (spawn : Spawn) (command text : Octets) : Run Nat := do
  let s ← get
  let (n, w) := s.world.addChannel (.source [(s.world.clock, text)] s.world.clock)
  set { s with world := w }
  runCommand spawn "/bin/sh" command ((0, n) :: s.call.streams.filter (·.1 ≠ 0))

def readCommand (spawn : Spawn) (command : Octets) : Run (Octets × Nat) := do
  flushAll
  let s ← get
  let (n, w) := s.world.addChannel (.sink [] false)
  set { s with world := w }
  let status ← runCommand spawn "/bin/sh" command ((1, n) :: s.call.streams.filter (·.1 ≠ 1))
  let parts := (← get).world.written n
  return ((parts.map Prod.snd).flatten, status)

def openSink (name : Octets) (appends : Bool) : Run Sink := do
  let s ← get
  let cannot {α : Type} (e : IoError) : Run α :=
    throw (.failed ("cannot open \"".toList ++ name ++ "\" for output (".toList ++ octetsOfText e.words ++ [')']))
  match s.world.tree.target s.call.here ⟨bytesOf name⟩ with
  | .error e => cannot e
  | .ok place =>
    let tree := s.world.tree
    let fresh (mode : Nat) : Tree := tree.put place (.file [] mode)
    let (tree, channel) : Tree × Channel := match tree.entry? place with
      | some (.file _ mode) => (if appends then tree else fresh mode, .file place 0 appends false true)
      | some (.device (.stream n)) => (tree, ((s.call.streams.lookup n).map s.world.channel).getD (.device .null))
      | some (.device d) => (tree, .device d)
      | _ => (fresh (granted s.call.mask 0o666), .file place 0 appends false true)
    let (n, w) := { s.world with tree := tree }.addChannel channel
    set { s with world := w }
    return ⟨name, some n, []⟩

def sayTo (arrow : Arrow) (name text : Octets) : Run Unit := do
  if arrow ≠ .command ∧ name = nameOfOutput then say text
  else if arrow ≠ .command ∧ name = nameOfErrors then complain text
  else
    let isCommand := arrow = .command
    let mine (k : Sink) : Bool := k.name = name && k.channel.isNone = isCommand
    let sink ← match (← get).sinks.find? mine with
      | some k => pure k
      | none =>
        if isCommand then
          flushAll
          pure ⟨name, none, []⟩
        else openSink name (arrow = .append)
    modify fun s => { s with
      sinks := { sink with waiting := text :: sink.waiting } :: s.sinks.filter fun k => !mine k }

def closeSink (spawn : Spawn) (k : Sink) : Run Nat := do
  let text := k.waiting.reverse.flatten
  match k.channel with
  | some n =>
    deliver (some n) k.name text
    return 0
  | none => feedCommand spawn k.name text

def close (spawn : Spawn) (name : Octets) : Run Int := do
  let s ← get
  let mySinks := s.sinks.filter (·.name = name)
  let mySources := s.sources.filter (·.name = name)
  set { s with sinks := s.sinks.filter (·.name ≠ name), sources := s.sources.filter (·.name ≠ name) }
  let mut status : Int := -1
  for k in mySources do status := k.status
  for k in mySinks do status := (← closeSink spawn k)
  return status

def closeAll (spawn : Spawn) : Run Unit := do
  let sinks := (← get).sinks
  modify fun s => { s with sinks := [] }
  for k in sinks do
    if k.channel.isSome then
      let _ ← closeSink spawn k
  for k in sinks do
    if k.channel.isNone then
      let _ ← closeSink spawn k
  flushOutput

inductive Terminator where
  | octet (c : Char)
  | blankLines
  | pattern (r : Regex)

def terminator : Run Terminator := do
  match ← text (← scalar "RS") with
  | [] => return .blankLines
  | [c] => return .octet c
  | cs => match Pattern.read cs with
    | .ok r => return .pattern r
    | .error e => throw (.fault (badPattern e cs))

/-- The text before the first empty line, and what follows all the empty ones. -/
def paragraph : Octets → Octets × Octets
  | [] => ([], [])
  | '\n' :: rest =>
    match rest with
    | [] => ([], [])
    | '\n' :: _ => ([], rest.dropWhile (· = '\n'))
    | _ => let (body, after) := paragraph rest; ('\n' :: body, after)
  | c :: rest => let (body, after) := paragraph rest; (c :: body, after)

def Terminator.take (t : Terminator) (cs : Octets) : Option (Octets × Octets) :=
  match t with
  | .octet c => if cs.isEmpty then none else
    let body := cs.takeWhile (· ≠ c)
    some (body, cs.drop (body.length + 1))
  | .blankLines =>
    let cs := cs.dropWhile (· = '\n')
    if cs.isEmpty then none else some (paragraph cs)
  | .pattern r =>
    if cs.isEmpty then none
    else match firstFull r (cs.length + 1) none [] cs with
      | some (before, _, after) => some (before, after)
      | none => some (cs, [])

/-- The text of a file that is read, or why there is none. A directory can be opened but not read. -/
def fileText (name : Octets) : Run (Option Octets × IoError) := do
  let s ← get
  let fromInput : Run (Option Octets × IoError) := do
    match s.call.streams.lookup 0 with
    | some n =>
      let (text, w) := s.world.readAll n
      set { s with world := w }
      heedTime
      return (some text, .enoent)
    | none => return (none, .ebadf)
  if name = nameOfInput ∨ name = ['-'] then fromInput
  else match s.world.tree.find s.call.here ⟨bytesOf name⟩ with
    | .error e => return (none, e)
    | .ok place =>
      match s.world.tree.entry? place with
      | some (.file contents _) => return (some (octets contents), .enoent)
      | some (.dir _) =>
        throw (.failed "read error (Is a directory)".toList)
      | some (.device (.stream 0)) => fromInput
      | some (.device .zero) => return (some (List.replicate World.plenty (Char.ofNat 0)), .enoent)
      | _ => return (some [], .enoent)

def sourceOf? (spawn : Spawn) (isCommand : Bool) (name : Octets) : Run (Option Source) := do
  match (← get).sources.find? fun k => k.name = name && k.isCommand = isCommand with
  | some k => return some k
  | none =>
    if isCommand then
      let (text, status) ← readCommand spawn name
      return some ⟨name, true, text, status⟩
    else
      match ← fileText name with
      | (some text, _) => return some ⟨name, false, text, 0⟩
      | (none, _) => return none

def recordOf (k : Source) : Run (Option Octets) := do
  let t ← terminator
  let (found, rest) := match t.take k.rest with
    | some (body, rest) => (some body, rest)
    | none => (none, [])
  modify fun s => { s with
    sources := { k with rest := rest } :: s.sources.filter fun x => x.name ≠ k.name || x.isCommand ≠ k.isCommand }
  return found

def assignedOperand? (word : Octets) : Option (String × Octets) :=
  match word.span (· ≠ '=') with
  | (name, _ :: value) =>
    if name.head?.any isNameStart ∧ name.all isNameChar then some (String.ofList name, value) else none
  | _ => none

def unescaped (cs : Octets) : Octets := ((scanText (2 * cs.length + 2) (quotedAgain cs)).map Prod.fst).getD cs
where
  quotedAgain (cs : Octets) : Octets := cs.flatMap (fun c => if c = '"' then ['\\', '"'] else if c = '\n' then "\\n".toList
    else [c]) ++ ['"']

def assign (x : String) (value : Octets) : Run Unit := do
  if statementWords.contains x ∨ (builtinArity.lookup x).isSome ∨ (← get).program.functions.any (·.name = x) then
    throw (.fault ("cannot command line assign to " ++ x ++ "\n\ttype clash or keyword").toList)
  setGlobal x (.given (unescaped value))

/-- Opens the next file among the operands, or the input when there is none. False when all were read. -/
def openNext (fuel : Nat) : Run Bool :=
  match fuel with
  | 0 => return false
  | fuel + 1 => do
    let s ← get
    let count := ((← scalar "ARGC").toNumber).toInt.toNat
    if count ≤ s.operand then
      if s.input.isSome then return false
      set { s with input := some nameOfInput }
      return true
    let arguments ← table (s.globals["ARGV"]?.getD 0)
    let word ← text ((arguments.value? (.number s.operand)).getD .unset)
    set { s with operand := s.operand + 1 }
    if word.isEmpty then openNext fuel
    else match assignedOperand? word with
      | some (x, value) =>
        assign x value
        openNext fuel
      | none =>
        modify fun s => { s with input := some (if word = ['-'] then nameOfInput else word) }
        if word ≠ ['-'] ∧ word ≠ nameOfInput then setScalar "FILENAME" (.text word)
        setScalar "FNR" (.ofNat 0)
        return true

def maxFiles : Nat := 10000

def nextRecord (spawn : Spawn) (fuel : Nat) : Run (Option Octets) :=
  match fuel with
  | 0 => return none
  | fuel + 1 => do
    match (← get).input with
    | none => if ← openNext maxFiles then nextRecord spawn fuel else return none
    | some name =>
      match (← get).sources.find? fun k => k.name = name && !k.isCommand with
      | some k =>
        match ← recordOf k with
        | some r => return some r
        | none =>
          if !(← openNext maxFiles) then return none
          if name ≠ nameOfInput then modify fun s => { s with sources := s.sources.filter (·.name ≠ name) }
          nextRecord spawn fuel
      | none =>
        match ← fileText name with
        | (some text, _) =>
          modify fun s => { s with sources := ⟨name, false, text, 0⟩ :: s.sources }
          nextRecord spawn fuel
        | (none, e) =>
          throw (.failed ("cannot open \"".toList ++ name ++ "\" (".toList ++ octetsOfText e.words ++ [')']))

def countRecord : Run Unit := do
  setScalar "NR" (.number ((← scalar "NR").toNumber.add (.ofNat 1)))
  setScalar "FNR" (.number ((← scalar "FNR").toNumber.add (.ofNat 1)))

end Run
end PassDelta.Machine.Records
