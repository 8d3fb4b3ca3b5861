import PassDelta.Machine.Shell.Lookup
/-!
# Processes of a shell

What a shell needs to run commands beside the commands themselves: processes of its own, pipelines, loops, programs
that are started, and texts that are read line by line.
-/

namespace PassDelta.Machine.Shell

def patience : Nat := 100000

def maxDepth : Nat := 10000

/-- How a shell ends in which commands nest deeper than that: its stack is used up. -/
def overflow : Ending := .killed 11

def testing (act : Exec Unit) : Exec Unit := do
  let old := (← get).tested
  modify fun s => { s with tested := true }
  act
  modify fun s => { s with tested := old }

def checkFailure : Exec Unit := do
  let s ← get
  if s.status ≠ 0 ∧ s.has 'e' ∧ !s.tested ∧ s.flow.isNone then finish (.exited s.status)

/-- Runs commands one after another; the last one may be the last of the process. -/
def inTurn (run : Bool → Command → Exec Unit) (final : Bool) : List Command → Exec Unit
  | [] => pure ()
  | [c] => do if ← isRunning then run final c
  | c :: rest => do
    if ← isRunning then run false c
    inTurn run final rest

def inSubshell (act : Exec Unit) : Exec Ending := do
  let s ← get
  let stays (t : Nat × Octets) : Bool := t.2.isEmpty && t.1 ≠ 0 || t.1 = 66 && s.has 'E'
  let inner : Shell := { s with
    self := s.world.next, world := { s.world with next := s.world.next + 1 }, jobs := []
    traps := s.traps.filter stays, nesting := s.nesting + 1 }
  let (_, done) := act.run inner
  set { s with world := done.world }
  return match done.flow with
    | some (.ended e) => e
    | _ => .exited done.status

def heedEnding (tells : Bool) (e : Ending) : Exec Unit := do
  setStatus (statusOf e)
  match e with
  | .late => finish .late
  | .killed n =>
    if tells then
      match signalWords n with
      | some text => if (← get).isRich then complain text else let _ ← say 2 (text ++ ['\n'])
      | none => pure ()
  | .exited _ => pure ()
  checkTime

/-- Whether a loop goes on after one of its parts, and what is left to be done about it by outer loops. -/
def loopGoesOn : Exec Bool := do
  let s ← get
  match s.flow with
  | none => return true
  | some (.leave n) =>
    set { s with flow := if 1 < n then some (.leave (n - 1)) else none }
    return false
  | some (.again n) =>
    set { s with flow := if 1 < n then some (.again (n - 1)) else none }
    return n ≤ 1
  | some _ => return false

/-- Repeats a turn as long as it asks for it. Each turn gets the status that the one before left. -/
def repeating (turn : Nat → Exec (Bool × Nat)) : Nat → Nat → Exec Unit
  | 0, _ => finish .late
  | fuel + 1, last => do
    let (goesOn, last) ← turn last
    if goesOn then repeating turn fuel last

def inLoop (act : Exec Unit) : Exec Unit := do
  modify fun s => { s with loops := s.loops + 1 }
  act
  modify fun s => { s with loops := s.loops - 1 }

/-- Runs the parts of a pipeline, all of them from the same time on, each reading what the one before wrote. Tells how
they ended, the last one first. -/
def pipe (run : Command → Exec Unit) : List Command → Nat → Nat → Option Nat → List Ending → Exec (List Ending)
  | [], _, _, _, done => return done
  | c :: rest, start, latest, input, done => do
    let s ← get
    let (out, w) := { s.world with clock := start }.addChannel (.sink [] !rest.isEmpty)
    set { s with world := w }
    let e ← inSubshell do
      modify fun s => match input with
        | some n => bind s 0 (some n)
        | none => s
      if !rest.isEmpty then modify fun s => bind s 1 (some out)
      run c
    let s ← get
    let latest := max latest s.world.clock
    set { s with world := s.world.setChannel out (.source (s.world.written out) s.world.clock) }
    if rest.isEmpty ∨ e = .late then
      modify fun s => { s with world := s.world.waitUntil latest }
      return e :: done
    else pipe run rest start latest (some out) (e :: done)

/-- How a pipeline ended by how its parts did, the last one first: as the last one, or as the last one that failed. -/
def pipeEnding (s : Shell) (es : List Ending) : Ending :=
  let last := es.headD (.exited 0)
  if s.switches.contains "pipefail" then (es.find? fun e => statusOf e ≠ 0).getD last else last

def withVariables (values : List (String × Octets)) (act : Exec Unit) : Exec Unit := do
  let old := values.map fun v => v.1
  let s ← get
  let kept := old.map fun name => (name, s.binding? name)
  for (name, text) in values do
    assignOr name text
    modify fun s => s.putVariable name { (s.binding? name).getD (.plain (some text) true false) with exported := true }
  if ← isRunning then act
  modify fun s => kept.foldl (fun s (name, v) => match v with
    | some v => s.putVariable name v
    | none => s.dropVariable name) s

def deliverReply (name : Octets) (r : Reply) : Exec Unit := do
  if ← say 1 r.out then setStatus r.status
  else
    let s ← get
    if s.isRich then complain "write error: Bad file descriptor".toList else complain (name ++ ": I/O error".toList)
    setStatus 1

def speaking (name : Octets) (act : Exec Unit) : Exec Unit := do
  let old := (← get).speaker
  modify fun s => { s with speaker := some name }
  act
  modify fun s => { s with speaker := old }

def startFailure (s : Shell) (name : Octets) (e : IoError) : Octets × Nat :=
  if !s.isRich then
    (name ++ ": ".toList ++ pathWords (if name.isEmpty then .eacces else e) "not found",
      if e = .enoent ∨ e = .enotdir ∨ e = .enametoolong ∨ e = .eloop then 127 else 126)
  else
    let place? := (s.world.tree.find s.here ⟨bytesOf name⟩).toOption
    let contents := match place?.bind s.world.tree.entry? with
      | some (.file contents mode) => if Entry.startable mode then octets contents else []
      | _ => []
    let told (text : String) : Octets := name ++ ": ".toList ++ text.toList
    if !name.contains '/' ∧ e = .enoent then (told "command not found", 127)
    else if place?.any s.world.tree.isDir then (told "Is a directory", 126)
    else if e = .enoent ∧ place?.isSome then (told "cannot execute: required file not found", 127)
    else if e = .eacces ∧ "#!".toList.isPrefixOf contents then
      let line := (contents.drop 2).takeWhile (· ≠ '\n')
      let program := (line.dropWhile fun c => c = ' ' || c = '\t').takeWhile fun c => c ≠ ' ' && c ≠ '\t'
      (told "" ++ program ++ ": bad interpreter: Permission denied".toList, 126)
    else if e = .enoexec then (told "cannot execute binary file: Exec format error", 126)
    else (name ++ ": ".toList ++ octetsOfText e.words, if e = .enoent then 127 else 126)

def isBinary? (s : Shell) (path : Octets) : Bool :=
  match s.world.tree.readBytes s.here ⟨bytesOf path⟩ with
  | .ok contents => ((octets (contents.take 80)).takeWhile (· ≠ '\n')).contains (Char.ofNat 0)
  | .error _ => false

/-- Starts a program with the streams and the environment of the shell. A file that the system does not know how to
start is run as a script. -/
def start (spawn : Spawn) (name : Octets) (args : List Octets) : Exec (Except IoError Ending) := do
  let s ← get
  if !name.contains '/' ∧ (searchPath s name).isNone then return .error .enoent
  let path := (searchPath s name).getD name
  let environment :=
    if s.isRich then (s.environment.filter fun v => v.1 ≠ "_") ++ [("_", path)] else s.environment
  let call : Call := ⟨name, args, s.here, environment, s.streams, s.mask⟩
  let (r, w) := spawn s.world call
  match r with
  | .error e =>
    if e = .enoexec ∧ !(s.isRich ∧ isBinary? s path) then
      let shell := if s.isRich then "/bin/bash" else "/bin/sh"
      let (r, w) := spawn w { call with name := shell.toList, args := path :: args }
      set { s with world := w }
      return r
    else
      set { s with world := w }
      return .error e
  | .ok e =>
    set { s with world := w }
    return .ok e

def yieldLevel : Exec Unit := modify fun s =>
  match s.isRich, s.value? "SHLVL" with
  | true, some n => s.assign "SHLVL" (digits (valueIn 10 n - 1))
  | _, _ => s

def runProgram (spawn : Spawn) (final : Bool) (name : Octets) (args : List Octets) : Exec Unit := do
  let ends := final && (← get).traps.isEmpty
  if ends then yieldLevel
  match ← start spawn name args with
  | .ok e => if ends then finish e else heedEnding true e
  | .error e =>
    let (text, status) := startFailure (← get) name e
    complain text
    setStatus status

def replace (spawn : Spawn) (name : Octets) (args : List Octets) : Exec Unit := do
  yieldLevel
  match ← start spawn name args with
  | .ok e =>
    modify fun s => { s with traps := [] }
    finish e
  | .error e =>
    let s ← get
    if !s.isRich then
      let (text, status) := startFailure s name e
      abandon status text
    else
      let (text, status) := startFailure s name e
      if !name.contains '/' ∧ e = .enoent then complain (name ++ ": not found".toList)
      else
        modify fun s => { s with speaker := none }
        complain text
      setStatus status
      if !s.switches.contains "execfail" then finish (.exited status)

def heedDeadly : Exec Unit := do
  let s ← get
  let deadly (n : Nat) : Bool := n = 9 || (!isHarmless n && (s.traps.lookup n).isNone)
  match s.world.signals.find? fun x => x.1 = s.self && deadly x.2 with
  | some (_, n) => finish (.killed n)
  | none => pure ()

/-- The file that a script is read from: at its path, or on the search path. The rich shell also looks where it is. -/
def sourceText (s : Shell) (file : Octets) : Except Octets (Octets × Octets) :=
  let contents? (path : Octets) : Except IoError Bytes := s.world.tree.readBytes s.here ⟨bytesOf path⟩
  let told (e : IoError) : Octets :=
    if !s.isRich then "cannot open ".toList ++ file ++ ": ".toList ++ pathWords e "No such file"
    else if e = .eisdir then ".: ".toList ++ file ++ ": is a directory".toList
    else file ++ ": ".toList ++ octetsOfText e.words
  let at_ (path : Octets) : Except Octets (Octets × Octets) :=
    match contents? path with
    | .ok contents => .ok (path, octets contents)
    | .error e => .error (told e)
  if file.contains '/' then at_ file
  else
    let dirs := ((s.value? "PATH").getD []).splitOn ':'
    match dirs.findSome? fun dir =>
      let path := if dir.isEmpty then file else dir ++ ['/'] ++ file
      (contents? path).toOption.map fun contents => (path, octets contents) with
    | some found => .ok found
    | none => if s.isRich then at_ file else .error (file ++ ": not found".toList)

def manner (s : Shell) : Manner :=
  ⟨s.dialect, s.isRich && s.switches.contains "extglob", s.isWide,
    if !s.isRich ∨ s.switches.contains "expand_aliases" then s.aliases else []⟩

/-- Tells what is wrong with the form of a text whose first line has a number. -/
def blame (whole : Octets) (first : Nat) (f : Fault) : Exec Unit := do
  modify fun s => { s with line := f.line }
  let s ← get
  if !s.isRich then abandon 2 f.texts.flatten
  else
    let place := s.title ++ ": ".toList ++ s.origin ++ "line ".toList ++ digits f.line ++ ": ".toList
    let source := ((whole.splitOn '\n')[f.line - first]?).getD []
    for text in f.texts ++ (if f.quotes then [['`'] ++ source ++ ['\'']] else []) do
      let _ ← say 2 (place ++ text ++ ['\n'])
    setStatus 2

def tellWarnings (scan : Scan) : Exec Unit := do
  for (line, text) in scan.warnings.reverse do
    let s ← get
    let _ ← say 2 (s.title ++ ": line ".toList ++ digits line ++ ": ".toList ++ text ++ ['\n'])

/-- Runs a script one complete command at a time, so that what it changes in the reading counts for the next one. One
without commands succeeds. -/
def eachLine (run : Bool → List Command → Exec Unit) (whole : Octets) (first : Nat) : Nat → Bool → Scan → Exec Unit
  | 0, _, _ => pure ()
  | fuel + 1, began, scan => do
    if ← isRunning then
      match Parse.complete.run { scan with manner := manner (← get) } with
      | .error f => blame whole first f
      | .ok (none, after) =>
        tellWarnings after
        if !began then setStatus 0
      | .ok (some commands, after) =>
        tellWarnings after
        run after.rest.isEmpty commands
        modify fun s => if s.flow = some .dropped ∧ s.nesting = 0 then { s with flow := none } else s
        eachLine run whole first fuel true { after with warnings := [] }

end PassDelta.Machine.Shell
