import PassDelta.Machine.Spawn
import PassDelta.Session
/-!
# Worlds as hosts

A world with its programs and devices, how a command runs in it within a limit, and the world as a host for
sessions.
-/

namespace PassDelta.Machine
namespace World

def programDirs : List Place := [["bin"], ["usr", "bin"]].map fun names => names.map Text.encode

def devices : List (List String × Device) := [
  (["dev", "null"], .null), (["dev", "zero"], .zero), (["dev", "full"], .full), (["dev", "stdin"], .stream 0),
  (["dev", "stdout"], .stream 1), (["dev", "stderr"], .stream 2), (["dev", "fd", "0"], .stream 0),
  (["dev", "fd", "1"], .stream 1), (["dev", "fd", "2"], .stream 2), (["dev", "fd", "3"], .stream 3),
  (["dev", "fd", "4"], .stream 4)]

def usualDirs : List (List String) :=
  [["dev", "fd"], ["tmp"], ["etc"], ["home"], ["opt"], ["proc"], ["root"], ["sbin"], ["sys"], ["lib"], ["usr", "lib"],
    ["usr", "local", "bin"], ["usr", "sbin"], ["usr", "share"], ["var", "tmp"]]

def fresh (here : Place) : World :=
  let dirs : List Place := programDirs ++ usualDirs.map fun names => names.map Text.encode
  let bare := dirs.foldl Tree.putDirs ⟨[]⟩
  let programs := programDirs.flatMap fun dir =>
    programNames.map fun name => (dir ++ [Text.encode name], Entry.program name)
  let special := devices.map fun d => (d.1.map Text.encode, Entry.device d.2)
  { tree := Tree.putDirs ⟨bare.entries ++ special ++ programs⟩ here
    here := here, environment := [("PATH", "/usr/bin:/bin".toList)], clock := 0, deadline := none, channels := [],
    next := firstNumber, signals := [] }

def entryAt (w : World) (p : Path) : Except IoError Entry := do
  let place ← w.tree.find w.here p
  return (w.tree.entry? place).getD (.dir Entry.dirMode)

def isProgram (w : World) (p : Path) : Bool :=
  match w.entryAt p with
  | .ok e => e.isProgram
  | .error _ => false

def search (w : World) (name : Path) : Option Path :=
  let dirs := (searchDirs w.environment).map fun dir => (⟨bytesOf dir⟩ : Path)
  (dirs.map fun dir => dir / name).find? w.isProgram

def locate (w : World) (program : String) : Option Path :=
  let p := Path.ofString program
  if 1 < p.components.length then
    let full : Path := if p.isAbsolute then p else w.root / p
    if w.isProgram full then some full else none
  else if p.bytes = [] then none
  else w.search p

def maxSpawnDepth : Nat := 64

def leastDuration : Duration := ⟨100000⟩

def statusWord : Ending → Option WaitStatus
  | .exited n => some (.exited n)
  | .killed n => some (.killed n)
  | .late => none

/-- What is asked of the system for a command, with three channels of its own. -/
def call (w : World) (c : Command) : Call :=
  ⟨octetsOfText c.program, c.arguments.map octets, w.here, w.environment,
    [(0, w.next), (1, w.next + 1), (2, w.next + 2)], Call.usualMask⟩

def opened (w : World) (limit : Option Duration) : World :=
  let channels : List Channel := [.device .null, .sink [] false, .sink [] false]
  let ready := channels.foldl (fun v channel => (v.addChannel channel).2) w
  { ready with deadline := limit.map fun d => w.clock + d.nanos }

def closed (w : World) : World := { w.dropChannels firstNumber with deadline := none, signals := [] }

/-- What a program that was started in the world `w` comes to, by its end and the world it leaves. -/
def completion (w : World) (limit : Option Duration) (ending : Ending) (after : World) : Except IoError Completion :=
  let elapsed : Duration := ⟨after.clock - w.clock⟩
  let text (n : Nat) : Bytes := bytesOf ((after.written n).map Prod.snd).flatten
  let met := limit.filter fun d => d.nanos ≤ elapsed.nanos + leastDuration.nanos
  match statusWord ending, met with
  | some status, none => .ok ⟨status, text (w.next + 1), text (w.next + 2), elapsed⟩
  | _, _ =>
    let words := "process did not exit" ++ (limit.map fun d => " within " ++ d.exact).getD ""
    .error (.custom .timedOut words)

/-- Runs a program within its limit. The limit is for the program alone; its output is complete when all that were
started by it have ended. -/
def execute (w : World) (c : Command) : Except IoError Completion × World :=
  let (answer, after) := spawn maxSpawnDepth (w.opened c.limit.span) (w.call c)
  (answer.bind fun ending => w.completion c.limit.span ending after, after.closed)

def host : Host World where
  isPresent w p := w.tree.isPresent w.here p
  createDir w p := let (r, t) := w.tree.createDir w.here p Entry.dirMode; (r, { w with tree := t })
  read w p := w.tree.readText w.here p
  write w p contents :=
    match w.tree.writeFile w.here p contents Entry.fileMode with
    | .ok t => (.ok (), { w with tree := t })
    | .error e => (.error e, w)
  execute := execute
  locate := locate
  enforcesDeadlines := true
  console _ := .shown
  wording _ := "<toml syntax error>"

end World
end PassDelta.Machine
