import PassDelta.Duration
import PassDelta.Machine.Octets
import PassDelta.Machine.Tree
/-!
# Worlds

A tree, the channels that processes read and write, and a clock that only waiting moves. What is written to a
channel is kept with the time of the writing, so that the output of processes that run side by side can be put in
order, and a reader of it waits until it was written.
-/

namespace PassDelta.Machine

inductive Channel where
  /-- Takes what is written; kept latest first. One that is read while it is written ends its writers. -/
  | sink (written : List (Nat × Octets)) (isPipe : Bool)
  /-- Offers text, each part from a time on, and has no more from another time on. -/
  | source (offered : List (Nat × Octets)) (ends : Nat)
  | file (place : Place) (position : Nat) (appends reads writes : Bool)
  | device (d : Device)
  deriving DecidableEq, Repr

/-- The clock and the deadline count nanoseconds. `next` numbers channels and processes; the signals that were sent
wait with the numbers of their receivers. -/
structure World where
  tree : Tree
  here : Place
  environment : List (String × Octets)
  clock : Nat
  deadline : Option Nat
  channels : List (Nat × Channel)
  next : Nat
  signals : List (Nat × Nat)
  deriving DecidableEq, Repr

def World.firstNumber : Nat := 4242

inductive Ending where
  | exited (status : Nat)
  | killed (signal : Nat)
  | late
  deriving DecidableEq, Repr

/-- A program to be started: its name and arguments, where it works, its environment, the channels of its streams,
and the permissions that it keeps from what it makes. -/
structure Call where
  name : Octets
  args : List Octets
  here : Place
  environment : List (String × Octets)
  streams : List (Nat × Nat)
  mask : Nat
  deriving DecidableEq, Repr

def Call.usualMask : Nat := 0o022

def granted (mask bits : Nat) : Nat := bits - Nat.land bits mask

abbrev Spawn := World → Call → Except IoError Ending × World

namespace World

def root (w : World) : Path := ⟨w.here.flatMap (Path.slash :: ·)⟩

/-- Puts an entry below the working directory, with the directories on the way. -/
def install (w : World) (p : Path) (e : Entry) : World :=
  let place := w.here ++ p.segments.filter (· ≠ [])
  { w with tree := (w.tree.putDirs place.dropLast).put place e }

def files (w : World) : List (Path × Bytes) :=
  (w.tree.filesBelow w.here).map fun f => (⟨[Path.slash].intercalate f.1⟩, f.2)

def dirs (w : World) : List Path :=
  w.tree.entries.filterMap fun (place, e) =>
    if e.isDir ∧ w.here.isPrefixOf place ∧ place ≠ w.here then
      some ⟨[Path.slash].intercalate (place.drop w.here.length)⟩
    else none

def changes (before after : World) : List (Path × Bytes) :=
  after.files.filter fun f => before.files.lookup f.1 ≠ some f.2

def losses (before after : World) : List Path :=
  (before.files.filter fun f => (after.files.lookup f.1).isNone).map Prod.fst

def never : Nat := tenTo 30

def isLate (w : World) : Bool := w.deadline.any (· ≤ w.clock)

def wait (w : World) (span : Nat) : World := { w with clock := w.clock + span }

def waitUntil (w : World) (time : Nat) : World := { w with clock := max w.clock time }

def channel (w : World) (n : Nat) : Channel := (w.channels.lookup n).getD (.device .null)

def setChannel (w : World) (n : Nat) (c : Channel) : World :=
  { w with channels := (n, c) :: w.channels.filter (·.1 ≠ n) }

def addChannel (w : World) (c : Channel) : Nat × World :=
  (w.next, { w with channels := (w.next, c) :: w.channels, next := w.next + 1 })

def dropChannels (w : World) (n : Nat) : World := { w with channels := w.channels.filter (·.1 < n) }

def inOrder (written : List (Nat × Octets)) : List (Nat × Octets) :=
  written.reverse.mergeSort fun a b => a.1 ≤ b.1

def written (w : World) (n : Nat) : List (Nat × Octets) :=
  match w.channel n with
  | .sink parts _ => inOrder parts
  | _ => []

def contentsAt (w : World) (place : Place) : Bytes :=
  match w.tree.entry? place with
  | some (.file contents _) => contents
  | _ => []

/-- Contents with bytes written over them from a position on; what lies between is zero. -/
def overwrite (contents : Bytes) (position : Nat) (bytes : Bytes) : Bytes :=
  contents.take position ++ List.replicate (position - contents.length) 0 ++ bytes ++
    contents.drop (position + bytes.length)

def say (w : World) (n : Nat) (text : Octets) : Except IoError World :=
  if text.isEmpty then .ok w
  else match w.channel n with
    | .sink parts isPipe => .ok (w.setChannel n (.sink ((w.clock, text) :: parts) isPipe))
    | .source .. => .error .ebadf
    | .device .full => .error .enospc
    | .device _ => .ok w
    | .file _ _ _ _ false => .error .ebadf
    | .file place position appends reads true =>
      match w.tree.entry? place with
      | some (.file contents mode) =>
        let start := if appends then contents.length else position
        let tree := w.tree.put place (.file (overwrite contents start (bytesOf text)) mode)
        .ok ({ w with tree := tree }.setChannel n (.file place (start + text.length) appends reads true))
      | _ => .ok w

def plenty : Nat := 1048576

def rest (w : World) (n : Nat) : Octets :=
  match w.channel n with
  | .source offered _ => (offered.map Prod.snd).flatten
  | .file place position _ true _ => octets ((w.contentsAt place).drop position)
  | .device .zero => List.replicate plenty (Char.ofNat 0)
  | .device .full => List.replicate plenty (Char.ofNat 0)
  | _ => []

def skipOffered : Nat → Nat → List (Nat × Octets) → Nat × List (Nat × Octets)
  | _, latest, [] => (latest, [])
  | count, latest, (time, text) :: more =>
    if count = 0 then (latest, (time, text) :: more)
    else if count < text.length then (max latest time, (time, text.drop count) :: more)
    else skipOffered (count - text.length) (max latest time) more

/-- Takes `count` octets out of a channel, waiting for them; `toEnd` waits for the end as well. -/
def advance (w : World) (n count : Nat) (toEnd : Bool) : World :=
  match w.channel n with
  | .source offered ends =>
    let (latest, left) := skipOffered count 0 offered
    (w.setChannel n (.source left ends)).waitUntil (if toEnd then max latest ends else latest)
  | .file place position appends reads writes => w.setChannel n (.file place (position + count) appends reads writes)
  | _ => w

def readAll (w : World) (n : Nat) : Octets × World :=
  let text := w.rest n
  (text, w.advance n text.length true)

def readLine (w : World) (n : Nat) : Octets × World :=
  let text := w.rest n
  let line := text.takeWhile (· ≠ '\n')
  if line.length < text.length then (line ++ ['\n'], w.advance n (line.length + 1) false)
  else (line, w.advance n line.length true)

end World
end PassDelta.Machine
