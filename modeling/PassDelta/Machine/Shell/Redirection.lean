import PassDelta.Machine.Shell.Expansion
/-!
# Redirections

Leading the streams of a shell elsewhere: to files, to other streams, or to a text of the script.
-/

namespace PassDelta.Machine.Shell

/-- The words of the shell for an error on a path; a path that leads nowhere has words of its own. -/
def pathWords (e : IoError) (missing : String) : Octets :=
  if e = .enoent ∨ e = .enotdir then missing.toList else octetsOfText e.words

def channelAt (s : Shell) (place : Place) (appends reads writes : Bool) : Except IoError Channel :=
  match s.world.tree.entry? place with
  | some (.device (.stream n)) =>
    match s.streams.lookup n with
    | some id => .ok (s.world.channel id)
    | none => .error .enoent
  | some (.device d) => .ok (.device d)
  | some (.program _) => .ok (.source [] 0)
  | _ => .ok (.file place 0 appends reads writes)

def openFault (s : Shell) (creates : Bool) (path : Octets) (e : IoError) : Octets :=
  if s.isRich then path ++ ": ".toList ++ if e = .eexist then "cannot overwrite existing file".toList else octetsOfText e.words
  else if creates then "cannot create ".toList ++ path ++ ": ".toList ++ pathWords e "Directory nonexistent"
  else "cannot open ".toList ++ path ++ ": ".toList ++ pathWords e "No such file"

def openPath (s : Shell) (mode : Mode) (path : Octets) : Except Octets (Channel × Tree) := do
  let p : Path := ⟨bytesOf path⟩
  let tree := s.world.tree
  let opening {α : Type} (creates : Bool) : Except IoError α → Except Octets α
    | .ok a => .ok a
    | .error e => .error (openFault s creates path e)
  match mode with
  | .read =>
    let place ← opening false (tree.find s.here p)
    return (← opening false (channelAt s place false true false), tree)
  | _ =>
    let place ← opening true (tree.target s.here p)
    let empties := mode = .write ∨ mode = .replace
    let tree ← match tree.entry? place with
      | some (.file _ bits) =>
        if mode = .write ∧ s.has 'C' then opening true (.error .eexist)
        else pure (if empties then tree.put place (.file [] bits) else tree)
      | some _ => pure tree
      | none => pure (tree.put place (.file [] (granted s.mask 0o666)))
    let channel ← opening true (channelAt { s with world := { s.world with tree := tree } } place (mode = .append)
      (mode = .both) true)
    return (channel, tree)

def streamAt? (s : Shell) (path : Octets) : Option Nat :=
  match s.world.tree.find s.here ⟨bytesOf path⟩ with
  | .ok place =>
    match s.world.tree.entry? place with
    | some (.device (.stream n)) => s.streams.lookup n
    | _ => none
  | .error _ => none

def bind (s : Shell) (stream : Nat) (channel : Option Nat) : Shell :=
  let others := s.streams.filter (·.1 ≠ stream)
  { s with streams := match channel with
    | some n => (stream, n) :: others
    | none => others }

def connect (s : Shell) (stream : Nat) (c : Channel) : Shell :=
  let (n, w) := s.world.addChannel c
  bind { s with world := w } stream (some n)

def leadTo (s : Shell) (stream : Nat) (mode : Mode) (path : Octets) : Except Octets Shell :=
  match streamAt? s path with
  | some n => .ok (bind s stream (some n))
  | none => (openPath s mode path).map fun (c, tree) =>
    connect { s with world := { s.world with tree := tree } } stream c

def leadAll (s : Shell) (appends : Bool) (path : Octets) : Except Octets Shell := do
  let s ← leadTo s 1 (if appends then .append else .write) path
  return bind s 2 (s.streams.lookup 1)

/-- The path that a stream is led to. The rich shell refuses a word that is not one field. -/
def targetPath (within : Within) (w : Word) : Expand Octets := do
  if !(← get).isRich then textOf within w
  else match ← fieldsOf within w with
    | [path] => return path
    | _ => throw (.ambiguous (unquoted w))

/-- Leads a stream to what another one leads to. The rich shell may close that one, or take a path for both the output
and the errors. -/
def leadToStream (s : Shell) (stream : Nat) (source : Octets) : Except Octets Shell :=
  let moves := s.isRich && source.length ≠ 1 && source.getLast? = some '-'
  let number := if moves then source.dropLast else source
  if source = ['-'] then .ok (bind s stream none)
  else if number ≠ [] ∧ number.all Char.isDigit then
    match s.streams.lookup (valueIn 10 number) with
    | some n =>
      let s := bind s stream (some n)
      .ok (if moves then bind s (valueIn 10 number) none else s)
    | none => .error (source ++ ": Bad file descriptor".toList)
  else if !s.isRich then .error "Syntax error: Bad fd number".toList
  else if stream = 1 then leadAll s false source
  else .error ((Failure.ambiguous source).message .rich)

def redirect (within : Within) : List Redirect → Exec Bool
  | [] => return true
  | (stream, target) :: rest => do
    let refuse (complaint : Octets) : Exec Bool := do
      complain complaint
      setStatus (if (← get).isRich then 1 else 2)
      return false
    let path : Expand Octets := match target with
      | .text w => textOf within w
      | .copy w => textOf within w
      | .file _ w => targetPath within w
      | .all _ w => targetPath within w
    match ← path.run with
    | .error (.ambiguous w) => refuse ((Failure.ambiguous w).message .rich)
    | .error f =>
      give f
      return false
    | .ok text =>
      let s ← get
      let outcome : Except Octets Shell := match target with
        | .text _ => .ok (connect s stream (.source [(0, text)] 0))
        | .copy _ => leadToStream s stream text
        | .file mode _ => leadTo s stream mode text
        | .all appends _ => leadAll s appends text
      match outcome with
      | .ok s =>
        set s
        redirect within rest
      | .error complaint => refuse complaint

def boundStreams (s : Shell) (rs : List Redirect) : List (Nat × Option Nat) :=
  let changed (r : Redirect) : List Nat := match r.2 with
    | .all .. => [1, 2]
    | .copy w => if s.isRich then [r.1, 2] ++ (unquoted w).filterMap digitValue? else [r.1]
    | _ => [r.1]
  (rs.flatMap changed).map fun n => (n, s.streams.lookup n)

/-- Restores bindings, and lets go of channels that nothing is bound to any more. -/
def restore (old : List (Nat × Option Nat)) (firstChannel : Nat) : Exec Unit := do
  modify fun s => old.foldl (fun s b => bind s b.1 b.2) s
  let s ← get
  if s.streams.all (·.2 < firstChannel) then set { s with world := s.world.dropChannels firstChannel }

end PassDelta.Machine.Shell
