import PassDelta.IoError
import PassDelta.Machine.Octets
import PassDelta.Path
/-!
# Directory trees

Files, directories and symbolic links in memory under the rules of a POSIX file system: which places a path leads
to, and which errors it meets on the way, in what order.
-/

namespace PassDelta.Machine

/-- Files that hold nothing of their own. What leads to a stream is the open stream of whoever asks. -/
inductive Device where
  | null
  | zero
  | full
  | stream (number : Nat)
  deriving DecidableEq, Repr

/-- What is at a place. Directories and files have the bits of their permissions; a link leads on to a path, and a
program that comes with the machine is known by its name. -/
inductive Entry where
  | dir (mode : Nat)
  | file (contents : Bytes) (mode : Nat)
  | link (target : Path)
  | program (name : String)
  | device (d : Device)
  deriving DecidableEq, Repr

namespace Entry

/-- The permissions of a directory that may be read and changed by its owner and read by all. -/
def dirMode : Nat := 0o755

def fileMode : Nat := 0o644

def scriptMode : Nat := 0o755

def isDir : Entry → Bool
  | .dir _ => true
  | _ => false

def startable (mode : Nat) : Bool := Nat.land mode 0o111 ≠ 0

def isProgram : Entry → Bool
  | .file _ mode => startable mode
  | .program _ => true
  | _ => false

end Entry

abbrev Place := List Bytes

structure Tree where
  entries : List (Place × Entry)
  deriving DecidableEq, Repr

namespace Tree

def entry? (t : Tree) (place : Place) : Option Entry :=
  if place = [] then some (.dir Entry.dirMode) else t.entries.lookup place

def isDir (t : Tree) (place : Place) : Bool := (t.entry? place).any Entry.isDir

def put (t : Tree) (place : Place) (e : Entry) : Tree :=
  match t.entries.lookup place with
  | none => ⟨t.entries ++ [(place, e)]⟩
  | some _ => ⟨t.entries.map fun x => if x.1 = place then (place, e) else x⟩

def putDirs (t : Tree) (place : Place) : Tree :=
  ((List.range (place.length + 1)).map place.take).foldl (fun t p =>
    if (t.entry? p).isSome then t else t.put p (.dir Entry.dirMode)) t

def filesBelow (t : Tree) (place : Place) : List (Place × Bytes) :=
  t.entries.filterMap fun (below, e) =>
    match e with
    | .file contents _ => if place.isPrefixOf below then some (below.drop place.length, contents) else none
    | _ => none

def children (t : Tree) (place : Place) : List Bytes :=
  let names := t.entries.filterMap fun (below, _) =>
    if below.length = place.length + 1 ∧ place.isPrefixOf below then below.getLast? else none
  names.mergeSort fun a b => octetsLe (octets a) (octets b)

def remove (t : Tree) (place : Place) : Tree := ⟨t.entries.filter fun x => !place.isPrefixOf x.1⟩

def move (t : Tree) (old new : Place) : Tree :=
  ⟨(t.remove new).entries.map fun x => if old.isPrefixOf x.1 then (new ++ x.1.drop old.length, x.2) else x⟩

def maxName : Nat := 255

def maxPath : Nat := 4096

/-- The names in a path that a walk takes. A slash at the end asks for a directory, like a dot there. -/
def names (p : Path) : List Bytes :=
  let named := p.segments.filter (· ≠ [])
  if p.bytes.getLast? = some Path.slash then named ++ [[Path.dot]] else named

def origin (here : Place) (p : Path) : Place := if p.isAbsolute then [] else here

def maxLinks : Nat := 40

/-- Follows names from a place. Only a directory can be left, even by the name of the place itself. A link is
followed, up to `links` of them; one that comes last only when `through`. -/
def walk (t : Tree) (through : Bool) : Nat → Place → List Bytes → Except IoError Place
  | _, place, [] => .ok place
  | links, place, name :: rest =>
    if !t.isDir place then .error .enotdir
    else if name = [Path.dot] then walk t through links place rest
    else if name = [Path.dot, Path.dot] then walk t through links place.dropLast rest
    else if maxName < name.length then .error .enametoolong
    else match t.entry? (place ++ [name]) with
      | none => .error .enoent
      | some (.link target) =>
        if rest = [] ∧ !through then .ok (place ++ [name])
        else match links with
          | 0 => .error .eloop
          | links + 1 => walk t through links (origin place target) (names target ++ rest)
      | some _ => walk t through links (place ++ [name]) rest
termination_by links _ names => (links, names.length)

def follow (t : Tree) (place : Place) (names : List Bytes) : Except IoError Place := t.walk true maxLinks place names

def checkPath (p : Path) : Except IoError Unit :=
  if p.bytes.contains 0 then .error (.custom .invalidInput "file name contained an unexpected NUL byte")
  else if p.bytes = [] then .error .enoent
  else if maxPath ≤ p.bytes.length then .error .enametoolong
  else .ok ()

def find (t : Tree) (here : Place) (p : Path) : Except IoError Place := do
  checkPath p
  t.follow (origin here p) (names p)

def findLink (t : Tree) (here : Place) (p : Path) : Except IoError Place := do
  checkPath p
  t.walk false maxLinks (origin here p) (names p)

/-- The directory in which a path names a new entry, and that name, if it is one. -/
def slot (t : Tree) (here : Place) (p : Path) (named : List Bytes) : Except IoError (Place × Option Bytes) := do
  match named.getLast? with
  | none => return (origin here p, none)
  | some last =>
    let dir ← t.follow (origin here p) named.dropLast
    if !t.isDir dir then throw .enotdir
    if last = [Path.dot] ∨ last = [Path.dot, Path.dot] then return (dir, none)
    return (dir, some last)

def checkName (name : Bytes) : Except IoError Unit :=
  if maxName < name.length then .error .enametoolong else .ok ()

def isPresent (t : Tree) (here : Place) (p : Path) : Bool := (t.find here p).isOk

def readBytes (t : Tree) (here : Place) (p : Path) : Except IoError Bytes := do
  match t.entry? (← t.find here p) with
  | some (.file contents _) => return contents
  | some (.dir _) => throw .eisdir
  | some (.program _) => return [0xFF]
  | some (.device _) => return []
  | some (.link _) => throw .eloop
  | none => throw .enoent

def readText (t : Tree) (here : Place) (p : Path) : Except IoError String := do
  match Text.decode? (← t.readBytes here p) with
  | some s => return s
  | none => throw (.custom .invalidData "stream did not contain valid UTF-8")

/-- The place of a file that is to be written, which may be new. A link with nothing behind it is written through,
`links` of them at most. -/
def targetFrom (t : Tree) : Nat → Place → Path → Except IoError Place
  | links, here, p => do
    let (dir, name?) ← t.slot here p (p.segments.filter (· ≠ []))
    match name? with
    | none => throw .eisdir
    | some name =>
      if p.bytes.getLast? = some Path.slash then throw .eisdir
      checkName name
      match t.entry? (dir ++ [name]) with
      | some (.dir _) => throw .eisdir
      | some (.link target) =>
        match links with
        | 0 => throw .eloop
        | links + 1 => targetFrom t links dir target
      | _ => return dir ++ [name]

def target (t : Tree) (here : Place) (p : Path) : Except IoError Place := do
  checkPath p
  t.targetFrom maxLinks here p

/-- Writes a file over its old contents. A file that was there keeps its permissions; a new one gets `mode`. -/
def writeFile (t : Tree) (here : Place) (p : Path) (contents : Bytes) (mode : Nat) : Except IoError Tree := do
  let place ← t.target here p
  match t.entry? place with
  | some (.device .full) => if contents.isEmpty then return t else throw .enospc
  | some (.device _) => return t
  | some (.file _ old) => return t.put place (.file contents old)
  | _ => return t.put place (.file contents mode)

def makeDir (t : Tree) (here : Place) (p : Path) (mode : Nat) : Except IoError Tree := do
  checkPath p
  let (dir, name?) ← t.slot here p (p.segments.filter (· ≠ []))
  match name? with
  | none => throw .eexist
  | some name =>
    checkName name
    if (t.entry? (dir ++ [name])).isSome then throw .eexist else return t.put (dir ++ [name]) (.dir mode)

def leadsToDir (t : Tree) (here : Place) (p : Path) : Bool :=
  match t.find here p with
  | .ok place => t.isDir place
  | .error _ => false

/-- Makes a directory and those above it that are missing, `fuel` of them at most. What is already made stays
when a later step fails. -/
def makeDirs (here : Place) (mode : Nat) : Nat → Tree → Path → Except IoError Unit × Tree
  | 0, t, _ => (.error .enoent, t)
  | fuel + 1, t, p =>
    if p.bytes = [] then (.ok (), t)
    else match t.makeDir here p mode with
      | .ok t' => (.ok (), t')
      | .error e =>
        if e ≠ .enoent then (if t.leadsToDir here p then .ok () else .error e, t)
        else match p.parent with
          | none => (.error e, t)
          | some above =>
            match makeDirs here mode fuel t above with
            | (.error e', t') => (.error e', t')
            | (.ok (), t') =>
              match t'.makeDir here p mode with
              | .ok t'' => (.ok (), t'')
              | .error e' => (if t'.leadsToDir here p then .ok () else .error e', t')

def createDir (t : Tree) (here : Place) (p : Path) (mode : Nat) : Except IoError Unit × Tree :=
  makeDirs here mode (p.components.length + 1) t p

end Tree
end PassDelta.Machine
