import PassDelta.Text.Utf8
/-!
# Paths

A path is a byte string read as components between slashes. Repeated and trailing slashes and every `.` but a
leading one are spelling only: they name no component, and two spellings with the same components are the same
path.
-/

namespace PassDelta

structure Path where
  bytes : Bytes
  deriving DecidableEq, Repr, BEq

inductive Component where
  | root
  | here
  | up
  | name (bytes : Bytes)
  deriving DecidableEq, Repr

namespace Path

def slash : UInt8 := 0x2F
def dot : UInt8 := 0x2E

def ofString (s : String) : Path := ⟨Text.encode s⟩

def display (p : Path) : String := Text.lossy p.bytes

def text? (p : Path) : Option String := Text.decode? p.bytes

def isAbsolute (p : Path) : Bool := p.bytes.head? = some slash

def segments (p : Path) : List Bytes := p.bytes.splitOn slash

def componentOf (segment : Bytes) : Option Component :=
  if segment = [] then none
  else if segment = [dot] then none
  else if segment = [dot, dot] then some .up
  else some (.name segment)

def components (p : Path) : List Component :=
  let inner := p.segments.filterMap componentOf
  if p.isAbsolute then .root :: inner
  else if p.segments.head? = some [dot] then .here :: inner
  else inner

def Component.bytes : Component → Bytes
  | .root => []
  | .here => [dot]
  | .up => [dot, dot]
  | .name bytes => bytes

def ofComponents : List Component → Path
  | [.root] => ⟨[slash]⟩
  | cs => ⟨[slash].intercalate (cs.map Component.bytes)⟩

/-- The path without its last component; the root and the empty path have none. -/
def parent (p : Path) : Option Path :=
  match p.components with
  | [] => none
  | [.root] => none
  | cs => some (ofComponents cs.dropLast)

def same (p q : Path) : Bool := p.components = q.components

def fileName (p : Path) : Option Bytes :=
  match p.components.getLast? with
  | some (.name n) => some n
  | _ => none

/-- A name up to its last dot; all of it when there is no dot or nothing before it. -/
def stemOfName (name : Bytes) : Bytes :=
  match (name.reverse.dropWhile (· ≠ dot)).tail.reverse with
  | [] => name
  | stem => stem

def fileStem (p : Path) : Option Bytes := p.fileName.map stemOfName

/-- The path `q` as seen from `p`: an absolute `q` stands for itself. -/
def join (p q : Path) : Path :=
  if q.isAbsolute then q
  else match p.bytes.getLast? with
    | none => q
    | some b => if b = slash then ⟨p.bytes ++ q.bytes⟩ else ⟨p.bytes ++ slash :: q.bytes⟩

instance : Div Path := ⟨join⟩

example : (ofString "./a//b/./c.tar.gz/").components =
    [.here, .name (Text.encode "a"), .name (Text.encode "b"), .name (Text.encode "c.tar.gz")] := by decide +kernel

example : (ofString "/a//b/").parent = some (ofString "/a") ∧ (ofString "a").parent = some (ofString "") ∧
    (ofString "/").parent = none := by decide +kernel

example : (ofString "src/.e").fileStem = some (Text.encode ".e") ∧
    (ofString "a..").fileStem = some (Text.encode "a.") ∧ (ofString "x/..").fileStem = none := by decide +kernel

end Path
end PassDelta
