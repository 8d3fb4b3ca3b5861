import PassDelta.Json.Node
import PassDelta.Number.Binary64
/-!
# Reading JSON values

Readers of scanned text. Each finds the first problem from left to right; a value of the wrong sort counts as
read before it is refused, unless it is a list or an object, which is refused at its bracket. A structure is
read from an object in any member order, skipping members it does not know, or from a list of its fields.
-/

namespace PassDelta.Json

abbrev Reader (α : Type) := Node → Except ReadError α

/-- The characters of a string. Two surrogate escapes in the right order make one character; a lone one is
malformed, except that a leading one at the end of truncated text still waits for its partner. -/
def joinMarks (problem : Option ReadError) : List Mark → Except ReadError (List Char)
  | [] => match problem with
    | none => .ok []
    | some e => .error e
  | .char c :: rest => (c :: ·) <$> joinMarks problem rest
  | .unit u :: rest =>
    if u < 0xD800 ∨ 0xDFFF < u then (Char.ofNat u :: ·) <$> joinMarks problem rest
    else if 0xDC00 ≤ u then .error .malformed
    else match rest with
      | .unit v :: rest' =>
        if 0xDC00 ≤ v ∧ v ≤ 0xDFFF then
          (Char.ofNat (0x10000 + (u - 0xD800) * 0x400 + (v - 0xDC00)) :: ·) <$> joinMarks problem rest'
        else .error .malformed
      | .char _ :: _ => .error .malformed
      | [] => .error (problem.getD .malformed)

def Lexeme.text (s : Lexeme) : Except ReadError String := String.ofList <$> joinMarks s.problem s.marks

inductive Number where
  | nat (n : Nat)
  | negative (n : Int)
  | float (x : Binary64)
  deriving DecidableEq, Repr

/-- Appends digits to a significand while it stays below `2 ^ 64`; the digits that no longer fit are left. -/
def absorb : Nat → List Nat → Nat × List Nat
  | s, [] => (s, [])
  | s, d :: ds => if twoTo 64 ≤ s * 10 + d then (s, d :: ds) else absorb (s * 10 + d) ds

/-- Division by a power of ten, in steps of at most `10 ^ 308`. A significand below `2 ^ 64` is zero after two. -/
def scaleDown : Nat → Binary64 → Nat → Binary64
  | 0, x, _ => x
  | fuel + 1, x, n =>
    if n ≤ 308 then x / .ofNat (tenTo n)
    else if x.word = 0 then x
    else scaleDown fuel (x / .ofNat (tenTo 308)) (n - 308)

/-- `significand * 10 ^ exponent` in one rounding of the significand and one of the scaling. -/
def scaled (significand : Nat) (exponent : Int) : Except ReadError Binary64 :=
  let x := Binary64.ofNat significand
  if exponent < 0 then .ok (scaleDown 4 x exponent.natAbs)
  else if 308 < exponent then if significand = 0 then .ok x else .error .malformed
  else
    let y := x * .ofNat (tenTo exponent.toNat)
    if y.isInfinite then .error .malformed else .ok y

/-- The value of a numeral: whole when it is written whole and fits 64 bits, else a double. -/
def Numeral.read (n : Numeral) : Except ReadError Number :=
  let signed (x : Binary64) : Number := .float (if n.negative then -x else x)
  let (s, lost) := absorb 0 n.whole
  match n.fraction, n.exponent, lost with
  | [], none, [] =>
    if !n.negative then .ok (.nat s)
    else if s = 0 ∨ twoTo 63 < s then .ok (signed (.ofNat s))
    else .ok (.negative (-s))
  | _, _, _ =>
    let (s', unread) := absorb s n.fraction
    let shift : Int := lost.length - (n.fraction.length - unread.length : Nat)
    let written : Int := match n.exponent with
      | none => 0
      | some (negative, ds) =>
        let e : Nat := ds.foldl (fun n d => n * 10 + d) 0
        if negative then -(e : Int) else e
    signed <$> scaled s' (shift + written)

def Node.refuse : Node → ReadError
  | .null => .mismatch
  | .bool _ => .mismatch
  | .num n => match n.read with
    | .ok _ => .mismatch
    | .error e => e
  | .str s => match s.text with
    | .ok _ => .mismatch
    | .error e => e
  | .arr .. => .mismatch
  | .obj .. => .mismatch
  | .broken wanted _ => wanted

def closed : Option ReadError → Except ReadError Unit
  | none => .ok ()
  | some e => .error e

mutual

/-- Passes over a value of any sort. Escapes and number ranges do not matter here. -/
def Node.skip : Node → Except ReadError Unit
  | .null => .ok ()
  | .bool _ => .ok ()
  | .num _ => .ok ()
  | .str s => closed s.problem
  | .arr items problem => do skipItems items; closed problem
  | .obj members problem => do skipMembers members; closed problem
  | .broken _ skipped => .error skipped

def skipItems : List Node → Except ReadError Unit
  | [] => .ok ()
  | v :: vs => do v.skip; skipItems vs

def skipMembers : List (Lexeme × Node) → Except ReadError Unit
  | [] => .ok ()
  | (k, v) :: ms => do closed k.problem; v.skip; skipMembers ms

end

def readBool : Reader Bool
  | .bool b => .ok b
  | v => .error v.refuse

def readText : Reader String
  | .str s => s.text
  | v => .error v.refuse

def readNumber : Reader Number
  | .num n => n.read
  | v => .error v.refuse

def readWord (v : Node) : Except ReadError Nat := do
  match ← readNumber v with
  | .nat n => return n
  | _ => throw .mismatch

def readInt (v : Node) : Except ReadError Int := do
  match ← readNumber v with
  | .nat n => if n < twoTo 63 then return n else throw .mismatch
  | .negative n => return n
  | .float _ => throw .mismatch

def readFloat (v : Node) : Except ReadError Binary64 := do
  match ← readNumber v with
  | .nat n => return .ofNat n
  | .negative n => return .ofInt n
  | .float x => return x

def readList {α : Type} (item : Reader α) : Reader (List α)
  | .arr items problem => do
    let vs ← items.mapM item
    closed problem
    return vs
  | v => .error v.refuse

def readOption {α : Type} (some? : Reader α) : Reader (Option α)
  | .null => .ok none
  | v => some <$> some? v

/-- How a structure is read: its fields in order, each with the check of its value, and the value built from the
fields present. -/
structure Shape (α : Type) where
  fields : List (String × Reader Unit)
  build : (String → Option Node) → Except ReadError α

def check {α : Type} (r : Reader α) : Reader Unit := fun v => do
  let _ ← r v
  return ()

def required {α : Type} (get : String → Option Node) (name : String) (r : Reader α) : Except ReadError α :=
  match get name with
  | none => .error .mismatch
  | some v => r v

def optional {α : Type} (get : String → Option Node) (name : String) (r : Reader α) :
    Except ReadError (Option α) :=
  match get name with
  | none => .ok none
  | some v => readOption r v

/-- Goes through the members of an object in order and collects the known ones; a known name met again is refused
before its value is looked at. -/
def collect (fields : List (String × Reader Unit)) (found : List (String × Node)) :
    List (Lexeme × Node) → Except ReadError (List (String × Node))
  | [] => .ok found
  | (k, v) :: rest => do
    let name ← k.text
    match fields.lookup name with
    | none =>
      v.skip
      collect fields found rest
    | some r =>
      if (found.lookup name).isSome then throw .mismatch
      r v
      collect fields (found ++ [(name, v)]) rest

def collectItems : List (String × Reader Unit) → List Node → Option ReadError →
    Except ReadError (List (String × Node))
  | [], [], problem => do closed problem; return []
  | [], _ :: _, _ => .error .malformed
  | _ :: _, [], problem => .error (problem.getD .mismatch)
  | (name, r) :: fields, v :: items, problem => do
    r v
    return (name, v) :: (← collectItems fields items problem)

def Shape.read {α : Type} (shape : Shape α) : Reader α
  | .obj members problem => do
    let found ← collect shape.fields [] members
    closed problem
    shape.build fun name => found.lookup name
  | .arr items problem => do
    let found ← collectItems shape.fields items problem
    shape.build fun name => found.lookup name
  | v => .error v.refuse

def readDocument {α : Type} (r : Reader α) (text : String) : Except ReadError α := do
  let (node, rest) := scan text.toList
  let v ← r node
  match rest.map skipSpace with
  | some [] => return v
  | some _ => throw .malformed
  | none => throw .truncated

end PassDelta.Json
