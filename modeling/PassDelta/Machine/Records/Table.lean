import PassDelta.Machine.Records.Value
import Std.Data.HashMap
/-!
# Tables

Values by keys. Keys are visited in the order of a table of lists: each key has its list by a sum over its octets,
and the latest to be looked at stands first. Keys that were only used as numbers are kept in lists of their own, and
get their places among the texts when those are asked for.
-/

namespace PassDelta.Machine.Records

def textSum (cs : Octets) : Nat :=
  cs.foldl (fun h c => (Nat.xor h c.toNat * 16777619) % twoTo 32) 2166136261

inductive Key where
  | number (n : Int)
  | text (cs : Octets)
  deriving DecidableEq, Repr

def intText (n : Int) : Octets := (toString n).toList

def Key.written : Key → Octets
  | number n => intText n
  | text cs => cs

/-- Texts are looked up by a hash of their octets. -/
instance : Hashable Octets where
  hash cs := cs.foldl (fun h c => mixHash h (hash c.toNat)) 7

/-- `row` counts the elements of a table that came from splitting a text and has no other ones; those have no places
yet. -/
structure Table where
  values : Std.HashMap Octets Value
  byText : Array (List Octets)
  byNumber : Array (List Int)
  hasTexts : Bool
  row : Option Nat

namespace Table

def lists : Nat := 64

/-- How many keys there are for each list before there are twice as many lists. -/
def crowd : Nat := 12

def empty : Table := ⟨{}, Array.replicate lists [], Array.replicate lists [], false, none⟩

def size (t : Table) : Nat := t.values.size

def mask (t : Table) : Nat := t.byText.size

def textPlace (t : Table) (key : Octets) : Nat := textSum key % t.mask

def numberPlace (t : Table) (n : Int) : Nat := (n % (t.mask : Int)).toNat

def frontText (t : Table) (key : Octets) : Table :=
  { t with byText := t.byText.modify (t.textPlace key) fun list => key :: list.erase key }

def frontNumber (t : Table) (n : Int) : Table :=
  { t with byNumber := t.byNumber.modify (t.numberPlace n) fun list => n :: list.erase n }

def placedText (t : Table) (key : Octets) : Bool := (t.byText.getD (t.textPlace key) []).contains key

def placedNumber (t : Table) (n : Int) : Bool := (t.byNumber.getD (t.numberPlace n) []).contains n

def withPlaces (t : Table) : Table :=
  match t.row with
  | none => t
  | some n => (List.range n).foldl (fun t i => t.frontNumber (i + 1 : Nat)) { t with row := none }

def withTexts (t : Table) : Table :=
  let t := t.withPlaces
  if t.hasTexts then t
  else (t.byNumber.toList.flatten).foldl (fun t n =>
    if t.placedText (intText n) then t else t.frontText (intText n)) { t with hasTexts := true }

/-- Twice as many lists, when they are crowded. A list is divided without changing its order. -/
def spread (t : Table) : Table :=
  if t.size ≤ t.mask * crowd then t
  else
    let twice := 2 * t.mask
    let divide {α : Type} (place : α → Nat) (old : Array (List α)) : Array (List α) :=
      let halves := old.mapIdx fun i list => (list.filter fun k => place k = i, list.filter fun k => place k ≠ i)
      halves.map Prod.fst ++ halves.map Prod.snd
    { t with
      byText := divide (fun key => textSum key % twice) t.byText
      byNumber := divide (fun n => (n % (twice : Int)).toNat) t.byNumber }

def value? (t : Table) (key : Key) : Option Value := t.values[key.written]?

/-- The table after a key was looked at. One that is not there is made when `makes`. -/
def touch (t : Table) (key : Key) (makes : Bool) : Table :=
  let isThere := (t.value? key).isSome
  if !isThere && !makes then (if t.size = 0 then t else match key with
    | .number _ => t
    | .text _ => t.withTexts)
  else
    let add (t : Table) : Table :=
      if isThere then t else { t with values := t.values.insert key.written .unset }
    match key with
    | .number n =>
      match t.row with
      | some count =>
        if isThere ∧ 1 ≤ n ∧ n ≤ count then t
        else let t := t.withPlaces; ((add t).spread).frontNumber n
      | none =>
        if t.hasTexts ∧ !t.placedNumber n then (((add t).spread).frontText (intText n)).frontNumber n
        else ((add t).spread).frontNumber n
    | .text cs => ((add t.withTexts).spread).frontText cs

def set (t : Table) (key : Key) (v : Value) : Table :=
  let t := t.touch key true
  { t with values := t.values.insert key.written v }

def erase (t : Table) (key : Key) : Table :=
  match t.value? key with
  | none => t
  | some _ =>
    let t := (t.touch key false).withPlaces
    let written := key.written
    { t with
      values := t.values.erase written
      byText := t.byText.modify (t.textPlace written) (·.erase written)
      byNumber := t.byNumber.map fun list => list.filter fun n => intText n ≠ written }

def ofParts (parts : List Value) : Table :=
  { empty with
    values := .ofList (parts.zipIdx.map fun (v, i) => (intText (i + 1 : Nat), v))
    row := if parts.isEmpty then none else some parts.length }

def keys (t : Table) : List Octets × Table :=
  let t := t.withTexts
  (t.byText.toList.flatten, t)

end Table
end PassDelta.Machine.Records
