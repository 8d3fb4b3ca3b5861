import PassDelta.Machine.Numeral
/-!
# Permissions

The bits of permissions, how they are written, and changes of them such as `u+x,g=r`, which name for whom, in what
way, and what.
-/

namespace PassDelta.Machine

def withBits (mode added : Nat) : Nat := Nat.lor mode added

def withoutBits (mode taken : Nat) : Nat := mode - Nat.land mode taken

/-- The bits that a person has, as a number from zero to seven: the owner first, then the group and all others. -/
def shareOf (mode person : Nat) : Nat := mode / Nat.pow 8 (2 - person) % 8

def allBits : Nat := 0o7777

/-- The bits of those for whom a change is, with the special bit that goes with each. -/
def bitsFor : Char → Option Nat
  | 'u' => some 0o4700
  | 'g' => some 0o2070
  | 'o' => some 0o1007
  | 'a' => some 0o7777
  | _ => none

/-- The bits that a letter stands for; an `X` is one for starting only where something can be started. -/
def bitsNamed (mode : Nat) (isDir : Bool) : Char → Option Nat
  | 'r' => some 0o444
  | 'w' => some 0o222
  | 'x' => some 0o111
  | 'X' => some (if isDir || Nat.land mode 0o111 ≠ 0 then 0o111 else 0)
  | 's' => some 0o6000
  | 't' => some 0o1000
  | _ => none

def bitsCopied (mode : Nat) : Char → Option Nat
  | 'u' => some (shareOf mode 0 * 0o111)
  | 'g' => some (shareOf mode 1 * 0o111)
  | 'o' => some (shareOf mode 2 * 0o111)
  | _ => none

/-- What is left of a change after the names of persons, applied to permissions: signs with letters behind them.
Without persons a change is for all, but only as far as `mask` lets it. -/
def applySigns (mask : Nat) (isDir : Bool) (persons : Option Nat) : Nat → List Char → Nat → Option Nat
  | 0, _, _ => none
  | _ + 1, [], mode => some mode
  | fuel + 1, sign :: rest, mode =>
    let whole := persons.getD (allBits - Nat.land mask 0o777)
    let (what, rest) : Option Nat × List Char :=
      match rest.head?.bind (bitsCopied mode) with
      | some bits => (some bits, rest.tail)
      | none =>
        let letters := rest.takeWhile fun c => c ≠ '+' && c ≠ '-' && c ≠ '='
        ((letters.mapM (bitsNamed mode isDir)).map fun found => found.foldl Nat.lor 0, rest.drop letters.length)
    let next (bits : Nat) : Option Nat :=
      let bits := Nat.land bits whole
      if sign = '+' then some (withBits mode bits)
      else if sign = '-' then some (withoutBits mode bits)
      else if sign = '=' then
        let cleared := persons.getD allBits
        some (withBits (withoutBits mode (if isDir then Nat.land cleared 0o1777 else cleared)) bits)
      else none
    match what.bind next with
    | some mode => applySigns mask isDir persons fuel rest mode
    | none => none

def applyChange (mask : Nat) (isDir : Bool) (text : List Char) (mode : Nat) : Option Nat :=
  let names := text.takeWhile fun c => (bitsFor c).isSome
  let rest := text.drop names.length
  let persons := if names.isEmpty then none else some ((names.filterMap bitsFor).foldl Nat.lor 0)
  if rest.isEmpty then none else applySigns mask isDir persons (rest.length + 1) rest mode

def applyChanges (mask : Nat) (isDir : Bool) (text : List Char) (mode : Nat) : Option Nat :=
  (text.splitOn ',').foldlM (fun mode change => applyChange mask isDir change mode) mode

def changedMode? (mask : Nat) (isDir : Bool) (text : List Char) (mode : Nat) : Option Nat :=
  if text ≠ [] ∧ text.all isOctal then
    let n := valueIn 8 text
    if allBits < n then none
    else some (if isDir ∧ text.length < 5 then withBits n (Nat.land mode 0o6000) else n)
  else applyChanges mask isDir text mode

def octalText (width n : Nat) : Octets :=
  let ds := Nat.toDigits 8 n
  List.replicate (width - ds.length) '0' ++ ds

/-- The letters of what one person may do; a special bit stands in the place of the last. -/
def shareText (share : Nat) (special : Bool) (letter : Char) : Octets :=
  [if share.testBit 2 then 'r' else '-', if share.testBit 1 then 'w' else '-',
    if special then (if share.testBit 0 then letter else letter.toUpper) else if share.testBit 0 then 'x' else '-']

def modeText (mode : Nat) : Octets :=
  shareText (shareOf mode 0) (mode.testBit 11) 's' ++ shareText (shareOf mode 1) (mode.testBit 10) 's' ++
    shareText (shareOf mode 2) (mode.testBit 9) 't'

def maskText (mask : Nat) : Octets :=
  let share (person : Nat) : Octets := (shareText (7 - shareOf mask person) false 's').filter (· ≠ '-')
  "u=".toList ++ share 0 ++ ",g=".toList ++ share 1 ++ ",o=".toList ++ share 2

end PassDelta.Machine
