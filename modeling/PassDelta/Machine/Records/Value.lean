import PassDelta.Machine.Utility.Format
import PassDelta.Number.Arithmetic
/-!
# Values

Numbers and texts, and how one becomes the other. A text that was read from outside counts as a number in
comparisons when it looks like one.
-/

namespace PassDelta.Machine.Records

inductive Value where
  | unset
  | number (x : Binary64)
  | text (cs : Octets)
  | given (cs : Octets)
  deriving DecidableEq, Repr

def isSpaceOctet (c : Char) : Bool := c = ' ' || ('\t' ≤ c && c ≤ '\r')

/-- A hexadecimal number behind its mark: digits with a point, and perhaps a power of two. -/
def readHex (negative : Bool) (cs : Octets) : Option (Binary64 × Octets) :=
  let (whole, rest) := takeDigits 16 cs
  let (fraction, rest) := match rest with
    | '.' :: more => takeDigits 16 more
    | more => ([], more)
  if whole.isEmpty ∧ fraction.isEmpty then none
  else
    let (power, rest) : Int × Octets := match rest with
      | p :: more =>
        let (minus, ds) := splitSign more
        let digits := ds.takeWhile Char.isDigit
        if (p = 'p' ∨ p = 'P') ∧ digits ≠ [] then
          let n : Int := min 5000 (valueIn 10 digits)
          (if minus then -n else n, ds.drop digits.length)
        else (0, rest)
      | [] => (0, rest)
    let scale : Int := power - 4 * fraction.length
    let digits := valueIn 16 (whole ++ fraction)
    let x := if 0 ≤ scale then Binary64.ofRatio negative (digits * twoTo scale.toNat) 1
      else Binary64.ofRatio negative digits (twoTo scale.natAbs)
    some (x, rest)

def readFloat? (text : Octets) : Option (Binary64 × Octets) :=
  let body := text.dropWhile isSpaceOctet
  let (negative, unsigned) := splitSign body
  let lower := (unsigned.take 8).map Char.toLower
  let starts (word : String) : Bool := word.toList.isPrefixOf lower
  let hex := match unsigned with
    | '0' :: x :: rest => if x = 'x' ∨ x = 'X' then readHex negative rest else none
    | _ => none
  match hex with
  | some found => some found
  | none =>
    if starts "infinity" then some (Binary64.infinity negative, unsigned.drop 8)
    else if starts "inf" then some (Binary64.infinity negative, unsigned.drop 3)
    else if starts "nan" then
      some (Binary64.ofWord negative Binary64.undefined.word, unsigned.drop 3)
    else (readDecimal body).map fun (negative, num, den, rest) => (Binary64.ofRatio negative num den, rest)

def numberAt (text : Octets) : Binary64 := ((readFloat? text).map Prod.fst).getD .zero

def wholeFloat? (text : Octets) : Option Binary64 :=
  let body := text.dropWhile isSpaceOctet
  if body.head?.any fun c => c.isDigit || c = '.' || c = '+' || c = '-' then
    match readFloat? body with
    | some (x, rest) => if rest.all isSpaceOctet then some x else none
    | none => none
  else none

def formatted (format : Octets) (x : Binary64) : Octets :=
  match parts (format.length + 1) format with
  | [.convert v false false _] => v.float x
  | _ => Conversion.float ⟨[], none, some 6, 'g'⟩ x

/-- A number as text: without a point if it is whole and not too large, else by a format. -/
def numberText (format : Octets) (x : Binary64) : Octets :=
  let limit : Int := twoTo 64
  if x.isWhole ∧ -(twoTo 63 : Int) ≤ x.toInt ∧ x.toInt ≤ limit then (toString (min x.toInt (limit - 1))).toList
  else formatted format x

namespace Value

def toNumber : Value → Binary64
  | unset => .zero
  | number x => x
  | text cs => numberAt cs
  | given cs => numberAt cs

def toText (format : Octets) : Value → Octets
  | unset => []
  | number x => numberText format x
  | text cs => cs
  | given cs => cs

def asNumber? : Value → Option Binary64
  | unset => some .zero
  | number x => some x
  | text _ => none
  | given cs => wholeFloat? cs

def isTrue : Value → Bool
  | unset => false
  | number x => !x.isZero
  | text cs => !cs.isEmpty
  | given cs => match wholeFloat? cs with
    | some x => !x.isZero
    | none => !cs.isEmpty

def ofNat (n : Nat) : Value := number (.ofNat n)

def ofBool (b : Bool) : Value := ofNat (if b then 1 else 0)

/-- The order of two values: of numbers when both count as such, else of texts. -/
def order? (format : Octets) (a b : Value) : Option Ordering :=
  match a.asNumber?, b.asNumber? with
  | some x, some y => Binary64.compare? x y
  | _, _ => some (compareOfLessAndEq (a.toText format) (b.toText format))

end Value

example : (Value.given " 12 ".toList).asNumber? = some (.ofNat 12) ∧ (Value.text "12".toList).asNumber? = none := by
  decide +kernel

end PassDelta.Machine.Records
