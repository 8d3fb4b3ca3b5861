import PassDelta.Number.Binary64
/-!
# Shortest decimals

The decimal with the fewest digits that reads back as a given double, and of those the nearest. A grid of
decimals has a point that reads back only if one of the value's two neighbours on it does, so only these
are tried.
-/

namespace PassDelta

structure Decimal where
  digits : Nat
  exponent : Int
  deriving DecidableEq, Repr

namespace Binary64

def digitCount (n : Nat) : Nat := (Nat.toDigits 10 n).length

def ratioOf (digits : Nat) (exponent : Int) : Nat × Nat :=
  if 0 ≤ exponent then (digits * tenTo exponent.toNat, 1) else (digits, tenTo (-exponent).toNat)

def readsBack (word digits : Nat) (exponent : Int) : Bool :=
  let (num, den) := ratioOf digits exponent
  wordOfRatio num den = word

/-- The better of the value's two neighbours on the grid of multiples of `10 ^ exponent`, if one reads back.
`tieUp` says which of two equally near ones is taken: the larger, or the one with an even last digit. -/
def neighbour? (tieUp : Bool) (word : Nat) (exponent : Int) : Option Nat :=
  let (num, den) :=
    if 0 ≤ exponent then (unitsOfWord word, one * tenTo exponent.toNat)
    else (unitsOfWord word * tenTo (-exponent).toNat, one)
  let below := num / den
  let rest := num % den
  let nearerAbove : Bool := den < 2 * rest || (2 * rest = den && (tieUp || below % 2 = 1))
  match 0 < below && readsBack word below exponent, readsBack word (below + 1) exponent with
  | true, true => some (if nearerAbove then below + 1 else below)
  | true, false => some below
  | false, true => some (below + 1)
  | false, false => none

def Decimal.strip : Nat → Nat → Int → Decimal
  | 0, digits, exponent => ⟨digits, exponent⟩
  | fuel + 1, digits, exponent =>
    if digits % 10 = 0 then strip fuel (digits / 10) (exponent + 1) else ⟨digits, exponent⟩

/-- The exponent of the leading decimal digit of a positive finite magnitude. -/
def leadingExponent (word : Nat) : Int := digitCount (unitsOfWord word * tenTo 324 / one) - 325

/-- The shortest decimal of a positive finite magnitude; seventeen digits always read back. -/
def shortest (tieUp : Bool) (word : Nat) : Decimal :=
  let top := leadingExponent word
  let exponents := (List.range 17).map fun (n : Nat) => top - (n : Int)
  match exponents.findSome? fun e => (neighbour? tieUp word e).map fun d => (d, e) with
  | some (d, e) => Decimal.strip 20 d e
  | none => ⟨0, 0⟩

/-- How doubles are written: which exponents of the leading digit are positional, and how ties go. -/
structure Form where
  positional : Int → Bool
  tieUp : Bool

def zeros (n : Int) : String := String.ofList (List.replicate n.toNat '0')

/-- Digits `ds`, the first of which stands for `10 ^ top`, with at least one place after the point. -/
def writePositional (ds : List Char) (top : Int) : String :=
  if top < 0 then "0." ++ zeros (-top - 1) ++ String.ofList ds
  else
    let whole := ds.take (top.toNat + 1)
    let fraction := ds.drop (top.toNat + 1)
    String.ofList whole ++ zeros (top + 1 - ds.length) ++ "." ++
      (if fraction.isEmpty then "0" else String.ofList fraction)

def writeScientific (ds : List Char) (top : Int) : String :=
  String.ofList (ds.take 1) ++ (if ds.length ≤ 1 then "" else "." ++ String.ofList (ds.drop 1)) ++
    (if top < 0 then "e-" else "e+") ++ toString top.natAbs

def writeShortest (form : Form) (x : Binary64) : String :=
  (if x.isNegative then "-" else "") ++
    if x.word = 0 then "0.0"
    else
      let d := shortest form.tieUp x.word
      let ds := Nat.toDigits 10 d.digits
      let top := d.exponent + ds.length - 1
      if form.positional top then writePositional ds top else writeScientific ds top

example : writeShortest ⟨fun e => -5 ≤ e ∧ e ≤ 15, false⟩ (ofNat 10 / ofNat 3) = "3.3333333333333335" := by
  decide +kernel

example : writeShortest ⟨fun e => -5 ≤ e ∧ e ≤ 15, false⟩ (ofNat (tenTo 22)) = "1e+22" := by decide +kernel

end Binary64
end PassDelta
