import PassDelta.Number.Binary64
/-!
# Arithmetic of doubles

Sums, remainders, order and whole parts. A finite double is a whole number of units, so each operation is exact on
whole numbers and rounded once.
-/

namespace PassDelta.Binary64

def signedUnits (x : Binary64) : Int := if x.isNegative then -(x.units : Int) else x.units

/-- The double nearest to a whole number of units over `den`; `zeroNegative` is the sign of zero. -/
def ofUnits (zeroNegative : Bool) (units : Int) (den : Nat) : Binary64 :=
  if units = 0 then ofWord zeroNegative 0 else ofRatio (units < 0) units.natAbs (one * den)

def infinity (negative : Bool) : Binary64 := ofWord negative infinityWord

def undefined : Binary64 := ofWord true (infinityWord + twoTo 51)

def abs (x : Binary64) : Binary64 := ofWord false x.word

def orNaN (x y : Binary64) (result : Binary64) : Binary64 := if x.isNaN then x else if y.isNaN then y else result

/-- The integer that a double is, if it has at most fifty-three bits and is not the negative zero. -/
def smallInt? (x : Binary64) : Option Int :=
  if x.bits = 0 then some 0
  else
    let exponent := (x.bits >>> 52) &&& 0x7FF
    if exponent < 1023 || 1075 < exponent then none
    else
      let digits := (x.bits &&& 0xFFFFFFFFFFFFF) ||| 0x10000000000000
      let shift := 1075 - exponent
      if digits &&& ((1 <<< shift) - 1) ≠ 0 then none
      else
        let n := (digits >>> shift).toNat
        some (if x.bits >>> 63 = 1 then -n else n)

def ofSmallInt (n : Int) : Binary64 :=
  let magnitude := n.natAbs
  if magnitude = 0 then ⟨0⟩
  else
    let top := magnitude.log2
    let word := UInt64.ofNat ((1022 + top) <<< 52 + magnitude <<< (52 - top))
    ⟨if n < 0 then word ||| 0x8000000000000000 else word⟩

def smallBound : Nat := twoTo 53

/-- An operation on integers where operands and result are small ones, else another one. -/
def onSmall (op : Int → Int → Option Int) (x y : Binary64) (otherwise : Unit → Binary64) : Binary64 :=
  match smallInt? x, smallInt? y with
  | some m, some n =>
    match op m n with
    | some k => if k.natAbs < smallBound then ofSmallInt k else otherwise ()
    | none => otherwise ()
  | _, _ => otherwise ()

def add (x y : Binary64) : Binary64 :=
  onSmall (fun m n => some (m + n)) x y fun _ => orNaN x y <|
    if x.isInfinite then if y.isInfinite ∧ x.isNegative ≠ y.isNegative then undefined else x
    else if y.isInfinite then y
    else ofUnits (x.isNegative && y.isNegative) (x.signedUnits + y.signedUnits) 1

def sub (x y : Binary64) : Binary64 := if y.isNaN then orNaN x y y else add x (-y)

def times (x y : Binary64) : Binary64 :=
  let negative := x.isNegative != y.isNegative
  onSmall (fun m n => if m * n = 0 then none else some (m * n)) x y fun _ => orNaN x y <|
    if x.isInfinite ∨ y.isInfinite then if x.word = 0 ∨ y.word = 0 then undefined else infinity negative
    else x * y

def quotient (x y : Binary64) : Binary64 :=
  let negative := x.isNegative != y.isNegative
  onSmall (fun m n => if m = 0 ∨ n = 0 ∨ m.tmod n ≠ 0 then none else some (m.tdiv n)) x y fun _ => orNaN x y <|
    if x.isInfinite then if y.isInfinite then undefined else infinity negative
    else if y.isInfinite then ofWord negative 0
    else if y.word = 0 then if x.word = 0 then undefined else infinity negative
    else x / y

/-- What is left of a number after a divisor was taken away as often as it fits; it has the sign of the number. -/
def remainder (x y : Binary64) : Binary64 :=
  onSmall (fun m n => if n = 0 ∨ m < 0 then none else some (m.tmod n)) x y fun _ => orNaN x y <|
    if x.isInfinite ∨ y.word = 0 then undefined
    else if y.isInfinite then x
    else ofUnits x.isNegative (x.signedUnits.tmod y.units) 1

/-- Below, equal or above; nothing is when one of them is no number. -/
def compare? (x y : Binary64) : Option Ordering :=
  match smallInt? x, smallInt? y with
  | some m, some n => some (compareOfLessAndEq m n)
  | _, _ =>
    if x.isNaN ∨ y.isNaN then none
    else
      let place (z : Binary64) : Int := if z.isNegative then -(z.word : Int) else z.word
      some (compareOfLessAndEq (place x) (place y))

def isZero (x : Binary64) : Bool := x.word = 0

def whole (x : Binary64) : Binary64 :=
  if (smallInt? x).isSome then x
  else if x.isFinite then ofUnits x.isNegative (x.signedUnits.tdiv one * one) 1 else x

def toInt (x : Binary64) : Int := (smallInt? x).getD (x.signedUnits.tdiv one)

def isWhole (x : Binary64) : Bool := (smallInt? x).isSome || (x.isFinite && x.units % one = 0)

/-- The square root, rounded from a root with more than twice the bits of the result. -/
def sqrt (x : Binary64) : Binary64 :=
  if x.isNaN ∨ x.word = 0 then x
  else if x.isNegative then undefined
  else if x.isInfinite then x
  else
    let wide := x.units * one * twoTo 256
    let root := Nat.sqrt wide
    ofRatio false (2 * root + if root * root = wide then 0 else 1) (2 * one * twoTo 128)

example : (add (ofNat 1) (ofInt (-3))).signedUnits = -(2 * one : Nat) := by decide +kernel
example : (remainder (ofInt (-7)) (ofNat 3)).bits = (ofInt (-1)).bits := by decide +kernel

end PassDelta.Binary64
