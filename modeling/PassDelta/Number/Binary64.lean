import PassDelta.Number.Rounding
/-!
# Binary64 numbers

A double is a sign and a magnitude word. Every finite magnitude is a whole number of units of `2 ^ -1074`, so
values are compared, divided and multiplied exactly in `Nat` and rounded once, to nearest with ties to even.
-/

namespace PassDelta

structure Binary64 where
  bits : UInt64
  deriving DecidableEq, Repr

namespace Binary64

def infinityWord : Nat := 2047 * twoTo 52

def one : Nat := twoTo 1074

def ofWord (negative : Bool) (word : Nat) : Binary64 :=
  ⟨UInt64.ofNat (if negative then twoTo 63 + word else word)⟩

def zero : Binary64 := ofWord false 0

def isNegative (x : Binary64) : Bool := twoTo 63 ≤ x.bits.toNat

/-- The bits below the sign: eleven of exponent, fifty-two of fraction. -/
def word (x : Binary64) : Nat := x.bits.toNat % twoTo 63

def isFinite (x : Binary64) : Bool := x.word < infinityWord
def isInfinite (x : Binary64) : Bool := x.word = infinityWord
def isNaN (x : Binary64) : Bool := infinityWord < x.word

def unitsOfWord (word : Nat) : Nat :=
  let exponent := word / twoTo 52
  let fraction := word % twoTo 52
  if exponent = 0 then fraction else (twoTo 52 + fraction) * twoTo (exponent - 1)

def units (x : Binary64) : Nat := unitsOfWord x.word

/-- The magnitude word nearest to `num / den`. With `scale` binary places dropped the quotient has at most
fifty-three bits; a carry out of them moves to the next exponent by itself. -/
def wordOfRatio (num den : Nat) : Nat :=
  let scale := (num * one / den).log2 - 52
  min infinityWord (scale * twoTo 52 + roundHalfEven (num * one) (den * twoTo scale))

/-- The double nearest to `± num / den`, infinite when that is too large. -/
def ofRatio (negative : Bool) (num den : Nat) : Binary64 := ofWord negative (wordOfRatio num den)

def ofNat (n : Nat) : Binary64 := ofRatio false n 1

def ofInt (n : Int) : Binary64 := ofRatio (n < 0) n.natAbs 1

def mul (x y : Binary64) : Binary64 :=
  ofRatio (x.isNegative != y.isNegative) (x.units * y.units) (one * one)

/-- Correctly rounded quotient of finite numbers, the divisor not zero. -/
def div (x y : Binary64) : Binary64 := ofRatio (x.isNegative != y.isNegative) x.units y.units

def neg (x : Binary64) : Binary64 := ofWord (!x.isNegative) x.word

instance : Mul Binary64 := ⟨mul⟩
instance : Div Binary64 := ⟨div⟩
instance : Neg Binary64 := ⟨neg⟩

/-- The number with one decimal place, the exact binary value rounded half to even; the sign of zero stays. -/
def oneDecimal (x : Binary64) : String :=
  if x.isNaN then "NaN"
  else (if x.isNegative then "-" else "") ++
    (if x.isInfinite then "inf" else fixedPlaces 1 (roundHalfEven (x.units * 10) one))

example : (ofNat 40).bits = 0x4044000000000000 := by decide +kernel
example : (ofNat 1 / ofNat 3).bits = 0x3FD5555555555555 := by decide +kernel

end Binary64
end PassDelta
