import PassDelta.Number.Arithmetic
/-!
# Elementary functions of doubles

Exponential, logarithm, powers and the functions of angles. A real number stands as a whole number of `2 ^ -fine`,
which is so small that the sums of the series below are right far beyond the last bit of a double; one rounding
ends each function.
-/

namespace PassDelta.Binary64

def fine : Nat := 1500

def fineOne : Int := twoTo fine

def toFine (x : Binary64) : Int := x.signedUnits * twoTo (fine - 1074)

def ofFine (n : Int) (power : Int) : Binary64 :=
  if 0 ≤ power then ofRatio (n < 0) (n.natAbs * twoTo power.toNat) (twoTo fine)
  else ofRatio (n < 0) n.natAbs (twoTo (fine + power.natAbs))

def fineMul (a b : Int) : Int := a * b / fineOne

def fineDiv (a b : Int) : Int := a * fineOne / b

/-- Adds up terms, each made from the one before, until they vanish. -/
def series (next : Nat → Int → Int) (value : Nat → Int → Int) : Nat → Nat → Int → Int
  | 0, _, _ => 0
  | fuel + 1, n, term => if term = 0 then 0 else value n term + series next value fuel (n + 1) (next n term)

/-- The odd series `t + s t³ / 3 + t⁵ / 5 + …` with `s` the sign of each further term. -/
def oddSeries (alternating : Bool) (t : Int) : Int :=
  let square := fineMul t t
  series (fun _ term => if alternating then -(fineMul term square) else fineMul term square)
    (fun n term => term / (2 * n + 1)) (2 * fine) 0 t

def fineLog2 : Int := 2 * oddSeries false (fineOne / 3)

/-- The ratio of a circle to its width, from the angles with the slopes `1/5` and `1/239`. -/
def finePi : Int := 4 * (4 * oddSeries true (fineOne / 5) - oddSeries true (fineOne / 239))

/-- The exponential of a real number, as a real number below two and a power of two. -/
def fineExp (x : Int) : Int × Int :=
  let power := x / fineLog2
  let rest := x - power * fineLog2
  (series (fun n term => fineMul term rest / (n + 1)) (fun _ term => term) (2 * fine) 0 fineOne, power)

def fineLog (x : Binary64) : Int :=
  let top := x.units.log2
  let ratio : Int := if top ≤ fine then x.units * twoTo (fine - top) else x.units / twoTo (top - fine)
  2 * oddSeries false (fineDiv (ratio - fineOne) (ratio + fineOne)) + ((top : Int) - 1074) * fineLog2

def expLimit : Int := 800 * fineOne

def ofExp (negative : Bool) (x : Int) : Binary64 :=
  if expLimit < x then infinity negative
  else if x < -expLimit then ofWord negative 0
  else
    let (n, power) := fineExp x
    let y := ofFine n power
    if negative then -y else y

def exp (x : Binary64) : Binary64 :=
  if x.isNaN then x
  else if x.isInfinite then if x.isNegative then zero else x
  else ofExp false x.toFine

def log (x : Binary64) : Binary64 :=
  if x.isNaN then x
  else if x.word = 0 then infinity true
  else if x.isNegative then undefined
  else if x.isInfinite then x
  else ofFine x.fineLog 0

/-- The odd part of a positive number and the power of two beside it. -/
def oddPart (x : Binary64) : Nat × Int :=
  let rec strip : Nat → Nat → Int → Nat × Int
    | 0, n, e => (n, e)
    | fuel + 1, n, e => if n % 2 = 0 then strip fuel (n / 2) (e + 1) else (n, e)
  strip 2100 x.units (-1074)

def wholePower (x : Binary64) (negative : Bool) (n : Int) : Binary64 :=
  let (odd, e) := x.oddPart
  let magnitude := Nat.pow odd n.natAbs
  let shift := e * n
  let (num, den) := if 0 ≤ n then (magnitude, 1) else (1, magnitude)
  if 0 ≤ shift then ofRatio negative (num * twoTo shift.toNat) den
  else ofRatio negative num (den * twoTo shift.natAbs)

def isOddWhole (x : Binary64) : Bool := x.isWhole && x.toInt % 2 = 1

def smallPower? (m n : Int) : Option Int :=
  if n < 1 ∨ 64 < n ∨ smallBound < m.natAbs then none
  else
    let k := m.pow n.toNat
    if k.natAbs < smallBound then some k else none

def power (x y : Binary64) : Binary64 :=
  onSmall smallPower? x y fun _ =>
  let negative := x.isNegative && y.isOddWhole
  let one' := ofNat 1
  if y.word = 0 ∨ x = one' then one'
  else orNaN x y <|
    if y.isInfinite then
      match compare? x.abs one' with
      | some .eq => one'
      | some .lt => if y.isNegative then infinity false else zero
      | _ => if y.isNegative then zero else infinity false
    else if x.isInfinite ∨ x.word = 0 then
      if x.isInfinite != y.isNegative then infinity negative else ofWord negative 0
    else if x.isNegative ∧ !y.isWhole then undefined
    else if y.isWhole ∧ y.toInt.natAbs ≤ 4096 then wholePower x negative y.toInt
    else ofExp negative (fineMul x.abs.fineLog y.toFine)

/-- The angle less quarter turns, and how many quarter turns they are. -/
def fineTurn (x : Int) : Int × Int :=
  let quarter := finePi / 2
  let turns := (x + quarter / 2) / quarter
  (x - turns * quarter, turns % 4)

def fineSin (r : Int) : Int :=
  let square := fineMul r r
  series (fun n term => -(fineMul term square / ((2 * n + 2) * (2 * n + 3)))) (fun _ term => term) (2 * fine) 0 r

def fineCos (r : Int) : Int :=
  let square := fineMul r r
  series (fun n term => -(fineMul term square / ((2 * n + 1) * (2 * n + 2)))) (fun _ term => term) (2 * fine) 0 fineOne

def sinAfter (quarters : Int) (x : Int) : Int :=
  let (r, turns) := fineTurn x
  match (turns + quarters) % 4 with
  | 0 => fineSin r
  | 1 => fineCos r
  | 2 => -(fineSin r)
  | _ => -(fineCos r)

def sin (x : Binary64) : Binary64 :=
  if x.isNaN ∨ x.word = 0 then x
  else if x.isInfinite then undefined
  else ofFine (sinAfter 0 x.toFine) 0

def cos (x : Binary64) : Binary64 :=
  if x.isNaN then x
  else if x.isInfinite then undefined
  else ofFine (sinAfter 1 x.toFine) 0

def fineAngle (slope : Int) : Int :=
  let half (t : Int) : Int :=
    fineDiv t (fineOne + Nat.sqrt ((fineOne * fineOne + t * t).natAbs))
  8 * oddSeries true (half (half (half slope)))

def angle (y x : Binary64) : Binary64 :=
  orNaN y x <|
    let steep : Int := if y.isInfinite then fineOne else if x.isInfinite then 0 else y.toFine.natAbs
    let flat : Int := if x.isInfinite then fineOne else if y.isInfinite then 0 else x.toFine.natAbs
    let base : Int :=
      if flat = 0 ∧ steep = 0 then 0
      else if steep ≤ flat then fineAngle (fineDiv steep flat)
      else finePi / 2 - fineAngle (fineDiv flat steep)
    let whole := if x.isNegative then finePi - base else base
    ofWord y.isNegative (ofFine whole 0).word

example : (exp (ofNat 1)).bits = 0x4005BF0A8B145769 := by decide +kernel

end PassDelta.Binary64
