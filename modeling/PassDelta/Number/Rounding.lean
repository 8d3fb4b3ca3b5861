import PassDelta.Number.Power
/-!
# Rounding quotients

A quotient of natural numbers rounded to the nearest whole one, a half going to the even neighbour.
-/

namespace PassDelta

/-- `num / den` to the nearest whole number; of two equally near ones, the even one. -/
def roundHalfEven (num den : Nat) : Nat :=
  let q := num / den
  let r := num % den
  if 2 * r < den then q
  else if den < 2 * r then q + 1
  else if q % 2 = 0 then q else q + 1

/-- A number of `10 ^ -places` units written with exactly that many decimal places. -/
def fixedPlaces (places units : Nat) : String :=
  let fraction := toString (units % tenTo places)
  toString (units / tenTo places) ++ "." ++
    String.ofList (List.replicate (places - fraction.length) '0') ++ fraction

example : fixedPlaces 2 1205 = "12.05" := by decide +kernel

end PassDelta
