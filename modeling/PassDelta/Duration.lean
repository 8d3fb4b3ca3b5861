import PassDelta.Number.Rounding
/-!
# Durations

Spans of time in whole nanoseconds, written in the largest of s, ms, µs, ns that the span reaches.
-/

namespace PassDelta

structure Duration where
  nanos : Nat
  deriving DecidableEq, Repr

namespace Duration

def ofSeconds (n : Nat) : Duration := ⟨n * tenTo 9⟩

def ofParts (seconds nanos : Nat) : Duration := ⟨seconds * tenTo 9 + nanos⟩

def seconds (d : Duration) : Nat := d.nanos / tenTo 9

def subsecond (d : Duration) : Nat := d.nanos % tenTo 9

/-- The unit a span is written in: its name and the power of ten of nanoseconds it holds. -/
def unit (d : Duration) : String × Nat :=
  if tenTo 9 ≤ d.nanos then ("s", 9)
  else if tenTo 6 ≤ d.nanos then ("ms", 6)
  else if tenTo 3 ≤ d.nanos then ("µs", 3)
  else ("ns", 0)

def exact (d : Duration) : String :=
  let (name, power) := d.unit
  let digits := toString (d.nanos % tenTo power)
  let fraction := (List.replicate (power - digits.length) '0' ++ digits.toList).reverse.dropWhile (· = '0')
  toString (d.nanos / tenTo power) ++
    (if fraction.isEmpty then "" else "." ++ String.ofList fraction.reverse) ++ name

/-- A span with two decimals, a half going to the even neighbour; the unit is chosen before rounding. -/
def twoDecimals (d : Duration) : String :=
  let (name, power) := d.unit
  fixedPlaces 2 (roundHalfEven (d.nanos * 100) (tenTo power)) ++ name

example : (ofParts 1 500000000).exact = "1.5s" ∧ (Duration.mk 999999).exact = "999.999µs" ∧
    (Duration.mk 0).exact = "0ns" := by decide +kernel

example : (ofParts 1 15000000).twoDecimals = "1.02s" ∧ (Duration.mk 999999).twoDecimals = "1000.00µs" := by
  decide +kernel

end Duration
end PassDelta
