/-!
# Powers of two and ten

Powers of two bound words and count the units of binary fractions, powers of ten count decimal places.
-/

namespace PassDelta

def twoTo (n : Nat) : Nat := Nat.pow 2 n

def tenTo (n : Nat) : Nat := Nat.pow 10 n

/-- Holds of the values of a signed word with `n` bits below its sign. -/
def fitsSigned (n : Nat) (i : Int) : Bool := -(twoTo n : Int) ≤ i && i < twoTo n

example : fitsSigned 7 (-128) ∧ ¬fitsSigned 7 128 := by decide

end PassDelta
