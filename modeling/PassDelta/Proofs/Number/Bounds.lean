import PassDelta.Number.Binary64
import Mathlib.Tactic.Ring
/-!
# Bounds of doubles

A rounded quotient keeps between the powers of two around the exact one, up to one place above. So products and quotients
of bounded doubles are bounded, and they are finite as long as the bounds are small.
-/

namespace PassDelta

theorem twoTo_pos (n : Nat) : 0 < twoTo n := Nat.pow_pos (by decide)

theorem twoTo_add (m n : Nat) : twoTo (m + n) = twoTo m * twoTo n := Nat.pow_add 2 m n

theorem twoTo_le_twoTo {m n : Nat} (h : m ≤ n) : twoTo m ≤ twoTo n := Nat.pow_le_pow_right (by decide) h

theorem le_roundHalfEven (num den : Nat) : num / den ≤ roundHalfEven num den := by
  simp only [roundHalfEven]
  split_ifs <;> omega

theorem roundHalfEven_le (num den : Nat) : roundHalfEven num den ≤ num / den + 1 := by
  simp only [roundHalfEven]
  split_ifs <;> omega

namespace Binary64

theorem wordOfRatio_le {num den j : Nat} (hj : 0 < j) (h : num * one / den < twoTo (j + 52)) :
    wordOfRatio num den ≤ (j + 1) * twoTo 52 := by
  set q := num * one / den with hq
  set scale := q.log2 - 52 with hscale
  -- without the places that `scale` drops, the quotient has fifty-three bits, and rounding may carry into one more
  have hfactor : q < twoTo scale * twoTo 53 := by
    rw [← twoTo_add]
    exact Nat.lt_of_lt_of_le Nat.lt_log2_self (twoTo_le_twoTo (by omega))
  have hround : roundHalfEven (num * one) (den * twoTo scale) ≤ twoTo 53 := by
    refine Nat.le_trans (roundHalfEven_le _ _) ?_
    rw [← Nat.div_div_eq_div_mul, ← hq]
    exact Nat.div_lt_of_lt_mul hfactor
  have hlog : scale ≤ j - 1 := by
    by_cases hzero : q = 0
    · simp [hscale, hzero]
    · have := (Nat.log2_lt hzero).2 h
      omega
  calc wordOfRatio num den ≤ scale * twoTo 52 + roundHalfEven (num * one) (den * twoTo scale) := Nat.min_le_right _ _
    _ ≤ (j - 1) * twoTo 52 + 2 * twoTo 52 := Nat.add_le_add (Nat.mul_le_mul_right _ hlog) hround
    _ = (j + 1) * twoTo 52 := by rw [← Nat.add_mul]; congr 1; omega

theorem le_wordOfRatio {num den j : Nat} (hj : j + 1 ≤ 2047) (h : twoTo (j + 52) ≤ num * one / den) :
    (j + 1) * twoTo 52 ≤ wordOfRatio num den := by
  set q := num * one / den with hq
  set scale := q.log2 - 52 with hscale
  have hne : q ≠ 0 := Nat.ne_zero_of_lt (Nat.lt_of_lt_of_le (twoTo_pos _) h)
  have hlog : j + 52 ≤ q.log2 := (Nat.le_log2 hne).2 h
  have hround : twoTo 52 ≤ roundHalfEven (num * one) (den * twoTo scale) := by
    refine Nat.le_trans ?_ (le_roundHalfEven _ _)
    rw [← Nat.div_div_eq_div_mul, ← hq, Nat.le_div_iff_mul_le (twoTo_pos _), ← twoTo_add]
    exact Nat.le_trans (twoTo_le_twoTo (by omega)) (Nat.log2_self_le hne)
  refine Nat.le_min.2 ⟨Nat.mul_le_mul_right _ hj, ?_⟩
  calc (j + 1) * twoTo 52 ≤ (scale + 1) * twoTo 52 := Nat.mul_le_mul_right _ (by omega)
    _ = scale * twoTo 52 + twoTo 52 := Nat.succ_mul _ _
    _ ≤ scale * twoTo 52 + roundHalfEven (num * one) (den * twoTo scale) := Nat.add_le_add_left hround _

theorem unitsOfWord_lt {word j : Nat} (h : word ≤ (j + 1) * twoTo 52) : unitsOfWord word < twoTo (j + 53) := by
  have hfraction : word % twoTo 52 < twoTo 52 := Nat.mod_lt _ (twoTo_pos 52)
  have hexponent : word / twoTo 52 ≤ j + 1 := Nat.div_le_of_le_mul (by rwa [Nat.mul_comm])
  have hdouble : twoTo 53 = twoTo 52 + twoTo 52 := by decide
  rw [unitsOfWord, twoTo_add]
  split
  · calc word % twoTo 52 < twoTo 53 := by omega
      _ ≤ twoTo j * twoTo 53 := Nat.le_mul_of_pos_left _ (twoTo_pos j)
  · calc (twoTo 52 + word % twoTo 52) * twoTo (word / twoTo 52 - 1)
        < twoTo 53 * twoTo (word / twoTo 52 - 1) := Nat.mul_lt_mul_of_pos_right (by omega) (twoTo_pos _)
      _ ≤ twoTo 53 * twoTo j := Nat.mul_le_mul_left _ (twoTo_le_twoTo (by omega))
      _ = twoTo j * twoTo 53 := Nat.mul_comm _ _

theorem le_unitsOfWord {word j : Nat} (h : (j + 1) * twoTo 52 ≤ word) : twoTo (j + 52) ≤ unitsOfWord word := by
  have hexponent : j + 1 ≤ word / twoTo 52 := (Nat.le_div_iff_mul_le (twoTo_pos 52)).2 h
  rw [unitsOfWord, if_neg (Nat.ne_zero_of_lt hexponent), Nat.add_comm, twoTo_add]
  exact Nat.mul_le_mul (Nat.le_add_right _ _) (twoTo_le_twoTo (Nat.le_sub_of_add_le hexponent))

theorem word_ofWord (negative : Bool) {w : Nat} (h : w < twoTo 63) : (ofWord negative w).word = w := by
  have hall : 2 ^ 64 = twoTo 63 + twoTo 63 := by decide
  cases negative with
  | false =>
    have hbits : w < 2 ^ 64 := by omega
    rw [word, ofWord, if_neg Bool.false_ne_true, UInt64.toNat_ofNat_of_lt' hbits, Nat.mod_eq_of_lt h]
  | true =>
    have hbits : twoTo 63 + w < 2 ^ 64 := by omega
    rw [word, ofWord, if_pos rfl, UInt64.toNat_ofNat_of_lt' hbits, Nat.add_mod_left, Nat.mod_eq_of_lt h]

variable {negative : Bool} {num den a b : Nat}

theorem word_ofRatio : (ofRatio negative num den).word = wordOfRatio num den :=
  word_ofWord negative (Nat.lt_of_le_of_lt (Nat.min_le_left _ _) (by decide))

theorem one_pos : 0 < one := twoTo_pos 1074

theorem wordOfRatio_le_of_lt (h : num * one / den < twoTo a * one) :
    wordOfRatio num den ≤ (a + 1022 + 1) * twoTo 52 := by
  have hplaces : a + 1074 = a + 1022 + 52 := by omega
  rw [one, ← twoTo_add, hplaces] at h
  exact wordOfRatio_le (by omega) h

/-- A rounded quotient exceeds a power of two by one place at most. -/
theorem units_ofRatio_lt (h : num * one / den < twoTo a * one) :
    (ofRatio negative num den).units < twoTo (a + 1) * one := by
  have hpower : a + 1 + 1074 = a + 1022 + 53 := by omega
  rw [units, word_ofRatio, one, ← twoTo_add, hpower]
  exact unitsOfWord_lt (wordOfRatio_le_of_lt h)

theorem isFinite_ofRatio (ha : a < 1024) (h : num * one / den < twoTo a * one) :
    (ofRatio negative num den).isFinite = true := by
  have hword : (a + 1022 + 1) * twoTo 52 < infinityWord := by
    have hexponent : a + 1022 + 1 < 2047 := by omega
    exact Nat.mul_lt_mul_of_pos_right hexponent (twoTo_pos 52)
  rw [isFinite, word_ofRatio]
  exact decide_eq_true (Nat.lt_of_le_of_lt (wordOfRatio_le_of_lt h) hword)

/-- A rounded quotient is not below one if the quotient is not. -/
theorem one_le_units_ofRatio (h : one ≤ num * one / den) : one ≤ (ofRatio negative num den).units := by
  have hword : (1022 + 1) * twoTo 52 ≤ wordOfRatio num den := le_wordOfRatio (by decide) h
  rw [units, word_ofRatio]
  exact le_unitsOfWord hword

variable {x y : Binary64}

theorem mul_one_div_lt {n : Nat} (h : n < twoTo a) : n * one / 1 < twoTo a * one := by
  rw [Nat.div_one]
  exact Nat.mul_lt_mul_of_pos_right h one_pos

theorem units_ofNat_lt {n : Nat} (h : n < twoTo a) : (ofNat n).units < twoTo (a + 1) * one :=
  units_ofRatio_lt (mul_one_div_lt h)

theorem units_ofInt_lt {n : Int} (h : n.natAbs < twoTo a) : (ofInt n).units < twoTo (a + 1) * one :=
  units_ofRatio_lt (mul_one_div_lt h)

theorem one_le_units_ofNat {n : Nat} (h : 0 < n) : one ≤ (ofNat n).units := by
  refine one_le_units_ofRatio ?_
  rw [Nat.div_one]
  exact Nat.le_mul_of_pos_left _ h

theorem mul_div_lt (hx : x.units < twoTo a * one) (hy : y.units < twoTo b * one) :
    x.units * y.units * one / (one * one) < twoTo (a + b) * one := by
  rw [Nat.mul_div_mul_right _ _ one_pos]
  refine Nat.div_lt_of_lt_mul ?_
  calc x.units * y.units < twoTo a * one * (twoTo b * one) := Nat.mul_lt_mul'' hx hy
    _ = one * (twoTo (a + b) * one) := by rw [twoTo_add]; ring

theorem isFinite_mul (hab : a + b < 1024) (hx : x.units < twoTo a * one) (hy : y.units < twoTo b * one) :
    (x * y).isFinite = true := isFinite_ofRatio hab (mul_div_lt hx hy)

theorem units_div_lt (hx : x.units < twoTo a * one) (hy : one ≤ y.units) : (x / y).units < twoTo (a + 1) * one := by
  refine units_ofRatio_lt (Nat.lt_of_le_of_lt ?_ hx)
  exact Nat.div_le_of_le_mul (by rw [Nat.mul_comm]; exact Nat.mul_le_mul_right _ hy)

end Binary64
end PassDelta
