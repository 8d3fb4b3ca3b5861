import PassDelta.Proofs.Json.Structures
/-!
# Doubles printed and read again

What is printed for a double is read as a double, but not always as the same one: the digits and the power of ten are
rounded before they are multiplied. They need no rounding if the digits make up a number of fifty-three bits and the power
is at most the twenty-second, and then the double comes back.
-/

namespace PassDelta

namespace Binary64
variable {x y : Binary64} {a : Nat}

theorem isNegative_ofWord (negative : Bool) {w : Nat} (h : w < twoTo 63) : (ofWord negative w).isNegative = negative := by
  have h63 : twoTo 63 = 9223372036854775808 := rfl
  rw [h63] at h
  cases negative with
  | false =>
    have hbits : w < 2 ^ 64 := by omega
    rw [isNegative, ofWord, if_neg Bool.false_ne_true, UInt64.toNat_ofNat_of_lt' hbits, h63]
    exact decide_eq_false (Nat.not_le.mpr h)
  | true =>
    have hbits : 9223372036854775808 + w < 2 ^ 64 := by omega
    rw [isNegative, ofWord, if_pos rfl, h63, UInt64.toNat_ofNat_of_lt' hbits]
    exact decide_eq_true (Nat.le_add_right _ _)

theorem isNegative_ofRatio (negative : Bool) (num den : Nat) : (ofRatio negative num den).isNegative = negative :=
  isNegative_ofWord negative (Nat.lt_of_le_of_lt (Nat.min_le_left _ _) (by decide))

theorem isNegative_ofNat (n : Nat) : (ofNat n).isNegative = false := isNegative_ofRatio _ _ _

theorem isNegative_mul (x y : Binary64) : (x * y).isNegative = (x.isNegative != y.isNegative) :=
  isNegative_ofRatio _ _ _

theorem isNegative_div (x y : Binary64) : (x / y).isNegative = (x.isNegative != y.isNegative) :=
  isNegative_ofRatio _ _ _

theorem isNegative_neg (x : Binary64) : (-x).isNegative = !x.isNegative :=
  isNegative_ofWord _ (Nat.mod_lt _ (twoTo_pos 63))

theorem isFinite_neg (x : Binary64) : (-x).isFinite = x.isFinite := by rw [isFinite, isFinite, word_neg]

theorem isFinite_ofNat {n : Nat} (ha : a < 1024) (h : n < twoTo a) : (ofNat n).isFinite = true :=
  isFinite_ofRatio ha (mul_one_div_lt h)

theorem isFinite_ofInt {n : Int} (ha : a < 1024) (h : n.natAbs < twoTo a) : (ofInt n).isFinite = true :=
  isFinite_ofRatio ha (mul_one_div_lt h)

theorem isFinite_div (ha : a < 1024) (hx : x.units < twoTo a * one) (hy : one ≤ y.units) : (x / y).isFinite = true := by
  refine isFinite_ofRatio ha (Nat.lt_of_le_of_lt ?_ hx)
  exact Nat.div_le_of_le_mul (by rw [Nat.mul_comm]; exact Nat.mul_le_mul_right _ hy)

end Binary64

namespace Json
open Binary64

theorem isFinite_scaleDown {fuel : Nat} {x : Binary64} {a : Nat} (ha : a + fuel < 1024)
    (hunits : x.units < twoTo a * Binary64.one) (hx : x.isFinite = true) (n : Nat) :
    (scaleDown fuel x n).isFinite = true := by
  induction fuel generalizing x a n with
  | zero => exact hx
  | succ fuel ih =>
    rw [scaleDown]
    split_ifs
    · exact isFinite_div (by omega) hunits (one_le_units_ofNat (tenTo_pos n))
    · exact hx
    · have hdivisor : Binary64.one ≤ (ofNat (tenTo 308)).units := one_le_units_ofNat (tenTo_pos 308)
      exact ih (by omega) (units_div_lt hunits hdivisor) (isFinite_div (by omega) hunits hdivisor) _

theorem isFinite_scaled {s : Nat} (hs : s < twoTo 64) {e : Int} {y : Binary64} (h : scaled s e = .ok y) :
    y.isFinite = true := by
  have hx : (ofNat s).isFinite = true := isFinite_ofNat (by decide) hs
  unfold scaled at h
  dsimp only at h
  split_ifs at h with hneg hhigh hzero hinfinite
  · cases h
    exact isFinite_scaleDown (by decide) (units_ofNat_lt hs) hx _
  · cases h
    exact hx
  · cases h
    -- a rounded number that is not infinite is finite
    have hle : (ofNat s * ofNat (tenTo e.toNat)).word ≤ infinityWord := by
      change (ofRatio _ _ _).word ≤ infinityWord
      rw [word_ofRatio]
      exact Nat.min_le_left _ _
    simp only [isInfinite, Binary64.isFinite, decide_eq_true_eq] at hinfinite ⊢
    omega

def Number.InRange : Number → Prop
  | .nat n => n < twoTo 64
  | .negative n => -(twoTo 63 : Int) ≤ n ∧ n < 0
  | .float x => x.isFinite = true

theorem Numeral.read_inRange {n : Numeral} {v : Number} (h : n.read = .ok v) : v.InRange := by
  have hsigned {x : Binary64} (hx : x.isFinite = true) : (Number.float (if n.negative then -x else x)).InRange := by
    change (if n.negative then -x else x).isFinite = true
    split
    · rwa [isFinite_neg]
    · exact hx
  have hwhole := absorb_fst_lt (s := 0) (by decide) n.whole
  by_cases hfloat : n.fraction ≠ [] ∨ n.exponent ≠ none
  · rw [read_eq_scaled hfloat] at h
    obtain ⟨y, hy, hv⟩ := map_eq_ok.mp h
    rw [← hv]
    exact hsigned (isFinite_scaled (absorb_fst_lt hwhole _) hy)
  · obtain ⟨negative, whole, fraction, exponent⟩ := n
    obtain ⟨rfl, rfl⟩ : fraction = [] ∧ exponent = none := by simpa using hfloat
    cases habsorb : absorb 0 whole with
    | mk s lost =>
      simp only [habsorb] at hwhole
      cases lost with
      | nil =>
        simp only [Numeral.read, habsorb] at h
        have hfinite : (ofNat s).isFinite = true := isFinite_ofNat (by decide) hwhole
        split at h
        · rw [← Except.ok.inj h]
          exact hwhole
        · split at h <;> rw [← Except.ok.inj h]
          · exact hsigned hfinite
          · constructor <;> omega
      | cons d lost =>
        simp only [Numeral.read, habsorb] at h
        obtain ⟨y, hy, hv⟩ := map_eq_ok.mp h
        rw [← hv]
        exact hsigned (isFinite_scaled (absorb_fst_lt hwhole _) hy)

theorem readNumber_inRange {v : Node} {n : Number} (h : readNumber v = .ok n) : n.InRange := by
  unfold readNumber at h
  split at h
  · exact Numeral.read_inRange h
  · cases h

theorem lt_of_readWord {v : Node} {n : Nat} (h : readWord v = .ok n) : n < twoTo 64 := by
  obtain ⟨k, hk, h⟩ := bind_eq_ok.mp h
  have hrange := readNumber_inRange hk
  cases k <;> cases h
  exact hrange

theorem range_of_readInt {v : Node} {n : Int} (h : readInt v = .ok n) : -(twoTo 63 : Int) ≤ n ∧ n < twoTo 63 := by
  obtain ⟨k, hk, h⟩ := bind_eq_ok.mp h
  have hrange := readNumber_inRange hk
  cases k with
  | nat m =>
    dsimp only at h
    split_ifs at h with hlt
    cases h
    omega
  | negative m =>
    cases h
    obtain ⟨hlow, hneg⟩ := hrange
    omega
  | float x => cases h

theorem isFinite_of_readFloat {v : Node} {x : Binary64} (h : readFloat v = .ok x) : x.isFinite = true := by
  obtain ⟨k, hk, h⟩ := bind_eq_ok.mp h
  have hrange := readNumber_inRange hk
  cases k with
  | nat m =>
    cases h
    exact isFinite_ofNat (by decide) hrange
  | negative m =>
    cases h
    obtain ⟨hlow, hneg⟩ := hrange
    have hword : m.natAbs < twoTo 64 := by
      have h63 : twoTo 63 < twoTo 64 := by decide
      omega
    exact isFinite_ofInt (by decide) hword
  | float x =>
    cases h
    exact hrange

/-- Few digits and a low power of ten are multiplied without rounding either. -/
theorem scaled_exact {s : Nat} (hs : s < twoTo 53) {e : Int} (he : e.natAbs ≤ 22) :
    ∃ y, scaled s e = .ok y ∧ y.word = decimalWord s e ∧ y.isNegative = false := by
  have hword : twoTo 53 < twoTo 64 := by decide
  have htenTo := units_ofNat_tenTo e.natAbs (by omega)
  have hsunits := units_ofNat_of_lt hs
  have hone := Binary64.one_pos
  obtain ⟨y, hy⟩ := scaled_ok (Nat.lt_trans hs hword) (show e ≤ 288 by omega)
  refine ⟨y, hy, ?_⟩
  unfold scaled at hy
  dsimp only at hy
  split_ifs at hy with hneg hhigh hzero hinfinite
  · cases hy
    rw [scaleDown, if_pos (by omega)]
    refine ⟨?_, by rw [isNegative_div, isNegative_ofNat, isNegative_ofNat]; rfl⟩
    rw [word_div, decimalWord_of_neg (by omega), htenTo, hsunits]
    have hplaces : (-e).toNat = e.natAbs := by omega
    rw [hplaces]
    refine wordOfRatio_congr (Nat.mul_pos (tenTo_pos _) hone) (tenTo_pos _) ?_
    generalize Binary64.one = unit
    ring
  · omega
  · cases hy
    have hplaces : e.toNat = e.natAbs := by omega
    refine ⟨?_, by rw [isNegative_mul, isNegative_ofNat, isNegative_ofNat]; rfl⟩
    rw [word_mul, decimalWord_of_nonneg (by omega), hplaces, htenTo, hsunits]
    refine wordOfRatio_congr (Nat.mul_pos hone hone) Nat.one_pos ?_
    generalize Binary64.one = unit
    ring

def reread (x : Binary64) : Except ReadError Binary64 := readDocument readFloat (pretty (.num x))

theorem reread_eq (x : Binary64) : reread x = readFloat (node (.num x)) := readDocument_pretty readFloat (.num x)

theorem exists_reread {x : Binary64} (hx : x.isFinite = true) : ∃ y, reread x = .ok y := by
  rw [reread_eq, node, if_pos hx]
  exact readFloat_doubleNumeral hx

theorem float_doubleNumeral (x : Binary64) : (doubleNumeral x).fraction ≠ [] ∨ (doubleNumeral x).exponent ≠ none := by
  unfold doubleNumeral decimalNumeral
  split_ifs
  · exact .inl (by simp)
  · unfold positionalNumeral
    split
    · exact .inl (by simp [decimals_ne_nil])
    · refine .inl ?_
      dsimp only
      split <;> simp_all
  · exact .inr (by simp [scientificNumeral])

theorem doubleNumeral_injective {x y : Binary64} (hx : x.isFinite = true) (hy : y.isFinite = true)
    (h : doubleNumeral x = doubleNumeral y) : x = y := by
  refine ext_word ?_ ?_
  · rw [← negative_doubleNumeral, ← negative_doubleNumeral, h]
  · rw [← decimalWord_doubleNumeral hx, ← decimalWord_doubleNumeral hy, h]

/-- The digits printed make up a number of fifty-three bits, and the last of them stands for a power of ten between the
twenty-second and its inverse. -/
def IsShort (x : Binary64) : Prop :=
  (doubleNumeral x).significand < twoTo 53 ∧ (doubleNumeral x).scale.natAbs ≤ 22

/-- A double printed with few digits comes back. -/
theorem reread_of_isShort {x : Binary64} (hx : x.isFinite = true) (hshort : IsShort x) : reread x = .ok x := by
  obtain ⟨y, hy, hword, hsign⟩ := scaled_exact hshort.1 hshort.2
  rw [decimalWord_doubleNumeral hx] at hword
  have hsame : (if (doubleNumeral x).negative then -y else y) = x := by
    rw [negative_doubleNumeral]
    cases hneg : x.isNegative with
    | false => exact ext_word (hsign.trans hneg.symm) hword
    | true => exact ext_word (by rw [if_pos rfl, isNegative_neg, hsign, hneg]; rfl) ((word_neg y).trans hword)
  have h53 : twoTo 53 < twoTo 64 := by decide
  have hread := read_of_significand_lt (float_doubleNumeral x) (Nat.lt_trans hshort.1 h53)
  rw [hy] at hread
  rw [reread_eq, node, if_pos hx, readFloat, readNumber, hread]
  exact congrArg Except.ok hsame

end Json
end PassDelta
