import PassDelta.Proofs.Number.Shortest
/-!
# Rounding to doubles

Rounding keeps order, and a quotient much nearer to a double than the next double is rounded to it. The decimals of
seventeen digits lie close enough for that, so the shortest decimal of a double is always one that is rounded to it.
-/

namespace PassDelta

section RoundHalfEven
variable {num den num' den' r : Nat}

/-- A rounded quotient is at most a half away, and even if it is just a half away. -/
theorem roundHalfEven_spec (num : Nat) (hden : 0 < den) :
    2 * num ≤ 2 * (roundHalfEven num den * den) + den ∧ 2 * (roundHalfEven num den * den) ≤ 2 * num + den ∧
      (2 * num = 2 * (roundHalfEven num den * den) + den ∨ 2 * (roundHalfEven num den * den) = 2 * num + den →
        roundHalfEven num den % 2 = 0) := by
  have hdiv := Nat.div_add_mod' num den
  have hmod := Nat.mod_lt num hden
  have hnext : (num / den + 1) * den = num / den * den + den := Nat.succ_mul _ _
  unfold roundHalfEven
  dsimp only
  generalize num / den = q at *
  generalize num % den = rest at *
  split_ifs
  · omega
  · rw [hnext]; omega
  · omega
  · rw [hnext]; omega

theorem roundHalfEven_of_near (hden : 0 < den) (habove : 2 * num < 2 * (r * den) + den)
    (hbelow : 2 * (r * den) < 2 * num + den) : roundHalfEven num den = r := by
  obtain ⟨hhigh, hlow, -⟩ := roundHalfEven_spec num hden
  -- two whole numbers less than one apart are the same
  have hle : roundHalfEven num den < r + 1 := by
    refine lt_of_mul_lt_mul_right (a := den) ?_ (Nat.zero_le _)
    rw [Nat.succ_mul]
    omega
  have hge : r < roundHalfEven num den + 1 := by
    refine lt_of_mul_lt_mul_right (a := den) ?_ (Nat.zero_le _)
    rw [Nat.succ_mul]
    omega
  omega

theorem roundHalfEven_mono (hden : 0 < den) (hden' : 0 < den') (h : num * den' ≤ num' * den) :
    roundHalfEven num den ≤ roundHalfEven num' den' := by
  obtain ⟨-, hlow, heven⟩ := roundHalfEven_spec num hden
  obtain ⟨hhigh', -, heven'⟩ := roundHalfEven_spec num' hden'
  generalize roundHalfEven num den = r at *
  generalize roundHalfEven num' den' = r' at *
  by_contra hlt
  have hstep : r' + 1 ≤ r := Nat.not_le.mp hlt
  -- both are then a half away from the same quotient, and two neighbours are not both even
  have hcross : (r' + 1) * (den * den') ≤ r * (den * den') := Nat.mul_le_mul_right _ hstep
  have hscaled : 2 * (r * (den * den')) ≤ 2 * (num * den') + den * den' := by
    have := Nat.mul_le_mul_right den' hlow
    calc 2 * (r * (den * den')) = 2 * (r * den) * den' := by ring
      _ ≤ (2 * num + den) * den' := this
      _ = 2 * (num * den') + den * den' := by ring
  have hscaled' : 2 * (num' * den) ≤ 2 * (r' * (den * den')) + den * den' := by
    have := Nat.mul_le_mul_right den hhigh'
    calc 2 * (num' * den) = 2 * num' * den := by ring
      _ ≤ (2 * (r' * den') + den') * den := this
      _ = 2 * (r' * (den * den')) + den * den' := by ring
  have hnext : (r' + 1) * (den * den') = r' * (den * den') + den * den' := Nat.succ_mul _ _
  have hr : r = r' + 1 := by
    have hle : r * (den * den') ≤ (r' + 1) * (den * den') := by omega
    exact Nat.le_antisymm (le_of_mul_le_mul_right hle (Nat.mul_pos hden hden')) hstep
  have htie : 2 * (r * den) = 2 * num + den := by
    refine Nat.le_antisymm hlow (le_of_mul_le_mul_right ?_ hden')
    calc (2 * num + den) * den' = 2 * (num * den') + den * den' := by ring
      _ ≤ 2 * (r * (den * den')) := by subst hr; omega
      _ = 2 * (r * den) * den' := by ring
  have htie' : 2 * num' = 2 * (r' * den') + den' := by
    refine Nat.le_antisymm hhigh' (le_of_mul_le_mul_right ?_ hden)
    calc (2 * (r' * den') + den') * den = 2 * (r' * (den * den')) + den * den' := by ring
      _ ≤ 2 * (num' * den) := by subst hr; omega
      _ = 2 * num' * den := by ring
  have := heven (.inr htie)
  have := heven' (.inl htie')
  omega

end RoundHalfEven

namespace Binary64

section Words
variable {num den num' den' word word' : Nat}

theorem wordOfRatio_of_scale {scale : Nat} (hlow : scale = 0 ∨ twoTo (52 + scale) ≤ num * one / den)
    (hhigh : num * one / den < twoTo (53 + scale)) : wordOfRatio num den =
      min infinityWord (scale * twoTo 52 + roundHalfEven (num * one) (den * twoTo scale)) := by
  have hscale : (num * one / den).log2 - 52 = scale := by
    by_cases hzero : num * one / den = 0
    · have hnone : scale = 0 := by
        rcases hlow with hlow | hlow
        · exact hlow
        · have := twoTo_pos (52 + scale)
          omega
      simp [hzero, hnone]
    · have hlt := (Nat.log2_lt hzero).mpr hhigh
      rcases hlow with hlow | hlow
      · omega
      · have := (Nat.le_log2 hzero).mpr hlow
        omega
  rw [wordOfRatio, hscale]

theorem wordOfRatio_mono (hden : 0 < den) (hden' : 0 < den') (h : num * den' ≤ num' * den) :
    wordOfRatio num den ≤ wordOfRatio num' den' := by
  have hunits : num * one * den' ≤ num' * one * den := by
    calc num * one * den' = num * den' * one := by ring
      _ ≤ num' * den * one := Nat.mul_le_mul_right _ h
      _ = num' * one * den := by ring
  have hquotient : num * one / den ≤ num' * one / den' := by
    rw [Nat.le_div_iff_mul_le hden']
    refine le_of_mul_le_mul_right ?_ hden
    calc num * one / den * den' * den = num * one / den * den * den' := by ring
      _ ≤ num * one * den' := Nat.mul_le_mul_right _ (Nat.div_mul_le_self _ _)
      _ ≤ num' * one * den := hunits
  have hlogs : (num * one / den).log2 ≤ (num' * one / den').log2 := by
    by_cases hzero : num * one / den = 0
    · simp [hzero]
    · have hpos := Nat.lt_of_lt_of_le (Nat.pos_of_ne_zero hzero) hquotient
      exact (Nat.le_log2 (Nat.ne_of_gt hpos)).mpr (Nat.le_trans (Nat.log2_self_le hzero) hquotient)
  by_cases hsame : (num * one / den).log2 - 52 = (num' * one / den').log2 - 52
  · unfold wordOfRatio
    dsimp only
    rw [hsame]
    refine min_le_min_left _ (Nat.add_le_add_left (roundHalfEven_mono ?_ ?_ ?_) _)
    · exact Nat.mul_pos hden (twoTo_pos _)
    · exact Nat.mul_pos hden' (twoTo_pos _)
    · calc num * one * (den' * twoTo _) = num * one * den' * twoTo _ := by ring
        _ ≤ num' * one * den * twoTo _ := Nat.mul_le_mul_right _ hunits
        _ = num' * one * (den * twoTo _) := by ring
  · -- the words are on both sides of a power of two
    obtain ⟨j, hj⟩ := Nat.exists_eq_succ_of_ne_zero (show (num' * one / den').log2 - 52 ≠ 0 by omega)
    have hbelow : num * one / den < twoTo (j + 1 + 52) :=
      Nat.lt_of_lt_of_le Nat.lt_log2_self (twoTo_le_twoTo (by omega))
    have hne : num' * one / den' ≠ 0 := by
      intro hzero
      simp [hzero] at hj
    have habove : twoTo (j + 1 + 52) ≤ num' * one / den' :=
      Nat.le_trans (twoTo_le_twoTo (by omega)) (Nat.log2_self_le hne)
    by_cases hfinite : j + 1 + 1 ≤ 2047
    · exact Nat.le_trans (wordOfRatio_le (Nat.succ_pos j) hbelow) (le_wordOfRatio hfinite habove)
    · have hinfinite : wordOfRatio num' den' = infinityWord := by
        unfold wordOfRatio
        dsimp only
        rw [hj]
        refine Nat.min_eq_left (Nat.le_trans (Nat.mul_le_mul_right (twoTo 52) ?_) (Nat.le_add_right _ _))
        omega
      rw [hinfinite]
      exact Nat.min_le_left _ _

theorem exists_fields (word : Nat) : ∃ k f, f < twoTo 52 ∧ word = k * twoTo 52 + f ∧
    unitsOfWord word = if k = 0 then f else (twoTo 52 + f) * twoTo (k - 1) :=
  ⟨_, _, Nat.mod_lt word (twoTo_pos 52), (Nat.div_add_mod' word (twoTo 52)).symm, rfl⟩

theorem unitsOfWord_mono (h : word ≤ word') : unitsOfWord word ≤ unitsOfWord word' := by
  obtain ⟨k, f, hf, rfl, hunits⟩ := exists_fields word
  obtain ⟨k', f', hf', rfl, hunits'⟩ := exists_fields word'
  have hexponent : k ≤ k' := by
    by_contra hlt
    have := Nat.mul_le_mul_right (twoTo 52) (Nat.not_le.mp hlt)
    rw [Nat.succ_mul] at this
    omega
  rw [hunits, hunits']
  have hdouble : twoTo 53 = twoTo 52 + twoTo 52 := by decide
  rcases Nat.eq_or_lt_of_le hexponent with rfl | hless
  · have hle : f ≤ f' := by omega
    split_ifs
    · exact hle
    · exact Nat.mul_le_mul_right _ (Nat.add_le_add_left hle _)
  · rw [if_neg (Nat.ne_zero_of_lt hless)]
    refine Nat.le_trans ?_ (Nat.mul_le_mul_right _ (Nat.le_add_right (twoTo 52) f'))
    rw [← twoTo_add]
    split_ifs
    · exact Nat.le_trans (Nat.le_of_lt hf) (twoTo_le_twoTo (Nat.le_add_right _ _))
    · calc (twoTo 52 + f) * twoTo (k - 1) ≤ twoTo 53 * twoTo (k - 1) := Nat.mul_le_mul_right _ (by omega)
        _ = twoTo (53 + (k - 1)) := (twoTo_add _ _).symm
        _ ≤ twoTo (52 + (k' - 1)) := twoTo_le_twoTo (by omega)

/-- A quotient of at most fifty-three bits behind which `scale` places are dropped, and the whole number it is nearest
to. -/
theorem wordOfRatio_of_nearest (scale nearest : Nat) (hden : 0 < den)
    (hlow : scale = 0 ∨ twoTo 52 * (den * twoTo scale) ≤ num * one)
    (hhigh : num * one < twoTo 53 * (den * twoTo scale))
    (habove : 2 * (num * one) < 2 * (nearest * (den * twoTo scale)) + den * twoTo scale)
    (hbelow : 2 * (nearest * (den * twoTo scale)) < 2 * (num * one) + den * twoTo scale) :
    wordOfRatio num den = min infinityWord (scale * twoTo 52 + nearest) := by
  have hpos : 0 < den * twoTo scale := Nat.mul_pos hden (twoTo_pos scale)
  have hplaces (bits : Nat) : twoTo bits * (den * twoTo scale) = twoTo (bits + scale) * den := by
    rw [twoTo_add]
    ring
  rw [hplaces] at hlow hhigh
  rw [wordOfRatio_of_scale (hlow.imp_right (Nat.le_div_iff_mul_le hden).mpr) ((Nat.div_lt_iff_lt_mul hden).mpr hhigh),
    roundHalfEven_of_near hpos habove hbelow]

/-- A quotient of units that is off by less than one part in `2 ^ 54` is rounded to the double of these units. -/
theorem wordOfRatio_of_near (hden : 0 < den) (hword : word < infinityWord)
    (habove : twoTo 54 * (num * one) < (twoTo 54 + 1) * (unitsOfWord word * den))
    (hbelow : (twoTo 54 - 1) * (unitsOfWord word * den) < twoTo 54 * (num * one)) : wordOfRatio num den = word := by
  have h52 : twoTo 52 = 4503599627370496 := rfl
  have h53 : twoTo 53 = 9007199254740992 := rfl
  have h54 : twoTo 54 = 18014398509481984 := rfl
  have hmin {w : Nat} (hw : w = word) : min infinityWord w = word := by
    rw [hw]
    exact Nat.min_eq_right (Nat.le_of_lt hword)
  obtain ⟨k, f, hf, hfields, hunits⟩ := exists_fields word
  by_cases hsmall : k ≤ 1
  · -- the units are the word itself, and no place is dropped
    have hsame : unitsOfWord word = word := by
      rw [hunits, hfields]
      obtain rfl | rfl : k = 0 ∨ k = 1 := by omega
      · simp
      · simp [twoTo]
    have hproduct : (word + 1) * den ≤ twoTo 53 * den := by
      have := Nat.mul_le_mul_right (twoTo 52) hsmall
      exact Nat.mul_le_mul_right den (by omega)
    have hstep : den * twoTo 0 = den := Nat.mul_one den
    rw [Nat.succ_mul, h53] at hproduct
    rw [hsame, h54] at habove hbelow
    rw [wordOfRatio_of_nearest 0 word hden (.inl rfl)]
    · exact hmin (by omega)
    all_goals rw [hstep]
    · rw [h53]
      omega
    · omega
    · omega
  · obtain ⟨s, rfl⟩ : ∃ s, k = s + 2 := ⟨k - 2, by omega⟩
    have hscaled : unitsOfWord word * den = (twoTo 52 + f) * (den * twoTo (s + 1)) := by
      rw [hunits, if_neg (by omega)]
      change (twoTo 52 + f) * twoTo (s + 1) * den = _
      ring
    have hlow : twoTo 52 * (den * twoTo (s + 1)) ≤ (twoTo 52 + f) * (den * twoTo (s + 1)) :=
      Nat.mul_le_mul_right _ (Nat.le_add_right _ _)
    have hhigh : (twoTo 52 + f + 1) * (den * twoTo (s + 1)) ≤ twoTo 53 * (den * twoTo (s + 1)) :=
      Nat.mul_le_mul_right _ (by omega)
    rw [hscaled, h54] at habove hbelow
    rw [Nat.succ_mul] at hhigh
    by_cases hbinade : twoTo 52 * (den * twoTo (s + 1)) ≤ num * one
    · rw [wordOfRatio_of_nearest (s + 1) (twoTo 52 + f) hden (.inr hbinade)]
      · exact hmin (by rw [hfields]; ring)
      all_goals
        rw [h53] at *
        omega
    · -- below a power of two the doubles lie twice as close
      have hleast : f = 0 := by
        by_contra hf
        have hmore := Nat.mul_le_mul_right (den * twoTo (s + 1))
          (Nat.add_le_add_left (Nat.pos_of_ne_zero hf) (twoTo 52))
        rw [Nat.succ_mul] at hmore
        rw [h53] at hhigh
        omega
      have hhalf : den * twoTo (s + 1) = 2 * (den * twoTo s) := by
        rw [twoTo_add]
        change den * (twoTo s * 2) = _
        ring
      subst hleast
      rw [hhalf, h52] at habove hbelow hbinade
      rw [wordOfRatio_of_nearest s (twoTo 53) hden (.inr ?_)]
      · exact hmin (by rw [hfields, h52, h53]; ring)
      all_goals
        simp only [h52, h53]
        omega

theorem wordOfRatio_congr (hden : 0 < den) (hden' : 0 < den') (h : num * den' = num' * den) :
    wordOfRatio num den = wordOfRatio num' den' :=
  Nat.le_antisymm (wordOfRatio_mono hden hden' (Nat.le_of_eq h)) (wordOfRatio_mono hden' hden (Nat.le_of_eq h.symm))

theorem unitsOfWord_pos (h : 0 < word) : 0 < unitsOfWord word := by
  obtain ⟨k, f, -, hfields, hunits⟩ := exists_fields word
  rw [hunits]
  split_ifs with hzero
  · subst hzero
    omega
  · exact Nat.mul_pos (Nat.add_pos_left (twoTo_pos 52) f) (twoTo_pos _)

end Words

/-- The word with the digits `m` behind which `s` places follow. -/
theorem unitsOfWord_of_fields {m s : Nat} (hlow : twoTo 52 ≤ m) (hhigh : m < twoTo 53) :
    unitsOfWord ((s + 1) * twoTo 52 + (m - twoTo 52)) = m * twoTo s := by
  have hdouble : twoTo 53 = twoTo 52 + twoTo 52 := by decide
  have hrest : m - twoTo 52 < twoTo 52 := by omega
  have hexponent : ((s + 1) * twoTo 52 + (m - twoTo 52)) / twoTo 52 = s + 1 := by
    rw [Nat.add_comm, Nat.add_mul_div_right _ _ (twoTo_pos 52), Nat.div_eq_of_lt hrest, Nat.zero_add]
  have hfraction : ((s + 1) * twoTo 52 + (m - twoTo 52)) % twoTo 52 = m - twoTo 52 := by
    rw [Nat.add_comm, Nat.add_mul_mod_self_right, Nat.mod_eq_of_lt hrest]
  rw [unitsOfWord, hexponent, hfraction, if_neg (Nat.succ_ne_zero s), Nat.add_sub_cancel' hlow, Nat.add_sub_cancel]

/-- A number of fifty-three bits is a double. -/
theorem units_ofNat_of_lt {n : Nat} (h : n < twoTo 53) : (ofNat n).units = n * one := by
  rcases Nat.eq_zero_or_pos n with rfl | hpos
  · rw [Nat.zero_mul]
    decide +kernel
  have hne := Nat.ne_of_gt hpos
  have hlog : n.log2 < 53 := (Nat.log2_lt hne).mpr h
  have hlow : twoTo 52 ≤ n * twoTo (52 - n.log2) := by
    calc twoTo 52 = twoTo n.log2 * twoTo (52 - n.log2) := by rw [← twoTo_add]; congr 1; omega
      _ ≤ n * twoTo (52 - n.log2) := Nat.mul_le_mul_right _ (Nat.log2_self_le hne)
  have hhigh : n * twoTo (52 - n.log2) < twoTo 53 := by
    calc n * twoTo (52 - n.log2) < twoTo (n.log2 + 1) * twoTo (52 - n.log2) :=
          Nat.mul_lt_mul_of_pos_right Nat.lt_log2_self (twoTo_pos _)
      _ = twoTo 53 := by rw [← twoTo_add]; congr 1; omega
  have hunits := unitsOfWord_of_fields (s := 1022 + n.log2) hlow hhigh
  have hplaces : n * twoTo (52 - n.log2) * twoTo (1022 + n.log2) = n * one := by
    rw [Nat.mul_assoc, ← twoTo_add, one]
    congr 2
    omega
  rw [hplaces] at hunits
  have hword : (1022 + n.log2 + 1) * twoTo 52 + (n * twoTo (52 - n.log2) - twoTo 52) < infinityWord := by
    have h52 : twoTo 52 = 4503599627370496 := rfl
    have h53 : twoTo 53 = 9007199254740992 := rfl
    have hlast : infinityWord = 2047 * 4503599627370496 := rfl
    have hexponent : (1022 + n.log2 + 1) * twoTo 52 ≤ 1075 * twoTo 52 := Nat.mul_le_mul_right _ (by omega)
    omega
  have hpositive : 0 < n * one := Nat.mul_pos hpos one_pos
  rw [units, ofNat, word_ofRatio, wordOfRatio_of_near Nat.one_pos hword, hunits]
  · rw [hunits, Nat.mul_one]
    exact Nat.mul_lt_mul_of_pos_right (Nat.lt_succ_self _) hpositive
  · rw [hunits, Nat.mul_one]
    exact Nat.mul_lt_mul_of_pos_right (by decide) hpositive

theorem units_ofNat_tenTo : ∀ k < 23, (ofNat (tenTo k)).units = tenTo k * one := by decide +kernel

theorem ext_word {x y : Binary64} (hsign : x.isNegative = y.isNegative) (hword : x.word = y.word) : x = y := by
  obtain ⟨x⟩ := x
  obtain ⟨y⟩ := y
  have h63 : twoTo 63 = 9223372036854775808 := rfl
  have hx := x.toNat_lt
  have hy := y.toNat_lt
  simp only [isNegative, word, h63, decide_eq_decide] at hsign hword
  congr 1
  exact UInt64.toNat_inj.mp (by omega)

theorem word_mul (x y : Binary64) : (x * y).word = wordOfRatio (x.units * y.units) (one * one) := word_ofRatio

theorem word_div (x y : Binary64) : (x / y).word = wordOfRatio x.units y.units := word_ofRatio

theorem word_neg (x : Binary64) : (-x).word = x.word :=
  word_ofWord _ (Nat.mod_lt _ (twoTo_pos 63))

section Decimals
variable {word digits : Nat} {e : Int}

def decimalWord (digits : Nat) (e : Int) : Nat := wordOfRatio (ratioOf digits e).1 (ratioOf digits e).2

theorem readsBack_iff : readsBack word digits e = true ↔ decimalWord digits e = word := by
  simp [readsBack, decimalWord]

theorem decimalWord_of_nonneg (h : 0 ≤ e) : decimalWord digits e = wordOfRatio (digits * tenTo e.toNat) 1 := by
  simp [decimalWord, ratioOf, h]

theorem decimalWord_of_neg (h : ¬ 0 ≤ e) : decimalWord digits e = wordOfRatio digits (tenTo (-e).toNat) := by
  simp [decimalWord, ratioOf, h]

/-- A zero at the end of the digits counts for the exponent. -/
theorem decimalWord_mul_ten (digits : Nat) (e : Int) : decimalWord (digits * 10) e = decimalWord digits (e + 1) := by
  have hten (n : Nat) : tenTo (n + 1) = tenTo n * 10 := Nat.pow_succ ..
  by_cases hpos : 0 ≤ e
  · have hplaces : (e + 1).toNat = e.toNat + 1 := by omega
    rw [decimalWord_of_nonneg hpos, decimalWord_of_nonneg (by omega), hplaces, hten]
    congr 1
    ring
  · by_cases hone : e = -1
    · subst hone
      rw [decimalWord_of_neg hpos, decimalWord_of_nonneg (by decide)]
      refine wordOfRatio_congr (tenTo_pos _) Nat.one_pos ?_
      change digits * 10 * 1 = digits * tenTo 0 * tenTo 1
      simp [tenTo]
    · have hplaces : (-e).toNat = (-(e + 1)).toNat + 1 := by omega
      rw [decimalWord_of_neg hpos, decimalWord_of_neg (by omega), hplaces, hten]
      exact wordOfRatio_congr (Nat.mul_pos (tenTo_pos _) (by decide)) (tenTo_pos _) (by ring)

theorem decimalWord_mul_tenTo (digits k : Nat) (e : Int) :
    decimalWord (digits * tenTo k) e = decimalWord digits (e + k) := by
  induction k generalizing e with
  | zero => simp [tenTo]
  | succ k ih =>
    have hten : digits * tenTo (k + 1) = digits * tenTo k * 10 := by
      rw [tenTo_add]
      exact (Nat.mul_assoc ..).symm
    rw [hten, decimalWord_mul_ten, ih]
    congr 1
    push_cast
    ring

theorem decimalWord_strip (fuel digits : Nat) (e : Int) :
    decimalWord (Decimal.strip fuel digits e).digits (Decimal.strip fuel digits e).exponent = decimalWord digits e := by
  induction fuel generalizing digits e with
  | zero => rfl
  | succ fuel ih =>
    rw [Decimal.strip]
    split
    · next hzero =>
      rw [ih, ← decimalWord_mul_ten]
      congr 1
      omega
    · rfl

theorem digits_strip_le (fuel digits : Nat) (e : Int) : (Decimal.strip fuel digits e).digits ≤ digits := by
  induction fuel generalizing digits e with
  | zero => exact Nat.le_refl _
  | succ fuel ih =>
    rw [Decimal.strip]
    split
    · exact Nat.le_trans (ih _ _) (Nat.div_le_self _ _)
    · exact Nat.le_refl _

theorem steps_of_nonneg (h : 0 ≤ e) : steps word e = (unitsOfWord word, one * tenTo e.toNat) := if_pos h

theorem steps_of_neg (h : ¬ 0 ≤ e) : steps word e = (unitsOfWord word * tenTo (-e).toNat, one) := if_neg h

theorem steps_pos (word : Nat) (e : Int) : 0 < (steps word e).2 := by
  by_cases h : 0 ≤ e
  · rw [steps_of_nonneg h]
    exact Nat.mul_pos one_pos (tenTo_pos _)
  · rw [steps_of_neg h]
    dsimp only
    exact one_pos

/-- A multiple of a step so small is rounded to the magnitude if it is not off by more than half a step. -/
theorem decimalWord_of_steps (hword : word < infinityWord) (hsmall : tenTo 16 * (steps word e).2 ≤ (steps word e).1)
    (habove : 2 * (digits * (steps word e).2) ≤ 2 * (steps word e).1 + (steps word e).2)
    (hbelow : 2 * (steps word e).1 ≤ 2 * (digits * (steps word e).2) + (steps word e).2) :
    decimalWord digits e = word := by
  have h16 : tenTo 16 = 10000000000000000 := rfl
  have h54 : twoTo 54 = 18014398509481984 := rfl
  have hstep := steps_pos word e
  rw [h16] at hsmall
  by_cases he : 0 ≤ e
  · rw [steps_of_nonneg he] at *
    dsimp only at *
    have hunits : digits * tenTo e.toNat * one = digits * (one * tenTo e.toNat) := by ring
    rw [decimalWord_of_nonneg he]
    refine wordOfRatio_of_near Nat.one_pos hword ?_ ?_ <;> rw [hunits, Nat.mul_one, h54] <;> omega
  · rw [steps_of_neg he] at *
    dsimp only at *
    rw [decimalWord_of_neg he]
    refine wordOfRatio_of_near (tenTo_pos _) hword ?_ ?_ <;> rw [h54] <;> omega

theorem tenTo_le_of_digitCount {n : Nat} (h : 0 < n) : tenTo (digitCount n - 1) ≤ n := by
  by_cases hone : digitCount n - 1 = 0
  · rw [hone]
    exact h
  · refine Nat.not_lt.mp fun hlt => ?_
    have := digitCount_le (Nat.pos_of_ne_zero hone) hlt
    omega

theorem lt_tenTo_digitCount (n : Nat) : n < tenTo (digitCount n) := by
  rcases Nat.eq_zero_or_pos (digitCount n) with hzero | hpos
  · exact absurd (List.length_eq_zero_iff.mp hzero) Nat.toDigits_ne_nil
  · exact (Nat.length_toDigits_le_iff (by decide) hpos).mp (Nat.le_refl _)

/-- A power of ten is compared with a magnitude in steps of another as it is compared with the magnitude in units. -/
theorem tenTo_mul_steps_le_iff {m k : Nat} (h : (m : Int) + e + 324 = k) :
    tenTo m * (steps word e).2 ≤ (steps word e).1 ↔ tenTo k * one ≤ unitsOfWord word * tenTo 324 := by
  have h324 := tenTo_pos 324
  by_cases he : 0 ≤ e
  · obtain ⟨j, rfl⟩ := Int.eq_ofNat_of_zero_le he
    have hk : k = m + j + 324 := by omega
    rw [steps_of_nonneg he, hk, tenTo_add, tenTo_add, Int.toNat_natCast]
    dsimp only
    generalize one = unit
    have hleft : tenTo m * tenTo j * tenTo 324 * unit = tenTo m * (unit * tenTo j) * tenTo 324 := by ring
    rw [hleft, Nat.mul_le_mul_right_iff h324]
  · obtain ⟨j, hj⟩ := Int.eq_ofNat_of_zero_le (show 0 ≤ -e by omega)
    have hk : m + 324 = k + j := by omega
    have hten : tenTo m * tenTo 324 = tenTo k * tenTo j := by rw [← tenTo_add, ← tenTo_add, hk]
    rw [steps_of_neg he, hj, Int.toNat_natCast]
    dsimp only
    generalize one = unit
    have hleft : tenTo m * unit * tenTo 324 = tenTo k * unit * tenTo j := by
      calc tenTo m * unit * tenTo 324 = tenTo m * tenTo 324 * unit := by ring
        _ = tenTo k * unit * tenTo j := by rw [hten]; ring
    have hright : unitsOfWord word * tenTo j * tenTo 324 = unitsOfWord word * tenTo 324 * tenTo j := by ring
    rw [← Nat.mul_le_mul_right_iff h324, hleft, hright, Nat.mul_le_mul_right_iff (tenTo_pos j)]

/-- In steps `n` places below its leading digit, a magnitude has `n + 1` digits. -/
theorem steps_leading (hpos : 0 < word) (n : Nat) (he : e = leadingExponent word - n) :
    tenTo n * (steps word e).2 ≤ (steps word e).1 ∧ (steps word e).1 < tenTo (n + 1) * (steps word e).2 := by
  have hscale : one ≤ tenTo 324 := by decide +kernel
  rw [leadingExponent] at he
  generalize hq : unitsOfWord word * tenTo 324 / one = q at he
  have hqpos : 0 < q := by
    rw [← hq, Nat.div_pos_iff]
    exact ⟨one_pos, Nat.le_trans hscale (Nat.le_mul_of_pos_left _ (unitsOfWord_pos hpos))⟩
  have hcount : 0 < digitCount q := List.length_pos_iff.mpr Nat.toDigits_ne_nil
  constructor
  · rw [tenTo_mul_steps_le_iff (k := digitCount q - 1) (by omega), ← Nat.le_div_iff_mul_le one_pos, hq]
    exact tenTo_le_of_digitCount hqpos
  · rw [← Nat.not_le, tenTo_mul_steps_le_iff (k := digitCount q) (by omega), Nat.not_le,
      ← Nat.div_lt_iff_lt_mul one_pos, hq]
    exact lt_tenTo_digitCount q

/-- On a grid of seventeen digits one of the two neighbours reads back: the nearer one does. -/
theorem exists_neighbour? (tieUp : Bool) (hword : word < infinityWord)
    (hsmall : tenTo 16 * (steps word e).2 ≤ (steps word e).1) : ∃ d, neighbour? tieUp word e = some d := by
  rcases neighbour?_spec tieUp word e with ⟨d, hd, -⟩ | ⟨-, hbelow, habove⟩
  · exact ⟨d, hd⟩
  have hden := steps_pos word e
  have hdiv := Nat.div_add_mod' (steps word e).1 (steps word e).2
  have hmod := Nat.mod_lt (steps word e).1 hden
  have hfloor : 0 < gridFloor word e :=
    Nat.lt_of_lt_of_le (tenTo_pos 16) ((Nat.le_div_iff_mul_le hden).mpr hsmall)
  rw [readsBack_iff] at hbelow habove
  unfold gridFloor at *
  have hnext : ((steps word e).1 / (steps word e).2 + 1) * (steps word e).2 =
      (steps word e).1 / (steps word e).2 * (steps word e).2 + (steps word e).2 := Nat.succ_mul _ _
  by_cases hhalf : 2 * ((steps word e).1 % (steps word e).2) ≤ (steps word e).2
  · exact absurd ⟨hfloor, decimalWord_of_steps hword hsmall (by omega) (by omega)⟩ hbelow
  · exact absurd (decimalWord_of_steps hword hsmall (by omega) (by omega)) habove

/-- The shortest decimal of a positive finite magnitude is rounded to it, and it has not more than seventeen digits. -/
theorem shortest_spec (tieUp : Bool) (hpos : 0 < word) (hword : word < infinityWord) :
    decimalWord (shortest tieUp word).digits (shortest tieUp word).exponent = word ∧
      0 < (shortest tieUp word).digits ∧ (shortest tieUp word).digits ≤ tenTo 17 := by
  rcases shortest_cases tieUp word with ⟨-, hnone⟩ | ⟨n, hn, d, hd, heq⟩
  · obtain ⟨hleading, -⟩ := steps_leading hpos 16 rfl
    obtain ⟨d, hd⟩ := exists_neighbour? tieUp hword hleading
    rw [hnone 16 (by decide)] at hd
    cases hd
  · obtain ⟨hd0, hle, hreads⟩ := neighbour?_eq_some hd
    obtain ⟨-, hdigits⟩ := steps_leading hpos n rfl
    have hfloor : gridFloor word (leadingExponent word - n) < tenTo (n + 1) :=
      (Nat.div_lt_iff_lt_mul (steps_pos _ _)).mpr hdigits
    have hplaces : tenTo (n + 1) ≤ tenTo 17 := tenTo_le_tenTo hn
    rw [heq, decimalWord_strip]
    refine ⟨readsBack_iff.mp hreads, (strip_keeps hd0 20 _).1, Nat.le_trans (digits_strip_le 20 d _) ?_⟩
    omega

end Decimals
end Binary64
end PassDelta
