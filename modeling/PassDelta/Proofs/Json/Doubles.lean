import PassDelta.Json.Value
import PassDelta.Proofs.Json.Numbers
import PassDelta.Proofs.Number.Rounding
/-!
# Doubles read back

A double is written with the digits of a short decimal, which is a numeral again, and rounding this numeral gives the
double. A numeral is read unless it is too large, which the numeral of a double is not.
-/

namespace PassDelta.Json
open Binary64

/-- Digits of which the first stands for `10 ^ top`, without an exponent. -/
def positionalNumeral (negative : Bool) (ds : List Nat) (top : Int) : Numeral :=
  if top < 0 then ⟨negative, [0], List.replicate (-top - 1).toNat 0 ++ ds, none⟩
  else
    let fraction := ds.drop (top.toNat + 1)
    ⟨negative, ds.take (top.toNat + 1) ++ List.replicate (top + 1 - ds.length).toNat 0,
      if fraction.isEmpty then [0] else fraction, none⟩

/-- Digits of which the first stands for `10 ^ top`, with this exponent. -/
def scientificNumeral (negative : Bool) (ds : List Nat) (top : Int) : Numeral :=
  ⟨negative, ds.take 1, ds.drop 1, some (top < 0, decimals top.natAbs)⟩

def decimalNumeral (negative : Bool) (d : Decimal) : Numeral :=
  if numberForm.positional (d.top) then positionalNumeral negative (decimals d.digits) (d.top)
  else scientificNumeral negative (decimals d.digits) (d.top)

def doubleNumeral (x : Binary64) : Numeral :=
  if x.word = 0 then ⟨x.isNegative, [0], [0], none⟩
  else decimalNumeral x.isNegative (Binary64.shortest numberForm.tieUp x.word)

theorem toList_sign (negative : Bool) : (if negative then "-" else "").toList = if negative then ['-'] else [] := by
  cases negative <;> rfl

theorem toList_zeros (n : Int) : (Binary64.zeros n).toList = digitChars (List.replicate n.toNat 0) := by
  rw [Binary64.zeros, String.toList_ofList, digitChars, List.map_replicate]
  rfl

theorem chars_positionalNumeral (negative : Bool) {ds : List Nat} (hds : ds ≠ []) (top : Int) :
    (positionalNumeral negative ds top).chars =
      ((if negative then "-" else "") ++ Binary64.writePositional (digitChars ds) top).toList := by
  rw [String.toList_append, toList_sign, Numeral.chars, positionalNumeral, Binary64.writePositional]
  by_cases hneg : top < 0
  · simp [hneg, toList_zeros, fractionChars, exponentChars, hds, digitChars]
  · by_cases hlong : ds.length ≤ top.toNat + 1
    · have hnone := List.drop_eq_nil_of_le hlong
      simp [hneg, toList_zeros, fractionChars, exponentChars, digitChars, hlong, hnone]
    · have hsome : ds.drop (top.toNat + 1) ≠ [] := by simpa using hlong
      simp [hneg, toList_zeros, fractionChars, exponentChars, digitChars, hlong, hsome]

theorem chars_scientificNumeral (negative : Bool) {ds : List Nat} (hds : ds ≠ []) (top : Int) :
    (scientificNumeral negative ds top).chars =
      ((if negative then "-" else "") ++ Binary64.writeScientific (digitChars ds) top).toList := by
  have hexponent : (toString top.natAbs).toList = digitChars (decimals top.natAbs) := by
    rw [digitChars, map_digitChar_decimals]
    exact String.toList_ofList
  have hmark : (if top < 0 then "e-" else "e+").toList = ['e', if top < 0 then '-' else '+'] := by
    split <;> rfl
  obtain ⟨d, ds, rfl⟩ := List.exists_cons_of_ne_nil hds
  rw [String.toList_append, toList_sign, Numeral.chars, scientificNumeral, Binary64.writeScientific]
  simp only [String.toList_append, hexponent, hmark]
  cases ds with
  | nil => simp [fractionChars, exponentChars, digitChars]
  | cons e es => simp [fractionChars, exponentChars, digitChars]


theorem chars_doubleNumeral (x : Binary64) : (doubleNumeral x).chars = (x.writeShortest numberForm).toList := by
  unfold doubleNumeral Binary64.writeShortest
  by_cases hzero : x.word = 0
  · rw [if_pos hzero, if_pos hzero, String.toList_append, toList_sign]
    simp [Numeral.chars, fractionChars, exponentChars, digitChars]
  · rw [if_neg hzero, if_neg hzero]
    generalize Binary64.shortest numberForm.tieUp x.word = d
    have hne := decimals_ne_nil d.digits
    have hdigits : Nat.toDigits 10 d.digits = digitChars (decimals d.digits) := (map_digitChar_decimals _).symm
    have htop : d.exponent + (digitChars (decimals d.digits)).length - 1 = d.top := by simp [digitChars, Decimal.top]
    simp only [hdigits, htop, decimalNumeral]
    split
    · exact chars_positionalNumeral _ hne _
    · exact chars_scientificNumeral _ hne _

theorem isWhole_take_one {ds : List Nat} (h : IsWhole ds) : IsWhole (ds.take 1) where
  ne_nil := by simpa using h.ne_nil
  digits d hd := h.digits d (List.mem_of_mem_take hd)
  zero := .inl (by simp)

theorem isPlain_scientificNumeral (negative : Bool) {ds : List Nat} (h : IsWhole ds) (top : Int) :
    (scientificNumeral negative ds top).IsPlain where
  whole := isWhole_take_one h
  fraction d hd := h.digits d (List.mem_of_mem_drop hd)
  exponent e he := by
    obtain rfl := Option.some.inj he
    exact ⟨decimals_ne_nil _, fun _ => lt_ten_of_mem_decimals⟩

/-- A zero in front of other digits of the whole part would have to stand for ten or more. -/
theorem isPlain_positionalNumeral (negative : Bool) {ds : List Nat} (h : IsWhole ds) {top : Int}
    (hzero : ds.head? ≠ some 0 ∨ top ≤ 0) : (positionalNumeral negative ds top).IsPlain := by
  have hfill (n : Nat) : ∀ d ∈ List.replicate n 0, d < 10 := fun d hd => by simp [List.eq_of_mem_replicate hd]
  unfold positionalNumeral
  split
  · exact {
      whole := ⟨by simp, by simp, .inl (by simp)⟩
      fraction := fun d hd => (List.mem_append.1 hd).elim (hfill _ d) (h.digits d)
      exponent := by simp }
  · next hpos =>
    exact {
      whole := {
        ne_nil := by simpa using fun hnil => absurd hnil h.ne_nil
        digits := fun d hd =>
          (List.mem_append.1 hd).elim (fun hd => h.digits d (List.mem_of_mem_take hd)) (hfill _ d)
        zero := by
          obtain ⟨d, ds, rfl⟩ := List.exists_cons_of_ne_nil h.ne_nil
          rcases hzero with hhead | htop
          · exact .inr (by simpa using hhead)
          · exact .inl (by simp; omega) }
      fraction := by
        intro d hd
        simp only at hd
        split at hd
        · simp at hd; omega
        · exact h.digits d (List.mem_of_mem_drop hd)
      exponent := by simp }

theorem isPlain_decimalNumeral (negative : Bool) {d : Decimal}
    (h : (decimals d.digits).head? ≠ some 0 ∨ d.top ≤ 0) : (decimalNumeral negative d).IsPlain := by
  unfold decimalNumeral
  split
  · exact isPlain_positionalNumeral negative (isWhole_decimals d.digits) h
  · exact isPlain_scientificNumeral negative (isWhole_decimals d.digits) d.top

theorem isPlain_doubleNumeral (x : Binary64) : (doubleNumeral x).IsPlain := by
  unfold doubleNumeral
  split
  · exact ⟨⟨by simp, by simp, .inl (by simp)⟩, by simp, by simp⟩
  · exact isPlain_decimalNumeral _ (head?_shortest _ _)

def Numeral.power (n : Numeral) : Int :=
  match n.exponent with
  | none => 0
  | some (negative, ds) => if negative then -(ofDecimals ds : Int) else ofDecimals ds

def Numeral.significand (n : Numeral) : Nat := ofDecimals (n.whole ++ n.fraction)

def Numeral.scale (n : Numeral) : Int := n.power - n.fraction.length

theorem ofDecimals_append_zeros (ds : List Nat) (k : Nat) :
    ofDecimals (ds ++ List.replicate k 0) = ofDecimals ds * tenTo k := by
  induction k with
  | zero => simp [tenTo]
  | succ k ih =>
    rw [List.replicate_succ', ← List.append_assoc, ofDecimals, List.foldl_append, ← ofDecimals, ih, tenTo_add]
    exact Nat.mul_assoc ..

theorem ofDecimals_zeros_append (k : Nat) (ds : List Nat) : ofDecimals (List.replicate k 0 ++ ds) = ofDecimals ds := by
  induction k with
  | zero => rfl
  | succ k ih => exact ih

theorem decimalWord_positionalNumeral (negative : Bool) (d : Decimal) :
    decimalWord (positionalNumeral negative (decimals d.digits) d.top).significand
      (positionalNumeral negative (decimals d.digits) d.top).scale = decimalWord d.digits d.exponent := by
  have hexponent : d.exponent = d.top + 1 - (decimals d.digits).length := by
    rw [Decimal.top]
    omega
  have hvalue := ofDecimals_decimals d.digits
  rw [hexponent]
  generalize d.top = top
  generalize decimals d.digits = ds at hvalue ⊢
  unfold positionalNumeral Numeral.significand Numeral.scale
  split
  · simp only [Numeral.power]
    have hdigits : ofDecimals ([0] ++ (List.replicate (-top - 1).toNat 0 ++ ds)) = d.digits :=
      (ofDecimals_zeros_append _ ds).trans hvalue
    rw [hdigits]
    congr 1
    simp only [List.length_append, List.length_replicate]
    omega
  · dsimp only [Numeral.power]
    by_cases hlong : ds.length ≤ top.toNat + 1
    · -- the zeros up to the point and the one behind it count for the exponent
      have hfill : ds.take (top.toNat + 1) ++ List.replicate (top + 1 - ds.length).toNat 0 ++ [0] =
          ds ++ List.replicate ((top + 1 - ds.length).toNat + 1) 0 := by
        rw [List.take_of_length_le hlong, List.append_assoc, ← List.replicate_succ']
      rw [List.drop_eq_nil_of_le hlong, List.isEmpty_nil, if_pos rfl, hfill, ofDecimals_append_zeros, hvalue,
        decimalWord_mul_tenTo]
      congr 1
      simp only [List.length_singleton]
      omega
    · have hfull : (ds.drop (top.toNat + 1)).isEmpty = false := by simpa using hlong
      have hnone : (top + 1 - ds.length).toNat = 0 := by omega
      simp only [hfull, hnone, List.replicate_zero, List.append_nil, Bool.false_eq_true, if_false,
        List.take_append_drop, hvalue, List.length_drop]
      congr 1
      omega

theorem significand_scientificNumeral (negative : Bool) (d : Decimal) :
    (scientificNumeral negative (decimals d.digits) d.top).significand = d.digits ∧
      (scientificNumeral negative (decimals d.digits) d.top).scale = d.exponent := by
  have hlength : 0 < (decimals d.digits).length := List.length_pos_iff.mpr (decimals_ne_nil _)
  constructor
  · rw [Numeral.significand, scientificNumeral]
    dsimp only
    rw [List.take_append_drop, ofDecimals_decimals]
  · have hsign : (if decide (d.top < 0) = true then -(d.top.natAbs : Int) else d.top.natAbs) = d.top := by
      simp only [decide_eq_true_eq]
      split <;> omega
    simp only [Numeral.scale, Numeral.power, scientificNumeral, ofDecimals_decimals, List.length_drop, hsign]
    rw [Decimal.top]
    omega

theorem decimalWord_decimalNumeral (negative : Bool) (d : Decimal) :
    decimalWord (decimalNumeral negative d).significand (decimalNumeral negative d).scale =
      decimalWord d.digits d.exponent := by
  unfold decimalNumeral
  split
  · exact decimalWord_positionalNumeral negative d
  · obtain ⟨hdigits, hexponent⟩ := significand_scientificNumeral negative d
    rw [hdigits, hexponent]

theorem decimalWord_doubleNumeral {x : Binary64} (hx : x.isFinite = true) :
    decimalWord (doubleNumeral x).significand (doubleNumeral x).scale = x.word := by
  rw [Binary64.isFinite, decide_eq_true_eq] at hx
  unfold doubleNumeral
  split
  · next hzero =>
    rw [hzero]
    change decimalWord 0 (-1) = 0
    decide +kernel
  · next hpos =>
    exact (decimalWord_decimalNumeral _ _).trans (shortest_spec numberForm.tieUp (Nat.pos_of_ne_zero hpos) hx).1

theorem negative_doubleNumeral (x : Binary64) : (doubleNumeral x).negative = x.isNegative := by
  unfold doubleNumeral decimalNumeral positionalNumeral scientificNumeral
  split_ifs <;> rfl

theorem absorb_fst_lt {s : Nat} (hs : s < twoTo 64) (ds : List Nat) : (absorb s ds).1 < twoTo 64 := by
  induction ds generalizing s with
  | nil => exact hs
  | cons d ds ih =>
    rw [absorb]
    split
    · exact hs
    · next hfits => exact ih (Nat.not_le.1 hfits)

theorem length_absorb_snd_le (s : Nat) (ds : List Nat) : (absorb s ds).2.length ≤ ds.length := by
  induction ds generalizing s with
  | nil => exact Nat.le_refl _
  | cons d ds ih =>
    rw [absorb]
    split
    · exact Nat.le_refl _
    · exact Nat.le_succ_of_le (ih _)

/-- A significand of 64 bits times a power of ten that is not too high is a double. -/
theorem scaled_ok {s : Nat} (hs : s < twoTo 64) {e : Int} (he : e ≤ 288) : ∃ y, scaled s e = .ok y := by
  unfold scaled
  by_cases hneg : e < 0
  · exact ⟨_, if_pos hneg⟩
  · have hhigh : ¬ 308 < e := by omega
    have htenTo : tenTo e.toNat < twoTo 957 := by
      have hbound : tenTo e.toNat ≤ tenTo 288 := tenTo_le_tenTo (by omega)
      have hlast : tenTo 288 < twoTo 957 := by decide +kernel
      exact Nat.lt_of_le_of_lt hbound hlast
    have hfinite : (Binary64.ofNat s * Binary64.ofNat (tenTo e.toNat)).isFinite = true :=
      isFinite_mul (by decide) (units_ofNat_lt hs) (units_ofNat_lt htenTo)
    have hinfinite : ¬ (Binary64.ofNat s * Binary64.ofNat (tenTo e.toNat)).isInfinite = true := by
      simp only [Binary64.isFinite, Binary64.isInfinite, decide_eq_true_eq] at hfinite ⊢
      omega
    simp only [if_neg hneg, if_neg hhigh, if_neg hinfinite]
    exact ⟨_, rfl⟩

theorem read_eq_scaled {n : Numeral} (hfloat : n.fraction ≠ [] ∨ n.exponent ≠ none) :
    let (s, lost) := absorb 0 n.whole
    let (s', unread) := absorb s n.fraction
    n.read = (fun x => .float (if n.negative then -x else x)) <$>
      scaled s' ((lost.length : Int) - (n.fraction.length - unread.length : Nat) + n.power) := by
  obtain ⟨negative, whole, fraction, exponent⟩ := n
  match fraction, exponent with
  | _ :: _, none => rfl
  | _ :: _, some _ => rfl
  | [], some _ => rfl
  | [], none => simp at hfloat

/-- A numeral that is not written whole is read as a double unless its power of ten is high. -/
theorem exists_read {n : Numeral} (hfloat : n.fraction ≠ [] ∨ n.exponent ≠ none)
    (hsmall : n.whole.length + n.power ≤ 288) : ∃ x, n.read = .ok (.float x) := by
  have hread := read_eq_scaled hfloat
  have hlost := length_absorb_snd_le 0 n.whole
  have hwhole := absorb_fst_lt (s := 0) (by decide) n.whole
  have hs := absorb_fst_lt hwhole n.fraction
  have hscale : ((absorb 0 n.whole).2.length : Int) -
      (n.fraction.length - (absorb (absorb 0 n.whole).1 n.fraction).2.length : Nat) + n.power ≤ 288 := by omega
  obtain ⟨y, hy⟩ := scaled_ok hs hscale
  exact ⟨_, hread.trans (congrArg (_ <$> ·) hy)⟩

theorem exists_read_positionalNumeral (negative : Bool) {ds : List Nat} (hds : ds ≠ []) {top : Int} (h : top ≤ 15) :
    ∃ x, (positionalNumeral negative ds top).read = .ok (.float x) := by
  unfold positionalNumeral
  split
  · exact exists_read (.inl (by simp [hds])) (by simp [Numeral.power])
  · refine exists_read (.inl ?_) ?_
    · dsimp only
      split <;> simp_all
    · simp [Numeral.power]
      omega

theorem exists_read_scientificNumeral (negative : Bool) (ds : List Nat) {top : Int} (h : top ≤ 287) :
    ∃ x, (scientificNumeral negative ds top).read = .ok (.float x) := by
  refine exists_read (.inr (by simp [scientificNumeral])) ?_
  have hlength : (scientificNumeral negative ds top).whole.length ≤ 1 := by simp [scientificNumeral]
  have hpower : (scientificNumeral negative ds top).power ≤ 287 := by
    simp only [Numeral.power, scientificNumeral, ofDecimals_decimals, decide_eq_true_eq]
    split <;> omega
  omega

/-- The digits of a numeral are all taken in if they make up a number of 64 bits. -/
theorem read_of_significand_lt {n : Numeral} (hfloat : n.fraction ≠ [] ∨ n.exponent ≠ none)
    (hsmall : n.significand < twoTo 64) :
    n.read = (fun x => .float (if n.negative then -x else x)) <$> scaled n.significand n.scale := by
  have hsplit : n.significand = n.fraction.foldl (fun n d => n * 10 + d) (ofDecimals n.whole) :=
    List.foldl_append
  rw [hsplit] at hsmall
  have hwhole : absorb 0 n.whole = (ofDecimals n.whole, []) :=
    absorb_of_lt (Nat.lt_of_le_of_lt (le_foldl n.fraction _) hsmall)
  have hread := read_eq_scaled hfloat
  simp only [hwhole, absorb_of_lt hsmall, ← hsplit] at hread
  rw [hread]
  congr 2
  rw [Numeral.scale, List.length_nil]
  omega

/-- The decimal of the greatest double. The next number of as many digits is rounded to the same double, but it is not
read, because its factors are rounded up. -/
def greatest : Nat := 17976931348623157 * tenTo 292

theorem shortest_greatest : shortest numberForm.tieUp (infinityWord - 1) = ⟨17976931348623157, 292⟩ := by
  decide +kernel

theorem shortest_le_greatest {word e : Nat} (hword : word < infinityWord)
    (hreads : decimalWord (shortest numberForm.tieUp word).digits e = word)
    (he : (shortest numberForm.tieUp word).exponent = e) :
    (shortest numberForm.tieUp word).digits * tenTo e ≤ greatest := by
  by_cases hlast : word = infinityWord - 1
  · subst hlast
    rw [shortest_greatest] at he ⊢
    obtain rfl : e = 292 := (Int.ofNat.inj he).symm
    dsimp only
    rw [greatest]
  · generalize (shortest numberForm.tieUp word).digits = digits at *
    have hgreatest : wordOfRatio greatest 1 = infinityWord - 1 := by decide +kernel
    rw [decimalWord_of_nonneg (by omega), Int.toNat_natCast] at hreads
    refine Nat.le_of_lt (Nat.not_le.mp fun hle => ?_)
    have hmono := wordOfRatio_mono Nat.one_pos Nat.one_pos (Nat.mul_le_mul_right 1 hle)
    omega

/-- The largest number of at most seventeen digits that does not exceed the greatest double when it is scaled. -/
def widest (e : Nat) : Nat := min (tenTo 17) (greatest / tenTo e)

/-- Also with the two factors rounded, such a number is a double, up to the highest powers of ten. -/
theorem isFinite_widest : ∀ k < 20, (ofNat (widest (289 + k)) * ofNat (tenTo (289 + k))).isFinite = true := by
  decide +kernel

theorem word_mul_mono {x x' y : Binary64} (h : x.units ≤ x'.units) : (x * y).word ≤ (x' * y).word := by
  have hden : 0 < Binary64.one * Binary64.one := Nat.mul_pos Binary64.one_pos Binary64.one_pos
  rw [word_mul, word_mul]
  exact wordOfRatio_mono hden hden (Nat.mul_le_mul_right _ (Nat.mul_le_mul_right _ h))

theorem units_ofNat_mono {m n : Nat} (h : m ≤ n) : (ofNat m).units ≤ (ofNat n).units := by
  rw [units, units, ofNat, ofNat, word_ofRatio, word_ofRatio]
  exact unitsOfWord_mono (wordOfRatio_mono Nat.one_pos Nat.one_pos (Nat.mul_le_mul_right 1 h))

theorem exponent_lt_of_le_greatest {s e : Nat} (hpos : 0 < s) (hle : s * tenTo e ≤ greatest) : e < 309 := by
  refine Nat.not_le.mp fun hlarge => ?_
  have hpower : tenTo 309 ≤ tenTo e := tenTo_le_tenTo hlarge
  have hlast : greatest < tenTo 309 := by decide +kernel
  exact Nat.not_le.mpr hlast (Nat.le_trans (Nat.le_trans hpower (Nat.le_mul_of_pos_left _ hpos)) hle)

/-- The first digit of a finite double does not stand for a much higher power of ten than the first one of the greatest
does. -/
theorem top_shortest_lt {word : Nat} (hpos : 0 < word) (hword : word < infinityWord) :
    (shortest numberForm.tieUp word).top < 330 := by
  obtain ⟨hreads, hdigits, hcount⟩ := shortest_spec numberForm.tieUp hpos hword
  have hle := shortest_le_greatest (e := (shortest numberForm.tieUp word).exponent.toNat) hword
  generalize shortest numberForm.tieUp word = d at *
  have hlength : digitCount d.digits ≤ 18 := digitCount_le (by decide) (Nat.lt_of_le_of_lt hcount (by decide))
  rw [Decimal.top, length_decimals]
  by_cases he : 0 ≤ d.exponent
  · have hexponent : d.exponent = d.exponent.toNat := by omega
    have hlt := exponent_lt_of_le_greatest hdigits (hle (by rwa [← hexponent]) hexponent)
    omega
  · omega

/-- At most seventeen digits, scaled up, are read as a double if they do not exceed the greatest one. -/
theorem scaled_ok_of_le_greatest {s e : Nat} (hpos : 0 < s) (hs : s ≤ tenTo 17) (hle : s * tenTo e ≤ greatest) :
    ∃ y, scaled s e = .ok y := by
  have hword : tenTo 17 < twoTo 64 := by decide
  by_cases hlow : e ≤ 288
  · exact scaled_ok (Nat.lt_of_le_of_lt hs hword) (by omega)
  have hwidest : s ≤ widest e := Nat.le_min.mpr ⟨hs, (Nat.le_div_iff_mul_le (tenTo_pos e)).mpr hle⟩
  have he := exponent_lt_of_le_greatest hpos hle
  have hfinite : (ofNat s * ofNat (tenTo e)).isFinite = true := by
    obtain ⟨k, rfl⟩ : ∃ k, e = 289 + k := ⟨e - 289, by omega⟩
    have hlast := isFinite_widest k (by omega)
    have hmono := word_mul_mono (y := ofNat (tenTo (289 + k))) (units_ofNat_mono hwidest)
    simp only [Binary64.isFinite, decide_eq_true_eq] at hlast ⊢
    exact Nat.lt_of_le_of_lt hmono hlast
  have hinfinite : ¬ (ofNat s * ofNat (tenTo e)).isInfinite = true := by
    simp only [Binary64.isFinite, Binary64.isInfinite, decide_eq_true_eq] at hfinite ⊢
    omega
  have hneg : ¬ (e : Int) < 0 := by omega
  have hhigh : ¬ (308 : Int) < e := by omega
  unfold scaled
  simp only [if_neg hneg, if_neg hhigh, Int.toNat_natCast, if_neg hinfinite]
  exact ⟨_, rfl⟩

theorem exists_read_doubleNumeral {x : Binary64} (hx : x.isFinite = true) :
    ∃ y, (doubleNumeral x).read = .ok (.float y) := by
  rw [Binary64.isFinite, decide_eq_true_eq] at hx
  unfold doubleNumeral
  split
  · exact exists_read (.inl (by simp)) (by simp [Numeral.power])
  · next hne =>
    obtain ⟨hreads, hpos, hdigits⟩ := shortest_spec numberForm.tieUp (Nat.pos_of_ne_zero hne) hx
    have hle := shortest_le_greatest (e := (shortest numberForm.tieUp x.word).exponent.toNat) hx
    generalize shortest numberForm.tieUp x.word = d at *
    unfold decimalNumeral
    split
    · next hform =>
      have htop : d.top ≤ 15 := by simp [numberForm] at hform; exact hform.2
      exact exists_read_positionalNumeral _ (decimals_ne_nil d.digits) htop
    · by_cases htop : d.top ≤ 287
      · exact exists_read_scientificNumeral _ (decimals d.digits) htop
      · -- the digits are not so many that the last one could stand for less than one
        have hcount : digitCount d.digits ≤ 18 :=
          digitCount_le (by decide) (Nat.lt_of_le_of_lt hdigits (by decide))
        rw [Decimal.top, length_decimals] at htop
        have he : d.exponent = d.exponent.toNat := by omega
        obtain ⟨hsignificand, hscale⟩ := significand_scientificNumeral x.isNegative d
        have hword : tenTo 17 < twoTo 64 := by decide
        obtain ⟨y, hy⟩ := scaled_ok_of_le_greatest hpos hdigits (hle (by rwa [← he]) he)
        refine ⟨if x.isNegative then -y else y, ?_⟩
        rw [read_of_significand_lt (.inr (by simp [scientificNumeral])) (by omega), hsignificand, hscale, he, hy]
        rfl

theorem readFloat_doubleNumeral {x : Binary64} (hx : x.isFinite = true) :
    ∃ y, readFloat (.num (doubleNumeral x)) = .ok y := by
  obtain ⟨y, hy⟩ := exists_read_doubleNumeral hx
  refine ⟨y, ?_⟩
  rw [readFloat, readNumber, hy]
  rfl

end PassDelta.Json
