import Mathlib.Algebra.Order.Field.Basic
import Mathlib.Algebra.Order.Field.Power
import Mathlib.Algebra.Order.Ring.Rat
import Mathlib.Tactic.FieldSimp
import Mathlib.Tactic.Linarith
import PassDelta.Proofs.Json.Numbers
import PassDelta.Proofs.Number.Rounding
import PassDelta.Report
/-!
# Percentages

A finite double is its fraction scaled by its exponent. Its text as a percentage shows the tenth nearest to that exact
value, of two equally near ones the even one, so the numbers shown are ordered as the values are.
-/

namespace PassDelta

namespace Binary64

def exponentBits (x : Binary64) : Nat := x.bits.toNat / 2 ^ 52 % 2 ^ 11

def fractionBits (x : Binary64) : Nat := x.bits.toNat % 2 ^ 52

/-- The number that a finite double is: without exponent its fraction alone, else its fraction behind a leading one. -/
def value (x : Binary64) : ℚ :=
  (if x.isNegative then -1 else 1) *
    if x.exponentBits = 0 then (x.fractionBits : ℚ) * 2 ^ (-1074 : ℤ)
    else (2 ^ 52 + x.fractionBits : ℚ) * 2 ^ ((x.exponentBits : ℤ) - 1075)

theorem word_exponent (x : Binary64) : x.word / twoTo 52 = x.exponentBits := by
  have hsplit : twoTo 63 = twoTo 52 * twoTo 11 := twoTo_add 52 11
  rw [word, hsplit, Nat.mod_mul_right_div_self]
  rfl

theorem word_fraction (x : Binary64) : x.word % twoTo 52 = x.fractionBits := by
  have hdvd : twoTo 52 ∣ twoTo 63 := ⟨twoTo 11, twoTo_add 52 11⟩
  rw [word, Nat.mod_mod_of_dvd _ hdvd]
  rfl

theorem cast_twoTo (n : Nat) : ((twoTo n : Nat) : ℚ) = 2 ^ n := by
  change ((2 ^ n : Nat) : ℚ) = 2 ^ n
  rw [Nat.cast_pow, Nat.cast_ofNat]

/-- The units of a double count its magnitude. -/
theorem value_eq (x : Binary64) : x.value = (if x.isNegative then -1 else 1) * ((x.units : ℚ) / one) := by
  have hpos : (2 : ℚ) ^ 1074 ≠ 0 := pow_ne_zero _ two_ne_zero
  have hone : (one : ℚ) = 2 ^ 1074 := cast_twoTo 1074
  rw [value, units, unitsOfWord, word_exponent, word_fraction, hone]
  congr 1
  by_cases hzero : x.exponentBits = 0
  · have hunit : (2 : ℚ) ^ (-1074 : ℤ) = (2 ^ 1074)⁻¹ := zpow_neg 2 1074
    rw [if_pos hzero, if_pos hzero, hunit, div_eq_mul_inv]
  · obtain ⟨k, hk⟩ := Nat.exists_eq_succ_of_ne_zero hzero
    have hunit : (2 : ℚ) ^ ((x.exponentBits : ℤ) - 1075) = 2 ^ k / 2 ^ 1074 := by
      have hexponent : (x.exponentBits : ℤ) - 1075 = (k : ℤ) - (1074 : ℕ) := by omega
      rw [hexponent, zpow_sub₀ two_ne_zero, zpow_natCast, zpow_natCast]
    rw [if_neg hzero, if_neg hzero, hunit, hk, Nat.succ_sub_one, Nat.cast_mul, Nat.cast_add, cast_twoTo, cast_twoTo,
      mul_div_assoc]

end Binary64

/-- A value is rounded to `t` tenths: no number of tenths is nearer to it, and where another one is as near, `t` is
even. -/
structure IsNearestTenth (v : ℚ) (t : ℤ) : Prop where
  nearest : ∀ m : ℤ, |v - t / 10| ≤ |v - m / 10|
  even : ∀ m : ℤ, m ≠ t → |v - m / 10| = |v - t / 10| → Even t

theorem abs_sub_tenth (v : ℚ) (m : ℤ) : |v - m / 10| = |v * 10 - m| / 10 := by
  have hscaled : v - m / 10 = (v * 10 - m) / 10 := by ring
  have hten : |(10 : ℚ)| = 10 := abs_of_pos (by norm_num)
  rw [hscaled, abs_div, hten]

theorem one_le_abs_sub_add {s t : ℤ} (v : ℚ) (h : s ≠ t) : 1 ≤ |v - s| + |v - t| := by
  have hstep : (1 : ℚ) ≤ |(s : ℚ) - t| := by exact_mod_cast Int.one_le_abs (sub_ne_zero.mpr h)
  calc (1 : ℚ) ≤ |(s : ℚ) - t| := hstep
    _ ≤ |(s : ℚ) - v| + |v - t| := abs_sub_le _ _ _
    _ = |v - s| + |v - t| := by rw [abs_sub_comm]

/-- Half a step away is near enough, as whole numbers are a step apart. -/
theorem isNearestTenth_of_half {v : ℚ} {t : ℤ} (hhalf : |v * 10 - t| ≤ 1 / 2)
    (heven : |v * 10 - t| = 1 / 2 → Even t) : IsNearestTenth v t where
  nearest m := by
    rw [abs_sub_tenth, abs_sub_tenth]
    rcases eq_or_ne m t with rfl | hm
    · exact le_refl _
    · have := one_le_abs_sub_add (v * 10) hm
      linarith
  even m hm htie := by
    rw [abs_sub_tenth, abs_sub_tenth] at htie
    have := one_le_abs_sub_add (v * 10) hm
    exact heven (by linarith)

theorem midpoint_le {v a b : ℚ} (hab : b < a) (h : |v - a| ≤ |v - b|) : (a + b) / 2 ≤ v := by
  by_contra! hv
  have ha : |v - a| = a - v := by rw [abs_sub_comm, abs_of_pos (by linarith)]
  rcases abs_cases (v - b) with ⟨hb, -⟩ | ⟨hb, -⟩ <;> linarith

theorem le_midpoint {v a b : ℚ} (hab : a < b) (h : |v - a| ≤ |v - b|) : v ≤ (a + b) / 2 := by
  by_contra! hv
  have ha : |v - a| = v - a := abs_of_pos (by linarith)
  rcases abs_cases (v - b) with ⟨hb, -⟩ | ⟨hb, -⟩ <;> linarith

/-- Values in order are rounded to tenths in order. -/
theorem IsNearestTenth.mono {v w : ℚ} {s t : ℤ} (hs : IsNearestTenth v s) (ht : IsNearestTenth w t) (h : v ≤ w) :
    s ≤ t := by
  by_contra! hlt
  have hless : (t : ℚ) / 10 < s / 10 := by
    have hcast : (t : ℚ) < s := by exact_mod_cast hlt
    linarith
  -- both values are then just between the two numbers, which are even and so have a nearer one between them
  have hlow : ((s : ℚ) / 10 + t / 10) / 2 ≤ v := midpoint_le hless (hs.nearest t)
  have hhigh : w ≤ ((t : ℚ) / 10 + s / 10) / 2 := le_midpoint hless (ht.nearest s)
  have hv : v = ((s : ℚ) + t) / 20 := by linarith
  have hw : w = ((s : ℚ) + t) / 20 := by linarith
  have htie : |v - t / 10| = |v - s / 10| := by
    have hleft : v - t / 10 = -(v - s / 10) := by linarith
    rw [hleft, abs_neg]
  have hsEven : Even s := hs.even t (by omega) htie
  have htEven : Even t := ht.even s (by omega) (by rw [hw, ← hv, htie])
  have hgap : t + 2 ≤ s := by
    obtain ⟨i, rfl⟩ := hsEven
    obtain ⟨j, rfl⟩ := htEven
    omega
  have hgapCast : (t : ℚ) + 2 ≤ s := by exact_mod_cast hgap
  have hbetween := le_midpoint (b := ((t + 1 : ℤ) : ℚ) / 10) (by push_cast; linarith) (ht.nearest (t + 1))
  push_cast at hbetween
  linarith

theorem abs_div_sub_roundHalfEven (num : Nat) {den : Nat} (hden : 0 < den) :
    |(num : ℚ) / den - roundHalfEven num den| ≤ 1 / 2 ∧
      (|(num : ℚ) / den - roundHalfEven num den| = 1 / 2 → Even (roundHalfEven num den)) := by
  obtain ⟨hhigh, hlow, heven⟩ := roundHalfEven_spec num hden
  generalize roundHalfEven num den = r at *
  have hpos : (0 : ℚ) < den := by exact_mod_cast hden
  have hscaled : (num : ℚ) / den - r = (num - r * den) / den := by
    field_simp
  rw [hscaled, abs_div, abs_of_pos hpos, div_le_div_iff₀ hpos two_pos, div_eq_div_iff hpos.ne' two_ne_zero, one_mul]
  have hhighCast : 2 * (num : ℚ) ≤ 2 * (r * den) + den := by exact_mod_cast hhigh
  have hlowCast : 2 * ((r : ℚ) * den) ≤ 2 * num + den := by exact_mod_cast hlow
  constructor
  · rcases abs_cases ((num : ℚ) - r * den) with ⟨habs, -⟩ | ⟨habs, -⟩ <;> linarith
  · intro htie
    refine Nat.even_iff.mpr (heven ?_)
    rcases abs_cases ((num : ℚ) - r * den) with ⟨habs, -⟩ | ⟨habs, -⟩
    · left
      have : 2 * (num : ℚ) = 2 * (r * den) + den := by linarith
      exact_mod_cast this
    · right
      have : 2 * ((r : ℚ) * den) = 2 * num + den := by linarith
      exact_mod_cast this

def Binary64.shownTenths (x : Binary64) : ℤ :=
  if x.isNegative then -(roundHalfEven (x.units * 10) one : ℤ) else roundHalfEven (x.units * 10) one

theorem Binary64.isNearestTenth_shownTenths (x : Binary64) : IsNearestTenth x.value x.shownTenths := by
  obtain ⟨hhalf, heven⟩ := abs_div_sub_roundHalfEven (x.units * 10) one_pos
  have hquotient : ((x.units * 10 : Nat) : ℚ) / one = x.units / one * 10 := by
    push_cast
    ring
  rw [hquotient] at hhalf heven
  have hdistance : |x.value * 10 - x.shownTenths| = |(x.units : ℚ) / one * 10 - roundHalfEven (x.units * 10) one| := by
    rw [value_eq, shownTenths]
    generalize (x.units : ℚ) / one = q
    generalize roundHalfEven (x.units * 10) one = r
    cases x.isNegative with
    | false => rw [if_neg Bool.false_ne_true, if_neg Bool.false_ne_true, one_mul, Int.cast_natCast]
    | true =>
      have hmirror : -1 * q * 10 - ((-(r : ℤ) : ℤ) : ℚ) = -(q * 10 - r) := by
        push_cast
        ring
      rw [if_pos rfl, if_pos rfl, hmirror, abs_neg]
  refine isNearestTenth_of_half (hdistance ▸ hhalf) fun htie => ?_
  have hmagnitude : Even (roundHalfEven (x.units * 10) one : ℤ) := by exact_mod_cast heven (hdistance ▸ htie)
  rw [shownTenths]
  split
  · exact hmagnitude.neg
  · exact hmagnitude

/-- A decimal with one place, as it is written in front of a percent sign: no superfluous zero leads it. -/
structure Percentage where
  negative : Bool
  whole : List Nat
  tenth : Nat
  isWhole : Json.IsWhole whole
  tenth_lt : tenth < 10

namespace Percentage

def text (n : Percentage) : String :=
  (if n.negative then "-" else "") ++ String.ofList (n.whole.map Nat.digitChar) ++ "." ++
    String.ofList [Nat.digitChar n.tenth] ++ "%"

def tenths (n : Percentage) : ℤ :=
  if n.negative then -(ofDecimals (n.whole ++ [n.tenth]) : ℤ) else ofDecimals (n.whole ++ [n.tenth])

def value (n : Percentage) : ℚ := n.tenths / 10

def numeral (n : Percentage) : Json.Numeral := ⟨n.negative, n.whole, [n.tenth], none⟩

theorem toList_text (n : Percentage) : n.text.toList = n.numeral.chars ++ ['%'] := by
  obtain ⟨negative, whole, tenth, -, -⟩ := n
  cases negative <;>
    simp [text, numeral, Json.Numeral.chars, Json.digitChars, Json.fractionChars, Json.exponentChars]

theorem isPlain_numeral (n : Percentage) : n.numeral.IsPlain where
  whole := n.isWhole
  fraction d hd := by
    obtain rfl : d = n.tenth := by simpa [numeral] using hd
    exact n.tenth_lt
  exponent := by simp [numeral]

/-- A text is that of one number at most. -/
theorem text_injective : Function.Injective text := by
  intro n k h
  have hended : Json.Ended ['%'] := by
    intro c hc
    obtain rfl : '%' = c := by simpa using hc
    decide
  have hn := Json.scanNumber_chars n.isPlain_numeral hended
  have hk := Json.scanNumber_chars k.isPlain_numeral hended
  rw [← toList_text] at hn hk
  rw [h, hk] at hn
  have hnumeral : k.numeral = n.numeral := Json.Node.num.inj (Prod.mk.inj hn).1
  obtain ⟨hnegative, hwhole, htenth, -⟩ := Json.Numeral.mk.inj hnumeral
  cases n
  cases k
  cases hnegative
  cases hwhole
  cases htenth
  rfl

def ofTenths (negative : Bool) (n : Nat) : Percentage :=
  ⟨negative, decimals (n / 10), n % 10, Json.isWhole_decimals _, Nat.mod_lt n (by decide)⟩

theorem tenths_ofTenths (negative : Bool) (n : Nat) :
    (ofTenths negative n).tenths = if negative then -(n : ℤ) else n := by
  have hdigits : ofDecimals (decimals (n / 10) ++ [n % 10]) = n := by
    have hwhole := ofDecimals_decimals (n / 10)
    rw [ofDecimals] at hwhole
    rw [ofDecimals, List.foldl_append, hwhole, List.foldl_cons, List.foldl_nil]
    omega
  rw [tenths, ofTenths]
  dsimp only
  rw [hdigits]

theorem fixedPlaces_one (n : Nat) : fixedPlaces 1 n =
    String.ofList (Nat.toDigits 10 (n / 10)) ++ "." ++ String.ofList [Nat.digitChar (n % 10)] := by
  have hlast : toString (n % 10) = String.ofList [Nat.digitChar (n % 10)] := by
    have hdigit : Nat.toDigits 10 (n % 10) = [Nat.digitChar (n % 10)] :=
      Nat.toDigits_of_lt_base (Nat.mod_lt n (by decide))
    rw [← hdigit]
    rfl
  have hten : tenTo 1 = 10 := rfl
  rw [fixedPlaces, hten, hlast]
  simp only [String.length_ofList, List.length_singleton, Nat.sub_self, List.replicate_zero, String.ofList_nil,
    String.append_empty]
  rfl

end Percentage

open Percentage in
theorem Report.percentText_eq {x : Binary64} (hx : x.isFinite = true) :
    percentText x = (ofTenths x.isNegative (roundHalfEven (x.units * 10) Binary64.one)).text := by
  have hword : x.word < Binary64.infinityWord := of_decide_eq_true hx
  have hnumber : x.isNaN = false := decide_eq_false (Nat.not_lt.mpr hword.le)
  have hbounded : x.isInfinite = false := decide_eq_false hword.ne
  rw [percentText, Binary64.oneDecimal, hnumber, hbounded, if_neg Bool.false_ne_true, if_neg Bool.false_ne_true,
    fixedPlaces_one, text, ofTenths]
  dsimp only
  rw [map_digitChar_decimals]
  simp only [String.append_assoc]

/-- A percentage shows a double: the sign is that of the double, and the number is the nearest one. -/
structure Percentage.Shows (n : Percentage) (x : Binary64) : Prop where
  sign : n.negative = x.isNegative
  rounded : IsNearestTenth x.value n.tenths

theorem Percentage.shows_of_text {n : Percentage} {x : Binary64} (hx : x.isFinite = true)
    (h : n.text = Report.percentText x) : n.Shows x := by
  obtain rfl := text_injective (h.trans (Report.percentText_eq hx))
  exact ⟨rfl, by rw [tenths_ofTenths]; exact x.isNearestTenth_shownTenths⟩

/-- A finite double is written as a percentage, and what is written shows it. Of two doubles in order the numbers shown
are in order. -/
theorem Report.percentText_shows {x : Binary64} (hx : x.isFinite = true) :
    (∃ n : Percentage, n.text = percentText x) ∧ ∀ n : Percentage, n.text = percentText x → n.Shows x ∧
      ∀ (y : Binary64) (k : Percentage), y.isFinite = true → k.text = percentText y → x.value ≤ y.value →
        n.value ≤ k.value := by
  refine ⟨⟨_, (percentText_eq hx).symm⟩, fun n hn => ⟨Percentage.shows_of_text hx hn, ?_⟩⟩
  intro y k hy hk hle
  have hx' := (Percentage.shows_of_text hx hn).rounded
  have hy' := (Percentage.shows_of_text hy hk).rounded
  have htenths : (n.tenths : ℚ) ≤ k.tenths := by exact_mod_cast hx'.mono hy' hle
  exact div_le_div_of_nonneg_right htenths (by norm_num)

/-- Three quarters and a quarter below zero, each just between two tenths. -/
theorem Report.percentText_shows_ties :
    ∃ n k : Percentage, n.text = "-0.8%" ∧ k.text = "-0.2%" ∧ n.Shows ⟨0xBFE8000000000000⟩ ∧
      k.Shows ⟨0xBFD0000000000000⟩ ∧ n.value ≤ k.value := by
  obtain ⟨⟨n, hn⟩, hshows⟩ := @percentText_shows ⟨0xBFE8000000000000⟩ (by decide +kernel)
  obtain ⟨⟨k, hk⟩, hshows'⟩ := @percentText_shows ⟨0xBFD0000000000000⟩ (by decide +kernel)
  have hvalue (bits : UInt64) (h : (Binary64.mk bits).isNegative = true) : (Binary64.mk bits).value =
      -((Binary64.mk bits).units / Binary64.one : ℚ) := by rw [Binary64.value_eq, if_pos h, neg_one_mul]
  have hle : (Binary64.mk 0xBFE8000000000000).value ≤ (Binary64.mk 0xBFD0000000000000).value := by
    have hunits : (Binary64.mk 0xBFD0000000000000).units ≤ (Binary64.mk 0xBFE8000000000000).units := by decide +kernel
    rw [hvalue _ (by decide +kernel), hvalue _ (by decide +kernel), neg_le_neg_iff]
    exact div_le_div_of_nonneg_right (by exact_mod_cast hunits) (Nat.cast_nonneg _)
  exact ⟨n, k, hn.trans (by decide +kernel), hk.trans (by decide +kernel), (hshows n hn).1, (hshows' k hk).1,
    (hshows n hn).2 _ k (by decide +kernel) hk hle⟩

-- The double next to 9.95 lies below it, the one next to 99.95 above.
example : Report.percentText ⟨0x4023E66666666666⟩ = "9.9%" ∧ Report.percentText ⟨0x4058FCCCCCCCCCCD⟩ = "100.0%" := by
  decide +kernel

end PassDelta
