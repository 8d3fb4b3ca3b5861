import PassDelta.Json.Reader
import PassDelta.Proofs.Digits
import Mathlib.Tactic.Common
/-!
# Numerals read back

A numeral is written sign, digits, point, digits, exponent. What is written for one without a superfluous zero is
scanned as that numeral, and a whole number of 64 bits is read as itself.
-/

namespace PassDelta.Json

def digitChars (ds : List Nat) : List Char := ds.map Nat.digitChar

def exponentChars : Option (Bool × List Nat) → List Char
  | none => []
  | some (negative, ds) => 'e' :: (if negative then '-' else '+') :: digitChars ds

def fractionChars (ds : List Nat) : List Char := if ds = [] then [] else '.' :: digitChars ds

def Numeral.chars (n : Numeral) : List Char :=
  (if n.negative then ['-'] else []) ++ digitChars n.whole ++ fractionChars n.fraction ++ exponentChars n.exponent

/-- Digits that can stand in front of the point: no superfluous zero leads them. -/
structure IsWhole (ds : List Nat) : Prop where
  ne_nil : ds ≠ []
  digits : ∀ d ∈ ds, d < 10
  zero : ds.length ≤ 1 ∨ ds.head? ≠ some 0

structure Numeral.IsPlain (n : Numeral) : Prop where
  whole : IsWhole n.whole
  fraction : ∀ d ∈ n.fraction, d < 10
  exponent : ∀ e ∈ n.exponent, e.2 ≠ [] ∧ ∀ d ∈ e.2, d < 10

def Ended (rest : List Char) : Prop := ∀ c ∈ rest.head?, c.isDigit = false ∧ c ≠ '.' ∧ c ≠ 'e' ∧ c ≠ 'E'

theorem digits_append {ds : List Nat} (hds : ∀ d ∈ ds, d < 10) {rest : List Char}
    (hrest : ∀ c ∈ rest.head?, c.isDigit = false) : digits (digitChars ds ++ rest) = (ds, rest) := by
  have hchars : ∀ c ∈ digitChars ds, c.isDigit = true := by
    intro c hc
    obtain ⟨d, hd, rfl⟩ := List.mem_map.1 hc
    simpa using hds d hd
  have hvalue : ∀ d ∈ ds, (digitValue? ∘ Nat.digitChar) d = some d := by
    have all : ∀ d < 10, (digitValue? ∘ Nat.digitChar) d = some d := by decide
    exact fun d hd => all d (hds d hd)
  obtain ⟨htake, hdrop⟩ := takeWhile_append hchars hrest
  rw [digits, htake, hdrop, digitChars, List.filterMap_map, List.filterMap_congr hvalue]
  simp

theorem head?_exponentChars_append {e : Option (Bool × List Nat)} {rest : List Char} (hrest : Ended rest) :
    ∀ c ∈ (exponentChars e ++ rest).head?, c.isDigit = false ∧ c ≠ '.' := by
  intro c hc
  cases e with
  | none => exact ⟨(hrest c hc).1, (hrest c hc).2.1⟩
  | some e =>
    obtain rfl : 'e' = c := by simpa [exponentChars] using hc
    decide

theorem scanTail_exponentChars (negative : Bool) (whole fraction : List Nat) {e : Option (Bool × List Nat)}
    (he : ∀ e' ∈ e, e'.2 ≠ [] ∧ ∀ d ∈ e'.2, d < 10) {rest : List Char} (hrest : Ended rest) :
    scanTail negative whole fraction (exponentChars e ++ rest) =
      (.num ⟨negative, whole, fraction, e⟩, some rest) := by
  cases e with
  | none =>
    unfold scanTail
    split
    · next h => exact absurd rfl (hrest 'e' (by simp_all [exponentChars])).2.2.1
    · next h => exact absurd rfl (hrest 'E' (by simp_all [exponentChars])).2.2.2
    · rfl
  | some e =>
    obtain ⟨negativeExponent, ds⟩ := e
    obtain ⟨hne, hds⟩ := he _ rfl
    have hdigits := digits_append hds fun c hc => (hrest c hc).1
    obtain ⟨d, ds, rfl⟩ := List.exists_cons_of_ne_nil hne
    cases negativeExponent <;> simp [exponentChars, scanTail, scanExponent, hdigits]

def scanUnsigned (negative : Bool) (cs : List Char) : Scan Node :=
  match digits cs with
  | ([], r) => missingDigit r
  | (0 :: _ :: _, _) => malformed
  | (whole, '.' :: r) =>
    match digits r with
    | ([], r') => missingDigit r'
    | (fraction, r') => scanTail negative whole fraction r'
  | (whole, r) => scanTail negative whole [] r

theorem scanNumber_sign (negative : Bool) {cs : List Char} (hcs : cs.head? ≠ some '-') :
    scanNumber ((if negative then ['-'] else []) ++ cs) = scanUnsigned negative cs := by
  cases negative with
  | true => rfl
  | false =>
    change scanNumber cs = scanUnsigned false cs
    unfold scanNumber
    split
    next hmatch =>
      split at hmatch
      · simp at hcs
      · obtain ⟨rfl, rfl⟩ := Prod.mk.inj hmatch
        rfl

theorem scanUnsigned_whole (negative : Bool) {cs r : List Char} {whole : List Nat} (hwhole : IsWhole whole)
    (hcs : digits cs = (whole, r)) (hr : r.head? ≠ some '.') :
    scanUnsigned negative cs = scanTail negative whole [] r := by
  unfold scanUnsigned
  rw [hcs]
  obtain ⟨hne, -, hzero⟩ := hwhole
  split <;> simp_all

theorem scanUnsigned_point (negative : Bool) {cs r r' : List Char} {whole fraction : List Nat} (hwhole : IsWhole whole)
    (hcs : digits cs = (whole, '.' :: r)) (hr : digits r = (fraction, r')) (hne' : fraction ≠ []) :
    scanUnsigned negative cs = scanTail negative whole fraction r' := by
  unfold scanUnsigned
  rw [hcs]
  obtain ⟨hne, -, hzero⟩ := hwhole
  split
  · simp_all
  · simp_all
  · next h =>
    obtain ⟨rfl, hrest⟩ := Prod.mk.inj h
    obtain ⟨-, rfl⟩ := List.cons.inj hrest
    rw [hr]
    split <;> simp_all
  · next hother h => exact (hother _ (Prod.mk.inj h).2.symm).elim

def signChars (negative : Bool) : List Char := if negative then ['-'] else []

theorem head?_digitChars_append {ds : List Nat} (hds : IsWhole ds) (cs : List Char) :
    (digitChars ds ++ cs).head? ≠ some '-' := by
  have all : ∀ d < 10, Nat.digitChar d ≠ '-' := by decide
  obtain ⟨d, ds, rfl⟩ := List.exists_cons_of_ne_nil hds.ne_nil
  simp [digitChars, all d (hds.digits d List.mem_cons_self)]

/-- The digits up to an exponent are scanned as they were written. -/
theorem scanNumber_digits (negative : Bool) {whole fraction : List Nat} (hwhole : IsWhole whole)
    (hfraction : ∀ d ∈ fraction, d < 10) {tail : List Char}
    (htail : ∀ c ∈ tail.head?, c.isDigit = false ∧ c ≠ '.') :
    scanNumber (signChars negative ++ (digitChars whole ++ (fractionChars fraction ++ tail))) =
      scanTail negative whole fraction tail := by
  rw [signChars, scanNumber_sign negative (head?_digitChars_append hwhole _)]
  by_cases hnone : fraction = []
  · subst hnone
    have hdigits := digits_append hwhole.digits fun c hc => (htail c hc).1
    rw [fractionChars, if_pos rfl, List.nil_append]
    exact scanUnsigned_whole negative hwhole hdigits fun h => (htail '.' h).2 rfl
  · have hpoint (cs : List Char) : ∀ c ∈ ('.' :: cs).head?, c.isDigit = false := by simp
    have hdigits := digits_append hwhole.digits (hpoint (digitChars fraction ++ tail))
    rw [fractionChars, if_neg hnone, List.cons_append]
    exact scanUnsigned_point negative hwhole hdigits (digits_append hfraction fun c hc => (htail c hc).1) hnone

/-- A numeral without a superfluous zero is scanned as it was written. -/
theorem scanNumber_chars {n : Numeral} (hn : n.IsPlain) {rest : List Char} (hrest : Ended rest) :
    scanNumber (n.chars ++ rest) = (.num n, some rest) := by
  have hdigits := scanNumber_digits n.negative hn.whole hn.fraction (head?_exponentChars_append (e := n.exponent) hrest)
  rw [Numeral.chars, List.append_assoc, List.append_assoc, List.append_assoc, ← signChars, hdigits]
  exact scanTail_exponentChars n.negative n.whole n.fraction hn.exponent hrest

theorem le_foldl (ds : List Nat) (s : Nat) : s ≤ ds.foldl (fun n d => n * 10 + d) s := by
  induction ds generalizing s with
  | nil => exact Nat.le_refl s
  | cons d ds ih => exact Nat.le_trans (by omega) (ih (s * 10 + d))

/-- Digits of a number of 64 bits are all taken in. -/
theorem absorb_of_lt {ds : List Nat} {s : Nat} (h : ds.foldl (fun n d => n * 10 + d) s < twoTo 64) :
    absorb s ds = (ds.foldl (fun n d => n * 10 + d) s, []) := by
  induction ds generalizing s with
  | nil => rfl
  | cons d ds ih =>
    have hfits : ¬ twoTo 64 ≤ s * 10 + d := by
      have := le_foldl ds (s * 10 + d)
      simp only [List.foldl_cons] at h
      omega
    rw [absorb, if_neg hfits, ih h, List.foldl_cons]

theorem absorb_decimals {n : Nat} (h : n < twoTo 64) : absorb 0 (decimals n) = (n, []) := by
  have hvalue := ofDecimals_decimals n
  rw [ofDecimals] at hvalue
  rw [absorb_of_lt (by rwa [hvalue]), hvalue]

def wholeNumeral (n : Int) : Numeral := ⟨n < 0, decimals n.natAbs, [], none⟩

theorem isWhole_decimals (n : Nat) : IsWhole (decimals n) where
  ne_nil := decimals_ne_nil n
  digits _ := lt_ten_of_mem_decimals
  zero := by
    rcases Nat.eq_zero_or_pos n with rfl | h
    · exact .inl (by decide)
    · exact .inr (head?_decimals h)

theorem isPlain_wholeNumeral (n : Int) : (wholeNumeral n).IsPlain where
  whole := isWhole_decimals n.natAbs
  fraction := by simp [wholeNumeral]
  exponent := by simp [wholeNumeral]

theorem chars_wholeNumeral (n : Int) : (wholeNumeral n).chars = (toString n).toList := by
  have hdigits : digitChars (decimals n.natAbs) = Nat.toDigits 10 n.natAbs := map_digitChar_decimals n.natAbs
  simp only [Numeral.chars, wholeNumeral, hdigits, fractionChars, exponentChars, if_pos, List.append_nil]
  cases n with
  | ofNat n =>
    have htext : (toString (Int.ofNat n)).toList = Nat.toDigits 10 n := String.toList_ofList
    have hpos : ¬ (n : Int) < 0 := by omega
    simpa [hpos] using htext.symm
  | negSucc n =>
    have htext : (toString (Int.negSucc n)).toList = '-' :: Nat.toDigits 10 (n + 1) := by
      change ("-" ++ String.ofList (Nat.toDigits 10 (n + 1))).toList = _
      simp
    simpa using htext.symm

theorem read_wholeNumeral_natCast {n : Nat} (h : n < twoTo 64) : (wholeNumeral n).read = .ok (.nat n) := by
  simp [Numeral.read, wholeNumeral, absorb_decimals h]

theorem read_wholeNumeral_neg {n : Int} (hneg : n < 0) (h : -(twoTo 63 : Int) ≤ n) :
    (wholeNumeral n).read = .ok (.negative n) := by
  have habsorb : absorb 0 (decimals n.natAbs) = (n.natAbs, []) := by
    have hword : twoTo 63 < twoTo 64 := by decide
    exact absorb_decimals (by omega)
  have hrange : ¬ (n.natAbs = 0 ∨ twoTo 63 < n.natAbs) := by omega
  have habs : -(n.natAbs : Int) = n := by omega
  simp only [Numeral.read, wholeNumeral, habsorb, hneg, decide_true, Bool.not_true, Bool.false_eq_true, if_false,
    if_neg hrange, habs]

theorem readWord_wholeNumeral {n : Nat} (h : n < twoTo 64) : readWord (.num (wholeNumeral n)) = .ok n := by
  simp only [readWord, readNumber, read_wholeNumeral_natCast h]
  rfl

theorem readInt_wholeNumeral {n : Int} (hlow : -(twoTo 63 : Int) ≤ n) (hhigh : n < twoTo 63) :
    readInt (.num (wholeNumeral n)) = .ok n := by
  by_cases hneg : n < 0
  · simp only [readInt, readNumber, read_wholeNumeral_neg hneg hlow]
    rfl
  · obtain ⟨m, rfl⟩ := Int.eq_ofNat_of_zero_le (Int.not_lt.1 hneg)
    have hm : m < twoTo 63 := by omega
    have hword : m < twoTo 64 := Nat.lt_trans hm (by decide)
    simp only [readInt, readNumber, read_wholeNumeral_natCast hword]
    exact if_pos hm

end PassDelta.Json
