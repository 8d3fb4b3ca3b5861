import PassDelta.Proofs.Json.Structures
import Mathlib.Data.List.TakeWhile
/-!
# Text that breaks off

What is left of the text of a scalar when it is cut. The reader of a string or a word waits for more, wherever the cut is.
A number can be read although its text has been cut, unless the cut is where a digit is missing.
-/

namespace PassDelta.Json

def Cut (p text : List Char) : Prop := ∃ q, q ≠ [] ∧ p ++ q = text

section Cut
variable {p text rest : List Char} {c : Char}

theorem not_cut_nil : ¬ Cut p [] := by
  rintro ⟨q, hq, happend⟩
  exact hq (List.append_eq_nil_iff.mp happend).2

theorem cut_nil_of_ne_nil (h : text ≠ []) : Cut [] text := ⟨text, h, rfl⟩

theorem cut_append : Cut p (text ++ rest) ↔ Cut p text ∨ ∃ p', p = text ++ p' ∧ Cut p' rest := by
  constructor
  · rintro ⟨q, hq, happend⟩
    rcases List.append_eq_append_iff.mp happend with ⟨left, rfl, rfl⟩ | ⟨p', rfl, rfl⟩
    · by_cases hleft : left = []
      · subst hleft
        exact .inr ⟨[], by simp, rest, hq, rfl⟩
      · exact .inl ⟨left, hleft, rfl⟩
    · exact .inr ⟨p', rfl, q, hq, rfl⟩
  · rintro (⟨q, hq, rfl⟩ | ⟨p', rfl, q, hq, rfl⟩)
    · exact ⟨q ++ rest, by simp [hq], by simp⟩
    · exact ⟨q, hq, by simp⟩

theorem cut_cons : Cut p (c :: text) ↔ p = [] ∨ ∃ p', p = c :: p' ∧ Cut p' text := by
  rw [← List.singleton_append, cut_append]
  constructor
  · rintro (⟨q, hq, happend⟩ | ⟨p', rfl, hp'⟩)
    · rcases List.append_eq_singleton_iff.mp happend with ⟨rfl, -⟩ | ⟨-, rfl⟩
      · exact .inl rfl
      · exact absurd rfl hq
    · exact .inr ⟨p', rfl, hp'⟩
  · rintro (rfl | ⟨p', rfl, hp'⟩)
    · exact .inl ⟨[c], by simp, rfl⟩
    · exact .inr ⟨p', rfl, hp'⟩

theorem Cut.length_lt (h : Cut p text) : p.length < text.length := by
  obtain ⟨q, hq, rfl⟩ := h
  rw [List.length_append]
  exact Nat.lt_add_of_pos_right (List.length_pos_iff.mpr hq)

/-- Blanks in front of a text that breaks off leave a text that breaks off. -/
theorem skipSpace_of_cut_indent {level : Nat} (hc : isSpace c = false) (h : Cut p (indent level ++ c :: text)) :
    Cut (skipSpace p) (c :: text) := by
  rcases cut_append.mp h with ⟨q, -, happend⟩ | ⟨p', rfl, hp'⟩
  · have hall : skipSpace (p ++ q) = [] := by
      rw [happend, ← List.append_nil (indent level), skipSpace_indent]
      rfl
    have hblank : skipSpace p = [] := by
      rw [skipSpace, List.dropWhile_eq_nil_iff] at hall ⊢
      exact fun c hc => hall c (List.mem_append_left _ hc)
    rw [hblank]
    exact cut_nil_of_ne_nil (by simp)
  · rw [skipSpace_indent]
    rcases cut_cons.mp hp' with rfl | ⟨p'', rfl, hp''⟩
    · exact hp'
    · rwa [skipSpace_cons hc]

/-- What a closing bracket stands behind is blank. -/
theorem skipSpace_of_cut_close {level : Nat} (hc : isSpace c = false) (h : Cut p (indent level ++ [c])) :
    skipSpace p = [] := by
  rcases cut_cons.mp (skipSpace_of_cut_indent hc h) with hnil | ⟨_, -, hnil⟩
  · exact hnil
  · exact absurd hnil not_cut_nil

theorem Cut.ended (h : Cut p text) (htext : Ended text) : Ended p := by
  obtain ⟨q, -, rfl⟩ := h
  intro c hc
  cases p with
  | nil => cases hc
  | cons d p => exact htext c hc

theorem Cut.head?_ne (hbegins : Begins text) (h : Cut p (text ++ rest)) : p.head? ≠ some ']' := by
  obtain ⟨c, cs, rfl, -, hc⟩ := hbegins
  rcases cut_cons.mp h with rfl | ⟨p', rfl, -⟩
  · simp
  · simpa using hc

theorem length_skipSpace_le (p : List Char) : (skipSpace p).length ≤ p.length := (List.dropWhile_sublist _).length_le

end Cut

/-- A scanned value that broke off, as a reader finds it: it waits for more, unless it is a number that is complete as
it stands. -/
def BrokenOff {α : Type} (r : Reader α) (s : Scan Node) : Prop :=
  s.2 = none ∧ r s.1 = .error .truncated ∨ s.2 = some [] ∧ ∃ x, r s.1 = .ok x

def Breaks {α : Type} (r : Reader α) (v : Json) : Prop :=
  ∀ level p fuel, Cut p (spread level v) → 2 * p.length + 2 ≤ fuel → BrokenOff r (scanValue fuel p)

def Waits {α : Type} (r : Reader α) (v : Json) : Prop :=
  ∀ level p fuel, Cut p (spread level v) → 2 * p.length + 2 ≤ fuel →
    (scanValue fuel p).2 = none ∧ r (scanValue fuel p).1 = .error .truncated

section
variable {α : Type} {r : Reader α} {v : Json}

theorem Waits.breaks (h : Waits r v) : Breaks r v := fun level p fuel hp hfuel => .inl (h level p fuel hp hfuel)

/-- A value of which nothing is there yet. -/
theorem Breaks.error_nothing (h : Breaks r v) : r (.broken .truncated .truncated) = .error .truncated := by
  have hcut : Cut [] (spread 0 v) := by
    obtain ⟨c, cs, htext, -⟩ := begins_spread 0 v
    exact cut_nil_of_ne_nil (by simp [htext])
  rcases h 0 [] 2 hcut (Nat.le_refl _) with ⟨-, herror⟩ | ⟨hsome, -⟩
  · exact herror
  · cases hsome

end

theorem scanString_short {ds : List Char} (hlength : ds.length < 4) (hascii : ∀ d ∈ ds, d.utf8Size = 1) :
    scanString ('\\' :: 'u' :: ds) = stopString .truncated := by
  match ds with
  | [] => simp [scanString, Text.byteLength]
  | [a] => simp_all [scanString, Text.byteLength]
  | [a, b] => simp_all [scanString, Text.byteLength]
  | [a, b, c] => simp_all [scanString, Text.byteLength]
  | _ :: _ :: _ :: _ :: _ => simp only [List.length_cons] at hlength; omega

/-- A written character that is cut is no character yet. -/
theorem Escaped.scanString_cut {c : Char} {cs : List Char} {m : Mark} (h : Escaped c cs m) {p : List Char}
    (hp : Cut p cs) : Json.scanString p = stopString .truncated := by
  cases h with
  | letter _ =>
    rcases cut_cons.mp hp with rfl | ⟨p', rfl, hp'⟩
    · rw [Json.scanString]
    rcases cut_cons.mp hp' with rfl | ⟨_, -, hnil⟩
    · rw [Json.scanString]
    · exact absurd hnil not_cut_nil
  | number hlength hascii _ _ =>
    rcases cut_cons.mp hp with rfl | ⟨p', rfl, hp'⟩
    · rw [Json.scanString]
    rcases cut_cons.mp hp' with rfl | ⟨ds, rfl, hds⟩
    · rw [Json.scanString]
    refine scanString_short (hlength ▸ hds.length_lt) fun d hd => ?_
    obtain ⟨q, -, rfl⟩ := hds
    exact hascii d (List.mem_append_left _ hd)
  | plain _ _ _ =>
    rcases cut_cons.mp hp with rfl | ⟨_, -, hnil⟩
    · rw [Json.scanString]
    · exact absurd hnil not_cut_nil

/-- A string that is cut has no closing quote, and its reader waits for it. -/
theorem scanString_cut (s : String) {p : List Char} (hp : Cut p (s.toList.flatMap escape ++ ['"'])) :
    ∃ l : Lexeme, scanString p = (l, none) ∧ l.text = .error .truncated := by
  have go (cs : List Char) {p : List Char} (hp : Cut p (cs.flatMap escape ++ ['"'])) :
      ∃ ms, scanString p = (⟨ms, some .truncated⟩, none) ∧ joinMarks (some .truncated) ms = .error .truncated := by
    induction cs generalizing p with
    | nil =>
      rcases cut_cons.mp hp with rfl | ⟨_, -, hnil⟩
      · exact ⟨[], rfl, rfl⟩
      · exact absurd hnil not_cut_nil
    | cons c cs ih =>
      rw [List.flatMap_cons, List.append_assoc] at hp
      rcases cut_append.mp hp with hc | ⟨p', rfl, hcs⟩
      · exact ⟨[], (escaped c).scanString_cut hc, rfl⟩
      · obtain ⟨ms, hscan, hjoin⟩ := ih hcs
        refine ⟨markOf c :: ms, ?_, ?_⟩
        · rw [(escaped c).glyph.scanString, hscan]
          rfl
        · rw [(escaped c).joinMarks, hjoin]
          rfl
  obtain ⟨ms, hscan, hjoin⟩ := go s.toList hp
  refine ⟨_, hscan, ?_⟩
  rw [Lexeme.text, hjoin]
  rfl

theorem breaks_str (s : String) : Breaks readText (.str s) := by
  intro level p fuel hp hfuel
  obtain ⟨fuel, rfl⟩ : ∃ f, fuel = f + 1 := ⟨fuel - 1, by omega⟩
  have htext : spread level (.str s) = '"' :: (s.toList.flatMap escape ++ ['"']) := rfl
  rw [htext] at hp
  rcases cut_cons.mp hp with rfl | ⟨p', rfl, hstring⟩
  · exact .inl ⟨rfl, rfl⟩
  · obtain ⟨l, hscan, hread⟩ := scanString_cut s hstring
    rw [scanValue, skipSpace_cons (by decide)]
    simp only [if_pos, hscan]
    exact .inl ⟨rfl, hread⟩

theorem scanWord_cut (v : Node) {ws p : List Char} (hp : Cut p ws) :
    scanWord v ws p = (.broken .truncated .truncated, none) := by
  induction ws generalizing p with
  | nil => exact absurd hp not_cut_nil
  | cons w ws ih =>
    rcases cut_cons.mp hp with rfl | ⟨p', rfl, hws⟩
    · rfl
    · rw [scanWord, if_pos rfl, ih hws]

theorem breaks_bool (b : Bool) : Breaks readBool (.bool b) := by
  intro level p fuel hp hfuel
  obtain ⟨fuel, rfl⟩ : ∃ f, fuel = f + 1 := ⟨fuel - 1, by omega⟩
  have hword (c : Char) (w : List Char) (v : Node)
      (hscan : ∀ p, scanValue (fuel + 1) (c :: p) = scanWord v w p) (hp : Cut p (c :: w)) :
      BrokenOff readBool (scanValue (fuel + 1) p) := by
    rcases cut_cons.mp hp with rfl | ⟨p', rfl, hw⟩
    · exact .inl ⟨rfl, rfl⟩
    · rw [hscan, scanWord_cut v hw]
      exact .inl ⟨rfl, rfl⟩
  cases b with
  | true => exact hword 't' ['r', 'u', 'e'] (.bool true) (fun p => by simp [scanValue, skipSpace, isSpace]) hp
  | false => exact hword 'f' ['a', 'l', 's', 'e'] (.bool false) (fun p => by simp [scanValue, skipSpace, isSpace]) hp

/-- The numerals that the text of a numeral can be cut to. -/
inductive Numeral.Begun (n : Numeral) : Numeral → Prop
  | whole {ds : List Nat} : ds ≠ [] → ds <+: n.whole → n.Begun ⟨n.negative, ds, [], none⟩
  | fraction {ds : List Nat} : ds ≠ [] → ds <+: n.fraction → n.Begun ⟨n.negative, n.whole, ds, none⟩
  | exponent {negative : Bool} {ds rest : List Nat} : ds ≠ [] → rest ≠ [] →
      n.exponent = some (negative, ds ++ rest) → n.Begun ⟨n.negative, n.whole, n.fraction, some (negative, ds)⟩

theorem cut_digitChars {p : List Char} {ds : List Nat} (h : Cut p (digitChars ds)) :
    ∃ ds' rest, rest ≠ [] ∧ ds = ds' ++ rest ∧ p = digitChars ds' := by
  obtain ⟨q, hq, happend⟩ := h
  obtain ⟨ds', rest, rfl, rfl, rfl⟩ := List.map_eq_append_iff.mp happend.symm
  exact ⟨ds', rest, by simpa using hq, rfl, rfl⟩

theorem Numeral.Begun.isPlain {n n' : Numeral} (hn : n.IsPlain) (h : n.Begun n') : n'.IsPlain := by
  cases h with
  | whole hne hstart =>
    obtain ⟨rest, hwhole⟩ := hstart
    have hds := hn.whole
    rw [← hwhole] at hds
    refine ⟨⟨hne, fun d hd => hds.digits d (List.mem_append_left _ hd), ?_⟩, by simp, by simp⟩
    rcases hds.zero with hlength | hhead
    · rw [List.length_append] at hlength
      exact .inl (Nat.le_trans (Nat.le_add_right _ _) hlength)
    · rw [List.head?_append_of_ne_nil _ hne] at hhead
      exact .inr hhead
  | fraction hne hstart => exact ⟨hn.whole, fun d hd => hn.fraction d (hstart.subset hd), by simp⟩
  | exponent hne _ hexponent =>
    refine ⟨hn.whole, hn.fraction, fun e he => ?_⟩
    obtain rfl := Option.some.inj he
    exact ⟨hne, fun d hd => (hn.exponent _ hexponent).2 d (List.mem_append_left _ hd)⟩

def Digitless (s : Scan Node) : Prop := s = (.broken .truncated .malformed, none)

theorem scanNumber_noExponent (negative : Bool) {whole fraction : List Nat} (hwhole : IsWhole whole)
    (hfraction : ∀ d ∈ fraction, d < 10) {mark : List Char} (hmark : mark = [] ∨ mark = ['+'] ∨ mark = ['-']) :
    Digitless (scanNumber (signChars negative ++ (digitChars whole ++ (fractionChars fraction ++ 'e' :: mark)))) := by
  rw [scanNumber_digits negative hwhole hfraction (by simp)]
  rcases hmark with rfl | rfl | rfl <;> rfl

theorem scanNumber_noFraction (negative : Bool) {whole : List Nat} (hwhole : IsWhole whole) :
    Digitless (scanNumber (signChars negative ++ (digitChars whole ++ ['.']))) := by
  have hdigits : digits (digitChars whole ++ ['.']) = (whole, ['.']) := digits_append hwhole.digits (by simp)
  rw [signChars, scanNumber_sign negative (head?_digitChars_append hwhole _), scanUnsigned, hdigits]
  obtain ⟨hne, -, hzero⟩ := hwhole
  split
  · simp_all
  · simp_all
  · next h =>
    obtain ⟨rfl, hrest⟩ := Prod.mk.inj h
    obtain ⟨-, rfl⟩ := List.cons.inj hrest
    rfl
  · next hother h => exact (hother _ (Prod.mk.inj h).2.symm).elim

/-- A number that is cut misses a digit, or it is a shorter number. -/
theorem scanNumber_cut {n : Numeral} (hn : n.IsPlain) {p : List Char} (hp : Cut p n.chars) (hne : p ≠ []) :
    Digitless (scanNumber p) ∨ ∃ n', n.Begun n' ∧ p = n'.chars := by
  have hchars (n : Numeral) : n.chars = signChars n.negative ++ (digitChars n.whole ++ (fractionChars n.fraction ++
      exponentChars n.exponent)) := by
    simp [Numeral.chars, signChars]
  obtain ⟨negative, whole, fraction, exponent⟩ := n
  rw [hchars] at hp
  dsimp only at hp
  -- up to its exponent the numeral is one that has been begun, unless it is the whole numeral
  have hbegun : Numeral.Begun ⟨negative, whole, fraction, exponent⟩ ⟨negative, whole, fraction, none⟩ := by
    by_cases hnone : fraction = []
    · subst hnone
      exact .whole hn.whole.ne_nil List.prefix_rfl
    · exact .fraction hnone List.prefix_rfl
  rcases cut_append.mp hp with hsign | ⟨p₁, rfl, hp₁⟩
  · cases negative with
    | false => exact absurd hsign not_cut_nil
    | true =>
      rcases cut_cons.mp hsign with rfl | ⟨_, -, hnil⟩
      · exact absurd rfl hne
      · exact absurd hnil not_cut_nil
  rcases cut_append.mp hp₁ with hwhole | ⟨p₂, rfl, hp₂⟩
  · obtain ⟨ds, rest, -, rfl, rfl⟩ := cut_digitChars hwhole
    by_cases hds : ds = []
    · subst hds
      cases negative with
      | false => exact absurd rfl hne
      | true => exact .inl rfl
    · exact .inr ⟨_, .whole hds (List.prefix_append _ _), by rw [hchars]; simp [fractionChars, exponentChars]⟩
  rcases cut_append.mp hp₂ with hfraction | ⟨p₃, rfl, hexponent⟩
  · by_cases hnone : fraction = []
    · subst hnone
      exact absurd hfraction not_cut_nil
    rw [fractionChars, if_neg hnone] at hfraction
    rcases cut_cons.mp hfraction with rfl | ⟨p₃, rfl, hp₃⟩
    · exact .inr ⟨_, .whole hn.whole.ne_nil List.prefix_rfl, by rw [hchars]; simp [fractionChars, exponentChars]⟩
    obtain ⟨ds, rest, -, rfl, rfl⟩ := cut_digitChars hp₃
    by_cases hds : ds = []
    · subst hds
      exact .inl (scanNumber_noFraction negative hn.whole)
    · exact .inr ⟨_, .fraction hds (List.prefix_append _ _), by rw [hchars]; simp [fractionChars, exponentChars, hds]⟩
  · cases exponent with
    | none => exact absurd hexponent not_cut_nil
    | some e =>
      obtain ⟨negativeExponent, ds⟩ := e
      have hmissing {mark : List Char} (hmark : mark = [] ∨ mark = ['+'] ∨ mark = ['-']) :=
        scanNumber_noExponent negative hn.whole hn.fraction hmark
      rw [exponentChars] at hexponent
      rcases cut_cons.mp hexponent with rfl | ⟨p₄, rfl, hp₄⟩
      · exact .inr ⟨_, hbegun, by rw [hchars]; simp [exponentChars]⟩
      rcases cut_cons.mp hp₄ with rfl | ⟨p₅, rfl, hp₅⟩
      · exact .inl (hmissing (.inl rfl))
      obtain ⟨ds', rest, hrest, rfl, rfl⟩ := cut_digitChars hp₅
      by_cases hds : ds' = []
      · subst hds
        cases negativeExponent with
        | false => exact .inl (hmissing (.inr (.inl rfl)))
        | true => exact .inl (hmissing (.inr (.inr rfl)))
      · exact .inr ⟨_, .exponent hds hrest rfl, by rw [hchars]; simp [exponentChars]⟩

/-- A number breaks off if the reader takes all shorter numbers. -/
theorem breaks_number {α : Type} {r : Reader α} {v : Json} {n : Numeral} (hn : n.IsPlain)
    (htext : ∀ level, spread level v = n.chars) (hbroken : ∀ e, r (.broken .truncated e) = .error .truncated)
    (hread : ∀ n', n.Begun n' → ∃ x, r (.num n') = .ok x) : Breaks r v := by
  intro level p fuel hp hfuel
  obtain ⟨fuel, rfl⟩ : ∃ f, fuel = f + 1 := ⟨fuel - 1, by omega⟩
  rw [htext] at hp
  by_cases hne : p = []
  · subst hne
    exact .inl ⟨rfl, hbroken _⟩
  obtain ⟨c, cs, hcs, hc⟩ := head_chars hn
  have hscan : scanValue (fuel + 1) p = scanNumber p := by
    rw [hcs] at hp
    rcases cut_cons.mp hp with rfl | ⟨p', rfl, -⟩
    · exact absurd rfl hne
    · exact scanValue_number hc fuel p'
  rw [hscan]
  rcases scanNumber_cut hn hp hne with hdigit | ⟨n', hbegun, rfl⟩
  · rw [hdigit]
    exact .inl ⟨rfl, hbroken _⟩
  · have hended : Ended [] := by simp [Ended]
    have hnumeral := scanNumber_chars (hbegun.isPlain hn) hended
    rw [List.append_nil] at hnumeral
    rw [hnumeral]
    exact .inr ⟨rfl, hread n' hbegun⟩

theorem ofDecimals_append_le (ds rest : List Nat) : ofDecimals ds ≤ ofDecimals (ds ++ rest) := by
  rw [ofDecimals, ofDecimals, List.foldl_append]
  exact le_foldl rest _

/-- What a whole number can be cut to: some of its first digits. -/
theorem begun_wholeNumeral {n : Int} {n' : Numeral} (h : (wholeNumeral n).Begun n') :
    ∃ ds, ds ≠ [] ∧ ds <+: decimals n.natAbs ∧ ofDecimals ds ≤ n.natAbs ∧ n' = ⟨n < 0, ds, [], none⟩ := by
  cases h with
  | whole hne hstart =>
    refine ⟨_, hne, hstart, ?_, rfl⟩
    obtain ⟨rest, hwhole⟩ := hstart
    have hvalue := ofDecimals_decimals n.natAbs
    rw [← hvalue]
    exact (ofDecimals_append_le _ rest).trans (Nat.le_of_eq (congrArg ofDecimals hwhole))
  | fraction hne hstart => exact absurd (List.prefix_nil.mp hstart) hne
  | exponent _ _ hexponent => cases hexponent

theorem breaks_word {n : Nat} (h : n < twoTo 64) : Breaks readWord (.int n) := by
  refine breaks_number (isPlain_wholeNumeral n) (fun _ => (chars_wholeNumeral n).symm) (fun _ => rfl) fun n' hn' => ?_
  obtain ⟨ds, -, -, hle, rfl⟩ := begun_wholeNumeral hn'
  have habsorb : absorb 0 ds = (ofDecimals ds, []) := absorb_of_lt (Nat.lt_of_le_of_lt hle h)
  have hpos : ¬ (n : Int) < 0 := by omega
  refine ⟨ofDecimals ds, ?_⟩
  simp only [readWord, readNumber, Numeral.read, habsorb, hpos, decide_false, Bool.not_false, if_true]
  rfl

theorem breaks_int {n : Int} (hlow : -(twoTo 63 : Int) ≤ n) (hhigh : n < twoTo 63) : Breaks readInt (.int n) := by
  refine breaks_number (isPlain_wholeNumeral n) (fun _ => (chars_wholeNumeral n).symm) (fun _ => rfl) fun n' hn' => ?_
  obtain ⟨ds, hne, hstart, hle, rfl⟩ := begun_wholeNumeral hn'
  have hword : twoTo 63 < twoTo 64 := by decide
  have habsorb : absorb 0 ds = (ofDecimals ds, []) := absorb_of_lt (Nat.lt_of_le_of_lt hle (by omega))
  by_cases hneg : n < 0
  · -- no zero leads the digits, so the shorter number is not zero, which would be read as a double with its sign
    have hpos : 0 < ofDecimals ds := by
      obtain ⟨rest, hwhole⟩ := hstart
      have hhead : (decimals n.natAbs).head? ≠ some 0 := head?_decimals (by omega)
      obtain ⟨d, ds, rfl⟩ := List.exists_cons_of_ne_nil hne
      rw [← hwhole] at hhead
      have hd : d ≠ 0 := by simpa using hhead
      have hfold : 0 * 10 + d ≤ ofDecimals (d :: ds) := le_foldl ds (0 * 10 + d)
      omega
    have hrange : ¬ (ofDecimals ds = 0 ∨ twoTo 63 < ofDecimals ds) := by omega
    refine ⟨-(ofDecimals ds : Int), ?_⟩
    simp only [readInt, readNumber, Numeral.read, habsorb, hneg, decide_true, Bool.not_true, Bool.false_eq_true,
      if_false, if_neg hrange]
    rfl
  · have hlt : ofDecimals ds < twoTo 63 := by omega
    refine ⟨ofDecimals ds, ?_⟩
    simp only [readInt, readNumber, Numeral.read, habsorb, hneg, decide_false, Bool.not_false, if_true]
    exact if_pos hlt

/-- Every numeral that stands for no high power of ten is read as a double. -/
theorem exists_readFloat {n : Numeral} (h : n.whole.length + n.power ≤ 288) :
    ∃ y, readFloat (.num n) = .ok y := by
  have hnumber : ∃ v, n.read = .ok v := by
    by_cases hfloat : n.fraction ≠ [] ∨ n.exponent ≠ none
    · obtain ⟨x, hx⟩ := exists_read hfloat h
      exact ⟨_, hx⟩
    · obtain ⟨negative, whole, fraction, exponent⟩ := n
      obtain ⟨rfl, rfl⟩ : fraction = [] ∧ exponent = none := by simpa using hfloat
      have hlost := length_absorb_snd_le 0 whole
      have hs := absorb_fst_lt (s := 0) (by decide) whole
      cases habsorb : absorb 0 whole with
      | mk s lost =>
        rw [habsorb] at hlost hs
        dsimp only at hlost hs
        cases lost with
        | nil =>
          simp only [Numeral.read, habsorb]
          split
          · exact ⟨_, rfl⟩
          · split <;> exact ⟨_, rfl⟩
        | cons d lost =>
          simp only [Numeral.power] at h
          have hscale : ((d :: lost).length : Int) - (0 - 0 : Nat) + 0 ≤ 288 := by omega
          obtain ⟨y, hy⟩ := scaled_ok hs hscale
          simp only [Numeral.read, habsorb, absorb, List.length_nil]
          exact ⟨_, congrArg (_ <$> ·) hy⟩
  obtain ⟨v, hv⟩ := hnumber
  rw [readFloat, readNumber, hv]
  cases v <;> exact ⟨_, rfl⟩

/-- The sizes of the parts that are written for a double. -/
structure Numeral.IsLow (n : Numeral) : Prop where
  whole : n.whole.length ≤ 16
  exponent : ∀ ds, n.exponent = some (false, ds) → ofDecimals ds < 330

theorem isLow_positionalNumeral (negative : Bool) {ds : List Nat} {top : Int} (htop : top ≤ 15) :
    (positionalNumeral negative ds top).IsLow := by
  unfold positionalNumeral
  split
  · exact ⟨by simp, by simp⟩
  · refine ⟨?_, by simp⟩
    simp only [List.length_append, List.length_take, List.length_replicate]
    omega

theorem isLow_scientificNumeral (negative : Bool) {ds : List Nat} {top : Int} (htop : top < 330) :
    (scientificNumeral negative ds top).IsLow := by
  refine ⟨by simp [scientificNumeral], fun ds' hds' => ?_⟩
  simp only [scientificNumeral, Option.some.injEq, Prod.mk.injEq, decide_eq_false_iff_not] at hds'
  obtain ⟨hpos, rfl⟩ := hds'
  rw [ofDecimals_decimals]
  omega

theorem isLow_doubleNumeral {x : Binary64} (hx : x.isFinite = true) : (doubleNumeral x).IsLow := by
  rw [Binary64.isFinite, decide_eq_true_eq] at hx
  unfold doubleNumeral
  split
  · exact ⟨by simp, by simp⟩
  · next hne =>
    have htop := top_shortest_lt (Nat.pos_of_ne_zero hne) hx
    unfold decimalNumeral
    split
    · next hform => exact isLow_positionalNumeral _ (by simp [numberForm] at hform; exact hform.2)
    · exact isLow_scientificNumeral _ htop

/-- Cutting an exponent drops a digit of it, so what is left is no high power. -/
theorem Numeral.Begun.power_le {n n' : Numeral} (hn : n.IsLow) (h : n.Begun n') :
    n'.whole.length + n'.power ≤ 288 := by
  have hwhole := hn.whole
  cases h with
  | whole _ hstart =>
    have := hstart.length_le
    simp only [Numeral.power]
    omega
  | fraction _ _ =>
    simp only [Numeral.power]
    omega
  | @exponent negative ds rest _ hrest hexponent =>
    cases negative with
    | true =>
      simp only [Numeral.power, if_true]
      omega
    | false =>
      have hsmall := hn.exponent _ hexponent
      obtain ⟨d, rest, rfl⟩ := List.exists_cons_of_ne_nil hrest
      have hten : ofDecimals ds * 10 + d ≤ ofDecimals (ds ++ d :: rest) := by
        rw [ofDecimals, ofDecimals, List.foldl_append]
        exact le_foldl rest _
      simp only [Numeral.power, Bool.false_eq_true, if_false]
      omega

theorem breaks_num {x : Binary64} (hx : x.isFinite = true) : Breaks readFloat (.num x) :=
  breaks_number (isPlain_doubleNumeral x) (fun _ => spread_num hx) (fun _ => rfl)
    fun _ hbegun => exists_readFloat (hbegun.power_le (isLow_doubleNumeral hx))

end PassDelta.Json
