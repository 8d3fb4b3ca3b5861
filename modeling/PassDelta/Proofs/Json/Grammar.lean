import PassDelta.Proofs.Json.Structures
import Mathlib.Data.List.TakeWhile
/-!
# The grammar of JSON

Which texts spell which trees. The scanner finds the tree of every text that spells one, and finds none where the text
spells none. A reader that has no use for a value passes over whatever tree its text spells.
-/

namespace PassDelta.Json

def Blank (cs : List Char) : Prop := ∀ c ∈ cs, isSpace c = true

inductive Glyphs : List Mark → List Char → Prop
  | nil : Glyphs [] []
  | cons {m : Mark} {ms : List Mark} {cs rest : List Char} : Glyph m cs → Glyphs ms rest → Glyphs (m :: ms) (cs ++ rest)

inductive Quoted : Lexeme → List Char → Prop
  | mk {ms : List Mark} {cs : List Char} : Glyphs ms cs → Quoted ⟨ms, none⟩ ('"' :: (cs ++ ['"']))

inductive SpellsSign : Bool → List Char → Prop
  | minus : SpellsSign true ['-']
  | plus : SpellsSign false ['+']
  | nothing : SpellsSign false []

inductive SpellsExponent : Option (Bool × List Nat) → List Char → Prop
  | nothing : SpellsExponent none []
  | mark {c : Char} {negative : Bool} {sign : List Char} {ds : List Nat} : c = 'e' ∨ c = 'E' →
      SpellsSign negative sign → ds ≠ [] → (∀ d ∈ ds, d < 10) →
      SpellsExponent (some (negative, ds)) (c :: (sign ++ digitChars ds))

inductive SpellsNumeral : Numeral → List Char → Prop
  | mk {negative : Bool} {whole fraction : List Nat} {exponent : Option (Bool × List Nat)} {tail : List Char} :
      IsWhole whole → (∀ d ∈ fraction, d < 10) → SpellsExponent exponent tail →
      SpellsNumeral ⟨negative, whole, fraction, exponent⟩
        (signChars negative ++ (digitChars whole ++ (fractionChars fraction ++ tail)))

mutual

inductive Spells : Node → List Char → Prop
  | null : Spells .null ['n', 'u', 'l', 'l']
  | true : Spells (.bool true) ['t', 'r', 'u', 'e']
  | false : Spells (.bool false) ['f', 'a', 'l', 's', 'e']
  | num {n : Numeral} {cs : List Char} : SpellsNumeral n cs → Spells (.num n) cs
  | str {s : Lexeme} {cs : List Char} : Quoted s cs → Spells (.str s) cs
  | emptyList {blanks : List Char} : Blank blanks → Spells (.arr [] none) ('[' :: (blanks ++ [']']))
  | list {vs : List Node} {cs : List Char} : SpellsItems vs cs → Spells (.arr vs none) ('[' :: (cs ++ [']']))
  | emptyObject {blanks : List Char} : Blank blanks → Spells (.obj [] none) ('\x7b' :: (blanks ++ ['\x7d']))
  | object {ms : List (Lexeme × Node)} {cs : List Char} : SpellsMembers ms cs →
      Spells (.obj ms none) ('\x7b' :: (cs ++ ['\x7d']))

inductive SpellsPadded : Node → List Char → Prop
  | mk {v : Node} {before cs after : List Char} : Blank before → Spells v cs → Blank after →
      SpellsPadded v (before ++ (cs ++ after))

inductive SpellsItems : List Node → List Char → Prop
  | last {v : Node} {cs : List Char} : SpellsPadded v cs → SpellsItems [v] cs
  | more {v : Node} {vs : List Node} {cs rest : List Char} : SpellsPadded v cs → SpellsItems vs rest →
      SpellsItems (v :: vs) (cs ++ ',' :: rest)

inductive SpellsMember : Lexeme × Node → List Char → Prop
  | mk {k : Lexeme} {v : Node} {before name after cs : List Char} : Blank before → Quoted k name → Blank after →
      SpellsPadded v cs → SpellsMember (k, v) (before ++ (name ++ (after ++ ':' :: cs)))

inductive SpellsMembers : List (Lexeme × Node) → List Char → Prop
  | last {m : Lexeme × Node} {cs : List Char} : SpellsMember m cs → SpellsMembers [m] cs
  | more {m : Lexeme × Node} {ms : List (Lexeme × Node)} {cs rest : List Char} : SpellsMember m cs →
      SpellsMembers ms rest → SpellsMembers (m :: ms) (cs ++ ',' :: rest)

end

section
variable {blanks cs rest : List Char}

theorem blank_nil : Blank [] := by simp [Blank]

theorem Blank.skipSpace_append (h : Blank blanks) (cs : List Char) : skipSpace (blanks ++ cs) = skipSpace cs :=
  List.dropWhile_append_of_pos h

theorem Blank.skipSpace_cons (h : Blank blanks) {c : Char} (hc : isSpace c = false) (cs : List Char) :
    skipSpace (blanks ++ c :: cs) = c :: cs := by
  rw [h.skipSpace_append, Json.skipSpace_cons hc]

theorem Blank.skipSpace_eq (h : Blank blanks) : skipSpace blanks = [] := List.dropWhile_eq_nil_iff.mpr h

theorem exists_blank (cs : List Char) : ∃ blanks, Blank blanks ∧ cs = blanks ++ skipSpace cs :=
  ⟨cs.takeWhile isSpace, fun _ hc => List.mem_takeWhile_imp hc, List.takeWhile_append_dropWhile.symm⟩

theorem skipSpace_skipSpace (cs : List Char) : skipSpace (skipSpace cs) = skipSpace cs := by
  obtain ⟨blanks, hblanks, hcs⟩ := exists_blank cs
  conv_rhs => rw [hcs, hblanks.skipSpace_append]

theorem Blank.ended (h : Blank blanks) (hrest : Ended rest) : Ended (blanks ++ rest) := by
  cases blanks with
  | nil => exact hrest
  | cons b blanks =>
    intro c hc
    obtain rfl : b = c := by simpa using hc
    have hb := h b List.mem_cons_self
    simp only [isSpace, Bool.or_eq_true, decide_eq_true_eq] at hb
    rcases hb with ((rfl | rfl) | rfl) | rfl <;> decide

end

theorem Glyphs.scanString {ms : List Mark} {cs : List Char} (h : Glyphs ms cs) (rest : List Char) :
    scanString (cs ++ '"' :: rest) = (⟨ms, none⟩, some rest) := by
  induction h with
  | nil => simp [Json.scanString]
  | cons hm _ ih => rw [List.append_assoc, hm.scanString, ih]; rfl

def Encloses (s : Lexeme) (text rest : List Char) : Prop :=
  s.problem = none ∧ ∃ cs, Glyphs s.marks cs ∧ text = cs ++ '"' :: rest

theorem Glyph.encloses {m : Mark} {cs text rest : List Char} {s : Lexeme} (hm : Glyph m cs)
    (hrest : ∀ {s' : Lexeme}, Json.scanString text = (s', some rest) → Encloses s' text rest)
    (h : pushMark m (Json.scanString text) = (s, some rest)) : Encloses s (cs ++ text) rest := by
  rcases hscan : Json.scanString text with ⟨s', rest'⟩
  rw [hscan] at h
  obtain ⟨rfl, rfl⟩ := Prod.mk.inj h
  obtain ⟨hproblem, cs', hms, rfl⟩ := hrest hscan
  exact ⟨hproblem, cs ++ cs', .cons hm hms, (List.append_assoc _ _ _).symm⟩

theorem encloses_of_scanString {text rest : List Char} {s : Lexeme} (h : scanString text = (s, some rest)) :
    Encloses s text rest := by
  fun_induction scanString text generalizing s with
  | case1 => cases h
  | case2 => cases h
  | case3 a b c d rest' u hu ih => exact Glyph.encloses (.code rfl hu) ih h
  | case4 => cases h
  | case5 => cases h
  | case6 e rest' _ _ c hc ih => exact Glyph.encloses (.letter hc) ih h
  | case7 => cases h
  | case8 =>
    obtain ⟨rfl, hrest⟩ := Prod.mk.inj h
    cases hrest
    exact ⟨rfl, [], .nil, rfl⟩
  | case9 => cases h
  | case10 c rest' hnone _ _ hletter hquote hcontrol ih =>
    -- the cases before take whatever stands behind a backslash
    have hslash : c ≠ '\\' := by
      rintro rfl
      cases rest' with
      | nil => exact hnone rfl rfl
      | cons e rest' => exact hletter e rest' rfl rfl
    exact Glyph.encloses (.plain hquote hslash hcontrol) ih h

theorem Quoted.scanString {s : Lexeme} {cs : List Char} (h : Quoted s cs) (rest : List Char) :
    ∃ inner, cs ++ rest = '"' :: inner ∧ Json.scanString inner = (s, some rest) := by
  obtain ⟨hms⟩ := h
  exact ⟨_, by simp, hms.scanString rest⟩

theorem Encloses.quoted {s : Lexeme} {text rest : List Char} (h : Encloses s text rest) :
    ∃ cs, Quoted s cs ∧ '"' :: text = cs ++ rest := by
  obtain ⟨hproblem, cs, hms, rfl⟩ := h
  obtain ⟨ms, problem⟩ := s
  subst hproblem
  exact ⟨_, .mk hms, by simp⟩

theorem SpellsExponent.head? {e : Option (Bool × List Nat)} {tail rest : List Char} (h : SpellsExponent e tail)
    (hrest : Ended rest) : ∀ c ∈ (tail ++ rest).head?, c.isDigit = false ∧ c ≠ '.' := by
  intro c hc
  cases h with
  | nothing => exact ⟨(hrest c hc).1, (hrest c hc).2.1⟩
  | mark hmark _ _ _ =>
    obtain rfl := Option.mem_some.mp hc
    rcases hmark with rfl | rfl <;> decide

theorem SpellsExponent.scanTail {e : Option (Bool × List Nat)} {tail rest : List Char} (h : SpellsExponent e tail)
    (hrest : Ended rest) (negative : Bool) (whole fraction : List Nat) :
    Json.scanTail negative whole fraction (tail ++ rest) = (.num ⟨negative, whole, fraction, e⟩, some rest) := by
  cases h with
  | nothing => exact scanTail_exponentChars (e := none) negative whole fraction (by simp) hrest
  | @mark c negativeExponent sign ds hmark hsign hne hds =>
    have hdigits := digits_append hds fun c hc => (hrest c hc).1
    obtain ⟨d, ds, rfl⟩ := List.exists_cons_of_ne_nil hne
    have hexponent : scanExponent negative whole fraction (sign ++ (digitChars (d :: ds) ++ rest)) =
        (.num ⟨negative, whole, fraction, some (negativeExponent, d :: ds)⟩, some rest) := by
      cases hsign with
      | minus => simp [scanExponent, hdigits]
      | plus => simp [scanExponent, hdigits]
      | nothing =>
        have all : ∀ d < 10, Nat.digitChar d ≠ '+' ∧ Nat.digitChar d ≠ '-' := by decide
        obtain ⟨hplus, hminus⟩ := all d (hds d List.mem_cons_self)
        have htext : digitChars (d :: ds) ++ rest = Nat.digitChar d :: (digitChars ds ++ rest) := rfl
        rw [htext] at hdigits ⊢
        simp [scanExponent, hplus, hminus, hdigits]
    rcases hmark with rfl | rfl <;> simpa [Json.scanTail] using hexponent

theorem SpellsNumeral.scanNumber {n : Numeral} {cs rest : List Char} (h : SpellsNumeral n cs) (hrest : Ended rest) :
    scanNumber (cs ++ rest) = (.num n, some rest) := by
  obtain ⟨hwhole, hfraction, hexponent⟩ := h
  simp only [List.append_assoc]
  rw [scanNumber_digits _ hwhole hfraction (hexponent.head? hrest), hexponent.scanTail hrest]

theorem eq_of_digits {cs r : List Char} {ds : List Nat} (h : digits cs = (ds, r)) :
    cs = digitChars ds ++ r ∧ ∀ d ∈ ds, d < 10 := by
  obtain ⟨rfl, rfl⟩ := Prod.mk.inj h
  have hvalues : (cs.takeWhile Char.isDigit).filterMap digitValue? =
      (cs.takeWhile Char.isDigit).map fun c => c.toNat - 48 := by
    rw [← List.filterMap_eq_map]
    refine List.filterMap_congr fun c hc => ?_
    simp [digitValue?, List.mem_takeWhile_imp hc]
  rw [hvalues]
  constructor
  · have hchars : digitChars ((cs.takeWhile Char.isDigit).map fun c => c.toNat - 48) = cs.takeWhile Char.isDigit := by
      rw [digitChars, List.map_map]
      refine (List.map_congr_left fun c hc => ?_).trans (List.map_id _)
      exact (digitChar_toNat_sub (List.mem_takeWhile_imp hc)).1
    rw [hchars, List.takeWhile_append_dropWhile]
  · intro d hd
    obtain ⟨c, hc, rfl⟩ := List.mem_map.mp hd
    exact (digitChar_toNat_sub (List.mem_takeWhile_imp hc)).2

theorem of_scanExponent {negative : Bool} {whole fraction : List Nat} {cs rest : List Char} {v : Node} {c : Char}
    (hc : c = 'e' ∨ c = 'E') (h : scanExponent negative whole fraction cs = (v, some rest)) :
    ∃ e tail, SpellsExponent e tail ∧ v = .num ⟨negative, whole, fraction, e⟩ ∧ c :: cs = tail ++ rest := by
  unfold scanExponent at h
  split at h
  next negativeExponent unsigned hmatch =>
    have hsign : ∃ sign, SpellsSign negativeExponent sign ∧ cs = sign ++ unsigned := by
      split at hmatch <;> obtain ⟨rfl, rfl⟩ := Prod.mk.inj hmatch
      · exact ⟨_, .plus, rfl⟩
      · exact ⟨_, .minus, rfl⟩
      · exact ⟨_, .nothing, rfl⟩
    obtain ⟨sign, hspells, rfl⟩ := hsign
    split at h
    · cases h
    · next ds r hne hdigits =>
      obtain ⟨rfl, hrest⟩ := Prod.mk.inj h
      obtain rfl := Option.some.inj hrest
      obtain ⟨rfl, hds⟩ := eq_of_digits hdigits
      exact ⟨_, _, .mark hc hspells hne hds, rfl, by simp⟩

theorem of_scanTail {negative : Bool} {whole fraction : List Nat} {cs rest : List Char} {v : Node}
    (h : scanTail negative whole fraction cs = (v, some rest)) :
    ∃ e tail, SpellsExponent e tail ∧ v = .num ⟨negative, whole, fraction, e⟩ ∧ cs = tail ++ rest := by
  unfold scanTail at h
  split at h
  · exact of_scanExponent (.inl rfl) h
  · exact of_scanExponent (.inr rfl) h
  · obtain ⟨rfl, hrest⟩ := Prod.mk.inj h
    cases hrest
    exact ⟨none, [], .nothing, rfl, rfl⟩

theorem isWhole_of_digits {cs r : List Char} {whole : List Nat} (h : digits cs = (whole, r)) (hne : whole ≠ [])
    (hzero : ∀ d ds, whole ≠ 0 :: d :: ds) : IsWhole whole where
  ne_nil := hne
  digits := (eq_of_digits h).2
  zero := by
    match whole, hne with
    | [_], _ => exact .inl (Nat.le_refl 1)
    | d :: d' :: ds, _ =>
      refine .inr fun hhead => hzero d' ds ?_
      rw [Option.some.inj hhead]

theorem of_scanUnsigned {negative : Bool} {cs rest : List Char} {v : Node}
    (h : scanUnsigned negative cs = (v, some rest)) :
    ∃ n text, SpellsNumeral n text ∧ v = .num n ∧ signChars negative ++ cs = text ++ rest := by
  unfold scanUnsigned at h
  split at h
  · cases h
  · cases h
  · next whole r hne hzero hdigits =>
    have hwhole := isWhole_of_digits hdigits hne hzero
    obtain ⟨rfl, -⟩ := eq_of_digits hdigits
    split at h
    · cases h
    · next fraction r' hne' hdigits' =>
      obtain ⟨rfl, hfraction⟩ := eq_of_digits hdigits'
      obtain ⟨e, tail, htail, rfl, rfl⟩ := of_scanTail h
      exact ⟨_, _, .mk hwhole hfraction htail, rfl, by simp [fractionChars, if_neg hne']⟩
  · next whole r hne hzero _ hdigits =>
    have hwhole := isWhole_of_digits hdigits hne hzero
    obtain ⟨rfl, -⟩ := eq_of_digits hdigits
    obtain ⟨e, tail, htail, rfl, rfl⟩ := of_scanTail h
    exact ⟨_, _, .mk hwhole (by simp) htail, rfl, by simp [fractionChars]⟩

theorem of_scanNumber {cs rest : List Char} {v : Node} (h : scanNumber cs = (v, some rest)) :
    ∃ n text, SpellsNumeral n text ∧ v = .num n ∧ cs = text ++ rest := by
  have hsign : ∃ negative unsigned, cs = signChars negative ++ unsigned ∧
      scanNumber cs = scanUnsigned negative unsigned := by
    by_cases hhead : cs.head? = some '-'
    · obtain ⟨unsigned, rfl⟩ := List.head?_eq_some_iff.mp hhead
      exact ⟨true, unsigned, rfl, rfl⟩
    · exact ⟨false, cs, rfl, scanNumber_sign false hhead⟩
  obtain ⟨negative, unsigned, rfl, hscan⟩ := hsign
  exact of_scanUnsigned (hscan.symm.trans h)

theorem SpellsNumeral.head {n : Numeral} {cs : List Char} (h : SpellsNumeral n cs) :
    ∃ c tail, cs = c :: tail ∧ (c = '-' ∨ c.isDigit = true) := by
  obtain ⟨hwhole, -, -⟩ := h
  rename_i negative whole _ _ _
  obtain ⟨d, ds, rfl⟩ := List.exists_cons_of_ne_nil hwhole.ne_nil
  cases negative with
  | true => exact ⟨'-', _, rfl, .inl rfl⟩
  | false => exact ⟨Nat.digitChar d, _, rfl, .inr (by simpa using hwhole.digits d List.mem_cons_self)⟩

theorem Spells.begins {v : Node} {cs : List Char} (h : Spells v cs) : Begins cs := by
  cases h with
  | null => exact ⟨'n', _, rfl, by decide, by decide⟩
  | true => exact ⟨'t', _, rfl, by decide, by decide⟩
  | false => exact ⟨'f', _, rfl, by decide, by decide⟩
  | num hn =>
    obtain ⟨c, tail, rfl, hc⟩ := hn.head
    exact ⟨c, tail, rfl, (other_head hc).1, by rintro rfl; rcases hc with h | h <;> cases h⟩
  | str hs =>
    obtain ⟨_⟩ := hs
    exact ⟨'"', _, rfl, by decide, by decide⟩
  | emptyList | list => exact ⟨'[', _, rfl, by decide, by decide⟩
  | emptyObject | object => exact ⟨'\x7b', _, rfl, by decide, by decide⟩

theorem SpellsPadded.head? {v : Node} {cs : List Char} (h : SpellsPadded v cs) (rest : List Char) :
    (skipSpace (cs ++ rest)).head? ≠ some ']' := by
  obtain ⟨hbefore, hv, -⟩ := h
  rw [List.append_assoc, hbefore.skipSpace_append, List.append_assoc, skipSpace_begins hv.begins]
  exact (begins_append hv.begins _).head?_ne

theorem SpellsItems.head? {vs : List Node} {cs : List Char} (h : SpellsItems vs cs) (rest : List Char) :
    (skipSpace (cs ++ rest)).head? ≠ some ']' := by
  cases h with
  | last hv => exact hv.head? rest
  | more hv _ => rw [List.append_assoc]; exact hv.head? _

theorem scanItems_skipSpace (fuel : Nat) (cs : List Char) : scanItems fuel (skipSpace cs) = scanItems fuel cs := by
  cases fuel with
  | zero => rw [scanItems, scanItems]
  | succ fuel => rw [scanItems, scanItems, scanValue_skipSpace (skipSpace_skipSpace cs)]

theorem scanValue_word {c : Char} {w : List Char} {v : Node}
    (hscan : ∀ fuel rest, scanValue (fuel + 1) (c :: (w ++ rest)) = scanWord v w (w ++ rest)) {fuel : Nat}
    (hfuel : 2 * (c :: w).length ≤ fuel) (rest : List Char) : scanValue fuel (c :: w ++ rest) = (v, some rest) := by
  obtain ⟨fuel, rfl⟩ : ∃ f, fuel = f + 1 := ⟨fuel - 1, by rw [List.length_cons] at hfuel; omega⟩
  rw [List.cons_append, hscan, scanWord_append]

mutual

/-- Whatever spells a value is scanned to the end of the value. -/
theorem Spells.scan {v : Node} {cs : List Char} (h : Spells v cs) {fuel : Nat} (hfuel : 2 * cs.length ≤ fuel)
    {rest : List Char} (hrest : Ended rest) : scanValue fuel (cs ++ rest) = (v, some rest) := by
  obtain ⟨fuel, rfl⟩ := exists_fuel h.begins hfuel
  cases h with
  | null => exact scanValue_word (fun _ _ => by simp [scanValue, skipSpace, isSpace]) hfuel rest
  | true => exact scanValue_word (fun _ _ => by simp [scanValue, skipSpace, isSpace]) hfuel rest
  | false => exact scanValue_word (fun _ _ => by simp [scanValue, skipSpace, isSpace]) hfuel rest
  | num hn =>
    have hscan := hn.scanNumber hrest
    obtain ⟨c, tail, rfl, hc⟩ := hn.head
    rw [List.cons_append] at hscan ⊢
    rw [scanValue_number hc, hscan]
  | str hs =>
    obtain ⟨inner, htext, hscan⟩ := hs.scanString rest
    rw [htext, scanValue, skipSpace_cons (by decide)]
    simp only [if_true, hscan]
  | @emptyList blanks hblanks =>
    have hclose := hblanks.skipSpace_cons (c := ']') (by decide) rest
    simp [scanValue, skipSpace_cons (c := '[') (by decide), hclose]
  | @list vs cs hvs =>
    simp only [List.length_cons, List.length_append] at hfuel
    have htext : '[' :: (cs ++ [']']) ++ rest = '[' :: (cs ++ ']' :: rest) := by simp
    rw [htext, scanValue_list (hvs.head? _), scanItems_skipSpace, hvs.scan (by omega)]
  | @emptyObject blanks hblanks =>
    have hclose := hblanks.skipSpace_cons (c := '\x7d') (by decide) rest
    simp [scanValue, skipSpace_cons (c := '\x7b') (by decide), hclose]
  | @object ms cs hms =>
    simp only [List.length_cons, List.length_append] at hfuel
    have htext : '\x7b' :: (cs ++ ['\x7d']) ++ rest = '\x7b' :: (cs ++ '\x7d' :: rest) := by simp
    obtain ⟨inner, hquote, hscan⟩ := hms.scan (show 2 * _ + 1 ≤ fuel by omega) rest
    rw [htext, scanValue_object hquote, hscan]

theorem SpellsPadded.scan {v : Node} {cs : List Char} (h : SpellsPadded v cs) {fuel : Nat}
    (hfuel : 2 * cs.length ≤ fuel) {rest : List Char} (hrest : Ended rest) :
    ∃ after, Blank after ∧ scanValue fuel (cs ++ rest) = (v, some (after ++ rest)) := by
  obtain ⟨hbefore, hv, hafter⟩ := h
  rename_i before cs after
  simp only [List.length_append] at hfuel
  refine ⟨after, hafter, ?_⟩
  rw [List.append_assoc, scanValue_skipSpace (hbefore.skipSpace_append _), List.append_assoc]
  exact hv.scan (by omega) (hafter.ended hrest)

theorem SpellsItems.scan {vs : List Node} {cs : List Char} (h : SpellsItems vs cs) {fuel : Nat}
    (hfuel : 2 * cs.length + 1 ≤ fuel) (rest : List Char) :
    scanItems fuel (cs ++ ']' :: rest) = (vs, none, some rest) := by
  obtain ⟨fuel, rfl⟩ : ∃ f, fuel = f + 1 := ⟨fuel - 1, by omega⟩
  cases h with
  | last hv =>
    obtain ⟨after, hafter, hscan⟩ := hv.scan (show 2 * _ ≤ fuel by omega) (ended_cons (c := ']') (by decide) rest)
    exact scanItems_last hscan (hafter.skipSpace_cons (by decide) rest)
  | @more v vs cs more hv hvs =>
    simp only [List.length_append, List.length_cons] at hfuel
    have htext : cs ++ ',' :: more ++ ']' :: rest = cs ++ ',' :: (more ++ ']' :: rest) := by simp
    obtain ⟨after, hafter, hscan⟩ := hv.scan (show 2 * cs.length ≤ fuel by omega)
      (ended_cons (c := ',') (by decide) (more ++ ']' :: rest))
    have hcomma := hafter.skipSpace_cons (c := ',') (by decide) (more ++ ']' :: rest)
    rw [htext, scanItems_more hscan hcomma (hvs.head? _), scanItems_skipSpace, hvs.scan (by omega)]

theorem SpellsMember.scan {m : Lexeme × Node} {cs : List Char} (h : SpellsMember m cs) {fuel : Nat}
    (hfuel : 2 * cs.length ≤ fuel) {rest : List Char} (hrest : Ended rest) :
    ∃ inner colon value after, skipSpace (cs ++ rest) = '"' :: inner ∧ scanString inner = (m.1, some colon) ∧
      skipSpace colon = ':' :: value ∧ Blank after ∧ scanValue fuel value = (m.2, some (after ++ rest)) := by
  obtain ⟨hbefore, hname, hafter, hv⟩ := h
  rename_i k v before name after cs
  simp only [List.length_append, List.length_cons] at hfuel
  obtain ⟨inner, htext, hscan⟩ := hname.scanString (after ++ ':' :: (cs ++ rest))
  obtain ⟨behind, hbehind, hvalue⟩ := hv.scan (show 2 * _ ≤ fuel by omega) hrest
  have hquote : before ++ (name ++ (after ++ ':' :: cs)) ++ rest = before ++ '"' :: inner := by
    rw [← htext]
    simp
  refine ⟨inner, _, _, behind, ?_, hscan, hafter.skipSpace_cons (by decide) _, hbehind, hvalue⟩
  rw [hquote, hbefore.skipSpace_cons (by decide)]

theorem SpellsMembers.scan {ms : List (Lexeme × Node)} {cs : List Char} (h : SpellsMembers ms cs) {fuel : Nat}
    (hfuel : 2 * cs.length + 1 ≤ fuel) (rest : List Char) :
    ∃ inner, skipSpace (cs ++ '\x7d' :: rest) = '"' :: inner ∧ scanMembers fuel inner = (ms, none, some rest) := by
  obtain ⟨fuel, rfl⟩ : ∃ f, fuel = f + 1 := ⟨fuel - 1, by omega⟩
  cases h with
  | last hm =>
    obtain ⟨inner, colon, value, after, hquote, hname, hcolon, hafter, hvalue⟩ :=
      hm.scan (show 2 * _ ≤ fuel by omega) (ended_cons (c := '\x7d') (by decide) rest)
    exact ⟨inner, hquote, scanMembers_last hname hcolon hvalue (hafter.skipSpace_cons (by decide) rest)⟩
  | @more m ms cs more hm hms =>
    simp only [List.length_append, List.length_cons] at hfuel
    have htext : cs ++ ',' :: more ++ '\x7d' :: rest = cs ++ ',' :: (more ++ '\x7d' :: rest) := by simp
    obtain ⟨inner, colon, value, after, hquote, hname, hcolon, hafter, hvalue⟩ :=
      hm.scan (show 2 * cs.length ≤ fuel by omega) (ended_cons (c := ',') (by decide) (more ++ '\x7d' :: rest))
    have hcomma := hafter.skipSpace_cons (c := ',') (by decide) (more ++ '\x7d' :: rest)
    obtain ⟨next, hnext, hscan⟩ := hms.scan (show 2 * _ + 1 ≤ fuel by omega) rest
    refine ⟨inner, htext ▸ hquote, ?_⟩
    rw [scanMembers_more hname hcolon hvalue hcomma hnext, hscan]

end

def FindsValues (fuel : Nat) : Prop := ∀ {text rest v}, scanValue fuel text = (v, some rest) →
  ∃ before cs, Blank before ∧ Spells v cs ∧ text = before ++ (cs ++ rest)

def FindsItems (fuel : Nat) : Prop := ∀ {text rest vs problem}, scanItems fuel text = (vs, problem, some rest) →
  problem = none ∧ ∃ cs, SpellsItems vs cs ∧ text = cs ++ ']' :: rest

def FindsMembers (fuel : Nat) : Prop := ∀ {text rest ms problem}, scanMembers fuel text = (ms, problem, some rest) →
  problem = none ∧ ∃ cs, SpellsMembers ms cs ∧ '"' :: text = cs ++ '\x7d' :: rest

section
variable {fuel : Nat}

theorem spells_of_scanWord {v : Node} {ws text rest : List Char} {v' : Node}
    (h : scanWord v ws text = (v', some rest)) : v' = v ∧ text = ws ++ rest := by
  induction ws generalizing text with
  | nil =>
    obtain ⟨rfl, hrest⟩ := Prod.mk.inj h
    obtain rfl := Option.some.inj hrest
    exact ⟨rfl, rfl⟩
  | cons w ws ih =>
    cases text with
    | nil => cases h
    | cons c text =>
      rw [scanWord] at h
      split_ifs at h with hc
      · obtain ⟨rfl, rfl⟩ := ih h
        exact ⟨rfl, by rw [hc]; rfl⟩
      · cases h

theorem FindsValues.items (hvalues : FindsValues fuel) (hitems : FindsItems fuel) : FindsItems (fuel + 1) := by
  intro text rest vs problem h
  rw [scanItems] at h
  split at h
  · cases h
  next v behind hv =>
    obtain ⟨before, cs, hbefore, hspells, rfl⟩ := hvalues hv
    obtain ⟨after, hafter, hbehind⟩ := exists_blank behind
    have hpadded : SpellsPadded v (before ++ (cs ++ after)) := .mk hbefore hspells hafter
    split at h
    · cases h
    · next r hclose =>
      cases h
      rw [hclose] at hbehind
      exact ⟨rfl, _, .last hpadded, by rw [hbehind]; simp⟩
    · next r hcomma =>
      rw [hcomma] at hbehind
      split at h
      · cases h
      · rw [scanItems_skipSpace] at h
        rcases hscan : scanItems fuel r with ⟨vs', problem', rest'⟩
        rw [hscan] at h
        cases h
        obtain ⟨rfl, cs', hvs, rfl⟩ := hitems hscan
        exact ⟨rfl, _, .more hpadded hvs, by rw [hbehind]; simp⟩
    · cases h

theorem Blank.append {blanks before : List Char} (h : Blank blanks) (h' : Blank before) : Blank (blanks ++ before) :=
  List.forall_mem_append.mpr ⟨h, h'⟩

theorem SpellsMember.padded {m : Lexeme × Node} {blanks cs : List Char} (hblanks : Blank blanks)
    (h : SpellsMember m cs) : SpellsMember m (blanks ++ cs) := by
  obtain ⟨hbefore, hname, hafter, hv⟩ := h
  rw [← List.append_assoc]
  exact .mk (hblanks.append hbefore) hname hafter hv

theorem SpellsMembers.padded {ms : List (Lexeme × Node)} {blanks cs : List Char} (hblanks : Blank blanks)
    (h : SpellsMembers ms cs) : SpellsMembers ms (blanks ++ cs) := by
  cases h with
  | last hm => exact .last (hm.padded hblanks)
  | more hm hms =>
    rw [← List.append_assoc]
    exact .more (hm.padded hblanks) hms

/-- The members of an object are found one after another. -/
theorem FindsValues.members (hvalues : FindsValues fuel) (hmembers : FindsMembers fuel) :
    FindsMembers (fuel + 1) := by
  intro text rest ms problem h
  rw [scanMembers] at h
  split at h
  · cases h
  next k behindName hk =>
    obtain ⟨name, hname, htext⟩ := (encloses_of_scanString hk).quoted
    obtain ⟨after, hafter, hbehindName⟩ := exists_blank behindName
    split at h
    · cases h
    · next r hcolon =>
      rw [hcolon] at hbehindName
      split at h
      · cases h
      next v behind hv =>
        obtain ⟨before, cs, hbefore, hspells, rfl⟩ := hvalues hv
        obtain ⟨after', hafter', hbehind⟩ := exists_blank behind
        have hmember : SpellsMember (k, v) (name ++ (after ++ ':' :: (before ++ (cs ++ after')))) :=
          .mk blank_nil hname hafter (.mk hbefore hspells hafter')
        split at h
        · cases h
        · next r' hclose =>
          cases h
          rw [hclose] at hbehind
          exact ⟨rfl, _, .last hmember, by rw [htext, hbehindName, hbehind]; simp⟩
        · next r' hcomma =>
          rw [hcomma] at hbehind
          obtain ⟨blanks, hblanks, hr'⟩ := exists_blank r'
          split at h
          · cases h
          · next inner hquote =>
            rw [hquote] at hr'
            rcases hscan : scanMembers fuel inner with ⟨ms', problem', rest'⟩
            rw [hscan] at h
            cases h
            obtain ⟨rfl, cs', hms, hinner⟩ := hmembers hscan
            exact ⟨rfl, _, .more hmember (hms.padded hblanks), by rw [htext, hbehindName, hbehind, hr', hinner]; simp⟩
          · cases h
        · cases h
    · cases h

/-- One more level of nesting: values of every shape are found again, those of lists and objects from the level below. -/
theorem FindsValues.succ (hitems : FindsItems fuel) (hmembers : FindsMembers fuel) : FindsValues (fuel + 1) := by
  intro text rest v h
  obtain ⟨before, hbefore, htext⟩ := exists_blank text
  rw [scanValue] at h
  split at h
  · cases h
  next c r hskip =>
    suffices hv : ∃ cs, Spells v cs ∧ c :: r = cs ++ rest by
      obtain ⟨cs, hspells, hcs⟩ := hv
      exact ⟨before, cs, hbefore, hspells, by rw [htext, hskip, hcs]⟩
    split_ifs at h with hquote hlist hobject htrue hfalse hnull hnumber
    · rcases hscan : scanString r with ⟨s, rest'⟩
      rw [hscan] at h
      cases h
      obtain ⟨cs, hs, hr⟩ := (encloses_of_scanString hscan).quoted
      exact ⟨cs, .str hs, by rw [hquote, hr]⟩
    · obtain ⟨blanks, hblanks, hr⟩ := exists_blank r
      split at h
      · next r' hclose =>
        cases h
        exact ⟨_, .emptyList hblanks, by rw [hlist, hr, hclose]; simp⟩
      · rw [scanItems_skipSpace] at h
        rcases hscan : scanItems fuel r with ⟨vs, problem, rest'⟩
        rw [hscan] at h
        cases h
        obtain ⟨rfl, cs, hvs, rfl⟩ := hitems hscan
        exact ⟨_, .list hvs, by rw [hlist]; simp⟩
    · obtain ⟨blanks, hblanks, hr⟩ := exists_blank r
      split at h
      · cases h
      · next r' hclose =>
        cases h
        exact ⟨_, .emptyObject hblanks, by rw [hobject, hr, hclose]; simp⟩
      · next inner hinner =>
        rcases hscan : scanMembers fuel inner with ⟨ms, problem, rest'⟩
        rw [hscan] at h
        cases h
        obtain ⟨rfl, cs, hms, hcs⟩ := hmembers hscan
        exact ⟨_, .object (hms.padded hblanks), by rw [hobject, hr, hinner, hcs]; simp⟩
      · cases h
    · obtain ⟨rfl, rfl⟩ := spells_of_scanWord h
      exact ⟨_, .true, by rw [htrue]; rfl⟩
    · obtain ⟨rfl, rfl⟩ := spells_of_scanWord h
      exact ⟨_, .false, by rw [hfalse]; rfl⟩
    · obtain ⟨rfl, rfl⟩ := spells_of_scanWord h
      exact ⟨_, .null, by rw [hnull]; rfl⟩
    · obtain ⟨n, cs, hn, rfl, hcs⟩ := of_scanNumber h
      exact ⟨cs, .num hn, hcs⟩
    · cases h

theorem finds (fuel : Nat) : FindsValues fuel ∧ FindsItems fuel ∧ FindsMembers fuel := by
  induction fuel with
  | zero =>
    refine ⟨fun h => ?_, fun h => ?_, fun h => ?_⟩
    · rw [scanValue] at h; cases h
    · rw [scanItems] at h; cases h
    · rw [scanMembers] at h; cases h
  | succ fuel ih =>
    obtain ⟨hvalues, hitems, hmembers⟩ := ih
    exact ⟨FindsValues.succ hitems hmembers, hvalues.items hitems, hvalues.members hmembers⟩

end

/-- The scanner takes a text up to blanks for a tree exactly if the text spells it. -/
theorem scan_iff_spells {text : List Char} {v : Node} :
    (∃ rest, scan text = (v, some rest) ∧ skipSpace rest = []) ↔ SpellsPadded v text := by
  constructor
  · rintro ⟨rest, hscan, hrest⟩
    obtain ⟨before, cs, hbefore, hv, rfl⟩ := (finds _).1 hscan
    obtain ⟨after, hafter, hafter'⟩ := exists_blank rest
    rw [hrest, List.append_nil] at hafter'
    exact .mk hbefore hv (hafter' ▸ hafter)
  · intro h
    obtain ⟨after, hafter, hscan⟩ := h.scan (Nat.le_add_right (2 * text.length) 2) (show Ended [] by simp [Ended])
    rw [List.append_nil, List.append_nil] at hscan
    exact ⟨after, hscan, hafter.skipSpace_eq⟩

theorem SpellsPadded.readDocument {α : Type} {v : Node} {text : String} (h : SpellsPadded v text.toList)
    (r : Reader α) : readDocument r text = r v := by
  obtain ⟨rest, hscan, hrest⟩ := scan_iff_spells.mpr h
  rw [Json.readDocument, hscan]
  dsimp only
  cases r v with
  | error e => rfl
  | ok x => simp [hrest, bind, Except.bind, pure, Except.pure]

/-- A text that is read spells the tree from which it is. -/
theorem exists_spells_of_readDocument {α : Type} {r : Reader α} {text : String} {x : α}
    (h : readDocument r text = .ok x) : ∃ v, SpellsPadded v text.toList ∧ r v = .ok x := by
  unfold readDocument at h
  rcases hscan : scan text.toList with ⟨v, rest⟩
  rw [hscan] at h
  obtain ⟨y, hy, hrest⟩ := bind_eq_ok.mp h
  split at hrest
  · next hblank =>
    cases hrest
    obtain ⟨rest, rfl, hrest'⟩ := Option.map_eq_some_iff.mp hblank
    exact ⟨v, scan_iff_spells.mp ⟨rest, hscan, hrest'⟩, hy⟩
  · cases hrest
  · cases hrest

theorem Quoted.problem {s : Lexeme} {cs : List Char} (h : Quoted s cs) : s.problem = none := by
  obtain ⟨_⟩ := h
  rfl

mutual

theorem Spells.skip {v : Node} {cs : List Char} : Spells v cs → v.skip = .ok ()
  | .null | .true | .false | .num _ | .emptyList _ | .emptyObject _ => rfl
  | .str hs => by rw [Node.skip, hs.problem]; rfl
  | .list hvs => by rw [Node.skip, hvs.skip]; rfl
  | .object hms => by rw [Node.skip, hms.skip]; rfl

theorem SpellsPadded.skip {v : Node} {cs : List Char} : SpellsPadded v cs → v.skip = .ok ()
  | .mk _ hv _ => hv.skip

theorem SpellsItems.skip {vs : List Node} {cs : List Char} : SpellsItems vs cs → skipItems vs = .ok ()
  | .last hv => by rw [skipItems, hv.skip]; rfl
  | .more hv hvs => by rw [skipItems, hv.skip]; exact hvs.skip

theorem SpellsMember.skip {m : Lexeme × Node} {cs : List Char} :
    SpellsMember m cs → closed m.1.problem = .ok () ∧ m.2.skip = .ok ()
  | .mk _ hname _ hv => ⟨by rw [hname.problem]; rfl, hv.skip⟩

theorem SpellsMembers.skip {ms : List (Lexeme × Node)} {cs : List Char} : SpellsMembers ms cs → skipMembers ms = .ok ()
  | .last hm => by
    obtain ⟨hname, hvalue⟩ := hm.skip
    rw [skipMembers, hname, hvalue]
    rfl
  | .more hm hms => by
    obtain ⟨hname, hvalue⟩ := hm.skip
    rw [skipMembers, hname, hvalue]
    exact hms.skip

end

end PassDelta.Json
