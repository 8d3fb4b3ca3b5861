import PassDelta.Json.Reader
import PassDelta.Json.Value
import Mathlib.Tactic.Common
/-!
# Strings read back

What is written for a character is scanned as one mark, whatever stands behind it. None of these marks is a surrogate,
so they join to the characters they were written for.
-/

namespace PassDelta.Json

/-- How a character is found in a string that was written: by its number if it is a control character without a letter
of its own, else as itself. -/
def markOf (c : Char) : Mark :=
  if c.toNat < 0x20 ∧ c.toNat ∉ [8, 9, 10, 12, 13] then .unit c.toNat else .char c

def lexemeOf (s : String) : Lexeme := ⟨s.toList.map markOf, none⟩

/-- The ways in which a character is written, each with the mark it leaves. -/
inductive Escaped (c : Char) : List Char → Mark → Prop
  | letter {e : Char} : simpleEscape? e = some c → Escaped c ['\\', e] (.char c)
  | number {ds : List Char} : ds.length = 4 → (∀ d ∈ ds, d.utf8Size = 1) → hexNumber? ds = some c.toNat →
      c.toNat < 0x20 → Escaped c ('\\' :: 'u' :: ds) (.unit c.toNat)
  | plain : c ≠ '"' → c ≠ '\\' → ¬ c.toNat < 0x20 → Escaped c [c] (.char c)

theorem hexNumber?_hex {n : Nat} (h : n < 0x20) : (Text.hex false 4 n).length = 4 ∧
    (∀ d ∈ Text.hex false 4 n, d.utf8Size = 1) ∧ hexNumber? (Text.hex false 4 n) = some n := by
  have all : ∀ n < 0x20, (Text.hex false 4 n).length = 4 ∧ (Text.hex false 4 n).all (·.utf8Size == 1) = true ∧
      hexNumber? (Text.hex false 4 n) = some n := by
    decide +kernel
  obtain ⟨hlength, hascii, hnumber⟩ := all n h
  exact ⟨hlength, fun d hd => eq_of_beq (List.all_eq_true.mp hascii d hd), hnumber⟩

theorem escaped (c : Char) : Escaped c (escape c) (markOf c) := by
  have letter {e d : Char} (hc : c = d) (he : simpleEscape? e = some d) (hm : markOf d = .char d) :
      Escaped c ['\\', e] (markOf c) := by
    subst hc
    exact hm ▸ .letter he
  have hcode {n : Nat} (h : c.toNat = n) : c = Char.ofNat n := by rw [← h, Char.ofNat_toNat]
  unfold escape
  split_ifs with hquote hslash h8 htab hnew h12 hret hcontrol
  · exact letter hquote (by decide) (by decide)
  · exact letter hslash (by decide) (by decide)
  · exact letter (hcode h8) (by decide) (by decide)
  · exact letter htab (by decide) (by decide)
  · exact letter hnew (by decide) (by decide)
  · exact letter (hcode h12) (by decide) (by decide)
  · exact letter hret (by decide) (by decide)
  · have hother : c.toNat ∉ [8, 9, 10, 12, 13] := by
      simp only [List.mem_cons, List.not_mem_nil, or_false, not_or]
      exact ⟨h8, mt hcode htab, mt hcode hnew, h12, mt hcode hret⟩
    rw [markOf, if_pos ⟨hcontrol, hother⟩]
    obtain ⟨hlength, hascii, hnumber⟩ := hexNumber?_hex hcontrol
    exact .number hlength hascii hnumber hcontrol
  · rw [markOf, if_neg fun h => hcontrol h.1]
    exact .plain hquote hslash hcontrol

inductive Glyph : Mark → List Char → Prop
  | plain {c : Char} : c ≠ '"' → c ≠ '\\' → ¬ c.toNat < 0x20 → Glyph (.char c) [c]
  | letter {e c : Char} : simpleEscape? e = some c → Glyph (.char c) ['\\', e]
  | code {ds : List Char} {u : Nat} : ds.length = 4 → hexNumber? ds = some u → Glyph (.unit u) ('\\' :: 'u' :: ds)

/-- An element is scanned as one mark, whatever follows. -/
theorem Glyph.scanString {m : Mark} {cs : List Char} (h : Glyph m cs) (rest : List Char) :
    scanString (cs ++ rest) = pushMark m (scanString rest) := by
  cases h with
  | plain hquote hslash hcontrol =>
    rw [List.cons_append, List.nil_append, Json.scanString]
    · rw [if_neg hcontrol]
    · exact fun h _ => hslash h
    · exact fun _ _ _ _ _ h _ => hslash h
    · exact fun _ h _ => hslash h
    · exact fun _ _ h _ => hslash h
    · exact hquote
  | @letter e _ he =>
    have hu : e ≠ 'u' := by rintro rfl; cases he
    rw [List.cons_append, List.cons_append, List.nil_append, Json.scanString]
    · simp only [he]
    · rintro _ _ _ _ _ rfl; exact absurd rfl hu
    · rintro rfl; exact absurd rfl hu
  | @code ds _ hlength hnumber =>
    match ds, hlength with
    | [_, _, _, _], _ => simp only [List.cons_append, List.nil_append, Json.scanString, hnumber]

theorem Escaped.glyph {c : Char} {cs : List Char} {m : Mark} (h : Escaped c cs m) : Glyph m cs := by
  cases h with
  | letter he => exact .letter he
  | number hlength _ hnumber _ => exact .code hlength hnumber
  | plain hquote hslash hcontrol => exact .plain hquote hslash hcontrol

/-- A written text is scanned up to its closing quote. -/
theorem scanString_escape (s : String) (rest : List Char) :
    scanString (s.toList.flatMap escape ++ '"' :: rest) = (lexemeOf s, some rest) := by
  have go (cs : List Char) :
      scanString (cs.flatMap escape ++ '"' :: rest) = (⟨cs.map markOf, none⟩, some rest) := by
    induction cs with
    | nil => simp [scanString]
    | cons c cs ih => rw [List.flatMap_cons, List.append_assoc, (escaped c).glyph.scanString, ih]; rfl
  exact go s.toList

theorem Escaped.joinMarks {c : Char} {cs : List Char} {m : Mark} (h : Escaped c cs m) (problem : Option ReadError)
    (ms : List Mark) : joinMarks problem (m :: ms) = (c :: ·) <$> joinMarks problem ms := by
  cases h with
  | letter | plain => rfl
  | number _ _ _ hcontrol =>
    have hlow : c.toNat < 0xD800 ∨ 0xDFFF < c.toNat := .inl (by omega)
    rw [Json.joinMarks.eq_def]
    simp only [if_pos hlow, Char.ofNat_toNat]

/-- A written text is read as itself. -/
theorem text_lexemeOf (s : String) : (lexemeOf s).text = .ok s := by
  have go (cs : List Char) : joinMarks none (cs.map markOf) = .ok cs := by
    induction cs with
    | nil => rfl
    | cons c cs ih => rw [List.map_cons, (escaped c).joinMarks, ih]; rfl
  rw [Lexeme.text, lexemeOf, go]
  exact congrArg Except.ok String.ofList_toList

end PassDelta.Json
