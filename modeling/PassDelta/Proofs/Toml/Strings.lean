import PassDelta.Toml.Scalar
import PassDelta.Toml.Writer
import Mathlib.Tactic.Common
/-!
# Texts read back

Whatever form a text is written in, the scanner takes exactly the form off and gives the text: escapes are undone,
raw quotes in a long string are told from those that close it, and the line end after an opening is dropped.
-/

namespace PassDelta.Toml

/-- What follows a written value: nothing that could belong to a string or a word before it. -/
structure Apart (rest : List Char) : Prop where
  double : rest.head? ≠ some '"'
  single : rest.head? ≠ some '\''
  blank : rest.head? ≠ some ' '
  word : ∀ c ∈ rest.head?, isWordChar c = false

theorem Apart.of_mem {c : Char} (hc : c ∈ ['\n', ',', ']']) (rest : List Char) : Apart (c :: rest) := by
  simp only [List.mem_cons, List.not_mem_nil, or_false] at hc
  rcases hc with rfl | rfl | rfl
  all_goals exact ⟨by simp, by simp, by simp, by simp [isWordChar]⟩

@[simp] theorem push_some (c : Char) (cs rest : List Char) : push c (some (cs, rest)) = some (c :: cs, rest) := rfl

theorem scanBasic_backslash (long : Bool) (rest : List Char) :
    scanBasic long .plain ('\\' :: rest) = scanBasic long .escape rest := rfl

theorem scanBasic_escape (long : Bool) {e c : Char} (h : simpleEscape? e = some c) (rest : List Char) :
    scanBasic long .escape (e :: rest) = push c (scanBasic long .plain rest) := by
  simp only [scanBasic, Inside.settle, h]

theorem scanBasic_digit (long : Bool) {d : Char} {n : Nat} (h : hexValue? d = some n) (left value : Nat)
    (rest : List Char) :
    scanBasic long (.code (left + 2) value) (d :: rest) = scanBasic long (.code (left + 1) (value * 16 + n)) rest := by
  simp only [scanBasic, Inside.settle, h]
  rw [if_pos (by omega)]
  rfl

theorem scanBasic_lastDigit (long : Bool) {d c : Char} {n value : Nat} (h : hexValue? d = some n)
    (hc : value * 16 + n = c.toNat) (rest : List Char) :
    scanBasic long (.code 1 value) (d :: rest) = push c (scanBasic long .plain rest) := by
  have valid : c.toNat.isValidChar := c.valid
  have hchar : charOf? c.toNat = some c := by rw [charOf?, if_pos valid, Char.ofNat_toNat]
  simp only [scanBasic, Inside.settle, h, hc, hchar]
  rw [if_neg (by omega)]

theorem hexValue?_upperHex {n : Nat} (h : n < 16) : hexValue? (upperHex n) = some n := by
  have all : ∀ n < 16, hexValue? (upperHex n) = some n := by decide
  exact all n h

theorem scanBasic_code (long : Bool) {c : Char} (hc : c.toNat < 256) (rest : List Char) :
    scanBasic long .plain
        ('\\' :: 'u' :: '0' :: '0' :: upperHex (c.toNat / 16) :: upperHex (c.toNat % 16) :: rest) =
      push c (scanBasic long .plain rest) := by
  have hzero : hexValue? '0' = some 0 := rfl
  rw [scanBasic_backslash]
  change scanBasic long (.code 4 0) _ = _
  rw [scanBasic_digit long hzero, scanBasic_digit long hzero, scanBasic_digit long (hexValue?_upperHex (by omega)),
    scanBasic_lastDigit (c := c) long (hexValue?_upperHex (by omega)) (by omega)]

theorem isPlain_of_not_needsEscape {c : Char} (h : needsEscape c = false) (hn : c ≠ '\n') : isPlain c = true := by
  simp only [needsEscape, isPlain, Bool.or_eq_false_iff, Bool.and_eq_false_iff, decide_eq_false_iff_not, ne_eq,
    Decidable.not_not] at *
  by_cases ht : c = '\t'
  · simp [ht]
  · simp [ht]
    obtain ⟨(h | h) | h, h'⟩ := h
    · omega
    · contradiction
    · contradiction

theorem scanBasic_plain (long : Bool) {c : Char} (hq : c ≠ '"') (hb : c ≠ '\\')
    (hc : isPlain c = true ∨ long = true ∧ c = '\n') (rest : List Char) :
    scanBasic long .plain (c :: rest) = push c (scanBasic long .plain rest) := by
  have hplain : (isPlain c || (long && (c = '\n' || (c = '\r' && beforeFeed rest)))) = true := by
    rcases hc with h | ⟨rfl, rfl⟩
    · simp [h]
    · simp
  simp only [scanBasic, Inside.settle, hq, hb, hplain, if_true, if_false]

/-- A character as it stands in a basic string is read as itself. -/
theorem scanBasic_escapeBasic (long : Bool) {c : Char} (hq : c ≠ '"') (rest : List Char) :
    scanBasic long .plain (escapeBasic long c ++ rest) = push c (scanBasic long .plain rest) := by
  have simple {e : Char} (h : simpleEscape? e = some c) :
      scanBasic long .plain (['\\', e] ++ rest) = push c (scanBasic long .plain rest) :=
    scanBasic_escape long h rest
  unfold escapeBasic
  split_ifs with hb hbell ht hn hlong hf hr hcontrol
  · exact simple (by rw [hb]; rfl)
  · exact simple (by rw [← Char.ofNat_toNat c, hbell]; rfl)
  · exact simple (by rw [ht]; rfl)
  · subst hn
    exact scanBasic_plain long hq hb (.inr ⟨hlong, rfl⟩) rest
  · exact simple (by rw [hn]; rfl)
  · exact simple (by rw [← Char.ofNat_toNat c, hf]; rfl)
  · exact simple (by rw [hr]; rfl)
  · refine scanBasic_code long ?_ rest
    simp only [needsEscape, Bool.or_eq_true, Bool.and_eq_true, decide_eq_true_eq] at hcontrol
    omega
  · exact scanBasic_plain long hq hb (.inl (isPlain_of_not_needsEscape (by simpa using hcontrol) hn)) rest

/-- No character other than a quote is written so that it starts with one, or as a line end that is not there. -/
theorem head?_escapeBasic (long : Bool) {c : Char} (hq : c ≠ '"') (rest : List Char) :
    ∃ d, (escapeBasic long c ++ rest).head? = some d ∧ d ≠ '"' ∧ d ≠ '\r' ∧ (d = '\n' → c = '\n') := by
  unfold escapeBasic
  split_ifs with hb hbell ht hn hlong hf hr hcontrol
  all_goals first
    | exact ⟨'\\', rfl, by decide, by decide, fun h => absurd h (by decide)⟩
    | exact ⟨'\n', rfl, by decide, by decide, fun _ => hn⟩
    | exact ⟨c, rfl, hq, hr, id⟩

/-- The inside of a basic string is read up to the quote that closes it. -/
theorem scanBasic_writeBasic (s rest : List Char) :
    scanBasic false .plain (writeBasic false 0 0 s ++ '"' :: rest) = some (s, rest) := by
  induction s with
  | nil => rfl
  | cons c s ih =>
    by_cases hq : c = '"'
    · subst hq
      simp only [writeBasic, if_true, Nat.not_lt_zero, if_false, List.cons_append]
      rw [scanBasic_backslash, scanBasic_escape false rfl, ih, push_some]
    · simp only [writeBasic, hq, if_false, List.append_assoc]
      rw [scanBasic_escapeBasic false hq, ih, push_some]

theorem scanLiteral_short {s : List Char} (hs : ∀ c ∈ s, isPlain c = true ∧ c ≠ '\'') (rest : List Char) :
    scanLiteral false (s ++ '\'' :: rest) = some (s, rest) := by
  induction s with
  | nil => rfl
  | cons c s ih =>
    obtain ⟨hc, hq⟩ := hs c List.mem_cons_self
    simp only [List.cons_append, scanLiteral, hq, hc, if_false, Bool.true_or, if_true]
    rw [ih fun d hd => hs d (List.mem_cons_of_mem c hd), push_some]

theorem startsWithTwo_of_head {q : Char} {cs : List Char} (h : cs.head? ≠ some q) : startsWithTwo q cs = false := by
  match cs with
  | [] => rfl
  | [_] => rfl
  | a :: b :: _ =>
    have ha : a ≠ q := fun e => h (by rw [e]; rfl)
    simp [startsWithTwo, ha]

theorem startsWithTwo_cons {q : Char} {cs : List Char} (h : cs.head? ≠ some q) :
    startsWithTwo q (q :: cs) = false := by
  cases cs with
  | nil => rfl
  | cons b rest =>
    have hb : b ≠ q := fun e => h (by rw [e]; rfl)
    simp [startsWithTwo, hb]

theorem scanString_double {cs : List Char} (h : startsWithTwo '"' cs = false) :
    scanString ('"' :: cs) = scanBasic false .plain cs := by
  unfold scanString
  split
  · next rest heq => simp_all [startsWithTwo]
  · next rest heq => simp at heq
  · rfl

theorem scanString_single {cs : List Char} (h : startsWithTwo '\'' cs = false) :
    scanString ('\'' :: cs) = scanLiteral false cs := by
  unfold scanString
  split
  · next rest heq => simp at heq
  · next rest heq => simp_all [startsWithTwo]
  · rfl

theorem scanString_basic (s : List Char) {rest : List Char} (hrest : Apart rest) :
    scanString (['"'] ++ writeBasic false 0 0 s ++ ['"'] ++ rest) = some (s, rest) := by
  have hwritten : ['"'] ++ writeBasic false 0 0 s ++ ['"'] ++ rest =
      '"' :: (writeBasic false 0 0 s ++ '"' :: rest) := by simp
  have hopen : startsWithTwo '"' (writeBasic false 0 0 s ++ '"' :: rest) = false := by
    cases s with
    | nil => exact startsWithTwo_cons hrest.double
    | cons c s =>
      refine startsWithTwo_of_head ?_
      by_cases hq : c = '"'
      · simp [writeBasic, hq]
      · obtain ⟨d, hd, hne, -⟩ := head?_escapeBasic false hq (writeBasic false 0 0 s ++ '"' :: rest)
        simpa [writeBasic, hq, hd] using hne
  rw [hwritten, scanString_double hopen, scanBasic_writeBasic]

theorem scanString_literal {s : List Char} (hs : ∀ c ∈ s, isPlain c = true ∧ c ≠ '\'') {rest : List Char}
    (hrest : Apart rest) : scanString (['\''] ++ s ++ ['\''] ++ rest) = some (s, rest) := by
  have hwritten : ['\''] ++ s ++ ['\''] ++ rest = '\'' :: (s ++ '\'' :: rest) := by simp
  have hopen : startsWithTwo '\'' (s ++ '\'' :: rest) = false := by
    cases s with
    | nil => exact startsWithTwo_cons hrest.single
    | cons c s => exact startsWithTwo_of_head (by simpa using (hs c List.mem_cons_self).2)
  rw [hwritten, scanString_single hopen, scanLiteral_short hs]

/-- The inside of a long string and what stands before it and after: after `run` quotes a text, as it is spelled up
to and with the three closing quotes. At most two quotes stand next to one another; every other character is
spelled so that the scanner takes it for itself. -/
inductive LongBody (q : Char) (scan : List Char → Scan (List Char)) (rest : List Char) :
    Nat → List Char → List Char → Prop
  | close {run : Nat} : LongBody q scan rest run [] (q :: q :: q :: rest)
  | quote {run : Nat} {s w : List Char} : run < 2 → LongBody q scan rest (run + 1) s w →
      LongBody q scan rest run (q :: s) (q :: w)
  | other {run : Nat} {c : Char} {s w w' : List Char} : w.head? ≠ some q → scan w = push c (scan w') →
      LongBody q scan rest 0 s w' → LongBody q scan rest run (c :: s) w

theorem closeLong_of_head {q : Char} {rest : List Char} (hrest : rest.head? ≠ some q) :
    closeLong q rest = ([], rest) := by
  match rest with
  | [] => rfl
  | [a] => simp_all [closeLong]
  | a :: b :: _ => simp_all [closeLong]

theorem closeLong_one {q : Char} {rest : List Char} (hrest : rest.head? ≠ some q) :
    closeLong q (q :: rest) = ([q], rest) := by
  cases rest <;> simp_all [closeLong]

/-- Behind a raw quote either the text ends within the next one, or no two more quotes follow. -/
theorem LongBody.scan_eq {q : Char} {scan : List Char → Scan (List Char)} {rest : List Char}
    (atQuote : ∀ cs, scan (q :: cs) = if startsWithTwo q cs then some (closeLong q (cs.drop 2)) else push q (scan cs))
    (hrest : rest.head? ≠ some q) {run : Nat} {s w : List Char} (body : LongBody q scan rest run s w) :
    scan w = some (s, rest) := by
  have two (cs : List Char) : scan (q :: q :: q :: cs) = some (closeLong q cs) := by
    rw [atQuote, if_pos (by simp [startsWithTwo])]
    rfl
  induction body with
  | close => rw [two, closeLong_of_head hrest]
  | other _ step _ ih => rw [step, ih, push_some]
  | @quote run s w hrun inner ih =>
    have goOn (h : startsWithTwo q w = false) : scan (q :: w) = some (q :: s, rest) := by
      rw [atQuote, h, ih]
      rfl
    -- quotes before the closing ones are scanned together with these, so the cases look two characters ahead
    cases inner with
    | close => rw [two, closeLong_one hrest]
    | other head _ _ => exact goOn (startsWithTwo_of_head head)
    | quote _ inner' =>
      cases inner' with
      | close => rw [two]; simp [closeLong]
      | other head _ _ => exact goOn (startsWithTwo_cons head)
      | quote _ _ => omega

theorem longBody_writeBasic (rest : List Char) (s : List Char) (run : Nat) :
    LongBody '"' (scanBasic true .plain) rest run s (writeBasic true 2 run s ++ ['"', '"', '"'] ++ rest) := by
  induction s generalizing run with
  | nil => exact .close
  | cons c s ih =>
    by_cases hq : c = '"'
    · subst hq
      simp only [writeBasic, if_true]
      split_ifs with hrun
      · exact .quote hrun (ih (run + 1))
      · exact .other (by simp) rfl (ih 0)
    · obtain ⟨d, hd, hne, -⟩ := head?_escapeBasic true hq (writeBasic true 2 0 s ++ ['"', '"', '"'] ++ rest)
      simp only [writeBasic, hq, if_false, List.append_assoc] at hd ⊢
      refine .other (fun h => hne (Option.some.inj (hd.symm.trans h))) (scanBasic_escapeBasic true hq _) ?_
      simpa using ih 0

theorem le_longestRun (q : Char) (run : Nat) (s : List Char) : run ≤ longestRun q run s := by
  induction s generalizing run with
  | nil => exact Nat.le_refl run
  | cons c s ih =>
    rw [longestRun]
    split_ifs
    · exact Nat.le_of_succ_le (ih (run + 1))
    · exact Nat.le_max_left _ _

theorem scanLiteral_other {c : Char} (hq : c ≠ '\'') (hc : needsEscape c = false) (rest : List Char) :
    scanLiteral true (c :: rest) = push c (scanLiteral true rest) := by
  rw [scanLiteral, if_neg hq, if_pos]
  by_cases hn : c = '\n'
  · simp [hn]
  · simp [isPlain_of_not_needsEscape hc hn]

theorem longBody_literal (rest : List Char) {s : List Char} (hs : ∀ c ∈ s, needsEscape c = false) {run : Nat}
    (hrun : longestRun '\'' run s ≤ 2) :
    LongBody '\'' (scanLiteral true) rest run s (s ++ ['\'', '\'', '\''] ++ rest) := by
  induction s generalizing run with
  | nil => exact .close
  | cons c s ih =>
    have ih {run : Nat} (hrun : longestRun '\'' run s ≤ 2) := ih (fun d hd => hs d (List.mem_cons_of_mem c hd)) hrun
    rw [longestRun] at hrun
    split_ifs at hrun with hq
    · subst hq
      have := le_longestRun '\'' (run + 1) s
      exact .quote (by omega) (ih hrun)
    · exact .other (by simpa using hq) (scanLiteral_other hq (hs c List.mem_cons_self) _) (ih (by omega))

/-- The line end after an opening is dropped, and no other. -/
theorem dropLineEnd_opening {s w : List Char}
    (hw : '\n' ∉ s → ∀ c, w.head? = some c → c ≠ '\n' ∧ c ≠ '\r') : dropLineEnd (opening s ++ w) = w := by
  unfold opening
  split_ifs with hn
  · rfl
  · have hw := hw (by simpa using hn)
    match w with
    | [] => rfl
    | c :: w =>
      obtain ⟨hc, hr⟩ := hw c rfl
      simp only [List.nil_append, dropLineEnd]
      have : lineEnd? (c :: w) = none := by
        unfold lineEnd?
        split <;> simp_all
      rw [this, Option.getD_none]

theorem scanString_longBasic (s : List Char) {rest : List Char} (hrest : Apart rest) :
    scanString (['"', '"', '"'] ++ opening s ++ writeBasic true 2 0 s ++ ['"', '"', '"'] ++ rest) =
      some (s, rest) := by
  have hdrop : dropLineEnd (opening s ++ (writeBasic true 2 0 s ++ ['"', '"', '"'] ++ rest)) =
      writeBasic true 2 0 s ++ ['"', '"', '"'] ++ rest := by
    refine dropLineEnd_opening fun hn c hc => ?_
    cases s with
    | nil =>
      obtain rfl : '"' = c := by simpa [writeBasic] using hc
      decide
    | cons d s =>
      by_cases hq : d = '"'
      · simp [writeBasic, hq] at hc
        subst hc
        decide
      · obtain ⟨e, he, -, hr, hline⟩ := head?_escapeBasic true hq (writeBasic true 2 0 s ++ ['"', '"', '"'] ++ rest)
        simp only [writeBasic, hq, if_false, List.append_assoc] at hc he
        obtain rfl : e = c := Option.some.inj (he.symm.trans hc)
        exact ⟨fun h => hn (by rw [hline h]; exact List.mem_cons_self), hr⟩
  have hscan := (longBody_writeBasic rest s 0).scan_eq (fun cs => by simp [scanBasic, Inside.settle]) hrest.double
  simp only [List.append_assoc, List.cons_append, List.nil_append] at hdrop hscan ⊢
  rw [scanString, hdrop, hscan]

theorem scanString_longLiteral {s : List Char} (hs : ∀ c ∈ s, needsEscape c = false)
    (hrun : longestRun '\'' 0 s ≤ 2) {rest : List Char} (hrest : Apart rest) :
    scanString (['\'', '\'', '\''] ++ opening s ++ s ++ ['\'', '\'', '\''] ++ rest) = some (s, rest) := by
  have hdrop : dropLineEnd (opening s ++ (s ++ ['\'', '\'', '\''] ++ rest)) = s ++ ['\'', '\'', '\''] ++ rest := by
    refine dropLineEnd_opening fun hn c hc => ?_
    cases s with
    | nil =>
      obtain rfl : '\'' = c := by simpa using hc
      decide
    | cons d s =>
      obtain rfl : d = c := by simpa using hc
      refine ⟨fun h => hn (by rw [h]; exact List.mem_cons_self), fun h => ?_⟩
      have := hs d List.mem_cons_self
      rw [h] at this
      exact absurd this (by decide)
  have hscan := (longBody_literal rest hs hrun).scan_eq (fun cs => by simp [scanLiteral]) hrest.single
  simp only [List.append_assoc, List.cons_append, List.nil_append] at hdrop hscan ⊢
  rw [scanString, hdrop, hscan]

theorem not_mem_of_longestRun {q : Char} {s : List Char} (h : longestRun q 0 s = 0) : q ∉ s := by
  induction s with
  | nil => exact List.not_mem_nil
  | cons c s ih =>
    rw [longestRun] at h
    split_ifs at h with hq
    · have := le_longestRun q (0 + 1) s
      omega
    · have hs := ih (by omega)
      simp [Ne.symm hq, hs]

theorem formOf_literal {s : List Char} (h : formOf s = .literal) :
    (∀ c ∈ s, needsEscape c = false) ∧ longestRun '\'' 0 s = 0 ∧ '\n' ∉ s := by
  unfold formOf at h
  dsimp only at h
  split_ifs at h with h₁ h₂
  simpa [and_assoc] using h₂

theorem formOf_longLiteral {s : List Char} (h : formOf s = .longLiteral) :
    (∀ c ∈ s, needsEscape c = false) ∧ longestRun '\'' 0 s ≤ 2 := by
  unfold formOf at h
  dsimp only at h
  split_ifs at h with h₁ h₂ h₃ h₄
  simpa using h₄

/-- A written text is read as itself, whatever its form. -/
theorem scanString_writeText (s : List Char) {rest : List Char} (hrest : Apart rest) :
    scanString (writeText s ++ rest) = some (s, rest) := by
  unfold writeText
  cases hform : formOf s with
  | basic => exact scanString_basic s hrest
  | longBasic => exact scanString_longBasic s hrest
  | literal =>
    obtain ⟨hescape, hquotes, hn⟩ := formOf_literal hform
    refine scanString_literal (fun c hc => ⟨isPlain_of_not_needsEscape (hescape c hc) ?_, ?_⟩) hrest
    · exact fun h => hn (h ▸ hc)
    · exact fun h => not_mem_of_longestRun hquotes (h ▸ hc)
  | longLiteral =>
    obtain ⟨hescape, hrun⟩ := formOf_longLiteral hform
    exact scanString_longLiteral hescape hrun hrest

theorem head?_writeText (s : List Char) : (writeText s).head? = some '"' ∨ (writeText s).head? = some '\'' := by
  unfold writeText
  cases formOf s with
  | basic => exact .inl rfl
  | longBasic => exact .inl rfl
  | literal => exact .inr rfl
  | longLiteral => exact .inr rfl

end PassDelta.Toml
