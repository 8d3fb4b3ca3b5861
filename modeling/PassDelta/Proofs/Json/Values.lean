import PassDelta.Proofs.Json.Doubles
import PassDelta.Proofs.Json.Strings
/-!
# Values read back

A value spread over lines is scanned as the tree of the same shape, whatever its depth and whatever follows it. The fuel
of the scanner is two for each character.
-/

namespace PassDelta.Json

mutual

def node : Json → Node
  | null => .null
  | bool b => .bool b
  | int n => .num (wholeNumeral n)
  | num x => if x.isFinite then .num (doubleNumeral x) else .null
  | str s => .str (lexemeOf s)
  | arr items => .arr (nodes items) none
  | obj members => .obj (memberNodes members) none

def nodes : List Json → List Node
  | [] => []
  | v :: vs => node v :: nodes vs

def memberNodes : List (String × Json) → List (Lexeme × Node)
  | [] => []
  | (k, v) :: ms => (lexemeOf k, node v) :: memberNodes ms

end

theorem scanWord_append (v : Node) (ws rest : List Char) : scanWord v ws (ws ++ rest) = (v, some rest) := by
  induction ws with
  | nil => rw [List.nil_append, scanWord]
  | cons w ws ih => rw [List.cons_append, scanWord, if_pos rfl, ih]

def Begins (cs : List Char) : Prop := ∃ c rest, cs = c :: rest ∧ isSpace c = false ∧ c ≠ ']'

theorem Begins.head?_ne {cs : List Char} (h : Begins cs) : cs.head? ≠ some ']' := by
  obtain ⟨c, cs, rfl, -, hc⟩ := h
  simpa using hc

theorem skipSpace_begins {cs : List Char} (h : Begins cs) (rest : List Char) : skipSpace (cs ++ rest) = cs ++ rest := by
  obtain ⟨c, cs, rfl, hc, -⟩ := h
  simp [skipSpace, hc]

/-- A number is written with a sign or a digit in front. -/
theorem head_chars {n : Numeral} (hn : n.IsPlain) : ∃ c cs, n.chars = c :: cs ∧ (c = '-' ∨ c.isDigit = true) := by
  obtain ⟨d, ds, hwhole⟩ := List.exists_cons_of_ne_nil hn.whole.ne_nil
  have hd : (Nat.digitChar d).isDigit = true := by simpa using hn.whole.digits d (by simp [hwhole])
  cases hsign : n.negative with
  | true => exact ⟨'-', _, by simp [Numeral.chars, hsign]; rfl, .inl rfl⟩
  | false => exact ⟨Nat.digitChar d, _, by simp [Numeral.chars, hsign, hwhole, digitChars]; rfl, .inr hd⟩

theorem other_head {c : Char} (hc : c = '-' ∨ c.isDigit = true) :
    isSpace c = false ∧ c ∉ ['"', '[', '\x7b', 't', 'f', 'n'] := by
  rcases hc with rfl | hc
  · decide
  · refine ⟨?_, fun hmem => ?_⟩
    · simp only [isSpace, Bool.or_eq_false_iff, decide_eq_false_iff_not]
      refine ⟨⟨⟨?_, ?_⟩, ?_⟩, ?_⟩ <;> rintro rfl <;> cases hc
    · simp only [List.mem_cons, List.not_mem_nil, or_false] at hmem
      rcases hmem with rfl | rfl | rfl | rfl | rfl | rfl <;> cases hc

/-- A sign or a digit begins a number. -/
theorem scanValue_number {c : Char} (hc : c = '-' ∨ c.isDigit = true) (fuel : Nat) (cs : List Char) :
    scanValue (fuel + 1) (c :: cs) = scanNumber (c :: cs) := by
  obtain ⟨hspace, hmem⟩ := other_head hc
  have hskip : skipSpace (c :: cs) = c :: cs := by simp [skipSpace, hspace]
  simp only [List.mem_cons, List.not_mem_nil, or_false, not_or] at hmem
  obtain ⟨hquote, hlist, hobject, htrue, hfalse, hnull⟩ := hmem
  rw [scanValue, hskip]
  simp only [if_neg hquote, if_neg hlist, if_neg hobject, if_neg htrue, if_neg hfalse, if_neg hnull, if_pos hc]

theorem scanValue_chars {n : Numeral} (hn : n.IsPlain) (fuel : Nat) {rest : List Char} (hrest : Ended rest) :
    scanValue (fuel + 1) (n.chars ++ rest) = (.num n, some rest) := by
  obtain ⟨c, cs, hchars, hc⟩ := head_chars hn
  rw [← scanNumber_chars hn hrest, hchars, List.cons_append, scanValue_number hc]

def Scans (level : Nat) (v : Json) : Prop :=
  ∀ fuel rest, 2 * (spread level v).length ≤ fuel → Ended rest →
    scanValue fuel (spread level v ++ rest) = (node v, some rest)

theorem exists_fuel {cs : List Char} (h : Begins cs) {fuel : Nat} (hfuel : 2 * cs.length ≤ fuel) :
    ∃ f, fuel = f + 1 := by
  obtain ⟨c, cs, rfl, -⟩ := h
  exact ⟨fuel - 1, by rw [List.length_cons] at hfuel; omega⟩

theorem begins_chars {n : Numeral} (hn : n.IsPlain) : Begins n.chars := by
  obtain ⟨c, cs, hchars, hc⟩ := head_chars hn
  exact ⟨c, cs, hchars, (other_head hc).1, by rintro rfl; rcases hc with h | h <;> cases h⟩

theorem spread_num {level : Nat} {x : Binary64} (h : x.isFinite = true) :
    spread level (.num x) = (doubleNumeral x).chars := by
  rw [chars_doubleNumeral]
  simp [spread, writeScalar, writeNumber, h]

theorem spread_num_null {level : Nat} {x : Binary64} (h : ¬ x.isFinite = true) :
    spread level (.num x) = ['n', 'u', 'l', 'l'] := by
  simp [spread, writeScalar, writeNumber, h]

/-- The text of every value begins it. -/
theorem begins_spread (level : Nat) (v : Json) : Begins (spread level v) := by
  match v with
  | .null => exact ⟨'n', _, rfl, by decide, by decide⟩
  | .bool true => exact ⟨'t', _, rfl, by decide, by decide⟩
  | .bool false => exact ⟨'f', _, rfl, by decide, by decide⟩
  | .int n =>
    have htext : spread level (.int n) = (wholeNumeral n).chars := (chars_wholeNumeral n).symm
    exact htext ▸ begins_chars (isPlain_wholeNumeral n)
  | .num x =>
    by_cases hfinite : x.isFinite = true
    · exact spread_num hfinite ▸ begins_chars (isPlain_doubleNumeral x)
    · exact ⟨'n', _, spread_num_null hfinite, by decide, by decide⟩
  | .str s => exact ⟨'"', _, rfl, by decide, by decide⟩
  | .arr [] => exact ⟨'[', _, rfl, by decide, by decide⟩
  | .arr (_ :: _) => exact ⟨'[', _, rfl, by decide, by decide⟩
  | .obj [] => exact ⟨'\x7b', _, rfl, by decide, by decide⟩
  | .obj ((_, _) :: _) => exact ⟨'\x7b', _, rfl, by decide, by decide⟩

theorem scans_word {level : Nat} {v : Json} {c : Char} {w : List Char} (htext : spread level v = c :: w)
    (hscan : ∀ fuel rest, scanValue (fuel + 1) (c :: (w ++ rest)) = scanWord (node v) w (w ++ rest)) :
    Scans level v := by
  intro fuel rest hfuel _
  obtain ⟨fuel, rfl⟩ := exists_fuel (begins_spread level v) hfuel
  rw [htext, List.cons_append, hscan, scanWord_append]

theorem scans_numeral {level : Nat} {v : Json} {n : Numeral} (hn : n.IsPlain) (htext : spread level v = n.chars)
    (hnode : node v = .num n) : Scans level v := by
  intro fuel rest hfuel hrest
  obtain ⟨fuel, rfl⟩ := exists_fuel (begins_spread level v) hfuel
  rw [htext, hnode]
  exact scanValue_chars hn fuel hrest

theorem scans_str (level : Nat) (s : String) : Scans level (.str s) := by
  intro fuel rest hfuel _
  obtain ⟨fuel, rfl⟩ := exists_fuel (begins_spread level _) hfuel
  have hscan := scanString_escape s rest
  simp [spread, writeScalar, writeString, scanValue, skipSpace, isSpace, hscan, node]

theorem scans_null (level : Nat) : Scans level .null :=
  scans_word (c := 'n') (w := ['u', 'l', 'l']) rfl fun _ _ => by simp [scanValue, skipSpace, isSpace, node]

theorem scans_bool (level : Nat) (b : Bool) : Scans level (.bool b) := by
  cases b with
  | true =>
    exact scans_word (c := 't') (w := ['r', 'u', 'e']) rfl fun _ _ => by simp [scanValue, skipSpace, isSpace, node]
  | false =>
    exact scans_word (c := 'f') (w := ['a', 'l', 's', 'e']) rfl fun _ _ => by
      simp [scanValue, skipSpace, isSpace, node]

theorem scans_int (level : Nat) (n : Int) : Scans level (.int n) :=
  scans_numeral (isPlain_wholeNumeral n) (chars_wholeNumeral n).symm rfl

theorem scans_num (level : Nat) (x : Binary64) : Scans level (.num x) := by
  by_cases hfinite : x.isFinite = true
  · exact scans_numeral (isPlain_doubleNumeral x) (spread_num hfinite) (by rw [node, if_pos hfinite])
  · have hnode : node (.num x) = .null := by rw [node, if_neg hfinite]
    refine scans_word (c := 'n') (w := ['u', 'l', 'l']) (spread_num_null hfinite) fun _ _ => ?_
    simp [scanValue, skipSpace, isSpace, hnode]

theorem skipSpace_indent (level : Nat) (cs : List Char) : skipSpace (indent level ++ cs) = skipSpace cs := by
  have hblanks : ∀ c ∈ indent level, isSpace c = true := by
    intro c hc
    rcases List.mem_cons.1 hc with rfl | hc
    · decide
    · rw [List.eq_of_mem_replicate hc]; decide
  exact List.dropWhile_append_of_pos hblanks

theorem skipSpace_indent_cons (level : Nat) {c : Char} (hc : isSpace c = false) (cs : List Char) :
    skipSpace (indent level ++ c :: cs) = c :: cs := by
  rw [skipSpace_indent]
  simp [skipSpace, hc]

theorem skipSpace_cons {c : Char} (hc : isSpace c = false) (cs : List Char) : skipSpace (c :: cs) = c :: cs := by
  simp [skipSpace, hc]

theorem ended_cons {c : Char} (hc : c ∈ ['\n', ',', ']', '\x7d']) (cs : List Char) : Ended (c :: cs) := by
  intro d hd
  obtain rfl : c = d := by simpa using hd
  simp only [List.mem_cons, List.not_mem_nil, or_false] at hc
  rcases hc with rfl | rfl | rfl | rfl <;> decide

theorem ended_spreadItems (level : Nat) (vs : List Json) (rest : List Char) : Ended (spreadItems level vs ++ rest) := by
  cases vs with
  | nil => exact ended_cons (by decide) _
  | cons v vs => exact ended_cons (by decide) _

theorem ended_spreadMembers (level : Nat) (ms : List (String × Json)) (rest : List Char) :
    Ended (spreadMembers level ms ++ rest) := by
  cases ms with
  | nil => exact ended_cons (by decide) _
  | cons m ms => exact ended_cons (by decide) _

section
variable {fuel : Nat} {text rest r r' : List Char} {k : Lexeme} {v : Node}

theorem scanItems_last (hv : scanValue fuel text = (v, some rest)) (hclose : skipSpace rest = ']' :: r) :
    scanItems (fuel + 1) text = ([v], none, some r) := by
  simp only [scanItems, hv, hclose]

theorem scanItems_more (hv : scanValue fuel text = (v, some rest)) (hcomma : skipSpace rest = ',' :: r)
    (hnext : (skipSpace r).head? ≠ some ']') :
    scanItems (fuel + 1) text = (v :: (scanItems fuel (skipSpace r)).1, (scanItems fuel (skipSpace r)).2) := by
  simp only [scanItems, hv, hcomma]
  split
  · next h => exact absurd (congrArg List.head? h) hnext
  · rfl

theorem scanMembers_last (hk : scanString text = (k, some rest)) (hcolon : skipSpace rest = ':' :: r)
    (hv : scanValue fuel r = (v, some r')) {r'' : List Char} (hclose : skipSpace r' = '\x7d' :: r'') :
    scanMembers (fuel + 1) text = ([(k, v)], none, some r'') := by
  simp only [scanMembers, hk, hcolon, hv, hclose]

theorem scanMembers_more (hk : scanString text = (k, some rest)) (hcolon : skipSpace rest = ':' :: r)
    (hv : scanValue fuel r = (v, some r')) {more next : List Char} (hcomma : skipSpace r' = ',' :: more)
    (hnext : skipSpace more = '"' :: next) :
    scanMembers (fuel + 1) text = ((k, v) :: (scanMembers fuel next).1, (scanMembers fuel next).2) := by
  simp only [scanMembers, hk, hcolon, hv, hcomma, hnext]

theorem scanValue_list (hnext : (skipSpace text).head? ≠ some ']') :
    scanValue (fuel + 1) ('[' :: text) = (.arr (scanItems fuel (skipSpace text)).1 (scanItems fuel (skipSpace text)).2.1,
      (scanItems fuel (skipSpace text)).2.2) := by
  rw [scanValue, skipSpace_cons (by decide)]
  simp only [Char.reduceEq, if_false, if_true]
  split
  · next h => exact absurd (congrArg List.head? h) hnext
  · rfl

theorem scanValue_object (hnext : skipSpace text = '"' :: rest) :
    scanValue (fuel + 1) ('\x7b' :: text) = (.obj (scanMembers fuel rest).1 (scanMembers fuel rest).2.1,
      (scanMembers fuel rest).2.2) := by
  rw [scanValue, skipSpace_cons (by decide)]
  simp only [Char.reduceEq, if_false, if_true, hnext]

theorem scanValue_skipSpace (h : skipSpace text = skipSpace rest) : scanValue fuel text = scanValue fuel rest := by
  cases fuel with
  | zero => rw [scanValue, scanValue]
  | succ fuel => rw [scanValue, scanValue, h]

end

theorem begins_append {cs : List Char} (h : Begins cs) (rest : List Char) : Begins (cs ++ rest) := by
  obtain ⟨c, cs, rfl, hc⟩ := h
  exact ⟨c, cs ++ rest, rfl, hc⟩

theorem scanItems_spread {level : Nat} {v : Json} {vs : List Json} (hscans : ∀ w ∈ v :: vs, Scans (level + 1) w)
    {fuel : Nat} (rest : List Char)
    (hfuel : 2 * ((spread (level + 1) v).length + (spreadItems level vs).length) ≤ fuel) :
    scanItems fuel (spread (level + 1) v ++ (spreadItems level vs ++ rest)) = (nodes (v :: vs), none, some rest) := by
  -- each item takes one step here and leaves two for every character of its text
  induction vs generalizing v fuel with
  | nil =>
    obtain ⟨fuel, rfl⟩ := exists_fuel (begins_spread (level + 1) v) (Nat.le_trans (by omega) hfuel)
    simp only [spreadItems, List.length_append, List.length_singleton] at hfuel
    have hv := hscans v List.mem_cons_self fuel _ (by omega) (ended_spreadItems level [] rest)
    refine scanItems_last hv ?_
    rw [spreadItems, List.append_assoc]
    exact skipSpace_indent_cons level (by decide) rest
  | cons w ws ih =>
    obtain ⟨fuel, rfl⟩ := exists_fuel (begins_spread (level + 1) v) (Nat.le_trans (by omega) hfuel)
    simp only [spreadItems, List.length_append, List.length_cons] at hfuel
    have hv := hscans v List.mem_cons_self fuel _ (by omega) (ended_spreadItems level (w :: ws) rest)
    have hws : scanItems fuel (spread (level + 1) w ++ (spreadItems level ws ++ rest)) =
        (nodes (w :: ws), none, some rest) := ih (fun x hx => hscans x (List.mem_cons_of_mem v hx)) (by omega)
    have hw := begins_spread (level + 1) w
    have hskip : skipSpace (indent (level + 1) ++ (spread (level + 1) w ++ (spreadItems level ws ++ rest))) =
        spread (level + 1) w ++ (spreadItems level ws ++ rest) := by
      rw [skipSpace_indent, skipSpace_begins hw]
    have hcomma : skipSpace (spreadItems level (w :: ws) ++ rest) =
        ',' :: (indent (level + 1) ++ (spread (level + 1) w ++ (spreadItems level ws ++ rest))) := by
      simp only [spreadItems, List.append_assoc, List.cons_append]
      exact skipSpace_cons (by decide) _
    have hnext := begins_append hw (spreadItems level ws ++ rest)
    rw [scanItems_more hv hcomma (by rw [hskip]; exact hnext.head?_ne), hskip, hws]
    rfl

def memberText (level : Nat) (k : String) (v : Json) : List Char :=
  k.toList.flatMap escape ++ '"' :: ':' :: ' ' :: spread (level + 1) v

theorem spreadMembers_cons (level : Nat) (k : String) (v : Json) (ms : List (String × Json)) :
    spreadMembers level ((k, v) :: ms) =
      ',' :: (indent (level + 1) ++ '"' :: (memberText level k v ++ spreadMembers level ms)) := by
  simp [spreadMembers, memberText, writeString]

/-- A member is scanned up to what follows its value. -/
theorem scan_memberText {level : Nat} {v : Json} (hv : Scans (level + 1) v) (k : String) {fuel : Nat}
    (hfuel : 2 * (memberText level k v).length ≤ fuel) {rest : List Char} (hrest : Ended rest) :
    ∃ behind, scanString (memberText level k v ++ rest) = (lexemeOf k, some (':' :: behind)) ∧
      scanValue fuel behind = (node v, some rest) := by
  refine ⟨' ' :: (spread (level + 1) v ++ rest), ?_, ?_⟩
  · rw [memberText, List.append_assoc]
    exact scanString_escape k _
  · have hblank : skipSpace (' ' :: (spread (level + 1) v ++ rest)) = skipSpace (spread (level + 1) v ++ rest) := by
      simp [skipSpace, isSpace]
    rw [scanValue_skipSpace hblank]
    refine hv fuel rest ?_ hrest
    simp only [memberText, List.length_append, List.length_cons] at hfuel
    omega

theorem scanMembers_spread {level : Nat} {k : String} {v : Json} {ms : List (String × Json)}
    (hscans : ∀ m ∈ (k, v) :: ms, Scans (level + 1) m.2) {fuel : Nat} (rest : List Char)
    (hfuel : 2 * ((memberText level k v).length + (spreadMembers level ms).length) ≤ fuel) :
    scanMembers fuel (memberText level k v ++ (spreadMembers level ms ++ rest)) =
      (memberNodes ((k, v) :: ms), none, some rest) := by
  have hcolon (cs : List Char) : skipSpace (':' :: cs) = ':' :: cs := skipSpace_cons (by decide) cs
  induction ms generalizing k v fuel with
  | nil =>
    simp only [spreadMembers, List.length_append, List.length_singleton] at hfuel
    obtain ⟨fuel, rfl⟩ : ∃ f, fuel = f + 1 := ⟨fuel - 1, by omega⟩
    have hmember : 2 * (memberText level k v).length ≤ fuel := by omega
    obtain ⟨behind, hk, hv⟩ := scan_memberText (hscans _ List.mem_cons_self) k hmember
      (ended_spreadMembers level [] rest)
    refine scanMembers_last hk (hcolon behind) hv ?_
    rw [spreadMembers, List.append_assoc]
    exact skipSpace_indent_cons level (by decide) rest
  | cons m ms ih =>
    obtain ⟨k', w⟩ := m
    rw [spreadMembers_cons] at hfuel
    simp only [List.length_append, List.length_cons] at hfuel
    obtain ⟨fuel, rfl⟩ : ∃ f, fuel = f + 1 := ⟨fuel - 1, by omega⟩
    have hmember : 2 * (memberText level k v).length ≤ fuel := by omega
    obtain ⟨behind, hk, hv⟩ := scan_memberText (hscans _ List.mem_cons_self) k hmember
      (ended_spreadMembers level ((k', w) :: ms) rest)
    have hms : scanMembers fuel (memberText level k' w ++ (spreadMembers level ms ++ rest)) =
        (memberNodes ((k', w) :: ms), none, some rest) :=
      ih (fun x hx => hscans x (List.mem_cons_of_mem _ hx)) (by omega)
    have hcomma : skipSpace (spreadMembers level ((k', w) :: ms) ++ rest) =
        ',' :: (indent (level + 1) ++ '"' :: (memberText level k' w ++ (spreadMembers level ms ++ rest))) := by
      rw [spreadMembers_cons]
      simp only [List.append_assoc, List.cons_append]
      exact skipSpace_cons (by decide) _
    have hquote := skipSpace_indent_cons (level + 1) (by decide : isSpace '"' = false)
      (memberText level k' w ++ (spreadMembers level ms ++ rest))
    rw [scanMembers_more hk (hcolon behind) hv hcomma hquote, hms]
    rfl

/-- Every value is scanned from its text. -/
theorem scans (level : Nat) (v : Json) : Scans level v := by
  match v with
  | .null => exact scans_null level
  | .bool b => exact scans_bool level b
  | .int n => exact scans_int level n
  | .num x => exact scans_num level x
  | .str s => exact scans_str level s
  | .arr [] =>
    intro fuel rest hfuel _
    obtain ⟨fuel, rfl⟩ := exists_fuel (begins_spread level (.arr [])) hfuel
    simp [spread, scanValue, skipSpace, isSpace, node, nodes]
  | .arr (v :: vs) =>
    have hscans : ∀ w ∈ v :: vs, Scans (level + 1) w := fun w _ => scans (level + 1) w
    intro fuel rest hfuel _
    obtain ⟨fuel, rfl⟩ := exists_fuel (begins_spread level (.arr (v :: vs))) hfuel
    simp only [spread, List.length_append, List.length_cons] at hfuel
    have htext : skipSpace (indent (level + 1) ++ (spread (level + 1) v ++ (spreadItems level vs ++ rest))) =
        spread (level + 1) v ++ (spreadItems level vs ++ rest) := by
      rw [skipSpace_indent, skipSpace_begins (begins_spread (level + 1) v)]
    have hnext := begins_append (begins_spread (level + 1) v) (spreadItems level vs ++ rest)
    have hitems : 2 * ((spread (level + 1) v).length + (spreadItems level vs).length) ≤ fuel := by omega
    simp only [spread, List.append_assoc, List.cons_append]
    rw [scanValue_list (by rw [htext]; exact hnext.head?_ne), htext, scanItems_spread hscans rest hitems]
    rfl
  | .obj [] =>
    intro fuel rest hfuel _
    obtain ⟨fuel, rfl⟩ := exists_fuel (begins_spread level (.obj [])) hfuel
    simp [spread, scanValue, skipSpace, isSpace, node, memberNodes]
  | .obj ((k, v) :: ms) =>
    have hscans : ∀ m ∈ (k, v) :: ms, Scans (level + 1) m.2 := fun m hm => scans (level + 1) m.2
    intro fuel rest hfuel _
    obtain ⟨fuel, rfl⟩ := exists_fuel (begins_spread level (.obj ((k, v) :: ms))) hfuel
    have htext : spread level (.obj ((k, v) :: ms)) =
        '\x7b' :: (indent (level + 1) ++ '"' :: (memberText level k v ++ spreadMembers level ms)) := by
      simp [spread, memberText, writeString]
    rw [htext] at hfuel ⊢
    simp only [List.length_append, List.length_cons] at hfuel
    have hmembers : 2 * ((memberText level k v).length + (spreadMembers level ms).length) ≤ fuel := by omega
    simp only [List.append_assoc, List.cons_append]
    rw [scanValue_object (skipSpace_indent_cons (level + 1) (by decide) _), scanMembers_spread hscans rest hmembers]
    rfl
termination_by sizeOf v
decreasing_by
  · next hw => exact Nat.lt_trans (List.sizeOf_lt_of_mem hw) (by simp)
  · have hpair : sizeOf m.2 < sizeOf m := by cases m; simp
    exact Nat.lt_trans hpair (Nat.lt_trans (List.sizeOf_lt_of_mem hm) (by simp))

/-- The text of a value is scanned as the value and nothing is left. -/
theorem scan_pretty (v : Json) : scan v.pretty.toList = (node v, some []) := by
  have hended : Ended [] := by simp [Ended]
  have hscan := scans 0 v (2 * (spread 0 v).length + 2) [] (Nat.le_add_right _ _) hended
  rw [List.append_nil] at hscan
  rw [pretty, String.toList_ofList, scan]
  exact hscan

end PassDelta.Json
