import PassDelta.Toml.Reader
import PassDelta.Proofs.Digits
import PassDelta.Proofs.Toml.Strings
import Mathlib.Data.List.Forall2
/-!
# Settings read back

What is written as lines of settings is read as a table of the same names and values, in the same order. The values
are compared without the places at which they stand.
-/

namespace PassDelta.Toml

theorem ungroup_digits {ds : List Char} (hne : ds ≠ []) (hds : ∀ c ∈ ds, c.isDigit = true) :
    ungroup Char.isDigit ds = some ds := by
  induction ds with
  | nil => contradiction
  | cons c ds ih =>
    have hc := hds c List.mem_cons_self
    cases ds with
    | nil => simp [ungroup, hc]
    | cons d ds =>
      have hd : d.isDigit = true := hds d (by simp)
      have hunder : d ≠ '_' := fun h => by rw [h] at hd; exact absurd hd (by decide)
      rw [ungroup, hc, ih (by simp) fun e he => hds e (List.mem_cons_of_mem c he)]
      simp [hunder]

theorem numberOf_digits {ds : List Char} (hds : ∀ c ∈ ds, c.isDigit = true) :
    numberOf 10 ds = Nat.ofDigitChars 10 ds 0 := by
  have go (init : Nat) : ds.foldl (fun n c => n * 10 + (hexValue? c).getD 0) init = Nat.ofDigitChars 10 ds init := by
    induction ds generalizing init with
    | nil => simp
    | cons c ds ih =>
      have hc := hds c List.mem_cons_self
      rw [List.foldl_cons, ih fun d hd => hds d (List.mem_cons_of_mem c hd), Nat.ofDigitChars_cons]
      simp [hexValue?, hc, Nat.mul_comm]
  exact go 0

theorem decimal?_toDigits (n : Nat) : decimal? (Nat.toDigits 10 n) = some (Nat.toDigits 10 n) := by
  have hzeros : (Nat.toDigits 10 n).length ≤ 1 ∨ (Nat.toDigits 10 n).head? ≠ some '0' := by
    by_cases h : n < 10
    · exact .inl (by simp [Nat.toDigits_of_lt_base h])
    · exact .inr (head?_toDigits (by omega))
  simp only [decimal?, ungroup_digits Nat.toDigits_ne_nil fun _ => isDigit_of_mem, Option.bind_eq_bind,
    Option.bind_some, if_pos hzeros]
  rfl

theorem fitsSigned_natCast {k n : Nat} (h : n < twoTo k) : fitsSigned k (n : Int) = true := by
  simp only [fitsSigned, Bool.and_eq_true, decide_eq_true_eq]
  omega

/-- Digits alone have neither a radix nor a sign in front. -/
theorem integer?_digits {ds : List Char} (hds : ∀ c ∈ ds, c.isDigit = true) :
    integer? ds = (decimal? ds).bind fun ds => inRange (numberOf 10 ds) := by
  have no {c : Char} {p q : List Char} (hc : c.isDigit = false) : ds ≠ p ++ c :: q := by
    rintro rfl
    have := hds c (by simp)
    simp [hc] at this
  unfold integer?
  split
  · exact (no (c := 'x') (p := ['0']) (by decide) rfl).elim
  · exact (no (c := 'o') (p := ['0']) (by decide) rfl).elim
  · exact (no (c := 'b') (p := ['0']) (by decide) rfl).elim
  · have hsign : signed ds = (false, ds) := by
      unfold signed
      split
      · exact (no (c := '+') (p := []) (by decide) rfl).elim
      · exact (no (c := '-') (p := []) (by decide) rfl).elim
      · rfl
    simp only [hsign, Option.bind_eq_bind, Bool.false_eq_true, if_false]

theorem integer?_toDigits {n : Nat} (h : n < twoTo 63) : integer? (Nat.toDigits 10 n) = some (n : Int) := by
  rw [integer?_digits fun _ => isDigit_of_mem, decimal?_toDigits, Option.bind_some,
    numberOf_digits fun _ => isDigit_of_mem, Nat.ofDigitChars_ten_toDigits, inRange, if_pos (fitsSigned_natCast h)]

theorem isWordChar_of_isDigit {c : Char} (h : c.isDigit = true) : isWordChar c = true := by
  simp [isWordChar, Char.isAlphanum, h]

theorem scanWord_append {word rest : List Char} (hword : ∀ c ∈ word, isWordChar c = true) (hrest : Apart rest) :
    scanWord (word ++ rest) = (word, rest) := by
  obtain ⟨htake, hdrop⟩ := takeWhile_append hword hrest.word
  simp only [scanWord, htake, hdrop]
  split
  · next d more _ => exact absurd rfl hrest.blank
  · rfl

theorem head?_digits_append {n : Nat} {c : Char} (hc : c.isDigit = false) (rest : List Char) :
    (Nat.toDigits 10 n ++ rest).head? ≠ some c := by
  rw [List.head?_append_of_ne_nil _ Nat.toDigits_ne_nil]
  intro hhead
  simp [isDigit_of_mem (List.mem_of_head? hhead)] at hc

theorem scalarOf?_toDigits {n : Nat} (h : n < twoTo 63) : scalarOf? (Nat.toDigits 10 n) = some (.integer n) := by
  have hnot {word : List Char} {c : Char} (hc : c.isDigit = false) (hword : word.head? = some c) :
      Nat.toDigits 10 n ≠ word := fun heq => head?_digits_append (n := n) hc [] (by rw [heq]; simpa using hword)
  rw [scalarOf?, if_neg (hnot (c := 't') (by decide) rfl), if_neg (hnot (c := 'f') (by decide) rfl),
    integer?_toDigits h]

theorem scanScalar_digits {n : Nat} (h : n < twoTo 63) {rest : List Char} (hrest : Apart rest) :
    scanScalar (Nat.toDigits 10 n ++ rest) = some (.integer n, rest) := by
  have hquotes : ¬ ((Nat.toDigits 10 n ++ rest).head? = some '"' ∨ (Nat.toDigits 10 n ++ rest).head? = some '\'') :=
    not_or.2 ⟨head?_digits_append (by decide) rest, head?_digits_append (by decide) rest⟩
  rw [scanScalar, if_neg hquotes, scanWord_append (fun _ hc => isWordChar_of_isDigit (isDigit_of_mem hc)) hrest]
  simp only [scalarOf?_toDigits h, Option.map_some]

theorem scanScalar_text (s : String) {rest : List Char} (hrest : Apart rest) :
    scanScalar (writeText s.toList ++ rest) = some (.text s, rest) := by
  have hquote : (writeText s.toList ++ rest).head? = some '"' ∨ (writeText s.toList ++ rest).head? = some '\'' := by
    rcases head?_writeText s.toList with h | h <;> simp [List.head?_append, h]
  simp only [scanScalar, if_pos hquote, scanString_writeText s.toList hrest, Option.map_some, String.ofList_toList]

inductive Holds : Item → Datum → Prop
  | text (span : Span) (s : String) : Holds (.scalar span (.text s)) (.text s)
  | number (span : Span) (n : Nat) : Holds (.scalar span (.integer n)) (.number n)
  | texts (span : Span) {items : List Item} {ss : List String} :
      List.Forall₂ (fun item s => ∃ place, item = .scalar place (.text s)) items ss →
      Holds (.list span items) (.texts ss)

def Datum.IsReadable : Datum → Prop
  | .number n => n < twoTo 63
  | _ => True

theorem scanValue_scalar {fuel depth : Nat} {cs rest : List Char} {v : Scalar}
    (hlist : cs.head? ≠ some '[') (htable : cs.head? ≠ some '\x7b') (h : scanScalar cs = some (v, rest)) :
    scanValue (fuel + 1) depth cs = some (.scalar ⟨cs, rest⟩ v, rest) := by
  rw [scanValue, h, Option.map_some]
  · rintro more depth' rfl
    exact absurd rfl hlist
  · rintro more depth' rfl
    exact absurd rfl htable

theorem head?_writeText_append (s rest : List Char) :
    (writeText s ++ rest).head? = some '"' ∨ (writeText s ++ rest).head? = some '\'' := by
  rcases head?_writeText s with h | h <;> simp [List.head?_append, h]

theorem scanValue_text (fuel depth : Nat) (s : String) {rest : List Char} (hrest : Apart rest) :
    ∃ span, scanValue (fuel + 1) depth (writeText s.toList ++ rest) = some (.scalar span (.text s), rest) := by
  refine ⟨⟨writeText s.toList ++ rest, rest⟩, scanValue_scalar ?_ ?_ (scanScalar_text s hrest)⟩
  all_goals rcases head?_writeText_append s.toList rest with h | h <;> simp [h]

theorem skipFill_text (s rest : List Char) : skipFill false (writeText s ++ rest) = some (writeText s ++ rest) := by
  have hhead := head?_writeText_append s rest
  cases h : writeText s ++ rest with
  | nil => simp [h] at hhead
  | cons c more =>
    rw [h] at hhead
    rcases hhead with hc | hc <;> obtain rfl := Option.some.inj hc <;> rfl

/-- A text in a list: it ends the list before a bracket, and the list goes on behind a comma. -/
theorem scanItems_text (fuel depth : Nat) {before : List Char} {s : String} {rest : List Char}
    (hfill : skipFill false before = some (writeText s.toList ++ rest)) (hrest : Apart rest) :
    ∃ span, (∀ more, rest = ']' :: more →
        scanItems (fuel + 2) depth before = some ([.scalar span (.text s)], more)) ∧
      (∀ more, rest = ',' :: more → scanItems (fuel + 2) depth before =
        (scanItems (fuel + 1) depth more).map fun (vs, after) => (.scalar span (.text s) :: vs, after)) := by
  obtain ⟨span, hvalue⟩ := scanValue_text fuel depth s hrest
  have hhead := head?_writeText_append s.toList rest
  refine ⟨span, ?_⟩
  rw [scanItems, hfill]
  generalize writeText s.toList ++ rest = cs at hvalue hhead
  split
  · contradiction
  · next more heq =>
    obtain rfl := Option.some.inj heq
    simp at hhead
  · next cs' _ heq =>
    obtain rfl := Option.some.inj heq
    rw [hvalue]
    constructor
    · rintro more rfl
      rfl
    · rintro more rfl
      rfl

/-- The items of a list over several lines, with the bracket behind them. -/
def itemLines (items : List String) : List Char :=
  items.flatMap (fun s => [' ', ' ', ' ', ' '] ++ writeText s.toList ++ [',', '\n']) ++ [']']

theorem length_lt_itemLines (items : List String) : items.length < (itemLines items).length := by
  induction items with
  | nil => decide
  | cons s items ih =>
    simp only [itemLines, List.flatMap_cons, List.length_append, List.length_cons, List.length_nil] at ih ⊢
    omega

theorem scanItems_itemLines (depth : Nat) (items : List String) (fuel : Nat) (hfuel : items.length + 2 ≤ fuel)
    (rest : List Char) :
    ∃ vs, scanItems fuel depth ('\n' :: (itemLines items ++ rest)) = some (vs, rest) ∧
      List.Forall₂ (fun item s => ∃ place, item = .scalar place (.text s)) vs items := by
  induction items generalizing fuel with
  | nil =>
    obtain ⟨fuel, rfl⟩ : ∃ k, fuel = k + 1 := ⟨fuel - 1, by simp at hfuel; omega⟩
    exact ⟨[], by rw [scanItems]; rfl, .nil⟩
  | cons s items ih =>
    obtain ⟨fuel, rfl⟩ : ∃ k, fuel = k + 2 := ⟨fuel - 2, by omega⟩
    obtain ⟨vs, hvs, hall⟩ := ih (fuel + 1) (by simp at hfuel; omega)
    have hlines : itemLines (s :: items) ++ rest =
        ' ' :: ' ' :: ' ' :: ' ' :: (writeText s.toList ++ ',' :: '\n' :: (itemLines items ++ rest)) := by
      simp [itemLines]
    have hfill : skipFill false ('\n' :: (itemLines (s :: items) ++ rest)) =
        some (writeText s.toList ++ ',' :: '\n' :: (itemLines items ++ rest)) := by
      rw [hlines]
      exact skipFill_text _ _
    obtain ⟨span, -, hgo⟩ := scanItems_text fuel depth hfill (.of_mem (by simp) _)
    refine ⟨.scalar span (.text s) :: vs, ?_, .cons ⟨span, rfl⟩ hall⟩
    rw [hgo _ rfl, hvs, Option.map_some]

theorem scanItems_writeItems (depth : Nat) (items : List String) {fuel : Nat}
    (hfuel : (writeItems items).length ≤ fuel) (rest : List Char) :
    ∃ inner vs, writeItems items ++ rest = '[' :: inner ∧ scanItems fuel depth inner = some (vs, rest) ∧
      List.Forall₂ (fun item s => ∃ place, item = .scalar place (.text s)) vs items := by
  match items with
  | [] =>
    obtain ⟨fuel, rfl⟩ : ∃ k, fuel = k + 1 := ⟨fuel - 1, by simp [writeItems] at hfuel; omega⟩
    exact ⟨']' :: rest, [], rfl, by rw [scanItems]; rfl, .nil⟩
  | [s] =>
    obtain ⟨fuel, rfl⟩ : ∃ k, fuel = k + 2 := ⟨fuel - 2, by simp [writeItems] at hfuel; omega⟩
    obtain ⟨span, hlast, -⟩ := scanItems_text fuel depth (skipFill_text s.toList (']' :: rest))
      (.of_mem (by simp) _)
    exact ⟨writeText s.toList ++ ']' :: rest, _, by simp [writeItems], hlast rest rfl, .cons ⟨span, rfl⟩ .nil⟩
  | s :: t :: more =>
    have hlong : writeItems (s :: t :: more) = '[' :: '\n' :: itemLines (s :: t :: more) := rfl
    have hlength : (s :: t :: more).length + 2 ≤ fuel := by
      have := length_lt_itemLines (s :: t :: more)
      rw [hlong] at hfuel
      simp only [List.length_cons] at *
      omega
    obtain ⟨vs, hvs, hall⟩ := scanItems_itemLines depth (s :: t :: more) fuel hlength rest
    exact ⟨_, vs, by rw [hlong]; rfl, hvs, hall⟩

/-- A written value is read as itself. -/
theorem scanValue_writeDatum (depth : Nat) {d : Datum} (hd : d.IsReadable) (fuel : Nat)
    (hfuel : (writeDatum d).length ≤ fuel) {rest : List Char} (hrest : Apart rest) :
    ∃ item, scanValue (fuel + 1) (depth + 1) (writeDatum d ++ rest) = some (item, rest) ∧ Holds item d := by
  cases d with
  | text s =>
    obtain ⟨span, h⟩ := scanValue_text fuel (depth + 1) s hrest
    exact ⟨_, h, .text span s⟩
  | number n =>
    rw [writeDatum, Nat.toString_eq_repr, Nat.toList_repr]
    exact ⟨_, scanValue_scalar (head?_digits_append (by decide) rest) (head?_digits_append (by decide) rest)
      (scanScalar_digits hd hrest), .number _ n⟩
  | texts items =>
    obtain ⟨inner, vs, hopen, hvs, hall⟩ := scanItems_writeItems depth items hfuel rest
    refine ⟨.list ⟨'[' :: inner, rest⟩ vs, ?_, .texts _ hall⟩
    rw [writeDatum, hopen, scanValue, hvs, Option.map_some]

def IsBare (name : String) : Prop := name ≠ "" ∧ ∀ c ∈ name.toList, isBareKeyChar c = true

theorem IsBare.exists_cons {name : String} (h : IsBare name) :
    ∃ c cs, name.toList = c :: cs ∧ isBareKeyChar c = true := by
  cases hname : name.toList with
  | nil => exact absurd (String.toList_eq_nil_iff.1 hname) h.1
  | cons c cs => exact ⟨c, cs, rfl, h.2 c (by rw [hname]; exact List.mem_cons_self)⟩

theorem IsBare.head?_ne {name : String} (h : IsBare name) {d : Char} (hd : isBareKeyChar d = false) (rest : List Char) :
    (name.toList ++ rest).head? ≠ some d := by
  obtain ⟨c, cs, hname, hc⟩ := h.exists_cons
  rw [hname]
  rintro heq
  obtain rfl : c = d := by simpa using heq
  simp [hc] at hd

theorem scanKey_bare {name : String} (h : IsBare name) {rest : List Char}
    (hrest : ∀ c ∈ rest.head?, isBareKeyChar c = false) :
    ∃ span, scanKey (name.toList ++ rest) = some (⟨name, span⟩, rest) := by
  obtain ⟨htake, hdrop⟩ := takeWhile_append h.2 hrest
  obtain ⟨c, cs, hname, -⟩ := h.exists_cons
  have hlist : String.ofList (c :: cs) = name := by rw [← hname, String.ofList_toList]
  refine ⟨⟨name.toList ++ rest, rest⟩, ?_⟩
  rw [scanKey, if_neg (not_or.2 ⟨h.head?_ne (by decide) rest, h.head?_ne (by decide) rest⟩), htake, hdrop]
  simp only [hname, hlist]

/-- A setting's name and the equals sign behind it. -/
theorem scanAssigned_bare {name : String} (h : IsBare name) {value : List Char} (hvalue : skipBlank value = value) :
    ∃ span, scanAssigned (fun rest => some (skipBlank rest)) (name.toList ++ ([' ', '=', ' '] ++ value)) =
      some (([], ⟨name, span⟩), value) := by
  have hafter : ∀ c ∈ ([' ', '=', ' '] ++ value).head?, isBareKeyChar c = false := by simp [isBareKeyChar]
  obtain ⟨span, hkey⟩ := scanKey_bare h hafter
  have hsign : skipBlank ([' ', '=', ' '] ++ value) = '=' :: ' ' :: value := rfl
  have hpath : scanPath maxDepth (name.toList ++ ([' ', '=', ' '] ++ value)) =
      some (([], ⟨name, span⟩), [' ', '=', ' '] ++ value) := by
    rw [show maxDepth = 79 + 1 from rfl, scanPath, hkey]
    dsimp only
    rw [hsign]
    rfl
  refine ⟨span, ?_⟩
  unfold scanAssigned
  rw [hpath]
  dsimp only
  rw [hsign]
  change (some (skipBlank value)).map _ = _
  rw [hvalue, Option.map_some]

theorem skipBlank_eq_self {cs : List Char} (hspace : cs.head? ≠ some ' ') (htab : cs.head? ≠ some '\t') :
    skipBlank cs = cs := by
  cases cs with
  | nil => rfl
  | cons c cs => simp_all [skipBlank, isBlankOnLine]

theorem skipBlank_writeDatum (d : Datum) (rest : List Char) :
    skipBlank (writeDatum d ++ rest) = writeDatum d ++ rest := by
  cases d with
  | text s => rcases head?_writeText_append s.toList rest with h | h <;> simp [writeDatum, skipBlank_eq_self, h]
  | texts items =>
    match items with
    | [] => rfl
    | [s] => rfl
    | _ :: _ :: _ => rfl
  | number n =>
    rw [writeDatum, Nat.toString_eq_repr, Nat.toList_repr]
    exact skipBlank_eq_self (head?_digits_append (by decide) rest) (head?_digits_append (by decide) rest)

def settingLine (e : String × Datum) : List Char := e.1.toList ++ [' ', '=', ' '] ++ writeDatum e.2 ++ ['\n']

theorem settingLine_cons {e : String × Datum} (hbare : IsBare e.1) :
    ∃ c cs, settingLine e = c :: cs ∧ isBareKeyChar c = true := by
  obtain ⟨c, cs, hfirst, hc⟩ := hbare.exists_cons
  exact ⟨c, cs ++ [' ', '=', ' '] ++ writeDatum e.2 ++ ['\n'], by simp [settingLine, hfirst], hc⟩

def Matches (m : Key × Item) (e : String × Datum) : Prop := m.1.name = e.1 ∧ Holds m.2 e.2

theorem add_new {members : Members} {key : Key} (hnew : key.name ∉ members.map fun m => m.1.name) (item : Item) :
    members.add key item = some (members ++ [(key, item)]) := by
  have hfind : members.find key.name = none := by
    simp only [Members.find, Option.map_eq_none_iff, List.find?_eq_none]
    exact fun m hm heq => hnew (List.mem_map.2 ⟨m, hm, of_decide_eq_true heq⟩)
  rw [Members.add, hfind]

theorem scanEntry_settingLine {e : String × Datum} (hbare : IsBare e.1) (hread : e.2.IsReadable) (fuel : Nat)
    (hfuel : (settingLine e).length ≤ fuel) {root : Members} (hnew : e.1 ∉ root.map fun m => m.1.name)
    (rest : List Char) :
    ∃ m, scanEntry fuel ⟨root, []⟩ (settingLine e ++ rest) = some (⟨root ++ [m], []⟩, '\n' :: rest) ∧ Matches m e := by
  obtain ⟨name, d⟩ := e
  have hline : settingLine (name, d) ++ rest = name.toList ++ ([' ', '=', ' '] ++ (writeDatum d ++ '\n' :: rest)) := by
    simp [settingLine]
  obtain ⟨fuel, rfl⟩ : ∃ k, fuel = k + 1 := ⟨fuel - 1, by simp [settingLine] at hfuel; omega⟩
  obtain ⟨span, hname⟩ := scanAssigned_bare hbare (skipBlank_writeDatum d ('\n' :: rest))
  obtain ⟨item, hitem, hholds⟩ := scanValue_writeDatum 79 hread fuel
    (by simp [settingLine] at hfuel; dsimp only; omega) (Apart.of_mem (c := '\n') (by simp) rest)
  refine ⟨(⟨name, span⟩, item), ?_, rfl, hholds⟩
  rw [hline, scanEntry, hname]
  dsimp only
  rw [show maxDepth = 79 + 1 from rfl, hitem]
  dsimp only [within, assign]
  rw [if_pos (by simp), add_new hnew, Option.map_some]

theorem scanLines_nil (fuel : Nat) (p : Progress) : scanLines (fuel + 1) p [] = some p.root := rfl

theorem scanLines_cons {c : Char} (hc : isBareKeyChar c = true) {fuel : Nat} {p p' : Progress} {cs rest : List Char}
    (hentry : scanEntry (fuel + 1) p (c :: cs) = some (p', '\n' :: rest)) :
    scanLines (fuel + 2) p (c :: cs) = scanLines (fuel + 1) p' rest := by
  have hne (d : Char) (hd : isBareKeyChar d = false) : c ≠ d := fun h => by simp [h, hd] at hc
  have hblank : skipBlank (c :: cs) = c :: cs :=
    skipBlank_eq_self (by simpa using hne ' ' (by decide)) (by simpa using hne '\t' (by decide))
  have hfinish : finishLine ('\n' :: rest) = some rest := rfl
  -- the match on the first character is reduced by this fact in the context
  have hbracket := hne '[' (by decide)
  have hline : ¬ (c = '\n' ∨ c = '\r' ∨ c = '#') := by
    simp [hne '\n' (by decide), hne '\r' (by decide), hne '#' (by decide)]
  rw [scanLines, hblank]
  simp only [hline, hentry, hfinish, if_false]
  cases rest with
  | nil => exact (scanLines_nil fuel p').symm
  | cons d more => rfl

/-- The line of a setting whose name is new, and what follows it. -/
theorem scanLines_settingLine {e : String × Datum} (hbare : IsBare e.1) (hread : e.2.IsReadable) {fuel : Nat}
    (hfuel : (settingLine e).length ≤ fuel + 1) {root : Members} (hnew : e.1 ∉ root.map fun m => m.1.name)
    (rest : List Char) :
    ∃ m, scanLines (fuel + 2) ⟨root, []⟩ (settingLine e ++ rest) = scanLines (fuel + 1) ⟨root ++ [m], []⟩ rest ∧
      Matches m e := by
  obtain ⟨m, hentry, hm⟩ := scanEntry_settingLine hbare hread (fuel + 1) hfuel hnew rest
  obtain ⟨c, cs, hhead, hc⟩ := settingLine_cons hbare
  rw [hhead, List.cons_append] at hentry ⊢
  exact ⟨m, scanLines_cons hc hentry, hm⟩

/-- A text that starts with a character of some class starts with no byte order mark when that is not of the class. -/
theorem skipMark_of_class {p : Char → Bool} (hp : p '\uFEFF' = false) {c : Char} (hc : p c = true) (rest : List Char) :
    skipMark (c :: rest) = c :: rest := by
  refine if_neg fun hmark => ?_
  rw [← Char.ofNat_toNat c, hmark] at hc
  exact absurd (hc.symm.trans hp) Bool.true_eq_false.mp

end PassDelta.Toml
