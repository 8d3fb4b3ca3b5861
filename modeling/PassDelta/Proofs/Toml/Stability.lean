import PassDelta.Toml.Reader
/-!
# What stands behind a line

A scanner that comes to its end before the line feed at the end of a text does not look behind that line feed. Whatever
is appended to the text, it reads the same strings, numbers and keys, and values that are alike but for their places.
-/

namespace PassDelta.Toml

def EndsLine (cs : List Char) : Prop := ∃ before, cs = before ++ ['\n']

namespace EndsLine
variable {c : Char} {cs : List Char}

theorem ne_nil (h : EndsLine cs) : cs ≠ [] := by
  obtain ⟨before, rfl⟩ := h
  simp

theorem of_ne_nil (h : EndsLine (c :: cs)) (hne : cs ≠ []) : EndsLine cs := by
  obtain ⟨before, hbefore⟩ := h
  cases before with
  | nil => exact absurd (List.cons.inj hbefore).2 hne
  | cons d before => exact ⟨before, (List.cons.inj hbefore).2⟩

theorem of_ne (h : EndsLine (c :: cs)) (hc : c ≠ '\n') : EndsLine cs := by
  refine h.of_ne_nil fun hnil => ?_
  obtain ⟨before, hbefore⟩ := h
  rw [hnil] at hbefore
  have hlast := congrArg List.getLast? hbefore
  rw [List.getLast?_concat] at hlast
  exact hc (Option.some.inj hlast)

theorem cons (c : Char) (h : EndsLine cs) : EndsLine (c :: cs) := by
  obtain ⟨before, rfl⟩ := h
  exact ⟨c :: before, rfl⟩

/-- A first element there is, and it stays the first one. -/
theorem head?_append (h : EndsLine cs) (tail : List Char) : (cs ++ tail).head? = cs.head? := by
  cases cs with
  | nil => exact absurd rfl h.ne_nil
  | cons c cs => rfl

theorem of_ne_feed {p : Char → Bool} (hp : p '\n' = false) (h : EndsLine (c :: cs)) (hc : p c = true) :
    EndsLine cs := by
  refine h.of_ne ?_
  rintro rfl
  rw [hp] at hc
  cases hc

theorem eq_feed (h : EndsLine [c]) : c = '\n' := Decidable.byContradiction fun hc => (h.of_ne hc).ne_nil rfl

/-- The class of characters that a scanner runs over ends at the line feed at the latest. -/
theorem span_append {p : Char → Bool} (hp : p '\n' = false) (h : EndsLine cs) :
    EndsLine (cs.dropWhile p) ∧
      ∀ tail, (cs ++ tail).takeWhile p = cs.takeWhile p ∧ (cs ++ tail).dropWhile p = cs.dropWhile p ++ tail := by
  induction cs with
  | nil => exact absurd rfl h.ne_nil
  | cons c cs ih =>
    cases hc : p c with
    | false => simpa [hc] using h
    | true =>
      obtain ⟨hrest, hsame⟩ := ih (h.of_ne_feed hp hc)
      simpa [hc] using ⟨hrest, hsame⟩

theorem skipBlank (h : EndsLine cs) : EndsLine (skipBlank cs) := (h.span_append (by decide)).1

theorem skipBlank_append (h : EndsLine cs) (tail : List Char) :
    Toml.skipBlank (cs ++ tail) = Toml.skipBlank cs ++ tail := ((h.span_append (by decide)).2 tail).2

theorem startsWithTwo_append (h : EndsLine cs) {quote : Char} (hquote : quote ≠ '\n') (tail : List Char) :
    startsWithTwo quote (cs ++ tail) = startsWithTwo quote cs := by
  match cs, h with
  | [], h => exact absurd rfl h.ne_nil
  | [a], h =>
    obtain rfl := h.eq_feed
    have hfirst : decide ('\n' = quote) = false := decide_eq_false (Ne.symm hquote)
    cases tail <;> simp [startsWithTwo, hfirst]
  | a :: b :: cs, _ => rfl

theorem drop_two {quote : Char} (h : EndsLine cs) (hquote : quote ≠ '\n') (hstart : startsWithTwo quote cs = true) :
    EndsLine (cs.drop 2) ∧ ∀ tail, (cs ++ tail).drop 2 = cs.drop 2 ++ tail := by
  match cs, h with
  | [], _ => cases hstart
  | [a], _ => cases hstart
  | a :: b :: cs, h =>
    obtain ⟨rfl, rfl⟩ : a = quote ∧ b = quote := by simpa [startsWithTwo] using hstart
    exact ⟨(h.of_ne hquote).of_ne hquote, fun _ => rfl⟩

theorem beforeFeed_append (h : EndsLine cs) (tail : List Char) : beforeFeed (cs ++ tail) = beforeFeed cs := by
  rw [beforeFeed, beforeFeed, h.head?_append]

theorem closeLong_append (h : EndsLine cs) {quote : Char} (hquote : quote ≠ '\n') :
    EndsLine (closeLong quote cs).2 ∧
      ∀ tail, closeLong quote (cs ++ tail) = ((closeLong quote cs).1, (closeLong quote cs).2 ++ tail) := by
  match cs, h with
  | [], h => exact absurd rfl h.ne_nil
  | [a], h =>
    obtain rfl := h.eq_feed
    refine ⟨by simpa [closeLong, Ne.symm hquote] using h, fun tail => ?_⟩
    cases tail <;> simp [closeLong, Ne.symm hquote]
  | a :: b :: cs, h =>
    simp only [List.cons_append, closeLong]
    split
    · next ha =>
      have hb := h.of_ne (ha ▸ hquote)
      split
      · next hquoteb => exact ⟨hb.of_ne (hquoteb ▸ hquote), fun _ => rfl⟩
      · exact ⟨hb, fun _ => rfl⟩
    · exact ⟨h, fun _ => rfl⟩

end EndsLine

section Stable
variable {α : Type}

/-- The scanner stops before the end of the text, and what is appended to the text changes its result at most in a way
that `like` allows. -/
def StableAt (f : List Char → Scan α) (cs : List Char) (like : α → α → Prop) : Prop :=
  ∀ x rest, f cs = some (x, rest) →
    EndsLine rest ∧ ∀ tail, ∃ x', f (cs ++ tail) = some (x', rest ++ tail) ∧ like x x'

def Stable (f : List Char → Scan α) (like : α → α → Prop) : Prop :=
  ∀ cs, EndsLine cs → StableAt f cs like

variable {f g : List Char → Scan α} {cs : List Char} {c : Char} {like : α → α → Prop}

theorem StableAt.of_none (h : f cs = none) : StableAt f cs like := by
  intro x rest hscan
  cases h.symm.trans hscan

/-- The scanner has its answer from a part of the text. -/
theorem StableAt.of_eq (part : List Char) (h : ∀ tail, f (cs ++ tail) = g (part ++ tail)) (hg : StableAt g part like) :
    StableAt f cs like := by
  intro x rest hscan
  have hpart : g part = some (x, rest) := by
    have hnil := h []
    rw [List.append_nil, List.append_nil] at hnil
    rw [← hnil, hscan]
  obtain ⟨hends, hsame⟩ := hg x rest hpart
  refine ⟨hends, fun tail => ?_⟩
  rw [h tail]
  exact hsame tail

theorem StableAt.step (hg : StableAt g cs like) (h : ∀ tail, f (c :: (cs ++ tail)) = g (cs ++ tail)) :
    StableAt f (c :: cs) like := .of_eq _ h hg

theorem stableAt_some {g : List Char → α × List Char} (hends : EndsLine (g cs).2)
    (hsame : ∀ tail, g (cs ++ tail) = ((g cs).1, (g cs).2 ++ tail)) : StableAt (fun cs => some (g cs)) cs Eq := by
  intro x rest hscan
  have hg : g cs = (x, rest) := Option.some.inj hscan
  rw [hg] at hends hsame
  exact ⟨hends, fun tail => ⟨x, congrArg some (hsame tail), rfl⟩⟩

/-- Stability is kept by what is done to the result. -/
theorem StableAt.map {β : Type} (hf : StableAt f cs like) (like' : β → β → Prop) (into : α → β)
    (hinto : ∀ {x x'}, like x x' → like' (into x) (into x')) :
    StableAt (fun cs => (f cs).map fun (x, rest) => (into x, rest)) cs like' := by
  intro y rest hscan
  obtain ⟨⟨x, after⟩, hx, heq⟩ := Option.map_eq_some_iff.1 hscan
  obtain ⟨rfl, rfl⟩ := Prod.mk.inj heq
  obtain ⟨hends, hsame⟩ := hf x after hx
  refine ⟨hends, fun tail => ?_⟩
  obtain ⟨x', hx', hlike⟩ := hsame tail
  exact ⟨into x', by dsimp only; rw [hx']; rfl, hinto hlike⟩

end Stable

theorem StableAt.push {f : List Char → Scan (List Char)} {cs : List Char} (hf : StableAt f cs Eq) (c : Char) :
    StableAt (fun cs => push c (f cs)) cs Eq := hf.map Eq (c :: ·) (congrArg _)

theorem stableAt_closeLong {quote : Char} (hquote : quote ≠ '\n') {cs : List Char} (hcs : EndsLine cs)
    (hstart : startsWithTwo quote cs = true) : StableAt (fun cs => some (closeLong quote (cs.drop 2))) cs Eq := by
  obtain ⟨hdrop, hsame⟩ := hcs.drop_two hquote hstart
  obtain ⟨hends, hclose⟩ := hdrop.closeLong_append hquote
  exact stableAt_some (g := fun cs => closeLong quote (cs.drop 2)) hends fun tail => by rw [hsame, hclose]

theorem stable_scanLiteral (long : Bool) : Stable (scanLiteral long) Eq := by
  intro cs
  induction cs with
  | nil => exact fun hcs => absurd rfl hcs.ne_nil
  | cons c cs ih =>
    intro hcs
    by_cases hnil : cs = []
    · subst hnil
      obtain rfl := hcs.eq_feed
      exact .of_none (by cases long <;> rfl)
    have hrest := hcs.of_ne_nil hnil
    by_cases hquote : c = '\''
    · subst hquote
      cases long with
      | false =>
        exact (stableAt_some (g := fun rest => ([], rest)) hrest fun _ => rfl).step fun tail => by simp [scanLiteral]
      | true =>
        cases htwo : startsWithTwo '\'' cs with
        | true =>
          refine (stableAt_closeLong (by decide) hrest htwo).step fun tail => ?_
          simp [scanLiteral, hrest.startsWithTwo_append, htwo]
        | false =>
          refine ((ih hrest).push '\'').step fun tail => ?_
          simp [scanLiteral, hrest.startsWithTwo_append, htwo]
    · cases hc : isPlain c || (long && (c = '\n' || (c = '\r' && beforeFeed cs))) with
      | true =>
        refine ((ih hrest).push c).step fun tail => ?_
        rw [scanLiteral, if_neg hquote, hrest.beforeFeed_append, if_pos hc]
      | false => exact .of_none (by rw [scanLiteral, if_neg hquote, hc, if_neg Bool.false_ne_true])

theorem scanBasic_feed (long : Bool) (state : Inside) : scanBasic long state ['\n'] = none := by
  cases state with
  | plain | escape => cases long <;> rfl
  | code left value => rfl
  | fold ended => cases ended <;> rfl

section Basic
variable {long : Bool} {state : Inside} {c : Char} {cs : List Char}
variable (hrest : EndsLine cs) (next : ∀ state, StableAt (scanBasic long state) cs Eq)
include hrest next

theorem stableAt_scanBasic_plain (hstate : state.settle c = .plain) :
    StableAt (scanBasic long state) (c :: cs) Eq := by
  have hfeed (tail : List Char) : beforeFeed (cs ++ tail) = beforeFeed cs := hrest.beforeFeed_append tail
  by_cases hquote : c = '"'
  · subst hquote
    cases long with
    | false =>
      refine (stableAt_some (g := fun rest => ([], rest)) hrest fun _ => rfl).step fun tail => ?_
      simp [scanBasic, hstate]
    | true =>
      cases htwo : startsWithTwo '"' cs with
      | true =>
        refine (stableAt_closeLong (by decide) hrest htwo).step fun tail => ?_
        simp [scanBasic, hstate, hrest.startsWithTwo_append, htwo]
      | false =>
        refine ((next .plain).push '"').step fun tail => ?_
        simp [scanBasic, hstate, hrest.startsWithTwo_append, htwo]
  · by_cases hescape : c = '\\'
    · refine (next .escape).step fun tail => ?_
      rw [scanBasic, hstate]
      simp only [if_neg hquote, if_pos hescape]
    · cases hc : isPlain c || (long && (c = '\n' || (c = '\r' && beforeFeed cs))) with
      | true =>
        refine ((next .plain).push c).step fun tail => ?_
        rw [scanBasic, hstate]
        simp only [if_neg hquote, if_neg hescape, hfeed, hc, if_true]
      | false =>
        refine .of_none ?_
        rw [scanBasic, hstate]
        simp only [if_neg hquote, if_neg hescape, hc, Bool.false_eq_true, if_false]

/-- What an escaped line end does with the white space behind it. -/
theorem stableAt_fold (c : Char) (ended : Bool) : StableAt (fun rest =>
    if c = '\n' then scanBasic long (.fold true) rest
    else if isBlankOnLine c || (c = '\r' && beforeFeed rest) then scanBasic long (.fold ended) rest
    else none) cs Eq := by
  have hfeed (tail : List Char) : beforeFeed (cs ++ tail) = beforeFeed cs := hrest.beforeFeed_append tail
  by_cases hc : c = '\n'
  · exact .of_eq _ (fun tail => by rw [if_pos hc]) (next (.fold true))
  · cases hblank : isBlankOnLine c || (c = '\r' && beforeFeed cs) with
    | true => exact .of_eq _ (fun tail => by rw [if_neg hc, hfeed, if_pos hblank]) (next (.fold ended))
    | false => exact .of_none (by rw [if_neg hc, hblank, if_neg Bool.false_ne_true])

theorem stableAt_scanBasic_escape (hstate : state.settle c = .escape) :
    StableAt (scanBasic long state) (c :: cs) Eq := by
  cases hsimple : simpleEscape? c with
  | some e =>
    refine ((next .plain).push e).step fun tail => ?_
    rw [scanBasic, hstate]
    simp only [hsimple]
  | none =>
    cases hwidth : codeWidth? c with
    | some n =>
      refine (next (.code n 0)).step fun tail => ?_
      rw [scanBasic, hstate]
      simp only [hsimple, hwidth]
    | none =>
      cases long with
      | false =>
        refine .of_none ?_
        rw [scanBasic, hstate]
        simp only [hsimple, hwidth, Bool.not_false, if_true]
      | true =>
        refine (stableAt_fold hrest next c false).step fun tail => ?_
        rw [scanBasic, hstate]
        simp only [hsimple, hwidth, Bool.not_true, Bool.false_eq_true, if_false]

theorem stableAt_scanBasic_fold {ended : Bool} (hstate : state.settle c = .fold ended) :
    StableAt (scanBasic long state) (c :: cs) Eq := by
  refine (stableAt_fold hrest next c ended).step fun tail => ?_
  rw [scanBasic, hstate]

omit hrest in
theorem stableAt_scanBasic_code {left value : Nat} (hstate : state.settle c = .code left value) :
    StableAt (scanBasic long state) (c :: cs) Eq := by
  cases hdigit : hexValue? c with
  | none =>
    refine .of_none ?_
    rw [scanBasic, hstate]
    simp only [hdigit]
  | some d =>
    by_cases hleft : 1 < left
    · refine (next (.code (left - 1) (value * 16 + d))).step fun tail => ?_
      rw [scanBasic, hstate]
      simp only [hdigit, if_pos hleft]
    · cases hchar : charOf? (value * 16 + d) with
      | some x =>
        refine ((next .plain).push x).step fun tail => ?_
        rw [scanBasic, hstate]
        simp only [hdigit, if_neg hleft, hchar]
      | none =>
        refine .of_none ?_
        rw [scanBasic, hstate]
        simp only [hdigit, if_neg hleft, hchar]

end Basic

theorem stable_scanBasic (long : Bool) (state : Inside) : Stable (scanBasic long state) Eq := by
  intro cs
  induction cs generalizing state with
  | nil => exact fun hcs => absurd rfl hcs.ne_nil
  | cons c cs ih =>
    intro hcs
    by_cases hnil : cs = []
    · subst hnil
      obtain rfl := hcs.eq_feed
      exact .of_none (scanBasic_feed long state)
    have hrest := hcs.of_ne_nil hnil
    have next (state : Inside) : StableAt (scanBasic long state) cs Eq := ih state hrest
    cases hstate : state.settle c with
    | plain => exact stableAt_scanBasic_plain hrest next hstate
    | escape => exact stableAt_scanBasic_escape hrest next hstate
    | code left value => exact stableAt_scanBasic_code next hstate
    | fold ended => exact stableAt_scanBasic_fold hrest next hstate

theorem stable_scanShort : Stable scanShort Eq := by
  intro cs hcs
  cases cs with
  | nil => exact absurd rfl hcs.ne_nil
  | cons c cs =>
    by_cases hdouble : c = '"'
    · subst hdouble
      exact (stable_scanBasic false .plain cs (hcs.of_ne (by decide))).step fun _ => rfl
    · by_cases hsingle : c = '\''
      · subst hsingle
        exact (stable_scanLiteral false cs (hcs.of_ne (by decide))).step fun _ => rfl
      · refine .of_none ?_
        unfold scanShort
        split <;> simp_all


theorem EndsLine.lineEnd?_append {cs : List Char} (hcs : EndsLine cs) (tail : List Char) :
    lineEnd? (cs ++ tail) = (lineEnd? cs).map (· ++ tail) := by
  match cs, hcs with
  | [], hcs => exact absurd rfl hcs.ne_nil
  | [c], hcs =>
    obtain rfl := hcs.eq_feed
    rfl
  | c :: d :: cs, _ =>
    by_cases hc : c = '\n'
    · subst hc
      rfl
    · by_cases hd : c = '\r' ∧ d = '\n'
      · obtain ⟨rfl, rfl⟩ := hd
        rfl
      · have hnone (rest : List Char) : lineEnd? (c :: d :: rest) = none := by
          unfold lineEnd?
          split <;> simp_all
        rw [List.cons_append, List.cons_append, hnone, hnone]
        rfl

theorem lineEnd?_suffix {cs rest : List Char} (h : lineEnd? cs = some rest) : rest <:+ cs := by
  unfold lineEnd? at h
  split at h
  · cases h
    exact List.suffix_cons ..
  · cases h
    exact (List.suffix_cons ..).trans (List.suffix_cons ..)
  · cases h

theorem EndsLine.of_suffix {cs rest : List Char} (hcs : EndsLine cs) (hsuffix : rest <:+ cs) (hne : rest ≠ []) :
    EndsLine rest := by
  obtain ⟨before, rfl⟩ := hsuffix
  induction before with
  | nil => exact hcs
  | cons c before ih => exact ih (hcs.of_ne_nil (by simp [hne]))

theorem EndsLine.dropLineEnd_append {cs : List Char} (hcs : EndsLine cs) :
    (dropLineEnd cs ≠ [] → EndsLine (dropLineEnd cs)) ∧
      ∀ tail, dropLineEnd (cs ++ tail) = dropLineEnd cs ++ tail := by
  unfold dropLineEnd
  simp only [hcs.lineEnd?_append]
  cases h : lineEnd? cs with
  | none => exact ⟨fun _ => hcs, fun _ => rfl⟩
  | some rest => exact ⟨hcs.of_suffix (lineEnd?_suffix h), fun _ => rfl⟩

/-- A scanner that cannot do with nothing is as good behind a line end. -/
theorem stableAt_dropLineEnd {f : List Char → Scan (List Char)} (hf : Stable f Eq) (hnil : f [] = none) {cs : List Char}
    (hcs : EndsLine cs) : StableAt (fun cs => f (dropLineEnd cs)) cs Eq := by
  obtain ⟨hends, hsame⟩ := hcs.dropLineEnd_append
  by_cases hne : dropLineEnd cs = []
  · exact .of_none (by rw [hne, hnil])
  · exact .of_eq _ (fun tail => by rw [hsame]) (hf _ (hends hne))

theorem scanString_short {quote : Char} {cs : List Char} (h : startsWithTwo quote cs = false) :
    scanString (quote :: cs) = scanShort (quote :: cs) := by
  unfold scanString
  split
  · simp_all [startsWithTwo]
  · simp_all [startsWithTwo]
  · rfl

theorem stable_scanString : Stable scanString Eq := by
  intro cs hcs
  cases cs with
  | nil => exact absurd rfl hcs.ne_nil
  | cons quote cs =>
    by_cases hfeed : quote = '\n'
    · subst hfeed
      refine .of_none ?_
      unfold scanString scanShort
      rfl
    have hrest := hcs.of_ne hfeed
    cases htwo : startsWithTwo quote cs with
    | false =>
      refine .of_eq (quote :: cs) (fun tail => ?_) (stable_scanShort _ hcs)
      exact scanString_short ((hrest.startsWithTwo_append hfeed tail).trans htwo)
    | true =>
      obtain ⟨hdrop, -⟩ := hrest.drop_two hfeed htwo
      match cs, htwo with
      | a :: b :: cs, htwo =>
        obtain ⟨ha, hb⟩ : a = quote ∧ b = quote := by simpa [startsWithTwo] using htwo
        obtain ⟨rfl, rfl⟩ : quote = a ∧ quote = b := ⟨ha.symm, hb.symm⟩
        by_cases hdouble : quote = '"'
        · subst hdouble
          exact .of_eq cs (fun _ => rfl) (stableAt_dropLineEnd (stable_scanBasic true .plain) rfl hdrop)
        · by_cases hsingle : quote = '\''
          · subst hsingle
            exact .of_eq cs (fun _ => rfl) (stableAt_dropLineEnd (stable_scanLiteral true) rfl hdrop)
          · refine .of_none ?_
            unfold scanString scanShort
            split <;> simp_all

/-- What is left of a word once a date in it is known to be followed by a blank and a time, or not. -/
def joinTime (word after : List Char) : List Char × List Char :=
  match date? word, after with
  | some [], ' ' :: d :: rest =>
    if d.isDigit then (word ++ ' ' :: (d :: rest).takeWhile isWordChar, (d :: rest).dropWhile isWordChar)
    else (word, ' ' :: d :: rest)
  | _, rest => (word, rest)

theorem scanWord_eq (cs : List Char) : scanWord cs = joinTime (cs.takeWhile isWordChar) (cs.dropWhile isWordChar) := rfl

theorem joinTime_other {word : List Char} {c : Char} {after : List Char} (hc : date? word = some [] → c ≠ ' ') :
    joinTime word (c :: after) = (word, c :: after) := by
  unfold joinTime
  split
  · next d rest hdate hafter => exact absurd (List.cons.inj hafter).1 (hc hdate)
  · rfl

theorem stableAt_joinTime (word : List Char) {after : List Char} (hafter : EndsLine after) :
    StableAt (fun after => some (joinTime word after)) after Eq := by
  match after, hafter with
  | [], hafter => exact absurd rfl hafter.ne_nil
  | [c], hafter =>
    obtain rfl := hafter.eq_feed
    refine stableAt_some (g := joinTime word) ?_ fun tail => ?_
    · rwa [joinTime_other fun _ => by decide]
    · rw [List.cons_append, joinTime_other fun _ => by decide, joinTime_other fun _ => by decide]
      rfl
  | c :: d :: rest, hafter =>
    by_cases htime : date? word = some [] ∧ c = ' '
    · obtain ⟨hdate, rfl⟩ := htime
      have hrest := hafter.of_ne (by decide)
      obtain ⟨hends, hsame⟩ := hrest.span_append (p := isWordChar) (by decide)
      by_cases hdigit : d.isDigit = true
      · have hjoin (rest : List Char) : joinTime word (' ' :: d :: rest) =
            (word ++ ' ' :: (d :: rest).takeWhile isWordChar, (d :: rest).dropWhile isWordChar) := by
          simp only [joinTime, hdate, if_pos hdigit]
        refine stableAt_some (g := joinTime word) (by rw [hjoin]; exact hends) fun tail => ?_
        rw [List.cons_append, List.cons_append, hjoin, hjoin, ← List.cons_append, (hsame tail).1, (hsame tail).2]
      · have hjoin (rest : List Char) : joinTime word (' ' :: d :: rest) = (word, ' ' :: d :: rest) := by
          simp only [joinTime, hdate, if_neg hdigit]
        refine stableAt_some (g := joinTime word) (by rw [hjoin]; exact hafter) fun tail => ?_
        rw [List.cons_append, List.cons_append, hjoin, hjoin]
        rfl
    · have hjoin (rest : List Char) : joinTime word (c :: rest) = (word, c :: rest) :=
        joinTime_other fun hdate hc => htime ⟨hdate, hc⟩
      refine stableAt_some (g := joinTime word) (by rw [hjoin]; exact hafter) fun tail => ?_
      rw [List.cons_append, hjoin, hjoin]
      rfl

theorem stable_scanWord {cs : List Char} (hcs : EndsLine cs) : StableAt (fun cs => some (scanWord cs)) cs Eq := by
  obtain ⟨hends, hsame⟩ := hcs.span_append (p := isWordChar) (by decide)
  refine .of_eq _ (fun tail => ?_) (stableAt_joinTime (cs.takeWhile isWordChar) hends)
  rw [scanWord_eq, (hsame tail).1, (hsame tail).2]

theorem stable_scanScalar : Stable scanScalar Eq := by
  intro cs hcs
  by_cases hquote : cs.head? = some '"' ∨ cs.head? = some '\''
  · have hstring := (stable_scanString cs hcs).map Eq (fun s => Scalar.text (String.ofList s)) fun h => by rw [h]
    refine .of_eq _ (fun tail => ?_) hstring
    rw [scanScalar, hcs.head?_append, if_pos hquote]
  · intro v rest h
    rw [scanScalar, if_neg hquote] at h
    rcases hword : scanWord cs with ⟨word, after⟩
    rw [hword] at h
    obtain ⟨hends, hsame⟩ := stable_scanWord hcs word after (congrArg some hword)
    obtain ⟨w, hw, heq⟩ := Option.map_eq_some_iff.1 h
    obtain ⟨rfl, rfl⟩ := Prod.mk.inj heq
    refine ⟨hends, fun tail => ⟨w, ?_, rfl⟩⟩
    obtain ⟨_, hafter, rfl⟩ := hsame tail
    rw [scanScalar, hcs.head?_append, if_neg hquote, Option.some.inj hafter]
    dsimp only
    rw [hw, Option.map_some]

end PassDelta.Toml
