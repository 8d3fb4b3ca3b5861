import PassDelta.Proofs.Toml.Shapes
import PassDelta.Proofs.Toml.Stability
/-!
# Values in front of other text

Keys and values are read from their own part of a text. Whatever stands behind it and whatever fuel there is besides, a
key has the same names and a value the same shape.
-/

namespace PassDelta.Toml

theorem stable_scanKey : Stable scanKey fun key key' => key.name = key'.name := by
  intro cs hcs
  by_cases hquote : cs.head? = some '"' ∨ cs.head? = some '\''
  · intro key rest h
    rw [scanKey, if_pos hquote] at h
    obtain ⟨⟨name, after⟩, hname, heq⟩ := Option.map_eq_some_iff.1 h
    obtain ⟨rfl, rfl⟩ := Prod.mk.inj heq
    obtain ⟨hends, hsame⟩ := stable_scanShort cs hcs name after hname
    refine ⟨hends, fun tail => ⟨⟨String.ofList name, cs ++ tail, after ++ tail⟩, ?_, rfl⟩⟩
    obtain ⟨_, htail, rfl⟩ := hsame tail
    rw [scanKey, hcs.head?_append, if_pos hquote, htail]
    rfl
  · obtain ⟨hends, hsame⟩ := hcs.span_append (p := isBareKeyChar) (by decide)
    intro key rest h
    rw [scanKey, if_neg hquote] at h
    cases hname : cs.takeWhile isBareKeyChar with
    | nil => simp [hname] at h
    | cons c name =>
      obtain ⟨rfl, rfl⟩ : (⟨String.ofList (c :: name), cs, cs.dropWhile isBareKeyChar⟩ : Key) = key ∧
          cs.dropWhile isBareKeyChar = rest := by simpa [hname] using h
      refine ⟨hends, fun tail => ⟨⟨String.ofList (c :: name), cs ++ tail, cs.dropWhile isBareKeyChar ++ tail⟩, ?_, rfl⟩⟩
      simp only [scanKey, hcs.head?_append, if_neg hquote, (hsame tail).1, (hsame tail).2, hname]

def SameKeys (keys keys' : List Key × Key) : Prop :=
  keys.1.map Key.name = keys'.1.map Key.name ∧ keys.2.name = keys'.2.name

theorem scanPath_succ_iff {parts : Nat} {cs rest : List Char} {keys : List Key × Key} :
    scanPath (parts + 1) cs = some (keys, rest) ↔ ∃ key after, scanKey cs = some (key, after) ∧
      ((∃ more path last, skipBlank after = '.' :: more ∧ scanPath parts (skipBlank more) = some ((path, last), rest) ∧
          keys = (key :: path, last)) ∨
        (skipBlank after).head? ≠ some '.' ∧ keys = ([], key) ∧ rest = after) := by
  rw [scanPath]
  cases hkey : scanKey cs with
  | none => simp
  | some found =>
    obtain ⟨key, after⟩ := found
    dsimp only
    split
    · next more hmore =>
      constructor
      · intro h
        obtain ⟨⟨⟨path, last⟩, after'⟩, hpath, heq⟩ := Option.map_eq_some_iff.1 h
        obtain ⟨rfl, rfl⟩ := Prod.mk.inj heq
        exact ⟨key, after, rfl, .inl ⟨more, path, last, hmore, hpath, rfl⟩⟩
      · rintro ⟨_, _, heq, ⟨more', path, last, hmore', hpath, rfl⟩ | ⟨hdot, -⟩⟩
        · cases heq
          cases hmore.symm.trans hmore'
          rw [hpath]
          rfl
        · cases heq
          rw [hmore] at hdot
          exact absurd rfl hdot
    · next hdot =>
      constructor
      · intro h
        obtain ⟨rfl, rfl⟩ := Prod.mk.inj (Option.some.inj h)
        refine ⟨key, after, rfl, .inr ⟨fun hhead => ?_, rfl, rfl⟩⟩
        obtain ⟨more, hmore⟩ := List.head?_eq_some_iff.1 hhead
        exact hdot more hmore
      · rintro ⟨_, _, heq, ⟨more, path, last, hmore, -⟩ | ⟨-, rfl, rfl⟩⟩
        · cases heq
          exact absurd hmore (hdot more)
        · cases heq
          rfl

theorem stable_scanPath (parts : Nat) : Stable (scanPath parts) SameKeys := by
  induction parts with
  | zero => exact fun cs _ => .of_none rfl
  | succ parts ih =>
    intro cs hcs keys rest h
    obtain ⟨key, after, hkey, hrest⟩ := scanPath_succ_iff.1 h
    obtain ⟨hafter, hsame⟩ := stable_scanKey cs hcs key after hkey
    have hblank := hafter.skipBlank
    rcases hrest with ⟨more, path, last, hmore, hpath, rfl⟩ | ⟨hdot, rfl, rfl⟩
    · rw [hmore] at hblank
      have hdrop := (hblank.of_ne (by decide)).skipBlank
      obtain ⟨hends, hpaths⟩ := ih _ hdrop _ rest hpath
      refine ⟨hends, fun tail => ?_⟩
      obtain ⟨key', hkey', hname⟩ := hsame tail
      obtain ⟨⟨path', last'⟩, hpath', hnames, hlast⟩ := hpaths tail
      have hkeys : SameKeys (key :: path, last) (key' :: path', last') :=
        ⟨by rw [List.map_cons, List.map_cons, hname, hnames], hlast⟩
      refine ⟨(key' :: path', last'), scanPath_succ_iff.2 ⟨key', _, hkey', .inl ⟨more ++ tail, path', last', ?_⟩⟩, hkeys⟩
      refine ⟨?_, ?_, rfl⟩
      · rw [hafter.skipBlank_append, hmore]
        rfl
      · rw [(hblank.of_ne (by decide)).skipBlank_append, hpath']
    · refine ⟨hafter, fun tail => ?_⟩
      obtain ⟨key', hkey', hname⟩ := hsame tail
      refine ⟨([], key'), scanPath_succ_iff.2 ⟨key', _, hkey', .inr ⟨?_, rfl, rfl⟩⟩, rfl, hname⟩
      rw [hafter.skipBlank_append, hblank.head?_append]
      exact hdot

/-- What is passed over before a character is passed over whatever stands behind the text. -/
def StableSkip (skip : List Char → Option (List Char)) : Prop :=
  ∀ cs rest, EndsLine cs → skip cs = some rest → rest ≠ [] →
    EndsLine rest ∧ ∀ tail, skip (cs ++ tail) = some (rest ++ tail)

theorem stableSkip_skipBlank : StableSkip fun cs => some (skipBlank cs) := by
  intro cs rest hcs h _
  obtain rfl := Option.some.inj h
  exact ⟨hcs.skipBlank, fun tail => congrArg some (hcs.skipBlank_append tail)⟩

theorem stableSkip_skipFill (inComment : Bool) : StableSkip (skipFill inComment) := by
  intro cs
  induction cs generalizing inComment with
  | nil => exact fun rest hcs => absurd rfl hcs.ne_nil
  | cons c cs ih =>
    intro rest hcs h hne
    by_cases hnil : cs = []
    · subst hnil
      obtain rfl := hcs.eq_feed
      cases h
      exact absurd rfl hne
    have hcs' := hcs.of_ne_nil hnil
    -- one character passed over: which one it is and what comes next, if that matters, is in the text itself
    have hgo {state : Bool} (hstep : ∀ cs', beforeFeed cs' = beforeFeed cs →
        skipFill inComment (c :: cs') = skipFill state cs') :
        EndsLine rest ∧ ∀ tail, skipFill inComment (c :: cs ++ tail) = some (rest ++ tail) := by
      rw [hstep cs rfl] at h
      obtain ⟨hends, hsame⟩ := ih state rest hcs' h hne
      exact ⟨hends, fun tail => (hstep _ (hcs'.beforeFeed_append tail)).trans (hsame tail)⟩
    by_cases hfeed : c = '\n'
    · exact hgo fun cs' _ => by rw [skipFill, if_pos hfeed]
    by_cases hreturn : c = '\r'
    · cases hbefore : beforeFeed cs with
      | true => exact hgo fun cs' hb => by rw [skipFill, if_neg hfeed, if_pos hreturn, hb, hbefore, if_pos rfl]
      | false => simp [skipFill, hreturn, hbefore] at h
    by_cases hcomment : inComment = true
    · cases hplain : isPlain c with
      | true =>
        exact hgo fun cs' _ => by
          rw [skipFill, if_neg hfeed, if_neg hreturn, if_pos hcomment, hplain, if_pos rfl]
      | false => simp [skipFill, hfeed, hreturn, hcomment, hplain] at h
    by_cases hhash : c = '#'
    · exact hgo fun cs' _ => by rw [skipFill, if_neg hfeed, if_neg hreturn, if_neg hcomment, if_pos hhash]
    cases hblank : isBlankOnLine c with
    | true =>
      exact hgo fun cs' _ => by
        rw [skipFill, if_neg hfeed, if_neg hreturn, if_neg hcomment, if_neg hhash, hblank, if_pos rfl]
    | false =>
      have hstop (cs' : List Char) : skipFill inComment (c :: cs') = some (c :: cs') := by
        rw [skipFill, if_neg hfeed, if_neg hreturn, if_neg hcomment, if_neg hhash, hblank, if_neg Bool.false_ne_true]
      obtain rfl := Option.some.inj ((hstop cs).symm.trans h)
      exact ⟨hcs, fun tail => hstop (cs ++ tail)⟩

theorem scanAssigned_iff {skip : List Char → Option (List Char)} {cs rest : List Char} {keys : List Key × Key} :
    scanAssigned skip cs = some (keys, rest) ↔ ∃ after more, scanPath maxDepth cs = some (keys, after) ∧
      skip after = some ('=' :: more) ∧ skip more = some rest := by
  unfold scanAssigned
  cases hpath : scanPath maxDepth cs with
  | none => simp
  | some found =>
    obtain ⟨keys', after⟩ := found
    dsimp only
    split
    · next more hmore =>
      simp only [Option.map_eq_some_iff, Prod.mk.injEq, Option.some.injEq]
      constructor
      · rintro ⟨rest', hrest, rfl, rfl⟩
        exact ⟨after, more, ⟨rfl, rfl⟩, hmore, hrest⟩
      · rintro ⟨_, more', ⟨rfl, rfl⟩, hmore', hrest⟩
        cases hmore.symm.trans hmore'
        exact ⟨rest, hrest, rfl, rfl⟩
    · next hsign =>
      simp only [reduceCtorEq, false_iff, Prod.mk.injEq, Option.some.injEq]
      rintro ⟨_, more, ⟨-, rfl⟩, hmore, -⟩
      exact hsign more hmore

theorem stable_scanAssigned {skip : List Char → Option (List Char)} (hskip : StableSkip skip) {cs rest : List Char}
    (hcs : EndsLine cs) {keys : List Key × Key} (h : scanAssigned skip cs = some (keys, rest)) (hne : rest ≠ []) :
    EndsLine rest ∧ ∀ tail, ∃ keys', scanAssigned skip (cs ++ tail) = some (keys', rest ++ tail) ∧
      SameKeys keys keys' := by
  obtain ⟨after, more, hpath, hsign, hrest⟩ := scanAssigned_iff.1 h
  obtain ⟨hafter, hpaths⟩ := stable_scanPath maxDepth cs hcs keys after hpath
  obtain ⟨hmore, hsigns⟩ := hskip after _ hafter hsign (List.cons_ne_nil _ _)
  obtain ⟨hends, hrests⟩ := hskip more rest (hmore.of_ne (by decide)) hrest hne
  refine ⟨hends, fun tail => ?_⟩
  obtain ⟨keys', hpath', hkeys⟩ := hpaths tail
  exact ⟨keys', scanAssigned_iff.2 ⟨after ++ tail, more ++ tail, hpath', hsigns tail, hrests tail⟩, hkeys⟩

theorem scanValue_other {depth : Nat} {cs : List Char}
    (h : depth = 0 ∨ cs.head? ≠ some '[' ∧ cs.head? ≠ some '\x7b') (fuel : Nat) :
    scanValue (fuel + 1) depth cs = (scanScalar cs).map fun (v, rest) => (.scalar ⟨cs, rest⟩ v, rest) := by
  rw [scanValue]
  · rintro rest level rfl rfl
    simp at h
  · rintro rest level rfl rfl
    simp at h

theorem scanValue_nil (fuel depth : Nat) : scanValue fuel depth [] = none := by
  cases fuel with
  | zero => rfl
  | succ fuel =>
    rw [scanValue_other (.inr ⟨by simp, by simp⟩)]
    rfl

/-- The scanner for what stands behind white space, by the first character there. -/
def onward {α : Type} (next : Char → List Char → Scan α) (cs : List Char) : Scan α :=
  match skipFill false cs with
  | some (c :: rest) => next c rest
  | _ => none

theorem onward_eq {α : Type} {next : Char → List Char → Scan α} {cs rest : List Char} {c : Char}
    (h : skipFill false cs = some (c :: rest)) : onward next cs = next c rest := by rw [onward, h]

theorem onward_end {α : Type} {next : Char → List Char → Scan α} {cs : List Char}
    (h : ∀ c rest, skipFill false cs ≠ some (c :: rest)) : onward next cs = none := by
  unfold onward
  split
  · next c rest hfill => exact absurd hfill (h c rest)
  · rfl

/-- What follows an item or a member: the bracket that closes, or a comma and what else there is. -/
def closing {α : Type} (close : Char) (x : α) (more : List Char → Scan α) : List Char → Scan α :=
  onward fun c rest => if c = close then some (x, rest) else if c = ',' then more rest else none

section Closing
variable {α : Type} {close : Char} {x : α} {more : List Char → Scan α} {cs rest : List Char}

theorem closing_close (h : skipFill false cs = some (close :: rest)) : closing close x more cs = some (x, rest) := by
  rw [closing, onward_eq h, if_pos rfl]

theorem closing_comma (h : skipFill false cs = some (',' :: rest)) (hclose : close ≠ ',') :
    closing close x more cs = more rest := by
  rw [closing, onward_eq h, if_neg (Ne.symm hclose), if_pos rfl]

theorem closing_other (hclose : ∀ rest, skipFill false cs ≠ some (close :: rest))
    (hcomma : ∀ rest, skipFill false cs ≠ some (',' :: rest)) : closing close x more cs = none := by
  unfold closing onward
  split
  · next c rest hfill =>
    dsimp only
    rw [if_neg (by rintro rfl; exact hclose rest hfill), if_neg (by rintro rfl; exact hcomma rest hfill)]
  · rfl

end Closing

def afterItem (fuel depth : Nat) (item : Item) : List Char → Scan (List Item) :=
  closing ']' [item] fun more => (scanItems fuel depth more).map fun (items, rest) => (item :: items, rest)

theorem scanItems_succ (fuel depth : Nat) (cs : List Char) :
    scanItems (fuel + 1) depth cs = onward (fun c rest =>
      if c = ']' then some ([], rest)
      else (scanValue fuel depth (c :: rest)).bind fun found => afterItem fuel depth found.1 found.2) cs := by
  rw [scanItems]
  split
  · next hfill => rw [onward_end (by simp [hfill])]
  · next rest hfill => rw [onward_eq hfill, if_pos rfl]
  · next inner hclose hfill =>
    cases inner with
    | nil => rw [scanValue_nil, onward_end (by simp [hfill])]
    | cons c rest =>
      rw [onward_eq hfill, if_neg (by rintro rfl; exact hclose rest rfl)]
      cases scanValue fuel depth (c :: rest) with
      | none => rfl
      | some found =>
        dsimp only
        rw [Option.bind_some, afterItem]
        split
        · next hfill => rw [closing_close hfill]
        · next hfill => rw [closing_comma hfill (by decide)]
        · next hclose hcomma => rw [closing_other hclose hcomma]

def scanMember (skip : List Char → Option (List Char)) (fuel depth : Nat) (cs : List Char) :
    Scan ((List Key × Key) × Item) :=
  (scanAssigned skip cs).bind fun (keys, after) =>
    (scanValue fuel depth after).map fun (item, rest) => ((keys, item), rest)

def afterMember (fuel depth : Nat) (start : List Char) (before : Members) (member : (List Key × Key) × Item)
    (after : List Char) : Scan Members :=
  (assign member.1.1 member.1.2 member.2 (.braces ⟨start, after⟩) before).bind fun members =>
    closing '\x7d' members (scanMembers fuel depth start members) after

theorem scanMembers_succ (fuel depth : Nat) (start : List Char) (before : Members) (cs : List Char) :
    scanMembers (fuel + 1) depth start before cs = onward (fun c rest =>
      if c = '\x7d' then some (before, rest)
      else (scanMember (skipFill false) fuel depth (c :: rest)).bind fun found =>
        afterMember fuel depth start before found.1 found.2) cs := by
  rw [scanMembers]
  split
  · next hfill => rw [onward_end (by simp [hfill])]
  · next rest hfill => rw [onward_eq hfill, if_pos rfl]
  · next inner hclose hfill =>
    cases inner with
    | nil =>
      rw [onward_end (by simp [hfill])]
      rfl
    | cons c rest =>
      rw [onward_eq hfill, if_neg (by rintro rfl; exact hclose rest rfl), scanMember]
      cases scanAssigned (skipFill false) (c :: rest) with
      | none => rfl
      | some found =>
        obtain ⟨⟨path, key⟩, value⟩ := found
        rw [Option.bind_some]
        dsimp only
        cases scanValue fuel depth value with
        | none => rfl
        | some found =>
          obtain ⟨item, after⟩ := found
          rw [Option.map_some, Option.bind_some, afterMember]
          dsimp only
          cases assign path key item (.braces ⟨start, after⟩) before with
          | none => rfl
          | some members =>
            rw [Option.bind_some]
            split
            · next heq hfill =>
              obtain rfl := Option.some.inj heq
              rw [closing_close hfill]
            · next heq hfill =>
              obtain rfl := Option.some.inj heq
              rw [closing_comma hfill (by decide)]
            · next hclose hcomma =>
              rw [closing_other (fun rest => hclose members rest rfl) fun rest => hcomma members rest rfl]

/-- What may stand behind a text: nothing, or anything behind the end of a line. -/
def Joins (cs tail : List Char) : Prop := tail = [] ∨ EndsLine cs

section Joins
variable {α : Type} {c : Char} {cs tail : List Char}

theorem Joins.of_ne (h : Joins (c :: cs) tail) (hc : c ≠ '\n') : Joins cs tail :=
  h.imp_right fun hends => hends.of_ne hc

theorem Joins.head?_append (h : Joins cs tail) : (cs ++ tail).head? = cs.head? := by
  rcases h with rfl | h
  · rw [List.append_nil]
  · exact h.head?_append tail

/-- What `f` reads of a text, `g` reads of the text with more behind it, up to `like`. -/
def Carries (f g : List Char → Scan α) (cs tail : List Char) (like : α → α → Prop) : Prop :=
  ∀ x rest, f cs = some (x, rest) → Joins rest tail ∧ ∃ x', g (cs ++ tail) = some (x', rest ++ tail) ∧ like x x'

theorem Stable.carries {f : List Char → Scan α} {like : α → α → Prop} (hf : Stable f like) (hrefl : ∀ x, like x x)
    (h : Joins cs tail) : Carries f f cs tail like := by
  intro x rest hscan
  rcases h with rfl | h
  · refine ⟨.inl rfl, x, ?_, hrefl x⟩
    rw [List.append_nil, List.append_nil, hscan]
  · obtain ⟨hends, hsame⟩ := hf cs h x rest hscan
    exact ⟨.inr hends, hsame tail⟩

theorem StableSkip.joins {skip : List Char → Option (List Char)} (hskip : StableSkip skip) (h : Joins cs tail)
    {rest : List Char} (hrest : skip cs = some rest) (hne : rest ≠ []) :
    Joins rest tail ∧ skip (cs ++ tail) = some (rest ++ tail) := by
  rcases h with rfl | h
  · refine ⟨.inl rfl, ?_⟩
    rw [List.append_nil, List.append_nil, hrest]
  · obtain ⟨hends, hsame⟩ := hskip cs rest h hrest hne
    exact ⟨.inr hends, hsame tail⟩

theorem StableSkip.assigned {skip : List Char → Option (List Char)} (hskip : StableSkip skip) (h : Joins cs tail)
    {keys : List Key × Key} {rest : List Char} (hscan : scanAssigned skip cs = some (keys, rest)) (hne : rest ≠ []) :
    Joins rest tail ∧ ∃ keys', scanAssigned skip (cs ++ tail) = some (keys', rest ++ tail) ∧ SameKeys keys keys' := by
  rcases h with rfl | h
  · refine ⟨.inl rfl, keys, ?_, rfl, rfl⟩
    rw [List.append_nil, List.append_nil, hscan]
  · obtain ⟨hends, hsame⟩ := stable_scanAssigned hskip h hscan hne
    exact ⟨.inr hends, hsame tail⟩

end Joins

namespace Carries
variable {α β : Type} {cs tail : List Char} {like : α → α → Prop} {like' : β → β → Prop} {f g : List Char → Scan α}

theorem done (hcs : Joins cs tail) {x x' : α} (hx : like x x') :
    Carries (fun rest => some (x, rest)) (fun rest => some (x', rest)) cs tail like := by
  intro y rest hscan
  obtain ⟨rfl, rfl⟩ := Prod.mk.inj (Option.some.inj hscan)
  exact ⟨hcs, x', rfl, hx⟩

theorem never : Carries (fun _ => none) g cs tail like := by
  intro x rest hscan
  cases hscan

theorem choose {c : Prop} [Decidable c] {f' g' : List Char → Scan α} (hpos : c → Carries f g cs tail like)
    (hneg : ¬ c → Carries f' g' cs tail like) :
    Carries (fun cs => if c then f cs else f' cs) (fun cs => if c then g cs else g' cs) cs tail like := by
  by_cases hc : c
  · simpa only [if_pos hc] using hpos hc
  · simpa only [if_neg hc] using hneg hc

theorem map (h : Carries f g cs tail like) {into into' : α → β}
    (hinto : ∀ {x x'}, like x x' → like' (into x) (into' x')) :
    Carries (fun cs => (f cs).map fun (x, rest) => (into x, rest))
      (fun cs => (g cs).map fun (x, rest) => (into' x, rest)) cs tail like' := by
  intro y rest hscan
  obtain ⟨⟨x, after⟩, hx, heq⟩ := Option.map_eq_some_iff.1 hscan
  obtain ⟨rfl, rfl⟩ := Prod.mk.inj heq
  obtain ⟨hends, x', hx', hlike⟩ := h x after hx
  exact ⟨hends, into' x', by dsimp only; rw [hx']; rfl, hinto hlike⟩

theorem andThen (h : Carries f g cs tail like) (next next' : α → List Char → Scan β)
    (hnext : ∀ x x' rest, like x x' → Joins rest tail → Carries (next x) (next' x') rest tail like') :
    Carries (fun cs => (f cs).bind fun found => next found.1 found.2)
      (fun cs => (g cs).bind fun found => next' found.1 found.2) cs tail like' := by
  intro y rest hscan
  obtain ⟨⟨x, after⟩, hx, hscan⟩ := Option.bind_eq_some_iff.1 hscan
  obtain ⟨hafter, x', hx', hlike⟩ := h x after hx
  obtain ⟨hends, y', hy', hlike'⟩ := hnext x x' after hlike hafter y rest hscan
  exact ⟨hends, y', Option.bind_eq_some_iff.2 ⟨_, hx', hy'⟩, hlike'⟩

theorem onward (hcs : Joins cs tail) {next next' : Char → List Char → Scan α}
    (h : ∀ c rest, Joins (c :: rest) tail → Carries (next c) (next' c) rest tail like) :
    Carries (onward next) (onward next') cs tail like := by
  intro x rest hscan
  cases hfill : skipFill false cs with
  | none =>
    rw [onward_end (by simp [hfill])] at hscan
    cases hscan
  | some inner =>
    cases inner with
    | nil =>
      rw [onward_end (by simp [hfill])] at hscan
      cases hscan
    | cons c inner =>
      obtain ⟨hinner, hfills⟩ := (stableSkip_skipFill false).joins hcs hfill (List.cons_ne_nil _ _)
      rw [onward_eq hfill] at hscan
      rw [onward_eq hfills]
      exact h c inner hinner x rest hscan

theorem closing (hcs : Joins cs tail) {close : Char} (hclose : close ≠ '\n') {x x' : α} (hx : like x x')
    {more more' : List Char → Scan α} (h : ∀ rest, Joins rest tail → Carries more more' rest tail like) :
    Carries (closing close x more) (closing close x' more') cs tail like := by
  refine .onward hcs fun c rest hrest => .choose (fun hc => .done (hrest.of_ne (hc ▸ hclose)) hx) fun _ => ?_
  exact .choose (fun hcomma => h rest (hrest.of_ne (hcomma ▸ by decide))) fun _ => .never

end Carries

def SameShape (item item' : Item) : Prop := item.shape = item'.shape

def SameShapes (members members' : Members) : Prop := shapes members = shapes members'

def SameMember (member member' : (List Key × Key) × Item) : Prop :=
  SameKeys member.1 member'.1 ∧ SameShape member.2 member'.2

/-- With some fuel values, lists and members are read alike with more fuel and more text. -/
structure StableValues (fuel : Nat) : Prop where
  value : ∀ {more : Nat}, fuel ≤ more → ∀ depth {cs tail}, Joins cs tail →
    Carries (scanValue fuel depth) (scanValue more depth) cs tail SameShape
  items : ∀ {more : Nat}, fuel ≤ more → ∀ depth {cs tail}, Joins cs tail →
    Carries (scanItems fuel depth) (scanItems more depth) cs tail fun _ _ => True
  members : ∀ {more : Nat}, fuel ≤ more → ∀ depth {cs tail}, Joins cs tail → ∀ start start' {before before'},
    SameShapes before before' →
    Carries (scanMembers fuel depth start before) (scanMembers more depth start' before') cs tail SameShapes

theorem assign_same {member member' : (List Key × Key) × Item} (hmember : SameMember member member')
    (origin origin' : Origin) (horigin : origin.kind = origin'.kind) {before before' members : Members}
    (hbefore : SameShapes before before') (h : assign member.1.1 member.1.2 member.2 origin before = some members) :
    ∃ members', assign member'.1.1 member'.1.2 member'.2 origin' before' = some members' ∧
      SameShapes members members' := by
  obtain ⟨⟨hpath, hkey⟩, hitem⟩ := hmember
  have hsame := assign_congr hpath hkey hitem origin origin' before before' horigin hbefore
  rw [h] at hsame
  obtain ⟨members', hmembers', hshapes⟩ := Option.map_eq_some_iff.1 hsame.symm
  exact ⟨members', hmembers', hshapes.symm⟩

section StableValues
variable {fuel more : Nat} {cs tail : List Char}

/-- More fuel changes nothing about a member that was read. -/
theorem StableValues.member (h : StableValues fuel) (hmore : fuel ≤ more) {skip : List Char → Option (List Char)}
    (hskip : StableSkip skip) (depth : Nat) (hcs : Joins cs tail) :
    Carries (scanMember skip fuel depth) (scanMember skip more depth) cs tail SameMember := by
  intro member rest hscan
  obtain ⟨⟨keys, value⟩, hkeys, hscan⟩ := Option.bind_eq_some_iff.1 hscan
  obtain ⟨⟨item, after⟩, hvalue, heq⟩ := Option.map_eq_some_iff.1 hscan
  obtain ⟨rfl, rfl⟩ := Prod.mk.inj heq
  have hne : value ≠ [] := by
    rintro rfl
    rw [scanValue_nil] at hvalue
    cases hvalue
  obtain ⟨hvalues, keys', hkeys', hnames⟩ := hskip.assigned hcs hkeys hne
  obtain ⟨hends, item', hitem', hshape⟩ := h.value hmore depth hvalues item after hvalue
  refine ⟨hends, (keys', item'), ?_, hnames, hshape⟩
  rw [scanMember, hkeys', Option.bind_some]
  dsimp only
  rw [hitem', Option.map_some]

theorem stableValues_items (h : StableValues fuel) (hmore : fuel ≤ more) (depth : Nat) (hcs : Joins cs tail) :
    Carries (scanItems (fuel + 1) depth) (scanItems (more + 1) depth) cs tail fun _ _ => True := by
  have heq (fuel : Nat) : scanItems (fuel + 1) depth = _ := funext fun cs => scanItems_succ fuel depth cs
  rw [heq, heq]
  refine .onward hcs fun c inner hinner => .choose (fun hc => .done (hinner.of_ne (hc ▸ by decide)) trivial) fun _ => ?_
  have hvalue : Carries (fun inner => scanValue fuel depth (c :: inner))
      (fun inner => scanValue more depth (c :: inner)) inner tail SameShape := h.value hmore depth hinner
  refine hvalue.andThen (afterItem fuel depth) (afterItem more depth) fun item item' after _ hafter => ?_
  exact .closing hafter (by decide) trivial fun rest hrest => (h.items hmore depth hrest).map fun _ => trivial

theorem carries_afterMember (h : StableValues fuel) (hmore : fuel ≤ more) (depth : Nat) (start start' : List Char)
    {before before' : Members} (hbefore : SameShapes before before') {member member' : (List Key × Key) × Item}
    (hmember : SameMember member member') {after : List Char} (hafter : Joins after tail) :
    Carries (afterMember fuel depth start before member) (afterMember more depth start' before' member') after tail
      SameShapes := by
  intro result rest hscan
  obtain ⟨members, hadd, hscan⟩ := Option.bind_eq_some_iff.1 hscan
  obtain ⟨members', hadd', hsame⟩ :=
    assign_same hmember (.braces ⟨start, after⟩) (.braces ⟨start', after ++ tail⟩) rfl hbefore hadd
  rw [afterMember, hadd', Option.bind_some]
  exact Carries.closing hafter (by decide) hsame (fun rest hrest => h.members hmore depth hrest start start' hsame)
    result rest hscan

theorem stableValues_members (h : StableValues fuel) (hmore : fuel ≤ more) (depth : Nat) (hcs : Joins cs tail)
    (start start' : List Char) {before before' : Members} (hbefore : SameShapes before before') :
    Carries (scanMembers (fuel + 1) depth start before) (scanMembers (more + 1) depth start' before') cs tail
      SameShapes := by
  have heq (fuel : Nat) (start : List Char) (before : Members) : scanMembers (fuel + 1) depth start before = _ :=
    funext fun cs => scanMembers_succ fuel depth start before cs
  rw [heq, heq]
  refine .onward hcs fun c inner hinner => .choose (fun hc => .done (hinner.of_ne (hc ▸ by decide)) hbefore) fun _ => ?_
  have hmember : Carries (fun inner => scanMember (skipFill false) fuel depth (c :: inner))
      (fun inner => scanMember (skipFill false) more depth (c :: inner)) inner tail SameMember :=
    h.member hmore (stableSkip_skipFill false) depth hinner
  exact hmember.andThen (afterMember fuel depth start before) (afterMember more depth start' before')
    fun _ _ _ hlike hafter => carries_afterMember h hmore depth start start' hbefore hlike hafter

theorem stableValues_value (h : StableValues fuel) (hmore : fuel ≤ more) (depth : Nat) (hcs : Joins cs tail) :
    Carries (scanValue (fuel + 1) depth) (scanValue (more + 1) depth) cs tail SameShape := by
  -- brackets and braces count only while there is depth left, otherwise they are tried as scalars
  by_cases hlist : depth ≠ 0 ∧ cs.head? = some '['
  · obtain ⟨hdepth, hhead⟩ := hlist
    obtain ⟨level, rfl⟩ := Nat.exists_eq_succ_of_ne_zero hdepth
    obtain ⟨inner, rfl⟩ := List.head?_eq_some_iff.1 hhead
    intro item rest hscan
    rw [scanValue] at hscan
    obtain ⟨⟨items, after⟩, hfound, heq⟩ := Option.map_eq_some_iff.1 hscan
    obtain ⟨rfl, rfl⟩ := Prod.mk.inj heq
    obtain ⟨hends, items', hitems', -⟩ := h.items hmore level (hcs.of_ne (by decide)) items after hfound
    refine ⟨hends, .list ⟨'[' :: inner ++ tail, after ++ tail⟩ items', ?_, rfl⟩
    rw [List.cons_append, scanValue, hitems', Option.map_some]
  by_cases htable : depth ≠ 0 ∧ cs.head? = some '\x7b'
  · obtain ⟨hdepth, hhead⟩ := htable
    obtain ⟨level, rfl⟩ := Nat.exists_eq_succ_of_ne_zero hdepth
    obtain ⟨inner, rfl⟩ := List.head?_eq_some_iff.1 hhead
    intro item rest hscan
    rw [scanValue] at hscan
    obtain ⟨⟨members, after⟩, hfound, heq⟩ := Option.map_eq_some_iff.1 hscan
    obtain ⟨rfl, rfl⟩ := Prod.mk.inj heq
    have hempty : SameShapes [] [] := rfl
    have hmembers := h.members hmore level (hcs.of_ne (by decide)) ('\x7b' :: inner) ('\x7b' :: inner ++ tail) hempty
    obtain ⟨hends, members', hmembers', hsame⟩ := hmembers members after hfound
    refine ⟨hends, .table (.braces ⟨'\x7b' :: inner ++ tail, after ++ tail⟩) members', ?_, ?_⟩
    · rw [List.cons_append, scanValue, ← List.cons_append, hmembers', Option.map_some]
    · rw [SameShape, Item.shape, Item.shape, hsame]
      rfl
  · have hscalar : depth = 0 ∨ cs.head? ≠ some '[' ∧ cs.head? ≠ some '\x7b' := by
      by_cases hdepth : depth = 0
      · exact .inl hdepth
      · exact .inr ⟨fun hhead => hlist ⟨hdepth, hhead⟩, fun hhead => htable ⟨hdepth, hhead⟩⟩
    intro item rest hscan
    rw [scanValue_other hscalar] at hscan
    obtain ⟨⟨v, after⟩, hfound, heq⟩ := Option.map_eq_some_iff.1 hscan
    obtain ⟨rfl, rfl⟩ := Prod.mk.inj heq
    obtain ⟨hends, _, hv, rfl⟩ := stable_scanScalar.carries (fun _ => rfl) hcs v after hfound
    refine ⟨hends, .scalar ⟨cs ++ tail, after ++ tail⟩ v, ?_, rfl⟩
    rw [scanValue_other (by rwa [hcs.head?_append]), hv, Option.map_some]

end StableValues

theorem stableValues (fuel : Nat) : StableValues fuel := by
  induction fuel with
  | zero =>
    exact {
      value := fun _ depth _ _ _ item rest hscan => by rw [scanValue] at hscan; cases hscan
      items := fun _ depth _ _ _ items rest hscan => by rw [scanItems] at hscan; cases hscan
      members := fun _ depth _ _ _ start start' _ _ _ members rest hscan => by rw [scanMembers] at hscan; cases hscan }
  | succ fuel ih =>
    have hpred {more : Nat} (hmore : fuel + 1 ≤ more) : ∃ less, more = less + 1 ∧ fuel ≤ less :=
      ⟨more - 1, by omega, by omega⟩
    exact {
      value := by
        intro more hmore depth cs tail hcs
        obtain ⟨less, rfl, hless⟩ := hpred hmore
        exact stableValues_value ih hless depth hcs
      items := by
        intro more hmore depth cs tail hcs
        obtain ⟨less, rfl, hless⟩ := hpred hmore
        exact stableValues_items ih hless depth hcs
      members := by
        intro more hmore depth cs tail hcs start start' before before' hbefore
        obtain ⟨less, rfl, hless⟩ := hpred hmore
        exact stableValues_members ih hless depth hcs start start' hbefore }

end PassDelta.Toml
