import Mathlib.Data.List.TakeWhile
import Mathlib.Logic.Relation
import PassDelta.Proofs.Components
/-!
# Spellings of paths

Two paths are the same if and only if dropping idle slashes and dots makes one spelling of both. Such spellings share
their artifacts. The stem is read off the bytes from behind: what precedes the last name does not matter, and the idle
bytes after it do not either.
-/

namespace PassDelta.Path

open Relation

/-- Bytes are dropped that say nothing: one of two slashes, the last slash unless it is alone, a dot between slashes and
a dot behind the last one. -/
inductive Drops : Bytes → Bytes → Prop
  | repeated (front back : Bytes) : Drops (front ++ slash :: slash :: back) (front ++ slash :: back)
  | trailing {front : Bytes} (hfront : front ≠ []) : Drops (front ++ [slash]) front
  | dotBetween (front back : Bytes) : Drops (front ++ slash :: dot :: slash :: back) (front ++ slash :: back)
  | dotBehind (front : Bytes) : Drops (front ++ [slash, dot]) (front ++ [slash])

abbrev Respelled : Bytes → Bytes → Prop := ReflTransGen Drops

theorem segments_cons_slash (bytes : Bytes) : (Path.mk (slash :: bytes)).segments = [] :: (Path.mk bytes).segments :=
  List.splitOn_append_cons_self [] bytes

theorem segments_dot_slash (bytes : Bytes) :
    (Path.mk (dot :: slash :: bytes)).segments = [dot] :: (Path.mk bytes).segments :=
  List.splitOn_append_cons_self [dot] bytes

theorem Drops.components_eq {a b : Bytes} (h : Drops a b) : (Path.mk a).components = (Path.mk b).components := by
  cases h with
  | repeated front back =>
    obtain ⟨before, hbefore⟩ := components_append front
    rw [hbefore, hbefore, segments_cons_slash]
    rfl
  | trailing hfront => exact components_trailing ⟨b⟩ hfront
  | dotBetween front back =>
    obtain ⟨before, hbefore⟩ := components_append front
    rw [hbefore, hbefore, segments_dot_slash]
    rfl
  | dotBehind front =>
    obtain ⟨before, hbefore⟩ := components_append front
    rw [hbefore, hbefore]
    rfl

theorem components_respelled {a b : Bytes} (h : Respelled a b) :
    (Path.mk a).components = (Path.mk b).components := by
  induction h with
  | refl => rfl
  | tail _ hdrop ih => exact ih.trans hdrop.components_eq

def joined (segments : List Bytes) : Bytes := segments.flatMap (slash :: ·)

theorem intercalate_cons (first : Bytes) (rest : List Bytes) :
    [slash].intercalate (first :: rest) = first ++ joined rest := by
  induction rest generalizing first with
  | nil => simp [joined]
  | cons next rest ih => rw [List.intercalate_cons_cons, ih, joined, joined, List.flatMap_cons]; simp

theorem exists_segments (p : Path) : ∃ first rest, p.segments = first :: rest :=
  List.exists_cons_of_ne_nil (List.splitOn_ne_nil slash p.bytes)

theorem bytes_eq (p : Path) : p.bytes = [slash].intercalate p.segments := (List.intercalate_splitOn slash).symm

def named (segments : List Bytes) : List Bytes := segments.filter fun s => (componentOf s).isSome

theorem map_bytes_filterMap (segments : List Bytes) :
    (segments.filterMap componentOf).map Component.bytes = named segments := by
  induction segments with
  | nil => rfl
  | cons s rest ih =>
    cases hs : componentOf s with
    | none => simpa [named, hs] using ih
    | some c => simpa [named, hs, bytes_of_componentOf hs] using ih

theorem componentOf_eq_none {s : Bytes} : componentOf s = none ↔ s = [] ∨ s = [dot] := by
  unfold componentOf
  split_ifs with h₁ h₂ h₃ <;> simp [*]

/-- A segment that names nothing is dropped when another one follows. -/
theorem drops_idle {s : Bytes} (hs : componentOf s = none) (front next : Bytes) (rest : List Bytes) :
    Drops (front ++ joined (s :: next :: rest)) (front ++ joined (next :: rest)) := by
  rcases componentOf_eq_none.mp hs with rfl | rfl
  · exact .repeated front _
  · exact .dotBetween front _

/-- Behind anything, segments that name nothing can be dropped. -/
theorem respelled_joined {front : Bytes} (hfront : front ≠ []) (segments : List Bytes) :
    Respelled (front ++ joined segments) (front ++ joined (named segments)) := by
  induction segments generalizing front with
  | nil => exact .refl
  | cons s rest ih =>
    cases hs : componentOf s with
    | none =>
      have hnamed : named (s :: rest) = named rest := by simp [named, hs]
      rw [hnamed]
      cases rest with
      | cons next rest => exact .head (drops_idle hs front next rest) (ih hfront)
      | nil =>
        have hempty : front ++ joined (named []) = front := List.append_nil front
        rw [hempty]
        rcases componentOf_eq_none.mp hs with rfl | rfl
        · exact .single (.trailing hfront)
        · exact .head (.dotBehind front) (.single (.trailing hfront))
    | some c =>
      have hnamed : named (s :: rest) = s :: named rest := by simp [named, hs]
      have hjoined (more : List Bytes) : front ++ joined (s :: more) = front ++ slash :: s ++ joined more := by
        simp [joined]
      rw [hnamed, hjoined, hjoined]
      exact ih (by simp)

theorem respelled_root {segments : List Bytes} (hne : segments ≠ []) :
    Respelled (joined segments) (ofComponents (.root :: segments.filterMap componentOf)).bytes := by
  induction segments with
  | nil => exact absurd rfl hne
  | cons s rest ih =>
    cases hs : componentOf s with
    | none =>
      rw [List.filterMap_cons_none hs]
      cases rest with
      | cons next rest => exact .head (drops_idle hs [] next rest) (ih (by simp))
      | nil =>
        rcases componentOf_eq_none.mp hs with rfl | rfl
        · exact .refl
        · exact .single (.dotBehind [])
    | some c =>
      have hplain : (ofComponents (.root :: c :: rest.filterMap componentOf)).bytes =
          slash :: s ++ joined (named rest) := by
        change [slash].intercalate ([] :: Component.bytes c :: (rest.filterMap componentOf).map Component.bytes) = _
        rw [intercalate_cons, bytes_of_componentOf hs, map_bytes_filterMap]
        rfl
      rw [List.filterMap_cons_some hs, hplain]
      exact respelled_joined (by simp) rest

theorem components_absolute {p : Path} (h : p.isAbsolute = true) :
    p.components = .root :: p.segments.filterMap componentOf := by
  unfold components
  rw [if_pos h]

/-- The first segment of a relative path counts if it is not empty, be it a leading dot or a name. -/
theorem components_relative {p : Path} {first : Bytes} {rest : List Bytes} (h : p.isAbsolute = false)
    (hsegments : p.segments = first :: rest) (hne : first ≠ []) :
    ∃ c, Component.bytes c = first ∧ c ≠ .root ∧ p.components = c :: rest.filterMap componentOf := by
  unfold components
  rw [h, if_neg Bool.false_ne_true, hsegments, List.head?_cons]
  by_cases hdot : first = [dot]
  · subst hdot
    exact ⟨.here, rfl, by simp, by simp [componentOf]⟩
  · cases hfirst : componentOf first with
    | none => rcases componentOf_eq_none.mp hfirst with hempty | hempty <;> contradiction
    | some c =>
      refine ⟨c, bytes_of_componentOf hfirst, ?_, by simp [hdot, hfirst]⟩
      rintro rfl
      exact hne (bytes_of_componentOf hfirst).symm

theorem bytes_ofComponents {c : Component} (hroot : c ≠ .root) (segments : List Bytes) :
    (ofComponents (c :: segments.filterMap componentOf)).bytes = Component.bytes c ++ joined (named segments) := by
  have hne : c :: segments.filterMap componentOf ≠ [.root] := fun h => hroot (List.cons.inj h).1
  rw [ofComponents]
  · rw [List.map_cons, intercalate_cons, map_bytes_filterMap]
  · exact hne

/-- Dropping all idle bytes leaves the plain spelling of the components. -/
theorem respelled_plain (p : Path) : Respelled p.bytes (ofComponents p.components).bytes := by
  obtain ⟨first, rest, hsegments⟩ := p.exists_segments
  have hbytes : p.bytes = first ++ joined rest := by rw [bytes_eq, hsegments, intercalate_cons]
  cases habsolute : p.isAbsolute with
  | true =>
    obtain ⟨next, more, hroot⟩ := (isAbsolute_iff p).mp habsolute
    obtain ⟨rfl, rfl⟩ := List.cons.inj (hsegments.symm.trans hroot)
    rw [hbytes, components_absolute habsolute, hsegments]
    exact respelled_root (List.cons_ne_nil next more)
  | false =>
    by_cases hne : first = []
    · subst hne
      cases rest with
      | nil =>
        have hempty : p = ⟨[]⟩ := congrArg Path.mk hbytes
        rw [hempty]
        exact .refl
      | cons next more =>
        have hroot := (isAbsolute_iff p).mpr ⟨next, more, hsegments⟩
        rw [habsolute] at hroot
        cases hroot
    · obtain ⟨c, hc, hroot, hcomponents⟩ := components_relative habsolute hsegments hne
      rw [hbytes, hcomponents, bytes_ofComponents hroot, hc]
      exact respelled_joined hne rest

theorem same_iff_respelled {p q : Path} :
    p.same q = true ↔ ∃ spelling, Respelled p.bytes spelling ∧ Respelled q.bytes spelling := by
  constructor
  · intro h
    refine ⟨_, p.respelled_plain, ?_⟩
    rw [of_decide_eq_true h]
    exact q.respelled_plain
  · rintro ⟨spelling, hp, hq⟩
    exact decide_eq_true ((components_respelled hp).trans (components_respelled hq).symm)

/-- Bytes behind a name that say nothing: slashes, and dots behind slashes. -/
inductive Idle : Bytes → Prop
  | nil : Idle []
  | slash {rest : Bytes} (hrest : Idle rest) : Idle (slash :: rest)
  | dot {rest : Bytes} (hrest : Idle rest) : Idle (slash :: dot :: rest)

/-- Bytes with no slash in them that stand for a name. -/
structure IsName (name : Bytes) : Prop where
  ne_nil : name ≠ []
  ne_dot : name ≠ [dot]
  ne_up : name ≠ [dot, dot]
  slash_not_mem : slash ∉ name

/-- How a path ends, read off its bytes from behind: in a name, or in none. -/
inductive EndsIn : Bytes → Option Bytes → Prop
  | name {front name behind : Bytes} (hfront : ∀ b ∈ front.getLast?, b = slash) (hname : IsName name)
      (hbehind : Idle behind) : EndsIn (front ++ name ++ behind) (some name)
  | up {front behind : Bytes} (hfront : ∀ b ∈ front.getLast?, b = slash) (hbehind : Idle behind) :
      EndsIn (front ++ [dot, dot] ++ behind) none
  | here {behind : Bytes} (hbehind : Idle behind) : EndsIn (dot :: behind) none
  | bare {bytes : Bytes} (hidle : Idle bytes) : EndsIn bytes none

theorem Idle.exists_joined {behind : Bytes} (h : Idle behind) :
    ∃ segments, behind = joined segments ∧ named segments = [] := by
  induction h with
  | nil => exact ⟨[], rfl, rfl⟩
  | slash _ ih =>
    obtain ⟨segments, rfl, hnone⟩ := ih
    exact ⟨[] :: segments, rfl, hnone⟩
  | dot _ ih =>
    obtain ⟨segments, rfl, hnone⟩ := ih
    exact ⟨[Path.dot] :: segments, rfl, hnone⟩

theorem Idle.components_append {behind : Bytes} (h : Idle behind) {front : Bytes} (hfront : front ≠ []) :
    (Path.mk (front ++ behind)).components = (Path.mk front).components := by
  obtain ⟨segments, rfl, hnone⟩ := h.exists_joined
  have hrespelled := respelled_joined hfront segments
  have hempty : front ++ joined [] = front := List.append_nil front
  rw [hnone, hempty] at hrespelled
  exact components_respelled hrespelled

theorem Idle.components_eq {bytes : Bytes} (h : Idle bytes) :
    (Path.mk bytes).components = [] ∨ (Path.mk bytes).components = [.root] := by
  cases h with
  | nil => exact .inl rfl
  | slash hrest => exact .inr (hrest.components_append (List.cons_ne_nil Path.slash []))
  | dot hrest => exact .inr (hrest.components_append (List.cons_ne_nil Path.slash [Path.dot]))

/-- A segment that names a component is the last one behind nothing or a slash. -/
theorem getLast?_components {front segment : Bytes} {c : Component} (hfront : ∀ b ∈ front.getLast?, b = slash)
    (hslash : slash ∉ segment) (hc : componentOf segment = some c) :
    (Path.mk (front ++ segment)).components.getLast? = some c := by
  have hsegments : (Path.mk segment).segments = [segment] := segments_name hslash
  have hinner : (Path.mk segment).segments.filterMap componentOf = [c] := by simp [hsegments, hc]
  rcases List.eq_nil_or_concat front with rfl | ⟨r, b, rfl⟩
  · have habsolute : (Path.mk segment).isAbsolute = false := isAbsolute_name hslash
    have hdot : segment ≠ [dot] := by
      rintro rfl
      simp [componentOf] at hc
    rw [List.nil_append]
    unfold components
    rw [habsolute, hinner, hsegments]
    simp [hdot]
  · obtain rfl : b = slash := hfront b (by simp)
    obtain ⟨before, hbefore⟩ := components_append r
    rw [List.concat_eq_append, List.append_assoc, List.singleton_append, hbefore, hinner, List.getLast?_concat]

theorem IsName.componentOf_eq {name : Bytes} (h : IsName name) : componentOf name = some (.name name) := by
  rw [componentOf, if_neg h.ne_nil, if_neg h.ne_dot, if_neg h.ne_up]

theorem EndsIn.fileName_eq {bytes : Bytes} {last : Option Bytes} (h : EndsIn bytes last) :
    (Path.mk bytes).fileName = last := by
  unfold fileName
  cases h with
  | @name front name behind hfront hname hbehind =>
    rw [hbehind.components_append (by simp [hname.ne_nil]),
      getLast?_components hfront hname.slash_not_mem hname.componentOf_eq]
  | up hfront hbehind =>
    rw [hbehind.components_append (by simp), getLast?_components hfront (by decide) rfl]
  | here hbehind =>
    rw [← List.singleton_append, hbehind.components_append (by simp)]
    rfl
  | bare hidle => rcases hidle.components_eq with h | h <;> rw [h] <;> rfl

theorem idle_joined {segments : List Bytes} (h : ∀ s ∈ segments, componentOf s = none) : Idle (joined segments) := by
  induction segments with
  | nil => exact .nil
  | cons s rest ih =>
    have hrest := ih fun t ht => h t (List.mem_cons_of_mem s ht)
    rcases componentOf_eq_none.mp (h s List.mem_cons_self) with rfl | rfl
    · exact .slash hrest
    · exact .dot hrest

/-- A list of segments names nothing, or there is a last one in it that does. -/
theorem last_named (segments : List Bytes) : (∀ s ∈ segments, componentOf s = none) ∨
    ∃ before s after, segments = before ++ s :: after ∧ componentOf s ≠ none ∧ ∀ t ∈ after, componentOf t = none := by
  induction segments with
  | nil => exact .inl (by simp)
  | cons first rest ih =>
    rcases ih with hrest | ⟨before, s, after, rfl, hs, hafter⟩
    · by_cases hfirst : componentOf first = none
      · exact .inl (List.forall_mem_cons.mpr ⟨hfirst, hrest⟩)
      · exact .inr ⟨[], first, rest, rfl, hfirst, hrest⟩
    · exact .inr ⟨first :: before, s, after, rfl, hs, hafter⟩

/-- In front of a segment stands nothing, or bytes that end in a slash. -/
theorem intercalate_append (before : List Bytes) (s : Bytes) (after : List Bytes) :
    ∃ front : Bytes, (∀ b ∈ front.getLast?, b = slash) ∧
      [slash].intercalate (before ++ s :: after) = front ++ s ++ joined after := by
  rcases List.eq_nil_or_concat before with rfl | ⟨earlier, last, rfl⟩
  · exact ⟨[], by simp, intercalate_cons s after⟩
  · refine ⟨[slash].intercalate (earlier ++ [last]) ++ [slash], by simp, ?_⟩
    rw [List.concat_eq_append]
    cases earlier with
    | nil => simp [intercalate_cons, joined]
    | cons first earlier => simp [intercalate_cons, joined]

/-- Every path ends in one way. -/
theorem exists_endsIn (bytes : Bytes) : ∃ last, EndsIn bytes last := by
  have hbytes := (Path.mk bytes).bytes_eq
  dsimp only at hbytes
  rcases last_named (Path.mk bytes).segments with hall | ⟨before, s, after, hsegments, hs, hafter⟩
  · obtain ⟨first, rest, hsegments⟩ := (Path.mk bytes).exists_segments
    rw [hsegments] at hbytes hall
    rw [hbytes, intercalate_cons]
    have hrest := idle_joined fun t ht => hall t (List.mem_cons_of_mem first ht)
    rcases componentOf_eq_none.mp (hall first List.mem_cons_self) with rfl | rfl
    · exact ⟨none, .bare hrest⟩
    · exact ⟨none, .here hrest⟩
  · obtain ⟨front, hfront, hsplit⟩ := intercalate_append before s after
    rw [hbytes, hsegments, hsplit]
    have hmem : s ∈ bytes.splitOn slash := by
      change s ∈ (Path.mk bytes).segments
      simp [hsegments]
    by_cases hup : s = [dot, dot]
    · subst hup
      exact ⟨none, .up hfront (idle_joined hafter)⟩
    · have hname : IsName s := {
        ne_nil := fun h => hs (componentOf_eq_none.mpr (.inl h))
        ne_dot := fun h => hs (componentOf_eq_none.mpr (.inr h))
        ne_up := hup
        slash_not_mem := not_mem_of_mem_splitOn hmem }
      exact ⟨some s, .name hfront hname (idle_joined hafter)⟩

/-- The stem of a name: what is in front of its last dot, or all of it if nothing is or if there is no dot. -/
inductive IsStem : Bytes → Bytes → Prop
  | dotted {stem extension : Bytes} (hstem : stem ≠ []) (hextension : dot ∉ extension) :
      IsStem (stem ++ dot :: extension) stem
  | undotted {name : Bytes} (hname : dot ∉ name) : IsStem name name
  | hidden {rest : Bytes} (hrest : dot ∉ rest) : IsStem (dot :: rest) (dot :: rest)

theorem ne_dot_of_mem_reverse {bytes : Bytes} (h : dot ∉ bytes) : ∀ b ∈ bytes.reverse, decide (b ≠ dot) = true := by
  intro b hb
  refine decide_eq_true ?_
  rintro rfl
  exact h (List.mem_reverse.mp hb)

theorem stemOfName_append (stem : Bytes) {extension : Bytes} (h : dot ∉ extension) :
    stemOfName (stem ++ dot :: extension) = if stem = [] then dot :: extension else stem := by
  have hdrop : (stem ++ dot :: extension).reverse.dropWhile (· ≠ dot) = dot :: stem.reverse := by
    rw [List.reverse_append, List.reverse_cons, List.append_assoc,
      List.dropWhile_append_of_pos (ne_dot_of_mem_reverse h)]
    simp
  unfold stemOfName
  rw [hdrop, List.tail_cons, List.reverse_reverse]
  cases stem <;> rfl

theorem stemOfName_undotted {name : Bytes} (h : dot ∉ name) : stemOfName name = name := by
  unfold stemOfName
  rw [List.dropWhile_eq_nil_iff.mpr (ne_dot_of_mem_reverse h)]
  rfl

theorem IsStem.stemOfName_eq {name stem : Bytes} (h : IsStem name stem) : stemOfName name = stem := by
  cases h with
  | dotted hstem hextension => rw [stemOfName_append _ hextension, if_neg hstem]
  | undotted hname => exact stemOfName_undotted hname
  | hidden hrest => exact stemOfName_append [] hrest

theorem exists_isStem (name : Bytes) : ∃ stem, IsStem name stem := by
  by_cases hdot : dot ∈ name
  · obtain ⟨back, front, hsplit, hback⟩ := List.eq_append_cons_of_mem (List.mem_reverse.mpr hdot)
    have hname : name = front.reverse ++ dot :: back.reverse := by
      rw [← List.reverse_reverse name, hsplit]
      simp
    have hback : dot ∉ back.reverse := fun h => hback (List.mem_reverse.mp h)
    rw [hname]
    by_cases hfront : front.reverse = []
    · rw [hfront]
      exact ⟨_, .hidden hback⟩
    · exact ⟨_, .dotted hfront hback⟩
  · exact ⟨name, .undotted hdot⟩

/-- What the stem of a path depends on: not on the choice among its spellings, and of its bytes on nothing but the last
name. -/
structure StemOfSpelling (p : Path) : Prop where
  same_iff : ∀ q : Path, p.same q = true ↔ ∃ spelling, Respelled p.bytes spelling ∧ Respelled q.bytes spelling
  shared : ∀ q : Path, p.same q = true → p.stem = q.stem ∧ ∀ dir mode extension,
    artifactPath dir p.stem mode extension = artifactPath dir q.stem mode extension
  ends : ∃! last, EndsIn p.bytes last
  named : ∀ name, EndsIn p.bytes (some name) →
    (∃! stem, IsStem name stem) ∧ ∀ stem, IsStem name stem → p.stem = Text.lossy stem
  nameless : EndsIn p.bytes none → p.stem = "module"

/-- The stem of a path is the same for all its spellings, and so are its artifacts. It is the text of the stem of the
name that the path ends in, whatever stands before it, and a fixed word if it ends in none. -/
theorem stem_of_spelling (p : Path) : StemOfSpelling p where
  same_iff _ := same_iff_respelled
  shared q h := by
    have hstem : p.stem = q.stem := by
      unfold stem fileStem fileName
      rw [of_decide_eq_true h]
    exact ⟨hstem, fun dir mode extension => by rw [hstem]⟩
  ends := by
    obtain ⟨last, hlast⟩ := exists_endsIn p.bytes
    exact ⟨last, hlast, fun other hother => hother.fileName_eq.symm.trans hlast.fileName_eq⟩
  named name hname := by
    obtain ⟨stem, hstem⟩ := exists_isStem name
    refine ⟨⟨stem, hstem, fun other hother => hother.stemOfName_eq.symm.trans hstem.stemOfName_eq⟩, ?_⟩
    intro stem hstem
    have hfile : p.fileName = some name := hname.fileName_eq
    rw [Path.stem, fileStem, hfile, Option.map_some, hstem.stemOfName_eq]
  nameless hnone := by
    have hfile : p.fileName = none := hnone.fileName_eq
    rw [Path.stem, fileStem, hfile, Option.map_none]

def oddName : Bytes := [0x61, 0xFF, dot, 0x62, dot]

def oddPath : Path := ⟨Text.encode "./src//" ++ oddName ++ Text.encode "/./"⟩

/-- Two spellings of a name that is no text have one stem; a path that ends in `..` has the stem of last resort. -/
theorem stem_of_spelling_odd :
    oddPath.same ⟨Text.encode "./src/" ++ oddName⟩ = true ∧
    oddPath.stem = (Path.mk (Text.encode "./src/" ++ oddName)).stem ∧ oddPath.stem = "a\ufffd.b" ∧
    (Path.mk (Text.encode "a/" ++ [dot, dot] ++ Text.encode "/")).stem = "module" := by
  have hsame : oddPath.same ⟨Text.encode "./src/" ++ oddName⟩ = true := by decide +kernel
  have hends : EndsIn oddPath.bytes (some oddName) :=
    .name (by decide +kernel) ⟨by decide, by decide, by decide, by decide⟩ (.dot (.slash .nil))
  have hstem : IsStem oddName [0x61, 0xFF, dot, 0x62] :=
    @IsStem.dotted [0x61, 0xFF, dot, 0x62] [] (by decide) List.not_mem_nil
  have hlossy : Text.lossy [0x61, 0xFF, dot, 0x62] = "a\ufffd.b" := by decide +kernel
  have hnone : EndsIn (Text.encode "a/" ++ [dot, dot] ++ Text.encode "/") none :=
    .up (by decide +kernel) (.slash .nil)
  exact ⟨hsame, ((stem_of_spelling oddPath).shared _ hsame).1,
    (((stem_of_spelling oddPath).named _ hends).2 _ hstem).trans hlossy, (stem_of_spelling _).nameless hnone⟩

end PassDelta.Path
