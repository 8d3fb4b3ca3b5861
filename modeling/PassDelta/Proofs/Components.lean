import PassDelta.Proofs.ArtifactPath
/-!
# Components of paths

The plain spelling of a path's components is a path with these components, and so is that of all but the last of them.
So a parent is the path without its last component, and whatever stands behind a path in a longer one can be taken off
again.
-/

namespace PassDelta.Path

def IsInner (c : Component) : Prop := componentOf (Component.bytes c) = some c ∧ slash ∉ Component.bytes c

/-- The components of some path: only the first may be the root or a leading dot. -/
inductive IsPlain : List Component → Prop
  | relative {inner : List Component} (all : ∀ c ∈ inner, IsInner c) : IsPlain inner
  | absolute {inner : List Component} (all : ∀ c ∈ inner, IsInner c) : IsPlain (.root :: inner)
  | leadingDot {inner : List Component} (all : ∀ c ∈ inner, IsInner c) : IsPlain (.here :: inner)

theorem bytes_of_componentOf {segment : Bytes} {c : Component} (h : componentOf segment = some c) :
    Component.bytes c = segment := by
  unfold componentOf at h
  split_ifs at h with _ _ hup
  · obtain rfl := Option.some.inj h
    exact hup.symm
  · obtain rfl := Option.some.inj h
    rfl

theorem isInner_of_mem_segments {p : Path} {c : Component} (h : c ∈ p.segments.filterMap componentOf) :
    IsInner c := by
  obtain ⟨segment, hsegment, hc⟩ := List.mem_filterMap.mp h
  obtain rfl := bytes_of_componentOf hc
  exact ⟨hc, not_mem_of_mem_splitOn hsegment⟩

theorem isPlain_components (p : Path) : IsPlain p.components := by
  unfold components
  dsimp only
  split_ifs
  · exact .absolute fun _ => isInner_of_mem_segments
  · exact .leadingDot fun _ => isInner_of_mem_segments
  · exact .relative fun _ => isInner_of_mem_segments

theorem filterMap_bytes {inner : List Component} (all : ∀ c ∈ inner, IsInner c) :
    (inner.map Component.bytes).filterMap componentOf = inner := by
  rw [List.filterMap_map]
  induction inner with
  | nil => rfl
  | cons c rest ih =>
    have hc : (componentOf ∘ Component.bytes) c = some c := (all c (by simp)).1
    rw [List.filterMap_cons_some hc, ih fun d hd => all d (by simp [hd])]

theorem isAbsolute_iff (p : Path) : p.isAbsolute = true ↔ ∃ next rest, p.segments = [] :: next :: rest := by
  obtain ⟨bytes⟩ := p
  cases bytes with
  | nil => simp [isAbsolute, segments]
  | cons b bytes =>
    have hne : bytes.splitOn slash ≠ [] := List.splitOn_ne_nil slash bytes
    obtain ⟨first, more, hsplit⟩ := List.exists_cons_of_ne_nil hne
    by_cases hb : b = slash <;> simp [isAbsolute, segments, List.splitOn_cons_eq_if_modifyHead, hb, hsplit]

/-- Where no part has a slash in it, the parts that a slash has joined can be told again. -/
theorem segments_ofComponents (cs : List Component) (hroot : cs ≠ [.root]) (hne : cs ≠ [])
    (h : ∀ c ∈ cs, slash ∉ Component.bytes c) : (ofComponents cs).segments = cs.map Component.bytes := by
  have hplain : ofComponents cs = ⟨[slash].intercalate (cs.map Component.bytes)⟩ := by
    unfold ofComponents
    split
    · exact absurd rfl hroot
    · rfl
  rw [hplain, segments, List.splitOn_intercalate]
  · simpa using h
  · simpa using hne

theorem components_ofComponents {cs : List Component} (h : IsPlain cs) : (ofComponents cs).components = cs := by
  cases h with
  | relative all =>
    cases cs with
    | nil => rfl
    | cons c rest =>
      have hfirst : IsInner c := all c (by simp)
      have hroot : c :: rest ≠ [.root] := by
        rintro ⟨⟩
        exact absurd hfirst.1 (by decide)
      have hsegments := segments_ofComponents (c :: rest) hroot (by simp) fun c hc => (all c hc).2
      have habsolute : ¬ (ofComponents (c :: rest)).isAbsolute = true := by
        rw [isAbsolute_iff, hsegments]
        rintro ⟨next, more, h⟩
        have hempty : Component.bytes c = [] := (List.cons_eq_cons.mp h).1
        exact absurd hfirst.1 (by rw [hempty]; simp [componentOf])
      have hdot : ¬ (ofComponents (c :: rest)).segments.head? = some [dot] := by
        rw [hsegments]
        intro h
        have hdotted : Component.bytes c = [dot] := Option.some.inj h
        exact absurd hfirst.1 (by rw [hdotted]; simp [componentOf])
      unfold components
      rw [if_neg habsolute, if_neg hdot, hsegments, filterMap_bytes all]
  | @absolute inner all =>
    cases inner with
    | nil => rfl
    | cons c rest =>
      have hslash : ∀ d ∈ .root :: c :: rest, slash ∉ Component.bytes d := by
        intro d hd
        rcases List.mem_cons.mp hd with rfl | hd
        · exact List.not_mem_nil
        · exact (all d hd).2
      have hsegments := segments_ofComponents (.root :: c :: rest) (by simp) (by simp) hslash
      have habsolute : (ofComponents (.root :: c :: rest)).isAbsolute = true :=
        (isAbsolute_iff _).mpr ⟨_, _, hsegments⟩
      have hroot : componentOf (Component.bytes .root) = none := rfl
      unfold components
      rw [if_pos habsolute, hsegments, List.map_cons, List.filterMap_cons_none hroot, filterMap_bytes all]
  | @leadingDot inner all =>
    have hslash : ∀ d ∈ .here :: inner, slash ∉ Component.bytes d := by
      intro d hd
      rcases List.mem_cons.mp hd with rfl | hd
      · decide
      · exact (all d hd).2
    have hsegments := segments_ofComponents (.here :: inner) (by simp) (by simp) hslash
    have habsolute : ¬ (ofComponents (.here :: inner)).isAbsolute = true := by
      rw [isAbsolute_iff, hsegments]
      rintro ⟨next, more, h⟩
      cases h
    have hhere : componentOf (Component.bytes .here) = none := rfl
    unfold components
    rw [if_neg habsolute, hsegments, List.map_cons, List.filterMap_cons_none hhere, filterMap_bytes all]
    rfl

/-- The parent of a path that ends in a name is the path in front of that name. -/
theorem parent_of_components {p dir : Path} {name : Bytes} (h : p.components = dir.components ++ [.name name]) :
    ∃ q, p.parent = some q ∧ q.same dir = true := by
  have hparent : p.parent = some (ofComponents dir.components) := by
    unfold parent
    rw [h]
    split
    · next hnil => simp at hnil
    · next hroot => cases hdir : dir.components <;> simp [hdir] at hroot
    · rw [List.dropLast_concat]
  exact ⟨_, hparent, decide_eq_true (components_ofComponents dir.isPlain_components)⟩

theorem fileName_of_components {p : Path} {front : List Component} {name : Bytes}
    (h : p.components = front ++ [.name name]) : p.fileName = some name := by
  unfold fileName
  rw [h, List.getLast?_concat]

/-- A trailing slash is spelling. -/
theorem components_trailing (p : Path) (h : p.bytes ≠ []) :
    (Path.mk (p.bytes ++ [slash])).components = p.components := by
  have hsegments : (Path.mk (p.bytes ++ [slash])).segments = p.segments ++ [[]] :=
    List.splitOn_append_cons_self p.bytes []
  have habsolute : (Path.mk (p.bytes ++ [slash])).isAbsolute = p.isAbsolute := by
    unfold isAbsolute
    rw [List.head?_append_of_ne_nil _ h]
  have hne : p.segments ≠ [] := List.splitOn_ne_nil slash p.bytes
  unfold components
  rw [habsolute, hsegments, List.filterMap_append, List.head?_append_of_ne_nil _ hne]
  simp [componentOf]

/-- A relative path joined to a path that is not empty stands behind a slash. -/
theorem exists_join (p : Path) (h : p.bytes ≠ []) : ∃ r, (Path.mk (r ++ [slash])).components = p.components ∧
    ∀ q : Path, q.isAbsolute = false → p / q = ⟨r ++ slash :: q.bytes⟩ := by
  obtain ⟨r, b, hr⟩ := (List.eq_nil_or_concat p.bytes).resolve_left h
  rw [List.concat_eq_append] at hr
  have hlast : p.bytes.getLast? = some b := by rw [hr, List.getLast?_concat]
  have hjoin (q : Path) (hq : q.isAbsolute = false) :
      p / q = if b = slash then ⟨p.bytes ++ q.bytes⟩ else ⟨p.bytes ++ slash :: q.bytes⟩ := by
    change join p q = _
    simp [join, hq, hlast]
  by_cases hb : b = slash
  · subst hb
    refine ⟨r, by rw [← hr], fun q hq => ?_⟩
    rw [hjoin q hq, if_pos rfl, hr, List.append_assoc, List.singleton_append]
  · exact ⟨p.bytes, components_trailing p h, fun q hq => by rw [hjoin q hq, if_neg hb]⟩

section Name
variable {name : Bytes} (hname : componentOf name = some (.name name)) (hslash : slash ∉ name)
include hslash

theorem segments_name : (Path.mk name).segments = [name] := by
  have h := splitOn_append hslash []
  rwa [List.append_nil, List.splitOn_nil, List.modifyHead_cons, List.append_nil] at h

theorem isAbsolute_name : (Path.mk name).isAbsolute = false := by
  refine Bool.eq_false_iff.mpr fun h => ?_
  obtain ⟨next, rest, hsegments⟩ := (isAbsolute_iff _).mp h
  rw [segments_name hslash] at hsegments
  cases hsegments

include hname

theorem components_name : (Path.mk name).components = [.name name] := by
  have hdot : name ≠ [dot] := by
    rintro rfl
    simp [componentOf] at hname
  unfold components
  rw [isAbsolute_name hslash, segments_name hslash]
  simp [hdot, hname]

theorem components_join_name (p : Path) : (p / Path.mk name).components = p.components ++ [.name name] := by
  by_cases hempty : p.bytes = []
  · obtain ⟨bytes⟩ := p
    subst hempty
    have hjoin : (Path.mk [] / Path.mk name) = Path.mk name := by
      change join _ _ = _
      simp [join]
    rw [hjoin, components_name hname hslash]
    rfl
  · obtain ⟨r, hr, hjoin⟩ := p.exists_join hempty
    obtain ⟨front, hfront⟩ := components_append r
    have hnothing : (Path.mk []).segments.filterMap componentOf = [] := rfl
    rw [hjoin _ (isAbsolute_name hslash), ← hr, hfront, hfront, hnothing, segments_name hslash, List.append_nil]
    simp [hname]

end Name

end PassDelta.Path
