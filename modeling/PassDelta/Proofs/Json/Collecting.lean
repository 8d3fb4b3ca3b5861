import PassDelta.Proofs.Json.Structures
import Mathlib.Data.List.Nodup
import Mathlib.Data.List.Perm.Basic
/-!
# Members that are collected

What a structure takes from an object: the members whose names are those of its fields. Each is checked where it stands,
the others are skipped, and the structure is built from a lookup by name.
-/

namespace PassDelta.Json

abbrev Member := Lexeme × Node

theorem joinMarks_eq_ok {problem : Option ReadError} {ms : List Mark} {cs : List Char}
    (h : joinMarks problem ms = .ok cs) : problem = none := by
  fun_induction joinMarks problem ms generalizing cs with
  | case1 hnone => exact hnone
  | case2 => cases h
  | case3 c ms ih =>
    obtain ⟨cs', hcs', -⟩ := map_eq_ok.mp h
    exact ih hcs'
  | case4 u ms _ ih =>
    obtain ⟨cs', hcs', -⟩ := map_eq_ok.mp h
    exact ih hcs'
  | case5 => cases h
  | case6 u v ms _ _ _ ih =>
    obtain ⟨cs', hcs', -⟩ := map_eq_ok.mp h
    exact ih hcs'
  | case7 => cases h
  | case8 => cases h
  | case9 => cases h

theorem then_eq_ok {α : Type} {x : Except ReadError Unit} {y : Except ReadError α} {b : α} :
    (x >>= fun _ => y) = .ok b ↔ x = .ok () ∧ y = .ok b := by
  rw [bind_eq_ok]
  exact ⟨fun ⟨_, hx, hy⟩ => ⟨hx, hy⟩, fun ⟨hx, hy⟩ => ⟨(), hx, hy⟩⟩

theorem closed_eq_ok {problem : Option ReadError} : closed problem = .ok () ↔ problem = none := by
  cases problem <;> simp [closed]

theorem skipItems_eq_ok {vs : List Node} : skipItems vs = .ok () ↔ ∀ v ∈ vs, v.skip = .ok () := by
  induction vs with
  | nil => simp [skipItems]
  | cons v vs ih => rw [skipItems, then_eq_ok, ih, List.forall_mem_cons]

theorem skipMembers_eq_ok {ms : List Member} :
    skipMembers ms = .ok () ↔ ∀ m ∈ ms, m.1.problem = none ∧ m.2.skip = .ok () := by
  induction ms with
  | nil => simp [skipMembers]
  | cons m ms ih => rw [skipMembers, then_eq_ok, then_eq_ok, closed_eq_ok, ih, List.forall_mem_cons, and_assoc]

theorem skip_arr {vs : List Node} : (Node.arr vs none).skip = .ok () ↔ ∀ v ∈ vs, v.skip = .ok () := by
  rw [Node.skip, then_eq_ok, skipItems_eq_ok, closed]
  exact and_iff_left rfl

theorem skip_obj {ms : List Member} :
    (Node.obj ms none).skip = .ok () ↔ ∀ m ∈ ms, m.1.problem = none ∧ m.2.skip = .ok () := by
  rw [Node.skip, then_eq_ok, skipMembers_eq_ok, closed]
  exact and_iff_left rfl

section
variable {fields : List (String × Reader Unit)} {found all : List (String × Node)} {ms rest : List Member} {k : Lexeme}
  {v : Node} {name : String} {c : Reader Unit}

def known? (fields : List (String × Reader Unit)) (m : Member) : Option (String × Node) :=
  match m.1.text with
  | .ok name => if (fields.lookup name).isSome then some (name, m.2) else none
  | .error _ => none

/-- A member that is no obstacle: its value passes the check of its field, or can be skipped. -/
def Passes (fields : List (String × Reader Unit)) (m : Member) : Prop :=
  ∃ name, m.1.text = .ok name ∧
    (fields.lookup name = none ∧ m.2.skip = .ok () ∨ ∃ c, fields.lookup name = some c ∧ c m.2 = .ok ())

theorem known?_of_lookup (hk : k.text = .ok name) (hc : fields.lookup name = some c) :
    known? fields (k, v) = some (name, v) := by
  simp [known?, hk, hc]

theorem known?_eq_none (hk : k.text = .ok name) (hnone : fields.lookup name = none) : known? fields (k, v) = none := by
  simp [known?, hk, hnone]

theorem passes_unknown (hk : k.text = .ok name) (hnone : fields.lookup name = none) :
    Passes fields (k, v) ↔ v.skip = .ok () := by
  constructor
  · rintro ⟨name', hname, h⟩
    cases hk.symm.trans hname
    rcases h with ⟨-, hskip⟩ | ⟨c, hc, -⟩
    · exact hskip
    · cases hnone.symm.trans hc
  · exact fun hskip => ⟨name, hk, .inl ⟨hnone, hskip⟩⟩

theorem passes_field (hk : k.text = .ok name) (hc : fields.lookup name = some c) :
    Passes fields (k, v) ↔ c v = .ok () := by
  constructor
  · rintro ⟨name', hname, h⟩
    cases hk.symm.trans hname
    rcases h with ⟨hnone, -⟩ | ⟨c', hc', hv⟩
    · cases hnone.symm.trans hc
    · cases hc.symm.trans hc'
      exact hv
  · exact fun hv => ⟨name, hk, .inr ⟨c, hc, hv⟩⟩

theorem collect_unknown (hk : k.text = .ok name) (hnone : fields.lookup name = none) :
    collect fields found ((k, v) :: rest) = v.skip >>= fun _ => collect fields found rest := by
  rw [collect, hk]
  simp only [bind, Except.bind, hnone]

theorem collect_field (hk : k.text = .ok name) (hc : fields.lookup name = some c) (hnew : found.lookup name = none) :
    collect fields found ((k, v) :: rest) = c v >>= fun _ => collect fields (found ++ [(name, v)]) rest := by
  rw [collect, hk]
  simp [bind, Except.bind, hc, hnew]

theorem collect_again (hk : k.text = .ok name) (hc : fields.lookup name = some c)
    (hfound : found.lookup name ≠ none) : collect fields found ((k, v) :: rest) = .error .mismatch := by
  rw [collect, hk]
  have hsome : (found.lookup name).isSome = true := Option.isSome_iff_ne_none.mpr hfound
  simp only [bind, Except.bind, hc, if_pos hsome]
  rfl

theorem collect_unnamed {e : ReadError} (hk : k.text = .error e) :
    collect fields found ((k, v) :: rest) = .error e := by
  rw [collect, hk]
  rfl

theorem collect_append :
    collect fields found (ms ++ rest) = collect fields found ms >>= fun found' => collect fields found' rest := by
  induction ms generalizing found with
  | nil => rw [List.nil_append, collect]; rfl
  | cons m ms ih =>
    obtain ⟨k, v⟩ := m
    rw [List.cons_append]
    cases hk : k.text with
    | error e => rw [collect_unnamed hk, collect_unnamed hk]; rfl
    | ok name =>
      cases hc : fields.lookup name with
      | none => rw [collect_unknown hk hc, collect_unknown hk hc, bind_assoc]; simp only [ih]
      | some c =>
        by_cases hnew : found.lookup name = none
        · rw [collect_field hk hc hnew, collect_field hk hc hnew, bind_assoc]; simp only [ih]
        · rw [collect_again hk hc hnew, collect_again hk hc hnew]; rfl

theorem lookup_eq_none_iff_not_mem {β : Type} {l : List (String × β)} :
    l.lookup name = none ↔ name ∉ l.map (·.1) := by
  rw [List.lookup_eq_none_iff]
  simp only [bne_iff_ne, List.mem_map, not_exists, not_and]
  exact ⟨fun h m hm heq => h m hm heq.symm, fun h m hm heq => h m hm heq.symm⟩

/-- Members are collected if none is an obstacle and no name comes twice among the known ones. -/
theorem collect_eq_ok (hfound : (found.map (·.1)).Nodup) : collect fields found ms = .ok all ↔
    (∀ m ∈ ms, Passes fields m) ∧ ((found ++ ms.filterMap (known? fields)).map (·.1)).Nodup ∧
      all = found ++ ms.filterMap (known? fields) := by
  induction ms generalizing found with
  | nil => simp [collect, hfound, eq_comm]
  | cons m ms ih =>
    obtain ⟨k, v⟩ := m
    rw [List.forall_mem_cons]
    cases hk : k.text with
    | error e =>
      rw [collect_unnamed hk]
      simp [Passes, hk]
    | ok name =>
      cases hc : fields.lookup name with
      | none =>
        rw [collect_unknown hk hc, then_eq_ok, ih hfound, passes_unknown hk hc,
          List.filterMap_cons_none (known?_eq_none hk hc), and_assoc]
      | some c =>
        rw [List.filterMap_cons_some (known?_of_lookup hk hc), passes_field hk hc]
        by_cases hnew : found.lookup name = none
        · have hmore : ((found ++ [(name, v)]).map (·.1)).Nodup := by
            rw [lookup_eq_none_iff_not_mem] at hnew
            rw [List.map_append, List.nodup_append]
            refine ⟨hfound, by simp, fun a ha b hb => ?_⟩
            rintro rfl
            simp only [List.map_cons, List.map_nil, List.mem_singleton] at hb
            exact hnew (hb ▸ ha)
          rw [collect_field hk hc hnew, then_eq_ok, ih hmore, List.append_assoc, List.singleton_append, and_assoc]
        · rw [collect_again hk hc hnew]
          refine ⟨fun h => (by cases h), ?_⟩
          rintro ⟨-, hnodup, -⟩
          rw [List.map_append, List.map_cons] at hnodup
          exact absurd (lookup_eq_none_of_nodup hnodup) hnew

theorem collect_nil_eq_ok : collect fields [] ms = .ok all ↔ (∀ m ∈ ms, Passes fields m) ∧
    ((ms.filterMap (known? fields)).map (·.1)).Nodup ∧ all = ms.filterMap (known? fields) := by
  have h : collect fields [] ms = .ok all ↔ _ := collect_eq_ok List.nodup_nil
  simpa only [List.nil_append] using h

theorem lookup_eq_some_iff_mem (hnodup : (found.map (·.1)).Nodup) :
    found.lookup name = some v ↔ (name, v) ∈ found := by
  induction found with
  | nil => simp
  | cons p found ih =>
    obtain ⟨n, w⟩ := p
    rw [List.map_cons, List.nodup_cons] at hnodup
    rw [List.lookup_cons, List.mem_cons]
    by_cases hname : name = n
    · subst hname
      have hnew : (name, v) ∉ found := fun h => hnodup.1 (List.mem_map.mpr ⟨_, h, rfl⟩)
      simp [hnew, eq_comm]
    · rw [beq_eq_false_iff_ne.mpr hname, ih hnodup.2]
      simp [hname]

theorem lookup_of_perm {found found' : List (String × Node)} (hperm : found.Perm found')
    (hnodup : (found.map (·.1)).Nodup) (name : String) : found'.lookup name = found.lookup name := by
  have hnodup' : (found'.map (·.1)).Nodup := (hperm.map _).nodup_iff.mp hnodup
  refine Option.ext fun w => ?_
  rw [lookup_eq_some_iff_mem hnodup, lookup_eq_some_iff_mem hnodup', hperm.mem_iff]

theorem lookup_middle {found found' : List (String × Node)}
    (hnodup : ((found ++ (name, v) :: found').map (·.1)).Nodup) :
    (found ++ (name, v) :: found').lookup name = some v :=
  (lookup_eq_some_iff_mem hnodup).mpr (by simp)

theorem lookup_append_cons_ne {found found' : List (String × Node)} {n : String} (hn : n ≠ name) :
    (found ++ (name, v) :: found').lookup n = (found ++ found').lookup n := by
  rw [List.lookup_append, List.lookup_append, List.lookup_cons, beq_eq_false_iff_ne.mpr hn]

end

def AgreeBut (name : String) (get get' : String → Option Node) : Prop := ∀ n, n ≠ name → get' n = get n

section
variable {α : Type} {shape : Shape α} {ms rest : List Member} {k : Lexeme} {v v' : Node} {name : String} {x : α}
  {c : Reader Unit}

def Shape.found (shape : Shape α) (ms : List Member) : List (String × Node) := ms.filterMap (known? shape.fields)

theorem Shape.found_append (shape : Shape α) (ms rest : List Member) :
    shape.found (ms ++ rest) = shape.found ms ++ shape.found rest := List.filterMap_append ..

theorem Shape.read_obj_bind (shape : Shape α) (ms : List Member) : shape.read (.obj ms none) =
    collect shape.fields [] ms >>= fun found => shape.build fun name => found.lookup name := by
  rw [Shape.read]
  rfl

/-- Members that are no obstacle are collected up to any of them. -/
theorem Shape.collect_start (hpasses : ∀ m ∈ ms ++ rest, Passes shape.fields m)
    (hnodup : ((shape.found (ms ++ rest)).map (·.1)).Nodup) : collect shape.fields [] ms = .ok (shape.found ms) := by
  refine collect_nil_eq_ok.mpr ⟨fun m hm => hpasses m (List.mem_append_left _ hm), ?_, rfl⟩
  rw [Shape.found_append, List.map_append] at hnodup
  exact (List.nodup_append.mp hnodup).1

theorem Shape.read_eq_ok : shape.read (.obj ms none) = .ok x ↔ (∀ m ∈ ms, Passes shape.fields m) ∧
    ((shape.found ms).map (·.1)).Nodup ∧ shape.build (fun name => (shape.found ms).lookup name) = .ok x := by
  rw [Shape.read_obj_bind, bind_eq_ok]
  simp only [collect_nil_eq_ok]
  constructor
  · rintro ⟨found, ⟨hpasses, hnodup, rfl⟩, hbuild⟩
    exact ⟨hpasses, hnodup, hbuild⟩
  · rintro ⟨hpasses, hnodup, hbuild⟩
    exact ⟨_, ⟨hpasses, hnodup, rfl⟩, hbuild⟩

/-- An object is refused at a known member that is there once more or whose value is refused. -/
theorem Shape.read_refused {found : List (String × Node)} (hstart : collect shape.fields [] ms = .ok found)
    (hk : k.text = .ok name) (hc : shape.fields.lookup name = some c)
    (hbad : found.lookup name ≠ none ∨ c v = .error .mismatch) :
    shape.read (.obj (ms ++ (k, v) :: rest) none) = .error .mismatch := by
  have hcollect : collect shape.fields [] (ms ++ (k, v) :: rest) = .error .mismatch := by
    rw [collect_append, hstart]
    change collect shape.fields found ((k, v) :: rest) = _
    by_cases hnew : found.lookup name = none
    · rw [collect_field hk hc hnew, hbad.resolve_left (not_not_intro hnew)]
      rfl
    · exact collect_again hk hc hnew
  rw [Shape.read_obj_bind, hcollect]
  rfl

/-- The known members around a known one. -/
theorem Shape.found_known (hk : k.text = .ok name) (hc : shape.fields.lookup name = some c) :
    shape.found (ms ++ (k, v) :: rest) = shape.found ms ++ (name, v) :: shape.found rest := by
  rw [Shape.found_append, Shape.found, Shape.found, List.filterMap_cons_some (known?_of_lookup hk hc)]
  rfl

theorem Shape.found_unknown (hk : k.text = .ok name) (hnone : shape.fields.lookup name = none) :
    shape.found (ms ++ (k, v) :: rest) = shape.found (ms ++ rest) := by
  rw [Shape.found_append, Shape.found_append, Shape.found, Shape.found,
    List.filterMap_cons_none (known?_eq_none hk hnone)]
  rfl

theorem Shape.read_of_passes (hpasses : ∀ m ∈ ms, Passes shape.fields m)
    (hnodup : ((shape.found ms).map (·.1)).Nodup) :
    shape.read (.obj ms none) = shape.build fun name => (shape.found ms).lookup name := by
  rw [Shape.read_obj_bind, collect_nil_eq_ok.mpr ⟨hpasses, hnodup, rfl⟩]
  rfl

/-- What is built when a known member gets another value that passes its check. -/
theorem Shape.read_replaced (hk : k.text = .ok name) (hc : shape.fields.lookup name = some c)
    (hread : shape.read (.obj (ms ++ (k, v) :: rest) none) = .ok x) (hv' : c v' = .ok ()) :
    ∃ get get', AgreeBut name get get' ∧ get name = some v ∧ get' name = some v' ∧ shape.build get = .ok x ∧
      shape.read (.obj (ms ++ (k, v') :: rest) none) = shape.build get' := by
  obtain ⟨hpasses, hnodup, hbuild⟩ := Shape.read_eq_ok.mp hread
  rw [Shape.found_known hk hc] at hnodup hbuild
  have hnodup' : ((shape.found ms ++ (name, v') :: shape.found rest).map (·.1)).Nodup := by simpa using hnodup
  have hpasses' : ∀ m ∈ ms ++ (k, v') :: rest, Passes shape.fields m := by
    simp only [List.forall_mem_append, List.forall_mem_cons] at hpasses ⊢
    exact ⟨hpasses.1, (passes_field hk hc).mpr hv', hpasses.2.2⟩
  refine ⟨fun n => (shape.found ms ++ (name, v) :: shape.found rest).lookup n,
    fun n => (shape.found ms ++ (name, v') :: shape.found rest).lookup n, fun n hn => ?_, lookup_middle hnodup,
    lookup_middle hnodup', hbuild, ?_⟩
  · dsimp only
    rw [lookup_append_cons_ne hn, lookup_append_cons_ne hn]
  · rw [Shape.read_of_passes hpasses' (by rwa [Shape.found_known hk hc]), Shape.found_known hk hc]

/-- What is built when a known member is taken away. -/
theorem Shape.read_removed (hk : k.text = .ok name) (hc : shape.fields.lookup name = some c)
    (hread : shape.read (.obj (ms ++ (k, v) :: rest) none) = .ok x) :
    ∃ get get', AgreeBut name get get' ∧ get' name = none ∧ shape.build get = .ok x ∧
      shape.read (.obj (ms ++ rest) none) = shape.build get' := by
  obtain ⟨hpasses, hnodup, hbuild⟩ := Shape.read_eq_ok.mp hread
  rw [Shape.found_known hk hc] at hnodup hbuild
  have hpasses' : ∀ m ∈ ms ++ rest, Passes shape.fields m := by
    simp only [List.forall_mem_append, List.forall_mem_cons] at hpasses ⊢
    exact ⟨hpasses.1, hpasses.2.2⟩
  rw [List.map_append, List.map_cons, List.nodup_middle, List.nodup_cons, ← List.map_append] at hnodup
  refine ⟨fun n => (shape.found ms ++ (name, v) :: shape.found rest).lookup n,
    fun n => (shape.found ms ++ shape.found rest).lookup n, fun n hn => ?_,
    lookup_eq_none_iff_not_mem.mpr hnodup.1, hbuild, ?_⟩
  · dsimp only
    rw [lookup_append_cons_ne hn]
  · rw [Shape.read_of_passes hpasses' (Shape.found_append shape ms rest ▸ hnodup.2), Shape.found_append]

end

end PassDelta.Json
