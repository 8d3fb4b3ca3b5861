import PassDelta.Proofs.Json.Collecting
import PassDelta.Proofs.Json.Grammar
/-!
# Known members

A structure is read from its known members alone. Their order, and whatever other members stand between them, are of no
account to it, but each known member that it requires must be there, and none twice.
-/

namespace PassDelta.Json

/-- What a reader knows of a value: nothing of what is inside, the kind of its items, the kinds of the members that it
requires and of those it can do without, or that it is skipped. -/
inductive Kind where
  | scalar
  | list (items : Kind)
  | struct (required optional : List (String × Kind))
  | foreign

namespace Kind

inductive Skips : Kind → Lexeme → Prop
  | unknown {required optional : List (String × Kind)} {k : Lexeme} {name : String} : k.text = .ok name →
      (required ++ optional).lookup name = none → Skips (.struct required optional) k
  | foreign {k : Lexeme} : k.problem = none → Skips .foreign k

inductive HasMember : Kind → Lexeme → Kind → Prop
  | known {required optional : List (String × Kind)} {k : Lexeme} {name : String} {kind : Kind} : k.text = .ok name →
      (required ++ optional).lookup name = some kind → HasMember (.struct required optional) k kind
  | skipped {kind : Kind} {k : Lexeme} : kind.Skips k → HasMember kind k .foreign

inductive HasItems : Kind → Kind → Prop
  | list (items : Kind) : HasItems (.list items) items
  | foreign : HasItems .foreign .foreign

def IsObject : Kind → Prop
  | .scalar | .list _ => False
  | .struct _ _ | .foreign => True

end Kind

/-- The members of one object, at any depth of a tree, are changed. -/
inductive Within (change : Kind → List Member → List Member → Prop) : Kind → Node → Node → Prop
  | here {kind : Kind} {ms ms' : List Member} : kind.IsObject → change kind ms ms' →
      Within change kind (.obj ms none) (.obj ms' none)
  | member {kind inner : Kind} {k : Lexeme} {v v' : Node} {ms rest : List Member} : kind.HasMember k inner →
      Within change inner v v' →
      Within change kind (.obj (ms ++ (k, v) :: rest) none) (.obj (ms ++ (k, v') :: rest) none)
  | item {kind inner : Kind} {v v' : Node} {vs rest : List Node} : kind.HasItems inner → Within change inner v v' →
      Within change kind (.arr (vs ++ v :: rest) none) (.arr (vs ++ v' :: rest) none)

/-- Members come in another order, or a member that is skipped is there in addition, with any value. -/
inductive Rearranges : Kind → List Member → List Member → Prop
  | reorder {kind : Kind} {ms ms' : List Member} : ms.Perm ms' → Rearranges kind ms ms'
  | insert {kind : Kind} {ms rest : List Member} {k : Lexeme} {v : Node} {cs : List Char} : kind.Skips k →
      Spells v cs → Rearranges kind (ms ++ rest) (ms ++ (k, v) :: rest)

inductive Removes (name : String) : List Member → List Member → Prop
  | mk {ms rest : List Member} {k : Lexeme} {v : Node} : k.text = .ok name →
      Removes name (ms ++ (k, v) :: rest) (ms ++ rest)

/-- A required member is missing, or a known one is there once more: behind itself with any value, or in front of itself
with the same. -/
inductive Spoils : Kind → List Member → List Member → Prop
  | remove {required optional : List (String × Kind)} {name : String} {ms ms' : List Member} :
      name ∈ required.map (·.1) → Removes name ms ms' → Spoils (.struct required optional) ms ms'
  | again {required optional : List (String × Kind)} {name : String} {kind : Kind} {k k' : Lexeme} {v v' : Node}
      {ms between rest : List Member} : k.text = .ok name → k'.text = .ok name →
      (required ++ optional).lookup name = some kind →
      Spoils (.struct required optional) (ms ++ (k, v) :: (between ++ rest))
        (ms ++ (k, v) :: (between ++ (k', v') :: rest))
  | before {required optional : List (String × Kind)} {name : String} {kind : Kind} {k k' : Lexeme} {v : Node}
      {ms between rest : List Member} : k.text = .ok name → k'.text = .ok name →
      (required ++ optional).lookup name = some kind →
      Spoils (.struct required optional) (ms ++ (between ++ (k, v) :: rest))
        (ms ++ (k', v) :: (between ++ (k, v) :: rest))

/-- A reader whose values hang on the known members alone. -/
structure Minds {α : Type} (r : Reader α) (kind : Kind) : Prop where
  keeps : ∀ {v v' x}, r v = .ok x → Within Rearranges kind v v' → r v' = .ok x
  refuses : ∀ {v v' x}, r v = .ok x → Within Spoils kind v v' → r v' = .error .mismatch

section
variable {change : Kind → List Member → List Member → Prop} {v v' : Node}

theorem not_within_scalar : ¬ Within change .scalar v v' := by
  intro h
  cases h with
  | here hobject _ => exact hobject
  | member hmember _ =>
    cases hmember with
    | skipped hskips => cases hskips
  | item hitems _ => cases hitems

theorem Within.ne_null {kind : Kind} (h : Within change kind v v') : v ≠ .null ∧ v' ≠ .null := by
  cases h <;> exact ⟨Node.noConfusion, Node.noConfusion⟩

theorem within_list {kind : Kind} (h : Within change (.list kind) v v') :
    ∃ vs w w' rest, v = .arr (vs ++ w :: rest) none ∧ v' = .arr (vs ++ w' :: rest) none ∧ Within change kind w w' := by
  cases h with
  | here hobject _ => exact hobject.elim
  | member hmember _ =>
    cases hmember with
    | skipped hskips => cases hskips
  | item hitems hinner =>
    obtain ⟨⟩ := hitems
    exact ⟨_, _, _, _, rfl, rfl, hinner⟩

/-- A change is one of the members themselves, or inside the value of a known or of a skipped one. -/
theorem within_struct {required optional : List (String × Kind)} (h : Within change (.struct required optional) v v') :
    (∃ ms ms', v = .obj ms none ∧ v' = .obj ms' none ∧ change (.struct required optional) ms ms') ∨
      ∃ ms k w w' rest, v = .obj (ms ++ (k, w) :: rest) none ∧ v' = .obj (ms ++ (k, w') :: rest) none ∧
        ((∃ name kind, k.text = .ok name ∧ (required ++ optional).lookup name = some kind ∧ Within change kind w w') ∨
          ∃ name, k.text = .ok name ∧ (required ++ optional).lookup name = none ∧ Within change .foreign w w') := by
  cases h with
  | here _ hchange => exact .inl ⟨_, _, rfl, rfl, hchange⟩
  | member hmember hinner =>
    refine .inr ⟨_, _, _, _, _, rfl, rfl, ?_⟩
    cases hmember with
    | known hname hkind => exact .inl ⟨_, _, hname, hkind, hinner⟩
    | skipped hskips =>
      cases hskips with
      | unknown hname hnone => exact .inr ⟨_, hname, hnone, hinner⟩
  | item hitems _ => cases hitems

end

theorem not_spoils_foreign {v v' : Node} : ¬ Within Spoils .foreign v v' := by
  intro h
  generalize hkind : Kind.foreign = kind at h
  induction h with
  | here _ hchange => subst hkind; cases hchange
  | member hmember _ ih =>
    subst hkind
    cases hmember with
    | skipped _ => exact ih rfl
  | item hitems _ ih =>
    subst hkind
    cases hitems with
    | foreign => exact ih rfl

theorem Kind.Skips.problem {kind : Kind} {k : Lexeme} (h : kind.Skips k) : k.problem = none := by
  cases h with
  | unknown hname _ =>
    obtain ⟨cs, hcs, -⟩ := map_eq_ok.mp hname
    exact joinMarks_eq_ok hcs
  | foreign hproblem => exact hproblem

/-- What is skipped can still be skipped when something inside it has been rearranged. -/
theorem skip_of_rearranges {v v' : Node} (h : Within Rearranges .foreign v v') (hv : v.skip = .ok ()) :
    v'.skip = .ok () := by
  generalize hkind : Kind.foreign = kind at h
  induction h with
  | here _ hchange =>
    subst hkind
    rw [skip_obj] at hv ⊢
    cases hchange with
    | reorder hperm => exact fun m hm => hv m (hperm.mem_iff.mpr hm)
    | insert hskips hspells =>
      have hproblem := hskips.problem
      simp only [List.forall_mem_append, List.forall_mem_cons] at hv ⊢
      exact ⟨hv.1, ⟨hproblem, hspells.skip⟩, hv.2⟩
  | member hmember _ ih =>
    subst hkind
    rw [skip_obj] at hv ⊢
    simp only [List.forall_mem_append, List.forall_mem_cons] at hv ⊢
    cases hmember with
    | skipped _ => exact ⟨hv.1, ⟨hv.2.1.1, ih hv.2.1.2 rfl⟩, hv.2.2⟩
  | item hitems _ ih =>
    subst hkind
    rw [skip_arr] at hv ⊢
    simp only [List.forall_mem_append, List.forall_mem_cons] at hv ⊢
    cases hitems with
    | foreign => exact ⟨hv.1, ih hv.2.1 rfl, hv.2.2⟩

section
variable {α : Type} {r : Reader α} {kind : Kind}

theorem minds_scalar (r : Reader α) : Minds r .scalar where
  keeps _ h := absurd h not_within_scalar
  refuses _ h := absurd h not_within_scalar

theorem Minds.check (h : Minds r kind) : Minds (check r) kind where
  keeps {v v' x} hv hchange := by
    obtain ⟨y, hy⟩ := check_eq_ok.mp hv
    exact check_eq_ok.mpr ⟨y, h.keeps hy hchange⟩
  refuses {v v' x} hv hchange := by
    obtain ⟨y, hy⟩ := check_eq_ok.mp hv
    rw [Json.check, h.refuses hy hchange]
    rfl

theorem readOption_eq {v : Node} (h : v ≠ .null) : readOption r v = some <$> r v := by
  rw [readOption]
  exact h

theorem Minds.option (h : Minds r kind) : Minds (readOption r) kind where
  keeps {v v' x} hv hchange := by
    obtain ⟨hnull, hnull'⟩ := hchange.ne_null
    rw [readOption_eq hnull] at hv
    rw [readOption_eq hnull']
    obtain ⟨y, hy, rfl⟩ := map_eq_ok.mp hv
    rw [h.keeps hy hchange]
    rfl
  refuses {v v' x} hv hchange := by
    obtain ⟨hnull, hnull'⟩ := hchange.ne_null
    rw [readOption_eq hnull] at hv
    rw [readOption_eq hnull']
    obtain ⟨y, hy, -⟩ := map_eq_ok.mp hv
    rw [h.refuses hy hchange]
    rfl

theorem readList_arr_none (vs : List Node) : readList r (.arr vs none) = vs.mapM r := by
  rw [readList]
  cases vs.mapM r <;> rfl

/-- A reader of items that minds them makes a reader of lists that does. -/
theorem Minds.list (h : Minds r kind) : Minds (readList r) (.list kind) where
  keeps {v v' x} hv hchange := by
    obtain ⟨vs, w, w', rest, rfl, rfl, hinner⟩ := within_list hchange
    simp only [readList_arr_none, List.mapM_append, List.mapM_cons, bind_eq_ok] at hv ⊢
    obtain ⟨ys, hys, zs, ⟨y, hy, htail⟩, hx⟩ := hv
    exact ⟨ys, hys, zs, ⟨y, h.keeps hy hinner, htail⟩, hx⟩
  refuses {v v' x} hv hchange := by
    obtain ⟨vs, w, w', rest, rfl, rfl, hinner⟩ := within_list hchange
    simp only [readList_arr_none, List.mapM_append, List.mapM_cons, bind_eq_ok] at hv ⊢
    obtain ⟨ys, hys, zs, ⟨y, hy, -⟩, -⟩ := hv
    rw [hys, h.refuses hy hinner]
    rfl

end

def fieldStep (required : List String) (get : String → Option Node) (f : String × Reader Unit) :
    Except ReadError Unit :=
  match get f.1 with
  | some v => f.2 v
  | none => if f.1 ∈ required then .error .mismatch else .ok ()

/-- A known value is rearranged inside, and the others stay as they are. -/
structure RearrangedAt (kinds : List (String × Kind)) (name : String) (get get' : String → Option Node) : Prop where
  others : AgreeBut name get get'
  value : ∃ kind v v', kinds.lookup name = some kind ∧ get name = some v ∧ get' name = some v' ∧
    Within Rearranges kind v v'

structure Shape.Describes {α : Type} (shape : Shape α) (required optional : List (String × Kind)) : Prop where
  fields : List.Forall₂ (fun f g => f.1 = g.1 ∧ Minds f.2 g.2) shape.fields (required ++ optional)
  builds : ∀ get, (fun _ => ()) <$> shape.build get = forM shape.fields (fieldStep (required.map (·.1)) get)
  kept : ∀ {name get get' x}, RearrangedAt (required ++ optional) name get get' → shape.build get = .ok x →
    shape.build get' = .ok x

section
variable {α : Type} {kinds : List (String × Kind)} {name n : String} {get get' : String → Option Node} {r : Reader α}
  {inner : Kind} {x : α}

/-- What is known by a name is the same, or has been rearranged inside. -/
theorem RearrangedAt.lookup (h : RearrangedAt kinds name get get') (hinner : kinds.lookup n = some inner) :
    get' n = get n ∨ ∃ v v', get n = some v ∧ get' n = some v' ∧ Within Rearranges inner v v' := by
  by_cases hn : n = name
  · subst hn
    obtain ⟨kind, v, v', hkind, hget, hget', hchange⟩ := h.value
    cases hinner.symm.trans hkind
    exact .inr ⟨v, v', hget, hget', hchange⟩
  · exact .inl (h.others n hn)

theorem RearrangedAt.required (h : RearrangedAt kinds name get get') (hinner : kinds.lookup n = some inner)
    (hr : Minds r inner) (hread : Json.required get n r = .ok x) : Json.required get' n r = .ok x := by
  rcases h.lookup hinner with hsame | ⟨v, v', hget, hget', hchange⟩
  · rw [Json.required, hsame]
    exact hread
  · rw [Json.required, hget] at hread
    rw [Json.required, hget']
    exact hr.keeps hread hchange

theorem RearrangedAt.optional {o : Option α} (h : RearrangedAt kinds name get get')
    (hinner : kinds.lookup n = some inner) (hr : Minds r inner) (hread : Json.optional get n r = .ok o) :
    Json.optional get' n r = .ok o := by
  rcases h.lookup hinner with hsame | ⟨v, v', hget, hget', hchange⟩
  · rw [Json.optional, hsame]
    exact hread
  · rw [Json.optional, hget] at hread
    rw [Json.optional, hget']
    exact hr.option.keeps hread hchange

end

section
variable {α : Type} {shape : Shape α} {required optional : List (String × Kind)} {ms ms' : List Member} {v v' : Node}
  {name : String} {x : α}

theorem Shape.Describes.lookup (h : shape.Describes required optional) (name : String) :
    shape.fields.lookup name = none ∧ (required ++ optional).lookup name = none ∨
      ∃ c kind, shape.fields.lookup name = some c ∧ (required ++ optional).lookup name = some kind ∧ Minds c kind := by
  have hfields := h.fields
  generalize shape.fields = fields, required ++ optional = kinds at hfields
  induction hfields with
  | nil => exact .inl ⟨rfl, rfl⟩
  | @cons f g fields kinds hfg _ ih =>
    obtain ⟨n, c⟩ := f
    obtain ⟨n', kind⟩ := g
    obtain ⟨rfl, hminds⟩ := hfg
    rw [List.lookup_cons, List.lookup_cons]
    cases name == n with
    | true => exact .inr ⟨c, kind, rfl, rfl, hminds⟩
    | false => exact ih

theorem Shape.Describes.names (h : shape.Describes required optional) :
    shape.fields.map (·.1) = (required ++ optional).map (·.1) := by
  have hfields := h.fields
  generalize shape.fields = fields, required ++ optional = kinds at hfields
  induction hfields with
  | nil => rfl
  | cons hfg _ ih => rw [List.map_cons, List.map_cons, ih, hfg.1]

theorem Shape.Describes.known (h : shape.Describes required optional) {kind : Kind}
    (hname : (required ++ optional).lookup name = some kind) :
    ∃ c, shape.fields.lookup name = some c ∧ Minds c kind := by
  rcases h.lookup name with ⟨-, hnone⟩ | ⟨c, kind', hc, hkind, hminds⟩
  · cases hname.symm.trans hnone
  · cases hname.symm.trans hkind
    exact ⟨c, hc, hminds⟩

theorem Shape.Describes.mem_of_required (h : shape.Describes required optional) (hname : name ∈ required.map (·.1)) :
    name ∈ shape.fields.map (·.1) := by
  rw [h.names, List.map_append]
  exact List.mem_append_left _ hname

theorem Shape.Describes.field_of_required (h : shape.Describes required optional) (hname : name ∈ required.map (·.1)) :
    ∃ c, shape.fields.lookup name = some c := by
  refine Option.ne_none_iff_exists'.mp fun hnone => ?_
  exact lookup_eq_none_iff_not_mem.mp hnone (h.mem_of_required hname)

theorem Shape.Describes.unknown (h : shape.Describes required optional)
    (hname : (required ++ optional).lookup name = none) : shape.fields.lookup name = none := by
  rcases h.lookup name with ⟨hnone, -⟩ | ⟨c, kind, -, hkind, -⟩
  · exact hnone
  · cases hname.symm.trans hkind

theorem Shape.Describes.read_rearranged (h : shape.Describes required optional)
    (hv : shape.read (.obj ms none) = .ok x) (hms : Rearranges (.struct required optional) ms ms') :
    shape.read (.obj ms' none) = .ok x := by
  obtain ⟨hpasses, hnodup, hbuild⟩ := Shape.read_eq_ok.mp hv
  rw [Shape.read_eq_ok]
  cases hms with
  | reorder hperm =>
    have hfound : (shape.found ms).Perm (shape.found ms') := hperm.filterMap _
    refine ⟨fun m hm => hpasses m (hperm.mem_iff.mpr hm), (hfound.map _).nodup_iff.mp hnodup, ?_⟩
    simpa only [lookup_of_perm hfound hnodup] using hbuild
  | insert hskips hspells =>
    cases hskips with
    | unknown hname hnone =>
      have hunknown := h.unknown hnone
      rw [Shape.found_unknown hname hunknown]
      refine ⟨?_, hnodup, hbuild⟩
      simp only [List.forall_mem_append, List.forall_mem_cons] at hpasses ⊢
      exact ⟨hpasses.1, (passes_unknown hname hunknown).mpr hspells.skip, hpasses.2⟩

/-- What was read is read again when the members are rearranged. -/
theorem Shape.Describes.keeps (h : shape.Describes required optional) (hv : shape.read v = .ok x)
    (hchange : Within Rearranges (.struct required optional) v v') : shape.read v' = .ok x := by
  rcases within_struct hchange with ⟨ms, ms', rfl, rfl, hms⟩ | ⟨ms, k, w, w', rest, rfl, rfl, hinner⟩
  · exact h.read_rearranged hv hms
  rcases hinner with ⟨name, kind, hname, hkind, hinner⟩ | ⟨name, hname, hnone, hinner⟩
  · obtain ⟨c, hc, hminds⟩ := h.known hkind
    have hw := (passes_field hname hc).mp ((Shape.read_eq_ok.mp hv).1 (k, w) (by simp))
    obtain ⟨get, get', hsame, hget, hget', hbuild, hread⟩ := Shape.read_replaced hname hc hv (hminds.keeps hw hinner)
    rw [hread]
    exact h.kept ⟨hsame, kind, w, w', hkind, hget, hget', hinner⟩ hbuild
  · obtain ⟨hpasses, hnodup, hbuild⟩ := Shape.read_eq_ok.mp hv
    have hunknown := h.unknown hnone
    rw [Shape.found_unknown hname hunknown] at hnodup hbuild
    rw [Shape.read_eq_ok, Shape.found_unknown hname hunknown]
    simp only [List.forall_mem_append, List.forall_mem_cons] at hpasses ⊢
    have hw' := skip_of_rearranges hinner ((passes_unknown hname hunknown).mp hpasses.2.1)
    exact ⟨⟨hpasses.1, (passes_unknown hname hunknown).mpr hw', hpasses.2.2⟩, hnodup, hbuild⟩

section
variable {β : Type} {fs : List β} {step : β → Except ReadError Unit}

theorem forM_eq_ok : forM fs step = .ok () ↔ ∀ f ∈ fs, step f = .ok () := by
  induction fs with
  | nil => simp [pure, Except.pure]
  | cons f fs ih => rw [List.forM_cons, then_eq_ok, ih, List.forall_mem_cons]

theorem forM_eq_error {e : ReadError} (hsteps : ∀ f ∈ fs, step f = .ok () ∨ step f = .error e)
    (herror : ∃ f ∈ fs, step f = .error e) : forM fs step = .error e := by
  induction fs with
  | nil => obtain ⟨f, hf, -⟩ := herror; cases hf
  | cons f fs ih =>
    rw [List.forM_cons]
    rcases hsteps f List.mem_cons_self with hf | hf
    · rw [hf]
      refine ih (fun g hg => hsteps g (List.mem_cons_of_mem f hg)) ?_
      obtain ⟨g, hg, hstep⟩ := herror
      rcases List.mem_cons.mp hg with rfl | hg
      · cases hf.symm.trans hstep
      · exact ⟨g, hg, hstep⟩
    · rw [hf]
      rfl

end

/-- A structure whose other fields are in order is refused for the one that is missing. -/
theorem Shape.Describes.missing (h : shape.Describes required optional) {get get' : String → Option Node}
    (hname : name ∈ required.map (·.1)) (hsame : AgreeBut name get get') (hnone : get' name = none)
    (hbuild : shape.build get = .ok x) : shape.build get' = .error .mismatch := by
  have hbefore : ∀ f ∈ shape.fields, fieldStep (required.map (·.1)) get f = .ok () := by
    rw [← forM_eq_ok, ← h.builds, hbuild]
    rfl
  have hmissing : ∀ c, fieldStep (required.map (·.1)) get' (name, c) = .error .mismatch := by
    intro c
    simp only [fieldStep, hnone, if_pos hname]
  have hafter : forM shape.fields (fieldStep (required.map (·.1)) get') = .error .mismatch := by
    refine forM_eq_error (fun f hf => ?_) ?_
    · obtain ⟨n, c⟩ := f
      by_cases hn : n = name
      · exact .inr (hn ▸ hmissing c)
      · refine .inl ?_
        rw [fieldStep, hsame n hn]
        exact hbefore (n, c) hf
    · obtain ⟨⟨_, c⟩, hc, rfl⟩ := List.mem_map.mp (h.mem_of_required hname)
      exact ⟨_, hc, hmissing c⟩
  rw [← h.builds] at hafter
  cases hget : shape.build get' with
  | ok y => rw [hget] at hafter; cases hafter
  | error e => rw [hget] at hafter; cases hafter; rfl

theorem Shape.Describes.read_spoiled (h : shape.Describes required optional)
    (hv : shape.read (.obj ms none) = .ok x) (hms : Spoils (.struct required optional) ms ms') :
    shape.read (.obj ms' none) = .error .mismatch := by
  obtain ⟨hpasses, hnodup, -⟩ := Shape.read_eq_ok.mp hv
  have happend (m : Member) (ms between rest : List Member) :
      ms ++ m :: (between ++ rest) = ms ++ m :: between ++ rest := by simp
  cases hms with
  | remove hrequired hremoves =>
    obtain ⟨hname⟩ := hremoves
    obtain ⟨c, hc⟩ := h.field_of_required hrequired
    obtain ⟨get, get', hsame, hnone, hbuild, hread⟩ := Shape.read_removed hname hc hv
    rw [hread]
    exact h.missing hrequired hsame hnone hbuild
  | @again _ _ name kind k k' w w' ms between rest hname hname' hkind =>
    obtain ⟨c, hc, -⟩ := h.known hkind
    rw [happend] at hpasses hnodup
    rw [happend]
    refine Shape.read_refused (Shape.collect_start hpasses hnodup) hname' hc (.inl ?_)
    rw [Shape.found_known hname hc, Ne, lookup_eq_none_iff_not_mem]
    simp
  | @before _ _ name kind k k' w ms between rest hname hname' hkind =>
    obtain ⟨c, hc, -⟩ := h.known hkind
    have hpasses' : ∀ m ∈ ms ++ (k', w) :: between, Passes shape.fields m := by
      simp only [List.forall_mem_append, List.forall_mem_cons] at hpasses ⊢
      exact ⟨hpasses.1, (passes_field hname' hc).mpr ((passes_field hname hc).mp hpasses.2.2.1), hpasses.2.1⟩
    have hnodup' : ((shape.found (ms ++ (k', w) :: between)).map (·.1)).Nodup := by
      rw [← List.append_assoc, Shape.found_known hname hc, Shape.found_append] at hnodup
      rw [Shape.found_known hname' hc]
      simp only [List.map_append, List.map_cons, List.nodup_middle] at hnodup ⊢
      exact hnodup.sublist ((List.sublist_append_left _ _).cons_cons _)
    rw [happend]
    refine Shape.read_refused (collect_nil_eq_ok.mpr ⟨hpasses', hnodup', rfl⟩) hname hc (.inl ?_)
    rw [← Shape.found, Shape.found_known hname' hc, Ne, lookup_eq_none_iff_not_mem]
    simp

theorem Shape.Describes.refuses (h : shape.Describes required optional) (hv : shape.read v = .ok x)
    (hchange : Within Spoils (.struct required optional) v v') : shape.read v' = .error .mismatch := by
  rcases within_struct hchange with ⟨ms, ms', rfl, rfl, hms⟩ | ⟨ms, k, w, w', rest, rfl, rfl, hinner⟩
  · exact h.read_spoiled hv hms
  rcases hinner with ⟨name, kind, hname, hkind, hinner⟩ | ⟨name, hname, hnone, hinner⟩
  · obtain ⟨hpasses, hnodup, -⟩ := Shape.read_eq_ok.mp hv
    obtain ⟨c, hc, hminds⟩ := h.known hkind
    have hw := (passes_field hname hc).mp (hpasses (k, w) (by simp))
    exact Shape.read_refused (Shape.collect_start hpasses hnodup) hname hc (.inr (hminds.refuses hw hinner))
  · exact absurd hinner not_spoils_foreign

/-- A structure minds its known members alone. -/
theorem Shape.Describes.minds (h : shape.Describes required optional) : Minds shape.read (.struct required optional) :=
  ⟨h.keeps, h.refuses⟩

end

end PassDelta.Json
