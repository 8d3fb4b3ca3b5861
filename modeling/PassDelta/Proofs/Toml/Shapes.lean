import PassDelta.Toml.Table
/-!
# Tables without their places

Whether a member may be added under a path of keys depends on the names and on the kinds of the tables there, not on
where they stand in the text. And a path whose first key is of some class of names leads through members of that class
only.
-/

namespace PassDelta.Toml

inductive Origin.Kind where
  | header
  | implied
  | dotted
  | braces
  deriving DecidableEq

def Origin.kind : Origin → Origin.Kind
  | header _ => .header
  | implied => .implied
  | dotted => .dotted
  | braces _ => .braces

/-- What is left of an item when values and places are forgotten. -/
inductive Shape where
  | value
  | table (kind : Origin.Kind) (members : List (String × Shape))
  | tables (entries : List (List (String × Shape)))

mutual

def Item.shape : Item → Shape
  | .scalar .. => .value
  | .list .. => .value
  | .table origin members => .table origin.kind (shapes members)
  | .tables entries => .tables (shapesEach entries)

def shapes : List (Key × Item) → List (String × Shape)
  | [] => []
  | (key, item) :: rest => (key.name, item.shape) :: shapes rest

def shapesEach : List (Span × List (Key × Item)) → List (List (String × Shape))
  | [] => []
  | (_, members) :: rest => shapes members :: shapesEach rest

end

theorem shapes_eq (members : Members) : shapes members = members.map fun m => (m.1.name, m.2.shape) := by
  induction members with
  | nil => rfl
  | cons m rest ih =>
    rw [List.map_cons, ← ih]
    rfl

theorem shapesEach_eq (entries : List (Span × Members)) :
    shapesEach entries = entries.map fun e => shapes e.2 := by
  induction entries with
  | nil => rfl
  | cons e rest ih =>
    rw [List.map_cons, ← ih]
    rfl

theorem shapes_append (front back : Members) : shapes (front ++ back) = shapes front ++ shapes back := by
  simp only [shapes_eq, List.map_append]

theorem shapes_find (name : String) (members : Members) :
    (members.find name).map Item.shape = (shapes members).lookup name := by
  rw [shapes_eq]
  induction members with
  | nil => rfl
  | cons m rest ih =>
    by_cases hname : m.1.name = name
    · simp [Members.find, hname]
    · have hne : (name == m.1.name) = false := beq_false_of_ne (Ne.symm hname)
      rw [List.map_cons, List.lookup_cons, hne, ← ih]
      simp [Members.find, hname]

theorem shapes_replace (name : String) (item : Item) (members : Members) :
    shapes (members.replace name item) =
      (shapes members).map fun m => if m.1 = name then (m.1, item.shape) else m := by
  simp only [shapes_eq, Members.replace, List.map_map]
  refine List.map_congr_left fun m _ => ?_
  by_cases hname : m.1.name = name <;> simp [hname]

def Members.set (members : Members) (key : Key) (item : Item) : Members :=
  match members.find key.name with
  | none => members ++ [(key, item)]
  | some _ => members.replace key.name item

/-- What a member, or what is made where there is none, becomes at the hands of a path that leads through it. -/
def enter (dotted : Bool) (change : Origin → Members → Option Members) (path : List Key) : Option Item → Option Item
  | none =>
    let origin := if dotted then Origin.dotted else .implied
    (within dotted change path origin []).map (.table origin)
  | some (.table origin inner) =>
    if origin.isOpen dotted then (within dotted change path origin inner).map (.table origin) else none
  | some (.tables entries) =>
    entries.getLast?.bind fun e =>
      (within dotted change path (.header e.1) e.2).map fun inner => .tables (entries.dropLast ++ [(e.1, inner)])
  | some _ => none

theorem within_cons (dotted : Bool) (change : Origin → Members → Option Members) (key : Key) (path : List Key)
    (origin : Origin) (members : Members) : within dotted change (key :: path) origin members =
      (enter dotted change path (members.find key.name)).map (members.set key) := by
  have hmap {α β : Type} (x : Option α) (f : α → β) : (x >>= fun a => pure (f a)) = x.map f := by cases x <;> rfl
  rw [within]
  unfold enter Members.set
  cases hm : members.find key.name with
  | none =>
    dsimp only
    rw [hmap, Option.map_map]
    rfl
  | some item =>
    cases item with
    | scalar | list => rfl
    | table reached inner =>
      dsimp only
      split
      · rw [hmap, Option.map_map]
        rfl
      · rfl
    | tables entries =>
      cases he : entries.getLast? with
      | none => simp [he]
      | some e =>
        simp only [he, Option.bind_eq_bind, Option.bind_some, Option.map_map]
        rw [← Option.bind_eq_bind, hmap]
        rfl

theorem add_eq (members : Members) (key : Key) (item : Item) :
    members.add key item = if members.find key.name = none then some (members.set key item) else none := by
  unfold Members.add Members.set
  cases members.find key.name <;> rfl

def Members.move (members : Members) (key : Key) (item : Item) : Members :=
  members.filter (fun m => m.1.name ≠ key.name) ++ [(key, item)]

def opened (span : Span) : Option Item → Option Item
  | none => some (.table (.header span) [])
  | some (.table .implied inner) => some (.table (.header span) inner)
  | some _ => none

def prolonged (span : Span) : Option Item → Option Item
  | none => some (.tables [(span, [])])
  | some (.tables entries) => some (.tables (entries ++ [(span, [])]))
  | some _ => none

theorem openTable_eq (key : Key) (span : Span) (members : Members) :
    openTable key span members = (opened span (members.find key.name)).map (members.move key) := by
  unfold openTable opened
  cases hm : members.find key.name with
  | none =>
    have hall : members.filter (fun m => m.1.name ≠ key.name) = members := by
      rw [List.filter_eq_self]
      simpa [Members.find] using hm
    exact congrArg some (by rw [Members.move, hall])
  | some item =>
    cases item with
    | scalar | list | tables => rfl
    | table origin inner => cases origin <;> rfl

theorem openEntry_eq (key : Key) (span : Span) (members : Members) :
    openEntry key span members = (prolonged span (members.find key.name)).map (members.set key) := by
  unfold openEntry prolonged Members.set
  cases members.find key.name with
  | none => rfl
  | some item => cases item <;> rfl

/-- A change of the member under one key, by what is found there. -/
inductive OneMember (key : Key) (change : Members → Option Members) : Prop
  | set (next : Option Item → Option Item)
      (h : ∀ members, change members = (next (members.find key.name)).map (members.set key))
  | move (next : Option Item → Option Item)
      (h : ∀ members, change members = (next (members.find key.name)).map (members.move key))

theorem oneMember_within (dotted : Bool) {change : Origin → Members → Option Members} (path : List Key) {key : Key}
    (origin : Origin) (h : path = [] → OneMember key (change origin)) :
    OneMember (path.headD key) (within dotted change path origin) := by
  cases path with
  | nil => exact h rfl
  | cons first path => exact .set (enter dotted change path) (within_cons dotted change first path origin)

theorem oneMember_assign (path : List Key) (key : Key) (item : Item) (origin : Origin) :
    OneMember (path.headD key) (assign path key item origin) := by
  refine oneMember_within true path origin fun hpath => ?_
  refine .set (fun found => if found = none then some item else none) fun members => ?_
  rw [hpath, List.isEmpty_nil, Bool.true_or, if_pos rfl, add_eq]
  split <;> rfl

def Members.names (members : Members) : List String := members.map fun m => m.1.name

theorem find_eq_none {name : String} {members : Members} : members.find name = none ↔ name ∉ members.names := by
  simp [Members.find, Members.names]

theorem names_set (members : Members) (key : Key) (item : Item) :
    (members.set key item).names = if key.name ∈ members.names then members.names else members.names ++ [key.name] := by
  unfold Members.set
  cases hm : members.find key.name with
  | none =>
    rw [if_neg (find_eq_none.1 hm)]
    simp [Members.names]
  | some found =>
    rw [if_pos (Classical.not_not.1 fun h => Option.some_ne_none found (hm ▸ find_eq_none.2 h))]
    simp only [Members.names, Members.replace, List.map_map]
    refine List.map_congr_left fun m _ => ?_
    by_cases hname : m.1.name = key.name <;> simp [hname]

theorem OneMember.names {key : Key} {change : Members → Option Members} (h : OneMember key change)
    {members all : Members} (hall : change members = some all) :
    key.name ∈ all.names ∧ ∀ name ∈ members.names, name ∈ all.names := by
  cases h with
  | set next heq =>
    rw [heq] at hall
    obtain ⟨item, -, rfl⟩ := Option.map_eq_some_iff.1 hall
    rw [names_set]
    split
    · next hmem => exact ⟨hmem, fun _ hname => hname⟩
    · exact ⟨by simp, fun _ hname => List.mem_append_left _ hname⟩
  | move next heq =>
    rw [heq] at hall
    obtain ⟨item, -, rfl⟩ := Option.map_eq_some_iff.1 hall
    refine ⟨by simp [Members.names, Members.move], fun name hname => ?_⟩
    by_cases hkey : name = key.name
    · simp [Members.names, Members.move, hkey]
    · obtain ⟨m, hm, rfl⟩ := List.mem_map.1 hname
      exact List.mem_map.2 ⟨m, List.mem_append_left _ (List.mem_filter.2 ⟨hm, by simpa using hkey⟩), rfl⟩

section Congruence
variable {members members' : Members} {key key' : Key} {item item' : Item}

theorem shapes_find_congr (h : shapes members = shapes members') (name : String) :
    (members.find name).map Item.shape = (members'.find name).map Item.shape := by
  rw [shapes_find, shapes_find, h]

theorem find_none_congr (h : shapes members = shapes members') (name : String) :
    members.find name = none ↔ members'.find name = none := by
  rw [← Option.map_eq_none_iff (f := Item.shape), shapes_find_congr h, Option.map_eq_none_iff]

theorem shapes_set_congr (h : shapes members = shapes members') (hkey : key.name = key'.name)
    (hitem : item.shape = item'.shape) : shapes (members.set key item) = shapes (members'.set key' item') := by
  have hnone := find_none_congr h key.name
  unfold Members.set
  rw [← hkey]
  cases hm : members.find key.name with
  | none =>
    rw [hnone.1 hm]
    dsimp only
    rw [shapes_append, shapes_append, h, shapes, shapes, shapes, shapes, hkey, hitem]
  | some found =>
    obtain ⟨found', hm'⟩ := Option.ne_none_iff_exists'.1 fun h' => Option.some_ne_none found (hm ▸ hnone.2 h')
    rw [hm']
    dsimp only
    rw [shapes_replace, shapes_replace, h, hitem]

theorem add_congr (h : shapes members = shapes members') (hkey : key.name = key'.name)
    (hitem : item.shape = item'.shape) :
    (members.add key item).map shapes = (members'.add key' item').map shapes := by
  rw [add_eq, add_eq, ← hkey]
  by_cases hm : members.find key.name = none
  · rw [if_pos hm, if_pos ((find_none_congr h key.name).1 hm)]
    exact congrArg some (shapes_set_congr h hkey hitem)
  · rw [if_neg hm, if_neg fun h' => hm ((find_none_congr h key.name).2 h')]

theorem isOpen_congr {origin origin' : Origin} (h : origin.kind = origin'.kind) (dotted : Bool) :
    origin.isOpen dotted = origin'.isOpen dotted := by
  cases origin <;> cases origin' <;> first | rfl | cases h

def SameChange (change change' : Origin → Members → Option Members) : Prop :=
  ∀ (origin origin' : Origin) (members members' : Members), origin.kind = origin'.kind →
    shapes members = shapes members' → (change origin members).map shapes = (change' origin' members').map shapes

theorem map_congr {α β γ δ : Type} {x : Option α} {x' : Option α} {view : α → γ} {f f' : α → β} {view' : β → δ}
    (h : x.map view = x'.map view) (hf : ∀ a a', view a = view a' → view' (f a) = view' (f' a')) :
    (x.map f).map view' = (x'.map f').map view' := by
  cases x with
  | none =>
    cases x' with
    | none => rfl
    | some => cases h
  | some a =>
    cases x' with
    | none => cases h
    | some a' => exact congrArg some (hf a a' (Option.some.inj h))

section Enter
variable {dotted : Bool} {change change' : Origin → Members → Option Members} {path path' : List Key}
variable (hinner : SameChange (within dotted change path) (within dotted change' path'))
include hinner

theorem within_table_congr {origin origin' : Origin} {inner inner' : Members} (hkind : origin.kind = origin'.kind)
    (hsame : shapes inner = shapes inner') :
    ((within dotted change path origin inner).map (.table origin)).map Item.shape =
      ((within dotted change' path' origin' inner').map (.table origin')).map Item.shape :=
  map_congr (hinner _ _ _ _ hkind hsame) fun _ _ h => by rw [Item.shape, Item.shape, hkind, h]

/-- A path leads into the last table of a list, and those before it stay. -/
theorem enter_tables_congr {entries entries' : List (Span × Members)}
    (hentries : entries.map (fun e => shapes e.2) = entries'.map (fun e => shapes e.2)) :
    (enter dotted change path (some (.tables entries))).map Item.shape =
      (enter dotted change' path' (some (.tables entries'))).map Item.shape := by
  have hlast := congrArg List.getLast? hentries
  have hinit := congrArg List.dropLast hentries
  rw [List.getLast?_map, List.getLast?_map] at hlast
  rw [← List.map_dropLast, ← List.map_dropLast] at hinit
  unfold enter
  dsimp only
  cases he : entries.getLast? with
  | none =>
    rw [he] at hlast
    rw [Option.map_eq_none_iff.1 hlast.symm]
    rfl
  | some e =>
    cases he' : entries'.getLast? with
    | none => rw [he, he'] at hlast; cases hlast
    | some e' =>
      rw [he, he'] at hlast
      rw [Option.bind_some, Option.bind_some]
      have hentry := hinner (.header e.1) (.header e'.1) e.2 e'.2 rfl (Option.some.inj hlast)
      refine map_congr hentry fun _ _ h => ?_
      rw [Item.shape, Item.shape, shapesEach_eq, shapesEach_eq, List.map_append, List.map_append, hinit,
        List.map_singleton, List.map_singleton, h]

theorem enter_congr {found found' : Option Item} (h : found.map Item.shape = found'.map Item.shape) :
    (enter dotted change path found).map Item.shape = (enter dotted change' path' found').map Item.shape := by
  cases found with
  | none =>
    cases found' with
    | none => exact within_table_congr hinner rfl rfl
    | some => cases h
  | some item =>
    cases found' with
    | none => cases h
    | some item' =>
      have hshape : item.shape = item'.shape := Option.some.inj h
      cases item with
      | scalar | list =>
        cases item' with
        | scalar | list => rfl
        | table | tables => cases hshape
      | table origin inner =>
        cases item' with
        | scalar | list | tables => cases hshape
        | table origin' inner' =>
          obtain ⟨hkind, hsame⟩ := Shape.table.inj hshape
          unfold enter
          dsimp only
          rw [isOpen_congr hkind]
          split
          · exact within_table_congr hinner hkind hsame
          · rfl
      | tables entries =>
        cases item' with
        | scalar | list | table => cases hshape
        | tables entries' =>
          refine enter_tables_congr hinner ?_
          rw [← shapesEach_eq, ← shapesEach_eq]
          exact Shape.tables.inj hshape

end Enter

theorem within_congr (dotted : Bool) {change change' : Origin → Members → Option Members}
    (hchange : SameChange change change') {path path' : List Key} (hpath : path.map Key.name = path'.map Key.name) :
    SameChange (within dotted change path) (within dotted change' path') := by
  induction path generalizing path' with
  | nil =>
    obtain rfl : path' = [] := by simpa using hpath.symm
    exact hchange
  | cons key path ih =>
    cases path' with
    | nil => cases hpath
    | cons key' path' =>
      obtain ⟨hkey, hpath⟩ := List.cons.inj hpath
      intro origin origin' members members' _ h
      have hentered := enter_congr (ih hpath) (shapes_find_congr h key.name)
      rw [within_cons, within_cons, ← hkey]
      exact map_congr hentered fun _ _ hitem => shapes_set_congr h hkey hitem

theorem eq_dotted_iff (origin : Origin) : origin = .dotted ↔ origin.kind = .dotted := by
  cases origin <;> simp [Origin.kind]

/-- Whether a value may be added under a dotted key, and the shape of what comes of it, depends on shapes and names. -/
theorem assign_congr {path path' : List Key} (hpath : path.map Key.name = path'.map Key.name)
    (hkey : key.name = key'.name) (hitem : item.shape = item'.shape) :
    SameChange (assign path key item) (assign path' key' item') := by
  have hempty : path.isEmpty = path'.isEmpty := by
    rw [← List.isEmpty_map (f := Key.name), hpath, List.isEmpty_map]
  refine within_congr true (fun reached reached' inner inner' hkind h => ?_) hpath
  have hdotted : reached = .dotted ↔ reached' = .dotted := by rw [eq_dotted_iff, eq_dotted_iff, hkind]
  rw [hempty]
  simp only [hdotted]
  split
  · exact add_congr h hkey hitem
  · rfl

theorem shapes_move_congr (h : shapes members = shapes members') (key : Key) (hitem : item.shape = item'.shape) :
    shapes (members.move key item) = shapes (members'.move key item') := by
  have hfilter (members : Members) : shapes (members.filter fun m => m.1.name ≠ key.name) =
      (shapes members).filter fun m => m.1 ≠ key.name := by
    rw [shapes_eq, shapes_eq, List.filter_map]
    rfl
  unfold Members.move
  rw [shapes_append, shapes_append, hfilter, hfilter, h, shapes, shapes, shapes, shapes, hitem]

theorem opened_congr (span : Span) {found found' : Option Item} (h : found.map Item.shape = found'.map Item.shape) :
    (opened span found).map Item.shape = (opened span found').map Item.shape := by
  match found, found', h with
  | none, none, _ => rfl
  | some item, some item', h =>
    have hshape : item.shape = item'.shape := Option.some.inj h
    match item, item', hshape with
    | .scalar .., .scalar .., _ | .scalar .., .list .., _ | .list .., .scalar .., _ | .list .., .list .., _ => rfl
    | .tables _, .tables _, _ => rfl
    | .table origin inner, .table origin' inner', hshape =>
      obtain ⟨hkind, hsame⟩ := Shape.table.inj hshape
      match origin, origin', hkind with
      | .header _, .header _, _ | .dotted, .dotted, _ | .braces _, .braces _, _ => rfl
      | .implied, .implied, _ =>
        unfold opened
        rw [Option.map_some, Option.map_some, Item.shape, Item.shape, hsame]

theorem prolonged_congr (span : Span) {found found' : Option Item} (h : found.map Item.shape = found'.map Item.shape) :
    (prolonged span found).map Item.shape = (prolonged span found').map Item.shape := by
  match found, found', h with
  | none, none, _ => rfl
  | some item, some item', h =>
    have hshape : item.shape = item'.shape := Option.some.inj h
    match item, item', hshape with
    | .scalar .., .scalar .., _ | .scalar .., .list .., _ | .list .., .scalar .., _ | .list .., .list .., _ => rfl
    | .table .., .table .., _ => rfl
    | .tables entries, .tables entries', hshape =>
      have hentries := Shape.tables.inj hshape
      rw [shapesEach_eq, shapesEach_eq] at hentries
      unfold prolonged
      rw [Option.map_some, Option.map_some, Item.shape, Item.shape, shapesEach_eq, shapesEach_eq, List.map_append,
        List.map_append, hentries]

theorem openTable_congr (key : Key) (span : Span) :
    SameChange (fun _ => openTable key span) fun _ => openTable key span := by
  intro _ _ members members' _ h
  dsimp only
  rw [openTable_eq, openTable_eq]
  exact map_congr (opened_congr span (shapes_find_congr h key.name)) fun _ _ hitem => shapes_move_congr h key hitem

theorem openEntry_congr (key : Key) (span : Span) :
    SameChange (fun _ => openEntry key span) fun _ => openEntry key span := by
  intro _ _ members members' _ h
  dsimp only
  rw [openEntry_eq, openEntry_eq]
  exact map_congr (prolonged_congr span (shapes_find_congr h key.name)) fun _ _ hitem => shapes_set_congr h rfl hitem

end Congruence

section Class
variable (p : String → Bool)

def part (members : Members) : Members := members.filter fun m => p m.1.name

variable {p}

theorem find_part {name : String} (hname : p name = true) (members : Members) :
    (part p members).find name = members.find name := by
  unfold part Members.find
  rw [List.find?_filter]
  congr 2
  funext m
  by_cases hm : m.1.name = name <;> simp [hm, hname]

theorem part_replace (name : String) (item : Item) (members : Members) :
    part p (members.replace name item) = (part p members).replace name item := by
  unfold part Members.replace
  rw [List.filter_map]
  congr 2
  funext m
  by_cases hm : m.1.name = name <;> simp [hm]

theorem replace_absent {name : String} {members : Members} (h : ∀ m ∈ members, m.1.name ≠ name) (item : Item) :
    members.replace name item = members := by
  unfold Members.replace
  refine (List.map_congr_left fun m hm => ?_).trans (List.map_id members)
  rw [if_neg (h m hm), id]

theorem part_set {key : Key} (hkey : p key.name = true) (item : Item) (members : Members) :
    part p (members.set key item) = (part p members).set key item := by
  unfold Members.set
  rw [find_part hkey]
  cases members.find key.name with
  | none => simp [part, hkey]
  | some found => exact part_replace key.name item members

theorem part_set_other {key : Key} (hkey : p key.name = false) (item : Item) (members : Members) :
    part p (members.set key item) = part p members := by
  unfold Members.set
  cases members.find key.name with
  | none => simp [part, hkey]
  | some found =>
    dsimp only
    rw [part_replace]
    refine replace_absent (fun m hm heq => ?_) item
    have hp := (List.mem_filter.1 hm).2
    rw [heq, hkey] at hp
    cases hp

theorem part_move {key : Key} (hkey : p key.name = true) (item : Item) (members : Members) :
    part p (members.move key item) = (part p members).move key item := by
  unfold part Members.move
  rw [List.filter_append, List.filter_filter, List.filter_filter]
  simp [hkey, Bool.and_comm]

theorem part_move_other {key : Key} (hkey : p key.name = false) (item : Item) (members : Members) :
    part p (members.move key item) = part p members := by
  unfold part Members.move
  rw [List.filter_append, List.filter_filter]
  simp only [List.filter_cons, hkey, Bool.false_eq_true, if_false, List.filter_nil, List.append_nil]
  refine List.filter_congr fun m _ => ?_
  by_cases hm : m.1.name = key.name
  · simp [hm, hkey]
  · simp [hm]

/-- What can be made of the members of a class can be made of all members, and the others stay as they are. -/
theorem OneMember.part {key : Key} {change : Members → Option Members} (h : OneMember key change)
    (hkey : p key.name = true) {members inside : Members} (hinside : change (part p members) = some inside) :
    ∃ all, change members = some all ∧ Toml.part p all = inside ∧
      Toml.part (fun name => !p name) all = Toml.part (fun name => !p name) members := by
  have hother : (!p key.name) = false := by rw [hkey, Bool.not_true]
  cases h with
  | set next heq =>
    rw [heq, find_part hkey] at hinside
    obtain ⟨item, hitem, rfl⟩ := Option.map_eq_some_iff.1 hinside
    exact ⟨members.set key item, by rw [heq, hitem, Option.map_some], part_set hkey item members,
      part_set_other hother item members⟩
  | move next heq =>
    rw [heq, find_part hkey] at hinside
    obtain ⟨item, hitem, rfl⟩ := Option.map_eq_some_iff.1 hinside
    exact ⟨members.move key item, by rw [heq, hitem, Option.map_some], part_move hkey item members,
      part_move_other hother item members⟩

/-- Changes of one member that depend on shapes only and come to the same. -/
structure Alike (change change' : Members → Option Members) : Prop where
  one : ∃ key, OneMember key change
  one' : ∃ key, OneMember key change'
  same : ∀ {members members'}, shapes members = shapes members' →
    (change members).map shapes = (change' members').map shapes

theorem names_eq_shapes (members : Members) : members.names = (shapes members).map Prod.fst := by
  rw [shapes_eq, List.map_map]
  rfl

/-- What is made of members of a class, and remains in the class, is made of them among others too. -/
theorem Alike.part {change change' : Members → Option Members} (h : Alike change change')
    {inside next members : Members} (hinside : shapes inside = shapes (part p members))
    (hnext : change inside = some next) (hclass : ∀ name ∈ next.names, p name = true) :
    ∃ all, change' members = some all ∧ shapes next = shapes (Toml.part p all) ∧
      Toml.part (fun name => !p name) all = Toml.part (fun name => !p name) members := by
  have hsame := h.same hinside
  rw [hnext] at hsame
  obtain ⟨next', hnext', hshapes⟩ := Option.map_eq_some_iff.1 hsame.symm
  obtain ⟨key, hkey⟩ := h.one'
  have hname : p key.name = true := by
    refine hclass key.name ?_
    rw [names_eq_shapes, ← hshapes, ← names_eq_shapes]
    exact (hkey.names hnext').1
  obtain ⟨all, hall, rfl, hothers⟩ := hkey.part hname hnext'
  exact ⟨all, hall, hshapes.symm, hothers⟩

end Class

end PassDelta.Toml
