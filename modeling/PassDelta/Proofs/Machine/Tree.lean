import PassDelta.Machine.Tree
import PassDelta.Proofs.Session
import PassDelta.Proofs.Utf8
/-!
# Trees under file operations

The making of directories and the writing of files only add to a tree: a directory or a link stays what it is, and a
file stays a file. A walk along a path looks at nothing else, so what a path led to it leads to still.
-/

namespace PassDelta.Machine

def Entry.isLeaf : Entry → Bool
  | .dir _ => false
  | .link _ => false
  | _ => true

namespace Tree

theorem lookup_replace (entries : List (Place × Entry)) (place q : Place) (e : Entry) :
    (entries.map fun x => if x.1 = place then (place, e) else x).lookup q =
      if q = place then (entries.lookup place).map fun _ => e else entries.lookup q := by
  induction entries with
  | nil => split <;> rfl
  | cons x rest ih =>
    obtain ⟨below, old⟩ := x
    rw [List.map_cons, List.lookup_cons, List.lookup_cons, List.lookup_cons, ih]
    by_cases hbelow : below = place
    · subst hbelow
      by_cases hq : q = below
      · simp [hq]
      · simp [hq, beq_eq_false_iff_ne.mpr hq]
    · by_cases hq : q = place
      · subst hq
        simp [hbelow, beq_eq_false_iff_ne.mpr (Ne.symm hbelow)]
      · simp [hbelow, hq]

/-- What is put at a place is there, and nothing else has changed. -/
theorem entry?_put (t : Tree) {place : Place} (hplace : place ≠ []) (e : Entry) (q : Place) :
    Tree.entry? (t.put place e) q = if q = place then some e else t.entry? q := by
  unfold entry? put
  by_cases hroot : q = []
  · rw [if_pos hroot, if_neg (hroot ▸ hplace.symm), if_pos hroot]
  · rw [if_neg hroot, if_neg hroot]
    cases hold : t.entries.lookup place with
    | some old => simp only [lookup_replace, hold, Option.map_some]
    | none =>
      dsimp only
      rw [List.lookup_append, List.lookup_cons]
      by_cases hq : q = place
      · subst hq
        simp [hold]
      · simp [hq, beq_eq_false_iff_ne.mpr hq]

/-- Every entry of `t` is in `u`: directories and links as they are, a leaf perhaps as another one. -/
def Extends (t u : Tree) : Prop := ∀ place e, t.entry? place = some e →
  u.entry? place = some e ∨ e.isLeaf = true ∧ ∃ e', u.entry? place = some e' ∧ e'.isLeaf = true

/-- The tree `u` is `t` with more directories. -/
structure Grows (t u : Tree) : Prop where
  kept : ∀ place e, t.entry? place = some e → u.entry? place = some e
  added : ∀ place e, u.entry? place = some e → t.entry? place = some e ∨ e.isDir = true

theorem Extends.refl (t : Tree) : t.Extends t := fun _ _ h => .inl h

theorem Extends.trans {t u v : Tree} (htu : t.Extends u) (huv : u.Extends v) : t.Extends v := by
  intro place e he
  rcases htu place e he with hu | ⟨hleaf, e', hu, hleaf'⟩
  · exact huv place e hu
  · rcases huv place e' hu with hv | ⟨-, e'', hv, hleaf''⟩
    · exact .inr ⟨hleaf, e', hv, hleaf'⟩
    · exact .inr ⟨hleaf, e'', hv, hleaf''⟩

theorem Grows.extends {t u : Tree} (h : t.Grows u) : t.Extends u := fun place e he => .inl (h.kept place e he)

theorem Grows.refl (t : Tree) : t.Grows t := ⟨fun _ _ h => h, fun _ _ h => .inl h⟩

theorem Grows.trans {t u v : Tree} (htu : t.Grows u) (huv : u.Grows v) : t.Grows v where
  kept place e he := huv.kept place e (htu.kept place e he)
  added place e he := (huv.added place e he).elim (htu.added place e) .inr

theorem extends_put {t : Tree} {place : Place} (hplace : place ≠ []) {e : Entry} (hleaf : e.isLeaf = true)
    (hold : ∀ old, t.entry? place = some old → old.isLeaf = true) : t.Extends (t.put place e) := by
  intro q old hq
  rw [entry?_put t hplace]
  split
  · next heq =>
    subst heq
    exact .inr ⟨hold old hq, e, rfl, hleaf⟩
  · exact .inl hq

theorem grows_put {t : Tree} {place : Place} (hplace : place ≠ []) (hfree : t.entry? place = none) (mode : Nat) :
    t.Grows (t.put place (.dir mode)) where
  kept q e he := by
    rw [entry?_put t hplace, if_neg ?_, he]
    rintro rfl
    rw [hfree] at he
    cases he
  added q e he := by
    rw [entry?_put t hplace] at he
    split at he
    · obtain rfl := Option.some.inj he
      exact .inr rfl
    · exact .inl he

theorem isDir_iff {t : Tree} {place : Place} : t.isDir place = true ↔ ∃ mode, t.entry? place = some (.dir mode) := by
  unfold isDir
  cases t.entry? place with
  | none => simp
  | some e => cases e <;> simp [Entry.isDir]

/-- A directory stays one. -/
theorem Extends.isDir {t u : Tree} (h : t.Extends u) {place : Place} (hdir : t.isDir place = true) :
    u.isDir place = true := by
  obtain ⟨mode, he⟩ := isDir_iff.mp hdir
  rcases h place _ he with hu | ⟨hleaf, -⟩
  · exact isDir_iff.mpr ⟨mode, hu⟩
  · cases hleaf

/-- From a place names lead to another one, over `n` links. -/
inductive Leads (t : Tree) : Nat → Place → List Bytes → Place → Prop
  | arrived (place : Place) : Leads t 0 place [] place
  | here {n : Nat} {place q : Place} {rest : List Bytes} (dir : t.isDir place = true) (onward : Leads t n place rest q) :
    Leads t n place ([Path.dot] :: rest) q
  | up {n : Nat} {place q : Place} {rest : List Bytes} (dir : t.isDir place = true)
      (onward : Leads t n place.dropLast rest q) : Leads t n place ([Path.dot, Path.dot] :: rest) q
  | down {n : Nat} {place q : Place} {name : Bytes} {rest : List Bytes} {e : Entry} (dir : t.isDir place = true)
      (proper : name ≠ [Path.dot] ∧ name ≠ [Path.dot, Path.dot] ∧ name.length ≤ maxName)
      (there : t.entry? (place ++ [name]) = some e) (solid : ∀ target, e ≠ .link target)
      (onward : Leads t n (place ++ [name]) rest q) : Leads t n place (name :: rest) q
  | link {n : Nat} {place q : Place} {name : Bytes} {rest : List Bytes} {target : Path} (dir : t.isDir place = true)
      (proper : name ≠ [Path.dot] ∧ name ≠ [Path.dot, Path.dot] ∧ name.length ≤ maxName)
      (there : t.entry? (place ++ [name]) = some (.link target))
      (onward : Leads t n (origin place target) (names target ++ rest) q) : Leads t (n + 1) place (name :: rest) q

namespace Leads
variable {t u : Tree} {n m : Nat} {place q r : Place} {xs ys : List Bytes}

theorem append (h : t.Leads n place xs q) (hr : t.Leads m q ys r) : t.Leads (m + n) place (xs ++ ys) r := by
  induction h with
  | arrived place => exact hr
  | here dir _ ih => exact .here dir (ih hr)
  | up dir _ ih => exact .up dir (ih hr)
  | down dir proper there solid _ ih => exact .down dir proper there solid (ih hr)
  | link dir proper there _ ih =>
    have honward := ih hr
    rw [List.append_assoc] at honward
    exact .link dir proper there honward

/-- What more is added changes no way that there was. -/
theorem mono (h : t.Leads n place xs q) (htu : t.Extends u) : u.Leads n place xs q := by
  induction h with
  | arrived place => exact .arrived place
  | here dir _ ih => exact .here (htu.isDir dir) ih
  | up dir _ ih => exact .up (htu.isDir dir) ih
  | down dir proper there solid _ ih =>
    rcases htu _ _ there with hu | ⟨-, e', hu, hleaf⟩
    · exact .down (htu.isDir dir) proper hu solid ih
    · refine .down (htu.isDir dir) proper hu ?_ ih
      rintro target rfl
      cases hleaf
  | link dir proper there _ ih =>
    rcases htu _ _ there with hu | ⟨hleaf, -⟩
    · exact .link (htu.isDir dir) proper hu ih
    · cases hleaf

/-- A walk ends where the names lead, if it may meet as many links. -/
theorem walk_eq (h : t.Leads n place xs q) (links : Nat) :
    t.walk true links place xs = if n ≤ links then .ok q else .error .eloop := by
  induction h generalizing links with
  | arrived place => rw [walk, if_pos (Nat.zero_le links)]
  | here dir _ ih => rw [walk, dir, ← ih]; rfl
  | up dir _ ih => rw [walk, dir, ← ih]; rfl
  | @down n place q name rest e dir proper there solid _ ih =>
    rw [walk, dir, there, ← ih]
    simp only [Bool.not_true, Bool.false_eq_true, ↓reduceIte, proper.1, proper.2.1, Nat.not_lt.mpr proper.2.2]
  | @link n place q name rest target dir proper there _ ih =>
    rw [walk, dir, there]
    simp only [Bool.not_true, Bool.false_eq_true, ↓reduceIte, proper.1, proper.2.1, Nat.not_lt.mpr proper.2.2,
      and_false]
    cases links with
    | zero => rfl
    | succ links =>
      dsimp only
      rw [ih]
      simp only [Nat.add_le_add_iff_right]

end Leads

/-- A walk that ends has followed the names. -/
theorem leads_of_walk {t : Tree} {links : Nat} {place q : Place} {xs : List Bytes}
    (h : t.walk true links place xs = .ok q) : ∃ n ≤ links, t.Leads n place xs q := by
  induction links, place, xs using walk.induct t true with
  | case1 links place =>
    rw [walk] at h
    obtain rfl := Except.ok.inj h
    exact ⟨0, Nat.zero_le _, .arrived place⟩
  | case2 links place name rest hdir => simp [walk, hdir] at h
  | case3 links place rest hdir ih =>
    simp only [walk, hdir, Bool.false_eq_true, ↓reduceIte] at h
    obtain ⟨n, hn, honward⟩ := ih h
    exact ⟨n, hn, .here (by simpa using hdir) honward⟩
  | case4 links place rest hdir hne ih =>
    simp only [walk, hdir, hne, Bool.false_eq_true, ↓reduceIte] at h
    obtain ⟨n, hn, honward⟩ := ih h
    exact ⟨n, hn, .up (by simpa using hdir) honward⟩
  | case5 links place name rest hdir hdot hup hlong => simp [walk, hdir, hdot, hup, hlong] at h
  | case6 links place name rest hdir hdot hup hlong hnone => simp [walk, hdir, hdot, hup, hlong, hnone] at h
  | case7 links place name rest hdir hdot hup hlong target hlink hlast => simp at hlast
  | case8 place name rest hdir hdot hup hlong target hlink hlast => simp [walk, hdir, hdot, hup, hlong, hlink] at h
  | case9 place name rest hdir hdot hup hlong target hlink hlast links ih =>
    rw [walk] at h
    simp only [hdir, hdot, hup, hlong, hlink, Bool.not_true, Bool.false_eq_true, and_false, ↓reduceIte] at h
    obtain ⟨n, hn, honward⟩ := ih h
    exact ⟨n + 1, Nat.succ_le_succ hn, .link (by simpa using hdir) ⟨hdot, hup, Nat.not_lt.mp hlong⟩ hlink honward⟩
  | case10 links place name rest hdir hdot hup hlong e hsolid hthere ih =>
    have hnext : t.walk true links (place ++ [name]) rest = .ok q := by
      rw [walk] at h
      simp only [hdir, hdot, hup, hlong, hthere, Bool.false_eq_true, ↓reduceIte] at h
      cases e with
      | link target => exact (hsolid target rfl).elim
      | _ => exact h
    obtain ⟨n, hn, honward⟩ := ih hnext
    exact ⟨n, hn, .down (by simpa using hdir) ⟨hdot, hup, Nat.not_lt.mp hlong⟩ hthere (fun _ hl => hsolid _ hl) honward⟩

section Paths
variable {t u : Tree} {here : Place} {p : Path} {q : Place}

theorem find_of_leads (hp : checkPath p = .ok ()) {n : Nat} (h : t.Leads n (origin here p) (names p) q) :
    t.find here p = if n ≤ maxLinks then .ok q else .error .eloop := by
  simp only [find, hp, follow]
  exact h.walk_eq maxLinks

theorem leads_of_find (h : t.find here p = .ok q) :
    checkPath p = .ok () ∧ ∃ n ≤ maxLinks, t.Leads n (origin here p) (names p) q := by
  unfold find at h
  cases hp : checkPath p with
  | error e =>
    rw [hp] at h
    cases h
  | ok _ =>
    rw [hp] at h
    exact ⟨rfl, leads_of_walk h⟩

/-- What a path leads to it leads to in every tree to which more was added. -/
theorem find_extends (htu : t.Extends u) (h : t.find here p = .ok q) : u.find here p = .ok q := by
  obtain ⟨hp, n, hn, hleads⟩ := leads_of_find h
  rw [find_of_leads hp (hleads.mono htu), if_pos hn]

/-- The directory and the name in which a path ends. -/
theorem slot_some {named : List Bytes} {dir : Place} {name : Bytes} (h : t.slot here p named = .ok (dir, some name)) :
    ∃ front n, named = front ++ [name] ∧ n ≤ maxLinks ∧ t.Leads n (origin here p) front dir ∧ t.isDir dir = true ∧
      name ≠ [Path.dot] ∧ name ≠ [Path.dot, Path.dot] := by
  unfold slot at h
  cases hlast : named.getLast? with
  | none =>
    rw [hlast] at h
    cases h
  | some last =>
    obtain ⟨front, rfl⟩ := List.getLast?_eq_some_iff.mp hlast
    simp only [hlast, List.dropLast_concat] at h
    obtain ⟨found, hfound, h⟩ := bind_eq_ok.mp h
    obtain ⟨n, hn, hleads⟩ := leads_of_walk hfound
    cases hdir : t.isDir found with
    | false =>
      simp only [hdir, Bool.not_false, ↓reduceIte] at h
      cases h
    | true =>
      by_cases hdots : last = [Path.dot] ∨ last = [Path.dot, Path.dot]
      · simp only [hdir, Bool.not_true, Bool.false_eq_true, ↓reduceIte, if_pos hdots] at h
        cases h
      · simp only [hdir, Bool.not_true, Bool.false_eq_true, ↓reduceIte, if_neg hdots] at h
        cases h
        exact ⟨front, n, rfl, hn, hleads, hdir, not_or.mp hdots⟩

theorem checkName_ok {name : Bytes} (h : checkName name = .ok ()) : name.length ≤ maxName := by
  unfold checkName at h
  split at h
  · cases h
  · next hlong => exact Nat.not_lt.mp hlong

/-- A directory that was made is where its path leads, and nothing else is new. -/
theorem makeDir_ok {mode : Nat} (h : t.makeDir here p mode = .ok u) : t.Grows u ∧ u.leadsToDir here p = true := by
  unfold makeDir at h
  obtain ⟨⟨⟩, hp, h⟩ := bind_eq_ok.mp h
  obtain ⟨⟨dir, name?⟩, hslot, h⟩ := bind_eq_ok.mp h
  cases name? with
  | none => cases h
  | some name =>
    obtain ⟨⟨⟩, hname, h⟩ := bind_eq_ok.mp h
    obtain ⟨front, n, hnamed, hn, hleads, hdir, hdot, hup⟩ := slot_some hslot
    cases hold : t.entry? (dir ++ [name]) with
    | some old =>
      simp only [hold, Option.isSome_some, ↓reduceIte] at h
      cases h
    | none =>
      simp only [hold, Option.isSome_none, Bool.false_eq_true, ↓reduceIte] at h
      cases h
      have hplace : dir ++ [name] ≠ [] := by simp
      have hgrows := grows_put hplace hold mode
      refine ⟨hgrows, ?_⟩
      have hnew : Tree.entry? (t.put (dir ++ [name]) (.dir mode)) (dir ++ [name]) = some (.dir mode) := by
        rw [entry?_put t hplace, if_pos rfl]
      have hnewDir := isDir_iff.mpr ⟨mode, hnew⟩
      -- a slash at the end makes one step more, on the spot
      have hrest : ∃ rest, names p = front ++ name :: rest ∧
          (t.put (dir ++ [name]) (.dir mode)).Leads 0 (dir ++ [name]) rest (dir ++ [name]) := by
        unfold names
        simp only [hnamed]
        split
        · exact ⟨[[Path.dot]], by simp, .here hnewDir (.arrived _)⟩
        · exact ⟨[], by simp, .arrived _⟩
      obtain ⟨rest, hnames, hthere⟩ := hrest
      have hlast : (t.put (dir ++ [name]) (.dir mode)).Leads 0 dir (name :: rest) (dir ++ [name]) :=
        .down (hgrows.extends.isDir hdir) ⟨hdot, hup, checkName_ok hname⟩ hnew (by rintro _ ⟨⟩) hthere
      have hwhole := (hleads.mono hgrows.extends).append hlast
      rw [← hnames] at hwhole
      rw [leadsToDir, find_of_leads hp hwhole, if_pos (by omega)]
      exact hnewDir

/-- Making a directory with those above it adds directories alone, even where it fails in the end. Where it does not,
the path leads to a directory. -/
theorem makeDirs_grows (here : Place) (mode fuel : Nat) (t : Tree) (p : Path) :
    t.Grows (makeDirs here mode fuel t p).2 ∧ ((makeDirs here mode fuel t p).1 = .ok () → p.bytes ≠ [] →
      (makeDirs here mode fuel t p).2.leadsToDir here p = true) := by
  have settled {b : Bool} {e : IoError}
      (hok : (if b = true then .ok () else .error e : Except IoError Unit) = .ok ()) : b = true := by
    cases b with
    | false => cases hok
    | true => rfl
  induction fuel generalizing t p with
  | zero => exact ⟨.refl t, by rintro ⟨⟩⟩
  | succ fuel ih =>
    unfold makeDirs
    by_cases hempty : p.bytes = []
    · rw [if_pos hempty]
      exact ⟨.refl t, fun _ hne => absurd hempty hne⟩
    rw [if_neg hempty]
    cases hmake : t.makeDir here p mode with
    | ok u => exact ⟨(makeDir_ok hmake).1, fun _ _ => (makeDir_ok hmake).2⟩
    | error e =>
      dsimp only
      by_cases he : e ≠ .enoent
      · rw [if_pos he]
        exact ⟨.refl t, fun hok _ => settled hok⟩
      rw [if_neg he]
      cases hparent : p.parent with
      | none => exact ⟨.refl t, by rintro ⟨⟩⟩
      | some above =>
        obtain ⟨hgrows, -⟩ := ih t above
        dsimp only
        rcases hmade : makeDirs here mode fuel t above with ⟨done, u⟩
        rw [hmade] at hgrows
        cases done with
        | error e' => exact ⟨hgrows, by rintro ⟨⟩⟩
        | ok _ =>
          dsimp only
          cases hlast : u.makeDir here p mode with
          | ok v => exact ⟨hgrows.trans (makeDir_ok hlast).1, fun _ _ => (makeDir_ok hlast).2⟩
          | error e' =>
            exact ⟨hgrows, fun hok _ => settled hok⟩

/-- A file is to be written at the end of its path, or where a link there leads on to. -/
theorem targetFrom_step {links : Nat} (h : t.targetFrom links here p = .ok q) :
    ∃ front name dir n, names p = front ++ [name] ∧ t.Leads n (origin here p) front dir ∧ t.isDir dir = true ∧
      (name ≠ [Path.dot] ∧ name ≠ [Path.dot, Path.dot] ∧ name.length ≤ maxName) ∧
      ((q = dir ++ [name] ∧ ∀ e, t.entry? q = some e → e.isLeaf = true) ∨
        ∃ target fewer, fewer < links ∧ t.entry? (dir ++ [name]) = some (.link target) ∧
          t.targetFrom fewer dir target = .ok q) := by
  unfold targetFrom at h
  obtain ⟨⟨dir, name?⟩, hslot, h⟩ := bind_eq_ok.mp h
  cases name? with
  | none => cases h
  | some name =>
    obtain ⟨front, n, hnamed, -, hleads, hdir, hdot, hup⟩ := slot_some hslot
    by_cases hslash : p.bytes.getLast? = some Path.slash
    · simp only [if_pos hslash] at h
      cases h
    simp only [if_neg hslash] at h
    obtain ⟨⟨⟩, hname, h⟩ := bind_eq_ok.mp h
    refine ⟨front, name, dir, n, ?_, hleads, hdir, ⟨hdot, hup, checkName_ok hname⟩, ?_⟩
    · simp only [names, hnamed, if_neg hslash]
    cases hold : t.entry? (dir ++ [name]) with
    | none =>
      simp only [hold] at h
      cases h
      exact .inl ⟨rfl, by rw [hold]; rintro e ⟨⟩⟩
    | some old =>
      simp only [hold] at h
      cases old with
      | dir mode => cases h
      | link target =>
        cases links with
        | zero => cases h
        | succ fewer => exact .inr ⟨target, fewer, Nat.lt_succ_self _, rfl, h⟩
      | _ =>
        cases h
        refine .inl ⟨rfl, fun e he => ?_⟩
        obtain rfl := Option.some.inj (hold.symm.trans he)
        rfl

/-- The place where a file is to be written is free or holds what is neither directory nor link, and its path leads
there as soon as it holds something. -/
theorem targetFrom_ok {links : Nat} (h : t.targetFrom links here p = .ok q) :
    q ≠ [] ∧ (∀ e, t.entry? q = some e → e.isLeaf = true) ∧
      ∀ u e, t.Extends u → u.entry? q = some e → e.isLeaf = true → ∃ n, u.Leads n (origin here p) (names p) q := by
  induction links using Nat.strongRecOn generalizing here p with
  | ind links ih =>
    obtain ⟨front, name, dir, n, hnames, hleads, hdir, hproper, hlast⟩ := targetFrom_step h
    rcases hlast with ⟨rfl, hleaf⟩ | ⟨target, fewer, hfewer, hlink, htarget⟩
    · refine ⟨by simp, hleaf, fun u e hu he hsolid => ?_⟩
      have hstep : u.Leads 0 dir [name] (dir ++ [name]) := by
        refine .down (hu.isDir hdir) hproper he ?_ (.arrived _)
        rintro target rfl
        cases hsolid
      rw [hnames]
      exact ⟨_, (hleads.mono hu).append hstep⟩
    · obtain ⟨hroot, hleaf, honward⟩ := ih fewer hfewer htarget
      refine ⟨hroot, hleaf, fun u e hu he hsolid => ?_⟩
      obtain ⟨m, honward⟩ := honward u e hu he hsolid
      have hthere : u.entry? (dir ++ [name]) = some (.link target) := by
        rcases hu _ _ hlink with hkept | ⟨hno, -⟩
        · exact hkept
        · cases hno
      have hstep : u.Leads (m + 1) dir [name] q := .link (hu.isDir hdir) hproper hthere (by rwa [List.append_nil])
      rw [hnames]
      exact ⟨_, (hleads.mono hu).append hstep⟩

/-- What a write that succeeds does to a tree: a device takes the contents, or one place holds them now. -/
theorem writeFile_ok {contents : Bytes} {mode : Nat} (h : t.writeFile here p contents mode = .ok u) :
    ∃ place, t.target here p = .ok place ∧ place ≠ [] ∧ (∀ e, t.entry? place = some e → e.isLeaf = true) ∧
      (u = t ∧ (∃ d, t.entry? place = some (.device d)) ∨ ∃ mode', u = t.put place (.file contents mode')) := by
  unfold writeFile at h
  obtain ⟨place, hplace, h⟩ := bind_eq_ok.mp h
  have htarget := hplace
  unfold target at htarget
  obtain ⟨⟨⟩, hp, htarget⟩ := bind_eq_ok.mp htarget
  obtain ⟨hroot, hleaf, -⟩ := targetFrom_ok htarget
  refine ⟨place, hplace, hroot, hleaf, ?_⟩
  cases hold : t.entry? place with
  | none =>
    simp only [hold] at h
    cases h
    exact .inr ⟨_, rfl⟩
  | some old =>
    simp only [hold] at h
    cases old with
    | device d =>
      refine .inl ⟨?_, d, rfl⟩
      cases d with
      | full =>
        dsimp only at h
        split at h <;> cases h
        rfl
      | _ =>
        cases h
        rfl
    | _ =>
      cases h
      exact .inr ⟨_, rfl⟩

theorem writeFile_extends {contents : Bytes} {mode : Nat} (h : t.writeFile here p contents mode = .ok u) :
    t.Extends u := by
  obtain ⟨place, -, hroot, hleaf, ⟨rfl, -⟩ | ⟨mode', rfl⟩⟩ := writeFile_ok h
  · exact .refl u
  · exact extends_put hroot rfl hleaf

/-- A path leads to what was written there, unless that is behind too many links. -/
theorem find_target (h : t.target here p = .ok q) (htu : t.Extends u) {e : Entry} (he : u.entry? q = some e)
    (hleaf : e.isLeaf = true) : u.find here p = .ok q ∨ u.find here p = .error .eloop := by
  unfold target at h
  obtain ⟨⟨⟩, hp, h⟩ := bind_eq_ok.mp h
  obtain ⟨-, -, hleads⟩ := targetFrom_ok h
  obtain ⟨n, hn⟩ := hleads u e htu he hleaf
  rw [find_of_leads hp hn]
  split
  · exact .inl rfl
  · exact .inr rfl

theorem isPresent_extends (htu : t.Extends u) (h : t.isPresent here p = true) : u.isPresent here p = true := by
  unfold isPresent at h ⊢
  cases hfind : t.find here p with
  | error e =>
    rw [hfind] at h
    cases h
  | ok place => rw [find_extends htu hfind]; rfl

/-- Where a path leads to the same entry of a larger tree, it reads the same. -/
theorem readText_extends (htu : t.Extends u) (hfind : t.find here p = .ok q) (hsame : u.entry? q = t.entry? q) :
    u.readText here p = t.readText here p := by
  simp only [readText, readBytes, find_extends htu hfind, hfind, bind, Except.bind, hsame]

theorem readText_grows (htu : t.Grows u) {text : String} (h : t.readText here p = .ok text) :
    u.readText here p = .ok text := by
  obtain ⟨bytes, hbytes, -⟩ := bind_eq_ok.mp h
  obtain ⟨q, hfind, hentry⟩ := bind_eq_ok.mp hbytes
  rw [readText_extends htu.extends hfind ?_, h]
  cases he : t.entry? q with
  | none =>
    rw [he] at hentry
    cases hentry
  | some e => exact htu.kept q e he

theorem readText_file (hfind : t.find here p = .ok q) {text : String} {mode : Nat}
    (hfile : t.entry? q = some (.file (Text.encode text) mode)) : t.readText here p = .ok text := by
  simp only [readText, readBytes, hfind, hfile, bind, Except.bind, pure, Except.pure, Text.decode?_encode]

theorem readText_lost {e : IoError} (hfind : t.find here p = .error e) : t.readText here p = .error e := by
  simp only [readText, readBytes, hfind, bind, Except.bind]

end Paths

end Tree
end PassDelta.Machine
