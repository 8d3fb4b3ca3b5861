import Mathlib.Data.List.Forall2
import PassDelta.Proofs.Json.Values
import PassDelta.Proofs.Session
/-!
# Structures read back

An object whose names are all known, and different, is read from its members as they stand.
-/

namespace PassDelta.Json

theorem readText_str (s : String) : readText (node (.str s)) = .ok s := text_lexemeOf s

theorem readBool_bool (b : Bool) : readBool (node (.bool b)) = .ok b := rfl

theorem readWord_int {n : Nat} (h : n < twoTo 64) : readWord (node (.int n)) = .ok n := readWord_wholeNumeral h

theorem readInt_int {n : Int} (hlow : -(twoTo 63 : Int) ≤ n) (hhigh : n < twoTo 63) :
    readInt (node (.int n)) = .ok n := readInt_wholeNumeral hlow hhigh

theorem readOption_of_ne_null {α : Type} {r : Reader α} {v : Node} (hv : v ≠ .null) {x : α} (h : r v = .ok x) :
    readOption r v = .ok (some x) := by
  rw [readOption, h]
  · rfl
  · exact fun hnull => absurd hnull hv

theorem check_eq_ok {α : Type} {r : Reader α} {v : Node} : check r v = .ok () ↔ ∃ x, r v = .ok x := by
  unfold check
  cases r v with
  | error e => simp [bind, Except.bind]
  | ok x => simp [bind, Except.bind, pure, Except.pure]

/-- Items written one by one are read one by one, each as a value that is related to it. -/
theorem mapM_read {α : Type} {write : α → Option Json} {read : Reader α} (R : α → α → Prop) {xs : List α}
    (hread : ∀ x ∈ xs, ∀ v, write x = some v → ∃ y, read (node v) = .ok y ∧ R x y)
    {vs : List Json} (hvs : xs.mapM write = some vs) :
    ∃ ys, (nodes vs).mapM read = .ok ys ∧ List.Forall₂ R xs ys := by
  induction xs generalizing vs with
  | nil =>
    simp only [List.mapM_nil, Option.pure_def, Option.some.injEq] at hvs
    exact ⟨[], by rw [← hvs]; rfl, .nil⟩
  | cons x xs ih =>
    simp only [List.mapM_cons, Option.bind_eq_bind, Option.bind_eq_some_iff, Option.pure_def, Option.some.injEq] at hvs
    obtain ⟨v, hv, vs, hvs, rfl⟩ := hvs
    obtain ⟨y, hy, hsame⟩ := hread x List.mem_cons_self v hv
    obtain ⟨ys, hys, hall⟩ := ih (fun x hx => hread x (List.mem_cons_of_mem _ hx)) hvs
    refine ⟨y :: ys, ?_, .cons hsame hall⟩
    rw [nodes, List.mapM_cons, hy, hys]
    rfl

theorem mapM_read_eq {α : Type} {write : α → Option Json} {read : Reader α} {xs : List α}
    (hread : ∀ x ∈ xs, ∀ v, write x = some v → read (node v) = .ok x) {vs : List Json}
    (hvs : xs.mapM write = some vs) : (nodes vs).mapM read = .ok xs := by
  obtain ⟨ys, hys, hsame⟩ := mapM_read Eq (fun x hx v hv => ⟨x, hread x hx v hv, rfl⟩) hvs
  rw [List.forall₂_eq_eq_eq] at hsame
  exact hsame ▸ hys

theorem readList_arr {α : Type} {r : Reader α} {vs : List Json} {xs : List α} (h : (nodes vs).mapM r = .ok xs) :
    readList r (node (.arr vs)) = .ok xs := by
  rw [node, readList, h]
  rfl

def memberTrees (ms : List (String × Json)) : List (String × Node) := ms.map fun m => (m.1, node m.2)

theorem lookup_memberTrees (ms : List (String × Json)) (name : String) :
    (memberTrees ms).lookup name = (ms.lookup name).map node := by
  induction ms with
  | nil => rfl
  | cons m ms ih =>
    obtain ⟨k, v⟩ := m
    rw [memberTrees, List.map_cons, List.lookup_cons, List.lookup_cons]
    cases name == k with
    | true => rfl
    | false => exact ih

/-- A name that is new has not been found. -/
theorem lookup_eq_none_of_nodup {found : List (String × Node)} {names : List String} {k : String}
    (hnew : (found.map (·.1) ++ k :: names).Nodup) : found.lookup k = none := by
  rw [List.lookup_eq_none_iff]
  intro m hm
  have hdisjoint := (List.nodup_append.1 hnew).2.2 m.1 (List.mem_map_of_mem hm) k List.mem_cons_self
  simpa using Ne.symm hdisjoint

theorem collect_known {fields : List (String × Reader Unit)} {found : List (String × Node)}
    {ms : List (String × Json)} (hnew : (found.map (·.1) ++ ms.map (·.1)).Nodup)
    (hknown : ∀ m ∈ ms, ∃ r, fields.lookup m.1 = some r ∧ r (node m.2) = .ok ()) :
    collect fields found (memberNodes ms) = .ok (found ++ memberTrees ms) := by
  induction ms generalizing found with
  | nil => simp [memberNodes, collect, memberTrees]
  | cons m ms ih =>
    obtain ⟨k, v⟩ := m
    obtain ⟨r, hr, hv⟩ := hknown (k, v) List.mem_cons_self
    have habsent : ¬ (found.lookup k).isSome = true := by simp [lookup_eq_none_of_nodup hnew]
    have hrest : collect fields (found ++ [(k, node v)]) (memberNodes ms) =
        .ok (found ++ [(k, node v)] ++ memberTrees ms) := by
      refine ih ?_ fun m hm => hknown m (List.mem_cons_of_mem _ hm)
      simpa using hnew
    simp only [memberNodes, collect, text_lexemeOf]
    simp only [bind, Except.bind, hr, if_neg habsent, hv]
    simpa [memberTrees] using hrest

/-- An object with known names, each once, is built from its members. -/
theorem Shape.read_obj {α : Type} {shape : Shape α} {ms : List (String × Json)} (hnames : (ms.map (·.1)).Nodup)
    (hknown : ∀ m ∈ ms, ∃ r, shape.fields.lookup m.1 = some r ∧ r (node m.2) = .ok ()) :
    shape.read (node (.obj ms)) = shape.build fun name => (ms.lookup name).map node := by
  have hfound : collect shape.fields [] (memberNodes ms) = .ok ([] ++ memberTrees ms) := collect_known hnames hknown
  rw [node, Shape.read, hfound, List.nil_append]
  simp only [← lookup_memberTrees]
  rfl

/-- A printed value is read as its tree is. -/
theorem readDocument_pretty {α : Type} (r : Reader α) (v : Json) : readDocument r v.pretty = r (node v) := by
  rw [readDocument, scan_pretty]
  cases hread : r (node v) with
  | error e => simp [hread, bind, Except.bind]
  | ok x => simp [hread, skipSpace, bind, Except.bind, pure, Except.pure]

end PassDelta.Json
