import PassDelta.Proofs.Reencoding
import PassDelta.Proofs.Json.Waiting
/-!
# Truncated documents

A document with finite shares that is cut anywhere is found to end early. It is neither taken for a complete one nor
refused for anything else that it lacks.
-/

namespace PassDelta
open Json

namespace Document

theorem isField {α : Type} {fields : List (String × Reader Unit)} {name : String} {r : Reader α} {v : Json} {x : α}
    (hfield : fields.lookup name = some (check r)) (hread : r (node v) = .ok x) (hbreaks : Breaks r v) :
    IsField fields (name, v) :=
  ⟨check r, hfield, check_eq_ok.mpr ⟨x, hread⟩, hbreaks.check⟩

theorem breaks_path {p : Path} {v : Json} (h : pathJson? p = some v) : Breaks readPath v := by
  obtain ⟨s, -, rfl⟩ := pathJson?_eq_some.1 h
  exact (breaks_str s).map Path.ofString

theorem waits_entry {m : ModuleEntry} (hm : m.IsReadable) {v : Json} (hv : entryJson? m = some v) :
    Waits entryShape.read v := by
  simp only [entryJson?, Option.bind_eq_bind, Option.bind_eq_some_iff, Option.pure_def, Option.some.injEq] at hv
  obtain ⟨path, hpath, unoptimized, hunoptimized, optimized, hoptimized, rfl⟩ := hv
  obtain ⟨x, hx⟩ := exists_reread hm.finite
  refine waits_obj (by simp) (by simp) ?_
  simp only [List.forall_mem_cons]
  refine ⟨?name, ?path, ?unoptimized, ?optimized, ?delta, ?share, ?before, ?after, by simp⟩
  case name => exact isField (by simp [entryShape]) (readText_str _) (breaks_str _)
  case path => exact isField (by simp [entryShape, List.lookup_cons]) (readPath_of_pathJson? hpath) (breaks_path hpath)
  case unoptimized =>
    exact isField (by simp [entryShape, List.lookup_cons]) (readWord_int hm.unoptimized) (breaks_word hm.unoptimized)
  case optimized =>
    exact isField (by simp [entryShape, List.lookup_cons]) (readWord_int hm.optimized) (breaks_word hm.optimized)
  case delta =>
    obtain ⟨hlow, hhigh⟩ := hm.lineDelta
    exact isField (by simp [entryShape, List.lookup_cons]) (readInt_int hlow hhigh) (breaks_int hlow hhigh)
  case share =>
    exact isField (by simp [entryShape, List.lookup_cons]) ((reread_eq _).symm.trans hx) (breaks_num hm.finite)
  case before =>
    exact isField (by simp [entryShape, List.lookup_cons]) (readPath_of_pathJson? hunoptimized)
      (breaks_path hunoptimized)
  case after =>
    exact isField (by simp [entryShape, List.lookup_cons]) (readPath_of_pathJson? hoptimized) (breaks_path hoptimized)

theorem waits_loss {l : LossEntry} {v : Json} (hv : lossJson? l = some v) : Waits lossShape.read v := by
  simp only [lossJson?, Option.bind_eq_bind, Option.bind_eq_some_iff, Option.pure_def, Option.some.injEq] at hv
  obtain ⟨module, hmodule, path, hpath, rfl⟩ := hv
  refine waits_obj (by simp) (by simp) ?_
  simp only [List.forall_mem_cons]
  refine ⟨?module, ?path, ?message, by simp⟩
  case module => exact isField (by simp [lossShape]) (readPath_of_pathJson? hmodule) (breaks_path hmodule)
  case path => exact isField (by simp [lossShape, List.lookup_cons]) (readPath_of_pathJson? hpath) (breaks_path hpath)
  case message => exact isField (by simp [lossShape, List.lookup_cons]) (readText_str _) (breaks_str _)

theorem waits_error {e : ErrorEntry} {v : Json} (hv : errorJson? e = some v) : Waits errorShape.read v := by
  simp only [errorJson?, Option.bind_eq_bind, Option.bind_eq_some_iff, Option.pure_def, Option.some.injEq] at hv
  obtain ⟨module, hmodule, rfl⟩ := hv
  have hfields : ∀ m ∈ [("kind", .str e.kind), ("module", module), ("mode", .str e.mode), ("message", .str e.message)],
      IsField errorShape.fields m := by
    simp only [List.forall_mem_cons]
    refine ⟨?kind, ?module, ?mode, ?message, by simp⟩
    case kind => exact isField (by simp [errorShape]) (readText_str _) (breaks_str _)
    case module =>
      exact isField (by simp [errorShape, List.lookup_cons]) (readPath_of_pathJson? hmodule) (breaks_path hmodule)
    case mode => exact isField (by simp [errorShape, List.lookup_cons]) (readText_str _) (breaks_str _)
    case message => exact isField (by simp [errorShape, List.lookup_cons]) (readText_str _) (breaks_str _)
  obtain ⟨kind, path, mode, message, stderr⟩ := e
  cases stderr with
  | none => exact waits_obj (by simp) (by simp) (by simpa using hfields)
  | some text =>
    have hstderr : IsField errorShape.fields ("stderr", .str text) :=
      isField (by simp [errorShape, List.lookup_cons])
        (readOption_of_ne_null (by simp [node]) (readText_str text)) ((breaks_str text).option rfl)
    refine waits_obj (by simp) (by simp) fun m hm => ?_
    rcases List.mem_append.mp hm with hm | hm
    · exact hfields m hm
    · obtain rfl : m = ("stderr", .str text) := by simpa using hm
      exact hstderr

theorem exists_of_mem_mapM {α β : Type} {f : α → Option β} {xs : List α} {ys : List β} (h : xs.mapM f = some ys)
    {y : β} (hy : y ∈ ys) : ∃ x ∈ xs, f x = some y := by
  induction xs generalizing ys with
  | nil =>
    obtain rfl : ys = [] := by simpa using h.symm
    cases hy
  | cons x xs ih =>
    simp only [List.mapM_cons, Option.bind_eq_bind, Option.bind_eq_some_iff, Option.pure_def, Option.some.injEq] at h
    obtain ⟨z, hz, zs, hzs, rfl⟩ := h
    rcases List.mem_cons.mp hy with rfl | hy
    · exact ⟨x, List.mem_cons_self, hz⟩
    · obtain ⟨x', hx', hy'⟩ := ih hzs hy
      exact ⟨x', List.mem_cons_of_mem x hx', hy'⟩

/-- A list that was written item by item breaks off, as each of its items does. -/
theorem isField_items {α : Type} {fields : List (String × Reader Unit)} {name : String} {write : α → Option Json}
    {r : Reader α} {xs : List α} {vs : List Json} (hfield : fields.lookup name = some (check (readList r)))
    (hnothing : r (.broken .truncated .truncated) = .error .truncated)
    (hitems : ∀ x ∈ xs, ∀ v, write x = some v → (∃ y, r (node v) = .ok y) ∧ Breaks r v)
    (hvs : xs.mapM write = some vs) : IsField fields (name, .arr vs) := by
  have hall (v : Json) (hv : v ∈ vs) : (∃ y, r (node v) = .ok y) ∧ Breaks r v := by
    obtain ⟨x, hx, hwrite⟩ := exists_of_mem_mapM hvs hv
    exact hitems x hx v hwrite
  obtain ⟨ys, hys, -⟩ := mapM_read (fun _ _ => True)
    (fun x hx v hv => (hitems x hx v hv).1.imp fun _ hy => ⟨hy, trivial⟩) hvs
  exact isField hfield (readList_arr hys) (breaks_list hnothing (fun v hv => (hall v hv).1) fun v hv => (hall v hv).2)

theorem waits_document {d : Document} (hd : d.IsReadable) {v : Json} (hv : d.json? = some v) :
    Waits shape.read v := by
  simp only [json?, Option.bind_eq_bind, Option.bind_eq_some_iff, Option.pure_def, Option.some.injEq] at hv
  obtain ⟨modules, hmodules, skipped, hskipped, losses, hlosses, error, herror, rfl⟩ := hv
  have hfields : ∀ m ∈ [("success", .bool d.success), ("status", .str d.status), ("analyzed", .int d.analyzed),
      ("skipped", .int d.skipped), ("failed", .int d.failed), ("modules", .arr modules),
      ("skipped_modules", .arr skipped), ("artifact_failures", .arr losses)], IsField shape.fields m := by
    simp only [List.forall_mem_cons]
    refine ⟨?success, ?status, ?analyzed, ?skipped, ?failed, ?modules, ?missing, ?losses, by simp⟩
    case success => exact isField (by simp [shape]) (readBool_bool _) (breaks_bool _)
    case status => exact isField (by simp [shape, List.lookup_cons]) (readText_str _) (breaks_str _)
    case analyzed =>
      exact isField (by simp [shape, List.lookup_cons]) (readWord_int hd.analyzed) (breaks_word hd.analyzed)
    case skipped =>
      exact isField (by simp [shape, List.lookup_cons]) (readWord_int hd.skipped) (breaks_word hd.skipped)
    case failed =>
      exact isField (by simp [shape, List.lookup_cons]) (readWord_int hd.failed) (breaks_word hd.failed)
    case modules =>
      refine isField_items (r := entryShape.read) (by simp [shape, List.lookup_cons]) rfl (fun m hm v hv => ?_) hmodules
      obtain ⟨m', hm', -⟩ := entryShape_read (hd.modules m hm) hv
      exact ⟨⟨m', hm'⟩, (waits_entry (hd.modules m hm) hv).breaks⟩
    case missing =>
      refine isField_items (r := readPath) (by simp [shape, List.lookup_cons]) rfl (fun p _ v hv => ?_) hskipped
      exact ⟨⟨p, readPath_of_pathJson? hv⟩, breaks_path hv⟩
    case losses =>
      refine isField_items (r := lossShape.read) (by simp [shape, List.lookup_cons]) rfl (fun l _ v hv => ?_) hlosses
      exact ⟨⟨l, lossShape_read hv⟩, (waits_loss hv).breaks⟩
  cases hfailure : d.error with
  | none =>
    obtain rfl : error = none := by simpa [hfailure, Option.mapM_none] using herror.symm
    exact waits_obj (by simp) (by simp) (by simpa using hfields)
  | some e =>
    obtain ⟨w, hw, rfl⟩ : ∃ w, errorJson? e = some w ∧ error = some w := by
      simpa [hfailure, Option.mapM_some, eq_comm] using herror
    have hread := errorShape_read hw
    have hfield : IsField shape.fields ("error", w) :=
      isField (by simp [shape, List.lookup_cons])
        (readOption_of_ne_null (fun hnull => by rw [hnull] at hread; cases hread) hread)
        ((waits_error hw).breaks.option rfl)
    refine waits_obj (by simp) (by simp) fun m hm => ?_
    rcases List.mem_append.mp hm with hm | hm
    · exact hfields m hm
    · obtain rfl : m = ("error", w) := by simpa using hm
      exact hfield

/-- Every proper prefix of what is written for a document with finite shares is found to end early. -/
theorem truncation_detected (d : Document) (hd : d.IsReadable) {t : String} (ht : d.write = .ok t) (p q : String)
    (hq : q ≠ "") (happend : p ++ q = t) : Document.read p = .error .truncated := by
  obtain ⟨v, hv, rfl⟩ := write_eq_ok.mp ht
  exact (waits_document hd hv).readDocument hq happend

theorem json?_shareDocument (x : Binary64) : (shareDocument x).json? = some (shareValue (.num x)) := by
  have htext (s : String) : pathJson? (.ofString s) = some (.str s) := pathJson?_eq_some.mpr ⟨s, rfl, rfl⟩
  have hdelta : Report.lineDelta ⟨15, 1⟩ = 14 := by decide +kernel
  have hsuccess : (oneModule ⟨15, 1⟩).isSuccess = true := rfl
  have hfailed : (oneModule ⟨15, 1⟩).failedCount = 0 := rfl
  have hstatus : (oneModule ⟨15, 1⟩).status.name = "completed" := rfl
  simp [json?, entryJson?, shareDocument, ofSummary, hsuccess, hfailed, hstatus, ModuleEntry.ofReport, oneReport, htext,
    hdelta, shareValue]
  simp [oneModule]

/-- The text of a value up to some character, and the rest. -/
theorem pretty_append (v : Json) (n : Nat) :
    String.ofList ((spread 0 v).take n) ++ String.ofList ((spread 0 v).drop n) = v.pretty := by
  rw [← String.ofList_append, List.take_append_drop, pretty]

theorem ofList_drop_ne {v : Json} {n : Nat} (h : n < (spread 0 v).length) :
    String.ofList ((spread 0 v).drop n) ≠ "" := by
  rw [Ne, String.ofList_eq_empty_iff, List.drop_eq_nil_iff]
  omega

/-- A text that breaks off inside a path. -/
theorem truncation_detected_path : ∃ t, (shareDocument .zero).write = .ok t ∧ ∃ p q, q ≠ "" ∧ p ++ q = t ∧
    p.length = 151 ∧ Document.read p = .error .truncated := by
  have hwrite := write_eq_ok.mpr ⟨_, json?_shareDocument .zero, rfl⟩
  have hread : (shareDocument .zero).IsReadable := by
    refine ⟨by decide, by decide, by decide, fun m hm => ?_⟩
    obtain rfl := List.mem_singleton.mp hm
    exact ⟨by decide, by decide, by decide, by decide⟩
  have hlength : 151 < (spread 0 (shareValue (.num .zero))).length := by decide +kernel
  refine ⟨_, hwrite, _, _, ofList_drop_ne hlength, pretty_append _ 151, ?_, ?_⟩
  · rw [String.length_ofList, List.length_take]
    omega
  · exact truncation_detected _ hread hwrite _ _ (ofList_drop_ne hlength) (pretty_append _ 151)

/-- A share that is not finite is written as `null`, and a text that ends behind it is refused for not being a number. -/
theorem truncation_mistaken : ∃ t, (shareDocument (.ofWord false Binary64.infinityWord)).write = .ok t ∧
    ∃ p q, q ≠ "" ∧ p ++ q = t ∧ Document.read p = .error .mismatch := by
  have hwrite := write_eq_ok.mpr ⟨_, json?_shareDocument (.ofWord false Binary64.infinityWord), rfl⟩
  have hlength : 269 < (spread 0 (shareValue (.num (.ofWord false Binary64.infinityWord)))).length := by decide +kernel
  refine ⟨_, hwrite, _, _, ofList_drop_ne hlength, pretty_append _ 269, ?_⟩
  rw [Document.read, readDocument, String.toList_ofList]
  decide +kernel

end Document
end PassDelta
