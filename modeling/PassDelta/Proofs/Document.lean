import PassDelta.Proofs.Json.Rereading
import PassDelta.Proofs.Outcome
import PassDelta.Proofs.Utf8
/-!
# Documents read back

The document of a batch can be written exactly if its paths are text. It is then read back as it was, up to the shares
of removed lines, which are read as some double each.
-/

namespace PassDelta
open Json

/-- Numbers that a reader takes: of 64 bits, and a share that is finite. -/
structure ModuleEntry.IsReadable (m : ModuleEntry) : Prop where
  unoptimized : m.lines.unoptimized < twoTo 64
  optimized : m.lines.optimized < twoTo 64
  lineDelta : -(twoTo 63 : Int) ≤ m.lineDelta ∧ m.lineDelta < twoTo 63
  finite : m.reduction.isFinite = true

structure Document.IsReadable (d : Document) : Prop where
  analyzed : d.analyzed < twoTo 64
  skipped : d.skipped < twoTo 64
  failed : d.failed < twoTo 64
  modules : ∀ m ∈ d.modules, m.IsReadable

/-- An entry as it is read where another has been written: with the share of removed lines that is read for the printed
one, and otherwise the same. -/
structure ModuleEntry.Rereads (m m' : ModuleEntry) : Prop where
  reduction : reread m.reduction = .ok m'.reduction
  others : m' = { m with reduction := m'.reduction }

/-- A document as it is read where another has been written. -/
structure Document.Rereads (d d' : Document) : Prop where
  modules : List.Forall₂ ModuleEntry.Rereads d.modules d'.modules
  others : d' = { d with modules := d'.modules }

structure Summary.HasWords (s : Summary) : Prop where
  reports : s.reports.length < twoTo 64
  skipped : s.skipped.length < twoTo 64
  unoptimized : ∀ r ∈ s.reports, r.lines.unoptimized < twoTo 64
  optimized : ∀ r ∈ s.reports, r.lines.optimized < twoTo 64

namespace Report

theorem lineDelta_range (lines : PerMode Nat) :
    -(twoTo 63 : Int) ≤ lineDelta lines ∧ lineDelta lines < twoTo 63 := by
  have hword : twoTo 64 = 2 * twoTo 63 := by decide
  have hpos := twoTo_pos 63
  have hlow := Int.le_bmod (x := (lines.unoptimized : Int) - lines.optimized) (m := twoTo 64) (by omega)
  have hhigh := Int.bmod_lt (x := (lines.unoptimized : Int) - lines.optimized) (m := twoTo 64) (by omega)
  rw [lineDelta]
  omega

theorem isFinite_reduction (lines : PerMode Nat) : (reduction lines).isFinite = true := by
  unfold reduction
  by_cases hzero : lines.unoptimized = 0
  · rw [if_pos hzero, Binary64.zero, Binary64.isFinite, Binary64.word_ofWord false (by decide)]
    decide
  · rw [if_neg hzero]
    have hdelta : (lineDelta lines).natAbs < twoTo 64 := by
      have hword : twoTo 63 < twoTo 64 := by decide
      have := lineDelta_range lines
      omega
    have hshare := Binary64.units_div_lt (Binary64.units_ofInt_lt hdelta)
      (Binary64.one_le_units_ofNat (Nat.pos_of_ne_zero hzero))
    have hhundred : (Binary64.ofNat 100).units < twoTo (7 + 1) * Binary64.one := Binary64.units_ofNat_lt (by decide)
    exact Binary64.isFinite_mul (by decide) hshare hhundred

end Report

theorem Summary.HasWords.isReadable {s : Summary} (hs : s.HasWords) : (Document.ofSummary s).IsReadable where
  analyzed := hs.reports
  skipped := hs.skipped
  failed := by
    have : s.failedCount ≤ 1 := by unfold Summary.failedCount; split <;> omega
    exact Nat.lt_of_le_of_lt this (by decide)
  modules m hm := by
    obtain ⟨r, hr, rfl⟩ := List.mem_map.1 hm
    exact ⟨hs.unoptimized r hr, hs.optimized r hr, Report.lineDelta_range r.lines, Report.isFinite_reduction r.lines⟩

def Document.paths (d : Document) : List Path :=
  (d.modules.flatMap fun m => [m.path, m.artifacts.unoptimized, m.artifacts.optimized]) ++ d.skippedModules ++
    (d.artifactFailures.flatMap fun l => [l.module, l.path]) ++ d.error.toList.map (·.module)

def Summary.paths (s : Summary) : List Path :=
  (s.reports.flatMap fun r => [r.module, r.artifacts.unoptimized, r.artifacts.optimized]) ++ s.skipped ++
    (s.artifactFailures.flatMap fun f => [f.module, f.error.path]) ++ s.failure.toList.map (·.module)

theorem Document.paths_ofSummary (s : Summary) : (Document.ofSummary s).paths = s.paths := by
  cases hfailure : s.failure with
  | none =>
    simp [Document.paths, Document.ofSummary, Summary.paths, List.flatMap_map, hfailure, ModuleEntry.ofReport,
      LossEntry.ofFailure]
  | some e =>
    simp [Document.paths, Document.ofSummary, Summary.paths, List.flatMap_map, hfailure, ModuleEntry.ofReport,
      LossEntry.ofFailure, ErrorEntry.ofError]

namespace Document

theorem isSome_mapM {α β : Type} {f : α → Option β} {xs : List α} :
    (xs.mapM f).isSome = true ↔ ∀ x ∈ xs, (f x).isSome = true := by
  induction xs with
  | nil => simp
  | cons x xs ih =>
    cases hx : f x with
    | none => simp [hx]
    | some y =>
      cases hxs : xs.mapM f with
      | none => simp_all
      | some ys => simp_all

theorem isSome_text? {p : Path} : p.text?.isSome = true ↔ ∃ t, p.bytes = Text.encode t := by
  simp only [Option.isSome_iff_exists, Path.text?_eq_some]
  exact exists_congr fun t => ⟨fun h => h ▸ rfl, fun h => congrArg Path.mk h.symm⟩

theorem isSome_pathJson? {p : Path} : (pathJson? p).isSome = true ↔ p.text?.isSome = true := by
  rw [pathJson?, Option.isSome_map]

theorem isSome_entryJson? {m : ModuleEntry} : (entryJson? m).isSome = true ↔
    m.path.text?.isSome = true ∧ m.artifacts.unoptimized.text?.isSome = true ∧
      m.artifacts.optimized.text?.isSome = true := by
  simp only [← isSome_pathJson?]
  unfold entryJson?
  cases pathJson? m.path <;> cases pathJson? m.artifacts.unoptimized <;> cases pathJson? m.artifacts.optimized <;> simp

theorem isSome_lossJson? {l : LossEntry} : (lossJson? l).isSome = true ↔
    l.module.text?.isSome = true ∧ l.path.text?.isSome = true := by
  simp only [← isSome_pathJson?]
  unfold lossJson?
  cases pathJson? l.module <;> cases pathJson? l.path <;> simp

theorem isSome_errorJson? {e : ErrorEntry} : (errorJson? e).isSome = true ↔ e.module.text?.isSome = true := by
  rw [← isSome_pathJson?]
  unfold errorJson?
  cases pathJson? e.module <;> simp

theorem isSome_mapM_error {o : Option ErrorEntry} : (o.mapM errorJson?).isSome = true ↔
    ∀ e ∈ o.toList, e.module.text?.isSome = true := by
  cases o with
  | none => simp
  | some e =>
    simp only [Option.toList_some, List.mem_singleton, forall_eq, ← isSome_errorJson?]
    simp [Option.mapM_some]

theorem isSome_json?_iff {d : Document} : d.json?.isSome = true ↔ (d.modules.mapM entryJson?).isSome = true ∧
    (d.skippedModules.mapM pathJson?).isSome = true ∧ (d.artifactFailures.mapM lossJson?).isSome = true ∧
    (d.error.mapM errorJson?).isSome = true := by
  unfold json?
  cases d.modules.mapM entryJson? <;> cases d.skippedModules.mapM pathJson? <;>
    cases d.artifactFailures.mapM lossJson? <;> cases d.error.mapM errorJson? <;> simp

/-- A document has a value exactly if all its paths are text. -/
theorem isSome_json? {d : Document} : d.json?.isSome = true ↔ ∀ p ∈ d.paths, p.text?.isSome = true := by
  rw [isSome_json?_iff, isSome_mapM, isSome_mapM, isSome_mapM]
  -- both sides say the same of one path after the other
  simp only [isSome_entryJson?, isSome_lossJson?, isSome_pathJson?, isSome_mapM_error, paths, List.mem_append,
    List.mem_flatMap, List.mem_cons, List.not_mem_nil, List.mem_map, or_false, or_assoc]
  constructor
  · rintro ⟨hmodules, hskipped, hlosses, herror⟩ p
      (⟨m, hm, rfl | rfl | rfl⟩ | hp | ⟨l, hl, rfl | rfl⟩ | ⟨e, he, rfl⟩)
    · exact (hmodules m hm).1
    · exact (hmodules m hm).2.1
    · exact (hmodules m hm).2.2
    · exact hskipped p hp
    · exact (hlosses l hl).1
    · exact (hlosses l hl).2
    · exact herror e he
  · intro h
    refine ⟨fun m hm => ⟨?_, ?_, ?_⟩, fun p hp => h p (.inr (.inl hp)), fun l hl => ⟨?_, ?_⟩, fun e he => ?_⟩
    · exact h _ (.inl ⟨m, hm, .inl rfl⟩)
    · exact h _ (.inl ⟨m, hm, .inr (.inl rfl)⟩)
    · exact h _ (.inl ⟨m, hm, .inr (.inr rfl)⟩)
    · exact h _ (.inr (.inr (.inl ⟨l, hl, .inl rfl⟩)))
    · exact h _ (.inr (.inr (.inl ⟨l, hl, .inr rfl⟩)))
    · exact h _ (.inr (.inr (.inr ⟨e, he, rfl⟩)))

theorem build_eq_ok {get : String → Option Node} {d : Document} : shape.build get = .ok d ↔
    required get "success" readBool = .ok d.success ∧ required get "status" readText = .ok d.status ∧
      required get "analyzed" readWord = .ok d.analyzed ∧ required get "skipped" readWord = .ok d.skipped ∧
      required get "failed" readWord = .ok d.failed ∧
      required get "modules" (readList entryShape.read) = .ok d.modules ∧
      required get "skipped_modules" (readList readPath) = .ok d.skippedModules ∧
      required get "artifact_failures" (readList lossShape.read) = .ok d.artifactFailures ∧
      Json.optional get "error" errorShape.read = .ok d.error := by
  obtain ⟨success, status, analyzed, skipped, failed, modules, missing, losses, error⟩ := d
  simp only [shape, bind_eq_ok]
  constructor
  · rintro ⟨_, h1, _, h2, _, h3, _, h4, _, h5, _, h6, _, h7, _, h8, _, h9, heq⟩
    cases heq
    exact ⟨h1, h2, h3, h4, h5, h6, h7, h8, h9⟩
  · rintro ⟨h1, h2, h3, h4, h5, h6, h7, h8, h9⟩
    exact ⟨_, h1, _, h2, _, h3, _, h4, _, h5, _, h6, _, h7, _, h8, _, h9, rfl⟩

theorem error_build_eq_ok {get : String → Option Node} {e : ErrorEntry} : errorShape.build get = .ok e ↔
    required get "kind" readText = .ok e.kind ∧ required get "module" readPath = .ok e.module ∧
      required get "mode" readText = .ok e.mode ∧ required get "message" readText = .ok e.message ∧
      Json.optional get "stderr" readText = .ok e.stderr := by
  obtain ⟨kind, module, mode, message, stderr⟩ := e
  simp only [errorShape, bind_eq_ok]
  constructor
  · rintro ⟨_, h1, _, h2, _, h3, _, h4, _, h5, heq⟩
    cases heq
    exact ⟨h1, h2, h3, h4, h5⟩
  · rintro ⟨h1, h2, h3, h4, h5⟩
    exact ⟨_, h1, _, h2, _, h3, _, h4, _, h5, rfl⟩

theorem pathJson?_eq_some {p : Path} {v : Json} : pathJson? p = some v ↔ ∃ s, p = Path.ofString s ∧ v = .str s := by
  simp only [pathJson?, Option.map_eq_some_iff, Path.text?_eq_some]
  exact exists_congr fun s => and_congr eq_comm eq_comm

theorem readPath_str (s : String) : readPath (node (.str s)) = .ok (Path.ofString s) := by
  rw [readPath, readText_str]
  rfl

theorem readPath_of_pathJson? {p : Path} {v : Json} (h : pathJson? p = some v) : readPath (node v) = .ok p := by
  obtain ⟨s, rfl, rfl⟩ := pathJson?_eq_some.1 h
  exact readPath_str s

theorem entryShape_read {m : ModuleEntry} (hm : m.IsReadable) {v : Json} (hv : entryJson? m = some v) :
    ∃ m', entryShape.read (node v) = .ok m' ∧ m.Rereads m' := by
  simp only [entryJson?, Option.bind_eq_bind, Option.bind_eq_some_iff, Option.pure_def, Option.some.injEq] at hv
  obtain ⟨path, hpath, unoptimized, hunoptimized, optimized, hoptimized, rfl⟩ := hv
  replace hpath := readPath_of_pathJson? hpath
  replace hunoptimized := readPath_of_pathJson? hunoptimized
  replace hoptimized := readPath_of_pathJson? hoptimized
  obtain ⟨x, hx⟩ := exists_reread hm.finite
  have hname := readText_str m.name
  have hlines := readWord_int hm.unoptimized
  have hleft := readWord_int hm.optimized
  have hdelta := readInt_int hm.lineDelta.1 hm.lineDelta.2
  have hshare : readFloat (node (.num m.reduction)) = .ok x := (reread_eq _).symm.trans hx
  refine ⟨{ m with reduction := x }, ?_, hx, rfl⟩
  -- three goals: what is built from the members, that their names differ, and that every field passes its check
  rw [Shape.read_obj]
  · simp [entryShape, required, List.lookup_cons, bind, Except.bind, pure, Except.pure, *]
  · simp
  · simp [entryShape, check_eq_ok, List.lookup_cons, *]

theorem lossShape_read {l : LossEntry} {v : Json} (hv : lossJson? l = some v) : lossShape.read (node v) = .ok l := by
  simp only [lossJson?, Option.bind_eq_bind, Option.bind_eq_some_iff, Option.pure_def, Option.some.injEq] at hv
  obtain ⟨module, hmodule, path, hpath, rfl⟩ := hv
  replace hmodule := readPath_of_pathJson? hmodule
  replace hpath := readPath_of_pathJson? hpath
  have hmessage := readText_str l.message
  rw [Shape.read_obj]
  · simp [lossShape, required, List.lookup_cons, bind, Except.bind, pure, Except.pure, *]
  · simp
  · simp [lossShape, check_eq_ok, List.lookup_cons, *]

theorem errorShape_read {e : ErrorEntry} {v : Json} (hv : errorJson? e = some v) :
    errorShape.read (node v) = .ok e := by
  simp only [errorJson?, Option.bind_eq_bind, Option.bind_eq_some_iff, Option.pure_def, Option.some.injEq] at hv
  obtain ⟨module, hmodule, rfl⟩ := hv
  replace hmodule := readPath_of_pathJson? hmodule
  obtain ⟨kind, path, mode, message, stderr⟩ := e
  have hkind := readText_str kind
  have hmode := readText_str mode
  have hmessage := readText_str message
  cases stderr with
  | none =>
    rw [Shape.read_obj]
    · simp [errorShape, required, Json.optional, List.lookup_cons, bind, Except.bind, pure, Except.pure, *]
    · simp
    · simp [errorShape, check_eq_ok, List.lookup_cons, *]
  | some text =>
    have hstderr : readOption readText (node (.str text)) = .ok (some text) :=
      readOption_of_ne_null (by simp [node]) (readText_str text)
    rw [Shape.read_obj]
    · simp [errorShape, required, Json.optional, List.lookup_cons, bind, Except.bind, pure, Except.pure, *]
    · simp
    · simp [errorShape, check_eq_ok, List.lookup_cons, *]

def unmeasuredEntry (m : ModuleEntry) : ModuleEntry := { m with reduction := .zero }

def unmeasured (d : Document) : Document := { d with modules := d.modules.map unmeasuredEntry }

theorem Rereads.unmeasured_eq {d d' : Document} (h : d.Rereads d') : d'.unmeasured = d.unmeasured := by
  have hentries : d'.modules.map unmeasuredEntry = d.modules.map unmeasuredEntry := by
    have hmodules := h.modules
    generalize d.modules = ms, d'.modules = ms' at hmodules
    induction hmodules with
    | nil => rfl
    | cons hm _ ih =>
      rw [List.map_cons, List.map_cons, ih, hm.others]
      rfl
  rw [unmeasured, hentries, h.others]
  rfl

theorem shape_read {d : Document} (hd : d.IsReadable) {v : Json} (hv : d.json? = some v) :
    ∃ d', shape.read (node v) = .ok d' ∧ d.Rereads d' := by
  simp only [json?, Option.bind_eq_bind, Option.bind_eq_some_iff, Option.pure_def, Option.some.injEq] at hv
  obtain ⟨modules, hmodules, skipped, hskipped, losses, hlosses, error, herror, rfl⟩ := hv
  obtain ⟨entries, hentries, hsame⟩ := mapM_read ModuleEntry.Rereads
    (fun m hm _ hw => entryShape_read (hd.modules m hm) hw) hmodules
  refine ⟨{ d with modules := entries }, ?_, hsame, rfl⟩
  have hsuccess := readBool_bool d.success
  have hstatus := readText_str d.status
  have hanalyzed := readWord_int hd.analyzed
  have hcount := readWord_int hd.skipped
  have hfailed := readWord_int hd.failed
  have hreports := readList_arr hentries
  have hmissing := readList_arr (mapM_read_eq (fun _ _ _ => readPath_of_pathJson?) hskipped)
  have hlost := readList_arr (mapM_read_eq (fun _ _ _ => lossShape_read) hlosses)
  obtain ⟨success, status, analyzed, skipped, failed, reports, missing, lost, failure⟩ := d
  cases failure with
  | none =>
    obtain rfl : error = none := by simpa [Option.mapM_none] using herror.symm
    rw [Shape.read_obj]
    · simp [shape, required, Json.optional, List.lookup_cons, bind, Except.bind, pure, Except.pure, *]
    · simp
    · simp [shape, check_eq_ok, List.lookup_cons, *]
  | some e =>
    obtain ⟨w, hw, rfl⟩ : ∃ w, errorJson? e = some w ∧ error = some w := by
      simpa [Option.mapM_some, eq_comm] using herror
    have hfailure : readOption errorShape.read (node w) = .ok (some e) := by
      have hread := errorShape_read hw
      exact readOption_of_ne_null (fun hnull => by rw [hnull] at hread; cases hread) hread
    rw [Shape.read_obj]
    · simp [shape, required, Json.optional, List.lookup_cons, bind, Except.bind, pure, Except.pure, *]
    · simp
    · simp [shape, check_eq_ok, List.lookup_cons, *]

theorem rereads_pretty {d : Document} (hd : d.IsReadable) {v : Json} (hv : d.json? = some v) :
    ∃ d', Document.read v.pretty = .ok d' ∧ d.Rereads d' := by
  rw [Document.read, readDocument_pretty]
  exact shape_read hd hv

theorem read_pretty {d : Document} (hd : d.IsReadable) {v : Json} (hv : d.json? = some v) :
    ∃ d', Document.read v.pretty = .ok d' ∧ d'.unmeasured = d.unmeasured := by
  obtain ⟨d', hread, hsame⟩ := rereads_pretty hd hv
  exact ⟨d', hread, hsame.unmeasured_eq⟩

/-- A written value leaves out `error`, and its error leaves out `stderr`, exactly if the document has none. -/
structure Omits (v : Json) (d : Document) : Prop where
  error : v.member? "error" = none ↔ d.error = none
  stderr : ∀ e ∈ d.error, ∃ w, v.member? "error" = some w ∧ (w.member? "stderr" = none ↔ e.stderr = none)

theorem json?_omits {d : Document} {v : Json} (hv : d.json? = some v) : Omits v d := by
  have herror := (json?_shows hv).error
  cases hfailure : d.error with
  | none =>
    have hnone : v.member? "error" = none := by simpa [hfailure, Option.mapM_none] using herror.symm
    exact ⟨by simp [hnone, hfailure], by simp [hfailure]⟩
  | some e =>
    obtain ⟨w, hw, hmember⟩ : ∃ w, errorJson? e = some w ∧ v.member? "error" = some w := by
      simpa [hfailure, Option.mapM_some, eq_comm] using herror
    obtain ⟨_, _, _, _, _, _, hstderr⟩ := errorJson?_members hw
    refine ⟨by simp [hmember, hfailure], fun e' he' => ⟨w, hmember, ?_⟩⟩
    obtain rfl : e = e' := by simpa [hfailure] using he'
    rw [hstderr, Option.map_eq_none_iff]

theorem write_eq_ok {d : Document} {text : String} :
    d.write = .ok text ↔ ∃ v, d.json? = some v ∧ v.pretty = text := by
  unfold write
  cases d.json? with
  | none => simp
  | some v => simp

/-- The document of a summary can be written exactly if its paths are text, and its text tells the same document. -/
theorem ofSummary_round_trip (s : Summary) (hs : s.HasWords) :
    ((∃ text, (ofSummary s).write = .ok text) ↔ ∀ p ∈ s.paths, ∃ t, p.bytes = Text.encode t) ∧
      ∀ text, (ofSummary s).write = .ok text →
        (∃ d, Document.read text = .ok d ∧ d.unmeasured = (ofSummary s).unmeasured) ∧
          ∃ v, text = v.pretty ∧ Omits v (ofSummary s) := by
  constructor
  · have hpaths : (∀ p ∈ s.paths, ∃ t, p.bytes = Text.encode t) ↔ (ofSummary s).json?.isSome = true := by
      simp only [isSome_json?, paths_ofSummary, isSome_text?]
    rw [hpaths, Option.isSome_iff_exists]
    simp only [write_eq_ok]
    exact ⟨fun ⟨_, v, hv, _⟩ => ⟨v, hv⟩, fun ⟨v, hv⟩ => ⟨_, v, hv, rfl⟩⟩
  · intro text htext
    obtain ⟨v, hv, rfl⟩ := write_eq_ok.1 htext
    exact ⟨read_pretty hs.isReadable hv, v, rfl, json?_omits hv⟩

/-- An aborted batch with quotes, a backslash, control characters and a character beyond the basic plane in its
texts. -/
def unusualSummary : Summary where
  reports := [⟨"a\"b\\c\t\x01", .ofString "/m/\x7f\u2028.c", ⟨18446744073709551615, 0⟩,
    ⟨.ofString "/out/😀_unoptimized.ll", .ofString "/out/😀_optimized.ll"⟩⟩]
  skipped := [.ofString "/m/none.c"]
  artifactFailures := []
  failure := some ⟨"cc", .ofString "/m/\n.c", .optimized, .unsuccessful (some 1) "error: \"\\😀\x00\x1b"⟩
  status := .aborted

/-- The document of that summary is read back but for what was measured. -/
theorem ofSummary_round_trip_unusual : unusualSummary.HasWords ∧ ∃ text d,
    (ofSummary unusualSummary).write = .ok text ∧ Document.read text = .ok d ∧
      d.unmeasured = (ofSummary unusualSummary).unmeasured := by
  have hwords : unusualSummary.HasWords :=
    ⟨by decide, by decide, by simp [unusualSummary, twoTo], by simp [unusualSummary, twoTo]⟩
  obtain ⟨hwrite, hread⟩ := ofSummary_round_trip unusualSummary hwords
  have hpaths : ∀ p ∈ unusualSummary.paths, p.text?.isSome = true := by decide +kernel
  obtain ⟨text, htext⟩ := hwrite.2 fun p hp => isSome_text?.1 (hpaths p hp)
  obtain ⟨⟨d, hd, hsame⟩, -⟩ := hread text htext
  exact ⟨hwords, text, d, htext, hd, hsame⟩

end Document
end PassDelta
