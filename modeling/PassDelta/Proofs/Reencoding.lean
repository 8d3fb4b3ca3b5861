import PassDelta.Proofs.Document
import PassDelta.Proofs.Json.Grammar
/-!
# Documents written again

A document that has been read can be written, and what is written for it is read again. Everything but the shares of
removed lines comes back as it was, so writing once more gives the same text exactly if every share comes back too.
-/

namespace PassDelta
open Json

section Readers
variable {α : Type} {shape : Shape α} {r : Reader α} {v : Node} {a : α}

theorem exists_build_of_read (h : shape.read v = .ok a) : ∃ get, shape.build get = .ok a := by
  unfold Shape.read at h
  split at h
  · obtain ⟨found, -, h⟩ := bind_eq_ok.mp h
    obtain ⟨-, -, h⟩ := bind_eq_ok.mp h
    exact ⟨_, h⟩
  · obtain ⟨found, -, h⟩ := bind_eq_ok.mp h
    exact ⟨_, h⟩
  · cases h

variable {get : String → Option Node} {name : String}

theorem exists_of_required (h : required get name r = .ok a) : ∃ w, r w = .ok a := by
  unfold required at h
  split at h
  · cases h
  · exact ⟨_, h⟩

theorem exists_of_optional {o : Option α} (h : Json.optional get name r = .ok o) (ha : a ∈ o) : ∃ w, r w = .ok a := by
  obtain rfl : o = some a := ha
  unfold Json.optional at h
  split at h
  · cases h
  · unfold readOption at h
    split at h
    · cases h
    · obtain ⟨b, hb, hsome⟩ := map_eq_ok.mp h
      cases hsome
      exact ⟨_, hb⟩

theorem exists_of_mapM {vs : List Node} {xs : List α} (h : vs.mapM r = .ok xs) : ∀ x ∈ xs, ∃ w, r w = .ok x := by
  induction vs generalizing xs with
  | nil =>
    cases h
    simp
  | cons v vs ih =>
    rw [List.mapM_cons] at h
    obtain ⟨y, hy, h⟩ := bind_eq_ok.mp h
    obtain ⟨ys, hys, h⟩ := bind_eq_ok.mp h
    cases h
    intro x hx
    rcases List.mem_cons.mp hx with rfl | hx
    · exact ⟨v, hy⟩
    · exact ih hys x hx

theorem exists_of_readList {xs : List α} (h : readList r v = .ok xs) : ∀ x ∈ xs, ∃ w, r w = .ok x := by
  unfold readList at h
  split at h
  · obtain ⟨ys, hys, h⟩ := bind_eq_ok.mp h
    obtain ⟨-, -, h⟩ := bind_eq_ok.mp h
    cases h
    exact exists_of_mapM hys
  · cases h

end Readers

namespace Document
variable {v : Node}

theorem isSome_text?_of_readPath {p : Path} (h : readPath v = .ok p) : p.text?.isSome = true := by
  obtain ⟨t, -, rfl⟩ := map_eq_ok.mp h
  rw [Path.text?_eq_some.mpr rfl]
  rfl

theorem isSome_text?_of_required {get : String → Option Node} {name : String} {p : Path}
    (h : required get name readPath = .ok p) : p.text?.isSome = true := by
  obtain ⟨v, hv⟩ := exists_of_required h
  exact isSome_text?_of_readPath hv

theorem entry_of_read {m : ModuleEntry} (h : entryShape.read v = .ok m) :
    m.IsReadable ∧ (entryJson? m).isSome = true := by
  obtain ⟨get, h⟩ := exists_build_of_read h
  obtain ⟨name, -, h⟩ := bind_eq_ok.mp h
  obtain ⟨path, hpath, h⟩ := bind_eq_ok.mp h
  obtain ⟨unoptimized, hunoptimized, h⟩ := bind_eq_ok.mp h
  obtain ⟨optimized, hoptimized, h⟩ := bind_eq_ok.mp h
  obtain ⟨delta, hdelta, h⟩ := bind_eq_ok.mp h
  obtain ⟨share, hshare, h⟩ := bind_eq_ok.mp h
  obtain ⟨before, hbefore, h⟩ := bind_eq_ok.mp h
  obtain ⟨after, hafter, h⟩ := bind_eq_ok.mp h
  cases h
  obtain ⟨_, hunoptimized⟩ := exists_of_required hunoptimized
  obtain ⟨_, hoptimized⟩ := exists_of_required hoptimized
  obtain ⟨_, hdelta⟩ := exists_of_required hdelta
  obtain ⟨_, hshare⟩ := exists_of_required hshare
  refine ⟨⟨lt_of_readWord hunoptimized, lt_of_readWord hoptimized, range_of_readInt hdelta,
    isFinite_of_readFloat hshare⟩, isSome_entryJson?.mpr ⟨?_, ?_, ?_⟩⟩
  · exact isSome_text?_of_required hpath
  · exact isSome_text?_of_required hbefore
  · exact isSome_text?_of_required hafter

theorem loss_of_read {l : LossEntry} (h : lossShape.read v = .ok l) : (lossJson? l).isSome = true := by
  obtain ⟨get, h⟩ := exists_build_of_read h
  obtain ⟨module, hmodule, h⟩ := bind_eq_ok.mp h
  obtain ⟨path, hpath, h⟩ := bind_eq_ok.mp h
  obtain ⟨message, -, h⟩ := bind_eq_ok.mp h
  cases h
  exact isSome_lossJson?.mpr ⟨isSome_text?_of_required hmodule, isSome_text?_of_required hpath⟩

theorem error_of_read {e : ErrorEntry} (h : errorShape.read v = .ok e) : e.module.text?.isSome = true := by
  obtain ⟨get, h⟩ := exists_build_of_read h
  obtain ⟨-, hmodule, -⟩ := error_build_eq_ok.mp h
  exact isSome_text?_of_required hmodule

/-- A document that has been read can be written, and what is written for it can be read. -/
theorem of_read {d : Document} (h : shape.read v = .ok d) : d.IsReadable ∧ ∃ w, d.json? = some w := by
  obtain ⟨get, h⟩ := exists_build_of_read h
  obtain ⟨-, -, hanalyzed, hskipped, hfailed, hmodules, hmissing, hlosses, herror⟩ := build_eq_ok.mp h
  obtain ⟨_, hanalyzed⟩ := exists_of_required hanalyzed
  obtain ⟨_, hskipped⟩ := exists_of_required hskipped
  obtain ⟨_, hfailed⟩ := exists_of_required hfailed
  obtain ⟨_, hmodules⟩ := exists_of_required hmodules
  obtain ⟨_, hmissing⟩ := exists_of_required hmissing
  obtain ⟨_, hlosses⟩ := exists_of_required hlosses
  have hentries (m : ModuleEntry) (hm : m ∈ d.modules) : m.IsReadable ∧ (entryJson? m).isSome = true := by
    obtain ⟨w, hw⟩ := exists_of_readList hmodules m hm
    exact entry_of_read hw
  refine ⟨⟨lt_of_readWord hanalyzed, lt_of_readWord hskipped, lt_of_readWord hfailed, fun m hm => (hentries m hm).1⟩,
    Option.isSome_iff_exists.mp (isSome_json?_iff.mpr ⟨?_, ?_, ?_, ?_⟩)⟩
  · exact isSome_mapM.mpr fun m hm => (hentries m hm).2
  · refine isSome_mapM.mpr fun p hp => ?_
    obtain ⟨w, hw⟩ := exists_of_readList hmissing p hp
    exact isSome_pathJson?.mpr (isSome_text?_of_readPath hw)
  · refine isSome_mapM.mpr fun l hl => ?_
    obtain ⟨w, hw⟩ := exists_of_readList hlosses l hl
    exact loss_of_read hw
  · refine isSome_mapM_error.mpr fun e he => ?_
    obtain ⟨w, hw⟩ := exists_of_optional herror (Option.mem_toList.mp he)
    exact error_of_read hw

variable {d d' : Document} {w w' : Json}

/-- A document comes back as it was if all its shares do. -/
theorem Rereads.eq_iff (h : d.Rereads d') : d' = d ↔ ∀ m ∈ d.modules, reread m.reduction = .ok m.reduction := by
  have hentries : d'.modules = d.modules ↔ ∀ m ∈ d.modules, reread m.reduction = .ok m.reduction := by
    have hmodules := h.modules
    generalize d.modules = ms, d'.modules = ms' at hmodules
    induction hmodules with
    | nil => simp
    | @cons m m' ms ms' hm _ ih =>
      have hsame : m' = m ↔ reread m.reduction = .ok m.reduction := by
        rw [hm.reduction, Except.ok.injEq]
        exact ⟨fun heq => congrArg _ heq, fun heq => by rw [hm.others, heq]⟩
      simp only [List.cons.injEq, hsame, ih, List.forall_mem_cons]
  rw [← hentries]
  exact ⟨fun heq => congrArg _ heq, fun heq => by rw [h.others, heq]⟩

/-- Entries are printed alike only if their shares are the same. -/
theorem reduction_eq_of_node {m m' : ModuleEntry} (hm : m.IsReadable) (hm' : m'.IsReadable)
    (hw : entryJson? m = some w) (hw' : entryJson? m' = some w') (h : node w = node w') :
    m.reduction = m'.reduction := by
  simp only [entryJson?, Option.bind_eq_bind, Option.bind_eq_some_iff, Option.pure_def, Option.some.injEq] at hw hw'
  obtain ⟨path, hpath, unoptimized, hunoptimized, optimized, hoptimized, rfl⟩ := hw
  obtain ⟨path', hpath', unoptimized', hunoptimized', optimized', hoptimized', rfl⟩ := hw'
  simp only [node, memberNodes, Node.obj.injEq, List.cons.injEq, Prod.mk.injEq, true_and, and_true] at h
  obtain ⟨-, -, -, -, -, hshare, -⟩ := h
  rw [if_pos hm.finite, if_pos hm'.finite] at hshare
  exact doubleNumeral_injective hm.finite hm'.finite (Node.num.inj hshare)

theorem Rereads.modules_eq_of_nodes {ms ms' : List ModuleEntry} (hsame : List.Forall₂ ModuleEntry.Rereads ms ms')
    (hread : ∀ m ∈ ms, m.IsReadable) (hread' : ∀ m ∈ ms', m.IsReadable) {ws ws' : List Json}
    (hws : ms.mapM entryJson? = some ws) (hws' : ms'.mapM entryJson? = some ws') (h : nodes ws = nodes ws') :
    ms' = ms := by
  induction hsame generalizing ws ws' with
  | nil => rfl
  | @cons m m' ms ms' hm _ ih =>
    simp only [List.mapM_cons, Option.bind_eq_bind, Option.bind_eq_some_iff, Option.pure_def, Option.some.injEq]
      at hws hws'
    obtain ⟨w, hw, ws, hws, rfl⟩ := hws
    obtain ⟨w', hw', ws', hws', rfl⟩ := hws'
    simp only [nodes, List.cons.injEq] at h
    obtain ⟨hreadm, hread⟩ := List.forall_mem_cons.mp hread
    obtain ⟨hreadm', hread'⟩ := List.forall_mem_cons.mp hread'
    have hshare := reduction_eq_of_node hreadm hreadm' hw hw' h.1
    rw [ih hread hread' hws hws' h.2, hm.others, ← hshare]

theorem Rereads.write_eq_iff (h : d.Rereads d') (hd : d.IsReadable) (hd' : d'.IsReadable)
    (hw : d.json? = some w) (hw' : d'.json? = some w') : d'.write = .ok w.pretty ↔ d' = d := by
  constructor
  · intro hwrite
    have htext : w'.pretty = w.pretty := by
      obtain ⟨v, hv, hpretty⟩ := write_eq_ok.mp hwrite
      rw [hw'] at hv
      cases hv
      exact hpretty
    have hnode : node w = node w' := by
      have hscan := scan_pretty w'
      rw [htext, scan_pretty] at hscan
      exact (Prod.mk.inj hscan).1
    simp only [json?, Option.bind_eq_bind, Option.bind_eq_some_iff, Option.pure_def, Option.some.injEq] at hw hw'
    obtain ⟨ws, hws, skipped, -, losses, -, error, -, rfl⟩ := hw
    obtain ⟨ws', hws', skipped', -, losses', -, error', -, rfl⟩ := hw'
    simp only [List.cons_append, node, memberNodes, Node.obj.injEq, List.cons.injEq, Prod.mk.injEq, true_and,
      and_true] at hnode
    obtain ⟨-, -, -, -, -, hmodules, -⟩ := hnode
    have heq := modules_eq_of_nodes h.modules hd.modules hd'.modules hws hws' (Node.arr.inj hmodules).1
    rw [h.others, heq]
  · rintro rfl
    exact write_eq_ok.mpr ⟨w, hw, rfl⟩

/-- A document is read again from its own text, and writing it once more gives the same text exactly if all its shares
come back. -/
theorem rewrites (hd : d.IsReadable) (hw : d.json? = some w) :
    ∃ d', d.write = .ok w.pretty ∧ Document.read w.pretty = .ok d' ∧ d.Rereads d' ∧
      (d'.write = .ok w.pretty ↔ ∀ m ∈ d.modules, reread m.reduction = .ok m.reduction) := by
  obtain ⟨d', hread, hsame⟩ := rereads_pretty hd hw
  obtain ⟨v, -, hv⟩ := exists_spells_of_readDocument hread
  obtain ⟨hd', w', hw'⟩ := of_read hv
  exact ⟨d', write_eq_ok.mpr ⟨w, hw, rfl⟩, hread, hsame, (hsame.write_eq_iff hd hd' hw hw').trans hsame.eq_iff⟩

theorem drifts (hd : d.IsReadable) (hw : d.json? = some w) {x : Binary64} (hx : x ∈ d.modules.map (·.reduction))
    (hshare : reread x ≠ .ok x) :
    ∃ u d', d.write = .ok u ∧ Document.read u = .ok d' ∧ d'.write ≠ .ok u := by
  obtain ⟨d', hwrite, hagain, -, hiff⟩ := rewrites hd hw
  obtain ⟨m, hm, rfl⟩ := List.mem_map.mp hx
  exact ⟨_, d', hwrite, hagain, fun h => hshare (hiff.mp h m hm)⟩

/-- A document that has been read from any text, or that tells of a batch, is written as a text that is read again.
Everything but the shares of removed lines is read as it was, each share is read as its printed digits are, and the text
is written again exactly if every share comes back. Shares printed with few digits do. -/
theorem reencoding_stable_iff (d : Document) (hd : (∃ t, Document.read t = .ok d) ∨
    ∃ s : Summary, s.HasWords ∧ d = ofSummary s ∧ ∃ u, d.write = .ok u) :
    ∃ u d', d.write = .ok u ∧ Document.read u = .ok d' ∧ d.Rereads d' ∧
      (d'.write = .ok u ↔ ∀ m ∈ d.modules, reread m.reduction = .ok m.reduction) ∧
      ∀ m ∈ d.modules, IsShort m.reduction → reread m.reduction = .ok m.reduction := by
  obtain ⟨hread, w, hw⟩ : d.IsReadable ∧ ∃ w, d.json? = some w := by
    rcases hd with ⟨t, ht⟩ | ⟨s, hs, rfl, u, hu⟩
    · obtain ⟨v, -, hv⟩ := exists_spells_of_readDocument ht
      exact of_read hv
    · obtain ⟨w, hw, -⟩ := write_eq_ok.mp hu
      exact ⟨hs.isReadable, w, hw⟩
  obtain ⟨d', hwrite, hagain, hsame, hiff⟩ := rewrites hread hw
  exact ⟨_, d', hwrite, hagain, hsame, hiff, fun m hm => reread_of_isShort (hread.modules m hm).finite⟩

def oneReport (lines : PerMode Nat) : Report where
  name := "a"
  module := .ofString "a.c"
  lines := lines
  artifacts := ⟨.ofString "a_unoptimized.ll", .ofString "a_optimized.ll"⟩

def oneModule (lines : PerMode Nat) : Summary where
  reports := [oneReport lines]
  skipped := []
  artifactFailures := []
  failure := none
  status := .completed

theorem exists_json?_oneModule (lines : PerMode Nat) : ∃ w, (ofSummary (oneModule lines)).json? = some w := by
  have htext (s : String) : (Path.ofString s).text?.isSome = true := by
    rw [Path.text?_eq_some.mpr rfl]
    rfl
  have hpaths : ∀ p ∈ (ofSummary (oneModule lines)).paths, p.text?.isSome = true := by
    rw [paths_ofSummary]
    simp [Summary.paths, oneModule, oneReport, htext]
  exact Option.isSome_iff_exists.mp (isSome_json?.mpr hpaths)

theorem hasWords_oneModule {lines : PerMode Nat} (hunoptimized : lines.unoptimized < twoTo 64)
    (hoptimized : lines.optimized < twoTo 64) : (oneModule lines).HasWords :=
  ⟨by simp [oneModule, twoTo], by simp [oneModule, twoTo], by simpa [oneModule, oneReport] using hunoptimized,
    by simpa [oneModule, oneReport] using hoptimized⟩

/-- With two of three lines removed, 66.66666666666666 percent, the text is written again. -/
theorem reencoding_stable_iff_two_thirds : (oneModule ⟨3, 1⟩).HasWords ∧ ∃ u d',
    (ofSummary (oneModule ⟨3, 1⟩)).write = .ok u ∧ Document.read u = .ok d' ∧ d'.write = .ok u := by
  have hwords : (oneModule ⟨3, 1⟩).HasWords := hasWords_oneModule (by decide) (by decide)
  obtain ⟨w, hw⟩ := exists_json?_oneModule ⟨3, 1⟩
  obtain ⟨u, d', hwrite, hread, -, hiff, hshort⟩ :=
    reencoding_stable_iff _ (.inr ⟨_, hwords, rfl, _, write_eq_ok.mpr ⟨w, hw, rfl⟩⟩)
  refine ⟨hwords, u, d', hwrite, hread, hiff.mpr fun m hm => hshort m hm ?_⟩
  obtain rfl : m = ModuleEntry.ofReport (oneReport ⟨3, 1⟩) := by simpa [ofSummary, oneModule] using hm
  have hprinted : doubleNumeral (Report.reduction ⟨3, 1⟩) =
      ⟨false, [6, 6], [6, 6, 6, 6, 6, 6, 6, 6, 6, 6, 6, 6, 6, 6], none⟩ := by decide +kernel
  change IsShort (Report.reduction ⟨3, 1⟩)
  rw [IsShort, hprinted]
  decide

def shareValue (share : Json) : Json :=
  .obj [("success", .bool true), ("status", .str "completed"), ("analyzed", .int 1), ("skipped", .int 0),
    ("failed", .int 0),
    ("modules", .arr [.obj [("name", .str "a"), ("path", .str "a.c"), ("unoptimized_lines", .int 15),
      ("optimized_lines", .int 1), ("line_delta", .int 14), ("reduction_percent", share),
      ("unoptimized_artifact", .str "a_unoptimized.ll"), ("optimized_artifact", .str "a_optimized.ll")]]),
    ("skipped_modules", .arr []), ("artifact_failures", .arr [])]

def shareDocument (share : Binary64) : Document :=
  { ofSummary (oneModule ⟨15, 1⟩) with
    modules := [{ ModuleEntry.ofReport (oneReport ⟨15, 1⟩) with reduction := share }] }

/-- Neither is every text that has been read and written written again, nor the text of every batch: here one with a
whole number of twenty digits for its share, and that of a batch with fourteen of fifteen lines removed, 93.33333333333333
percent. -/
theorem reencoding_drifts :
    (∃ d, Document.read (shareValue (.int 10201270003348767681)).pretty = .ok d ∧
      ∃ u d', d.write = .ok u ∧ Document.read u = .ok d' ∧ d'.write ≠ .ok u) ∧
    ∃ u d', (ofSummary (oneModule ⟨15, 1⟩)).write = .ok u ∧ Document.read u = .ok d' ∧ d'.write ≠ .ok u := by
  constructor
  · have hread : Document.read (shareValue (.int 10201270003348767681)).pretty =
        .ok (shareDocument (.ofNat 10201270003348767681)) := by
      rw [Document.read, readDocument_pretty]
      decide +kernel
    obtain ⟨v, -, hv⟩ := exists_spells_of_readDocument hread
    obtain ⟨hd, w, hw⟩ := of_read hv
    have hshare : reread (.ofNat 10201270003348767681) ≠ .ok (.ofNat 10201270003348767681) := by
      rw [reread_eq]
      decide +kernel
    exact ⟨_, hread, drifts hd hw List.mem_cons_self hshare⟩
  · obtain ⟨w, hw⟩ := exists_json?_oneModule ⟨15, 1⟩
    have hwords : (oneModule ⟨15, 1⟩).HasWords := hasWords_oneModule (by decide) (by decide)
    have hshare : reread (Report.reduction ⟨15, 1⟩) ≠ .ok (Report.reduction ⟨15, 1⟩) := by
      rw [reread_eq]
      decide +kernel
    exact drifts hwords.isReadable hw List.mem_cons_self hshare

end Document
end PassDelta
