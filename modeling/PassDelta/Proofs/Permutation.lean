import Mathlib.Data.List.Nodup
import PassDelta.Proofs.Steady
/-!
# Modules in another order

The artifacts of modules with different stems have different paths, so saves for one module do not meet those for
another. On a steady host that compiles all of them, a list of such modules may be worked through in any order.
-/

namespace PassDelta

variable {σ : Type}

namespace Matching
variable (matching : Matching)

def Unlike (p q : Path) : Prop := ∀ r, matching.alike r p = true → matching.alike r q = false

variable {matching} in
theorem Unlike.symm {p q : Path} (unlike : matching.Unlike p q) : matching.Unlike q p := by
  intro r hq
  by_contra hp
  rw [unlike r (Bool.not_eq_false _ ▸ hp)] at hq
  exact Bool.false_ne_true hq

theorem unlike_artifacts (setup : Setup) {m n : Path} {mode mode' : Mode} (hne : ¬ (m.stem = n.stem ∧ mode = mode')) :
    matching.Unlike (artifactPath setup.outputDir m.stem mode setup.extension)
      (artifactPath setup.outputDir n.stem mode' setup.extension) := by
  intro r hm
  by_contra hn
  exact hne (matching.artifact_unique hm (Bool.not_eq_false _ ▸ hn))

theorem overlay_cons (files : Path → Option Bytes) (save : Path × Bytes) (rest : List (Path × Bytes)) :
    matching.overlay files (save :: rest) = matching.overlay (matching.overlay files [save]) rest :=
  matching.overlay_append files [save] rest

theorem overlay_swap (files : Path → Option Bytes) {first second : Path × Bytes}
    (unlike : matching.Unlike first.1 second.1) : matching.overlay (matching.overlay files [first]) [second] =
      matching.overlay (matching.overlay files [second]) [first] := by
  obtain ⟨p, x⟩ := first
  obtain ⟨q, y⟩ := second
  simp only [overlay_singleton]
  funext r
  cases hp : matching.alike r p with
  | true =>
    have hq : matching.alike r q = false := unlike r hp
    simp [hq]
  | false => simp

/-- Saves to unlike paths may be made in any order. -/
theorem overlay_perm {saves saves' : List (Path × Bytes)} (perm : List.Perm saves saves')
    (apart : (saves.map Prod.fst).Pairwise matching.Unlike) (files : Path → Option Bytes) :
    matching.overlay files saves = matching.overlay files saves' := by
  induction perm generalizing files with
  | nil => rfl
  | cons save tail ih =>
    have htail := (List.pairwise_cons.mp apart).2
    rw [overlay_cons _ files, ih htail, ← overlay_cons]
  | swap first second rest =>
    have hunlike : matching.Unlike second.1 first.1 := (List.pairwise_cons.mp apart).1 first.1 (by simp)
    rw [overlay_cons, overlay_cons, overlay_swap _ files hunlike, ← overlay_cons, ← overlay_cons]
  | trans first second ih₁ ih₂ =>
    have hmiddle := (first.map Prod.fst).pairwise apart Unlike.symm
    rw [ih₁ apart, ih₂ hmiddle]

end Matching

inductive Visit.Passed (m : Path) : Visit → Prop
  | skipped : Passed m (.skipped m)
  | compared (captures : PerMode Capture) (losses : PerMode (Option ArtifactError)) :
    Passed m (.compared ⟨m, captures, losses⟩)

namespace Visit.Passed
variable {m : Path} {v : Visit}

theorem isAborted_eq (passed : Passed m v) : v.isAborted = false := by cases passed <;> rfl

/-- The saves of a visit go to artifacts of its module. -/
theorem saves_sublist (setup : Setup) (passed : Passed m v) : List.Sublist ((v.saves setup).map Prod.fst)
    ([Mode.unoptimized, .optimized].map fun mode => artifactPath setup.outputDir m.stem mode setup.extension) := by
  cases passed with
  | skipped => exact List.nil_sublist _
  | compared captures losses =>
    obtain ⟨l₁, l₂⟩ := losses
    cases l₁ <;> cases l₂ <;> simp [saves, PerMode.get]

end Visit.Passed

/-- Modules of different stems are saved to unlike paths. -/
theorem saves_apart (matching : Matching) (setup : Setup) {visit : Path → Visit} {ms : List Path}
    (passed : ∀ m ∈ ms, (visit m).Passed m) (stems : (ms.map Path.stem).Nodup) :
    (((ms.map visit).flatMap (Visit.saves setup)).map Prod.fst).Pairwise matching.Unlike := by
  rw [List.flatMap_map, List.map_flatMap, List.pairwise_flatMap]
  constructor
  · intro m hm
    have hmodes : ¬ (m.stem = m.stem ∧ Mode.unoptimized = Mode.optimized) := by simp
    have hboth : ([Mode.unoptimized, .optimized].map fun mode =>
        artifactPath setup.outputDir m.stem mode setup.extension).Pairwise matching.Unlike :=
      List.pairwise_pair.mpr (matching.unlike_artifacts setup hmodes)
    exact hboth.sublist ((passed m hm).saves_sublist setup)
  · have hstems : ms.Pairwise fun m n => m.stem ≠ n.stem := List.pairwise_map.mp stems
    refine hstems.imp_of_mem ?_
    intro m n hm hn hne p hp p' hp'
    obtain ⟨mode, -, rfl⟩ := List.mem_map.mp (((passed m hm).saves_sublist setup).subset hp)
    obtain ⟨mode', -, rfl⟩ := List.mem_map.mp (((passed n hn).saves_sublist setup).subset hp')
    exact matching.unlike_artifacts setup fun heq => hne heq.1

namespace Steady
variable {h : Host σ} (steady : Steady h) (setup : Setup) (w : σ)

theorem expected_passed {m : Path} (compiles : ∀ mode, (steady.answer (h.command setup m mode)).succeeded = true) :
    (steady.expected setup w m).Passed m := by
  have hjudged (mode : Mode) : ∃ c, setup.judge m mode (steady.answer (h.command setup m mode)) = .ok c := by
    cases hj : setup.judge m mode (steady.answer (h.command setup m mode)) with
    | ok c => exact ⟨c, rfl⟩
    | error e =>
      have hfailed := (setup.judge_error hj).1
      rw [compiles mode] at hfailed
      contradiction
  obtain ⟨c₁, first⟩ := hjudged .unoptimized
  obtain ⟨c₂, second⟩ := hjudged .optimized
  unfold expected
  rw [first, second]
  split
  · exact .compared _ _
  · exact .skipped

theorem outlook_passed {ms : List Path} (compiles : ∀ m ∈ ms, ∀ mode,
    (steady.answer (h.command setup m mode)).succeeded = true) :
    steady.outlook setup w ms = ms.map (steady.expected setup w) := by
  refine Visit.untilAborted_eq_self fun v hv => ?_
  obtain ⟨m, hm, rfl⟩ := List.mem_map.mp hv
  exact (steady.expected_passed setup w (compiles m hm)).isAborted_eq

end Steady

namespace Batch
variable {h : Host σ} {setup : Setup}

theorem Apart.perm {presence : Presence h} {w : σ} {ms ms' : List Path} (perm : List.Perm ms ms')
    (apart : Apart setup presence w ms) : Apart setup presence w ms' where
  outputDir m hm := apart.outputDir m (perm.mem_iff.mpr hm)
  artifact m hm n hn := apart.artifact m (perm.mem_iff.mpr hm) n (perm.mem_iff.mpr hn)

variable (setup) in
/-- What two completed batches have in common whose lists `ms` and `ms'` are the same up to order. What becomes of a
module is the same in both, so their entries stand in the order of their lists. -/
structure Reordered (steady : Steady h) (ms ms' : List Path) (first second : Summary × Session σ) : Prop where
  status : first.1.status = .completed ∧ second.1.status = .completed
  reports : List.Perm second.1.reports first.1.reports
  skipped : List.Perm second.1.skipped first.1.skipped
  artifactFailures : List.Perm second.1.artifactFailures first.1.artifactFailures
  order : ∃ visit : Path → Visit, (∀ m ∈ ms, (visit m).Passed m) ∧
    first.1 = Summary.ofVisits setup (ms.map visit) ∧ second.1 = Summary.ofVisits setup (ms'.map visit)
  files : steady.content second.2.world = steady.content first.2.world
  directories : steady.directories second.2.world = steady.directories first.2.world
  elsewhere : ∀ {φ : Type} (view : σ → φ), Untouched h setup ms view → view second.2.world = view first.2.world

/-- Modules of different stems that all compile may be listed in any order. -/
theorem run_perm (steady : Steady h) (style : Style) {ms ms' : List Path} (perm : List.Perm ms ms') {world : σ}
    (apart : Apart setup steady.toPresence world ms) (stems : (ms.map Path.stem).Nodup)
    (compiles : ∀ m ∈ ms, ∀ mode, (steady.answer (h.command setup m mode)).succeeded = true) :
    Reordered setup steady ms ms' ((run h style setup ms).run (.start world))
      ((run h style setup ms').run (.start world)) := by
  let visit := steady.expected setup world
  have hpassed (m : Path) (hm : m ∈ ms) : (visit m).Passed m := steady.expected_passed setup _ (compiles m hm)
  have apart' := apart.perm perm
  have compiles' (m : Path) (hm : m ∈ ms') := compiles m (perm.mem_iff.mpr hm)
  have hvisits : List.Perm (ms'.map visit) (ms.map visit) := (perm.map visit).symm
  have hfirst : steady.outlook setup world ms = ms.map visit := steady.outlook_passed setup _ compiles
  have hsecond : steady.outlook setup world ms' = ms'.map visit := steady.outlook_passed setup _ compiles'
  have hgives : ((run h style setup ms).run (.start world)).1 = Summary.ofVisits setup (ms.map visit) := by
    rw [steady.run_summary style apart, hfirst]
  have hgives' : ((run h style setup ms').run (.start world)).1 = Summary.ofVisits setup (ms'.map visit) := by
    rw [steady.run_summary style apart', hsecond]
  have hcompleted (visits : List Visit) (hv : List.Perm visits (ms.map visit)) :
      (Summary.ofVisits setup visits).status = .completed := by
    refine (ofVisits_passed setup fun v hmem => ?_).2
    obtain ⟨m, hm, rfl⟩ := List.mem_map.mp (hv.mem_iff.mp hmem)
    exact (hpassed m hm).isAborted_eq
  exact {
    status := by
      rw [hgives, hgives']
      exact ⟨hcompleted _ (.refl _), hcompleted _ hvisits⟩
    reports := by
      rw [hgives, hgives', Summary.reports_ofVisits, Summary.reports_ofVisits]
      exact hvisits.filterMap _
    skipped := by
      rw [hgives, hgives', Summary.skipped_ofVisits, Summary.skipped_ofVisits]
      exact hvisits.filterMap _
    artifactFailures := by
      rw [hgives, hgives', Summary.artifactFailures_ofVisits, Summary.artifactFailures_ofVisits]
      exact hvisits.flatMap_right _
    order := ⟨visit, hpassed, hgives, hgives'⟩
    files := by
      rw [steady.run_content style apart', steady.run_content style apart, hfirst, hsecond]
      exact (steady.matching.overlay_perm (hvisits.symm.flatMap_right _)
        (saves_apart steady.matching setup hpassed stems) _).symm
    directories := by
      rw [steady.run_directories style apart', steady.run_directories style apart, hfirst, hsecond, hvisits.any_eq]
    elsewhere := by
      intro φ view untouched
      have huntouched : Untouched h setup ms' view :=
        { untouched with write := fun w m hm => untouched.write w m (perm.mem_iff.mpr hm) }
      rw [untouched.run_eq, huntouched.run_eq] }

def reorderedWorld : Drive := nestedWorld (fullFor (Path.ofString "a/b/n_optimized.ll"))

/-- A list with a missing module and a lost artifact, forwards and backwards. -/
theorem run_perm_reversed :
    Reordered nestedSetup nestedSteady nestedModules nestedModules.reverse
      ((run nestedHost ⟨false, false⟩ nestedSetup nestedModules).run (.start reorderedWorld))
      ((run nestedHost ⟨false, false⟩ nestedSetup nestedModules.reverse).run (.start reorderedWorld)) ∧
    ((run nestedHost ⟨false, false⟩ nestedSetup nestedModules).run (.start reorderedWorld)).1.reports.length = 2 ∧
    ((run nestedHost ⟨false, false⟩ nestedSetup nestedModules).run (.start reorderedWorld)).1.skipped.length = 1 ∧
    ((run nestedHost ⟨false, false⟩ nestedSetup nestedModules).run
      (.start reorderedWorld)).1.artifactFailures.length = 1 := by
  have hapart : Apart nestedSetup nestedSteady.toPresence reorderedWorld nestedModules := by decide +kernel
  have hcompiles : ∀ m ∈ nestedModules, ∀ mode ∈ [Mode.unoptimized, .optimized],
      (nestedSteady.answer (nestedHost.command nestedSetup m mode)).succeeded = true := by decide +kernel
  exact ⟨run_perm nestedSteady ⟨false, false⟩ (List.reverse_perm nestedModules).symm hapart (by decide +kernel)
      (fun m hm mode => hcompiles m hm mode (by cases mode <;> simp)),
    by decide +kernel, by decide +kernel, by decide +kernel⟩

/-- In one order the directory above the output directory is found, in the other one it is skipped. -/
theorem order_hides_directory :
    (∀ m ∈ directoryLast, m.same nestedSetup.outputDir = false ∧
      ∀ n ∈ directoryLast, ∀ mode ∈ [Mode.unoptimized, .optimized],
        m.same (artifactPath nestedSetup.outputDir n.stem mode nestedSetup.extension) = false) ∧
    (directoryLast.map Path.stem).Nodup ∧
    (∀ m ∈ directoryLast, ∀ mode ∈ [Mode.unoptimized, .optimized],
      (nestedSteady.answer (nestedHost.command nestedSetup m mode)).succeeded = true) ∧
    ¬ Reordered nestedSetup nestedSteady directoryLast directoryLast.reverse
      ((run nestedHost ⟨false, false⟩ nestedSetup directoryLast).run (.start (nestedWorld Drive.faultless)))
      ((run nestedHost ⟨false, false⟩ nestedSetup directoryLast.reverse).run
        (.start (nestedWorld Drive.faultless))) := by
  refine ⟨by decide +kernel, by decide +kernel, by decide +kernel, fun reordered => ?_⟩
  have hlengths : ((run nestedHost ⟨false, false⟩ nestedSetup directoryLast).run
        (.start (nestedWorld Drive.faultless))).1.reports.length = 2 ∧
      ((run nestedHost ⟨false, false⟩ nestedSetup directoryLast.reverse).run
        (.start (nestedWorld Drive.faultless))).1.reports.length = 1 := by decide +kernel
  have hsame := reordered.reports.length_eq
  rw [hlengths.1, hlengths.2] at hsame
  cases hsame

end Batch
end PassDelta
