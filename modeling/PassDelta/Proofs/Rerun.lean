import PassDelta.Proofs.Steady
/-!
# Running a batch again

A second run over the same list finds the same modules there, gets the same answers and meets the same faults as the
first. So it saves the same contents in the same order over what the first has left.
-/

namespace PassDelta

variable {σ : Type}

/-- The last save to a path is still the last if all of them are made once more. -/
theorem Matching.overlay_overlay (matching : Matching) (files : Path → Option Bytes) (saves : List (Path × Bytes)) :
    matching.overlay (matching.overlay files saves) saves = matching.overlay files saves := by
  funext p
  rw [overlay, overlay, ← Option.or_assoc, Option.or_self]

namespace Batch
variable {h : Host σ} {setup : Setup}

variable (setup) in
/-- A second run over `ms` has come to what the first came to, and has left everything as it was. -/
structure Settled (steady : Steady h) (ms : List Path) (first second : Summary × Session σ) : Prop where
  summary : second.1 = first.1
  files : steady.content second.2.world = steady.content first.2.world
  directories : steady.directories second.2.world = steady.directories first.2.world
  elsewhere : ∀ {φ : Type} (view : σ → φ), Untouched h setup ms view → view second.2.world = view first.2.world

/-- Running a batch again gives the same summary and leaves all files and directories as the first run left them,
however that one ended and whatever was lost or overwritten in it. -/
theorem run_again (steady : Steady h) (style : Style) {ms : List Path} {world : σ}
    (apart : Apart setup steady.toPresence world ms) : Settled setup steady ms ((run h style setup ms).run (.start world))
      ((run h style setup ms).run (.start ((run h style setup ms).run (.start world)).2.world)) := by
  let between := ((run h style setup ms).run (.start world)).2.world
  have hpresent (m : Path) (hm : m ∈ ms) : h.isPresent between m = h.isPresent world m := (apart.preserved hm).run rfl
  have apart' : Apart setup steady.toPresence between ms := apart.congr hpresent
  have hfault : steady.fault between = steady.fault world := (steady.fault_untouched setup ms).run_eq world
  have houtlook : steady.outlook setup between ms = steady.outlook setup world ms :=
    steady.outlook_congr hfault hpresent
  have hdirs := steady.run_directories style apart
  exact {
    summary := by rw [steady.run_summary style apart', steady.run_summary style apart, houtlook]
    files := by
      rw [steady.run_content style apart', houtlook, steady.run_content style apart, Matching.overlay_overlay]
    directories := by
      rw [steady.run_directories style apart', houtlook, hfault, hdirs]
      funext q
      rw [Bool.or_assoc, Bool.or_self]
    elsewhere := fun view untouched => untouched.run_eq between }

def refusedModules : List Path := [Path.ofString "x/m.c", Path.ofString "y/m.c", Path.ofString "refused.c"]

def refusedWorld : Drive := Drive.holding refusedModules (fullFor (Path.ofString "a/b/m_optimized.ll"))

/-- An aborted batch is run again: it is aborted again, with the artifacts of the first time. -/
theorem run_again_after_abort :
    Settled nestedSetup nestedSteady refusedModules
      ((run nestedHost ⟨false, false⟩ nestedSetup refusedModules).run (.start refusedWorld))
      ((run nestedHost ⟨false, false⟩ nestedSetup refusedModules).run
        (.start ((run nestedHost ⟨false, false⟩ nestedSetup refusedModules).run (.start refusedWorld)).2.world)) ∧
    ((run nestedHost ⟨false, false⟩ nestedSetup refusedModules).run (.start refusedWorld)).1.status = .aborted ∧
    ((run nestedHost ⟨false, false⟩ nestedSetup refusedModules).run
      (.start refusedWorld)).1.artifactFailures.length = 2 ∧
    nestedSteady.content ((run nestedHost ⟨false, false⟩ nestedSetup refusedModules).run
      (.start refusedWorld)).2.world (Path.ofString "a/b/m_unoptimized.ll") = some (Text.encode "-S-O0y/m.c") := by
  have hapart : Apart nestedSetup nestedSteady.toPresence refusedWorld refusedModules := by decide +kernel
  exact ⟨run_again nestedSteady ⟨false, false⟩ hapart, by decide +kernel, by decide +kernel,
    by decide +kernel⟩

/-- The first run skips the directory above the output directory, and the second one finds it. -/
theorem rerun_finds_directory :
    (∀ m ∈ directoryLast.reverse, m.same nestedSetup.outputDir = false ∧
      ∀ n ∈ directoryLast.reverse, ∀ mode ∈ [Mode.unoptimized, .optimized],
        m.same (artifactPath nestedSetup.outputDir n.stem mode nestedSetup.extension) = false) ∧
    ¬ Settled nestedSetup nestedSteady directoryLast.reverse
      ((run nestedHost ⟨false, false⟩ nestedSetup directoryLast.reverse).run (.start (nestedWorld Drive.faultless)))
      ((run nestedHost ⟨false, false⟩ nestedSetup directoryLast.reverse).run
        (.start ((run nestedHost ⟨false, false⟩ nestedSetup directoryLast.reverse).run
          (.start (nestedWorld Drive.faultless))).2.world)) := by
  refine ⟨by decide +kernel, fun settled => ?_⟩
  have hskipped : ((run nestedHost ⟨false, false⟩ nestedSetup directoryLast.reverse).run
        (.start (nestedWorld Drive.faultless))).1.skipped = [Path.ofString "a"] ∧
      ((run nestedHost ⟨false, false⟩ nestedSetup directoryLast.reverse).run
        (.start ((run nestedHost ⟨false, false⟩ nestedSetup directoryLast.reverse).run
          (.start (nestedWorld Drive.faultless))).2.world)).1.skipped = [] := by decide +kernel
  rw [settled.summary, hskipped.1] at hskipped
  exact absurd hskipped.2 (by simp)

end Batch
end PassDelta
