import Mathlib.Data.List.FinRange
import Mathlib.Data.List.Sort
import PassDelta.Proofs.ArtifactPath
import PassDelta.Proofs.FaultyDisk
/-!
# Saves in any interleaving

Artifacts of different stems or modes never share a path, and the directory may be made any number of times. Saves of
several modules may therefore be interleaved at will: as long as those of one artifact keep their order, every save has
the answer it had, and the same files and directories are left.
-/

namespace PassDelta

variable {σ : Type}

/-- A call to keep `contents` as an artifact of a module. -/
structure Save where
  module : Path
  mode : Mode
  contents : Bytes
  deriving DecidableEq

namespace Save

def key (s : Save) : String × Mode := (s.module.stem, s.mode)

def path (dir : Path) (extension : String) (s : Save) : Path := artifactPath dir s.module.stem s.mode extension

theorem key_eq_of_alike (matching : Matching) {dir : Path} {extension : String} {s t : Save} {p : Path}
    (hs : matching.alike p (s.path dir extension) = true) (ht : matching.alike p (t.path dir extension) = true) :
    s.key = t.key :=
  Prod.ext_iff.mpr (matching.artifact_unique hs ht)

end Save

def saveAll (h : Host σ) (dir : Path) (extension : String) (saves : List Save) :
    Work σ (List (Except ArtifactError Path)) :=
  saves.mapM fun s => saveArtifact h dir extension s.module.stem s.mode s.contents

section Fate
variable (fault : FileOp → Path → Option IoError) (dir : Path) (extension : String) (s : Save)

def Save.answer : Except ArtifactError Path :=
  match fault .createDir dir with
  | some source => .error ⟨.createDir, dir, source⟩
  | none =>
    match fault .write (s.path dir extension) with
    | some source => .error ⟨.write, s.path dir extension, source⟩
    | none => .ok (s.path dir extension)

def Save.stored : List (Path × Bytes) :=
  match s.answer fault dir extension with
  | .error _ => []
  | .ok p => [(p, s.contents)]

theorem Save.answer_eq_ok {p : Path} (hanswer : s.answer fault dir extension = .ok p) : p = s.path dir extension := by
  unfold answer at hanswer
  split at hanswer
  · cases hanswer
  · split at hanswer
    · cases hanswer
    · exact (Except.ok.inj hanswer).symm

theorem Save.path_of_mem_stored {save : Path × Bytes} (hmem : save ∈ s.stored fault dir extension) :
    save.1 = s.path dir extension := by
  unfold stored at hmem
  split at hmem
  · simp at hmem
  · next p hanswer =>
    obtain rfl := List.mem_singleton.mp hmem
    exact s.answer_eq_ok fault dir extension hanswer

end Fate

namespace FaultyDisk
variable {h : Host σ} (disk : FaultyDisk h) (dir : Path) (extension : String)

def withDirectory (w : σ) (q : Path) : Bool :=
  disk.directories w q || ((disk.fault w .createDir dir).isNone && disk.made dir q)

/-- A save has the answer that the faults give it. It stores nothing else than its bytes, makes nothing else than the
directory, and does not even try to write when that cannot be made. -/
theorem saveArtifact_fate (s : Save) (before : Session σ) : ∃ after,
    (saveArtifact h dir extension s.module.stem s.mode s.contents).run before =
      (s.answer (disk.fault before.world) dir extension, after) ∧
    disk.content after.world =
      disk.matching.overlay (disk.content before.world) (s.stored (disk.fault before.world) dir extension) ∧
    disk.directories after.world = disk.withDirectory dir before.world ∧
    disk.fault after.world = disk.fault before.world ∧
    ∀ source, disk.fault before.world .createDir dir = some source →
      after = before.after before.world [.madeDir dir] 0 := by
  rw [Batch.saveArtifact_run]
  unfold Host.keep Save.stored Save.answer withDirectory
  cases hmake : disk.fault before.world .createDir dir with
  | some source =>
    rw [disk.createDir_failed hmake]
    refine ⟨_, rfl, rfl, ?_, rfl, fun _ _ => rfl⟩
    simp
  | none =>
    obtain ⟨w, hmade, hcontent, hdirs, hfault⟩ := disk.createDir_done hmake
    rw [hmade]
    dsimp only
    rw [← hfault, ← hcontent]
    cases hwrite : disk.fault w .write (s.path dir extension) with
    | some source =>
      have hfailed := disk.write_failed s.contents hwrite
      rw [Save.path] at hfailed
      rw [hfailed]
      refine ⟨_, rfl, rfl, ?_, rfl, by simp⟩
      simpa using hdirs
    | none =>
      obtain ⟨w', hwritten, hcontent', hdirs', hfault'⟩ := disk.write_done s.contents hwrite
      rw [Save.path] at hwritten
      rw [hwritten]
      refine ⟨_, rfl, hcontent', ?_, hfault', by simp⟩
      simpa [hdirs'] using hdirs

theorem saveAll_fate (saves : List Save) (before : Session σ) : ∃ after,
    (saveAll h dir extension saves).run before =
      (saves.map fun s => s.answer (disk.fault before.world) dir extension, after) ∧
    disk.content after.world = disk.matching.overlay (disk.content before.world)
      (saves.flatMap fun s => s.stored (disk.fault before.world) dir extension) ∧
    disk.directories after.world =
      (if saves = [] then disk.directories before.world else disk.withDirectory dir before.world) := by
  induction saves generalizing before with
  | nil => exact ⟨before, rfl, rfl, rfl⟩
  | cons s rest ih =>
    obtain ⟨middle, hfirst, hcontent, hdirs, hfault, -⟩ := disk.saveArtifact_fate dir extension s before
    obtain ⟨after, hrest, hcontent', hdirs'⟩ := ih middle
    rw [hfault] at hrest hcontent'
    refine ⟨after, ?_, ?_, ?_⟩
    · have hall : (saveAll h dir extension (s :: rest)).run before =
          let first := (saveArtifact h dir extension s.module.stem s.mode s.contents).run before
          (first.1 :: ((saveAll h dir extension rest).run first.2).1,
            ((saveAll h dir extension rest).run first.2).2) := by
        rw [saveAll, List.mapM_cons]
        rfl
      rw [hall, hfirst]
      dsimp only
      rw [hrest, List.map_cons]
    · rw [hcontent', hcontent, List.flatMap_cons, Matching.overlay_append]
    · rw [hdirs', if_neg (List.cons_ne_nil s rest)]
      split_ifs
      · exact hdirs
      · -- the directory made for the second time
        funext q
        simp only [withDirectory, hfault, hdirs]
        cases disk.directories before.world q <;> simp

end FaultyDisk

def positionsOf (q : Save → Bool) (saves : List Save) : List (Fin saves.length) :=
  (List.finRange saves.length).filter fun i => q saves[i]

theorem mem_positionsOf {q : Save → Bool} {saves : List Save} {i : Fin saves.length} :
    i ∈ positionsOf q saves ↔ q saves[i] = true := by
  simp [positionsOf]

theorem sorted_positionsOf (q : Save → Bool) (saves : List Save) : (positionsOf q saves).Pairwise (· < ·) :=
  (List.pairwise_lt_finRange saves.length).filter _

theorem map_positionsOf (q : Save → Bool) (saves : List Save) :
    (positionsOf q saves).map (fun i => saves[i]) = saves.filter q := by
  have hlist : (List.finRange saves.length).map (fun i => saves[i]) = saves := by
    rw [← List.ofFn_eq_map]
    exact List.ofFn_getElem
  conv_rhs => rw [← hlist, List.filter_map]
  rfl

/-- `saves'` are `saves` in another order, in which those of one artifact stand as they stood. -/
structure Reordering (saves saves' : List Save) where
  place : Fin saves'.length ≃ Fin saves.length
  moved (i : Fin saves'.length) : saves'[i] = saves[place i]
  ordered {i j : Fin saves'.length} (before : i < j) (same : saves'[i].key = saves'[j].key) : place i < place j

namespace Reordering
variable {saves saves' : List Save}

theorem length_eq (r : Reordering saves saves') : saves'.length = saves.length :=
  Fin.equiv_iff_eq.mp ⟨r.place⟩

theorem mem_map_positionsOf (r : Reordering saves saves') {q : Save → Bool} {k : Fin saves.length} :
    k ∈ (positionsOf q saves').map r.place ↔ k ∈ positionsOf q saves := by
  rw [mem_positionsOf]
  constructor
  · intro hk
    obtain ⟨i, hi, rfl⟩ := List.mem_map.mp hk
    rw [← r.moved]
    exact mem_positionsOf.mp hi
  · intro hk
    refine List.mem_map.mpr ⟨r.place.symm k, mem_positionsOf.mpr ?_, r.place.apply_symm_apply k⟩
    simpa [r.moved] using hk

/-- Saves that all belong to one artifact are the same in both orders. -/
theorem filter_eq (r : Reordering saves saves') {q : Save → Bool}
    (one : ∀ s t, q s = true → q t = true → s.key = t.key) : saves'.filter q = saves.filter q := by
  have hmoved : ((positionsOf q saves').map r.place).Pairwise (· < ·) := by
    rw [List.pairwise_map]
    refine (sorted_positionsOf q saves').imp_of_mem ?_
    intro i j hi hj hlt
    exact r.ordered hlt (one _ _ (mem_positionsOf.mp hi) (mem_positionsOf.mp hj))
  -- two ascending lists of the same places are one list
  have hplaces : (positionsOf q saves').map r.place = positionsOf q saves := by
    have hsorted := sorted_positionsOf q saves
    have hperm : List.Perm ((positionsOf q saves').map r.place) (positionsOf q saves) :=
      (List.perm_ext_iff_of_nodup (hmoved.imp ne_of_lt) (hsorted.imp ne_of_lt)).mpr fun _ => r.mem_map_positionsOf
    exact hperm.eq_of_pairwise (fun a b _ _ hab hba => absurd hab (lt_asymm hba)) hmoved hsorted
  rw [← map_positionsOf, ← map_positionsOf, ← hplaces, List.map_map]
  exact List.map_congr_left fun i _ => r.moved i

end Reordering

theorem Matching.overlay_filter (matching : Matching) (files : Path → Option Bytes) (saves : List (Path × Bytes))
    (p : Path) : matching.overlay files (saves.filter fun save => matching.alike p save.1) p =
      matching.overlay files saves p := by
  rw [overlay, overlay, ← List.filter_reverse, List.find?_filter]
  simp only [and_self, Bool.decide_eq_true]

theorem filter_stored (matching : Matching) (fault : FileOp → Path → Option IoError) (dir : Path) (extension : String)
    (saves : List Save) (p : Path) :
    (saves.flatMap (Save.stored fault dir extension)).filter (fun save => matching.alike p save.1) =
      (saves.filter fun s => matching.alike p (s.path dir extension)).flatMap (Save.stored fault dir extension) := by
  induction saves with
  | nil => rfl
  | cons s rest ih =>
    rw [List.flatMap_cons, List.filter_append, ih]
    cases hp : matching.alike p (s.path dir extension) with
    | true =>
      have hall : (s.stored fault dir extension).filter (fun save => matching.alike p save.1) =
          s.stored fault dir extension := by
        refine List.filter_eq_self.mpr fun save hsave => ?_
        rw [s.path_of_mem_stored fault dir extension hsave, hp]
      rw [hall, List.filter_cons_of_pos (by simpa using hp), List.flatMap_cons]
    | false =>
      have hnone : (s.stored fault dir extension).filter (fun save => matching.alike p save.1) = [] := by
        refine List.filter_eq_nil_iff.mpr fun save hsave => ?_
        rw [s.path_of_mem_stored fault dir extension hsave, hp]
        exact Bool.false_ne_true
      rw [hnone, List.filter_cons_of_neg (by simp [hp]), List.nil_append]

section Main
variable {h : Host σ} (disk : FaultyDisk h) (dir : Path) (extension : String)

/-- What two interleavings of the same saves have in common. -/
structure Interchangeable {saves saves' : List Save} (r : Reordering saves saves')
    (first second : List (Except ArtifactError Path) × Session σ) : Prop where
  answered : first.1.length = saves.length ∧ second.1.length = saves'.length
  answers (i : Fin saves'.length) : second.1[i.val]? = first.1[(r.place i).val]?
  files : disk.content second.2.world = disk.content first.2.world
  directories : disk.directories second.2.world = disk.directories first.2.world

/-- How far a save reaches: to the file of its artifact, and if it fails to no file at all. -/
structure Confined (s : Save) (before : Session σ) (result : Except ArtifactError Path × Session σ) : Prop where
  stored {p : Path} (done : result.1 = .ok p) :
    p = s.path dir extension ∧ disk.content result.2.world p = some s.contents
  failed {e : ArtifactError} (lost : result.1 = .error e) : disk.content result.2.world = disk.content before.world
  unattempted {e : ArtifactError} (lost : result.1 = .error e) (step : e.step = .createDir) :
    result.2 = before.after before.world [.madeDir dir] 0
  others (t : Save) (other : t.key ≠ s.key) : disk.content result.2.world (t.path dir extension) =
    disk.content before.world (t.path dir extension)

theorem Reordering.interchangeable {saves saves' : List Save} (r : Reordering saves saves') (before : Session σ) :
    Interchangeable disk r ((saveAll h dir extension saves).run before)
      ((saveAll h dir extension saves').run before) := by
  obtain ⟨after, hrun, hcontent, hdirs⟩ := disk.saveAll_fate dir extension saves before
  obtain ⟨after', hrun', hcontent', hdirs'⟩ := disk.saveAll_fate dir extension saves' before
  rw [hrun, hrun']
  exact {
    answered := ⟨List.length_map _, List.length_map _⟩
    answers := by
      intro i
      have hi : saves'[i.val]? = some saves'[i] := List.getElem?_eq_getElem i.isLt
      have hplace : saves[(r.place i).val]? = some saves[r.place i] := List.getElem?_eq_getElem (r.place i).isLt
      rw [List.getElem?_map, List.getElem?_map, hi, hplace, r.moved i]
    files := by
      funext p
      have hone (s t : Save) (hs : disk.matching.alike p (s.path dir extension) = true)
          (ht : disk.matching.alike p (t.path dir extension) = true) : s.key = t.key :=
        Save.key_eq_of_alike disk.matching hs ht
      dsimp only
      rw [hcontent, hcontent', ← Matching.overlay_filter, ← Matching.overlay_filter _ _ (saves.flatMap _), filter_stored,
        filter_stored, r.filter_eq hone]
    directories := by
      have hempty : saves' = [] ↔ saves = [] := by
        rw [← List.length_eq_zero_iff, r.length_eq, List.length_eq_zero_iff]
      dsimp only
      rw [hdirs, hdirs']
      simp only [hempty] }

theorem Save.confined (s : Save) (before : Session σ) : Confined disk dir extension s before
    ((saveArtifact h dir extension s.module.stem s.mode s.contents).run before) := by
  obtain ⟨after, hrun, hcontent, -, -, hnone⟩ := disk.saveArtifact_fate dir extension s before
  rw [hrun]
  exact {
    stored := by
      intro p done
      dsimp only at done ⊢
      have hstored : s.stored (disk.fault before.world) dir extension = [(p, s.contents)] := by
        rw [stored, done]
      refine ⟨s.answer_eq_ok _ dir extension done, ?_⟩
      rw [hcontent, hstored, Matching.overlay_singleton]
      exact if_pos (disk.matching.alike_self p)
    failed := by
      intro e lost
      dsimp only at lost ⊢
      have hstored : s.stored (disk.fault before.world) dir extension = [] := by
        rw [stored, lost]
      rw [hcontent, hstored, Matching.overlay_nil]
    unattempted := by
      intro e lost step
      dsimp only at lost
      unfold answer at lost
      split at lost
      · next source hsource => exact hnone source hsource
      · split at lost
        · obtain rfl := Except.error.inj lost
          cases step
        · cases lost
    others := by
      intro t other
      rw [hcontent]
      refine Matching.overlay_unsaved _ _ fun save hsave => ?_
      rw [s.path_of_mem_stored _ dir extension hsave]
      by_contra hboth
      exact other (Save.key_eq_of_alike disk.matching (disk.matching.alike_self _) (Bool.not_eq_false _ ▸ hboth)) }

/-- Saves may be interleaved in any way that keeps those of one artifact in order, and no save reaches beyond the file
of its own artifact. -/
theorem saves_interleave :
    (∀ {saves saves' : List Save} (r : Reordering saves saves') (before : Session σ),
      Interchangeable disk r ((saveAll h dir extension saves).run before)
        ((saveAll h dir extension saves').run before)) ∧
    ∀ (s : Save) (before : Session σ), Confined disk dir extension s before
      ((saveArtifact h dir extension s.module.stem s.mode s.contents).run before) :=
  ⟨fun r before => r.interchangeable disk dir extension before, fun s before => s.confined disk dir extension before⟩

end Main

/-- Two saves of one artifact, under two spellings of its module, and one between them that is lost. -/
def interleavedSaves : List Save :=
  [⟨Path.ofString "x/a.c", .unoptimized, [1]⟩, ⟨Path.ofString "b.c", .optimized, [2]⟩,
    ⟨Path.ofString "a.c", .unoptimized, [255]⟩]

def interleavedWorld : Memory := ⟨⟨[], [], [], [⟨.write, some (Path.ofString "out/b_optimized.ll"), .enospc⟩]⟩, []⟩

def movedSaves : List Save :=
  [⟨Path.ofString "b.c", .optimized, [2]⟩, ⟨Path.ofString "x/a.c", .unoptimized, [1]⟩,
    ⟨Path.ofString "a.c", .unoptimized, [255]⟩]

def movedOrder : Reordering interleavedSaves movedSaves where
  place := (Equiv.swap 0 1 : Equiv.Perm (Fin 3))
  moved := by decide +kernel
  ordered := by decide +kernel

/-- Saves moved past others, one of which is lost. -/
theorem saves_interleave_around_lost :
    Interchangeable Memory.faultyDisk movedOrder
      ((saveAll Memory.host (Path.ofString "out") "ll" interleavedSaves).run (.start interleavedWorld))
      ((saveAll Memory.host (Path.ofString "out") "ll" movedSaves).run (.start interleavedWorld)) ∧
    Memory.faultyDisk.content
        ((saveAll Memory.host (Path.ofString "out") "ll" movedSaves).run (.start interleavedWorld)).2.world
      (Path.ofString "out/a_unoptimized.ll") = some [255] :=
  ⟨(saves_interleave Memory.faultyDisk (Path.ofString "out") "ll").1 movedOrder (.start interleavedWorld),
    by decide +kernel⟩

end PassDelta
