import Mathlib.Data.List.Basic
import PassDelta.Proofs.Abort
import PassDelta.Proofs.ArtifactPath
import PassDelta.Proofs.Drive
/-!
# What a batch leaves on disk

Every save that comes to pass stores the standard output of its run, byte for byte, and the last save to a path
decides what the path holds. Anything that saves and runs leave alone is as it was before the batch.
-/

namespace PassDelta

variable {σ : Type}

instance : LawfulBEq Path where
  eq_of_beq {p q} h := by
    have hbytes : (p.bytes == q.bytes) = true := h
    exact congrArg Path.mk (eq_of_beq hbytes)
  rfl {p} := by
    have hbytes : (p.bytes == p.bytes) = true := beq_self_eq_true _
    exact hbytes

/-- How a host tells paths apart: any spelling stands for itself, and no two paths are taken for one. -/
structure Matching where
  alike : Path → Path → Bool
  alike_self (p : Path) : alike p p = true
  same_of_alike {p q : Path} (h : alike p q = true) : p.same q = true

def Matching.exact : Matching where
  alike p q := decide (p = q)
  alike_self _ := decide_eq_true rfl
  same_of_alike h := decide_eq_true (congrArg Path.components (of_decide_eq_true h))

def Matching.spelled : Matching where
  alike := Path.same
  alike_self _ := decide_eq_true rfl
  same_of_alike h := h

theorem Matching.alike_artifact (matching : Matching) (dir : Path) (extension : String) (m n : Path) (mode mode' : Mode) :
    matching.alike (artifactPath dir m.stem mode extension) (artifactPath dir n.stem mode' extension) = true ↔
      m.stem = n.stem ∧ mode = mode' := by
  have hm := Path.slash_not_mem_stem m
  have hn := Path.slash_not_mem_stem n
  constructor
  · exact fun h => (artifactPath_same_iff mode mode' dir extension hm hn).mp (matching.same_of_alike h)
  · rintro ⟨hstem, rfl⟩
    rw [hstem]
    exact matching.alike_self _

/-- No path stands for two artifacts of one directory. -/
theorem Matching.artifact_unique (matching : Matching) {dir : Path} {extension : String} {m n : Path} {mode mode' : Mode}
    {q : Path} (hm : matching.alike q (artifactPath dir m.stem mode extension) = true)
    (hn : matching.alike q (artifactPath dir n.stem mode' extension) = true) : m.stem = n.stem ∧ mode = mode' := by
  have hfirst := of_decide_eq_true (matching.same_of_alike hm)
  have hsecond := of_decide_eq_true (matching.same_of_alike hn)
  exact (artifactPath_same_iff mode mode' dir extension (Path.slash_not_mem_stem m) (Path.slash_not_mem_stem n)).mp
    (decide_eq_true (hfirst.symm.trans hsecond))

/-- Files as a host keeps them: a write that succeeds stores the given bytes at the given path, one that fails changes
no file, and neither runs nor the making of directories touch files. -/
structure Disk (h : Host σ) where
  matching : Matching
  content : σ → Path → Option Bytes
  content_execute (w : σ) (c : Command) : content (h.execute w c).2 = content w
  content_createDir (w : σ) (p : Path) : content (h.createDir w p).2 = content w
  content_write (w : σ) (p : Path) (contents : Bytes) : content (h.write w p contents).2 =
    match (h.write w p contents).1 with
    | .ok () => fun q => if matching.alike q p then some contents else content w q
    | .error _ => content w

/-- Directories as a host keeps them: making one may make others together with it, such as those above it, and nothing
else makes or takes any. -/
structure Folders (h : Host σ) where
  directories : σ → Path → Bool
  made : Path → Path → Bool
  directories_execute (w : σ) (c : Command) : directories (h.execute w c).2 = directories w
  directories_kept (w : σ) (p : Path) {q : Path} (there : directories w q = true) :
    directories (h.createDir w p).2 q = true
  directories_made (w : σ) (p : Path) {q : Path} (there : directories (h.createDir w p).2 q = true) :
    directories w q = true ∨ made p q = true
  directories_write (w : σ) (p : Path) (contents : Bytes) : directories (h.write w p contents).2 = directories w

def Answer.output? : Answer → Option Bytes
  | .ok done => if done.status.isSuccess then some done.stdout else none
  | .error _ => none

theorem Setup.judge_output (setup : Setup) {m : Path} {mode : Mode} {a : Answer} {c : Capture}
    (hc : setup.judge m mode a = .ok c) : Answer.output? a = some c.stdout := by
  obtain ⟨done, rfl, hs, rfl⟩ := setup.judge_ok hc
  simp [Answer.output?, hs]

theorem Answer.output_failed {a : Answer} (ha : a.succeeded = false) : a.output? = none := by
  cases a with
  | error source => rfl
  | ok done =>
    have hs : done.status.isSuccess = false := ha
    simp [output?, hs]

namespace Host
variable (h : Host σ) (setup : Setup)

def kept (m : Path) (mode : Mode) (contents : Bytes) (w : σ) : List (Path × Bytes) :=
  match (h.keep setup.outputDir setup.extension m.stem mode contents w).1 with
  | none => [(artifactPath setup.outputDir m.stem mode setup.extension, contents)]
  | some _ => []

/-- The saves that come to pass for a module found in the world `w`: after two successful runs those of their
outputs, the unoptimized one first. -/
def saves (w : σ) (m : Path) : List (Path × Bytes) :=
  match h.isPresent w m, (h.reply setup w m .unoptimized).1.output?, (h.reply setup w m .optimized).1.output? with
  | true, some first, some second =>
    let w₀ := (h.reply setup w m .optimized).2
    let w₁ := (h.keep setup.outputDir setup.extension m.stem .unoptimized first w₀).2
    h.kept setup m .unoptimized first w₀ ++ h.kept setup m .optimized second w₁
  | _, _, _ => []

end Host

namespace Matching
variable (matching : Matching)

/-- What files hold after some saves: what was saved last to a path, or else what was there. -/
def overlay (files : Path → Option Bytes) (saves : List (Path × Bytes)) (p : Path) : Option Bytes :=
  ((saves.reverse.find? fun save => matching.alike p save.1).map Prod.snd).or (files p)

@[simp] theorem overlay_nil (files : Path → Option Bytes) : matching.overlay files [] = files := rfl

theorem overlay_append (files : Path → Option Bytes) (first second : List (Path × Bytes)) :
    matching.overlay files (first ++ second) = matching.overlay (matching.overlay files first) second := by
  funext p
  simp only [overlay, List.reverse_append, List.find?_append, Option.map_or, Option.or_assoc]

theorem overlay_singleton (files : Path → Option Bytes) (p : Path) (contents : Bytes) :
    matching.overlay files [(p, contents)] = fun q => if matching.alike q p then some contents else files q := by
  funext q
  cases hq : matching.alike q p <;> simp [overlay, hq]

theorem overlay_unsaved (files : Path → Option Bytes) {saves : List (Path × Bytes)} {p : Path}
    (hsaves : ∀ save ∈ saves, matching.alike p save.1 = false) : matching.overlay files saves p = files p := by
  have hnone : saves.reverse.find? (fun save => matching.alike p save.1) = none := by
    rw [List.find?_eq_none]
    intro save hs
    rw [hsaves save (List.mem_reverse.mp hs)]
    exact Bool.false_ne_true
  rw [overlay, hnone, Option.map_none, Option.none_or]

theorem overlay_last (files : Path → Option Bytes) (before after : List (Path × Bytes)) {p q : Path} {contents : Bytes}
    (hq : matching.alike q p = true) (hafter : ∀ save ∈ after, matching.alike q save.1 = false) :
    matching.overlay files (before ++ (p, contents) :: after) q = some contents := by
  rw [overlay_append, ← List.singleton_append, overlay_append, overlay_unsaved _ _ hafter, overlay_singleton]
  exact if_pos hq

end Matching

namespace Disk
variable {h : Host σ} (disk : Disk h) (setup : Setup)

theorem content_reply (w : σ) (m : Path) (mode : Mode) : disk.content (h.reply setup w m mode).2 = disk.content w := by
  cases mode with
  | unoptimized => exact disk.content_execute _ _
  | optimized => exact (disk.content_execute _ _).trans (disk.content_execute _ _)

theorem content_keep (m : Path) (mode : Mode) (contents : Bytes) (w : σ) :
    disk.content (h.keep setup.outputDir setup.extension m.stem mode contents w).2 =
      disk.matching.overlay (disk.content w) (h.kept setup m mode contents w) := by
  have hmade := disk.content_createDir w setup.outputDir
  simp only [Host.kept, Host.keep]
  rcases hc : h.createDir w setup.outputDir with ⟨made, w₁⟩
  rw [hc] at hmade
  cases made with
  | error source => exact hmade
  | ok u =>
    have hwritten := disk.content_write w₁ (artifactPath setup.outputDir m.stem mode setup.extension) contents
    dsimp only
    rcases hw : h.write w₁ (artifactPath setup.outputDir m.stem mode setup.extension) contents with ⟨written, w₂⟩
    rw [hw] at hwritten
    cases written with
    | error source => exact hwritten.trans hmade
    | ok u =>
      dsimp only at hwritten hmade ⊢
      rw [hwritten, hmade, Matching.overlay_singleton]

end Disk

/-- Every save goes to an artifact of its module. -/
theorem Host.mem_kept {h : Host σ} {setup : Setup} {m : Path} {mode : Mode} {contents : Bytes} {w : σ}
    {save : Path × Bytes} (hsave : save ∈ h.kept setup m mode contents w) :
    save = (artifactPath setup.outputDir m.stem mode setup.extension, contents) ∧
      h.kept setup m mode contents w = [save] := by
  unfold kept at hsave ⊢
  split at hsave
  · obtain rfl := List.mem_singleton.mp hsave
    exact ⟨rfl, rfl⟩
  · cases hsave

theorem Host.mem_saves {h : Host σ} {setup : Setup} {m : Path} {w : σ} {save : Path × Bytes}
    (hsave : save ∈ h.saves setup w m) : ∃ mode, save.1 = artifactPath setup.outputDir m.stem mode setup.extension := by
  unfold saves at hsave
  split at hsave
  · rcases List.mem_append.mp hsave with hmem | hmem
    · exact ⟨.unoptimized, congrArg Prod.fst (mem_kept hmem).1⟩
    · exact ⟨.optimized, congrArg Prod.fst (mem_kept hmem).1⟩
  · cases hsave

namespace Batch
variable {h : Host σ} {style : Style} {setup : Setup}

/-- After a visit the files are overlaid with its saves. -/
theorem Visited.contents (disk : Disk h) {stems : List String} {m : Path} {s t : Session σ} {v : Visit}
    (hv : Visited h style setup stems m s v t) :
    disk.content t.world = disk.matching.overlay (disk.content s.world) (h.saves setup s.world m) := by
  cases hv with
  | skipped absent => simp [Host.saves, absent]
  | failedFirst present first =>
    have hlost := Answer.output_failed (setup.judge_error first).1
    simp [Host.saves, present, hlost, disk.content_reply]
  | failedSecond present first second =>
    have hlost := Answer.output_failed (setup.judge_error second).1
    simp [Host.saves, present, setup.judge_output first, hlost, disk.content_reply]
  | @compared c₁ c₂ l₁ l₂ w₁ w₂ present first second kept₁ kept₂ =>
    have hfirst := disk.content_keep setup m .unoptimized c₁.stdout (h.reply setup s.world m .optimized).2
    have hsecond := disk.content_keep setup m .optimized c₂.stdout w₁
    rw [kept₁, disk.content_reply] at hfirst
    rw [kept₂] at hsecond
    simp only [Host.saves, present, setup.judge_output first, setup.judge_output second, kept₁, Session.after_world]
    rw [Matching.overlay_append, ← hfirst, ← hsecond]

theorem keep_preserves {P : σ → Prop} (hdir : ∀ w, P w → P (h.createDir w setup.outputDir).2) {m : Path}
    (hwrite : ∀ w mode contents, P w →
      P (h.write w (artifactPath setup.outputDir m.stem mode setup.extension) contents).2)
    (mode : Mode) (contents : Bytes) {w : σ} (hw : P w) :
    P (h.keep setup.outputDir setup.extension m.stem mode contents w).2 := by
  have hmade := hdir w hw
  unfold Host.keep
  rcases hc : h.createDir w setup.outputDir with ⟨made, w₁⟩
  rw [hc] at hmade
  cases made with
  | error source => exact hmade
  | ok u =>
    have hwritten := hwrite w₁ mode contents hmade
    dsimp only
    rcases hw : h.write w₁ (artifactPath setup.outputDir m.stem mode setup.extension) contents with ⟨written, w₂⟩
    rw [hw] at hwritten
    cases written with
    | error source => exact hwritten
    | ok u => exact hwritten

variable (h setup) in
/-- Nothing that a batch over `ms` does leads out of the worlds with the property `P`. -/
structure Preserved (ms : List Path) (P : σ → Prop) : Prop where
  execute : ∀ w c, P w → P (h.execute w c).2
  createDir : ∀ w, P w → P (h.createDir w setup.outputDir).2
  write : ∀ w, ∀ m ∈ ms, ∀ mode contents, P w →
    P (h.write w (artifactPath setup.outputDir m.stem mode setup.extension) contents).2

namespace Preserved
variable {ms : List Path} {P : σ → Prop} (preserved : Preserved h setup ms P)
include preserved

theorem visited {stems : List String} {m : Path} (hm : m ∈ ms) {s t : Session σ} {v : Visit}
    (hv : Visited h style setup stems m s v t) (hs : P s.world) : P t.world := by
  have hreply (mode : Mode) : P (h.reply setup s.world m mode).2 := by
    cases mode with
    | unoptimized => exact preserved.execute _ _ hs
    | optimized => exact preserved.execute _ _ (preserved.execute _ _ hs)
  cases hv with
  | skipped absent => exact hs
  | failedFirst present first => exact hreply .unoptimized
  | failedSecond present first second => exact hreply .optimized
  | @compared c₁ c₂ l₁ l₂ w₁ w₂ present first second kept₁ kept₂ =>
    have hkeep (mode : Mode) (contents : Bytes) {w : σ} (hw : P w) :
        P (h.keep setup.outputDir setup.extension m.stem mode contents w).2 :=
      keep_preserves preserved.createDir (fun w => preserved.write w m hm) mode contents hw
    have hfirst := hkeep .unoptimized c₁.stdout (hreply .optimized)
    rw [kept₁] at hfirst
    have hsecond := hkeep .optimized c₂.stdout hfirst
    rwa [kept₂] at hsecond

theorem walk {stems : List String} {rest : List Path} (hrest : ∀ m ∈ rest, m ∈ ms) {s : Session σ} (hs : P s.world) :
    P ((walk h style setup stems rest).run s).2.world := by
  induction rest generalizing stems s with
  | nil => exact hs
  | cons m rest ih =>
    have hafter : P (stopAt h style setup stems m s).after.world :=
      preserved.visited (hrest m List.mem_cons_self) (visit_visited h style setup stems m s) hs
    rw [walk_cons]
    dsimp only
    split
    · exact hafter
    · exact ih (fun n hn => hrest n (List.mem_cons_of_mem m hn)) hafter

theorem run {world : σ} (hw : P world) : P ((run h style setup ms).run (.start world)).2.world := by
  rw [run_run]
  exact preserved.walk (fun _ hm => hm) hw

end Preserved

variable (h setup) in
/-- Nothing that a batch over `ms` does changes what the view shows. -/
structure Untouched (ms : List Path) {φ : Type} (view : σ → φ) : Prop where
  execute : ∀ w c, view (h.execute w c).2 = view w
  createDir : ∀ w, view (h.createDir w setup.outputDir).2 = view w
  write : ∀ w, ∀ m ∈ ms, ∀ mode contents,
    view (h.write w (artifactPath setup.outputDir m.stem mode setup.extension) contents).2 = view w

namespace Untouched
variable {φ : Type} {view : σ → φ} {ms : List Path} (untouched : Untouched h setup ms view)
include untouched

theorem preserved (x : φ) : Preserved h setup ms (view · = x) where
  execute w c hw := (untouched.execute w c).trans hw
  createDir w hw := (untouched.createDir w).trans hw
  write w m hm mode contents hw := (untouched.write w m hm mode contents).trans hw

theorem visited_eq {stems : List String} {m : Path} (hm : m ∈ ms) {s t : Session σ} {v : Visit}
    (hv : Visited h style setup stems m s v t) : view t.world = view s.world :=
  (untouched.preserved _).visited hm hv rfl

theorem run_eq (world : σ) : view ((run h style setup ms).run (.start world)).2.world = view world :=
  (untouched.preserved _).run rfl

end Untouched

variable (setup) in
/-- What a batch over `ms` that starts in `world` leaves behind: a path holds what was saved last to it, or else what
it held before; only the output directory is made, with such as are made together with it, and only artifacts of the
listed modules are written; and whatever these and the runs do not touch is as it was. -/
structure LeavesArtifacts (disk : Disk h) (world : σ) (ms : List Path) (saves : List (Path × Bytes))
    (result : Session σ) : Prop where
  saved : ∀ p contents before after, saves = before ++ (p, contents) :: after → (∀ save ∈ after, save.1 ≠ p) →
    ∀ q, disk.matching.alike q p = true → disk.content result.world q = some contents
  unsaved : ∀ q, (∀ save ∈ saves, disk.matching.alike q save.1 = false) →
    disk.content result.world q = disk.content world q
  changes : ∀ a ∈ changes result.trace, a = .madeDir setup.outputDir ∨
    ∃ m ∈ ms, ∃ mode size, a = .wrote (artifactPath setup.outputDir m.stem mode setup.extension) size
  directories : ∀ (folders : Folders h) (q : Path),
    (folders.directories world q = true → folders.directories result.world q = true) ∧
    (folders.directories result.world q = true →
      folders.directories world q = true ∨ folders.made setup.outputDir q = true)
  elsewhere : ∀ {φ : Type} (view : σ → φ), (∀ w c, view (h.execute w c).2 = view w) →
    (∀ w, view (h.createDir w setup.outputDir).2 = view w) →
    (∀ w, ∀ m ∈ ms, ∀ mode contents,
      view (h.write w (artifactPath setup.outputDir m.stem mode setup.extension) contents).2 = view w) →
    view result.world = view world

def savesOf (h : Host σ) (style : Style) (setup : Setup) (world : σ) (ms : List Path) : List (Path × Bytes) :=
  (visitedPositions h style setup world ms).flatMap fun p => h.saves setup p.2 p.1

theorem path_of_mem_savesOf {world : σ} {ms : List Path} {save : Path × Bytes}
    (hsave : save ∈ savesOf h style setup world ms) :
    ∃ m ∈ ms, ∃ mode, save.1 = artifactPath setup.outputDir m.stem mode setup.extension := by
  unfold savesOf at hsave
  rw [← stops_visited, List.flatMap_map] at hsave
  obtain ⟨stop, hstop, hmem⟩ := List.mem_flatMap.mp hsave
  exact ⟨stop.module, (course_modules h style setup [] ms (.start world)).subset (List.mem_map_of_mem hstop),
    Host.mem_saves hmem⟩

theorem overlay_foldl {α : Type} (matching : Matching) (saves : α → List (Path × Bytes)) (files : Path → Option Bytes)
    (stops : List α) : stops.foldl (fun current stop => matching.overlay current (saves stop)) files =
      matching.overlay files (stops.flatMap saves) := by
  induction stops generalizing files with
  | nil => rfl
  | cons stop rest ih => rw [List.foldl_cons, ih, List.flatMap_cons, Matching.overlay_append]

variable (style setup) in
theorem run_contents (disk : Disk h) (world : σ) (ms : List Path) :
    disk.content ((run h style setup ms).run (.start world)).2.world =
      disk.matching.overlay (disk.content world) (savesOf h style setup world ms) := by
  have hfold := walk_foldl h style setup (fun s => disk.content s.world)
    (fun current stop => disk.matching.overlay current (h.saves setup stop.before.world stop.module)) [] ms
    (.start world)
    fun stop hs => (course_visited h style setup [] ms (.start world) stop hs).contents disk
  rw [overlay_foldl] at hfold
  rw [savesOf, ← stops_visited, List.flatMap_map, run_run]
  exact hfold

/-- A batch stores the raw output of every save that comes to pass, the last one to a path for good, and touches
nothing but its artifacts and their directory. -/
theorem run_leaves_artifacts (disk : Disk h) (style : Style) (setup : Setup) (world : σ) (ms : List Path) :
    LeavesArtifacts setup disk world ms (savesOf h style setup world ms)
      ((run h style setup ms).run (.start world)).2 := by
  have hcontents := run_contents style setup disk world ms
  exact {
    saved := by
      intro p contents before after hsaves hafter q hq
      rw [hcontents, hsaves]
      refine Matching.overlay_last _ _ _ _ hq fun save hs => ?_
      have hpath {save : Path × Bytes} (hs : save ∈ before ++ (p, contents) :: after) :
          ∃ m ∈ ms, ∃ mode, save.1 = artifactPath setup.outputDir m.stem mode setup.extension :=
        path_of_mem_savesOf (hsaves ▸ hs)
      obtain ⟨m, -, mode, hm⟩ := hpath (List.mem_append_right before (List.mem_cons_of_mem _ hs))
      obtain ⟨n, -, mode', hn⟩ := hpath (List.mem_append_right before List.mem_cons_self)
      -- a later save that `q` stands for as well would be one to `p`
      by_contra hlater
      rw [Bool.not_eq_false, hm] at hlater
      dsimp only at hn
      rw [hn] at hq
      obtain ⟨hstem, rfl⟩ := disk.matching.artifact_unique hlater hq
      exact hafter save hs (by rw [hm, hn, hstem])
    unsaved := by
      intro q hsaves
      rw [hcontents, Matching.overlay_unsaved _ _ hsaves]
    changes := by
      intro a ha
      obtain ⟨ha, hchange⟩ := List.mem_filter.mp ha
      obtain ⟨done, rest, ht⟩ := List.append_of_mem ha
      obtain ⟨i, m, hm, hbacked⟩ := change_of_run ht hchange
      exact hbacked.target.imp_right fun hw => ⟨m, List.mem_of_getElem? hm, hw⟩
    directories := by
      intro folders q
      have hkept : Preserved h setup ms fun w => folders.directories w q = true := {
        execute := fun w c hw => (folders.directories_execute w c).symm ▸ hw
        createDir := fun w hw => folders.directories_kept w setup.outputDir hw
        write := fun w m hm mode contents hw => (folders.directories_write w _ contents).symm ▸ hw }
      have hmade : Preserved h setup ms fun w => folders.directories w q = true →
          folders.directories world q = true ∨ folders.made setup.outputDir q = true := {
        execute := fun w c hw hq => hw ((folders.directories_execute w c) ▸ hq)
        createDir := fun w hw hq => (folders.directories_made w setup.outputDir hq).elim hw .inr
        write := fun w m hm mode contents hw hq => hw ((folders.directories_write w _ contents) ▸ hq) }
      exact ⟨fun hq => hkept.run hq, hmade.run .inl⟩
    elsewhere := fun view hrun hdir hwrite => (Untouched.mk hrun hdir hwrite).run_eq world }

end Batch

namespace Memory

/-- A file that is put is the one that is found under its path. -/
theorem lookup_put (files : List (Path × Bytes)) (p : Path) (contents : Bytes) (q : Path) :
    (Store.put files p contents).lookup q = if q = p then some contents else files.lookup q := by
  induction files with
  | nil =>
    by_cases hq : q = p
    · simp [Store.put, hq]
    · simp [Store.put, List.lookup_cons, hq, beq_false_of_ne hq]
  | cons file rest ih =>
    obtain ⟨r, old⟩ := file
    by_cases hr : r = p
    · by_cases hq : q = p
      · simp [Store.put, hr, hq]
      · simp [Store.put, List.lookup_cons, hr, hq, beq_false_of_ne hq]
    · by_cases hq : q = r
      · simp [Store.put, hr, hq]
      · simp [Store.put, List.lookup_cons, hr, beq_false_of_ne hq, ih]

def disk : Disk host where
  matching := .exact
  content m := m.store.content?
  content_execute m c := by
    simp only [host, execute]
    cases m.answers <;> rfl
  content_createDir m p := by
    simp only [host, Store.createDir]
    cases m.store.fault? .createDir p <;> rfl
  content_write m p contents := by
    simp only [host, Store.write]
    cases m.store.fault? .write p with
    | some e => rfl
    | none =>
      funext q
      simp only [Matching.exact, decide_eq_true_eq]
      exact lookup_put m.store.files p contents q

end Memory

namespace Drive
variable (compile : Command → Answer)

def disk : Disk (host compile) where
  matching := .spelled
  content := content
  content_execute _ _ := rfl
  content_createDir := content_createDir
  content_write := content_write

def folders : Folders (host compile) where
  directories := hasDir
  made p q := q.leadsTo p
  directories_execute := hasDir_execute compile
  directories_kept d p q there := by
    change (d.createDir p).2.hasDir q = true
    rw [hasDir_createDir]
    split
    · exact Bool.or_eq_true_iff.mpr (.inl there)
    · exact there
  directories_made d p q there := by
    change (d.createDir p).2.hasDir q = true at there
    rw [hasDir_createDir] at there
    split at there
    · exact Bool.or_eq_true_iff.mp there
    · exact .inl there
  directories_write := hasDir_write

end Drive

namespace Batch

def sharedStemWorld : Memory :=
  ⟨⟨[Path.ofString "x/a.c", Path.ofString "y/a.c"], [], [], []⟩,
    [[1], [2], [255, 13, 10], []].map fun stdout => .ok ⟨.exited 0, stdout, [], ⟨0⟩⟩⟩

def nestedSetup : Setup := { scriptedSetup with outputDir := Path.ofString "a/b" }

def nestedHost : Host Drive := Drive.host (Drive.echo (Path.ofString "refused.c"))

def nestedModules : List Path := [Path.ofString "m.c", Path.ofString "gone.c", Path.ofString "n.c"]

def nestedWorld (fault : FileOp → List Component → Option IoError) : Drive :=
  Drive.holding [Path.ofString "m.c", Path.ofString "n.c"] fault

def nestedDisk : Disk nestedHost := Drive.disk _

def nestedFolders : Folders nestedHost := Drive.folders _

/-- The second module of one stem decides what the artifact holds, and in the other world only directories on the way
to the output directory are there afterwards. -/
theorem run_leaves_artifacts_shared_stem :
    Memory.disk.content ((run Memory.host ⟨false, false⟩ scriptedSetup
        [Path.ofString "x/a.c", Path.ofString "y/a.c"]).run (.start sharedStemWorld)).2.world
      (Path.ofString "out/a_unoptimized.ll") = some [255, 13, 10] ∧
    ∀ q, nestedFolders.directories ((run nestedHost ⟨false, false⟩ nestedSetup nestedModules).run
        (.start (nestedWorld Drive.faultless))).2.world q = true →
      nestedFolders.made (Path.ofString "a/b") q = true := by
  constructor
  · exact (run_leaves_artifacts Memory.disk ⟨false, false⟩ scriptedSetup sharedStemWorld
      [Path.ofString "x/a.c", Path.ofString "y/a.c"]).saved _ _
      [(Path.ofString "out/a_unoptimized.ll", [1]), (Path.ofString "out/a_optimized.ll", [2])]
      [(Path.ofString "out/a_optimized.ll", [])] (by decide +kernel) (by decide +kernel) _ (decide_eq_true rfl)
  · intro q hq
    have hleft := run_leaves_artifacts nestedDisk ⟨false, false⟩ nestedSetup (nestedWorld Drive.faultless) nestedModules
    exact ((hleft.directories nestedFolders q).2 hq).resolve_left Bool.false_ne_true

end Batch
end PassDelta
