import PassDelta.Proofs.Faults
import PassDelta.Proofs.Script
/-!
# Steady hosts

On a steady host a file operation fails by its path or not at all, and the compiler answers by the call. A batch over
modules that it does not itself create is then told beforehand: what becomes of a module depends on whether it was there
at the start, and what is left in files and directories on what became of the modules.
-/

namespace PassDelta

variable {σ : Type}

def Answer.untimed : Answer → Answer
  | .ok done => .ok { done with elapsed := ⟨0⟩ }
  | .error source => .error source

def Capture.untimed (c : Capture) : Capture := { c with elapsed := ⟨0⟩ }

def Visit.untimed : Visit → Visit
  | .compared c => .compared { c with captures := c.captures.map Capture.untimed }
  | v => v

theorem Setup.judge_untimed_ok {setup : Setup} {m : Path} {mode : Mode} {a : Answer} {c : Capture}
    (hc : setup.judge m mode a = .ok c) : setup.judge m mode a.untimed = .ok c.untimed := by
  obtain ⟨done, rfl, hs, rfl⟩ := setup.judge_ok hc
  simp [Answer.untimed, judge, hs, Capture.untimed]

theorem Setup.judge_untimed_error {setup : Setup} {m : Path} {mode : Mode} {a : Answer} {e : InvocationError}
    (he : setup.judge m mode a = .error e) : setup.judge m mode a.untimed = .error e := by
  cases a with
  | error source => exact he
  | ok done =>
    have hs : done.status.isSuccess = false := (setup.judge_error he).1
    simp only [judge, hs, Bool.false_eq_true, ↓reduceIte] at he
    simpa [Answer.untimed, judge, hs] using he

theorem Visit.isAborted_untimed (v : Visit) : v.untimed.isAborted = v.isAborted := by cases v <;> rfl

theorem Summary.ofVisits_untimed (setup : Setup) (visits : List Visit) :
    Summary.ofVisits setup (visits.map Visit.untimed) = Summary.ofVisits setup visits := by
  have hreport : Visit.report? setup ∘ Visit.untimed = Visit.report? setup := by
    funext v
    cases v <;> rfl
  have hskipped : Visit.skipped? ∘ Visit.untimed = Visit.skipped? := by
    funext v
    cases v <;> rfl
  have hfailures : Visit.failures ∘ Visit.untimed = Visit.failures := by
    funext v
    cases v <;> rfl
  have hfailure : Visit.failure? ∘ Visit.untimed = Visit.failure? := by
    funext v
    cases v <;> rfl
  have hlost : (visits.map Visit.untimed).flatMap Visit.failures = visits.flatMap Visit.failures := by
    rw [List.flatMap_map]
    exact congrArg visits.flatMap hfailures
  simp only [Summary.ofVisits_eq, List.filterMap_map, hreport, hskipped, hfailure, hlost]

namespace Visit

def saves (setup : Setup) : Visit → List (Path × Bytes)
  | .compared c => [Mode.unoptimized, .optimized].filterMap fun mode =>
      match c.losses.get mode with
      | none => some (artifactPath setup.outputDir c.module.stem mode setup.extension, (c.captures.get mode).stdout)
      | some _ => none
  | _ => []

def isCompared : Visit → Bool
  | .compared _ => true
  | _ => false

theorem saves_untimed (setup : Setup) (v : Visit) : v.untimed.saves setup = v.saves setup := by
  cases v with
  | compared c =>
    obtain ⟨m, ⟨c₁, c₂⟩, ⟨l₁, l₂⟩⟩ := c
    cases l₁ <;> cases l₂ <;> rfl
  | skipped m => rfl
  | aborted e => rfl

theorem isCompared_untimed (v : Visit) : v.untimed.isCompared = v.isCompared := by cases v <;> rfl

def untilAborted : List Visit → List Visit
  | [] => []
  | v :: rest => v :: if v.isAborted then [] else untilAborted rest

theorem untilAborted_eq_self {visits : List Visit} (hv : ∀ v ∈ visits, v.isAborted = false) :
    untilAborted visits = visits := by
  induction visits with
  | nil => rfl
  | cons v rest ih =>
    rw [untilAborted, hv v List.mem_cons_self, ih fun u hu => hv u (List.mem_cons_of_mem v hu)]
    rfl

end Visit

namespace Host
variable (h : Host σ) (setup : Setup)

/-- A module is attended as a visit says. -/
theorem attend_visited (w : σ) (m : Path) : ∃ v t, h.attend setup w m = (v, t.world) ∧
    Batch.Visited h ⟨false, false⟩ setup [] m (.start w) v t := by
  have hv := Batch.visit_visited h ⟨false, false⟩ setup [] m (.start w)
  rw [Batch.visit_script] at hv
  exact ⟨_, _, rfl, hv⟩

theorem saves_eq (w : σ) (m : Path) : h.saves setup w m = (h.attend setup w m).1.saves setup := by
  obtain ⟨v, t, hattend, hv⟩ := h.attend_visited setup w m
  rw [hattend]
  cases hv with
  | skipped absent =>
    rw [Session.start_world] at absent
    simp [saves, absent, Visit.saves]
  | failedFirst present first =>
    rw [Session.start_world] at present first
    have hlost := Answer.output_failed (setup.judge_error first).1
    simp [saves, present, hlost, Visit.saves]
  | failedSecond present first second =>
    rw [Session.start_world] at present first second
    have hlost := Answer.output_failed (setup.judge_error second).1
    simp [saves, present, setup.judge_output first, hlost, Visit.saves]
  | @compared c₁ c₂ l₁ l₂ w₁ w₂ present first second kept₁ kept₂ =>
    rw [Session.start_world] at present first second kept₁
    simp only [saves, present, setup.judge_output first, setup.judge_output second, kept, kept₁, kept₂]
    cases l₁ <;> cases l₂ <;> rfl

end Host

def ioError? : Except IoError Unit → Option IoError
  | .ok () => none
  | .error source => some source

/-- A host whose file operations fail by their path alone, with faults that nothing changes, and whose compiler answers
by the call alone, up to the time it takes. Which directories an attempt to make one adds is a matter of the faults:
one that fails may still have made some of those above. -/
structure Steady (h : Host σ) extends Disk h, Presence h where
  directories : σ → Path → Bool
  answer : Command → Answer
  fault : σ → FileOp → Path → Option IoError
  built : (FileOp → Path → Option IoError) → Path → Path → Bool
  answer_eq (w : σ) (c : Command) : Answer.untimed (h.execute w c).1 = answer c
  directories_execute (w : σ) (c : Command) : directories (h.execute w c).2 = directories w
  fault_execute (w : σ) (c : Command) : fault (h.execute w c).2 = fault w
  createDir_eq (w : σ) (p : Path) : ioError? (h.createDir w p).1 = fault w .createDir p
  directories_createDir (w : σ) (p : Path) : directories (h.createDir w p).2 =
    fun q => directories w q || built (fault w) p q
  fault_createDir (w : σ) (p : Path) : fault (h.createDir w p).2 = fault w
  write_eq (w : σ) (p : Path) (contents : Bytes) : ioError? (h.write w p contents).1 = fault w .write p
  directories_write (w : σ) (p : Path) (contents : Bytes) : directories (h.write w p contents).2 = directories w
  fault_write (w : σ) (p : Path) (contents : Bytes) : fault (h.write w p contents).2 = fault w

namespace Steady
variable {h : Host σ} (steady : Steady h) (setup : Setup)

def loss (w : σ) (m : Path) (mode : Mode) : Option ArtifactError :=
  match steady.fault w .createDir setup.outputDir with
  | some source => some ⟨.createDir, setup.outputDir, source⟩
  | none =>
    let path := artifactPath setup.outputDir m.stem mode setup.extension
    (steady.fault w .write path).map fun source => ⟨.write, path, source⟩

def expected (w : σ) (m : Path) : Visit :=
  if h.isPresent w m then
    match setup.judge m .unoptimized (steady.answer (h.command setup m .unoptimized)),
      setup.judge m .optimized (steady.answer (h.command setup m .optimized)) with
    | .error e, _ => .aborted e
    | .ok _, .error e => .aborted e
    | .ok c₁, .ok c₂ => .compared ⟨m, ⟨c₁, c₂⟩, ⟨steady.loss setup w m .unoptimized, steady.loss setup w m .optimized⟩⟩
  else .skipped m

/-- What a batch over `ms` comes to if what is there at its start stays there, and nothing else appears. -/
def outlook (w : σ) (ms : List Path) : List Visit := Visit.untilAborted (ms.map (steady.expected setup w))

theorem fault_untouched (ms : List Path) : Batch.Untouched h setup ms steady.fault where
  execute := steady.fault_execute
  createDir w := steady.fault_createDir w setup.outputDir
  write w _ _ _ contents := steady.fault_write w _ contents

theorem loss_congr {w w' : σ} (faults : steady.fault w = steady.fault w') :
    steady.loss setup w = steady.loss setup w' := by
  funext m mode
  simp only [loss, faults]

variable {setup} in
/-- An attempt to save ends as the faults say, which it does not change, and adds the directories that they allow. -/
theorem saved_expected {m : Path} {mode : Mode} {contents : Bytes} {w w' : σ} {l : Option ArtifactError}
    (hs : Batch.Saved h setup m mode contents w l w') : l = steady.loss setup w m mode ∧
      steady.fault w' = steady.fault w ∧ steady.directories w' = fun q => steady.directories w q ||
        steady.built (steady.fault w) setup.outputDir q := by
  have hmake := steady.createDir_eq w setup.outputDir
  have hdirs := steady.directories_createDir w setup.outputDir
  have hfaults := steady.fault_createDir w setup.outputDir
  let path := artifactPath setup.outputDir m.stem mode setup.extension
  cases hs with
  | noDirectory made =>
    rw [made] at hmake hdirs hfaults
    simp [loss, ← hmake, ioError?, hdirs, hfaults]
  | @notWritten source w₁ w₂ made written =>
    have hwrite := steady.write_eq w₁ path contents
    have hkept := steady.directories_write w₁ path contents
    have hsame := steady.fault_write w₁ path contents
    rw [made] at hmake hdirs hfaults
    rw [written] at hwrite hkept hsame
    rw [hfaults] at hwrite
    simp [loss, ← hmake, path, ← hwrite, ioError?, hkept, hdirs, hsame, hfaults]
  | @stored w₁ w₂ made written =>
    have hwrite := steady.write_eq w₁ path contents
    have hkept := steady.directories_write w₁ path contents
    have hsame := steady.fault_write w₁ path contents
    rw [made] at hmake hdirs hfaults
    rw [written] at hwrite hkept hsame
    rw [hfaults] at hwrite
    simp [loss, ← hmake, path, ← hwrite, ioError?, hkept, hdirs, hsame, hfaults]

section Attend
variable (m : Path) (w : σ)

theorem reply_fault (mode : Mode) : steady.fault (h.reply setup w m mode).2 = steady.fault w := by
  cases mode with
  | unoptimized => exact steady.fault_execute _ _
  | optimized => exact (steady.fault_execute _ _).trans (steady.fault_execute _ _)

theorem attend_expected : (h.attend setup w m).1.untimed = steady.expected setup w m := by
  obtain ⟨v, t, hattend, hv⟩ := h.attend_visited setup w m
  rw [hattend]
  have hanswer (mode : Mode) : Answer.untimed (h.reply setup w m mode).1 = steady.answer (h.command setup m mode) := by
    cases mode with
    | unoptimized => exact steady.answer_eq _ _
    | optimized => exact steady.answer_eq _ _
  have hfaults := steady.reply_fault setup m w .optimized
  unfold expected
  rw [← hanswer, ← hanswer]
  cases hv with
  | skipped absent =>
    rw [Session.start_world] at absent
    simp [absent, Visit.untimed]
  | failedFirst present first =>
    rw [Session.start_world] at present first
    simp [present, Setup.judge_untimed_error first, Visit.untimed]
  | failedSecond present first second =>
    rw [Session.start_world] at present first second
    simp [present, Setup.judge_untimed_ok first, Setup.judge_untimed_error second, Visit.untimed]
  | @compared c₁ c₂ l₁ l₂ w₁ w₂ present first second kept₁ kept₂ =>
    rw [Session.start_world] at present first second kept₁
    have hsaved₁ := Batch.keep_saved h setup m .unoptimized c₁.stdout (h.reply setup w m .optimized).2
    have hsaved₂ := Batch.keep_saved h setup m .optimized c₂.stdout w₁
    rw [kept₁] at hsaved₁
    rw [kept₂] at hsaved₂
    obtain ⟨rfl, hkept₁, -⟩ := steady.saved_expected hsaved₁
    obtain ⟨rfl, -, -⟩ := steady.saved_expected hsaved₂
    rw [steady.loss_congr setup hfaults, steady.loss_congr setup (hkept₁.trans hfaults)]
    simp [present, Setup.judge_untimed_ok first, Setup.judge_untimed_ok second, Visit.untimed, PerMode.map]

theorem attend_directories : steady.directories (h.attend setup w m).2 = fun q =>
    steady.directories w q || ((h.attend setup w m).1.isCompared &&
      steady.built (steady.fault w) setup.outputDir q) := by
  obtain ⟨v, t, hattend, hv⟩ := h.attend_visited setup w m
  rw [hattend]
  have hreply (mode : Mode) : steady.directories (h.reply setup w m mode).2 = steady.directories w := by
    cases mode with
    | unoptimized => exact steady.directories_execute _ _
    | optimized => exact (steady.directories_execute _ _).trans (steady.directories_execute _ _)
  cases hv with
  | skipped absent => simp [Visit.isCompared]
  | failedFirst present first => simp [Visit.isCompared, hreply]
  | failedSecond present first second => simp [Visit.isCompared, hreply]
  | @compared c₁ c₂ l₁ l₂ w₁ w₂ present first second kept₁ kept₂ =>
    rw [Session.start_world] at kept₁
    have hsaved₁ := Batch.keep_saved h setup m .unoptimized c₁.stdout (h.reply setup w m .optimized).2
    have hsaved₂ := Batch.keep_saved h setup m .optimized c₂.stdout w₁
    rw [kept₁] at hsaved₁
    rw [kept₂] at hsaved₂
    obtain ⟨-, hfault₁, hdirs₁⟩ := steady.saved_expected hsaved₁
    obtain ⟨-, -, hdirs₂⟩ := steady.saved_expected hsaved₂
    -- the second attempt adds what the first has added
    funext q
    rw [Session.after_world, hdirs₂, hdirs₁, hfault₁, steady.reply_fault, hreply]
    simp only [Visit.isCompared, Bool.true_and, Bool.or_assoc, Bool.or_self]

end Attend

section Outlook
variable {setup} {ms : List Path}

/-- The outlook takes into account the faults and which of the listed modules are there. -/
theorem outlook_congr {w w' : σ} (faults : steady.fault w = steady.fault w')
    (same : ∀ m ∈ ms, h.isPresent w m = h.isPresent w' m) : steady.outlook setup w ms = steady.outlook setup w' ms := by
  unfold outlook
  congr 1
  refine List.map_congr_left fun m hm => ?_
  simp only [expected, same m hm, steady.loss_congr setup faults]

theorem attend_fault (m : Path) (w : σ) : steady.fault (h.attend setup w m).2 = steady.fault w := by
  obtain ⟨v, t, hattend, hv⟩ := h.attend_visited setup w m
  rw [hattend]
  exact (steady.fault_untouched setup [m]).visited_eq List.mem_cons_self hv

/-- The visits of a batch are those expected of the world at its start. -/
theorem visits_outlook {rest : List Path} (hrest : ∀ m ∈ rest, m ∈ ms) {w : σ}
    (apart : Batch.Apart setup steady.toPresence w ms) :
    (h.visits setup w rest).map Visit.untimed = steady.outlook setup w rest := by
  induction rest generalizing w with
  | nil => rfl
  | cons m rest ih =>
    have hm := hrest m List.mem_cons_self
    have htail (n : Path) (hn : n ∈ rest) : n ∈ ms := hrest n (List.mem_cons_of_mem m hn)
    have hvisit := steady.attend_expected setup m w
    have hpresent (n : Path) (hn : n ∈ ms) : h.isPresent (h.attend setup w m).2 n = h.isPresent w n := by
      obtain ⟨v, t, hattend, hv⟩ := h.attend_visited setup w m
      rw [hattend]
      exact (apart.preserved hn).visited hm hv rfl
    -- the rest is expected of the world that `m` leaves, in which the same listed modules are there
    have hsame : steady.outlook setup (h.attend setup w m).2 rest = steady.outlook setup w rest :=
      steady.outlook_congr (steady.attend_fault m w) fun n hn => hpresent n (htail n hn)
    rw [Host.visits_cons, List.map_cons, outlook, List.map_cons, Visit.untilAborted, ← hvisit, Visit.isAborted_untimed]
    split
    · rfl
    · rw [ih htail (apart.congr hpresent), hsame, outlook]

variable (style : Style) {w : σ} (apart : Batch.Apart setup steady.toPresence w ms)
include apart

theorem run_summary : ((Batch.run h style setup ms).run (.start w)).1 =
    Summary.ofVisits setup (steady.outlook setup w ms) := by
  rw [Batch.run_gives, ← steady.visits_outlook (fun m hm => hm) apart, Summary.ofVisits_untimed]
  rfl

/-- The saves that are expected are those that come to pass, and the last save to a path decides. -/
theorem run_content : steady.content ((Batch.run h style setup ms).run (.start w)).2.world =
    steady.matching.overlay (steady.content w) ((steady.outlook setup w ms).flatMap (Visit.saves setup)) := by
  have hsaves : Batch.savesOf h style setup w ms = (h.visits setup w ms).flatMap (Visit.saves setup) := by
    rw [Batch.savesOf, Batch.visitedPositions_eq, Host.visits, List.flatMap_map]
    simp only [Host.saves_eq]
  rw [Batch.run_contents style setup steady.toDisk w ms, hsaves, ← steady.visits_outlook (fun m hm => hm) apart,
    List.flatMap_map]
  simp only [Visit.saves_untimed]

omit apart in
variable (w) in
theorem left_directories : steady.directories (h.left setup w ms) = fun q => steady.directories w q ||
    ((h.visits setup w ms).any Visit.isCompared && steady.built (steady.fault w) setup.outputDir q) := by
  induction ms generalizing w with
  | nil => simp [Host.left, Host.visits, Host.stations]
  | cons m rest ih =>
    rw [Host.left, Host.visits_cons]
    split
    · simp [steady.attend_directories]
    · rw [ih, steady.attend_directories, steady.attend_fault]
      funext q
      simp only [List.any_cons, Bool.and_or_distrib_right, Bool.or_assoc]

/-- Directories are added if a module is compared, those that the faults allow to be made, and no other. -/
theorem run_directories : steady.directories ((Batch.run h style setup ms).run (.start w)).2.world = fun q =>
    steady.directories w q || ((steady.outlook setup w ms).any Visit.isCompared &&
      steady.built (steady.fault w) setup.outputDir q) := by
  rw [Batch.run_leaves, steady.left_directories, ← steady.visits_outlook (fun m hm => hm) apart, List.any_map]
  simp only [Function.comp_def, Visit.isCompared_untimed]

end Outlook

end Steady

namespace Drive
variable (compile : Command → Answer)

theorem untimed_execute (d : Drive) (c : Command) : Answer.untimed ((host compile).execute d c).1 =
    Answer.untimed (compile c) := by rw [host_execute]

theorem faultAt_execute (d : Drive) (c : Command) : ((host compile).execute d c).2.faultAt = d.faultAt := by
  rw [host_execute]

theorem ioError?_createDir (d : Drive) (p : Path) : ioError? (d.createDir p).1 = d.faultAt .createDir p := by
  cases hfault : d.faultAt .createDir p with
  | some e => rw [createDir_failed hfault]; rfl
  | none => rw [createDir_done hfault]; rfl

theorem ioError?_write (d : Drive) (p : Path) (contents : Bytes) :
    ioError? (d.write p contents).1 = d.faultAt .write p := by
  cases hfault : d.faultAt .write p with
  | some e => rw [write_failed contents hfault]; rfl
  | none => rw [write_done contents hfault]; rfl

theorem hasDir_built (d : Drive) (p : Path) : (d.createDir p).2.hasDir =
    fun q => d.hasDir q || ((d.faultAt .createDir p).isNone && q.leadsTo p) := by
  cases hfault : d.faultAt .createDir p with
  | some e => rw [createDir_failed hfault]; simp
  | none => rw [createDir_done hfault]; rfl

/-- Whatever its faults and the answers of its compiler, a drive is steady. -/
def steady : Steady (host compile) where
  toDisk := disk compile
  toPresence := presence compile
  directories := hasDir
  answer c := Answer.untimed (compile c)
  fault := faultAt
  built faults p q := (faults .createDir p).isNone && q.leadsTo p
  answer_eq := untimed_execute compile
  directories_execute := hasDir_execute compile
  fault_execute := faultAt_execute compile
  createDir_eq := ioError?_createDir
  directories_createDir := hasDir_built
  fault_createDir := faultAt_createDir
  write_eq := ioError?_write
  directories_write := hasDir_write
  fault_write := faultAt_write

end Drive

namespace Batch

def fullFor (p : Path) : FileOp → List Component → Option IoError
  | .write, q => if q = p.components then some .enospc else none
  | _, _ => none

def nestedSteady : Steady nestedHost := Drive.steady _

end Batch
end PassDelta
