import PassDelta.Proofs.Calls
import PassDelta.Proofs.Clashes
import PassDelta.Proofs.Outcome
import PassDelta.Proofs.Reports
/-!
# Lost artifacts

A save that fails costs its artifact and nothing else. It is listed once in the summary, told once in every channel,
marked in the report of its module, and the batch goes on.
-/

namespace PassDelta

variable {σ : Type} {h : Host σ} {style : Style} {setup : Setup}

def Action.inset? : Action → Option String
  | printed text => if Console.isInset text then some text else none
  | _ => none

def insets (t : List Action) : List String := t.filterMap Action.inset?

@[simp] theorem insets_append (t u : List Action) : insets (t ++ u) = insets t ++ insets u := List.filterMap_append ..

@[simp] theorem insets_nil : insets [] = [] := rfl

@[simp] theorem insets_cons (a : Action) (t : List Action) : insets (a :: t) = a.inset?.toList ++ insets t := by
  cases h : a.inset? with
  | none => simp [insets, h]
  | some text => simp [insets, h]

/-- A block that is not set in leaves no inset, whatever becomes of it. -/
theorem insets_said_eq_nil {text : String} (htext : Console.isInset text = false) (n : Nat) :
    insets (h.said n text) = [] := by
  unfold Host.said
  cases h.console n <;> simp [Action.inset?, htext]

/-- The paths of lost artifacts that the observer is told of, each with its module. -/
def lostEvents (t : List Action) : List (Path × Path) := (events t).filterMap Event.lost?

namespace Batch

section Saves
variable (h setup) (m : Path)

/-- How an attempt ends to save `contents` as an artifact of `m` in the world `w`: what was lost, and the world it
leaves. -/
inductive Saved (mode : Mode) (contents : Bytes) (w : σ) : Option ArtifactError → σ → Prop
  | noDirectory {source : IoError} {w' : σ} (made : h.createDir w setup.outputDir = (.error source, w')) :
    Saved mode contents w (some ⟨.createDir, setup.outputDir, source⟩) w'
  | notWritten {source : IoError} {w' w'' : σ} (made : h.createDir w setup.outputDir = (.ok (), w'))
      (written : h.write w' (artifactPath setup.outputDir m.stem mode setup.extension) contents = (.error source, w'')) :
    Saved mode contents w
      (some ⟨.write, artifactPath setup.outputDir m.stem mode setup.extension, source⟩) w''
  | stored {w' w'' : σ} (made : h.createDir w setup.outputDir = (.ok (), w'))
      (written : h.write w' (artifactPath setup.outputDir m.stem mode setup.extension) contents = (.ok (), w'')) :
    Saved mode contents w none w''

theorem keep_saved (mode : Mode) (contents : Bytes) (w : σ) :
    Saved h setup m mode contents w (h.keep setup.outputDir setup.extension m.stem mode contents w).1
      (h.keep setup.outputDir setup.extension m.stem mode contents w).2 := by
  unfold Host.keep
  rcases made : h.createDir w setup.outputDir with ⟨_ | _, w'⟩
  · exact .noDirectory made
  · dsimp only
    rcases written : h.write w' (artifactPath setup.outputDir m.stem mode setup.extension) contents with ⟨_ | _, w''⟩
    · exact .notWritten made written
    · exact .stored made written

end Saves

end Batch

/-- The artifacts lost for a module found in the world `w`, the unoptimized one first. Nothing is saved, and so nothing
lost, unless both runs have succeeded. -/
def Host.losses (h : Host σ) (setup : Setup) (w : σ) (m : Path) : List ArtifactError :=
  match h.isPresent w m, (h.reply setup w m .unoptimized).1.output?, (h.reply setup w m .optimized).1.output? with
  | true, some first, some second =>
    let kept := h.keep setup.outputDir setup.extension m.stem .unoptimized first (h.reply setup w m .optimized).2
    kept.1.toList ++ (h.keep setup.outputDir setup.extension m.stem .optimized second kept.2).1.toList
  | _, _, _ => []

namespace Batch

section Visit
variable {stems : List String} {m : Path} {s t : Session σ} {v : Visit}

theorem Visited.failures_eq (hv : Visited h style setup stems m s v t) :
    v.failures = (h.losses setup s.world m).map (ArtifactFailure.mk m) := by
  cases hv with
  | skipped absent => simp [Host.losses, absent, Visit.failures]
  | failedFirst present first =>
    have hlost := Answer.output_failed (setup.judge_error first).1
    simp [Host.losses, present, hlost, Visit.failures]
  | failedSecond present first second =>
    have hlost := Answer.output_failed (setup.judge_error second).1
    simp [Host.losses, present, setup.judge_output first, hlost, Visit.failures]
  | @compared c₁ c₂ l₁ l₂ w₁ w₂ present first second kept₁ kept₂ =>
    simp only [Host.losses, present, setup.judge_output first, setup.judge_output second, kept₁, kept₂]
    cases l₁ <;> cases l₂ <;> rfl

end Visit

section Traces
variable (n : Nat) (m : Path) (stems : List String)

theorem insets_openingTrace : insets (openingTrace h style n stems m) = [] := by
  unfold openingTrace
  split <;> simp [Action.inset?, insets_said_eq_nil (Console.isInset_header style m)]

theorem insets_compileTrace (mode : Mode) (r : Except InvocationError Capture) :
    insets (compileTrace h setup n m mode r) = [] := by
  cases r <;> simp [compileTrace, invokeTrace, Action.inset?, insets_said_eq_nil (Console.isInset_step mode)]

theorem insets_abortTrace (e : InvocationError) : insets (abortTrace m e) = [] := rfl

theorem insets_skipTrace : insets (skipTrace h style n m) = [] := by
  simp [skipTrace, Action.inset?, insets_said_eq_nil (Console.isInset_skipNotice style m)]

theorem insets_saveTrace (dir : Path) (extension stem : String) (mode : Mode) (contents : Bytes)
    (loss : Option ArtifactError) : insets (saveTrace dir extension stem mode contents loss) = [] := by
  rcases loss with _ | ⟨step, path, source⟩
  · rfl
  · cases step <;> rfl

/-- On a console that works, a lost artifact is warned of in one block. -/
theorem insets_persistTrace (working : ∀ n, h.console n = .shown) (c : Capture) (loss : Option ArtifactError) :
    insets (persistTrace h style setup n c loss) =
      loss.toList.map fun e => Console.artifactWarning style e.message ++ "\n" := by
  cases loss with
  | none => simp [persistTrace, insets_saveTrace, Action.inset?]
  | some e =>
    simp [persistTrace, insets_saveTrace, Action.inset?, Host.said, working, Console.isInset_artifactWarning]

theorem insets_reportTrace (c : Comparison) : insets (reportTrace h style setup n c) = [] := by
  simp [reportTrace, Action.inset?, insets_said_eq_nil (Console.isInset_moduleReport ..)]

theorem insets_closingTrace (summary : Summary) : insets (closingTrace h style setup n summary) = [] := by
  unfold closingTrace
  split <;> simp [Action.inset?, insets_said_eq_nil (Console.isInset_batchReport ..)]

end Traces

/-- What is told of the artifacts `lost` for `m` in a part of the trace: one warning in the log for each, behind that of
a missing module or of a shared stem if there is one; one event for each; and one block for each on a console that
works. -/
structure LossesTold (h : Host σ) (style : Style) (m : Path) (lost : List ArtifactError) (part : List Action) :
    Prop where
  log : ∃ notice ∈ [[], [missingWarning m], [clashWarning m]],
    warnings part = notice ++ lost.map ArtifactError.message
  observer : lostEvents part = lost.map fun e => (m, e.path)
  console : (∀ n, h.console n = .shown) →
    insets part = lost.map fun e => Console.artifactWarning style e.message ++ "\n"

/-- How the outputs `u` and `o` of a module are saved on the way from the session `found` to the session `left`, the
first one first, and that the report printed at the end marks the place of each artifact if that very artifact was
lost. -/
structure SavesMarked (h : Host σ) (style : Style) (setup : Setup) (found left : Session σ) (m : Path) (u o : Bytes)
    (l₁ l₂ : Option ArtifactError) (between : σ) : Prop where
  unoptimized : Saved h setup m .unoptimized u (h.reply setup found.world m .optimized).2 l₁ between
  optimized : Saved h setup m .optimized o between l₂ left.world
  losses : h.losses setup found.world m = l₁.toList ++ l₂.toList
  report : ∃ front n lines, left.trace = front ++ h.said n (
      Console.previews ⟨Text.lossy u, Text.lossy o⟩ setup.previewLimit ++
      Console.placeLine style l₁.isSome (artifactPath setup.outputDir m.stem .unoptimized setup.extension) ++
      Console.placeLine style l₂.isSome (artifactPath setup.outputDir m.stem .optimized setup.extension) ++
      Console.statistics style lines ++ "\n") ++ [.recorded (.moduleCompared m lines)]

variable (setup) in
/-- The paths of two artifacts of a module are spelled alike only if they are one, so a path is found among those of
the lost artifacts if and only if its own artifact is lost. -/
theorem unsaved_same (c : Comparison) (mode : Mode) :
    (c.unsaved setup).any (·.same ((c.report setup).artifacts.get mode)) = (c.losses.get mode).isSome := by
  have hpath (M : Mode) : (c.report setup).artifacts.get M =
      artifactPath setup.outputDir c.module.stem M setup.extension := by
    cases M <;> rfl
  have hsame (M N : Mode) : ((c.report setup).artifacts.get M).same ((c.report setup).artifacts.get N) =
      decide (M = N) := by
    rw [hpath, hpath, Bool.eq_iff_iff, decide_eq_true_iff]
    exact (artifactPath_same_iff M N setup.outputDir setup.extension (Path.slash_not_mem_stem c.module)
      (Path.slash_not_mem_stem c.module)).trans (and_iff_right rfl)
  unfold Comparison.unsaved
  cases hu : c.losses.get .unoptimized <;> cases ho : c.losses.get .optimized <;> cases mode <;>
    simp [hu, ho, hsame]

section Visit
variable {stems : List String} {m : Path} {s t : Session σ} {v : Visit}

theorem Visited.warned (hv : Visited h style setup stems m s v t) :
    ∃ notice ∈ [[], [missingWarning m], [clashWarning m]],
      warnings t.trace = warnings s.trace ++ (notice ++ v.failures.map fun f => f.error.message) := by
  by_cases hp : h.isPresent s.world m = true
  · obtain ⟨rest, htrace, hrest⟩ := hv.opened hp
    rw [htrace, warnings_append, warnings_append, hrest, warnings_openingTrace, List.append_assoc]
    split
    · exact ⟨[clashWarning m], by simp, rfl⟩
    · exact ⟨[], by simp, rfl⟩
  · rw [Bool.not_eq_true] at hp
    obtain ⟨part, htrace, hpart⟩ := hv.missing hp
    have hnone : v.failures = [] := by rw [hv.failures_eq, Host.losses, hp, List.map_nil]
    exact ⟨[missingWarning m], by simp, by rw [htrace, warnings_append, hpart, hnone]; rfl⟩

theorem Visited.lostEvents_eq (hv : Visited h style setup stems m s v t) :
    lostEvents t.trace = lostEvents s.trace ++ v.failures.map fun f => (f.module, f.error.path) := by
  obtain ⟨group, hgroup, hnotices⟩ := hv.told
  have hevents : events t.trace = events s.trace ++ group := by
    rw [← events_notices t.trace, hnotices, events_append, events_notices, events_recorded]
  rw [lostEvents, hevents, List.filterMap_append, hgroup.lost_events, lostEvents]

theorem Visited.insets_eq (working : ∀ n, h.console n = .shown) (hv : Visited h style setup stems m s v t) :
    insets t.trace = insets s.trace ++ v.failures.map fun f => Console.artifactWarning style f.error.message ++ "\n" := by
  cases hv with
  | skipped absent => simp [insets_skipTrace, Visit.failures]
  | failedFirst present first =>
    simp [insets_openingTrace, insets_compileTrace, insets_abortTrace, Visit.failures]
  | failedSecond present first second =>
    simp [insets_openingTrace, insets_compileTrace, insets_abortTrace, Visit.failures]
  | @compared c₁ c₂ l₁ l₂ w₁ w₂ present first second kept₁ kept₂ =>
    simp only [Session.after_trace, insets_append, insets_openingTrace, insets_compileTrace,
      insets_persistTrace _ working, insets_reportTrace]
    cases l₁ <;> cases l₂ <;> simp [Visit.failures, Comparison.failures, PerMode.toList]

theorem Visited.lossesTold (hv : Visited h style setup stems m s v t) :
    ∃ part, t.trace = s.trace ++ part ∧ LossesTold h style m (h.losses setup s.world m) part := by
  obtain ⟨part, hpart⟩ := hv.trace_extends
  have hfailures := hv.failures_eq
  refine ⟨part, hpart.symm, ?_⟩
  exact {
    log := by
      obtain ⟨notice, hnotice, hwarned⟩ := hv.warned
      rw [← hpart, warnings_append, List.append_cancel_left_eq, hfailures, List.map_map] at hwarned
      exact ⟨notice, hnotice, hwarned⟩
    observer := by
      have hlost := hv.lostEvents_eq
      rw [← hpart, lostEvents, events_append, List.filterMap_append, ← lostEvents, ← lostEvents,
        List.append_cancel_left_eq, hfailures, List.map_map] at hlost
      exact hlost
    console := by
      intro working
      have hinsets := hv.insets_eq working
      rw [← hpart, insets_append, List.append_cancel_left_eq, hfailures, List.map_map] at hinsets
      exact hinsets }

theorem Visited.savesMarked (hv : Visited h style setup stems m s v t) {u o : Bytes}
    (hp : h.isPresent s.world m = true) (hu : (h.reply setup s.world m .unoptimized).1.output? = some u)
    (ho : (h.reply setup s.world m .optimized).1.output? = some o) :
    ∃ l₁ l₂ between, SavesMarked h style setup s t m u o l₁ l₂ between := by
  cases hv with
  | skipped absent => simp [absent] at hp
  | failedFirst present first => simp [Answer.output_failed (setup.judge_error first).1] at hu
  | failedSecond present first second => simp [Answer.output_failed (setup.judge_error second).1] at ho
  | @compared c₁ c₂ l₁ l₂ w₁ w₂ present first second kept₁ kept₂ =>
    obtain rfl := Option.some.inj ((setup.judge_output first).symm.trans hu)
    obtain rfl := Option.some.inj ((setup.judge_output second).symm.trans ho)
    let c : Comparison := ⟨m, ⟨c₁, c₂⟩, ⟨l₁, l₂⟩⟩
    refine ⟨l₁, l₂, w₁, ?_⟩
    exact {
      unoptimized := by
        have hsaved := keep_saved h setup m .unoptimized c₁.stdout (h.reply setup s.world m .optimized).2
        rwa [kept₁] at hsaved
      optimized := by
        have hsaved := keep_saved h setup m .optimized c₂.stdout w₁
        rwa [kept₂] at hsaved
      losses := by simp [Host.losses, hp, hu, ho, kept₁, kept₂]
      report := by
        have htext := Console.moduleReport_places style (c.report setup) (c.captures.map Capture.text)
          (c.unsaved setup) setup.previewLimit
        have hfirst := unsaved_same setup c .unoptimized
        have hsecond := unsaved_same setup c .optimized
        rw [Console.artifactLine_eq, Console.artifactLine_eq] at htext
        simp only [PerMode.get] at hfirst hsecond
        rw [hfirst, hsecond] at htext
        simp only [Session.after_trace, reportTrace, ← List.append_assoc]
        exact ⟨_, _, (c.report setup).lines, by rw [htext]; rfl⟩ }

end Visit

/-- A position at which something was lost is not the last one of a batch that has more to visit. -/
theorem goes_on {world : σ} {ms : List Path} {j : Nat} {m : Path}
    (hj : j < visitCount ((run h style setup ms).run (.start world)).1) (hm : ms[j]? = some m)
    (hlost : h.losses setup (sessionAt h style setup world ms j).world m ≠ []) (hmore : j + 1 < ms.length) :
    j + 1 < visitCount ((run h style setup ms).run (.start world)).1 := by
  obtain ⟨stop, hstop, rfl, hbefore, -, hv⟩ := exists_stop hj hm
  obtain ⟨passed, last, hc, ha, hl⟩ := course_split h style setup [] ms (.start world)
  rw [run_run, course_count, hc, List.length_append]
  rcases hl with ⟨rfl, hmodules⟩ | ⟨final, rfl, hfinal⟩
  · rw [← List.length_map (f := Stop.module), hmodules]
    exact hmore
  · -- an aborted visit has lost nothing
    rw [run_run, course_count, hc, List.length_append, List.length_singleton] at hj
    have hne : j ≠ passed.length := by
      rintro rfl
      rw [hc, List.getElem?_append_right (Nat.le_refl _), Nat.sub_self] at hstop
      obtain rfl := Option.some.inj hstop
      obtain ⟨e, he⟩ := aborted_of_isAborted hfinal
      have hfailures := hv.failures_eq
      rw [he, hbefore] at hfailures
      exact hlost (List.map_eq_nil_iff.mp hfailures.symm)
    rw [List.length_singleton]
    omega

variable (h style setup) in
/-- What a batch from `world` over `ms` does about artifacts that it cannot save: they are listed in the order of the
saves, told once in every channel and marked in the reports, and no batch ends because of them. -/
structure TellsLosses (world : σ) (ms : List Path) (result : Summary × Session σ) : Prop where
  listed : result.1.artifactFailures = (visitedPositions h style setup world ms).flatMap fun p =>
    (h.losses setup p.2 p.1).map (ArtifactFailure.mk p.1)
  saved : ∀ j m u o, j < visitCount result.1 → ms[j]? = some m →
    h.isPresent (sessionAt h style setup world ms j).world m = true →
    (h.reply setup (sessionAt h style setup world ms j).world m .unoptimized).1.output? = some u →
    (h.reply setup (sessionAt h style setup world ms j).world m .optimized).1.output? = some o →
    ∃ l₁ l₂ between, SavesMarked h style setup (sessionAt h style setup world ms j)
      (sessionAt h style setup world ms (j + 1)) m u o l₁ l₂ between
  mark : ∀ path, Console.placeLine style true path ≠ Console.placeLine style false path
  told : ∀ j m, j < visitCount result.1 → ms[j]? = some m →
    ∃ part, (sessionAt h style setup world ms (j + 1)).trace = (sessionAt h style setup world ms j).trace ++ part ∧
      LossesTold h style m (h.losses setup (sessionAt h style setup world ms j).world m) part
  closing : ∃ part, result.2.trace = (sessionAt h style setup world ms (visitCount result.1)).trace ++ part ∧
    warnings part = [] ∧ lostEvents part = [] ∧ insets part = []
  observer : lostEvents result.2.trace = result.1.artifactFailures.map fun f => (f.module, f.error.path)
  console : (∀ n, h.console n = .shown) → insets result.2.trace =
    result.1.artifactFailures.map fun f => Console.artifactWarning style f.error.message ++ "\n"
  printed : ∃ front n, result.2.trace =
    front ++ h.said n (Console.printed (Console.closingLines style result.1 setup.outputDir) ++ "\n")
  lines : (Console.closingLines style result.1 setup.outputDir).filter Console.isLostLine =
    result.1.artifactFailures.map fun f => "   not saved: " ++ f.error.path.display
  document : (Document.ofSummary result.1).artifactFailures =
    result.1.artifactFailures.map fun f => ⟨f.module, f.error.path, f.error.message⟩
  goes_on : ∀ j m, j < visitCount result.1 → ms[j]? = some m →
    h.losses setup (sessionAt h style setup world ms j).world m ≠ [] → j + 1 < ms.length →
    j + 1 < visitCount result.1
  aborted : ∀ e, result.1.failure = some e →
    ∃ call ∈ callsAt h setup (visitedPositions h style setup world ms), call.2.succeeded = false ∧
      setup.Explains call.2 e.cause

/-- A batch is aborted by a call that failed, and no save is a call. -/
theorem aborted_by_call {world : σ} {ms : List Path} {e : InvocationError}
    (he : ((run h style setup ms).run (.start world)).1.failure = some e) :
    ∃ call ∈ callsAt h setup (visitedPositions h style setup world ms), call.2.succeeded = false ∧
      setup.Explains call.2 e.cause := by
  obtain ⟨passed, last, hc, ha, hl⟩ := course_split h style setup [] ms (.start world)
  have hvisits := passed_visits ha
  rw [run_run, hc, List.map_append] at he
  rcases hl with ⟨rfl, -⟩ | ⟨stop, rfl, hstop⟩
  · rw [List.map_nil, List.append_nil, (ofVisits_passed setup hvisits).1] at he
    simp at he
  · obtain ⟨e', hvisit⟩ := aborted_of_isAborted hstop
    rw [List.map_singleton, hvisit, ofVisits_aborted] at he
    obtain rfl := Option.some.inj he
    have hmem : stop ∈ course h style setup [] ms (.start world) := by simp [hc]
    have hv := course_visited h style setup [] ms (.start world) stop hmem
    rw [hvisit] at hv
    obtain ⟨earlier, call, hfatal⟩ := hv.fatal
    refine ⟨call, ?_, hfatal.call_failed, Setup.judge_explains hfatal.judged⟩
    rw [callsAt, ← stops_visited, List.flatMap_map]
    exact List.mem_flatMap.mpr ⟨stop, hmem, by simp [hfatal.runs]⟩

/-- What the closing of a batch adds to the trace tells of no loss but in the lines of its block. -/
theorem closing_silent (n : Nat) (summary : Summary) : warnings (closingTrace h style setup n summary) = [] ∧
    lostEvents (closingTrace h style setup n summary) = [] ∧
    insets (closingTrace h style setup n summary) = [] := by
  refine ⟨warnings_closingTrace .., ?_, insets_closingTrace ..⟩
  rw [lostEvents, ← events_notices, notices_closingTrace, events_append, events_recorded, List.filterMap_append,
    filterMap_closingEvents fun _ _ => rfl]
  rfl

/-- A batch loses artifacts without ending for it, and passes over none of its losses. -/
theorem run_tells_losses (h : Host σ) (style : Style) (setup : Setup) (world : σ) (ms : List Path) :
    TellsLosses h style setup world ms ((run h style setup ms).run (.start world)) := by
  have hv := course_visited h style setup [] ms (.start world)
  have hsummary : ((run h style setup ms).run (.start world)).1.artifactFailures =
      (course h style setup [] ms (.start world)).flatMap fun stop => stop.visit.failures := by
    rw [run_run, Summary.artifactFailures_ofVisits]
    exact List.flatMap_map ..
  -- what every stop tells of its losses, and the closing does not, is told of all losses
  have hchannel {β : Type} (view : List Action → List β) (tell : ArtifactFailure → β)
      (happend : ∀ t u, view (t ++ u) = view t ++ view u) (hnil : view [] = [])
      (hclosing : ∀ n summary, view (closingTrace h style setup n summary) = [])
      (hstep : ∀ stop ∈ course h style setup [] ms (.start world),
        view stop.after.trace = view stop.before.trace ++ stop.visit.failures.map tell) :
      view ((run h style setup ms).run (.start world)).2.trace =
        ((run h style setup ms).run (.start world)).1.artifactFailures.map tell := by
    have hwalk := walk_flatMap h style setup (fun s => view s.trace) (fun stop => stop.visit.failures.map tell) [] ms
      (.start world) hstep
    rw [hsummary, List.map_flatMap, run_run, Session.after_trace, happend, hclosing, List.append_nil, hwalk,
      Session.start_trace, hnil, List.nil_append]
  exact {
    listed := by
      rw [hsummary, ← stops_visited, List.flatMap_map]
      exact List.flatMap_congr fun stop hs => (hv stop hs).failures_eq
    saved := by
      intro j m u o hj hm hpresent hu ho
      obtain ⟨stop, -, rfl, hbefore, hafter, hvisit⟩ := exists_stop hj hm
      rw [← hbefore] at hpresent hu ho
      rw [← hbefore, ← hafter]
      exact hvisit.savesMarked hpresent hu ho
    mark := fun path heq => by simpa using Console.placeLine_inj.mp heq
    told := by
      intro j m hj hm
      obtain ⟨stop, -, rfl, hbefore, hafter, hvisit⟩ := exists_stop hj hm
      rw [← hbefore, ← hafter]
      exact hvisit.lossesTold
    closing := by
      have hwalk := walk_take_course h style setup [] ms (.start world)
      rw [run_run]
      dsimp only
      rw [course_count, sessionAt, hwalk, Session.after_trace]
      exact ⟨_, rfl, closing_silent ..⟩
    observer := by
      refine hchannel lostEvents _ ?_ rfl (fun n summary => (closing_silent n summary).2.1)
        fun stop hs => (hv stop hs).lostEvents_eq
      intro t u
      rw [lostEvents, events_append, List.filterMap_append, lostEvents, lostEvents]
    console := fun working => hchannel insets _ insets_append rfl (fun n summary => (closing_silent n summary).2.2)
      fun stop hs => (hv stop hs).insets_eq working
    printed := run_printed h style setup world ms
    lines := Console.filter_lostLine ..
    document := rfl
    goes_on := fun _ _ => goes_on
    aborted := fun _ => aborted_by_call }

/-- On a full disk the one report comes with two warnings. -/
theorem run_tells_losses_full_disk :
    ((run Memory.host ⟨false, false⟩ scriptedSetup scriptedModules).run (.start fullWorld)).1.reports.length = 1 ∧
    insets ((run Memory.host ⟨false, false⟩ scriptedSetup scriptedModules).run (.start fullWorld)).2.trace =
      ["   ! Warning: failed to write artifact out/a_unoptimized.ll: No space left on device (os error 28)\n",
        "   ! Warning: failed to write artifact out/a_optimized.ll: No space left on device (os error 28)\n"] := by
  have hshown := (run_tells_losses Memory.host ⟨false, false⟩ scriptedSetup fullWorld scriptedModules).console
    fun _ => rfl
  refine ⟨by decide +kernel, hshown.trans ?_⟩
  decide +kernel

end Batch
end PassDelta
