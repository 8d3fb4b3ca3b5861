import Mathlib.Data.List.Basic
import PassDelta.Proofs.Course
/-!
# What an observer is told

The events of a batch are a word over the listed modules: one group for each module passed, in list order, then one
last event. A group names its module throughout and follows from how the visit ended, so the counts and the lost
artifacts that the events tell of are those of the summary.
-/

namespace PassDelta

namespace Event

def isFinal : Event → Bool
  | batchCompleted .. => true
  | batchAborted _ => true
  | _ => false

def compared? : Event → Option (Path × PerMode Nat)
  | moduleCompared m lines => some (m, lines)
  | _ => none

def skipped? : Event → Option Path
  | moduleSkipped m => some m
  | _ => none

def lost? : Event → Option (Path × Path)
  | artifactWriteFailed m p => some (m, p)
  | _ => none

end Event

namespace Batch

variable {σ : Type} {h : Host σ} {style : Style} {setup : Setup}

/-- The events of a module that is passed: missing, or compared with up to two artifacts lost. -/
inductive Passage (m : Path) : List Event → Prop
  | skipped : Passage m [.moduleSkipped m]
  | compared (first second : Duration) (lost : List Path) (lines : PerMode Nat) (few : lost.length ≤ 2) :
    Passage m ([.moduleStarted m, .invocationFinished m .unoptimized first,
      .invocationFinished m .optimized second] ++ lost.map (.artifactWriteFailed m) ++ [.moduleCompared m lines])

/-- The events of a module whose first or second run fails. -/
inductive Breakoff (m : Path) : List Event → Prop
  | first : Breakoff m [.moduleStarted m, .batchAborted m]
  | second (elapsed : Duration) :
    Breakoff m [.moduleStarted m, .invocationFinished m .unoptimized elapsed, .batchAborted m]

/-- The event sequences of batches over a list of modules. -/
inductive Protocol : List Path → List Event → Prop
  | completed (analyzed skipped : Nat) : Protocol [] [.batchCompleted analyzed skipped]
  | passed {m : Path} {ms : List Path} {group rest : List Event} (first : Passage m group)
      (more : Protocol ms rest) : Protocol (m :: ms) (group ++ rest)
  | aborted {m : Path} {ms : List Path} {group : List Event} (last : Breakoff m group) : Protocol (m :: ms) group

theorem Passage.not_final {m : Path} {group : List Event} (hg : Passage m group) :
    ∀ e ∈ group, e.isFinal = false := by
  cases hg with
  | skipped => simp [Event.isFinal]
  | compared first second lost lines few =>
    intro e he
    simp only [List.cons_append, List.nil_append, List.mem_cons, List.mem_append, List.mem_map,
      List.not_mem_nil, or_false] at he
    rcases he with rfl | rfl | rfl | ⟨p, -, rfl⟩ | rfl <;> rfl

/-- A group that breaks off ends in the abort, the only event in it that is final. -/
theorem Breakoff.split {m : Path} {group : List Event} (hg : Breakoff m group) :
    ∃ before, group = before ++ [.batchAborted m] ∧ ∀ e ∈ before, e.isFinal = false := by
  cases hg with
  | first => exact ⟨[.moduleStarted m], rfl, by simp [Event.isFinal]⟩
  | second elapsed =>
    exact ⟨[.moduleStarted m, .invocationFinished m .unoptimized elapsed], rfl, by simp [Event.isFinal]⟩

/-- A word of the protocol has one final event, and that is its last. -/
theorem Protocol.split {ms : List Path} {word : List Event} (hw : Protocol ms word) :
    ∃ before last, word = before ++ [last] ∧ last.isFinal = true ∧ ∀ e ∈ before, e.isFinal = false := by
  induction hw with
  | completed analyzed skipped => exact ⟨[], .batchCompleted analyzed skipped, rfl, rfl, by simp⟩
  | @passed m ms group rest first more ih =>
    obtain ⟨before, last, rfl, hlast, hbefore⟩ := ih
    refine ⟨group ++ before, last, by rw [List.append_assoc], hlast, ?_⟩
    intro e he
    rcases List.mem_append.mp he with he | he
    · exact first.not_final e he
    · exact hbefore e he
  | @aborted m ms group last =>
    obtain ⟨before, hgroup, hbefore⟩ := last.split
    exact ⟨before, .batchAborted m, hgroup, rfl, hbefore⟩

theorem Protocol.final_last {ms : List Path} {word before after : List Event} {e : Event} (hw : Protocol ms word)
    (he : word = before ++ e :: after) (hfinal : e.isFinal = true) : after = [] := by
  obtain ⟨passed, last, hword, -, hpassed⟩ := hw.split
  rcases List.eq_nil_or_concat after with rfl | ⟨init, x, rfl⟩
  · rfl
  · rw [hword, List.concat_eq_append, ← List.cons_append, ← List.append_assoc] at he
    obtain ⟨hinit, -⟩ := List.append_inj' he rfl
    simp [hpassed e (by simp [hinit])] at hfinal

variable (setup) in
inductive Told (m : Path) : Visit → List Event → Prop
  | skipped : Told m (.skipped m) [.moduleSkipped m]
  | failedFirst {e : InvocationError} (own : e.module = m) : Told m (.aborted e) [.moduleStarted m, .batchAborted m]
  | failedSecond {e : InvocationError} (own : e.module = m) (elapsed : Duration) :
    Told m (.aborted e) [.moduleStarted m, .invocationFinished m .unoptimized elapsed, .batchAborted m]
  | compared {c : Comparison} (own : c.module = m) :
    Told m (.compared c) ([.moduleStarted m, .invocationFinished m .unoptimized c.captures.unoptimized.elapsed,
      .invocationFinished m .optimized c.captures.optimized.elapsed] ++
      c.failures.map (fun f => .artifactWriteFailed m f.error.path) ++ [.moduleCompared m (c.report setup).lines])

section Traces
variable (n : Nat) (m : Path)

theorem notices_saveTrace (dir : Path) (extension stem : String) (mode : Mode) (contents : Bytes)
    (loss : Option ArtifactError) : notices (saveTrace dir extension stem mode contents loss) = [] := by
  rcases loss with _ | ⟨step, path, source⟩
  · rfl
  · cases step <;> rfl

theorem notices_persistTrace (c : Capture) (loss : Option ArtifactError) :
    notices (persistTrace h style setup n c loss) =
      loss.toList.map fun e => .recorded (.artifactWriteFailed c.module e.path) := by
  rw [← notices_deeds, deeds_persistTrace, notices_append, notices_deeds, notices_saveTrace]
  cases loss <;> rfl

theorem notices_compileTrace_ok (mode : Mode) (c : Capture) :
    notices (compileTrace h setup n m mode (.ok c)) = [.recorded (.invocationFinished m mode c.elapsed)] := by
  rw [← notices_deeds, deeds_compileTrace_ok]
  rfl

theorem notices_compileTrace_error (mode : Mode) (e : InvocationError) :
    notices (compileTrace h setup n m mode (.error e)) = [] := by
  obtain ⟨talk, htalk, hdeeds⟩ := compileTrace_error h setup n m mode e
  rw [htalk, notices_append, ← notices_deeds talk, hdeeds]
  rfl

theorem notices_openingTrace (stems : List String) :
    notices (openingTrace h style n stems m) = [.recorded (.moduleStarted m)] := by
  rw [← notices_deeds, deeds_openingTrace]
  rfl

theorem notices_skipTrace : notices (skipTrace h style n m) = [.recorded (.moduleSkipped m)] := by
  rw [← notices_deeds, deeds_skipTrace]
  rfl

theorem notices_reportTrace (c : Comparison) :
    notices (reportTrace h style setup n c) = [.recorded (.moduleCompared c.module (c.report setup).lines)] := by
  rw [← notices_deeds, deeds_reportTrace]
  rfl

end Traces

section Visit
variable {stems : List String} {m : Path} {s t : Session σ} {v : Visit}

/-- What a visit tells the observer is one group of events. -/
theorem Visited.told (hv : Visited h style setup stems m s v t) :
    ∃ group, Told setup m v group ∧ notices t.trace = notices s.trace ++ group.map .recorded := by
  cases hv with
  | skipped absent =>
    refine ⟨_, .skipped, ?_⟩
    rw [Session.after_trace, notices_append, notices_skipTrace]
    rfl
  | failedFirst present first =>
    refine ⟨_, .failedFirst (setup.judge_error first).2.2.1, ?_⟩
    simp only [Session.after_trace, notices_append, notices_openingTrace, notices_compileTrace_error]
    rfl
  | @failedSecond c e present first second =>
    refine ⟨_, .failedSecond (setup.judge_error second).2.2.1 c.elapsed, ?_⟩
    simp only [Session.after_trace, notices_append, notices_openingTrace, notices_compileTrace_ok,
      notices_compileTrace_error]
    rfl
  | @compared c₁ c₂ l₁ l₂ w₁ w₂ present first second kept₁ kept₂ =>
    refine ⟨_, .compared rfl, ?_⟩
    simp only [Session.after_trace, notices_append, notices_openingTrace, notices_compileTrace_ok,
      notices_persistTrace, notices_reportTrace, (setup.judge_names first).1, (setup.judge_names second).1]
    cases l₁ <;> cases l₂ <;> rfl

theorem Told.passage {group : List Event} (ht : Told setup m v group) (ha : v.isAborted = false) :
    Passage m group := by
  cases ht with
  | skipped => exact .skipped
  | failedFirst own => simp [Visit.isAborted] at ha
  | failedSecond own elapsed => simp [Visit.isAborted] at ha
  | @compared c own =>
    have few : (c.failures.map fun f => f.error.path).length ≤ 2 := by
      rw [List.length_map]
      exact List.length_filterMap_le ..
    have hgroup := Passage.compared (m := m) c.captures.unoptimized.elapsed c.captures.optimized.elapsed _
      (c.report setup).lines few
    rwa [List.map_map] at hgroup

theorem Told.breakoff {group : List Event} (ht : Told setup m v group) (ha : v.isAborted = true) :
    Breakoff m group := by
  cases ht with
  | skipped => simp [Visit.isAborted] at ha
  | failedFirst own => exact .first
  | failedSecond own elapsed => exact .second elapsed
  | compared own => simp [Visit.isAborted] at ha

theorem Told.aborted_module {e : InvocationError} {group : List Event} (ht : Told setup m (.aborted e) group) :
    e.module = m := by
  cases ht with
  | failedFirst own => exact own
  | failedSecond own elapsed => exact own

theorem failures_module {c : Comparison} {f : ArtifactFailure} (hf : f ∈ c.failures) : f.module = c.module := by
  obtain ⟨loss, -, hloss⟩ := List.mem_filterMap.mp hf
  obtain ⟨e, -, rfl⟩ := Option.map_eq_some_iff.mp hloss
  rfl

theorem Told.compared_events {group : List Event} (ht : Told setup m v group) :
    group.filterMap Event.compared? = ((v.report? setup).map fun r => (r.module, r.lines)).toList := by
  cases ht with
  | skipped => rfl
  | failedFirst own => rfl
  | failedSecond own elapsed => rfl
  | @compared c own =>
    have hlost : (c.failures.map fun f => Event.artifactWriteFailed m f.error.path).filterMap Event.compared? = [] := by
      rw [List.filterMap_map]
      exact List.filterMap_eq_nil_iff.mpr fun f _ => rfl
    rw [List.filterMap_append, List.filterMap_append, hlost, ← own]
    rfl

theorem Told.skipped_events {group : List Event} (ht : Told setup m v group) :
    group.filterMap Event.skipped? = v.skipped?.toList := by
  cases ht with
  | skipped => rfl
  | failedFirst own => rfl
  | failedSecond own elapsed => rfl
  | @compared c own =>
    have hlost : (c.failures.map fun f => Event.artifactWriteFailed m f.error.path).filterMap Event.skipped? = [] := by
      rw [List.filterMap_map]
      exact List.filterMap_eq_nil_iff.mpr fun f _ => rfl
    rw [List.filterMap_append, List.filterMap_append, hlost]
    rfl

theorem Told.lost_events {group : List Event} (ht : Told setup m v group) :
    group.filterMap Event.lost? = v.failures.map fun f => (f.module, f.error.path) := by
  cases ht with
  | skipped => rfl
  | failedFirst own => rfl
  | failedSecond own elapsed => rfl
  | @compared c own =>
    have hlost : (c.failures.map fun f => Event.artifactWriteFailed m f.error.path).filterMap Event.lost? =
        c.failures.map fun f => (f.module, f.error.path) := by
      rw [List.filterMap_map, ← List.filterMap_eq_map]
      refine List.filterMap_congr fun f hf => ?_
      rw [Function.comp_apply, Function.comp_apply, failures_module hf, own]
      rfl
    rw [List.filterMap_append, List.filterMap_append, hlost]
    exact List.append_nil _

end Visit

def Stop.told (stop : Stop σ) : List Event := events (stop.after.trace.drop stop.before.trace.length)

theorem stop_told {stop : Stop σ}
    (hv : Visited h style setup stop.stems stop.module stop.before stop.visit stop.after) :
    Told setup stop.module stop.visit stop.told ∧
      notices stop.after.trace = notices stop.before.trace ++ stop.told.map .recorded := by
  obtain ⟨group, hgroup, hnotices⟩ := hv.told
  obtain ⟨part, hpart⟩ := hv.trace_extends
  have hown : notices part = group.map .recorded := by
    rwa [← hpart, notices_append, List.append_cancel_left_eq] at hnotices
  have htold : stop.told = group := by
    rw [Stop.told, ← hpart, List.drop_left, ← events_notices, hown, events_recorded]
  rw [htold]
  exact ⟨hgroup, hnotices⟩

def closingEvents (summary : Summary) : List Event :=
  if summary.isSuccess then [.batchCompleted summary.reports.length summary.skipped.length] else []

theorem filterMap_closingEvents {β : Type} {pick : Event → Option β} {summary : Summary}
    (hclosing : ∀ analyzed skipped, pick (.batchCompleted analyzed skipped) = none) :
    (closingEvents summary).filterMap pick = [] := by
  unfold closingEvents
  split
  · simp [hclosing]
  · rfl

theorem notices_closingTrace (n : Nat) (summary : Summary) :
    notices (closingTrace h style setup n summary) = (closingEvents summary).map .recorded ++ [.flushed] := by
  rw [closingTrace, closingEvents, notices_append, notices_append, ← notices_deeds (h.said ..), deeds_said]
  split <;> rfl

variable (h style setup) in
theorem run_notices (world : σ) (ms : List Path) :
    notices ((run h style setup ms).run (.start world)).2.trace =
      ((course h style setup [] ms (.start world)).flatMap Stop.told ++
        closingEvents ((run h style setup ms).run (.start world)).1).map .recorded ++ [.flushed] := by
  have hwalk := walk_flatMap h style setup (fun s => notices s.trace) (fun stop => stop.told.map .recorded) [] ms
    (.start world) fun stop hs => (stop_told (course_visited h style setup [] ms (.start world) stop hs)).2
  rw [Session.start_trace, notices_nil, List.nil_append] at hwalk
  rw [run_run]
  simp only [Session.after_trace, notices_append, notices_closingTrace, hwalk, List.map_append, List.map_flatMap,
    List.append_assoc]

variable (h style setup) in
theorem run_events (world : σ) (ms : List Path) :
    events ((run h style setup ms).run (.start world)).2.trace =
      (course h style setup [] ms (.start world)).flatMap Stop.told ++
        closingEvents ((run h style setup ms).run (.start world)).1 := by
  rw [← events_notices, run_notices, events_append, events_recorded]
  exact List.append_nil _

theorem filterMap_told {β : Type} {stops : List (Stop σ)} (pick : Event → Option β) (tell : Visit → List β)
    (hpick : ∀ m v group, Told setup m v group → group.filterMap pick = tell v)
    (hv : ∀ stop ∈ stops, Told setup stop.module stop.visit stop.told) :
    (stops.flatMap Stop.told).filterMap pick = (stops.map Stop.visit).flatMap tell := by
  rw [List.filterMap_flatMap, List.flatMap_map]
  exact List.flatMap_congr fun stop hs => hpick _ _ _ (hv stop hs)

theorem protocol_passed {stops : List (Stop σ)} {ms : List Path} {word : List Event}
    (hv : ∀ stop ∈ stops, Told setup stop.module stop.visit stop.told)
    (ha : ∀ stop ∈ stops, stop.visit.isAborted = false) (hw : Protocol ms word) :
    Protocol (stops.map Stop.module ++ ms) (stops.flatMap Stop.told ++ word) := by
  induction stops with
  | nil => exact hw
  | cons stop rest ih =>
    have hrest := ih (fun s hs => hv s (List.mem_cons_of_mem stop hs)) fun s hs => ha s (List.mem_cons_of_mem stop hs)
    rw [List.map_cons, List.flatMap_cons, List.append_assoc]
    exact .passed ((hv stop List.mem_cons_self).passage (ha stop List.mem_cons_self)) hrest

/-- The last event of a batch tells how it ended. -/
structure Closed (ms : List Path) (result : Summary × Session σ) : Prop where
  word : Protocol ms (events result.2.trace)
  completed : result.1.failure = none → result.1.status = .completed ∧
    (events result.2.trace).getLast? = some (.batchCompleted result.1.reports.length result.1.skipped.length)
  aborted : ∀ e, result.1.failure = some e → result.1.status = .aborted ∧
    (events result.2.trace).getLast? = some (.batchAborted e.module)

variable (h style setup) in
theorem run_closed (world : σ) (ms : List Path) : Closed ms ((run h style setup ms).run (.start world)) := by
  have hevents := run_events h style setup world ms
  have htold : ∀ stop ∈ course h style setup [] ms (.start world), Told setup stop.module stop.visit stop.told :=
    fun stop hs => (stop_told (course_visited h style setup [] ms (.start world) stop hs)).1
  obtain ⟨passed, last, hc, ha, hl⟩ := course_split h style setup [] ms (.start world)
  rw [hc] at hevents htold
  have hvisits := passed_visits ha
  rcases hl with ⟨rfl, hm⟩ | ⟨stop, rfl, hstop⟩
  · obtain ⟨hfailure, hstatus⟩ := ofVisits_passed setup hvisits
    rw [List.append_nil] at hc hevents htold
    have hsummary : ((run h style setup ms).run (.start world)).1 =
        Summary.ofVisits setup (passed.map Stop.visit) := by rw [run_run, hc]
    have hclosing : closingEvents ((run h style setup ms).run (.start world)).1 =
        [.batchCompleted ((run h style setup ms).run (.start world)).1.reports.length
          ((run h style setup ms).run (.start world)).1.skipped.length] := by
      simp [closingEvents, hsummary, Summary.isSuccess, hstatus]
    rw [hclosing] at hevents
    exact {
      word := by
        have hword := protocol_passed htold ha (.completed
          ((run h style setup ms).run (.start world)).1.reports.length
          ((run h style setup ms).run (.start world)).1.skipped.length)
        rwa [List.append_nil, hm, ← hevents] at hword
      completed := fun _ => ⟨by rw [hsummary, hstatus], by rw [hevents, List.getLast?_concat]⟩
      aborted := fun e he => by simp [hsummary, hfailure] at he }
  · obtain ⟨e, he⟩ := aborted_of_isAborted hstop
    have hsummary : ((run h style setup ms).run (.start world)).1 =
        { Summary.ofVisits setup (passed.map Stop.visit) with failure := some e, status := .aborted } := by
      rw [run_run, hc, List.map_append, List.map_singleton, he, ofVisits_aborted]
    have hclosing : closingEvents ((run h style setup ms).run (.start world)).1 = [] := by
      simp [closingEvents, hsummary, Summary.isSuccess]
    have hlast := htold stop (by simp)
    obtain ⟨before, hbefore, -⟩ := (hlast.breakoff hstop).split
    rw [hclosing, List.append_nil, List.flatMap_append, List.flatMap_singleton] at hevents
    have hmodules : ∃ rest, ms = passed.map Stop.module ++ stop.module :: rest := by
      obtain ⟨rest, hrest⟩ := course_modules h style setup [] ms (.start world)
      refine ⟨rest, ?_⟩
      rw [← hrest, hc, List.map_append, List.append_assoc]
      rfl
    obtain ⟨rest, hms⟩ := hmodules
    have hown : e.module = stop.module := (he ▸ hlast).aborted_module
    exact {
      word := by
        rw [hevents, hms]
        exact protocol_passed (fun s hs => htold s (List.mem_append_left _ hs)) ha (.aborted (hlast.breakoff hstop))
      completed := fun hnone => by simp [hsummary] at hnone
      aborted := by
        intro e' he'
        rw [hsummary, Option.some.injEq] at he'
        subst he'
        refine ⟨by rw [hsummary], ?_⟩
        rw [hevents, hbefore, ← List.append_assoc, List.getLast?_concat, hown] }

/-- What an observer gets from a batch over `ms`: a word of the protocol and then one flush, with every comparison,
every missing module and every lost artifact told once, in the order and with the data of the summary. -/
structure Observed (ms : List Path) (result : Summary × Session σ) : Prop where
  word : Protocol ms (events result.2.trace)
  final_last : ∀ before e after, events result.2.trace = before ++ e :: after → e.isFinal = true → after = []
  flushed_last : notices result.2.trace = (events result.2.trace).map .recorded ++ [.flushed]
  compared : (events result.2.trace).filterMap Event.compared? = result.1.reports.map fun r => (r.module, r.lines)
  skipped : (events result.2.trace).filterMap Event.skipped? = result.1.skipped
  lost : (events result.2.trace).filterMap Event.lost? =
    result.1.artifactFailures.map fun f => (f.module, f.error.path)
  counts : ∀ analyzed skipped, .batchCompleted analyzed skipped ∈ events result.2.trace →
    analyzed = ((events result.2.trace).filterMap Event.compared?).length ∧ analyzed = result.1.reports.length ∧
      skipped = ((events result.2.trace).filterMap Event.skipped?).length ∧ skipped = result.1.skipped.length

/-- The observer of a batch gets a word of the protocol that agrees with the summary, and then one flush. -/
theorem run_observed (h : Host σ) (style : Style) (setup : Setup) (world : σ) (ms : List Path) :
    Observed ms ((run h style setup ms).run (.start world)) := by
  have hevents := run_events h style setup world ms
  have hclosed := run_closed h style setup world ms
  have htold : ∀ stop ∈ course h style setup [] ms (.start world), Told setup stop.module stop.visit stop.told :=
    fun stop hs => (stop_told (course_visited h style setup [] ms (.start world) stop hs)).1
  have hpick {β : Type} (pick : Event → Option β) (tell : Visit → List β)
      (hgroup : ∀ m v group, Told setup m v group → group.filterMap pick = tell v)
      (hclosing : ∀ analyzed skipped, pick (.batchCompleted analyzed skipped) = none) :
      (events ((run h style setup ms).run (.start world)).2.trace).filterMap pick =
        ((course h style setup [] ms (.start world)).map Stop.visit).flatMap tell := by
    rw [hevents, List.filterMap_append, filterMap_told pick tell hgroup htold, filterMap_closingEvents hclosing,
      List.append_nil]
  have hcompared : (events ((run h style setup ms).run (.start world)).2.trace).filterMap Event.compared? =
      ((run h style setup ms).run (.start world)).1.reports.map fun r => (r.module, r.lines) := by
    rw [hpick _ _ (fun _ _ _ => Told.compared_events) fun _ _ => rfl, run_run]
    simp only [Summary.ofVisits_eq]
    rw [List.map_filterMap, List.filterMap_eq_flatMap_toList]
  have hskipped : (events ((run h style setup ms).run (.start world)).2.trace).filterMap Event.skipped? =
      ((run h style setup ms).run (.start world)).1.skipped := by
    rw [hpick _ _ (fun _ _ _ => Told.skipped_events) fun _ _ => rfl, run_run]
    simp only [Summary.ofVisits_eq, List.filterMap_eq_flatMap_toList]
  exact {
    word := hclosed.word
    final_last := fun _ _ _ he hfinal => hclosed.word.final_last he hfinal
    flushed_last := by rw [run_notices, ← hevents]
    compared := hcompared
    skipped := hskipped
    lost := by
      rw [hpick _ _ (fun _ _ _ => Told.lost_events) fun _ _ => rfl, run_run]
      simp only [Summary.ofVisits_eq, List.map_flatMap]
    counts := by
      intro analyzed skipped hmem
      obtain ⟨before, after, hsplit⟩ := List.append_of_mem hmem
      obtain rfl := hclosed.word.final_last hsplit rfl
      have hlast : (events ((run h style setup ms).run (.start world)).2.trace).getLast? =
          some (.batchCompleted analyzed skipped) := by rw [hsplit, List.getLast?_concat]
      cases hf : ((run h style setup ms).run (.start world)).1.failure with
      | some e => simp [(hclosed.aborted e hf).2] at hlast
      | none =>
        rw [(hclosed.completed hf).2, Option.some.injEq, Event.batchCompleted.injEq] at hlast
        rw [hcompared, hskipped, List.length_map]
        exact ⟨hlast.1.symm, hlast.1.symm, hlast.2.symm, hlast.2.symm⟩ }

end Batch
end PassDelta
