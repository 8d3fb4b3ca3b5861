import PassDelta.Batch
import PassDelta.Proofs.Session
/-!
# One position of a batch

What a visit does, told without the monad. The answer to a run is judged by a pure function, a save threads the
world through its two file operations, and the trace of each piece of work is a list. A visit then ends in one of
four ways, and `Visited` says for each what was found, what the world and the trace become.
-/

namespace PassDelta

variable {σ : Type} (h : Host σ) (style : Style) (setup : Setup)

def Answer.succeeded : Answer → Bool
  | .ok done => done.status.isSuccess
  | .error _ => false

namespace Visit

def report? (setup : Setup) : Visit → Option Report
  | compared c => some (c.report setup)
  | _ => none

def skipped? : Visit → Option Path
  | skipped m => some m
  | _ => none

def failures : Visit → List ArtifactFailure
  | compared c => c.failures
  | _ => []

def failure? : Visit → Option InvocationError
  | aborted e => some e
  | _ => none

def isAborted : Visit → Bool
  | aborted _ => true
  | _ => false

end Visit

namespace Summary

/-- Every list of a summary is read off the visits by itself, and so is how the batch ended. -/
theorem foldl_record (s : Summary) (visits : List Visit) : visits.foldl (record setup) s =
    { reports := s.reports ++ visits.filterMap (Visit.report? setup)
      skipped := s.skipped ++ visits.filterMap Visit.skipped?
      artifactFailures := s.artifactFailures ++ visits.flatMap Visit.failures
      failure := (visits.filterMap Visit.failure?).getLast?.or s.failure
      status := if (visits.filterMap Visit.failure?).isEmpty then s.status else .aborted } := by
  induction visits generalizing s with
  | nil => simp
  | cons v rest ih =>
    rw [List.foldl_cons, ih]
    cases v with
    | skipped m => simp [record, List.filterMap_cons, Visit.report?, Visit.skipped?, Visit.failures, Visit.failure?]
    | compared c => simp [record, List.filterMap_cons, Visit.report?, Visit.skipped?, Visit.failures, Visit.failure?]
    | aborted e =>
      simp only [record, Visit.report?, Visit.skipped?, Visit.failures, Visit.failure?, List.filterMap_cons,
        List.flatMap_cons, List.nil_append, List.isEmpty_cons, Bool.false_eq_true, ↓reduceIte]
      cases rest.filterMap Visit.failure? <;> simp [List.getLast?_cons]

/-- A summary read off the visits at once. -/
theorem ofVisits_eq (visits : List Visit) : ofVisits setup visits =
    { reports := visits.filterMap (Visit.report? setup)
      skipped := visits.filterMap Visit.skipped?
      artifactFailures := visits.flatMap Visit.failures
      failure := (visits.filterMap Visit.failure?).getLast?
      status := if (visits.filterMap Visit.failure?).isEmpty then .completed else .aborted } := by
  rw [ofVisits, foldl_record]
  simp only [initial, List.nil_append, Option.or_none]

theorem reports_ofVisits (visits : List Visit) :
    (ofVisits setup visits).reports = visits.filterMap (Visit.report? setup) := by rw [ofVisits_eq]

theorem skipped_ofVisits (visits : List Visit) : (ofVisits setup visits).skipped = visits.filterMap Visit.skipped? := by
  rw [ofVisits_eq]

theorem artifactFailures_ofVisits (visits : List Visit) :
    (ofVisits setup visits).artifactFailures = visits.flatMap Visit.failures := by rw [ofVisits_eq]

end Summary

namespace Setup

def judge (m : Path) (mode : Mode) : Answer → Except InvocationError Capture
  | .error source => .error ⟨setup.compiler, m, mode, match source.kind, setup.timeout with
      | .timedOut, some limit => .timedOut limit
      | _, _ => .notStarted source⟩
  | .ok done =>
    if done.status.isSuccess then .ok ⟨m, mode, done.status, done.stdout, Text.lossy done.stderr, done.elapsed⟩
    else .error ⟨setup.compiler, m, mode, .unsuccessful (done.status.code?.map Int.ofNat) (Text.lossy done.stderr)⟩

theorem judge_ok {m : Path} {mode : Mode} {a : Answer} {c : Capture} (hc : setup.judge m mode a = .ok c) :
    ∃ done, a = .ok done ∧ done.status.isSuccess = true ∧
      c = ⟨m, mode, done.status, done.stdout, Text.lossy done.stderr, done.elapsed⟩ := by
  cases a with
  | error source => simp [judge] at hc
  | ok done =>
    cases hs : done.status.isSuccess with
    | false => simp [judge, hs] at hc
    | true =>
      simp only [judge, hs, ↓reduceIte, Except.ok.injEq] at hc
      exact ⟨done, rfl, hs, hc.symm⟩

/-- A failed run is told with the program, the module and the mode it was for. -/
theorem judge_error {m : Path} {mode : Mode} {a : Answer} {e : InvocationError}
    (he : setup.judge m mode a = .error e) :
    Answer.succeeded a = false ∧ e.program = setup.compiler ∧ e.module = m ∧ e.mode = mode := by
  cases a with
  | error source =>
    simp only [judge, Except.error.injEq] at he
    subst he
    exact ⟨rfl, rfl, rfl, rfl⟩
  | ok done =>
    cases hs : done.status.isSuccess with
    | true => simp [judge, hs] at he
    | false =>
      simp only [judge, hs, Bool.false_eq_true, ↓reduceIte, Except.error.injEq] at he
      subst he
      exact ⟨hs, rfl, rfl, rfl⟩

theorem judge_succeeded {m : Path} {mode : Mode} {a : Answer} {c : Capture} (hc : setup.judge m mode a = .ok c) :
    Answer.succeeded a = true := by
  obtain ⟨done, rfl, hs, -⟩ := setup.judge_ok hc
  exact hs

theorem judge_names {m : Path} {mode : Mode} {a : Answer} {c : Capture} (hc : setup.judge m mode a = .ok c) :
    c.module = m ∧ c.mode = mode := by
  obtain ⟨done, -, -, rfl⟩ := setup.judge_ok hc
  exact ⟨rfl, rfl⟩

end Setup

namespace Host

def command (m : Path) (mode : Mode) : Command := ⟨setup.compiler, setup.arguments m mode, h.limit setup.timeout⟩

/-- The answer to a module's run in one mode and the world it leaves; the optimized run comes second. -/
def reply (w : σ) (m : Path) : Mode → Answer × σ
  | .unoptimized => h.execute w (h.command setup m .unoptimized)
  | .optimized => h.execute (h.execute w (h.command setup m .unoptimized)).2 (h.command setup m .optimized)

/-- An artifact saved: the error if it was lost, and the world after the attempt. -/
def keep (dir : Path) (extension stem : String) (mode : Mode) (contents : Bytes) (w : σ) : Option ArtifactError × σ :=
  match h.createDir w dir with
  | (.error source, w') => (some ⟨.createDir, dir, source⟩, w')
  | (.ok (), w') =>
    match h.write w' (artifactPath dir stem mode extension) contents with
    | (.error source, w'') => (some ⟨.write, artifactPath dir stem mode extension, source⟩, w'')
    | (.ok (), w'') => (none, w'')

end Host

namespace Batch

def invokeTrace (m : Path) (mode : Mode) (r : Except InvocationError Capture) : List Action :=
  [.logged .debug (m.display ++ " (" ++ mode.name ++ ")" ++ ": " ++ setup.compiler ++ " " ++
      Text.quoteList (setup.arguments m mode)), .ran (h.command setup m mode)] ++
    match r with
    | .ok c => [.logged .debug (m.display ++ " (" ++ mode.name ++ ")" ++ " finished in " ++ c.elapsed.exact ++ ", " ++
        toString c.stdout.length ++ " bytes of IR")]
    | .error _ => []

def compileTrace (n : Nat) (m : Path) (mode : Mode) (r : Except InvocationError Capture) : List Action :=
  h.said n (Console.step mode ++ "\n") ++ invokeTrace h setup m mode r ++
    match r with
    | .ok c => [.recorded (.invocationFinished m mode c.elapsed)]
    | .error _ => []

/-- The trace of a save by its loss: a directory that cannot be made leaves nothing to write to. -/
def saveTrace (dir : Path) (extension stem : String) (mode : Mode) (contents : Bytes) :
    Option ArtifactError → List Action
  | some ⟨.createDir, _, _⟩ => [.madeDir dir]
  | some ⟨.write, _, _⟩ => [.madeDir dir, .wrote (artifactPath dir stem mode extension) contents.length]
  | none =>
    let path := artifactPath dir stem mode extension
    [.madeDir dir, .wrote path contents.length,
      .logged .debug ("wrote " ++ toString contents.length ++ " bytes to " ++ path.display)]

def persistTrace (n : Nat) (c : Capture) (loss : Option ArtifactError) : List Action :=
  saveTrace setup.outputDir setup.extension c.module.stem c.mode c.stdout loss ++
    match loss with
    | none => [.logged .debug (c.mode.name ++ " IR of " ++ c.module.display ++ " saved to " ++
        (artifactPath setup.outputDir c.module.stem c.mode setup.extension).display)]
    | some e => [.logged .warn e.message] ++ h.said n (Console.artifactWarning style e.message ++ "\n") ++
        [.recorded (.artifactWriteFailed c.module e.path)]

def openingTrace (n : Nat) (stems : List String) (m : Path) : List Action :=
  [.asked m, .recorded (.moduleStarted m)] ++ h.said n (Console.header style m ++ "\n") ++
    if stems.contains m.stem then
      [.logged .warn (m.display ++ " shares the stem '" ++ m.stem ++
        "' with an earlier module, overwriting its artifacts")]
    else []

def abortTrace (m : Path) (e : InvocationError) : List Action :=
  [.logged .error ("aborting batch: " ++ e.message), .recorded (.batchAborted m)]

def skipTrace (n : Nat) (m : Path) : List Action :=
  [.asked m, .logged .warn (m.display ++ " not found, skipping")] ++
    h.said n (Console.skipNotice style m ++ "\n") ++ [.recorded (.moduleSkipped m)]

def reportTrace (n : Nat) (c : Comparison) : List Action :=
  h.said n (Console.moduleReport style (c.report setup) (c.captures.map Capture.text) (c.unsaved setup)
    setup.previewLimit ++ "\n") ++ [.recorded (.moduleCompared c.module (c.report setup).lines)]

section Deeds
variable (n : Nat) (m : Path) (mode : Mode)

@[simp] theorem deeds_invokeTrace (r : Except InvocationError Capture) :
    deeds (invokeTrace h setup m mode r) = [.ran (h.command setup m mode)] := by
  cases r <;> rfl

@[simp] theorem deeds_compileTrace_ok (c : Capture) : deeds (compileTrace h setup n m mode (.ok c)) =
    [.ran (h.command setup m mode), .recorded (.invocationFinished m mode c.elapsed)] := by
  simp [compileTrace, Action.isDeed]

/-- A failed run is the last thing its compile does. -/
theorem compileTrace_error (e : InvocationError) :
    ∃ talk, compileTrace h setup n m mode (.error e) = talk ++ [.ran (h.command setup m mode)] ∧ deeds talk = [] := by
  refine ⟨h.said n (Console.step mode ++ "\n") ++ [.logged .debug (m.display ++ " (" ++ mode.name ++ ")" ++ ": " ++
    setup.compiler ++ " " ++ Text.quoteList (setup.arguments m mode))], ?_, by simp [Action.isDeed]⟩
  simp [compileTrace, invokeTrace]

@[simp] theorem deeds_openingTrace (stems : List String) :
    deeds (openingTrace h style n stems m) = [.asked m, .recorded (.moduleStarted m)] := by
  unfold openingTrace
  split <;> simp [Action.isDeed]

@[simp] theorem deeds_abortTrace (e : InvocationError) : deeds (abortTrace m e) = [.recorded (.batchAborted m)] := rfl

@[simp] theorem deeds_skipTrace :
    deeds (skipTrace h style n m) = [.asked m, .recorded (.moduleSkipped m)] := by
  simp [skipTrace, Action.isDeed]

@[simp] theorem deeds_persistTrace (c : Capture) (loss : Option ArtifactError) :
    deeds (persistTrace h style setup n c loss) =
      deeds (saveTrace setup.outputDir setup.extension c.module.stem c.mode c.stdout loss) ++
        loss.toList.map fun e => .recorded (.artifactWriteFailed c.module e.path) := by
  cases loss <;> simp [persistTrace, Action.isDeed]

@[simp] theorem deeds_reportTrace (c : Comparison) : deeds (reportTrace h style setup n c) =
    [.recorded (.moduleCompared c.module (c.report setup).lines)] := by
  simp [reportTrace, Action.isDeed]

end Deeds

theorem invoke_run (m : Path) (mode : Mode) (s : Session σ) :
    (invoke h setup m mode).run s =
      (setup.judge m mode (h.execute s.world (h.command setup m mode)).1,
        s.after (h.execute s.world (h.command setup m mode)).2
          (invokeTrace h setup m mode (setup.judge m mode (h.execute s.world (h.command setup m mode)).1)) 0) := by
  simp only [invoke, Work.bind_run, Work.log_run, Work.execute_run, Session.after_world, Session.after_after,
    Host.command]
  cases (h.execute s.world ⟨setup.compiler, setup.arguments m mode, h.limit setup.timeout⟩).1 with
  | error source => rfl
  | ok done =>
    cases hs : done.status.isSuccess with
    | false =>
      simp only [Setup.judge, invokeTrace, hs, Bool.false_eq_true, ↓reduceIte, Work.pure_run, Host.command]
      rfl
    | true =>
      simp only [Setup.judge, invokeTrace, hs, ↓reduceIte, Work.bind_run, Work.log_run, Work.pure_run,
        Session.after_world, Session.after_after, Host.command]
      rfl

theorem compile_run (m : Path) (mode : Mode) (s : Session σ) :
    (compile h setup m mode).run s =
      (setup.judge m mode (h.execute s.world (h.command setup m mode)).1,
        s.after (h.execute s.world (h.command setup m mode)).2
          (compileTrace h setup s.blocks m mode
            (setup.judge m mode (h.execute s.world (h.command setup m mode)).1)) 1) := by
  simp only [compile, Work.bind_run, Work.print_run, invoke_run, Session.after_world, Session.after_after]
  cases setup.judge m mode (h.execute s.world (h.command setup m mode)).1 with
  | error e => simp only [compileTrace, Work.pure_run, List.append_nil, Nat.add_zero]
  | ok c =>
    simp only [compileTrace, Work.bind_run, Work.record_run, Work.pure_run, Session.after_world, Session.after_after,
      Nat.add_zero]

theorem saveArtifact_run (dir : Path) (extension stem : String) (mode : Mode) (contents : Bytes) (s : Session σ) :
    (saveArtifact h dir extension stem mode contents).run s =
      let kept := h.keep dir extension stem mode contents s.world
      (match kept.1 with
        | some e => .error e
        | none => .ok (artifactPath dir stem mode extension),
        s.after kept.2 (saveTrace dir extension stem mode contents kept.1) 0) := by
  simp only [saveArtifact, Host.keep, Work.bind_run, Work.createDir_run]
  obtain ⟨made, w⟩ := h.createDir s.world dir
  cases made with
  | error source => rfl
  | ok u =>
    simp only [Work.bind_run, Work.write_run, Session.after_world, Session.after_after]
    obtain ⟨written, w'⟩ := h.write w (artifactPath dir stem mode extension) contents
    cases written with
    | error source => rfl
    | ok u =>
      simp only [Work.bind_run, Work.log_run, Work.pure_run, Session.after_world, Session.after_after]
      rfl

theorem persist_run (c : Capture) (s : Session σ) :
    (persist h style setup c).run s =
      let kept := h.keep setup.outputDir setup.extension c.module.stem c.mode c.stdout s.world
      (kept.1, s.after kept.2 (persistTrace h style setup s.blocks c kept.1) kept.1.toList.length) := by
  simp only [persist, Work.bind_run, saveArtifact_run]
  obtain ⟨loss, w⟩ := h.keep setup.outputDir setup.extension c.module.stem c.mode c.stdout s.world
  cases loss with
  | none =>
    simp only [persistTrace, Work.bind_run, Work.log_run, Work.pure_run, Session.after_world, Session.after_after]
    rfl
  | some e =>
    simp only [persistTrace, Work.bind_run, Work.log_run, Work.print_run, Work.record_run, Work.pure_run,
      Session.after_world, Session.after_blocks, Session.after_after, List.append_assoc]
    rfl

/-- How a visit to `m` from session `s` ends: the visit, and the session it leaves. -/
inductive Visited (stems : List String) (m : Path) (s : Session σ) : Visit → Session σ → Prop
  | skipped (absent : h.isPresent s.world m = false) :
    Visited stems m s (.skipped m) (s.after s.world (skipTrace h style s.blocks m) 1)
  | failedFirst {e : InvocationError} (present : h.isPresent s.world m = true)
      (first : setup.judge m .unoptimized (h.reply setup s.world m .unoptimized).1 = .error e) :
    Visited stems m s (.aborted e) (s.after (h.reply setup s.world m .unoptimized).2
      (openingTrace h style s.blocks stems m ++ compileTrace h setup (s.blocks + 1) m .unoptimized (.error e) ++
        abortTrace m e) (1 + 1))
  | failedSecond {c : Capture} {e : InvocationError} (present : h.isPresent s.world m = true)
      (first : setup.judge m .unoptimized (h.reply setup s.world m .unoptimized).1 = .ok c)
      (second : setup.judge m .optimized (h.reply setup s.world m .optimized).1 = .error e) :
    Visited stems m s (.aborted e) (s.after (h.reply setup s.world m .optimized).2
      (openingTrace h style s.blocks stems m ++ compileTrace h setup (s.blocks + 1) m .unoptimized (.ok c) ++
        compileTrace h setup (s.blocks + 1 + 1) m .optimized (.error e) ++ abortTrace m e) (1 + 2))
  | compared {c₁ c₂ : Capture} {l₁ l₂ : Option ArtifactError} {w₁ w₂ : σ} (present : h.isPresent s.world m = true)
      (first : setup.judge m .unoptimized (h.reply setup s.world m .unoptimized).1 = .ok c₁)
      (second : setup.judge m .optimized (h.reply setup s.world m .optimized).1 = .ok c₂)
      (kept₁ : h.keep setup.outputDir setup.extension m.stem .unoptimized c₁.stdout
        (h.reply setup s.world m .optimized).2 = (l₁, w₁))
      (kept₂ : h.keep setup.outputDir setup.extension m.stem .optimized c₂.stdout w₁ = (l₂, w₂)) :
    Visited stems m s (.compared ⟨m, ⟨c₁, c₂⟩, ⟨l₁, l₂⟩⟩) (s.after w₂
      (openingTrace h style s.blocks stems m ++ compileTrace h setup (s.blocks + 1) m .unoptimized (.ok c₁) ++
        compileTrace h setup (s.blocks + 1 + 1) m .optimized (.ok c₂) ++
        persistTrace h style setup (s.blocks + 1 + 2) c₁ l₁ ++
        persistTrace h style setup (s.blocks + 1 + 2 + l₁.toList.length) c₂ l₂ ++
        reportTrace h style setup (s.blocks + 1 + 2 + l₁.toList.length + l₂.toList.length) ⟨m, ⟨c₁, c₂⟩, ⟨l₁, l₂⟩⟩)
      (1 + (3 + l₁.toList.length + l₂.toList.length)))

/-- A comparison after its opening: the two runs, the two saves and the report. -/
def settle (m : Path) : Work σ Visit := do
  match ← compilePair h setup m with
  | .error e =>
    Work.log .error ("aborting batch: " ++ e.message)
    Work.record (.batchAborted m)
    return .aborted e
  | .ok captures =>
    let unoptimizedLoss ← persist h style setup captures.unoptimized
    let optimizedLoss ← persist h style setup captures.optimized
    let c : Comparison := ⟨m, captures, ⟨unoptimizedLoss, optimizedLoss⟩⟩
    Work.print h (Console.moduleReport style (c.report setup) (captures.map Capture.text) (c.unsaved setup)
      setup.previewLimit ++ "\n")
    Work.record (.moduleCompared m (c.report setup).lines)
    return .compared c

theorem compare_run (stems : List String) (m : Path) (s : Session σ) :
    (compare h style setup stems m).run (s.after s.world [.asked m] 0) =
      (settle h style setup m).run (s.after s.world (openingTrace h style s.blocks stems m) 1) := by
  simp only [compare, openingTrace, Work.bind_run, Work.record_run, Work.print_run, Session.after_world,
    Session.after_blocks, Session.after_after]
  by_cases hc : stems.contains m.stem = true
  · simp only [hc, ↓reduceIte, Work.bind_run, Work.log_run, Session.after_world, Session.after_after]
    rfl
  · rw [Bool.not_eq_true] at hc
    simp only [hc, Bool.false_eq_true, ↓reduceIte, List.append_nil]
    rfl

section Settle
variable {h setup} {m : Path} {s : Session σ}

theorem settle_failedFirst {e : InvocationError}
    (first : setup.judge m .unoptimized (h.reply setup s.world m .unoptimized).1 = .error e) :
    (settle h style setup m).run s = (.aborted e, s.after (h.reply setup s.world m .unoptimized).2
      (compileTrace h setup s.blocks m .unoptimized (.error e) ++ abortTrace m e) 1) := by
  simp only [Host.reply] at first
  simp only [settle, compilePair, Work.bind_run, compile_run, first, Work.pure_run, Work.log_run, Work.record_run,
    Session.after_world, Session.after_after, abortTrace, Host.reply, List.append_assoc, List.singleton_append]

theorem settle_failedSecond {c : Capture} {e : InvocationError}
    (first : setup.judge m .unoptimized (h.reply setup s.world m .unoptimized).1 = .ok c)
    (second : setup.judge m .optimized (h.reply setup s.world m .optimized).1 = .error e) :
    (settle h style setup m).run s = (.aborted e, s.after (h.reply setup s.world m .optimized).2
      (compileTrace h setup s.blocks m .unoptimized (.ok c) ++
        compileTrace h setup (s.blocks + 1) m .optimized (.error e) ++ abortTrace m e) 2) := by
  simp only [Host.reply] at first second
  simp only [settle, compilePair, Work.bind_run, compile_run, first, second, Work.pure_run, Work.log_run,
    Work.record_run, Session.after_world, Session.after_blocks, Session.after_after, abortTrace, Host.reply,
    List.append_assoc, List.singleton_append]

theorem settle_compared {c₁ c₂ : Capture} {l₁ l₂ : Option ArtifactError} {w₁ w₂ : σ}
    (first : setup.judge m .unoptimized (h.reply setup s.world m .unoptimized).1 = .ok c₁)
    (second : setup.judge m .optimized (h.reply setup s.world m .optimized).1 = .ok c₂)
    (kept₁ : h.keep setup.outputDir setup.extension m.stem .unoptimized c₁.stdout
      (h.reply setup s.world m .optimized).2 = (l₁, w₁))
    (kept₂ : h.keep setup.outputDir setup.extension m.stem .optimized c₂.stdout w₁ = (l₂, w₂)) :
    (settle h style setup m).run s = (.compared ⟨m, ⟨c₁, c₂⟩, ⟨l₁, l₂⟩⟩, s.after w₂
      (compileTrace h setup s.blocks m .unoptimized (.ok c₁) ++
        compileTrace h setup (s.blocks + 1) m .optimized (.ok c₂) ++
        persistTrace h style setup (s.blocks + 2) c₁ l₁ ++
        persistTrace h style setup (s.blocks + 2 + l₁.toList.length) c₂ l₂ ++
        reportTrace h style setup (s.blocks + 2 + l₁.toList.length + l₂.toList.length) ⟨m, ⟨c₁, c₂⟩, ⟨l₁, l₂⟩⟩)
      (3 + l₁.toList.length + l₂.toList.length)) := by
  have hm₁ := setup.judge_names first
  have hm₂ := setup.judge_names second
  simp only [Host.reply] at first second kept₁
  simp only [settle, compilePair, Work.bind_run, compile_run, first, second, Work.pure_run, Work.print_run,
    Work.record_run, persist_run, Session.after_world, Session.after_blocks, Session.after_after, hm₁, hm₂, kept₁,
    kept₂, reportTrace, List.append_assoc]
  have hblocks : 1 + 1 + l₁.toList.length + l₂.toList.length + 1 + 0 =
      3 + l₁.toList.length + l₂.toList.length := by omega
  rw [hblocks]
  simp only [Nat.reduceAdd, Nat.add_assoc]

end Settle

/-- Every visit ends in one of the four ways, with the trace of that way. -/
theorem visit_visited (stems : List String) (m : Path) (s : Session σ) :
    Visited h style setup stems m s ((visit h style setup stems m).run s).1
      ((visit h style setup stems m).run s).2 := by
  simp only [visit, Work.bind_run, Work.isPresent_run]
  by_cases hp : h.isPresent s.world m = true
  · simp only [hp, ↓reduceIte, compare_run]
    let t := s.after s.world (openingTrace h style s.blocks stems m) 1
    change Visited h style setup stems m s ((settle h style setup m).run t).1 ((settle h style setup m).run t).2
    cases first : setup.judge m .unoptimized (h.reply setup s.world m .unoptimized).1 with
    | error e =>
      rw [settle_failedFirst style (s := t) first]
      simpa only [t, Session.after_world, Session.after_blocks, Session.after_after, List.append_assoc] using
        Visited.failedFirst hp first
    | ok c₁ =>
      cases second : setup.judge m .optimized (h.reply setup s.world m .optimized).1 with
      | error e =>
        rw [settle_failedSecond style (s := t) first second]
        simpa only [t, Session.after_world, Session.after_blocks, Session.after_after, List.append_assoc] using
          Visited.failedSecond hp first second
      | ok c₂ =>
        rcases kept₁ : h.keep setup.outputDir setup.extension m.stem .unoptimized c₁.stdout
          (h.reply setup s.world m .optimized).2 with ⟨l₁, w₁⟩
        rcases kept₂ : h.keep setup.outputDir setup.extension m.stem .optimized c₂.stdout w₁ with ⟨l₂, w₂⟩
        rw [settle_compared style (s := t) first second kept₁ kept₂]
        simpa only [t, Session.after_world, Session.after_blocks, Session.after_after, List.append_assoc] using
          Visited.compared hp first second kept₁ kept₂
  · rw [Bool.not_eq_true] at hp
    simp only [hp, Bool.false_eq_true, ↓reduceIte, Work.bind_run, Work.log_run, Work.print_run, Work.record_run,
      Work.pure_run, Session.after_world, Session.after_blocks, Session.after_after]
    exact .skipped hp

variable {h style setup} in
theorem Visited.trace_extends {stems : List String} {m : Path} {s t : Session σ} {v : Visit}
    (hv : Visited h style setup stems m s v t) : s.trace <+: t.trace := by
  cases hv <;> exact List.prefix_append _ _

end Batch
end PassDelta
