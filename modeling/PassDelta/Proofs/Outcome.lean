import Mathlib.Tactic.TFAE
import PassDelta.CommandLine.Perform
import PassDelta.Proofs.Console
import PassDelta.Proofs.Events
/-!
# The outcome in every channel

A batch tells how it ended in its summary, to its observer, on the console, in its document and by the exit code of
the command. The summary of a run has a failure exactly if its status is aborted, and every channel follows one of
the two.
-/

namespace PassDelta

variable {σ : Type}

def Json.member? (name : String) : Json → Option Json
  | .obj members => members.lookup name
  | _ => none

namespace Document

/-- The members of a written document by which its outcome is told. -/
structure Shows (v : Json) (d : Document) : Prop where
  success : v.member? "success" = some (.bool d.success)
  status : v.member? "status" = some (.str d.status)
  analyzed : v.member? "analyzed" = some (.int d.analyzed)
  skipped : v.member? "skipped" = some (.int d.skipped)
  failed : v.member? "failed" = some (.int d.failed)
  modules : ∃ items, v.member? "modules" = some (.arr items) ∧ items.length = d.modules.length
  skippedModules : ∃ items, v.member? "skipped_modules" = some (.arr items) ∧
    items.length = d.skippedModules.length
  error : d.error.mapM errorJson? = some (v.member? "error")

theorem mapM_length {α β : Type} {f : α → Option β} {xs : List α} {ys : List β} (hxs : xs.mapM f = some ys) :
    ys.length = xs.length := by
  induction xs generalizing ys with
  | nil => simp_all
  | cons x rest ih =>
    simp only [List.mapM_cons, Option.bind_eq_bind, Option.bind_eq_some_iff, Option.pure_def, Option.some.injEq] at hxs
    obtain ⟨y, -, ys', hrest, rfl⟩ := hxs
    rw [List.length_cons, List.length_cons, ih hrest]

theorem json?_shows {d : Document} {v : Json} (hv : d.json? = some v) : Shows v d := by
  simp only [json?, Option.bind_eq_bind, Option.bind_eq_some_iff, Option.pure_def, Option.some.injEq] at hv
  obtain ⟨modules, hmodules, skipped, hskipped, losses, -, error, herror, rfl⟩ := hv
  exact {
    success := rfl
    status := rfl
    analyzed := rfl
    skipped := rfl
    failed := rfl
    modules := ⟨modules, rfl, mapM_length hmodules⟩
    skippedModules := ⟨skipped, rfl, mapM_length hskipped⟩
    error := by
      rw [herror]
      cases error <;> rfl }

theorem errorJson?_members {e : ErrorEntry} {entry : Json} (he : errorJson? e = some entry) :
    ∃ text, e.module.text? = some text ∧ entry.member? "kind" = some (.str e.kind) ∧
      entry.member? "module" = some (.str text) ∧ entry.member? "mode" = some (.str e.mode) ∧
      entry.member? "message" = some (.str e.message) ∧ entry.member? "stderr" = e.stderr.map .str := by
  simp only [errorJson?, pathJson?, Option.bind_eq_bind, Option.bind_eq_some_iff, Option.map_eq_some_iff,
    Option.pure_def, Option.some.injEq] at he
  obtain ⟨_, ⟨text, htext, rfl⟩, rfl⟩ := he
  refine ⟨text, htext, rfl, rfl, rfl, rfl, ?_⟩
  cases e.stderr <;> rfl

end Document

namespace Summary
variable {s : Summary}

theorem exitCode_ne_zero : s.exitCode ≠ 0 ↔ s.status = .aborted := by
  cases hs : s.status <;> simp [exitCode, hs]

theorem isSuccess_eq_false : s.isSuccess = false ↔ s.status = .aborted := by
  cases hs : s.status <;> simp [isSuccess, hs]

theorem failedCount_eq_one : s.failedCount = 1 ↔ s.failure.isSome = true := by
  cases hf : s.failure <;> simp [failedCount, hf]

theorem name_eq_aborted : s.status.name = "aborted" ↔ s.status = .aborted := by
  cases s.status <;> decide

end Summary

/-- The code of a failure that a batch is aborted with. -/
theorem Failure.exitCode_ofInvocation (e : InvocationError) :
    ((ofInvocation e).exitCode = 127 ↔ ∃ source, e.cause = .notStarted source) ∧
      ((ofInvocation e).exitCode = 1 ↔ ¬∃ source, e.cause = .notStarted source) := by
  simp only [ofInvocation, exitCode]
  cases e.cause <;> simp

namespace CommandLine

theorem outcome_of_failure {summary : Summary} {e : InvocationError} (he : summary.failure = some e) :
    outcome summary = .error (.ofFailure (.ofInvocation e)) := by
  simp [outcome, he]

theorem outcome_error_iff {summary : Summary} : (∃ t, outcome summary = .error t) ↔ summary.failure.isSome = true := by
  cases hf : summary.failure <;> simp [outcome, hf]

/-- A command ends with zero or with the code of its failure. -/
theorem conclude_code (style : Style) (r : Except Trouble Unit) (s : Session σ) :
    ((conclude style r).run s : Nat × Session σ).1 = match r with
      | .ok () => 0
      | .error t => t.exitCode := by
  cases r <;> rfl

theorem code_ne_zero_iff {style : Style} {summary : Summary} {s : Session σ} :
    ((conclude style (outcome summary)).run s : Nat × Session σ).1 ≠ 0 ↔ summary.failure.isSome = true := by
  rw [conclude_code]
  cases hf : summary.failure with
  | none => simp [outcome, hf]
  | some e =>
    have hcode : (Failure.ofInvocation e).exitCode ≠ 0 := by
      simp only [Failure.ofInvocation, Failure.exitCode]
      cases e.cause <;> simp
    simp only [outcome_of_failure hf, Option.isSome_some, iff_true]
    exact hcode

end CommandLine

namespace Batch

open Console CommandLine

variable {h : Host σ} {style : Style} {setup : Setup}

variable (style setup) in
/-- Every channel of an aborted batch tells of the failure `e`. -/
structure TellsFailure (e : InvocationError) (result : Summary × Session σ) : Prop where
  event : (events result.2.trace).getLast? = some (.batchAborted e.module)
  line : failedLine e.module ∈ closingLines style result.1 setup.outputDir
  line_only : ∀ m, failedLine m ∈ closingLines style result.1 setup.outputDir → failedLine m = failedLine e.module
  document : (Document.ofSummary result.1).error = some ⟨e.kind, e.module, e.mode.name, e.message, e.stderr⟩
  written : ∀ v, (Document.ofSummary result.1).json? = some v → ∃ entry text, v.member? "error" = some entry ∧
    e.module.text? = some text ∧ entry.member? "kind" = some (.str e.kind) ∧
    entry.member? "module" = some (.str text) ∧ entry.member? "mode" = some (.str e.mode.name) ∧
    entry.member? "message" = some (.str e.message) ∧ entry.member? "stderr" = e.stderr.map .str
  command : ∃ t, outcome result.1 = .error t ∧ t.failure? = some (.batchAborted e.module e) ∧
    t.chain = ("Comparison aborted at " ++ e.module.display) :: e.message :: (e.source.map IoError.message).toList ∧
    (t.exitCode = 127 ↔ ∃ source, e.cause = .notStarted source) ∧
    (t.exitCode = 1 ↔ ¬∃ source, e.cause = .notStarted source) ∧
    ((conclude style (outcome result.1)).run result.2).1 = t.exitCode

variable (h style setup) in
/-- All channels of a batch agree on whether it was aborted, on the failure, and on the counts. -/
structure ChannelsAgree (result : Summary × Session σ) : Prop where
  aborted : [result.1.status = .aborted,
    result.1.failure.isSome = true,
    result.1.exitCode ≠ 0,
    result.1.isSuccess = false,
    result.1.failedCount = 1,
    (Document.ofSummary result.1).success = false,
    (Document.ofSummary result.1).status = "aborted",
    (Document.ofSummary result.1).failed = 1,
    (Document.ofSummary result.1).error.isSome = true,
    ∃ m, (events result.2.trace).getLast? = some (.batchAborted m),
    ∃ rest, (closingLines style result.1 setup.outputDir)[1]? = some (heading style .aborted ++ rest),
    ∃ m, failedLine m ∈ closingLines style result.1 setup.outputDir,
    ∃ t, outcome result.1 = .error t,
    ((conclude style (outcome result.1)).run result.2).1 ≠ 0].TFAE
  failure : ∀ e, result.1.failure = some e → TellsFailure style setup e result
  printed : ∃ front n, result.2.trace =
    front ++ h.said n (Console.printed (closingLines style result.1 setup.outputDir) ++ "\n")
  headline : (closingLines style result.1 setup.outputDir)[1]? = some (heading style result.1.status ++ " " ++
    toString result.1.reports.length ++ " analyzed, " ++ toString result.1.skipped.length ++ " skipped, " ++
    toString result.1.failure.toList.length ++ " failed")
  analyzed : (Document.ofSummary result.1).analyzed = result.1.reports.length ∧
    (Document.ofSummary result.1).modules.length = result.1.reports.length
  skipped : (Document.ofSummary result.1).skipped = result.1.skipped.length ∧
    (Document.ofSummary result.1).skippedModules.length = result.1.skipped.length
  failed : (Document.ofSummary result.1).failed = result.1.failure.toList.length
  written : ∀ v, (Document.ofSummary result.1).json? = some v → Document.Shows v (Document.ofSummary result.1)

theorem Closed.status_aborted {ms : List Path} {result : Summary × Session σ} (hr : Closed ms result) :
    result.1.status = .aborted ↔ result.1.failure.isSome = true := by
  cases hf : result.1.failure with
  | none => simp [(hr.completed hf).1]
  | some e => simp [(hr.aborted e hf).1]

theorem Closed.last_aborted {ms : List Path} {result : Summary × Session σ} (hr : Closed ms result) :
    (∃ m, (events result.2.trace).getLast? = some (.batchAborted m)) ↔ result.1.failure.isSome = true := by
  cases hf : result.1.failure with
  | none => simp [(hr.completed hf).2]
  | some e => simp [(hr.aborted e hf).2]

theorem Closed.tellsFailure {ms : List Path} {result : Summary × Session σ} (hr : Closed ms result)
    {e : InvocationError} (he : result.1.failure = some e) : TellsFailure style setup e result := by
  have herror : (Document.ofSummary result.1).error = some (ErrorEntry.ofError e) := by
    simp [Document.ofSummary, he]
  exact {
    event := (hr.aborted e he).2
    line := failedLine_mem he
    line_only := by
      intro m hm
      obtain ⟨e', he', hline⟩ := failure_of_failedLine hm
      rw [he, Option.some.injEq] at he'
      rw [← hline, he']
    document := herror
    written := by
      intro v hv
      have hmember := (Document.json?_shows hv).error
      rw [herror, Option.mapM_some] at hmember
      obtain ⟨entry, hentry, hmember⟩ := Option.map_eq_some_iff.mp hmember
      obtain ⟨text, htext, hmembers⟩ := Document.errorJson?_members hentry
      exact ⟨entry, text, hmember.symm, htext, hmembers⟩
    command := by
      have houtcome := outcome_of_failure he
      refine ⟨_, houtcome, rfl, rfl, (Failure.exitCode_ofInvocation e).1, (Failure.exitCode_ofInvocation e).2, ?_⟩
      rw [houtcome, conclude_code] }

theorem heading_aborted_iff {summary : Summary} {outputDir : Path} :
    (∃ rest, (closingLines style summary outputDir)[1]? = some (heading style .aborted ++ rest)) ↔
      summary.status = .aborted := by
  have hline : (closingLines style summary outputDir)[1]? = some (headline style summary) := rfl
  rw [hline]
  constructor
  · rintro ⟨rest, hrest⟩
    have hstart := congrArg start (Option.some.inj hrest)
    rw [start_headline, start_append (four_le_heading ..)] at hstart
    exact start_heading_injective hstart
  · intro hs
    simp only [headline, hs, String.append_assoc]
    exact ⟨_, rfl⟩

theorem failedLine_iff {summary : Summary} {outputDir : Path} :
    (∃ m, failedLine m ∈ closingLines style summary outputDir) ↔ summary.failure.isSome = true := by
  constructor
  · rintro ⟨m, hm⟩
    obtain ⟨e, he, -⟩ := failure_of_failedLine hm
    rw [he, Option.isSome_some]
  · intro hsome
    obtain ⟨e, he⟩ := Option.isSome_iff_exists.mp hsome
    exact ⟨e.module, failedLine_mem he⟩

variable (h style setup) in
/-- The closing block is the last thing that a batch says. -/
theorem run_printed (world : σ) (ms : List Path) :
    ∃ front n, ((run h style setup ms).run (.start world)).2.trace = front ++ h.said n (Console.printed
      (closingLines style ((run h style setup ms).run (.start world)).1 setup.outputDir) ++ "\n") := by
  rw [← batchReport_printed, run_run]
  exact ⟨_, _, (List.append_assoc ..).symm⟩

/-- All channels of a batch agree on how it ended, whatever the host, the settings and the list. -/
theorem run_channels_agree (h : Host σ) (style : Style) (setup : Setup) (world : σ) (ms : List Path) :
    ChannelsAgree h style setup ((run h style setup ms).run (.start world)) := by
  have hclosed := run_closed h style setup world ms
  have hstatus := hclosed.status_aborted
  exact {
    aborted := by
      refine List.tfae_of_forall (((run h style setup ms).run (.start world)).1.failure.isSome = true) _ ?_
      intro p hp
      simp only [List.mem_cons, List.not_mem_nil, or_false] at hp
      rcases hp with rfl | rfl | rfl | rfl | rfl | rfl | rfl | rfl | rfl | rfl | rfl | rfl | rfl | rfl
      · exact hstatus
      · exact Iff.rfl
      · exact Summary.exitCode_ne_zero.trans hstatus
      · exact Summary.isSuccess_eq_false.trans hstatus
      · exact Summary.failedCount_eq_one
      · exact Summary.isSuccess_eq_false.trans hstatus
      · exact Summary.name_eq_aborted.trans hstatus
      · exact Summary.failedCount_eq_one
      · rw [Document.ofSummary, Option.isSome_map]
      · exact hclosed.last_aborted
      · exact heading_aborted_iff.trans hstatus
      · exact failedLine_iff
      · exact outcome_error_iff
      · exact code_ne_zero_iff
    failure := fun e he => hclosed.tellsFailure he
    printed := run_printed h style setup world ms
    headline := by
      have hcount : ((run h style setup ms).run (.start world)).1.failedCount =
          ((run h style setup ms).run (.start world)).1.failure.toList.length := by
        cases hf : ((run h style setup ms).run (.start world)).1.failure <;> simp [Summary.failedCount, hf]
      rw [← hcount]
      rfl
    analyzed := ⟨rfl, List.length_map _⟩
    skipped := ⟨rfl, rfl⟩
    failed := by
      cases hf : ((run h style setup ms).run (.start world)).1.failure <;>
        simp [Document.ofSummary, Summary.failedCount, hf]
    written := fun _ => Document.json?_shows }

end Batch
end PassDelta
