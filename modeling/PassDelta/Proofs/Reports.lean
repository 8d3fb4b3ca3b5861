import Mathlib.Data.List.Forall2
import PassDelta.Proofs.Console
import PassDelta.Proofs.Contents
import PassDelta.Proofs.Events
/-!
# Reports and the pairs they are made from

A report stands for one position of the list. Its counts are those of the two outputs that the runs of this position
have printed, and the event and the statistics of the position show the same counts, whatever became of the saves.
-/

namespace PassDelta

variable {σ : Type}

/-- Counts of less than 63 bits are subtracted without overflow. -/
theorem Report.lineDelta_eq_sub {lines : PerMode Nat} (hu : lines.unoptimized < twoTo 63)
    (ho : lines.optimized < twoTo 63) : lineDelta lines = (lines.unoptimized : Int) - lines.optimized := by
  have hword : twoTo 64 = 18446744073709551616 := rfl
  have hhalf : twoTo 63 = 9223372036854775808 := rfl
  rw [lineDelta, hword, Int.bmod_def]
  split <;> omega

/-- The places that a function keeps, in order, each with the element kept there. -/
theorem exists_kept_positions {α β : Type} (f : α → Option β) (xs : List α) :
    ∃ is : List Nat, is.Pairwise (· < ·) ∧
      List.Forall₂ (fun i b => ∃ a, xs[i]? = some a ∧ f a = some b) is (xs.filterMap f) ∧
      ∀ i, i ∈ is ↔ ∃ a, xs[i]? = some a ∧ (f a).isSome = true := by
  induction xs with
  | nil => exact ⟨[], .nil, .nil, by simp⟩
  | cons a rest ih =>
    obtain ⟨is, hsorted, hkept, hall⟩ := ih
    have hshift : List.Forall₂ (fun i b => ∃ x, (a :: rest)[i]? = some x ∧ f x = some b) (is.map (· + 1))
        (rest.filterMap f) := List.forall₂_map_left_iff.mpr hkept
    have hsorted' : (is.map (· + 1)).Pairwise (· < ·) := List.pairwise_map.mpr (hsorted.imp Nat.succ_lt_succ)
    cases hf : f a with
    | none =>
      refine ⟨is.map (· + 1), hsorted', by rwa [List.filterMap_cons_none hf], ?_⟩
      intro i
      cases i with
      | zero => simp [hf]
      | succ i => simpa using hall i
    | some b =>
      refine ⟨0 :: is.map (· + 1), ?_, ?_, ?_⟩
      · exact List.pairwise_cons.mpr ⟨by simp, hsorted'⟩
      · rw [List.filterMap_cons_some hf]
        exact .cons ⟨a, rfl, hf⟩ hshift
      · intro i
        cases i with
        | zero => simp [hf]
        | succ i => simpa using hall i

namespace Batch

variable {h : Host σ} {style : Style} {setup : Setup}

variable (h style setup) in
/-- A report `r` made for the module `m` between the sessions `found` and `left`: the two runs made there have printed
`u` and `o`, and the report, the one event of a comparison and the text shown give the lines of these two. -/
structure FromPair (found left : Session σ) (m : Path) (u o : Bytes) (r : Report) : Prop where
  runs : ∃ first second, first.output? = some u ∧ second.output? = some o ∧
    h.runs setup found.world m =
      [(h.command setup m .unoptimized, first), (h.command setup m .optimized, second)]
  module : r.module = m
  name : r.name = m.stem
  lines : r.lines = ⟨Text.countLines (Text.lossy u), Text.countLines (Text.lossy o)⟩
  delta : r.lines.unoptimized < twoTo 63 → r.lines.optimized < twoTo 63 →
    Report.lineDelta r.lines = (r.lines.unoptimized : Int) - r.lines.optimized
  artifacts : r.artifacts = ⟨artifactPath setup.outputDir r.name .unoptimized setup.extension,
    artifactPath setup.outputDir r.name .optimized setup.extension⟩
  told : ∃ before n above, left.trace = found.trace ++ before ++
      h.said n (above ++ Console.countTable style r.lines ++ Console.reductionLine style r.lines ++ "\n") ++
      [.recorded (.moduleCompared m r.lines)] ∧
    (events before).filterMap Event.compared? = []

section Visit
variable {stems : List String} {m : Path} {s t : Session σ} {v : Visit}

theorem Visited.report_isSome (hv : Visited h style setup stems m s v t) :
    (v.report? setup).isSome = true ↔ ((h.runs setup s.world m).countP fun call => call.2.succeeded) = 2 := by
  cases hv with
  | skipped absent => simp [Visit.report?, Host.runs, absent]
  | failedFirst present first => simp [Visit.report?, Host.runs, present, (setup.judge_error first).1]
  | failedSecond present first second =>
    simp [Visit.report?, Host.runs, present, setup.judge_succeeded first, (setup.judge_error second).1]
  | compared present first second kept₁ kept₂ =>
    simp [Visit.report?, Host.runs, present, setup.judge_succeeded first, setup.judge_succeeded second]

theorem Visited.fromPair (hv : Visited h style setup stems m s v t) {r : Report} (hr : v.report? setup = some r) :
    ∃ u o, FromPair h style setup s t m u o r := by
  cases hv with
  | skipped absent => simp [Visit.report?] at hr
  | failedFirst present first => simp [Visit.report?] at hr
  | failedSecond present first second => simp [Visit.report?] at hr
  | @compared c₁ c₂ l₁ l₂ w₁ w₂ present first second kept₁ kept₂ =>
    obtain rfl := Option.some.inj hr
    let c : Comparison := ⟨m, ⟨c₁, c₂⟩, ⟨l₁, l₂⟩⟩
    obtain ⟨above, htext⟩ := Console.moduleReport_statistics style (c.report setup) (c.captures.map Capture.text)
      (c.unsaved setup) setup.previewLimit
    refine ⟨c₁.stdout, c₂.stdout, ?_⟩
    exact {
      runs := ⟨_, _, setup.judge_output first, setup.judge_output second, by
        simp [Host.runs, present, setup.judge_succeeded first]⟩
      module := rfl
      name := rfl
      lines := rfl
      delta := Report.lineDelta_eq_sub
      artifacts := rfl
      told := by
        refine ⟨openingTrace h style s.blocks stems m ++ compileTrace h setup (s.blocks + 1) m .unoptimized (.ok c₁) ++
          compileTrace h setup (s.blocks + 1 + 1) m .optimized (.ok c₂) ++
          persistTrace h style setup (s.blocks + 1 + 2) c₁ l₁ ++
          persistTrace h style setup (s.blocks + 1 + 2 + l₁.toList.length) c₂ l₂,
          s.blocks + 1 + 2 + l₁.toList.length + l₂.toList.length, above, ?_, ?_⟩
        · rw [Session.after_trace, reportTrace, htext]
          simp only [List.append_assoc, c]
        · rw [← events_notices]
          simp only [notices_append, notices_openingTrace, notices_compileTrace_ok, notices_persistTrace]
          cases l₁ <;> cases l₂ <;> rfl }

end Visit

/-- The reports of a batch stand for positions of its list, in order. Each is made from the pair of outputs of its own
position, and a position has one if and only if it was visited and both of its runs have succeeded. -/
theorem run_reports_pairs (h : Host σ) (style : Style) (setup : Setup) (world : σ) (ms : List Path) :
    ∃ is : List Nat, is.Pairwise (· < ·) ∧
      List.Forall₂ (fun i r => ∃ m u o, ms[i]? = some m ∧ FromPair h style setup
        (sessionAt h style setup world ms i) (sessionAt h style setup world ms (i + 1)) m u o r) is
        ((run h style setup ms).run (.start world)).1.reports ∧
      ∀ i m, ms[i]? = some m →
        (i ∈ is ↔ i < visitCount ((run h style setup ms).run (.start world)).1 ∧
          ((h.runs setup (sessionAt h style setup world ms i).world m).countP fun call => call.2.succeeded) = 2) := by
  have hreports : ((run h style setup ms).run (.start world)).1.reports =
      (course h style setup [] ms (.start world)).filterMap fun stop => stop.visit.report? setup := by
    rw [run_run]
    simp only [Summary.ofVisits_eq, List.filterMap_map]
    rfl
  have hcount : visitCount ((run h style setup ms).run (.start world)).1 =
      (course h style setup [] ms (.start world)).length := by rw [run_run, course_count]
  have hv := course_visited h style setup [] ms (.start world)
  obtain ⟨is, hsorted, hkept, hall⟩ := exists_kept_positions (fun stop => stop.visit.report? setup)
    (course h style setup [] ms (.start world))
  refine ⟨is, hsorted, ?_, ?_⟩
  · rw [hreports]
    refine List.Forall₂.imp ?_ hkept
    rintro i r ⟨stop, hi, hr⟩
    obtain ⟨hm, hfound, hleft⟩ := course_sessions h style setup [] ms (.start world) hi
    obtain ⟨u, o, hpair⟩ := (hv stop (List.mem_of_getElem? hi)).fromPair hr
    rw [hfound, hleft] at hpair
    exact ⟨stop.module, u, o, hm, hpair⟩
  · intro i m hm
    -- a stop of the course is a position that was visited, with the module and the session found there
    have hstop {stop : Stop σ} (hi : (course h style setup [] ms (.start world))[i]? = some stop) :
        (stop.visit.report? setup).isSome = true ↔
          ((h.runs setup (sessionAt h style setup world ms i).world m).countP fun call => call.2.succeeded) = 2 := by
      obtain ⟨hown, hfound, -⟩ := course_sessions h style setup [] ms (.start world) hi
      obtain rfl := Option.some.inj (hm.symm.trans hown)
      rw [(hv stop (List.mem_of_getElem? hi)).report_isSome, hfound, sessionAt]
    rw [hall i, hcount]
    constructor
    · rintro ⟨stop, hi, hsome⟩
      exact ⟨(List.getElem?_eq_some_iff.mp hi).1, (hstop hi).mp hsome⟩
    · rintro ⟨hi, htwo⟩
      have hvisited := List.getElem?_eq_getElem hi
      exact ⟨_, hvisited, (hstop hvisited).mpr htwo⟩

/-- Two sources in memory where nothing can be written; the last of their four runs fails. -/
def fullWorld : Memory :=
  { scriptedWorld [0, 0, 0, 1] with
    store := { (scriptedWorld [0, 0, 0, 1]).store with faults := [⟨.write, none, .enospc⟩] } }

/-- The report of a module whose artifacts were both lost. -/
theorem run_reports_pairs_lost_saves :
    ((run Memory.host ⟨false, false⟩ scriptedSetup scriptedModules).run (.start fullWorld)).1.artifactFailures.length =
      2 ∧
    ∃ r u o, ((run Memory.host ⟨false, false⟩ scriptedSetup scriptedModules).run (.start fullWorld)).1.reports = [r] ∧
      FromPair Memory.host ⟨false, false⟩ scriptedSetup
        (sessionAt Memory.host ⟨false, false⟩ scriptedSetup fullWorld scriptedModules 1)
        (sessionAt Memory.host ⟨false, false⟩ scriptedSetup fullWorld scriptedModules 2)
        (Path.ofString "a.c") u o r := by
  refine ⟨by decide +kernel, ?_⟩
  obtain ⟨is, -, hall, hiff⟩ := run_reports_pairs Memory.host ⟨false, false⟩ scriptedSetup fullWorld scriptedModules
  have hfirst : 1 ∈ is := (hiff 1 (Path.ofString "a.c") rfl).2 ⟨by decide +kernel, by decide +kernel⟩
  have hlength : is.length = 1 := by
    rw [hall.length_eq]
    decide +kernel
  obtain ⟨i, rfl⟩ := List.length_eq_one_iff.1 hlength
  obtain rfl := List.mem_singleton.1 hfirst
  generalize
    ((run Memory.host ⟨false, false⟩ scriptedSetup scriptedModules).run (.start fullWorld)).1.reports = rs at hall
  cases hall with
  | cons hr hnil =>
    cases hnil
    obtain ⟨m, u, o, hm, hpair⟩ := hr
    obtain rfl := Option.some.inj hm
    exact ⟨_, u, o, rfl, hpair⟩

end Batch
end PassDelta
