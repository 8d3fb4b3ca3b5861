import Mathlib.Data.List.Basic
import PassDelta.Proofs.Course
/-!
# Every listed module is accounted for

The summary of a batch splits the positions it passed into reports and skipped modules, by what the batch found at
each position when it came there. Nothing is passed over: a batch that ends early ends at the next position.
-/

namespace PassDelta.Batch

variable {σ : Type} {h : Host σ} {style : Style} {setup : Setup}

section Visit
variable {stems : List String} {m : Path} {s t : Session σ} {v : Visit} {e : InvocationError}

theorem Visited.report_module (hv : Visited h style setup stems m s v t) (ha : v.isAborted = false) :
    (v.report? setup).map Report.module = if h.isPresent s.world m then some m else none := by
  cases hv with
  | skipped absent => simp [Visit.report?, absent]
  | failedFirst present first => simp [Visit.isAborted] at ha
  | failedSecond present first second => simp [Visit.isAborted] at ha
  | compared present first second kept₁ kept₂ => simp [Visit.report?, Comparison.report, present]

theorem Visited.skipped_module (hv : Visited h style setup stems m s v t) :
    v.skipped? = if !h.isPresent s.world m then some m else none := by
  cases hv with
  | skipped absent => simp [Visit.skipped?, absent]
  | failedFirst present first => simp [Visit.skipped?, present]
  | failedSecond present first second => simp [Visit.skipped?, present]
  | compared present first second kept₁ kept₂ => simp [Visit.skipped?, present]

/-- An aborted visit found its module, and its failure tells which of the two runs failed. -/
theorem Visited.aborted_run (hv : Visited h style setup stems m s (.aborted e) t) :
    h.isPresent s.world m = true ∧ e.module = m ∧
      (e.mode = .optimized ↔ Answer.succeeded (h.reply setup s.world m .unoptimized).1 = true) := by
  cases hv with
  | failedFirst present first =>
    obtain ⟨hs, -, hm, hmode⟩ := setup.judge_error first
    exact ⟨present, hm, by simp [hs, hmode]⟩
  | failedSecond present first second =>
    obtain ⟨-, -, hm, hmode⟩ := setup.judge_error second
    exact ⟨present, hm, by simp [setup.judge_succeeded first, hmode]⟩

end Visit

variable (h style setup) in
/-- The first `k` positions of `ms` are told by the summary of a batch from `world`, each once, in order and in the
right list; if the batch ended early, it was by a failed run of the module that comes next. -/
structure Accounts (world : σ) (ms : List Path) (summary : Summary) (k : Nat) : Prop where
  bound : k ≤ ms.length
  reports : summary.reports.map Report.module =
    ((positions h style setup world ms k).filter fun p => h.isPresent p.2 p.1).map Prod.fst
  skipped : summary.skipped =
    ((positions h style setup world ms k).filter fun p => !h.isPresent p.2 p.1).map Prod.fst
  once : (summary.reports.map Report.module ++ summary.skipped).Perm (ms.take k)
  completed : summary.status = .completed → k = ms.length ∧ summary.failure = none
  aborted : summary.status = .aborted → ∃ m e, ms[k]? = some m ∧ summary.failure = some e ∧
    h.isPresent (sessionAt h style setup world ms k).world m = true ∧ e.module = m ∧
      (e.mode = .optimized ↔
        Answer.succeeded (h.reply setup (sessionAt h style setup world ms k).world m .unoptimized).1 = true)

variable (h style setup) in
theorem positions_modules (world : σ) (ms : List Path) (k : Nat) :
    (positions h style setup world ms k).map Prod.fst = ms.take k := by
  simp only [positions, List.map_map, List.map_take]
  congr 1
  exact List.zipIdx_map_fst 0 ms

theorem filterMap_stops (found : Path × σ → Bool) (stops : List (Stop σ)) :
    (stops.filterMap fun stop => if found (stop.module, stop.before.world) then some stop.module else none) =
      ((stops.map fun stop => (stop.module, stop.before.world)).filter found).map Prod.fst := by
  induction stops with
  | nil => rfl
  | cons stop rest ih =>
    by_cases hf : found (stop.module, stop.before.world) = true
    · simp [hf, ih]
    · simp [hf, ih]

theorem passed_reports {stops : List (Stop σ)}
    (hv : ∀ stop ∈ stops, Visited h style setup stop.stems stop.module stop.before stop.visit stop.after)
    (ha : ∀ stop ∈ stops, stop.visit.isAborted = false) :
    (Summary.ofVisits setup (stops.map Stop.visit)).reports.map Report.module =
      ((stops.map fun stop => (stop.module, stop.before.world)).filter fun p => h.isPresent p.2 p.1).map
        Prod.fst := by
  rw [← filterMap_stops]
  simp only [Summary.ofVisits_eq, List.filterMap_map, List.map_filterMap]
  apply List.filterMap_congr
  intro stop hs
  exact (hv stop hs).report_module (ha stop hs)

theorem passed_skipped {stops : List (Stop σ)}
    (hv : ∀ stop ∈ stops, Visited h style setup stop.stems stop.module stop.before stop.visit stop.after) :
    (Summary.ofVisits setup (stops.map Stop.visit)).skipped =
      ((stops.map fun stop => (stop.module, stop.before.world)).filter fun p => !h.isPresent p.2 p.1).map
        Prod.fst := by
  rw [← filterMap_stops]
  simp only [Summary.ofVisits_eq, List.filterMap_map]
  apply List.filterMap_congr
  intro stop hs
  exact (hv stop hs).skipped_module

variable (h style setup) in
theorem positions_perm (world : σ) (ms : List Path) (k : Nat) (found : Path × σ → Bool) :
    (((positions h style setup world ms k).filter found).map Prod.fst ++
      ((positions h style setup world ms k).filter fun p => !found p).map Prod.fst).Perm (ms.take k) := by
  rw [← List.map_append, ← positions_modules h style setup world]
  exact (List.filter_append_perm found _).map Prod.fst

/-- A batch accounts for the modules at the front of its list, up to the first whose runs failed or to the end: it reports
those that it found and skips those that it missed at the moment of their visit, in the order of the list. -/
theorem run_accounts_for_modules (h : Host σ) (style : Style) (setup : Setup) (world : σ) (ms : List Path) :
    ∃ k, Accounts h style setup world ms ((run h style setup ms).run (.start world)).1 k := by
  obtain ⟨passed, last, hc, ha, hl⟩ := course_split h style setup [] ms (.start world)
  have hv := course_visited h style setup [] ms (.start world)
  have hvp : ∀ stop ∈ passed, Visited h style setup stop.stems stop.module stop.before stop.visit stop.after :=
    fun stop hs => hv stop (by rw [hc]; exact List.mem_append_left _ hs)
  have hpos := course_positions h style setup world ms passed.length (by simp [hc])
  rw [hc, List.take_left] at hpos
  have hreports := passed_reports hvp ha
  have hskipped := passed_skipped hvp
  rw [hpos] at hreports hskipped
  have honce := positions_perm h style setup world ms passed.length
    fun p => h.isPresent p.2 p.1
  rw [← hreports, ← hskipped] at honce
  have hvisits := passed_visits ha
  refine ⟨passed.length, ?_⟩
  rw [run_run]
  simp only [hc, List.map_append]
  rcases hl with ⟨rfl, hm⟩ | ⟨stop, rfl, hstop⟩
  · obtain ⟨hfailure, hstatus⟩ := ofVisits_passed setup hvisits
    rw [List.map_nil, List.append_nil]
    have hlen : passed.length = ms.length := by rw [← hm, List.length_map]
    exact ⟨Nat.le_of_eq hlen, hreports, hskipped, honce, fun _ => ⟨hlen, hfailure⟩, fun hab => by simp [hstatus] at hab⟩
  · obtain ⟨e, he⟩ := aborted_of_isAborted hstop
    have hlast : (course h style setup [] ms (.start world))[passed.length]? = some stop := by simp [hc]
    obtain ⟨hm, hb, -⟩ := course_sessions h style setup [] ms (.start world) hlast
    have hvisit := hv stop (by simp [hc])
    rw [he, hb] at hvisit
    obtain ⟨hpresent, hmodule, hmode⟩ := hvisit.aborted_run
    rw [List.map_singleton, he, ofVisits_aborted]
    have hlt : passed.length < ms.length := (List.getElem?_eq_some_iff.mp hm).1
    exact ⟨Nat.le_of_lt hlt, hreports, hskipped, honce, fun hab => by simp at hab,
      fun _ => ⟨stop.module, e, hm, rfl, hpresent, hmodule, hmode⟩⟩

end PassDelta.Batch
