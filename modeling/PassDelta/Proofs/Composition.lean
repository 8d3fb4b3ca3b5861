import PassDelta.Proofs.Script
/-!
# Batches one after another

A batch carries nothing from one module to the next but the world and the stems it warns of. Over the two parts of a
list it is therefore a batch over the first part and, unless that one aborts, a batch over the second part in the world
that the first has left.
-/

namespace PassDelta

variable {σ : Type} (h : Host σ) (style : Style) (setup : Setup)

namespace Host

theorem stations_append (w : σ) (a b : List Path) : h.stations setup w (a ++ b) = h.stations setup w a ++
    if (h.visits setup w a).any Visit.isAborted then [] else h.stations setup (h.left setup w a) b := by
  induction a generalizing w with
  | nil => rfl
  | cons m rest ih =>
    rw [List.cons_append, stations, stations, left, visits_cons, List.cons_append, ih]
    -- an aborted visit ends both lists, and any other one hands its world on
    by_cases ha : (h.attend setup w m).1.isAborted = true
    · simp [ha]
    · rw [Bool.not_eq_true] at ha
      simp [ha]

theorem left_append (w : σ) (a b : List Path) : h.left setup w (a ++ b) =
    if (h.visits setup w a).any Visit.isAborted then h.left setup w a else h.left setup (h.left setup w a) b := by
  induction a generalizing w with
  | nil => rfl
  | cons m rest ih =>
    rw [List.cons_append, left, left, visits_cons, ih]
    by_cases ha : (h.attend setup w m).1.isAborted = true
    · simp [ha]
    · rw [Bool.not_eq_true] at ha
      simp [ha]

end Host

/-- A summary tells of an aborted visit by its status. -/
theorem Summary.ofVisits_status (visits : List Visit) :
    (Summary.ofVisits setup visits).status = .aborted ↔ visits.any Visit.isAborted = true := by
  have hvisit (v : Visit) : v.failure? = none ↔ v.isAborted = false := by
    cases v <;> simp [Visit.failure?, Visit.isAborted]
  have hnone : visits.filterMap Visit.failure? = [] ↔ visits.any Visit.isAborted = false := by
    simp only [List.filterMap_eq_nil_iff, hvisit, List.any_eq_false, Bool.not_eq_true]
  rw [← Bool.not_eq_false, ← hnone]
  simp [Summary.ofVisits_eq]

/-- Visits add up in a summary: its lists are appended, and the last part decides how it ends. -/
theorem Summary.ofVisits_append {first : List Visit} (hfirst : first.any Visit.isAborted = false)
    (second : List Visit) : Summary.ofVisits setup (first ++ second) =
      { Summary.ofVisits setup second with
        reports := (Summary.ofVisits setup first).reports ++ (Summary.ofVisits setup second).reports
        skipped := (Summary.ofVisits setup first).skipped ++ (Summary.ofVisits setup second).skipped
        artifactFailures := (Summary.ofVisits setup first).artifactFailures ++
          (Summary.ofVisits setup second).artifactFailures } := by
  have hnone : first.filterMap Visit.failure? = [] := by
    refine List.filterMap_eq_nil_iff.mpr fun v hv => Batch.failure_none ?_
    exact Bool.eq_false_iff.mpr (List.any_eq_false.mp hfirst v hv)
  simp [Summary.ofVisits_eq, hnone]

namespace Batch

/-- The batch `whole` gives the lists of `first` followed by those of `second`, asks of the host what `first` asks and
then what `second` asks, and ends as `second` does. -/
structure Joined (first second whole : Summary × Session σ) : Prop where
  reports : whole.1.reports = first.1.reports ++ second.1.reports
  skipped : whole.1.skipped = first.1.skipped ++ second.1.skipped
  artifactFailures : whole.1.artifactFailures = first.1.artifactFailures ++ second.1.artifactFailures
  status : whole.1.status = second.1.status
  failure : whole.1.failure = second.1.failure
  world : whole.2.world = second.2.world
  requests : requests whole.2.trace = requests first.2.trace ++ requests second.2.trace
  commands : commands whole.2.trace = commands first.2.trace ++ commands second.2.trace

section Append
variable {h style setup} {world : σ} {a : List Path} (b : List Path)

theorem run_append_aborted (ha : ((run h style setup a).run (.start world)).1.status = .aborted) :
    (run h style setup (a ++ b)).run (.start world) = (run h style setup a).run (.start world) := by
  rw [run_gives] at ha
  have hstopped : (h.visits setup world a).any Visit.isAborted = true := (Summary.ofVisits_status setup _).mp ha
  have hstations : h.stations setup world (a ++ b) = h.stations setup world a := by
    rw [h.stations_append, hstopped]
    exact List.append_nil _
  have hleft : h.left setup world (a ++ b) = h.left setup world a := by
    rw [h.left_append, hstopped]
    rfl
  simp only [run_script, Session.start_world, runScript, Host.summary, Host.visits, hstations, hleft]

theorem run_append_completed (ha : ((run h style setup a).run (.start world)).1.status = .completed) :
    Joined ((run h style setup a).run (.start world))
      ((run h style setup b).run (.start ((run h style setup a).run (.start world)).2.world))
      ((run h style setup (a ++ b)).run (.start world)) := by
  have hwent : (h.visits setup world a).any Visit.isAborted = false := by
    rw [run_gives] at ha
    refine Bool.eq_false_iff.mpr fun hstopped => ?_
    have haborted := (Summary.ofVisits_status setup _).mpr hstopped
    exact absurd (ha.symm.trans haborted) (by decide)
  have hstations : h.stations setup world (a ++ b) =
      h.stations setup world a ++ h.stations setup (h.left setup world a) b := by
    rw [h.stations_append, hwent]
    rfl
  have hwhole : h.summary setup world (a ++ b) = Summary.ofVisits setup
      (h.visits setup world a ++ h.visits setup (h.left setup world a) b) := by
    rw [Host.summary, Host.visits, hstations, List.map_append]
    rfl
  rw [Summary.ofVisits_append setup hwent] at hwhole
  have hrequests : requests ((run h style setup (a ++ b)).run (.start world)).2.trace =
      requests ((run h style setup a).run (.start world)).2.trace ++
        requests ((run h style setup b).run (.start (h.left setup world a))).2.trace := by
    rw [run_requests, run_requests, run_requests, hstations, List.flatMap_append]
  rw [run_leaves]
  exact {
    reports := by rw [run_gives, run_gives, run_gives, hwhole]; rfl
    skipped := by rw [run_gives, run_gives, run_gives, hwhole]; rfl
    artifactFailures := by rw [run_gives, run_gives, run_gives, hwhole]; rfl
    status := by rw [run_gives, run_gives, hwhole]; rfl
    failure := by rw [run_gives, run_gives, hwhole]; rfl
    world := by
      rw [run_leaves, run_leaves, h.left_append, hwent]
      rfl
    requests := hrequests
    commands := by rw [← commands_requests, hrequests, commands_append, commands_requests, commands_requests] }

end Append

/-- A batch over `a ++ b` is a batch over `a`, and then, unless that one aborts, a batch over `b` in the world that it
leaves. -/
theorem run_append (h : Host σ) (style : Style) (setup : Setup) (world : σ) (a b : List Path) :
    (((run h style setup a).run (.start world)).1.status = .aborted →
      (run h style setup (a ++ b)).run (.start world) = (run h style setup a).run (.start world)) ∧
    (((run h style setup a).run (.start world)).1.status = .completed →
      Joined ((run h style setup a).run (.start world))
        ((run h style setup b).run (.start ((run h style setup a).run (.start world)).2.world))
        ((run h style setup (a ++ b)).run (.start world))) :=
  ⟨run_append_aborted b, run_append_completed b⟩

/-- A list cut before the module whose second run fails, and one cut behind a module whose first run fails. -/
theorem run_append_around_abort :
    Joined ((run Memory.host ⟨false, false⟩ scriptedSetup [Path.ofString "gone.c", Path.ofString "a.c"]).run
        (.start (scriptedWorld [0, 0, 0, 1])))
      ((run Memory.host ⟨false, false⟩ scriptedSetup [Path.ofString "b.c"]).run
        (.start ((run Memory.host ⟨false, false⟩ scriptedSetup [Path.ofString "gone.c", Path.ofString "a.c"]).run
          (.start (scriptedWorld [0, 0, 0, 1]))).2.world))
      ((run Memory.host ⟨false, false⟩ scriptedSetup
        ([Path.ofString "gone.c", Path.ofString "a.c"] ++ [Path.ofString "b.c"])).run
          (.start (scriptedWorld [0, 0, 0, 1]))) ∧
    ((run Memory.host ⟨false, false⟩ scriptedSetup scriptedModules).run
      (.start (scriptedWorld [0, 0, 0, 1]))).1.status = .aborted ∧
    (run Memory.host ⟨false, false⟩ scriptedSetup ([Path.ofString "b.c"] ++ [Path.ofString "a.c"])).run
        (.start (scriptedWorld [1])) =
      (run Memory.host ⟨false, false⟩ scriptedSetup [Path.ofString "b.c"]).run (.start (scriptedWorld [1])) := by
  have hfront := run_append Memory.host ⟨false, false⟩ scriptedSetup (scriptedWorld [0, 0, 0, 1])
    [Path.ofString "gone.c", Path.ofString "a.c"] [Path.ofString "b.c"]
  have hback := run_append Memory.host ⟨false, false⟩ scriptedSetup (scriptedWorld [1]) [Path.ofString "b.c"]
    [Path.ofString "a.c"]
  exact ⟨hfront.2 (by decide +kernel), by decide +kernel, hback.1 (by decide +kernel)⟩

end Batch
end PassDelta
