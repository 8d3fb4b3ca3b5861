import PassDelta.Proofs.Visit
/-!
# The course of a batch

A batch makes one stop for each position of its list, up to the first aborted visit. The stops carry the sessions
around them, so what holds of every visit, and what a visit adds to anything read off a session, holds of the whole
batch by one induction.
-/

namespace PassDelta

variable {σ : Type}

namespace Batch

/-- One visited position: the stems compared before it, its module, the visit, and the sessions around it. -/
structure Stop (σ : Type) where
  stems : List String
  module : Path
  before : Session σ
  visit : Visit
  after : Session σ

def Stop.nextStems (stop : Stop σ) : List String :=
  match stop.visit with
  | .compared _ => stop.module.stem :: stop.stems
  | _ => stop.stems

variable (h : Host σ) (style : Style) (setup : Setup)

def stopAt (stems : List String) (m : Path) (s : Session σ) : Stop σ :=
  ⟨stems, m, s, ((visit h style setup stems m).run s).1, ((visit h style setup stems m).run s).2⟩

def course : List String → List Path → Session σ → List (Stop σ)
  | _, [], _ => []
  | stems, m :: rest, s =>
    let stop := stopAt h style setup stems m s
    stop :: if stop.visit.isAborted then [] else course stop.nextStems rest stop.after

theorem walk_nil (stems : List String) (s : Session σ) : (walk h style setup stems []).run s = ([], s) := rfl

theorem walk_cons (stems : List String) (m : Path) (rest : List Path) (s : Session σ) :
    ((walk h style setup stems (m :: rest)).run s : List Visit × Session σ) =
      let stop := stopAt h style setup stems m s
      if stop.visit.isAborted then ([stop.visit], stop.after)
      else (stop.visit :: ((walk h style setup stop.nextStems rest).run stop.after).1,
        ((walk h style setup stop.nextStems rest).run stop.after).2) := by
  obtain ⟨v, t, hv⟩ : ∃ v t, (visit h style setup stems m).run s = (v, t) := ⟨_, _, rfl⟩
  simp only [walk, Work.bind_run, stopAt, Stop.nextStems, hv]
  cases v with
  | skipped x => rfl
  | compared c => rfl
  | aborted e => rfl

theorem walk_visits (stems : List String) (ms : List Path) (s : Session σ) :
    ((walk h style setup stems ms).run s).1 = (course h style setup stems ms s).map Stop.visit := by
  induction ms generalizing stems s with
  | nil => rfl
  | cons m rest ih =>
    simp only [walk_cons, course]
    split
    · rfl
    · rw [List.map_cons, ih]

/-- Anything read off the session that each stop advances by `step` is folded over the stops by the batch. -/
theorem walk_foldl {β : Type} (view : Session σ → β) (step : β → Stop σ → β) (stems : List String) (ms : List Path)
    (s : Session σ)
    (hstep : ∀ stop ∈ course h style setup stems ms s, view stop.after = step (view stop.before) stop) :
    view ((walk h style setup stems ms).run s).2 = (course h style setup stems ms s).foldl step (view s) := by
  induction ms generalizing stems s with
  | nil => rfl
  | cons m rest ih =>
    have hfirst : view (stopAt h style setup stems m s).after = step (view s) (stopAt h style setup stems m s) :=
      hstep _ (by simp [course])
    by_cases ha : (stopAt h style setup stems m s).visit.isAborted = true
    · simp [walk_cons, course, ha, hfirst]
    · rw [Bool.not_eq_true] at ha
      have hrest := ih (stopAt h style setup stems m s).nextStems (stopAt h style setup stems m s).after (by
        intro stop hs
        exact hstep stop (by simp [course, ha, hs]))
      simp only [walk_cons, course, ha, Bool.false_eq_true, ↓reduceIte, List.foldl_cons]
      rw [hrest, hfirst]

/-- Lists read off the session, to which each stop adds, are added up by the batch. -/
theorem walk_flatMap {β : Type} (view : Session σ → List β) (tell : Stop σ → List β) (stems : List String)
    (ms : List Path) (s : Session σ)
    (hstep : ∀ stop ∈ course h style setup stems ms s, view stop.after = view stop.before ++ tell stop) :
    view ((walk h style setup stems ms).run s).2 = view s ++ (course h style setup stems ms s).flatMap tell := by
  rw [walk_foldl h style setup view (fun given stop => given ++ tell stop) stems ms s hstep,
    List.foldl_append_eq_append]
  rfl

/-- What happens at a stop is a visit of its module. -/
theorem course_visited (stems : List String) (ms : List Path) (s : Session σ) :
    ∀ stop ∈ course h style setup stems ms s,
      Visited h style setup stop.stems stop.module stop.before stop.visit stop.after := by
  induction ms generalizing stems s with
  | nil => simp [course]
  | cons m rest ih =>
    intro stop hs
    rcases List.mem_cons.mp hs with rfl | hs
    · exact visit_visited h style setup stems m s
    · split at hs
      · simp at hs
      · exact ih _ _ stop hs

theorem course_take (stems : List String) (ms : List Path) (s : Session σ) (i : Nat) :
    course h style setup stems (ms.take i) s = (course h style setup stems ms s).take i := by
  induction ms generalizing stems s i with
  | nil => simp [course]
  | cons m rest ih =>
    cases i with
    | zero => rfl
    | succ i =>
      simp only [List.take_succ_cons, course]
      split
      · simp
      · rw [ih]

theorem course_modules (stems : List String) (ms : List Path) (s : Session σ) :
    (course h style setup stems ms s).map Stop.module <+: ms := by
  induction ms generalizing stems s with
  | nil => exact List.prefix_refl _
  | cons m rest ih =>
    simp only [course, List.map_cons]
    refine List.cons_prefix_cons.mpr ⟨rfl, ?_⟩
    split
    · exact List.nil_prefix
    · exact ih _ _

/-- Either every listed module is passed, or the last stop, and it alone, is an aborted visit. -/
theorem course_split (stems : List String) (ms : List Path) (s : Session σ) :
    ∃ passed last, course h style setup stems ms s = passed ++ last ∧
      (∀ stop ∈ passed, stop.visit.isAborted = false) ∧
      (last = [] ∧ passed.map Stop.module = ms ∨ ∃ stop, last = [stop] ∧ stop.visit.isAborted = true) := by
  induction ms generalizing stems s with
  | nil => exact ⟨[], [], rfl, by simp, .inl ⟨rfl, rfl⟩⟩
  | cons m rest ih =>
    by_cases ha : (stopAt h style setup stems m s).visit.isAborted = true
    · refine ⟨[], [stopAt h style setup stems m s], by simp [course, ha], by simp, .inr ⟨_, rfl, ha⟩⟩
    · rw [Bool.not_eq_true] at ha
      obtain ⟨passed, last, hc, hp, hl⟩ := ih (stopAt h style setup stems m s).nextStems
        (stopAt h style setup stems m s).after
      refine ⟨stopAt h style setup stems m s :: passed, last, by simp [course, ha, hc], ?_, ?_⟩
      · intro stop hs
        rcases List.mem_cons.mp hs with rfl | hs
        · exact ha
        · exact hp stop hs
      · rcases hl with ⟨rfl, hm⟩ | hl
        · exact .inl ⟨rfl, by rw [List.map_cons, hm]; rfl⟩
        · exact .inr hl

/-- The stop of number `i` is a visit of that module between the sessions that the first `i` and `i + 1` modules leave. -/
theorem course_sessions (stems : List String) (ms : List Path) (s : Session σ) {i : Nat} {stop : Stop σ}
    (hi : (course h style setup stems ms s)[i]? = some stop) :
    ms[i]? = some stop.module ∧ stop.before = ((walk h style setup stems (ms.take i)).run s).2 ∧
      stop.after = ((walk h style setup stems (ms.take (i + 1))).run s).2 := by
  induction ms generalizing stems s i with
  | nil => simp [course] at hi
  | cons m rest ih =>
    cases i with
    | zero =>
      simp only [course, List.getElem?_cons_zero, Option.some.injEq] at hi
      subst hi
      refine ⟨rfl, rfl, ?_⟩
      simp only [List.take_succ_cons, List.take_zero, walk_cons, walk_nil]
      split <;> rfl
    | succ i =>
      by_cases ha : (stopAt h style setup stems m s).visit.isAborted = true
      · simp [course, ha] at hi
      · rw [Bool.not_eq_true] at ha
        simp only [course, ha, Bool.false_eq_true, ↓reduceIte, List.getElem?_cons_succ] at hi
        simpa only [List.getElem?_cons_succ, List.take_succ_cons, walk_cons, ha, Bool.false_eq_true,
          ↓reduceIte] using ih _ _ hi

/-- The session in which a batch that starts in `world` comes to position `i` of its list. -/
def sessionAt (world : σ) (ms : List Path) (i : Nat) : Session σ :=
  ((walk h style setup [] (ms.take i)).run (.start world)).2

/-- The first `n` positions of a list, each with the world that the batch finds there. -/
def positions (world : σ) (ms : List Path) (n : Nat) : List (Path × σ) :=
  (ms.zipIdx.take n).map fun p => (p.1, (sessionAt h style setup world ms p.2).world)

theorem course_positions (world : σ) (ms : List Path) (n : Nat)
    (hn : n ≤ (course h style setup [] ms (.start world)).length) :
    ((course h style setup [] ms (.start world)).take n).map (fun stop => (stop.module, stop.before.world)) =
      positions h style setup world ms n := by
  apply List.ext_getElem?
  intro i
  simp only [positions, List.getElem?_map, List.getElem?_take]
  by_cases hi : i < n
  · have hc := List.getElem?_eq_getElem (Nat.lt_of_lt_of_le hi hn)
    obtain ⟨hm, hb, -⟩ := course_sessions h style setup [] ms (.start world) hc
    simp only [hi, ↓reduceIte, hc, List.getElem?_zipIdx, hm, Option.map_some, Nat.zero_add, hb, sessionAt]
  · simp only [hi, ↓reduceIte, Option.map_none]

theorem walk_last (stems : List String) (ms : List Path) (s : Session σ) (stops : List (Stop σ)) (stop : Stop σ)
    (hc : course h style setup stems ms s = stops ++ [stop]) :
    ((walk h style setup stems ms).run s).2 = stop.after := by
  have hfold := walk_foldl h style setup id (fun _ stop => stop.after) stems ms s fun _ _ => rfl
  rw [id, hc, List.foldl_append] at hfold
  exact hfold

theorem walk_trace_extends (stems : List String) (ms : List Path) (s : Session σ) :
    s.trace <+: ((walk h style setup stems ms).run s).2.trace := by
  induction ms generalizing stems s with
  | nil => exact List.prefix_refl _
  | cons m rest ih =>
    have hfirst : s.trace <+: (stopAt h style setup stems m s).after.trace :=
      (visit_visited h style setup stems m s).trace_extends
    rw [walk_cons]
    dsimp only
    split
    · exact hfirst
    · exact hfirst.trans (ih _ _)

/-- Every action that a batch adds to the trace is added by one of its stops. -/
theorem course_action (stems : List String) (ms : List Path) (s : Session σ) {done rest : List Action} {a : Action}
    (ht : ((walk h style setup stems ms).run s).2.trace = s.trace ++ done ++ a :: rest) :
    ∃ (i : Nat) (stop : Stop σ) (since more : List Action), (course h style setup stems ms s)[i]? = some stop ∧
      s.trace ++ done = stop.before.trace ++ since ∧ stop.after.trace = stop.before.trace ++ since ++ a :: more := by
  induction ms generalizing stems s done with
  | nil => simp [walk_nil] at ht
  | cons m tail ih =>
    obtain ⟨part, hpart⟩ := (visit_visited h style setup stems m s).trace_extends
    have hafter : (stopAt h style setup stems m s).after.trace = s.trace ++ part := hpart.symm
    by_cases ha : (stopAt h style setup stems m s).visit.isAborted = true
    · have hend : s.trace ++ part = s.trace ++ done ++ a :: rest := by simpa [walk_cons, ha, hafter] using ht
      exact ⟨0, stopAt h style setup stems m s, done, rest, rfl, rfl, hafter.trans hend⟩
    · rw [Bool.not_eq_true] at ha
      simp only [walk_cons, ha, Bool.false_eq_true, ↓reduceIte] at ht
      have hlater (later : List Action) (hdone : s.trace ++ done = s.trace ++ part ++ later) :
          ∃ (i : Nat) (stop : Stop σ) (since more : List Action),
            (course h style setup stems (m :: tail) s)[i]? = some stop ∧
            s.trace ++ done = stop.before.trace ++ since ∧
            stop.after.trace = stop.before.trace ++ since ++ a :: more := by
        rw [hdone, ← hafter] at ht
        obtain ⟨i, stop, since, more, hi, hd, hs⟩ := ih _ _ ht
        refine ⟨i + 1, stop, since, more, ?_, ?_, hs⟩
        · simpa [course, ha] using hi
        · rw [hdone, ← hafter, hd]
      -- the action lies in the first visit or behind it
      obtain ⟨tailTrace, htail⟩ := walk_trace_extends h style setup (stopAt h style setup stems m s).nextStems tail
        (stopAt h style setup stems m s).after
      rw [← htail, hafter, List.append_assoc, List.append_assoc s.trace, List.append_cancel_left_eq] at ht
      rcases List.append_eq_append_iff.mp ht with ⟨later, hdone, -⟩ | ⟨more, hpart, hmore⟩
      · exact hlater later (by rw [hdone, List.append_assoc])
      · cases more with
        | nil => exact hlater [] (by simp [hpart])
        | cons b more =>
          obtain ⟨rfl, -⟩ := List.cons_eq_cons.mp hmore
          refine ⟨0, stopAt h style setup stems m s, done, more, rfl, rfl, ?_⟩
          rw [hafter, hpart, ← List.append_assoc]
          rfl

theorem aborted_of_isAborted {v : Visit} (hv : v.isAborted = true) : ∃ e, v = .aborted e := by
  cases v with
  | aborted e => exact ⟨e, rfl⟩
  | skipped m => simp [Visit.isAborted] at hv
  | compared c => simp [Visit.isAborted] at hv

theorem failure_none {v : Visit} (hv : v.isAborted = false) : v.failure? = none := by
  cases v with
  | aborted e => simp [Visit.isAborted] at hv
  | skipped m => rfl
  | compared c => rfl

theorem passed_visits {passed : List (Stop σ)} (ha : ∀ stop ∈ passed, stop.visit.isAborted = false) :
    ∀ v ∈ passed.map Stop.visit, v.isAborted = false := by
  intro v hv
  obtain ⟨stop, hs, rfl⟩ := List.mem_map.mp hv
  exact ha stop hs

theorem ofVisits_passed {visits : List Visit} (hv : ∀ v ∈ visits, v.isAborted = false) :
    (Summary.ofVisits setup visits).failure = none ∧ (Summary.ofVisits setup visits).status = .completed := by
  have hf : visits.filterMap Visit.failure? = [] :=
    List.filterMap_eq_nil_iff.mpr fun v hm => failure_none (hv v hm)
  simp [Summary.ofVisits_eq, hf]

theorem ofVisits_aborted (visits : List Visit) (e : InvocationError) :
    Summary.ofVisits setup (visits ++ [.aborted e]) =
      { Summary.ofVisits setup visits with failure := some e, status := .aborted } := by
  rw [Summary.ofVisits, List.foldl_append]
  rfl

def visitCount (summary : Summary) : Nat := summary.reports.length + summary.skipped.length + summary.failedCount

theorem ofVisits_count {visits : List Visit} (hv : ∀ v ∈ visits, v.isAborted = false) :
    (Summary.ofVisits setup visits).reports.length + (Summary.ofVisits setup visits).skipped.length =
      visits.length := by
  induction visits with
  | nil => rfl
  | cons v rest ih =>
    have hrest := ih fun u hu => hv u (List.mem_cons_of_mem v hu)
    simp only [Summary.ofVisits_eq] at hrest ⊢
    cases v with
    | skipped m =>
      simp only [List.filterMap_cons, Visit.report?, Visit.skipped?, List.length_cons]
      omega
    | compared c =>
      simp only [List.filterMap_cons, Visit.report?, Visit.skipped?, List.length_cons]
      omega
    | aborted e => simp [Visit.isAborted] at hv

/-- Every stop is counted once in the summary. -/
theorem course_count (stems : List String) (ms : List Path) (s : Session σ) :
    visitCount (Summary.ofVisits setup ((course h style setup stems ms s).map Stop.visit)) =
      (course h style setup stems ms s).length := by
  obtain ⟨passed, last, hc, ha, hl⟩ := course_split h style setup stems ms s
  have hvisits := passed_visits ha
  have hcount := ofVisits_count setup hvisits
  rw [List.length_map] at hcount
  rcases hl with ⟨rfl, -⟩ | ⟨stop, rfl, hstop⟩
  · rw [hc, List.append_nil, visitCount, hcount, Summary.failedCount, (ofVisits_passed setup hvisits).1]
    rfl
  · obtain ⟨e, he⟩ := aborted_of_isAborted hstop
    rw [hc, List.map_append, List.map_singleton, he, ofVisits_aborted, visitCount, List.length_append]
    simp only [hcount, Summary.failedCount]
    rfl

def closingTrace (n : Nat) (summary : Summary) : List Action :=
  (if summary.isSuccess then [.recorded (.batchCompleted summary.reports.length summary.skipped.length)] else []) ++
    [.flushed] ++ h.said n (Console.batchReport style summary setup.outputDir ++ "\n")

/-- A batch is its walk with the closing behind it. -/
theorem run_run (ms : List Path) (s : Session σ) :
    ((run h style setup ms).run s : Summary × Session σ) =
      let summary := Summary.ofVisits setup ((course h style setup [] ms s).map Stop.visit)
      let t := ((walk h style setup [] ms).run s).2
      (summary, t.after t.world (closingTrace h style setup t.blocks summary) 1) := by
  simp only [run, Work.bind_run, walk_visits, closingTrace]
  by_cases hs : (Summary.ofVisits setup ((course h style setup [] ms s).map Stop.visit)).isSuccess = true
  · simp only [hs, ↓reduceIte, Work.bind_run, Work.record_run, Work.flush_run, Work.print_run, Work.pure_run,
      Session.after_world, Session.after_blocks, Session.after_after]
    rfl
  · rw [Bool.not_eq_true] at hs
    simp only [hs, Bool.false_eq_true, ↓reduceIte, Work.bind_run, Work.flush_run, Work.print_run, Work.pure_run,
      Session.after_world, Session.after_blocks, Session.after_after]
    rfl

/-- The positions behind the last stop add nothing. -/
theorem walk_take_course (stems : List String) (ms : List Path) (s : Session σ) :
    ((walk h style setup stems (ms.take (course h style setup stems ms s).length)).run s).2 =
      ((walk h style setup stems ms).run s).2 := by
  have hwhole := walk_foldl h style setup id (fun _ stop => stop.after) stems ms s fun _ _ => rfl
  have hpart := walk_foldl h style setup id (fun _ stop => stop.after) stems
    (ms.take (course h style setup stems ms s).length) s fun _ _ => rfl
  rw [course_take, List.take_length] at hpart
  exact hpart.trans hwhole.symm

variable {h style setup} in
theorem exists_stop {world : σ} {ms : List Path} {j : Nat} {m : Path}
    (hj : j < visitCount ((run h style setup ms).run (.start world)).1) (hm : ms[j]? = some m) :
    ∃ stop, (course h style setup [] ms (.start world))[j]? = some stop ∧ stop.module = m ∧
      stop.before = sessionAt h style setup world ms j ∧ stop.after = sessionAt h style setup world ms (j + 1) ∧
      Visited h style setup stop.stems stop.module stop.before stop.visit stop.after := by
  rw [run_run, course_count] at hj
  have hstop := List.getElem?_eq_getElem hj
  obtain ⟨hown, hbefore, hafter⟩ := course_sessions h style setup [] ms (.start world) hstop
  exact ⟨_, hstop, Option.some.inj (hown.symm.trans hm), hbefore, hafter,
    course_visited h style setup [] ms (.start world) _ (List.getElem_mem hj)⟩

/-- The positions that a batch visits, by its summary, each with the world found there. -/
def visitedPositions (world : σ) (ms : List Path) : List (Path × σ) :=
  positions h style setup world ms (visitCount ((run h style setup ms).run (.start world)).1)

theorem stops_visited (world : σ) (ms : List Path) :
    (course h style setup [] ms (.start world)).map (fun stop => (stop.module, stop.before.world)) =
      visitedPositions h style setup world ms := by
  rw [visitedPositions, run_run, course_count, ← course_positions h style setup world ms _ (Nat.le_refl _),
    List.take_length]

end Batch
end PassDelta
