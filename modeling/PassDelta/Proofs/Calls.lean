import PassDelta.Proofs.Course
import PassDelta.Proofs.Runs
/-!
# The calls of a batch

The programs run by a batch are two for each module found, in list order, cut off after the first answer that is no
success. Such an answer is the only reason to abort, and its sort decides the failure that is reported.
-/

namespace PassDelta

variable {σ : Type}

/-- What the cause of a failure tells of the answer it stands for. -/
structure Setup.Explains (setup : Setup) (a : Answer) (cause : InvocationCause) : Prop where
  timedOut : ∀ limit, cause = .timedOut limit ↔
    ∃ source, a = .error source ∧ source.kind = .timedOut ∧ setup.timeout = some limit
  notStarted : ∀ source, cause = .notStarted source ↔
    a = .error source ∧ ¬(source.kind = .timedOut ∧ setup.timeout.isSome = true)
  unsuccessful : ∀ code stderr, cause = .unsuccessful code stderr ↔
    ∃ done, a = .ok done ∧ done.status.isSuccess = false ∧ code = done.status.code?.map Int.ofNat ∧
      stderr = Text.lossy done.stderr

theorem Setup.judge_explains {setup : Setup} {m : Path} {mode : Mode} {a : Answer} {e : InvocationError}
    (he : setup.judge m mode a = .error e) : setup.Explains a e.cause := by
  cases a with
  | error source =>
    simp only [judge, Except.error.injEq] at he
    subst he
    split
    next limit hkind htimeout =>
      exact {
        timedOut := fun other => by simp [hkind, htimeout]
        notStarted := fun other => by
          simp only [reduceCtorEq, Except.error.injEq, false_iff]
          rintro ⟨rfl, hnot⟩
          exact hnot ⟨hkind, by rw [htimeout]; rfl⟩
        unsuccessful := fun code stderr => by simp }
    next hother =>
      have hnot : ¬(source.kind = .timedOut ∧ setup.timeout.isSome = true) := by
        rintro ⟨hkind, hsome⟩
        obtain ⟨limit, htimeout⟩ := Option.isSome_iff_exists.mp hsome
        exact hother limit hkind htimeout
      exact {
        timedOut := fun limit => by
          simp only [reduceCtorEq, Except.error.injEq, false_iff]
          rintro ⟨_, rfl, hkind, htimeout⟩
          exact hother limit hkind htimeout
        notStarted := fun other => by
          constructor
          · rintro ⟨rfl⟩
            exact ⟨rfl, hnot⟩
          · rintro ⟨⟨rfl⟩, -⟩
            rfl
        unsuccessful := fun code stderr => by simp }
  | ok done =>
    cases hs : done.status.isSuccess with
    | true => simp [judge, hs] at he
    | false =>
      simp only [judge, hs, Bool.false_eq_true, ↓reduceIte, Except.error.injEq] at he
      subst he
      exact {
        timedOut := fun limit => by simp
        notStarted := fun source => by simp
        unsuccessful := fun code stderr => by
          constructor
          · rintro ⟨rfl, rfl⟩
            exact ⟨done, rfl, hs, rfl, rfl⟩
          · rintro ⟨_, ⟨rfl⟩, -, rfl, rfl⟩
            rfl }

namespace Batch
variable (h : Host σ) (style : Style) (setup : Setup)

def wanted (found : List (Path × σ)) : List Command :=
  found.flatMap fun p =>
    if h.isPresent p.2 p.1 then
      [⟨setup.compiler, (setup.baseArgs ++ setup.flags.unoptimized).map Text.encode ++ [p.1.bytes],
          h.limit setup.timeout⟩,
        ⟨setup.compiler, (setup.baseArgs ++ setup.flags.optimized).map Text.encode ++ [p.1.bytes],
          h.limit setup.timeout⟩]
    else []

def callsAt (found : List (Path × σ)) : List (Command × Answer) := found.flatMap fun p => h.runs setup p.2 p.1

/-- How a batch over `ms` has called the compiler: its calls are those wanted for the modules found, up to the first
answer that is no success. Without such an answer the batch is completed, and with one it is aborted by a failure
that names the call and explains the answer. -/
structure Called (ms : List Path) (found : List (Path × σ)) (calls : List (Command × Answer))
    (result : Summary × Session σ) : Prop where
  listed : found.map Prod.fst <+: ms
  performed : commands result.2.trace = calls.map Prod.fst
  in_order : calls.map Prod.fst <+: wanted h setup found
  cut : ∀ call ∈ calls.dropLast, call.2.succeeded = true
  aborted_iff : result.1.status = .aborted ↔ ∃ call ∈ calls, call.2.succeeded = false
  completed : result.1.status = .completed → found.map Prod.fst = ms ∧
    calls.map Prod.fst = wanted h setup found ∧ calls.length = 2 * result.1.reports.length
  aborted : result.1.status = .aborted → ∃ e call, result.1.failure = some e ∧ calls.getLast? = some call ∧
    e.program = setup.compiler ∧ (found.map Prod.fst).getLast? = some e.module ∧
    call.1 = ⟨setup.compiler, (setup.baseArgs ++ setup.flags.get e.mode).map Text.encode ++ [e.module.bytes],
      h.limit setup.timeout⟩ ∧
    setup.Explains call.2 e.cause ∧ calls.length = 2 * result.1.reports.length + e.mode.step

theorem runs_prefix_wanted (w : σ) (m : Path) : (h.runs setup w m).map Prod.fst <+: wanted h setup [(m, w)] := by
  by_cases hp : h.isPresent w m = true
  · by_cases hs : (h.reply setup w m .unoptimized).1.succeeded = true
    · simp [Host.runs, wanted, hp, hs, Host.command, Setup.arguments, PerMode.get]
    · simp [Host.runs, wanted, hp, hs, Host.command, Setup.arguments, PerMode.get]
  · simp [Host.runs, hp]

variable {h style setup}

theorem runs_eq_wanted {w : σ} {m : Path} (hs : ∀ call ∈ h.runs setup w m, call.2.succeeded = true) :
    (h.runs setup w m).map Prod.fst = wanted h setup [(m, w)] := by
  by_cases hp : h.isPresent w m = true
  · by_cases hfirst : (h.reply setup w m .unoptimized).1.succeeded = true
    · simp [Host.runs, wanted, hp, hfirst, Host.command, Setup.arguments, PerMode.get]
    · simp [Host.runs, hp, hfirst] at hs
  · simp [Host.runs, wanted, hp]

theorem Visited.calls_length {stems : List String} {m : Path} {s t : Session σ} {v : Visit}
    (hv : Visited h style setup stems m s v t) (ha : v.isAborted = false) :
    (h.runs setup s.world m).length = 2 * (v.report? setup).toList.length := by
  cases hv with
  | skipped absent => simp [Host.runs, absent, Visit.report?]
  | failedFirst present first => simp [Visit.isAborted] at ha
  | failedSecond present first second => simp [Visit.isAborted] at ha
  | compared present first second kept₁ kept₂ =>
    simp [Host.runs, present, setup.judge_succeeded first, Visit.report?]

theorem calls_eq_wanted {found : List (Path × σ)}
    (hs : ∀ p ∈ found, ∀ call ∈ h.runs setup p.2 p.1, call.2.succeeded = true) :
    (callsAt h setup found).map Prod.fst = wanted h setup found := by
  induction found with
  | nil => rfl
  | cons p rest ih =>
    have hfirst := runs_eq_wanted (hs p List.mem_cons_self)
    have hrest := ih fun q hq => hs q (List.mem_cons_of_mem p hq)
    simp only [callsAt, wanted, List.flatMap_cons, List.flatMap_nil, List.append_nil, List.map_append] at hfirst hrest ⊢
    rw [hfirst, hrest]

theorem passed_calls_length {stops : List (Stop σ)}
    (hv : ∀ stop ∈ stops, Visited h style setup stop.stems stop.module stop.before stop.visit stop.after)
    (ha : ∀ stop ∈ stops, stop.visit.isAborted = false) :
    (callsAt h setup (stops.map fun stop => (stop.module, stop.before.world))).length =
      2 * (Summary.ofVisits setup (stops.map Stop.visit)).reports.length := by
  induction stops with
  | nil => rfl
  | cons stop rest ih =>
    have hfirst := (hv stop List.mem_cons_self).calls_length (ha stop List.mem_cons_self)
    have hrest := ih (fun s hs => hv s (List.mem_cons_of_mem stop hs)) fun s hs => ha s (List.mem_cons_of_mem stop hs)
    have hreports : (Summary.ofVisits setup (stop.visit :: rest.map Stop.visit)).reports.length =
        (stop.visit.report? setup).toList.length +
          (Summary.ofVisits setup (rest.map Stop.visit)).reports.length := by
      simp only [Summary.ofVisits_eq, List.filterMap_cons]
      cases stop.visit.report? setup with
      | none => simp
      | some r => simp [Nat.add_comm]
    simp only [callsAt, List.map_cons, List.flatMap_cons, List.length_append] at hrest ⊢
    rw [hfirst, hrest, hreports, Nat.mul_add]

theorem commands_closingTrace (n : Nat) (summary : Summary) : commands (closingTrace h style setup n summary) = [] := by
  unfold closingTrace
  rw [← commands_deeds]
  split <;> simp [Action.isDeed, Action.command?]

variable (h style setup) in
/-- A batch runs the commands of the calls made at the positions it visits and no other. -/
theorem run_commands (world : σ) (ms : List Path) :
    commands ((run h style setup ms).run (.start world)).2.trace =
      (callsAt h setup (visitedPositions h style setup world ms)).map Prod.fst := by
  have hwalk := walk_flatMap h style setup (fun s => commands s.trace)
    (fun stop => (h.runs setup stop.before.world stop.module).map Prod.fst) [] ms (.start world)
    fun stop hs => (course_visited h style setup [] ms (.start world) stop hs).commands_trace
  rw [Session.start_trace, commands_nil, List.nil_append] at hwalk
  rw [← stops_visited, run_run]
  simp only [Session.after_trace, commands_append, commands_closingTrace, List.append_nil, hwalk, callsAt,
    List.flatMap_map, List.map_flatMap]

theorem visitedPositions_listed (world : σ) (ms : List Path) :
    (visitedPositions h style setup world ms).map Prod.fst <+: ms := by
  have hmodules := course_modules h style setup [] ms (.start world)
  rw [← stops_visited, List.map_map]
  exact hmodules

section Endings
variable {world : σ} {ms : List Path} {passed : List (Stop σ)} {stop : Stop σ} {e : InvocationError}

theorem called_of_completed (hc : course h style setup [] ms (.start world) = passed)
    (ha : ∀ stop ∈ passed, stop.visit.isAborted = false) (hm : passed.map Stop.module = ms) :
    Called h setup ms (visitedPositions h style setup world ms)
      (callsAt h setup (visitedPositions h style setup world ms)) ((run h style setup ms).run (.start world)) := by
  have hperformed := run_commands h style setup world ms
  have hv := course_visited h style setup [] ms (.start world)
  have hfound := stops_visited h style setup world ms
  rw [hc] at hv hfound
  have hsucceeded : ∀ p ∈ visitedPositions h style setup world ms, ∀ call ∈ h.runs setup p.2 p.1,
      call.2.succeeded = true := by
    intro p hp
    rw [← hfound] at hp
    obtain ⟨stop, hs, rfl⟩ := List.mem_map.mp hp
    exact (hv stop hs).runs_succeeded (ha stop hs)
  have hall : ∀ call ∈ callsAt h setup (visitedPositions h style setup world ms), call.2.succeeded = true := by
    intro call hcall
    obtain ⟨p, hp, hmem⟩ := List.mem_flatMap.mp hcall
    exact hsucceeded p hp call hmem
  have hwanted := calls_eq_wanted hsucceeded
  have hlength := passed_calls_length hv ha
  rw [hfound] at hlength
  have hsummary : ((run h style setup ms).run (.start world)).1 = Summary.ofVisits setup (passed.map Stop.visit) := by
    rw [run_run, hc]
  have hstatus : ((run h style setup ms).run (.start world)).1.status = .completed := by
    rw [hsummary]
    exact (ofVisits_passed setup (passed_visits ha)).2
  exact {
    listed := visitedPositions_listed world ms
    performed := hperformed
    in_order := hwanted ▸ List.prefix_refl _
    cut := fun call hcall => hall call ((List.dropLast_sublist _).subset hcall)
    aborted_iff := by
      constructor
      · intro hab
        simp [hstatus] at hab
      · rintro ⟨call, hcall, hfail⟩
        simp [hall call hcall] at hfail
    completed := by
      intro _
      refine ⟨?_, hwanted, ?_⟩
      · rw [← hfound, List.map_map, ← hm]
        rfl
      · rw [hlength, hsummary]
    aborted := fun hab => by simp [hstatus] at hab }

theorem called_of_aborted (hc : course h style setup [] ms (.start world) = passed ++ [stop])
    (ha : ∀ stop ∈ passed, stop.visit.isAborted = false) (he : stop.visit = .aborted e) :
    Called h setup ms (visitedPositions h style setup world ms)
      (callsAt h setup (visitedPositions h style setup world ms)) ((run h style setup ms).run (.start world)) := by
  have hperformed := run_commands h style setup world ms
  have hv := course_visited h style setup [] ms (.start world)
  have hfound := stops_visited h style setup world ms
  rw [hc] at hv hfound
  have hvp : ∀ stop ∈ passed, Visited h style setup stop.stems stop.module stop.before stop.visit stop.after :=
    fun stop hs => hv stop (List.mem_append_left _ hs)
  have hlast := hv stop (List.mem_append_right _ List.mem_cons_self)
  rw [he] at hlast
  obtain ⟨earlier, call, hfatal⟩ := hlast.fatal
  let before := passed.map fun stop => (stop.module, stop.before.world)
  have hsucceeded : ∀ p ∈ before, ∀ call ∈ h.runs setup p.2 p.1, call.2.succeeded = true := by
    intro p hp
    obtain ⟨stop, hs, rfl⟩ := List.mem_map.mp hp
    exact (hvp stop hs).runs_succeeded (ha stop hs)
  have hpositions : visitedPositions h style setup world ms = before ++ [(stop.module, stop.before.world)] := by
    rw [← hfound, List.map_append, List.map_singleton]
  have hcalls : callsAt h setup (visitedPositions h style setup world ms) =
      (callsAt h setup before ++ earlier) ++ [call] := by
    rw [hpositions, callsAt, List.flatMap_append, List.flatMap_singleton, hfatal.runs, List.append_assoc]
    rfl
  have hpre : ∀ c ∈ callsAt h setup before ++ earlier, c.2.succeeded = true := by
    intro c hmem
    rcases List.mem_append.mp hmem with hmem | hmem
    · obtain ⟨p, hp, hmem⟩ := List.mem_flatMap.mp hmem
      exact hsucceeded p hp c hmem
    · exact hfatal.earlier_succeeded c hmem
  have hsummary : ((run h style setup ms).run (.start world)).1 =
      { Summary.ofVisits setup (passed.map Stop.visit) with failure := some e, status := .aborted } := by
    rw [run_run, hc, List.map_append, List.map_singleton, he, ofVisits_aborted]
  obtain ⟨-, hprogram, hmodule, -⟩ := setup.judge_error hfatal.judged
  exact {
    listed := visitedPositions_listed world ms
    performed := hperformed
    in_order := by
      have hruns := runs_prefix_wanted h setup stop.before.world stop.module
      rw [hpositions, callsAt, wanted, List.flatMap_append, List.flatMap_append, List.map_append]
      exact (calls_eq_wanted hsucceeded) ▸ (List.prefix_append_right_inj _).mpr (by simpa [wanted] using hruns)
    cut := by
      rw [hcalls, List.dropLast_concat]
      exact hpre
    aborted_iff := by
      rw [hsummary]
      exact ⟨fun _ => ⟨call, by simp [hcalls], hfatal.call_failed⟩, fun _ => rfl⟩
    completed := fun hco => by simp [hsummary] at hco
    aborted := by
      intro _
      refine ⟨e, call, by rw [hsummary], by rw [hcalls, List.getLast?_concat], hprogram, ?_, ?_,
        Setup.judge_explains hfatal.judged, ?_⟩
      · rw [hpositions, List.map_append, List.map_singleton, List.getLast?_concat, hmodule]
      · rw [hfatal.command, hmodule]
        rfl
      · rw [hcalls, hsummary, List.length_append, List.length_append, passed_calls_length hvp ha, List.length_singleton,
          Nat.add_assoc, hfatal.step] }

end Endings

/-- The calls of a batch are the two wanted for each module found, cut off by the first failure, which is the one that
the summary tells of. -/
theorem run_calls (h : Host σ) (style : Style) (setup : Setup) (world : σ) (ms : List Path) :
    Called h setup ms (visitedPositions h style setup world ms)
      (callsAt h setup (visitedPositions h style setup world ms)) ((run h style setup ms).run (.start world)) := by
  obtain ⟨passed, last, hc, ha, hl⟩ := course_split h style setup [] ms (.start world)
  rcases hl with ⟨rfl, hm⟩ | ⟨stop, rfl, hstop⟩
  · rw [List.append_nil] at hc
    exact called_of_completed hc ha hm
  · obtain ⟨e, he⟩ := aborted_of_isAborted hstop
    exact called_of_aborted hc ha he

end Batch
end PassDelta
