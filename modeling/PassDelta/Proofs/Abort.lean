import PassDelta.Proofs.Course
import PassDelta.Proofs.Runs
/-!
# Aborted batches

A position changes files only once both of its runs have succeeded. A batch that aborts therefore leaves the files
as its last position found them, reports what the positions before it gave, and does nothing more than tell the news.
-/

namespace PassDelta.Batch

variable {σ : Type} (h : Host σ) (style : Style) (setup : Setup)

/-- A batch over `ms` comes to position `i`: no run of an earlier position fails. -/
def Reached (world : σ) (ms : List Path) (i : Nat) : Prop :=
  ∀ j m, j < i → ms[j]? = some m → ∀ call ∈ h.runs setup (sessionAt h style setup world ms j).world m,
    call.2.succeeded = true

/-- A change of files asked for after `done` is made for the module `m`, in a visit that leads from the session
`found` to the session `left`, after both runs of the module, which have succeeded. -/
structure Backed (found left : Session σ) (m : Path) (done : List Action) (a : Action) : Prop where
  target : a = .madeDir setup.outputDir ∨
    ∃ mode n, a = .wrote (artifactPath setup.outputDir m.stem mode setup.extension) n
  runs : ∃ since, done = found.trace ++ since ∧
    commands since = [h.command setup m .unoptimized, h.command setup m .optimized]
  inside : done ++ [a] <+: left.trace
  unoptimized : (h.reply setup found.world m .unoptimized).1.succeeded = true
  optimized : (h.reply setup found.world m .optimized).1.succeeded = true

/-- How a batch ends that fails at a call for the module `m`, visited in the session `found` with the summary `before`
of the earlier positions: the files are those found there, the lists are those of the summary, and after the failed
call there is no deed but the news of it. -/
structure CutOff (found : Session σ) (before : Summary) (m : Path) (call : Command × Answer)
    (result : Summary × Session σ) : Prop where
  world : result.2.world = h.afterCalls found.world (h.runs setup found.world m)
  files : ∀ {φ : Type} (view : σ → φ), (∀ w c, view (h.execute w c).2 = view w) →
    view result.2.world = view found.world
  summary : ∃ e, e.module = m ∧ result.1 = { before with failure := some e, status := .aborted }
  trace : ∃ since talk, result.2.trace = found.trace ++ since ++ .ran call.1 :: talk ∧
    commands since ++ [call.1] = (h.runs setup found.world m).map Prod.fst ∧ changes since = [] ∧
    deeds talk = [.recorded (.batchAborted m), .flushed]

variable {h style setup} {world : σ} {ms : List Path}

theorem changes_closingTrace (n : Nat) (summary : Summary) : changes (closingTrace h style setup n summary) = [] := by
  unfold closingTrace
  rw [← changes_deeds]
  split <;> simp [Action.isDeed, Action.changesFiles]

theorem change_of_run {done rest : List Action} {a : Action}
    (ht : ((run h style setup ms).run (.start world)).2.trace = done ++ a :: rest) (ha : a.changesFiles = true) :
    ∃ i m, ms[i]? = some m ∧ Backed h setup (sessionAt h style setup world ms i)
      (sessionAt h style setup world ms (i + 1)) m done a := by
  rw [run_run] at ht
  obtain ⟨more, hwalk⟩ := change_in_front (changes_closingTrace ..) ht ha
  obtain ⟨i, stop, since, more, hi, hdone, hleft⟩ := course_action h style setup [] ms (.start world) hwalk
  obtain ⟨hm, hfound, hnext⟩ := course_sessions h style setup [] ms (.start world) hi
  have hv := course_visited h style setup [] ms (.start world) stop (List.mem_of_getElem? hi)
  obtain ⟨htarget, hruns, hfirst, hsecond⟩ := hv.change_backed hleft ha
  rw [Session.start_trace, List.nil_append] at hdone
  refine ⟨i, stop.module, hm, ?_⟩
  rw [sessionAt, sessionAt, ← hfound, ← hnext]
  refine ⟨htarget, ⟨since, hdone, hruns⟩, ⟨more, ?_⟩, hfirst, hsecond⟩
  rw [hleft, hdone, List.append_assoc, List.singleton_append]

/-- A position that is reached and has a failing call is the last one that the batch visits. -/
theorem reached_last {i : Nat} {m : Path} {call : Command × Answer} (hr : Reached h style setup world ms i)
    (hm : ms[i]? = some m)
    (hcall : call ∈ h.runs setup (sessionAt h style setup world ms i).world m) (hfail : call.2.succeeded = false) :
    ∃ passed stop e earlier, course h style setup [] ms (.start world) = passed ++ [stop] ∧ passed.length = i ∧
      (∀ stop ∈ passed, stop.visit.isAborted = false) ∧ stop.visit = .aborted e ∧
      stop.before = sessionAt h style setup world ms i ∧
      Fatal h setup m stop.before e stop.after earlier call := by
  obtain ⟨passed, last, hc, ha, hl⟩ := course_split h style setup [] ms (.start world)
  have hv := course_visited h style setup [] ms (.start world)
  -- a passed position has no failing call
  have hpassed : passed.length ≤ i := by
    refine Nat.le_of_not_lt fun hlt => ?_
    have hi : (course h style setup [] ms (.start world))[i]? = some passed[i] := by
      rw [hc, List.getElem?_append_left hlt, List.getElem?_eq_getElem hlt]
    obtain ⟨hmi, hfound, -⟩ := course_sessions h style setup [] ms (.start world) hi
    have hsucceeded := (hv _ (List.mem_of_getElem? hi)).runs_succeeded (ha _ (List.getElem_mem hlt)) call
    rw [hm, Option.some.injEq] at hmi
    rw [hfound, ← hmi] at hsucceeded
    have := hsucceeded hcall
    simp [hfail] at this
  rcases hl with ⟨rfl, hmodules⟩ | ⟨stop, rfl, hstop⟩
  · have hlt := (List.getElem?_eq_some_iff.mp hm).1
    rw [← hmodules, List.length_map] at hlt
    exact absurd hpassed (Nat.not_le_of_lt hlt)
  · obtain ⟨e, he⟩ := aborted_of_isAborted hstop
    have hk : (course h style setup [] ms (.start world))[passed.length]? = some stop := by simp [hc]
    obtain ⟨hmk, hfound, -⟩ := course_sessions h style setup [] ms (.start world) hk
    have hvisit := hv stop (List.mem_of_getElem? hk)
    rw [he] at hvisit
    obtain ⟨earlier, failing, hfatal⟩ := hvisit.fatal
    have hmem : failing ∈ h.runs setup stop.before.world stop.module := by simp [hfatal.runs]
    have hi : passed.length = i := by
      refine Nat.le_antisymm hpassed (Nat.le_of_not_lt fun hlt => ?_)
      have := hr passed.length stop.module hlt hmk failing (by rw [sessionAt, ← hfound]; exact hmem)
      simp [hfatal.call_failed] at this
    subst hi
    rw [hm, Option.some.injEq] at hmk
    subst hmk
    rw [sessionAt, ← hfound] at hcall
    obtain rfl := hfatal.call_unique hcall hfail
    exact ⟨passed, stop, e, earlier, hc, rfl, ha, he, hfound, hfatal⟩

theorem deeds_closingTrace {n : Nat} {summary : Summary} (hs : summary.isSuccess = false) :
    deeds (closingTrace h style setup n summary) = [.flushed] := by
  simp [closingTrace, hs, Action.isDeed]

theorem reached_cutOff {i : Nat} {m : Path} {call : Command × Answer} (hr : Reached h style setup world ms i)
    (hm : ms[i]? = some m)
    (hcall : call ∈ h.runs setup (sessionAt h style setup world ms i).world m) (hfail : call.2.succeeded = false) :
    CutOff h setup (sessionAt h style setup world ms i) ((run h style setup (ms.take i)).run (.start world)).1 m call
      ((run h style setup ms).run (.start world)) := by
  obtain ⟨passed, stop, e, earlier, hc, rfl, ha, he, hfound, hfatal⟩ := reached_last hr hm hcall hfail
  have hleft := walk_last h style setup [] ms (.start world) passed stop hc
  have htake : course h style setup [] (ms.take passed.length) (.start world) = passed := by
    rw [course_take, hc, List.take_left]
  have hvisits := passed_visits ha
  let before := Summary.ofVisits setup (passed.map Stop.visit)
  let summary : Summary := { before with failure := some e, status := .aborted }
  have hbefore : ((run h style setup (ms.take passed.length)).run (.start world)).1 = before := by
    rw [run_run, htake]
  have hresult : (run h style setup ms).run (.start world) =
      (summary, stop.after.after stop.after.world (closingTrace h style setup stop.after.blocks summary) 1) := by
    rw [run_run, hleft, hc, List.map_append, List.map_singleton, he, ofVisits_aborted]
  have hworld : stop.after.world = h.afterCalls stop.before.world (h.runs setup stop.before.world m) := by
    rw [hfatal.world, hfatal.runs]
  obtain ⟨since, talk, htrace, hcommands, hchanges, htalk⟩ := hfatal.trace
  rw [hresult, hbefore, ← hfound]
  exact {
    world := hworld
    files := fun view hview => by rw [Session.after_world, hworld, h.afterCalls_view view hview]
    summary := ⟨e, (setup.judge_error hfatal.judged).2.2.1, rfl⟩
    trace := by
      refine ⟨since, talk ++ closingTrace h style setup stop.after.blocks summary, ?_, ?_, hchanges, ?_⟩
      · rw [Session.after_trace, htrace, List.append_assoc, List.cons_append]
      · rw [hcommands, hfatal.runs, List.map_append, List.map_singleton]
      · rw [deeds_append, htalk, deeds_closingTrace rfl]
        rfl }

/-- A batch changes files only for a module whose two runs have succeeded, and a failed run cuts it off. -/
theorem run_abort_atomic (h : Host σ) (style : Style) (setup : Setup) (world : σ) (ms : List Path) :
    (∀ done a rest, ((run h style setup ms).run (.start world)).2.trace = done ++ a :: rest →
      a.changesFiles = true → ∃ i m, ms[i]? = some m ∧ Backed h setup (sessionAt h style setup world ms i)
        (sessionAt h style setup world ms (i + 1)) m done a) ∧
    ∀ i m call, Reached h style setup world ms i → ms[i]? = some m →
      call ∈ h.runs setup (sessionAt h style setup world ms i).world m → call.2.succeeded = false →
      CutOff h setup (sessionAt h style setup world ms i) ((run h style setup (ms.take i)).run (.start world)).1 m
        call ((run h style setup ms).run (.start world)) :=
  ⟨fun _ _ _ ht ha => change_of_run ht ha, fun _ _ _ hr hm hcall hfail => reached_cutOff hr hm hcall hfail⟩

def scriptedSetup : Setup := ⟨"cc", ["-S"], ⟨["-O0"], ["-O2"]⟩, Path.ofString "out", "ll", none, 10⟩

/-- Two sources in memory, and runs that print a line and exit with the given codes. -/
def scriptedWorld (codes : List Nat) : Memory :=
  ⟨⟨[Path.ofString "a.c", Path.ofString "b.c"], [], [], []⟩,
    codes.map fun code => .ok ⟨.exited code, Text.encode "ret\n", [], ⟨0⟩⟩⟩

def scriptedModules : List Path := [Path.ofString "gone.c", Path.ofString "a.c", Path.ofString "b.c"]

/-- The fourth run fails, so the files are those from before the second module. -/
theorem run_abort_atomic_fourth_run :
    Reached Memory.host ⟨false, false⟩ scriptedSetup (scriptedWorld [0, 0, 0, 1]) scriptedModules 2 ∧
      ((run Memory.host ⟨false, false⟩ scriptedSetup scriptedModules).run
          (.start (scriptedWorld [0, 0, 0, 1]))).2.world.store =
        (sessionAt Memory.host ⟨false, false⟩ scriptedSetup (scriptedWorld [0, 0, 0, 1]) scriptedModules
          2).world.store := by
  have hreached : Reached Memory.host ⟨false, false⟩ scriptedSetup (scriptedWorld [0, 0, 0, 1]) scriptedModules 2 := by
    intro j m hj hm
    obtain rfl | rfl : j = 0 ∨ j = 1 := by omega
    · obtain rfl := Option.some.inj hm
      decide +kernel
    · obtain rfl := Option.some.inj hm
      decide +kernel
  have hfails : ∃ call ∈ Memory.host.runs scriptedSetup
      (sessionAt Memory.host ⟨false, false⟩ scriptedSetup (scriptedWorld [0, 0, 0, 1]) scriptedModules 2).world
      (Path.ofString "b.c"), call.2.succeeded = false := by decide +kernel
  obtain ⟨call, hcall, hfail⟩ := hfails
  have hcut := (run_abort_atomic Memory.host ⟨false, false⟩ scriptedSetup (scriptedWorld [0, 0, 0, 1])
    scriptedModules).2 2 _ call hreached rfl hcall hfail
  refine ⟨hreached, hcut.files Memory.store fun w c => ?_⟩
  simp only [Memory.host, Memory.execute]
  cases w.answers <;> rfl

end PassDelta.Batch
