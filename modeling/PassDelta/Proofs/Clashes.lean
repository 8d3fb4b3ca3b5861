import PassDelta.Proofs.ArtifactPath
import PassDelta.Proofs.Contents
/-!
# Modules that share a stem

Artifacts fall on each other only when two modules share a stem, and then in the same mode. A batch knows the stems of
the modules it has found, so it warns of a module that shares one before anything is run or saved for it, and of no
other module.
-/

namespace PassDelta

def Action.warning? : Action → Option String
  | logged .warn text => some text
  | _ => none

def warnings (t : List Action) : List String := t.filterMap Action.warning?

@[simp] theorem warnings_append (t u : List Action) : warnings (t ++ u) = warnings t ++ warnings u :=
  List.filterMap_append ..

@[simp] theorem warnings_nil : warnings [] = [] := rfl

@[simp] theorem warnings_cons (a : Action) (t : List Action) :
    warnings (a :: t) = a.warning?.toList ++ warnings t := by
  cases h : a.warning? with
  | none => simp [warnings, h]
  | some text => simp [warnings, h]

variable {σ : Type} {h : Host σ} {style : Style} {setup : Setup}

/-- A console that fails is no reason to warn. -/
@[simp] theorem warnings_said (n : Nat) (text : String) : warnings (h.said n text) = [] := by
  unfold Host.said
  cases h.console n <;> rfl

namespace Batch

/-- The warning that a module is about to overwrite the artifacts of another one. -/
def clashWarning (m : Path) : String :=
  m.display ++ " shares the stem '" ++ m.stem ++ "' with an earlier module, overwriting its artifacts"

def missingWarning (m : Path) : String := m.display ++ " not found, skipping"

section Traces
variable (n : Nat) (m : Path)

theorem warnings_openingTrace (stems : List String) :
    warnings (openingTrace h style n stems m) = if m.stem ∈ stems then [clashWarning m] else [] := by
  unfold openingTrace
  by_cases hm : m.stem ∈ stems
  · have hc : stems.contains m.stem = true := List.contains_iff_mem.mpr hm
    simp [hm, Action.warning?, clashWarning]
  · have hc : stems.contains m.stem = false := by simpa using hm
    simp [hm, Action.warning?]

@[simp] theorem warnings_compileTrace (mode : Mode) (r : Except InvocationError Capture) :
    warnings (compileTrace h setup n m mode r) = [] := by
  cases r <;> simp [compileTrace, invokeTrace, Action.warning?]

@[simp] theorem warnings_abortTrace (e : InvocationError) : warnings (abortTrace m e) = [] := rfl

@[simp] theorem warnings_skipTrace : warnings (skipTrace h style n m) = [missingWarning m] := by
  simp [skipTrace, Action.warning?, missingWarning]

@[simp] theorem warnings_saveTrace (dir : Path) (extension stem : String) (mode : Mode) (contents : Bytes)
    (loss : Option ArtifactError) : warnings (saveTrace dir extension stem mode contents loss) = [] := by
  rcases loss with _ | ⟨step, path, source⟩
  · rfl
  · cases step <;> rfl

@[simp] theorem warnings_persistTrace (c : Capture) (loss : Option ArtifactError) :
    warnings (persistTrace h style setup n c loss) = loss.toList.map ArtifactError.message := by
  cases loss <;> simp [persistTrace, Action.warning?]

@[simp] theorem warnings_reportTrace (c : Comparison) : warnings (reportTrace h style setup n c) = [] := by
  simp [reportTrace, Action.warning?]

@[simp] theorem warnings_closingTrace (summary : Summary) : warnings (closingTrace h style setup n summary) = [] := by
  unfold closingTrace
  split <;> simp [Action.warning?]

end Traces

section Visit
variable {stems : List String} {m : Path} {s t : Session σ} {v : Visit}

/-- A visit to a module that is there opens without a run or a save. What it warns of after that is what was lost. -/
theorem Visited.opened (hv : Visited h style setup stems m s v t) (present : h.isPresent s.world m = true) :
    ∃ rest, t.trace = s.trace ++ openingTrace h style s.blocks stems m ++ rest ∧
      warnings rest = v.failures.map fun f => f.error.message := by
  cases hv with
  | skipped absent => simp [absent] at present
  | @failedFirst e present first =>
    refine ⟨compileTrace h setup (s.blocks + 1) m .unoptimized (.error e) ++ abortTrace m e, ?_, ?_⟩
    · simp only [Session.after_trace, List.append_assoc]
    · simp [Visit.failures]
  | @failedSecond c e present first second =>
    refine ⟨compileTrace h setup (s.blocks + 1) m .unoptimized (.ok c) ++
      compileTrace h setup (s.blocks + 1 + 1) m .optimized (.error e) ++ abortTrace m e, ?_, ?_⟩
    · simp only [Session.after_trace, List.append_assoc]
    · simp [Visit.failures]
  | @compared c₁ c₂ l₁ l₂ w₁ w₂ present first second kept₁ kept₂ =>
    refine ⟨compileTrace h setup (s.blocks + 1) m .unoptimized (.ok c₁) ++
      compileTrace h setup (s.blocks + 1 + 1) m .optimized (.ok c₂) ++
      persistTrace h style setup (s.blocks + 1 + 2) c₁ l₁ ++
      persistTrace h style setup (s.blocks + 1 + 2 + l₁.toList.length) c₂ l₂ ++
      reportTrace h style setup (s.blocks + 1 + 2 + l₁.toList.length + l₂.toList.length)
        ⟨m, ⟨c₁, c₂⟩, ⟨l₁, l₂⟩⟩, ?_, ?_⟩
    · simp only [Session.after_trace, List.append_assoc]
    · cases l₁ <;> cases l₂ <;> simp [Visit.failures, Comparison.failures, PerMode.toList]

/-- A module that is not there is warned of once. -/
theorem Visited.missing (hv : Visited h style setup stems m s v t) (absent : h.isPresent s.world m = false) :
    ∃ part, t.trace = s.trace ++ part ∧ warnings part = [missingWarning m] := by
  cases hv with
  | skipped absent => exact ⟨_, rfl, warnings_skipTrace ..⟩
  | failedFirst present first => simp [absent] at present
  | failedSecond present first second => simp [absent] at present
  | compared present first second kept₁ kept₂ => simp [absent] at present

theorem Visited.present_of_change (hv : Visited h style setup stems m s v t) {since rest : List Action} {a : Action}
    (ht : t.trace = s.trace ++ since ++ a :: rest) (ha : a.changesFiles = true) : h.isPresent s.world m = true := by
  cases hv with
  | skipped absent =>
    have hnone : changes (skipTrace h style s.blocks m) = [] := by
      rw [← changes_deeds, deeds_skipTrace]
      rfl
    rw [Session.after_trace, List.append_assoc, List.append_cancel_left_eq] at ht
    simp [ht, ha] at hnone
  | failedFirst present first => exact present
  | failedSecond present first second => exact present
  | compared present first second kept₁ kept₂ => exact present

theorem Visited.mem_nextStems (hv : Visited h style setup stems m s v t) (ha : v.isAborted = false) (x : String) :
    x ∈ (Stop.mk stems m s v t).nextStems ↔ x ∈ stems ∨ h.isPresent s.world m = true ∧ m.stem = x := by
  cases hv with
  | skipped absent => simp [Stop.nextStems, absent]
  | failedFirst present first => simp [Visit.isAborted] at ha
  | failedSecond present first second => simp [Visit.isAborted] at ha
  | compared present first second kept₁ kept₂ =>
    simp only [Stop.nextStems, List.mem_cons, present, true_and]
    rw [or_comm, @eq_comm _ x]

end Visit

variable (h style setup) in
/-- The stems that a stop knows of are those of the modules found at the stops before it. -/
theorem course_stems (stems : List String) (ms : List Path) (s : Session σ) {j : Nat} {stop : Stop σ}
    (hj : (course h style setup stems ms s)[j]? = some stop) (x : String) :
    x ∈ stop.stems ↔ x ∈ stems ∨ ∃ i earlier, i < j ∧ (course h style setup stems ms s)[i]? = some earlier ∧
      h.isPresent earlier.before.world earlier.module = true ∧ earlier.module.stem = x := by
  induction ms generalizing stems s j with
  | nil => simp [course] at hj
  | cons m rest ih =>
    cases j with
    | zero =>
      obtain rfl := Option.some.inj hj
      simp [stopAt]
    | succ j =>
      by_cases ha : (stopAt h style setup stems m s).visit.isAborted = true
      · simp [course, ha] at hj
      · rw [Bool.not_eq_true] at ha
        have hcourse : course h style setup stems (m :: rest) s = stopAt h style setup stems m s ::
            course h style setup (stopAt h style setup stems m s).nextStems rest (stopAt h style setup stems m s).after := by
          simp [course, ha]
        rw [hcourse, List.getElem?_cons_succ] at hj
        have hfirst : x ∈ (stopAt h style setup stems m s).nextStems ↔
            x ∈ stems ∨ h.isPresent s.world m = true ∧ m.stem = x :=
          (visit_visited h style setup stems m s).mem_nextStems ha x
        rw [hcourse, ih _ _ hj, hfirst, or_assoc]
        refine or_congr Iff.rfl ⟨?_, ?_⟩
        · rintro (⟨hpresent, hstem⟩ | ⟨i, earlier, hi, hearlier, hfound⟩)
          · exact ⟨0, _, Nat.succ_pos j, rfl, hpresent, hstem⟩
          · exact ⟨i + 1, earlier, Nat.succ_lt_succ hi, hearlier, hfound⟩
        · rintro ⟨i, earlier, hi, hearlier, hfound⟩
          cases i with
          | zero =>
            obtain rfl := Option.some.inj hearlier
            exact .inl hfound
          | succ i => exact .inr ⟨i, earlier, Nat.lt_of_succ_lt_succ hi, hearlier, hfound⟩

variable (h style setup) in
/-- A module that was found at a position before `j` has the stem of `m`. -/
def Clashes (world : σ) (ms : List Path) (j : Nat) (m : Path) : Prop :=
  ∃ i n, i < j ∧ ms[i]? = some n ∧ h.isPresent (sessionAt h style setup world ms i).world n = true ∧ n.stem = m.stem

theorem clashes_iff {world : σ} {ms : List Path} {j : Nat} {stop : Stop σ}
    (hj : (course h style setup [] ms (.start world))[j]? = some stop) :
    stop.module.stem ∈ stop.stems ↔ Clashes h style setup world ms j stop.module := by
  rw [course_stems h style setup [] ms (.start world) hj]
  constructor
  · rintro (hnone | ⟨i, earlier, hi, hearlier, hpresent, hstem⟩)
    · simp at hnone
    · obtain ⟨hm, hfound, -⟩ := course_sessions h style setup [] ms (.start world) hearlier
      exact ⟨i, earlier.module, hi, hm, by rw [sessionAt, ← hfound]; exact hpresent, hstem⟩
  · rintro ⟨i, n, hi, hn, hpresent, hstem⟩
    have hlt : i < (course h style setup [] ms (.start world)).length :=
      Nat.lt_trans hi (List.getElem?_eq_some_iff.mp hj).1
    have hearlier := List.getElem?_eq_getElem hlt
    obtain ⟨hm, hfound, -⟩ := course_sessions h style setup [] ms (.start world) hearlier
    obtain rfl := Option.some.inj (hn.symm.trans hm)
    rw [sessionAt, ← hfound] at hpresent
    exact .inr ⟨i, _, hi, hearlier, hpresent, hstem⟩

variable (h style setup) in
/-- How a batch from `world` over `ms` looks after its artifacts: only equal stems in equal modes make equal paths; a
module found behind another one of its stem is warned of, once and before anything is run or saved for it, and so
before any of its saves falls on an earlier one; and there is no other warning than of what is missing or lost. -/
structure WarnsOfClashes (world : σ) (ms : List Path) (result : Summary × Session σ) : Prop where
  paths : ∀ (m n : Path) (M N : Mode), artifactPath setup.outputDir m.stem M setup.extension =
    artifactPath setup.outputDir n.stem N setup.extension ↔ M = N ∧ m.stem = n.stem
  found : ∀ j m, j < visitCount result.1 → ms[j]? = some m →
    h.isPresent (sessionAt h style setup world ms j).world m = true →
    ∃ (opening rest : List Action) (lost : List ArtifactFailure), (sessionAt h style setup world ms (j + 1)).trace =
        (sessionAt h style setup world ms j).trace ++ opening ++ rest ∧
      changes opening = [] ∧ commands opening = [] ∧
      (Clashes h style setup world ms j m → warnings opening = [clashWarning m]) ∧
      (¬Clashes h style setup world ms j m → warnings opening = []) ∧
      warnings rest = (lost.map fun f => f.error.message) ∧ ∀ f ∈ lost, f ∈ result.1.artifactFailures
  missing : ∀ j m, j < visitCount result.1 → ms[j]? = some m →
    h.isPresent (sessionAt h style setup world ms j).world m = false →
    ∃ part, (sessionAt h style setup world ms (j + 1)).trace =
      (sessionAt h style setup world ms j).trace ++ part ∧ warnings part = [missingWarning m]
  closing : ∃ part, result.2.trace = (sessionAt h style setup world ms (visitCount result.1)).trace ++ part ∧
    warnings part = []
  overwritten : ∀ j m since p size earlier rest, j < visitCount result.1 → ms[j]? = some m →
    (sessionAt h style setup world ms (j + 1)).trace =
      (sessionAt h style setup world ms j).trace ++ since ++ .wrote p size :: rest →
    .wrote p earlier ∈ (sessionAt h style setup world ms j).trace → clashWarning m ∈ warnings since

/-- What a batch has written before it comes to a position was written for a module that it found earlier. -/
theorem wrote_earlier {world : σ} {ms : List Path} {j : Nat} {p : Path} {size : Nat}
    (hw : .wrote p size ∈ (sessionAt h style setup world ms j).trace) :
    ∃ i n mode, i < j ∧ ms[i]? = some n ∧ h.isPresent (sessionAt h style setup world ms i).world n = true ∧
      p = artifactPath setup.outputDir n.stem mode setup.extension := by
  obtain ⟨done, rest, ht⟩ := List.append_of_mem hw
  obtain ⟨i, stop, since, more, hi, -, hstop⟩ := course_action h style setup [] (ms.take j) (.start world) ht
  rw [course_take, List.getElem?_take] at hi
  split at hi
  · next hlt =>
    have hv := course_visited h style setup [] ms (.start world) stop (List.mem_of_getElem? hi)
    obtain ⟨hm, hfound, -⟩ := course_sessions h style setup [] ms (.start world) hi
    have hpresent := hv.present_of_change hstop rfl
    rw [hfound] at hpresent
    rcases (hv.change_backed hstop rfl).1 with hmade | ⟨mode, n, hwrote⟩
    · simp at hmade
    · obtain ⟨rfl, -⟩ := Action.wrote.inj hwrote
      exact ⟨i, stop.module, mode, hlt, hm, hpresent, rfl⟩
  · simp at hi

/-- A batch warns of every module whose artifacts fall on those of an earlier one, before they do, and of no other. -/
theorem run_warns_of_clashes (h : Host σ) (style : Style) (setup : Setup) (world : σ) (ms : List Path) :
    WarnsOfClashes h style setup world ms ((run h style setup ms).run (.start world)) := by
  have hpaths (m n : Path) (M N : Mode) := artifactPath_inj M N setup.outputDir setup.extension
    (Path.slash_not_mem_stem m) (Path.slash_not_mem_stem n)
  have hopening (stop : Stop σ) : changes (openingTrace h style stop.before.blocks stop.stems stop.module) = [] ∧
      commands (openingTrace h style stop.before.blocks stop.stems stop.module) = [] :=
    ⟨changes_openingTrace .., commands_openingTrace ..⟩
  exact {
    paths := fun m n M N => (hpaths m n M N).trans and_comm
    found := by
      intro j m hj hm hpresent
      obtain ⟨stop, hstop, rfl, hbefore, hafter, hv⟩ := exists_stop hj hm
      rw [← hbefore] at hpresent
      obtain ⟨rest, htrace, hlost⟩ := hv.opened hpresent
      refine ⟨_, rest, stop.visit.failures, by rw [← hbefore, ← hafter]; exact htrace, (hopening stop).1,
        (hopening stop).2, ?_, ?_, hlost, ?_⟩
      · intro hclash
        rw [warnings_openingTrace, if_pos ((clashes_iff hstop).mpr hclash)]
      · intro hclash
        rw [warnings_openingTrace, if_neg fun hmem => hclash ((clashes_iff hstop).mp hmem)]
      · intro f hf
        rw [run_run, Summary.artifactFailures_ofVisits]
        exact List.mem_flatMap.mpr ⟨stop.visit, List.mem_map_of_mem (List.mem_of_getElem? hstop), hf⟩
    missing := by
      intro j m hj hm habsent
      obtain ⟨stop, hstop, rfl, hbefore, hafter, hv⟩ := exists_stop hj hm
      rw [← hbefore] at habsent
      rw [← hbefore, ← hafter]
      exact hv.missing habsent
    closing := by
      have hwalk := walk_take_course h style setup [] ms (.start world)
      rw [run_run]
      dsimp only
      rw [course_count, sessionAt, hwalk, Session.after_trace]
      exact ⟨_, rfl, warnings_closingTrace ..⟩
    overwritten := by
      intro j m since p size earlier rest hj hm htrace hearlier
      obtain ⟨stop, hstop, rfl, hbefore, hafter, hv⟩ := exists_stop hj hm
      obtain ⟨i, n, mode, hi, hn, hfound, hp⟩ := wrote_earlier hearlier
      rw [← hbefore, ← hafter] at htrace
      have hpresent := hv.present_of_change htrace rfl
      have hclash : Clashes h style setup world ms j stop.module := by
        rcases (hv.change_backed htrace rfl).1 with hmade | ⟨mode', size', hwrote⟩
        · simp at hmade
        · obtain ⟨rfl, -⟩ := Action.wrote.inj hwrote
          exact ⟨i, n, hi, hn, hfound, ((hpaths _ _ _ _).mp hp).1.symm⟩
      obtain ⟨later, hopened, -⟩ := hv.opened hpresent
      rw [htrace, List.append_assoc, List.append_assoc, List.append_cancel_left_eq] at hopened
      -- nothing is written while a visit opens, so the write comes after the opening
      obtain ⟨more, hsince⟩ := change_behind (hopening stop).1 hopened.symm rfl
      rw [hsince, warnings_append, warnings_openingTrace, if_pos ((clashes_iff hstop).mpr hclash)]
      exact List.mem_append_left _ List.mem_cons_self }

/-- The warning for the second of two modules of one stem, before anything of it is changed. -/
theorem run_warns_of_clashes_shared_stem :
    ∃ opening rest, (sessionAt Memory.host ⟨false, false⟩ scriptedSetup sharedStemWorld
        [Path.ofString "x/a.c", Path.ofString "y/a.c"] 2).trace =
      (sessionAt Memory.host ⟨false, false⟩ scriptedSetup sharedStemWorld
        [Path.ofString "x/a.c", Path.ofString "y/a.c"] 1).trace ++ opening ++ rest ∧ changes opening = [] ∧
      warnings opening = ["y/a.c shares the stem 'a' with an earlier module, overwriting its artifacts"] := by
  have hclash : Clashes Memory.host ⟨false, false⟩ scriptedSetup sharedStemWorld
      [Path.ofString "x/a.c", Path.ofString "y/a.c"] 1 (Path.ofString "y/a.c") :=
    ⟨0, Path.ofString "x/a.c", by decide, rfl, by decide +kernel, by decide +kernel⟩
  obtain ⟨opening, rest, _, htrace, hchanges, -, hwarned, -⟩ := (run_warns_of_clashes Memory.host ⟨false, false⟩
    scriptedSetup sharedStemWorld [Path.ofString "x/a.c", Path.ofString "y/a.c"]).found 1 (Path.ofString "y/a.c")
      (by decide +kernel) rfl (by decide +kernel)
  refine ⟨opening, rest, htrace, hchanges, ?_⟩
  rw [hwarned hclash]
  decide +kernel

end Batch
end PassDelta
