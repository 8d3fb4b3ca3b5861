import PassDelta.Proofs.Visit
/-!
# The runs of a visit

A visit runs the compiler at most twice and stops at the first answer that is no success. Files are changed only
after both runs; a visit that aborts has changed none, and the failing run is the last thing it does.
-/

namespace PassDelta

variable {σ : Type} {h : Host σ} {style : Style} {setup : Setup}

section Runs
variable (h setup)

/-- The runs made for a module found in the world `w`, each with its answer. -/
def Host.runs (w : σ) (m : Path) : List (Command × Answer) :=
  let first := (h.command setup m .unoptimized, (h.reply setup w m .unoptimized).1)
  let second := (h.command setup m .optimized, (h.reply setup w m .optimized).1)
  if h.isPresent w m then
    if first.2.succeeded then [first, second] else [first]
  else []

variable {h setup} in
theorem Host.mem_runs {w : σ} {m : Path} {call : Command × Answer} (hcall : call ∈ h.runs setup w m) :
    ∃ mode v, call = (h.command setup m mode, (h.execute v (h.command setup m mode)).1) := by
  unfold runs at hcall
  dsimp only at hcall
  split at hcall
  · have hcalls : call = (h.command setup m .unoptimized, (h.reply setup w m .unoptimized).1) ∨
        call = (h.command setup m .optimized, (h.reply setup w m .optimized).1) := by
      split at hcall
      · simpa using hcall
      · exact .inl (List.mem_singleton.mp hcall)
    exact hcalls.elim (⟨.unoptimized, _, ·⟩) (⟨.optimized, _, ·⟩)
  · cases hcall

def Host.afterCalls (w : σ) (calls : List (Command × Answer)) : σ :=
  calls.foldl (fun w call => (h.execute w call.1).2) w

/-- What a run leaves alone is left alone by any number of calls. -/
theorem Host.afterCalls_view {φ : Type} (view : σ → φ) (hview : ∀ w c, view (h.execute w c).2 = view w) (w : σ)
    (calls : List (Command × Answer)) : view (h.afterCalls w calls) = view w := by
  induction calls generalizing w with
  | nil => rfl
  | cons call calls ih => exact (ih _).trans (hview _ _)

end Runs

namespace Batch

section Traces
variable {stems : List String}

@[simp] theorem commands_persistTrace (n : Nat) (c : Capture) (loss : Option ArtifactError) :
    commands (persistTrace h style setup n c loss) = [] := by
  have hsave : ∀ dir extension stem mode contents, commands (saveTrace dir extension stem mode contents loss) = [] := by
    intro dir extension stem mode contents
    rcases loss with _ | ⟨step, path, source⟩
    · rfl
    · cases step <;> rfl
  rw [← commands_deeds, deeds_persistTrace, commands_append, commands_deeds, hsave]
  cases loss <;> rfl

@[simp] theorem commands_compileTrace (n : Nat) (m : Path) (mode : Mode) (r : Except InvocationError Capture) :
    commands (compileTrace h setup n m mode r) = [h.command setup m mode] := by
  cases r with
  | ok c => rw [← commands_deeds, deeds_compileTrace_ok]; rfl
  | error e =>
    obtain ⟨talk, htalk, hdeeds⟩ := compileTrace_error h setup n m mode e
    rw [htalk, commands_append, ← commands_deeds talk, hdeeds]
    rfl

@[simp] theorem changes_compileTrace (n : Nat) (m : Path) (mode : Mode) (r : Except InvocationError Capture) :
    changes (compileTrace h setup n m mode r) = [] := by
  cases r with
  | ok c => rw [← changes_deeds, deeds_compileTrace_ok]; rfl
  | error e =>
    obtain ⟨talk, htalk, hdeeds⟩ := compileTrace_error h setup n m mode e
    rw [htalk, changes_append, ← changes_deeds talk, hdeeds]
    rfl

@[simp] theorem changes_openingTrace (n : Nat) (m : Path) : changes (openingTrace h style n stems m) = [] := by
  rw [← changes_deeds, deeds_openingTrace]
  rfl

@[simp] theorem commands_openingTrace (n : Nat) (m : Path) : commands (openingTrace h style n stems m) = [] := by
  rw [← commands_deeds, deeds_openingTrace]
  rfl

@[simp] theorem commands_reportTrace (n : Nat) (c : Comparison) : commands (reportTrace h style setup n c) = [] := by
  rw [← commands_deeds, deeds_reportTrace]
  rfl

@[simp] theorem changes_reportTrace (n : Nat) (c : Comparison) : changes (reportTrace h style setup n c) = [] := by
  rw [← changes_deeds, deeds_reportTrace]
  rfl

theorem changes_saveTrace {dir : Path} {extension stem : String} {mode : Mode} {contents : Bytes}
    {loss : Option ArtifactError} {a : Action}
    (ha : a ∈ changes (saveTrace dir extension stem mode contents loss)) :
    a = .madeDir dir ∨ ∃ size, a = .wrote (artifactPath dir stem mode extension) size := by
  rcases loss with _ | ⟨step, path, source⟩
  · have hmade : a = .madeDir dir ∨ a = .wrote (artifactPath dir stem mode extension) contents.length := by
      simpa [saveTrace, Action.changesFiles] using ha
    exact hmade.imp_right fun hw => ⟨_, hw⟩
  · cases step with
    | createDir => exact .inl (by simpa [saveTrace, Action.changesFiles] using ha)
    | write =>
      have hmade : a = .madeDir dir ∨ a = .wrote (artifactPath dir stem mode extension) contents.length := by
        simpa [saveTrace, Action.changesFiles] using ha
      exact hmade.imp_right fun hw => ⟨_, hw⟩

theorem changes_persistTrace {n : Nat} {c : Capture} {loss : Option ArtifactError} {a : Action}
    (ha : a ∈ changes (persistTrace h style setup n c loss)) : a = .madeDir setup.outputDir ∨
      ∃ size, a = .wrote (artifactPath setup.outputDir c.module.stem c.mode setup.extension) size := by
  rw [← changes_deeds, deeds_persistTrace, changes_append, changes_deeds, List.mem_append] at ha
  rcases ha with ha | ha
  · exact changes_saveTrace ha
  · cases loss <;> simp [Action.changesFiles] at ha

end Traces

section Visit
variable {stems : List String} {m : Path} {s t : Session σ} {v : Visit} {e : InvocationError}

theorem Visited.runs_succeeded (hv : Visited h style setup stems m s v t) (ha : v.isAborted = false) :
    ∀ call ∈ h.runs setup s.world m, call.2.succeeded = true := by
  cases hv with
  | skipped absent => simp [Host.runs, absent]
  | failedFirst present first => simp [Visit.isAborted] at ha
  | failedSecond present first second => simp [Visit.isAborted] at ha
  | compared present first second kept₁ kept₂ =>
    simp [Host.runs, present, setup.judge_succeeded first, setup.judge_succeeded second]

variable (h style setup) in
/-- How a visit to `m` from session `s` aborts: after earlier runs that succeeded the call fails. Before it no file
has been changed, after it only the news is told, and the error is what the answer to the call means. -/
structure Fatal (m : Path) (s : Session σ) (e : InvocationError) (t : Session σ) (earlier : List (Command × Answer))
    (call : Command × Answer) : Prop where
  runs : h.runs setup s.world m = earlier ++ [call]
  earlier_succeeded : ∀ c ∈ earlier, c.2.succeeded = true
  call_failed : call.2.succeeded = false
  command : call.1 = h.command setup m e.mode
  judged : setup.judge m e.mode call.2 = .error e
  step : earlier.length + 1 = e.mode.step
  trace : ∃ since talk, t.trace = s.trace ++ since ++ .ran call.1 :: talk ∧ commands since = earlier.map Prod.fst ∧
    changes since = [] ∧ deeds talk = [.recorded (.batchAborted m)]
  world : t.world = h.afterCalls s.world (earlier ++ [call])

theorem Fatal.call_unique {earlier : List (Command × Answer)} {call failing : Command × Answer}
    (hf : Fatal h setup m s e t earlier call) (hmem : failing ∈ h.runs setup s.world m)
    (hfailing : failing.2.succeeded = false) : failing = call := by
  rw [hf.runs, List.mem_append, List.mem_singleton] at hmem
  rcases hmem with hmem | hmem
  · simp [hf.earlier_succeeded failing hmem] at hfailing
  · exact hmem

/-- What a visit that aborts its batch leaves, by the run that failed. -/
theorem Visited.fatal (hv : Visited h style setup stems m s (.aborted e) t) :
    ∃ earlier call, Fatal h setup m s e t earlier call := by
  cases hv with
  | failedFirst present first =>
    obtain ⟨hfail, -, -, hmode⟩ := setup.judge_error first
    obtain ⟨talk, htalk, hdeeds⟩ := compileTrace_error h setup (s.blocks + 1) m .unoptimized e
    refine ⟨[], (h.command setup m .unoptimized, (h.reply setup s.world m .unoptimized).1), ?_⟩
    exact {
      runs := by simp [Host.runs, present, hfail]
      earlier_succeeded := by simp
      call_failed := hfail
      command := by rw [hmode]
      judged := by rw [hmode]; exact first
      step := by rw [hmode]; rfl
      trace := by
        refine ⟨openingTrace h style s.blocks stems m ++ talk, abortTrace m e, ?_, ?_, ?_, ?_⟩
        · simp [htalk]
        · simp [← commands_deeds talk, hdeeds]
        · simp [← changes_deeds talk, hdeeds]
        · simp
      world := rfl }
  | @failedSecond c e present first second =>
    obtain ⟨hfail, -, -, hmode⟩ := setup.judge_error second
    have hfirst := setup.judge_succeeded first
    obtain ⟨talk, htalk, hdeeds⟩ := compileTrace_error h setup (s.blocks + 1 + 1) m .optimized e
    refine ⟨[(h.command setup m .unoptimized, (h.reply setup s.world m .unoptimized).1)],
      (h.command setup m .optimized, (h.reply setup s.world m .optimized).1), ?_⟩
    exact {
      runs := by simp [Host.runs, present, hfirst]
      earlier_succeeded := by simp [hfirst]
      call_failed := hfail
      command := by rw [hmode]
      judged := by rw [hmode]; exact second
      step := by rw [hmode]; rfl
      trace := by
        refine ⟨openingTrace h style s.blocks stems m ++
          compileTrace h setup (s.blocks + 1) m .unoptimized (.ok c) ++ talk, abortTrace m e, ?_, ?_, ?_, ?_⟩
        · simp [htalk]
        · simp [← commands_deeds talk, hdeeds]
        · simp [← changes_deeds talk, hdeeds]
        · simp
      world := rfl }

theorem Visited.commands_trace (hv : Visited h style setup stems m s v t) :
    commands t.trace = commands s.trace ++ (h.runs setup s.world m).map Prod.fst := by
  cases hv with
  | skipped absent =>
    rw [Session.after_trace, commands_append, ← commands_deeds (skipTrace ..)]
    simp [Host.runs, absent, Action.command?]
  | failedFirst present first =>
    obtain ⟨hfail, -⟩ := setup.judge_error first
    simp [Host.runs, present, hfail, abortTrace, Action.command?]
  | failedSecond present first second =>
    simp [Host.runs, present, setup.judge_succeeded first, abortTrace, Action.command?]
  | compared present first second kept₁ kept₂ =>
    simp [Host.runs, present, setup.judge_succeeded first]

/-- In a trace whose first part changes no file and whose second part runs nothing, the commands before a change
are those of the first part. -/
theorem commands_before_change {front back since rest : List Action} {a : Action} (hfront : changes front = [])
    (hback : commands back = []) (ht : front ++ back = since ++ a :: rest) (ha : a.changesFiles = true) :
    commands since = commands front := by
  rcases List.append_eq_append_iff.mp ht with ⟨more, rfl, hmore⟩ | ⟨more, rfl, hmore⟩
  · rw [hmore, commands_append, List.append_eq_nil_iff] at hback
    rw [commands_append, hback.1, List.append_nil]
  · cases more with
    | nil => rw [List.append_nil]
    | cons b more =>
      obtain ⟨rfl, -⟩ := List.cons_eq_cons.mp hmore
      simp [ha] at hfront

/-- A change in a trace whose second part changes no file lies in the first part. -/
theorem change_in_front {front back done rest : List Action} {a : Action} (hback : changes back = [])
    (ht : front ++ back = done ++ a :: rest) (ha : a.changesFiles = true) : ∃ more, front = done ++ a :: more := by
  have hnot (before : List Action) : back ≠ before ++ a :: rest := by
    intro hb
    simp [hb, ha] at hback
  rcases List.append_eq_append_iff.mp ht with ⟨before, -, hb⟩ | ⟨more, hfront, hmore⟩
  · exact absurd hb (hnot before)
  · cases more with
    | nil => exact absurd hmore.symm (hnot [])
    | cons b more =>
      obtain ⟨rfl, -⟩ := List.cons_eq_cons.mp hmore
      exact ⟨more, hfront⟩

/-- A change in a trace whose first part changes no file comes behind that part. -/
theorem change_behind {front back since rest : List Action} {a : Action} (hfront : changes front = [])
    (ht : front ++ back = since ++ a :: rest) (ha : a.changesFiles = true) : ∃ more, since = front ++ more := by
  rcases List.append_eq_append_iff.mp ht with ⟨more, rfl, -⟩ | ⟨more, rfl, hmore⟩
  · exact ⟨more, rfl⟩
  · cases more with
    | nil => exact ⟨[], by simp⟩
    | cons b more =>
      obtain ⟨rfl, -⟩ := List.cons_eq_cons.mp hmore
      simp [ha] at hfront

/-- A change asked for in a visit comes after both runs, and both have succeeded. -/
theorem Visited.change_backed (hv : Visited h style setup stems m s v t) {since rest : List Action} {a : Action}
    (ht : t.trace = s.trace ++ since ++ a :: rest) (ha : a.changesFiles = true) :
    (a = .madeDir setup.outputDir ∨
        ∃ mode n, a = .wrote (artifactPath setup.outputDir m.stem mode setup.extension) n) ∧
      commands since = [h.command setup m .unoptimized, h.command setup m .optimized] ∧
      (h.reply setup s.world m .unoptimized).1.succeeded = true ∧
      (h.reply setup s.world m .optimized).1.succeeded = true := by
  have hchange : a ∈ changes (since ++ a :: rest) := by simp [ha]
  cases hv with
  | skipped absent =>
    rw [Session.after_trace, List.append_assoc, List.append_cancel_left_eq] at ht
    rw [← ht, ← changes_deeds] at hchange
    simp [Action.changesFiles] at hchange
  | failedFirst present first =>
    rw [Session.after_trace, List.append_assoc s.trace, List.append_cancel_left_eq] at ht
    simp [← ht, abortTrace, Action.changesFiles] at hchange
  | failedSecond present first second =>
    rw [Session.after_trace, List.append_assoc s.trace, List.append_cancel_left_eq] at ht
    simp [← ht, abortTrace, Action.changesFiles] at hchange
  | @compared c₁ c₂ l₁ l₂ w₁ w₂ present first second kept₁ kept₂ =>
    have hm₁ := (setup.judge_names first).1
    have hm₂ := (setup.judge_names second).1
    rw [Session.after_trace, List.append_assoc s.trace, List.append_cancel_left_eq] at ht
    refine ⟨?_, ?_, setup.judge_succeeded first, setup.judge_succeeded second⟩
    · simp only [← ht, changes_append, changes_openingTrace, changes_compileTrace, changes_reportTrace,
        List.nil_append, List.append_nil, List.mem_append] at hchange
      rcases hchange with hchange | hchange
      · rcases changes_persistTrace hchange with hmade | ⟨size, hwrote⟩
        · exact .inl hmade
        · exact .inr ⟨c₁.mode, size, hm₁ ▸ hwrote⟩
      · rcases changes_persistTrace hchange with hmade | ⟨size, hwrote⟩
        · exact .inl hmade
        · exact .inr ⟨c₂.mode, size, hm₂ ▸ hwrote⟩
    · let front := openingTrace h style s.blocks stems m ++
        compileTrace h setup (s.blocks + 1) m .unoptimized (.ok c₁) ++
        compileTrace h setup (s.blocks + 1 + 1) m .optimized (.ok c₂)
      have hfront : changes front = [] := by simp [front]
      have hcommands : commands front = [h.command setup m .unoptimized, h.command setup m .optimized] := by
        simp [front]
      rw [← hcommands]
      simp only [List.append_assoc] at ht
      refine commands_before_change hfront ?_ (by simpa only [front, List.append_assoc] using ht) ha
      simp

end Visit
end Batch
end PassDelta
