import PassDelta.Proofs.Clashes
import PassDelta.Proofs.Calls
/-!
# The script of a batch

What a batch does is a matter of the world it runs in. What becomes of a module is a function of the world it is
visited in, and all that is done and said is a list of lines, from which the console only makes the trace. Stems that
were seen before have a part in the warnings and in nothing else.
-/

namespace PassDelta

variable {σ : Type} (h : Host σ) (style : Style) (setup : Setup)

def Action.isRequest : Action → Bool
  | asked _ => true
  | madeDir _ => true
  | fetched _ => true
  | wrote .. => true
  | ran _ => true
  | _ => false

/-- What is asked of the host, in order: questions, changes of files and directories, and runs. -/
def requests (t : List Action) : List Action := t.filter Action.isRequest

@[simp] theorem requests_append (t u : List Action) : requests (t ++ u) = requests t ++ requests u :=
  List.filter_append ..

/-- Talk asks nothing of the host, so the deeds tell all requests. -/
theorem requests_deeds (t : List Action) : requests (deeds t) = requests t := by
  rw [requests, deeds, List.filter_filter]
  congr 1
  funext a
  cases a <;> rfl

theorem commands_requests (t : List Action) : commands (requests t) = commands t := by
  rw [commands, requests, List.filterMap_filter]
  congr 1
  funext a
  cases a <;> rfl

/-- A line of a script: something done, or a block of text for the console. -/
inductive Line where
  | act (a : Action)
  | block (text : String)
  deriving DecidableEq, Repr

namespace Line

def act? : Line → Option Action
  | act a => some a
  | block _ => none

def isBlock : Line → Bool
  | act _ => false
  | block _ => true

def acts (lines : List Line) : List Action := lines.filterMap act?

def blocks (lines : List Line) : Nat := lines.countP isBlock

@[simp] theorem acts_nil : acts [] = [] := rfl

@[simp] theorem acts_act (a : Action) (t : List Line) : acts (.act a :: t) = a :: acts t := rfl

@[simp] theorem acts_block (text : String) (t : List Line) : acts (.block text :: t) = acts t := rfl

@[simp] theorem acts_append (t u : List Line) : acts (t ++ u) = acts t ++ acts u := List.filterMap_append ..

@[simp] theorem acts_map_act (t : List Action) : acts (t.map .act) = t := by
  rw [acts, List.filterMap_map]
  exact List.filterMap_some

@[simp] theorem blocks_act (a : Action) (t : List Line) : blocks (.act a :: t) = blocks t := rfl

@[simp] theorem blocks_block (text : String) (t : List Line) : blocks (.block text :: t) = blocks t + 1 :=
  List.countP_cons_of_pos rfl

@[simp] theorem blocks_append (t u : List Line) : blocks (t ++ u) = blocks t + blocks u := List.countP_append

@[simp] theorem blocks_map_act (t : List Action) : blocks (t.map .act) = 0 := by
  rw [blocks, List.countP_map]
  exact List.countP_eq_zero.mpr fun a _ => by simp [isBlock]

end Line

open Line

namespace Host

def tell : Nat → List Line → List Action
  | _, [] => []
  | n, .act a :: rest => a :: tell n rest
  | n, .block text :: rest => h.said n text ++ tell (n + 1) rest

@[simp] theorem tell_append (n : Nat) (t u : List Line) : h.tell n (t ++ u) = h.tell n t ++ h.tell (n + blocks t) u := by
  induction t generalizing n with
  | nil => rfl
  | cons line t ih =>
    cases line with
    | act a => simp [tell, ih]
    | block text => simp [tell, ih, Nat.add_assoc, Nat.add_comm 1]

@[simp] theorem tell_map_act (n : Nat) (t : List Action) : h.tell n (t.map .act) = t := by
  induction t with
  | nil => rfl
  | cons a t ih => simp [tell, ih]

/-- The deeds of a trace are those of its script, whatever the console makes of the blocks. -/
@[simp] theorem deeds_tell (n : Nat) (lines : List Line) : deeds (h.tell n lines) = deeds (acts lines) := by
  induction lines generalizing n with
  | nil => rfl
  | cons line lines ih =>
    cases line with
    | act a => simp [tell, ih]
    | block text => simp [tell, ih]

theorem requests_tell (n : Nat) (lines : List Line) : requests (h.tell n lines) = requests (acts lines) := by
  rw [← requests_deeds, deeds_tell, requests_deeds]

theorem changes_tell (n : Nat) (lines : List Line) : changes (h.tell n lines) = changes (acts lines) := by
  rw [← changes_deeds, deeds_tell, changes_deeds]

@[simp] theorem warnings_tell (n : Nat) (lines : List Line) : warnings (h.tell n lines) = warnings (acts lines) := by
  induction lines generalizing n with
  | nil => rfl
  | cons line lines ih =>
    cases line with
    | act a => simp [tell, ih]
    | block text => simp [tell, ih]

/-- What becomes of the module `m` in the world `w`: the visit, and the world it leaves. -/
def attend (w : σ) (m : Path) : Visit × σ :=
  if h.isPresent w m then
    match setup.judge m .unoptimized (h.reply setup w m .unoptimized).1 with
    | .error e => (.aborted e, (h.reply setup w m .unoptimized).2)
    | .ok c₁ =>
      match setup.judge m .optimized (h.reply setup w m .optimized).1 with
      | .error e => (.aborted e, (h.reply setup w m .optimized).2)
      | .ok c₂ =>
        let first := h.keep setup.outputDir setup.extension m.stem .unoptimized c₁.stdout
          (h.reply setup w m .optimized).2
        let second := h.keep setup.outputDir setup.extension m.stem .optimized c₂.stdout first.2
        (.compared ⟨m, ⟨c₁, c₂⟩, ⟨first.1, second.1⟩⟩, second.2)
  else (.skipped m, w)

/-- The modules that a batch over `ms` from the world `w` comes to, each with the world it is visited in. -/
def stations (w : σ) : List Path → List (Path × σ)
  | [] => []
  | m :: rest => (m, w) ::
    if (h.attend setup w m).1.isAborted then [] else stations (h.attend setup w m).2 rest

def left (w : σ) : List Path → σ
  | [] => w
  | m :: rest =>
    if (h.attend setup w m).1.isAborted then (h.attend setup w m).2 else left (h.attend setup w m).2 rest

def visits (w : σ) (ms : List Path) : List Visit := (h.stations setup w ms).map fun p => (h.attend setup p.2 p.1).1

def summary (w : σ) (ms : List Path) : Summary := Summary.ofVisits setup (h.visits setup w ms)

theorem visits_cons (w : σ) (m : Path) (rest : List Path) : h.visits setup w (m :: rest) =
    (h.attend setup w m).1 ::
      if (h.attend setup w m).1.isAborted then [] else h.visits setup (h.attend setup w m).2 rest := by
  simp only [visits, stations, List.map_cons]
  split <;> rfl

theorem attend_absent {w : σ} {m : Path} (absent : h.isPresent w m = false) :
    h.attend setup w m = (.skipped m, w) := by
  simp [attend, absent]

end Host

namespace Batch

def openingScript (stems : List String) (m : Path) : List Line :=
  [.act (.asked m), .act (.recorded (.moduleStarted m)), .block (Console.header style m ++ "\n")] ++
    if stems.contains m.stem then [.act (.logged .warn (clashWarning m))] else []

def compileScript (m : Path) (mode : Mode) (r : Except InvocationError Capture) : List Line :=
  .block (Console.step mode ++ "\n") :: (invokeTrace h setup m mode r ++
    match r with
    | .ok c => [.recorded (.invocationFinished m mode c.elapsed)]
    | .error _ => []).map .act

/-- The runs for a module visited in the world `w`; the second is not made if the first has failed. -/
def runsScript (w : σ) (m : Path) : List Line :=
  match setup.judge m .unoptimized (h.reply setup w m .unoptimized).1 with
  | .error e => compileScript h setup m .unoptimized (.error e)
  | .ok c => compileScript h setup m .unoptimized (.ok c) ++
    compileScript h setup m .optimized (setup.judge m .optimized (h.reply setup w m .optimized).1)

def persistScript (c : Capture) (loss : Option ArtifactError) : List Line :=
  (saveTrace setup.outputDir setup.extension c.module.stem c.mode c.stdout loss).map .act ++
    match loss with
    | none => [.act (.logged .debug (c.mode.name ++ " IR of " ++ c.module.display ++ " saved to " ++
        (artifactPath setup.outputDir c.module.stem c.mode setup.extension).display))]
    | some e => [.act (.logged .warn e.message), .block (Console.artifactWarning style e.message ++ "\n"),
        .act (.recorded (.artifactWriteFailed c.module e.path))]

def reportScript (c : Comparison) : List Line :=
  [.block (Console.moduleReport style (c.report setup) (c.captures.map Capture.text) (c.unsaved setup)
    setup.previewLimit ++ "\n"), .act (.recorded (.moduleCompared c.module (c.report setup).lines))]

def sequelScript : Visit → List Line
  | .skipped _ => []
  | .aborted e => (abortTrace e.module e).map .act
  | .compared c =>
    persistScript style setup c.captures.unoptimized c.losses.unoptimized ++
      persistScript style setup c.captures.optimized c.losses.optimized ++ reportScript style setup c

def skipScript (m : Path) : List Line :=
  [.act (.asked m), .act (.logged .warn (missingWarning m)), .block (Console.skipNotice style m ++ "\n"),
    .act (.recorded (.moduleSkipped m))]

def visitScript (w : σ) (stems : List String) (m : Path) : List Line :=
  if h.isPresent w m then
    openingScript style stems m ++ runsScript h setup w m ++ sequelScript style setup (h.attend setup w m).1
  else skipScript style m

def stemsAfter (stems : List String) (m : Path) : Visit → List String
  | .compared _ => m.stem :: stems
  | _ => stems

def walkScript (stems : List String) : List (Path × σ) → List Line
  | [] => []
  | (m, w) :: rest =>
    visitScript h style setup w stems m ++ walkScript (stemsAfter stems m (h.attend setup w m).1) rest

def closingScript (summary : Summary) : List Line :=
  (if summary.isSuccess then
    [.act (.recorded (.batchCompleted summary.reports.length summary.skipped.length))] else []) ++
  [.act .flushed, .block (Console.batchReport style summary setup.outputDir ++ "\n")]

section Traces
variable (n : Nat) (m : Path)

theorem tell_openingScript (stems : List String) :
    h.tell n (openingScript style stems m) = openingTrace h style n stems m := by
  unfold openingScript openingTrace
  split <;> simp [Host.tell, clashWarning]

@[simp] theorem blocks_openingScript (stems : List String) : blocks (openingScript style stems m) = 1 := by
  unfold openingScript
  split <;> rfl

theorem tell_compileScript (mode : Mode) (r : Except InvocationError Capture) :
    h.tell n (compileScript h setup m mode r) = compileTrace h setup n m mode r := by
  cases r <;> simp only [compileScript, compileTrace, Host.tell, Host.tell_map_act, List.append_assoc]

@[simp] theorem blocks_compileScript (mode : Mode) (r : Except InvocationError Capture) :
    blocks (compileScript h setup m mode r) = 1 := by
  unfold compileScript
  rw [blocks_block, blocks_map_act]

theorem tell_persistScript (c : Capture) (loss : Option ArtifactError) :
    h.tell n (persistScript style setup c loss) = persistTrace h style setup n c loss := by
  cases loss <;> simp [persistScript, persistTrace, Host.tell]

@[simp] theorem blocks_persistScript (c : Capture) (loss : Option ArtifactError) :
    blocks (persistScript style setup c loss) = loss.toList.length := by
  unfold persistScript
  rw [blocks_append, blocks_map_act]
  cases loss <;> rfl

theorem tell_reportScript (c : Comparison) :
    h.tell n (reportScript style setup c) = reportTrace h style setup n c := rfl

@[simp] theorem blocks_reportScript (c : Comparison) : blocks (reportScript style setup c) = 1 := rfl

theorem tell_skipScript : h.tell n (skipScript style m) = skipTrace h style n m := by
  simp [skipScript, skipTrace, Host.tell, missingWarning]

theorem tell_closingScript (summary : Summary) :
    h.tell n (closingScript style setup summary) = closingTrace h style setup n summary := by
  unfold closingScript closingTrace
  split <;> simp [Host.tell]

@[simp] theorem blocks_closingScript (summary : Summary) : blocks (closingScript style setup summary) = 1 := by
  unfold closingScript
  split <;> rfl

end Traces

variable {h style setup}

/-- A visit depends on the world it finds, and its trace is told from its script. -/
theorem Visited.told_from_script {stems : List String} {m : Path} {s t : Session σ} {v : Visit}
    (hv : Visited h style setup stems m s v t) :
    v = (h.attend setup s.world m).1 ∧ t = s.after (h.attend setup s.world m).2
      (h.tell s.blocks (visitScript h style setup s.world stems m)) (blocks (visitScript h style setup s.world stems m)) := by
  cases hv with
  | skipped absent =>
    simp only [Host.attend_absent h setup absent, visitScript, absent, Bool.false_eq_true, ↓reduceIte,
      tell_skipScript, true_and]
    rfl
  | @failedFirst e present first =>
    have hm : e.module = m := (setup.judge_error first).2.2.1
    have hattend : h.attend setup s.world m = (.aborted e, (h.reply setup s.world m .unoptimized).2) := by
      simp [Host.attend, present, first]
    simp only [hattend, visitScript, present, ↓reduceIte, runsScript, first, sequelScript, hm, Host.tell_append,
      tell_openingScript, tell_compileScript, Host.tell_map_act, blocks_append, blocks_openingScript,
      blocks_compileScript, blocks_map_act, Nat.add_zero, true_and]
  | @failedSecond c e present first second =>
    have hm : e.module = m := (setup.judge_error second).2.2.1
    have hattend : h.attend setup s.world m = (.aborted e, (h.reply setup s.world m .optimized).2) := by
      simp [Host.attend, present, first, second]
    simp only [hattend, visitScript, present, ↓reduceIte, runsScript, first, second, sequelScript, hm,
      Host.tell_append, tell_openingScript, tell_compileScript, Host.tell_map_act, blocks_append,
      blocks_openingScript, blocks_compileScript, blocks_map_act, Nat.add_zero, true_and, List.append_assoc,
      Nat.add_assoc, Nat.reduceAdd]
  | @compared c₁ c₂ l₁ l₂ w₁ w₂ present first second kept₁ kept₂ =>
    have hattend : h.attend setup s.world m = (.compared ⟨m, ⟨c₁, c₂⟩, ⟨l₁, l₂⟩⟩, w₂) := by
      simp [Host.attend, present, first, second, kept₁, kept₂]
    have hcount : 1 + (1 + (1 + (l₁.toList.length + (l₂.toList.length + 1)))) =
        1 + (3 + l₁.toList.length + l₂.toList.length) := by omega
    simp only [hattend, visitScript, present, ↓reduceIte, runsScript, first, second, sequelScript, Host.tell_append,
      tell_openingScript, tell_compileScript, tell_persistScript, tell_reportScript, blocks_append,
      blocks_openingScript, blocks_compileScript, blocks_persistScript, blocks_reportScript, true_and,
      List.append_assoc, hcount]

theorem visit_script (stems : List String) (m : Path) (s : Session σ) :
    (visit h style setup stems m).run s = ((h.attend setup s.world m).1, s.after (h.attend setup s.world m).2
      (h.tell s.blocks (visitScript h style setup s.world stems m))
      (blocks (visitScript h style setup s.world stems m))) := by
  obtain ⟨hvisit, hsession⟩ := (visit_visited h style setup stems m s).told_from_script
  exact Prod.ext hvisit hsession

variable (h style setup)

theorem walk_script (stems : List String) (ms : List Path) (s : Session σ) :
    (walk h style setup stems ms).run s = (h.visits setup s.world ms, s.after (h.left setup s.world ms)
      (h.tell s.blocks (walkScript h style setup stems (h.stations setup s.world ms)))
      (blocks (walkScript h style setup stems (h.stations setup s.world ms)))) := by
  induction ms generalizing stems s with
  | nil =>
    exact Prod.ext rfl s.after_nil.symm
  | cons m rest ih =>
    have hstop : stopAt h style setup stems m s = ⟨stems, m, s, (h.attend setup s.world m).1,
        s.after (h.attend setup s.world m).2 (h.tell s.blocks (visitScript h style setup s.world stems m))
          (blocks (visitScript h style setup s.world stems m))⟩ := by
      rw [stopAt, visit_script]
    have hnext : (stopAt h style setup stems m s).nextStems = stemsAfter stems m (h.attend setup s.world m).1 := by
      rw [hstop]
      cases (h.attend setup s.world m).1 <;> rfl
    rw [walk_cons]
    dsimp only
    rw [hnext, hstop]
    dsimp only
    rw [ih, Host.visits_cons, Host.left, Host.stations]
    by_cases ha : (h.attend setup s.world m).1.isAborted = true
    · simp [ha, walkScript]
    · rw [Bool.not_eq_true] at ha
      simp [ha, walkScript]

def runScript (w : σ) (ms : List Path) : List Line :=
  walkScript h style setup [] (h.stations setup w ms) ++ closingScript style setup (h.summary setup w ms)

/-- A batch is told from its script, and what it gives and leaves is a matter of the world alone. -/
theorem run_script (ms : List Path) (s : Session σ) :
    (run h style setup ms).run s = (h.summary setup s.world ms, s.after (h.left setup s.world ms)
      (h.tell s.blocks (runScript h style setup s.world ms)) (blocks (runScript h style setup s.world ms))) := by
  have hvisits := walk_visits h style setup [] ms s
  have hwalk := walk_script h style setup [] ms s
  rw [hwalk] at hvisits
  rw [run_run, ← hvisits, hwalk]
  simp only [Session.after_world, Session.after_blocks, Session.after_after, runScript, Host.summary, Host.tell_append,
    tell_closingScript, blocks_append, blocks_closingScript]

section Start
variable (world : σ) (ms : List Path)

/-- The summary of a batch is a matter of the world that it starts in. -/
theorem run_gives : ((run h style setup ms).run (.start world)).1 = h.summary setup world ms := by
  rw [run_script]
  rfl

theorem run_leaves : ((run h style setup ms).run (.start world)).2.world = h.left setup world ms := by
  rw [run_script]
  rfl

theorem run_tells : ((run h style setup ms).run (.start world)).2.trace =
    h.tell 0 (runScript h style setup world ms) := by
  rw [run_script]
  rfl

end Start

theorem course_stations (stems : List String) (ms : List Path) (s : Session σ) :
    (course h style setup stems ms s).map (fun stop => (stop.module, stop.before.world)) =
      h.stations setup s.world ms := by
  induction ms generalizing stems s with
  | nil => rfl
  | cons m rest ih =>
    have hvisit : (stopAt h style setup stems m s).visit = (h.attend setup s.world m).1 := by
      rw [stopAt, visit_script]
    have hworld : (stopAt h style setup stems m s).after.world = (h.attend setup s.world m).2 := by
      rw [stopAt, visit_script]
      rfl
    rw [course, Host.stations, List.map_cons, hvisit]
    split
    · rfl
    · rw [ih, hworld]
      rfl

theorem visitedPositions_eq (world : σ) (ms : List Path) :
    visitedPositions h style setup world ms = h.stations setup world ms := by
  rw [← stops_visited, course_stations, Session.start_world]

def visitRequests (w : σ) (m : Path) : List Action := requests (acts (visitScript h style setup w [] m))

/-- Stems change warnings only. -/
theorem requests_visitScript (w : σ) (stems : List String) (m : Path) :
    requests (acts (visitScript h style setup w stems m)) = visitRequests h style setup w m := by
  have hopening (stems : List String) : requests (acts (openingScript style stems m)) = [.asked m] := by
    unfold openingScript
    split <;> rfl
  unfold visitRequests visitScript
  split
  · simp only [acts_append, requests_append, hopening]
  · rfl

theorem requests_walkScript (stems : List String) (found : List (Path × σ)) :
    requests (acts (walkScript h style setup stems found)) =
      found.flatMap fun p => visitRequests h style setup p.2 p.1 := by
  induction found generalizing stems with
  | nil => rfl
  | cons p rest ih =>
    rw [walkScript, acts_append, requests_append, requests_visitScript, ih, List.flatMap_cons]

theorem run_requests (world : σ) (ms : List Path) : requests ((run h style setup ms).run (.start world)).2.trace =
    (h.stations setup world ms).flatMap fun p => visitRequests h style setup p.2 p.1 := by
  have hclosing : requests (acts (closingScript style setup (h.summary setup world ms))) = [] := by
    unfold closingScript
    split <;> rfl
  rw [run_tells, Host.requests_tell, runScript, acts_append, requests_append, hclosing, List.append_nil]
  exact requests_walkScript ..

end Batch
end PassDelta
