import PassDelta.Proofs.Losses
/-!
# Storage faults

Two batches over one list, with the same answers of the compiler and the same modules there, make the same comparison,
whatever file operations fail in either. Their traces tell one story, in which nothing is said of what came of the
saves.
-/

namespace PassDelta

variable {σ α : Type}

/-- At which paths something may appear or go: by making a directory, nothing goes and only those of `made` may appear,
such as the directories above it; by a write, those of `filled` may; by a run, none. -/
structure Presence (h : Host σ) where
  made : Path → Path → Bool
  filled : Path → Path → Bool
  isPresent_execute (w : σ) (c : Command) (q : Path) : h.isPresent (h.execute w c).2 q = h.isPresent w q
  isPresent_createDir (w : σ) {p q : Path} (apart : made p q = false) :
    h.isPresent (h.createDir w p).2 q = h.isPresent w q
  isPresent_kept (w : σ) (p : Path) {q : Path} (there : h.isPresent w q = true) :
    h.isPresent (h.createDir w p).2 q = true
  isPresent_write (w : σ) {p q : Path} (contents : Bytes) (apart : filled p q = false) :
    h.isPresent (h.write w p contents).2 q = h.isPresent w q

/-- A host whose runs follow a script that no file operation touches. Nothing is said of which file operations fail. -/
structure Insulated (h : Host σ) (α : Type) extends Presence h where
  script : σ → α
  answer_eq (c : Command) {w w' : σ} (same : script w = script w') : (h.execute w c).1 = (h.execute w' c).1
  script_execute (c : Command) {w w' : σ} (same : script w = script w') :
    script (h.execute w c).2 = script (h.execute w' c).2
  script_createDir (w : σ) (p : Path) : script (h.createDir w p).2 = script w
  script_write (w : σ) (p : Path) (contents : Bytes) : script (h.write w p contents).2 = script w

def Memory.insulated : Insulated Memory.host (List Answer) where
  made p q := decide (q = p)
  filled p q := decide (q = p)
  script := Memory.answers
  answer_eq c {w w'} same := by
    simp only [host, execute, same]
    cases w'.answers <;> rfl
  script_execute c {w w'} same := by
    simp only [host, execute, same]
    cases hw : w'.answers with
    | nil => exact same
    | cons a rest => rfl
  isPresent_execute w c q := by
    simp only [host, execute]
    cases w.answers <;> rfl
  script_createDir w p := rfl
  isPresent_createDir w {p q} apart := by
    have other := of_decide_eq_false apart
    simp only [host, Store.createDir]
    cases w.store.fault? .createDir p with
    | some e => rfl
    | none =>
      dsimp only
      split <;> simp [Store.isPresent, Store.content?, other]
  isPresent_kept w p {q} there := by
    simp only [host, Store.createDir] at there ⊢
    cases w.store.fault? .createDir p with
    | some e => exact there
    | none =>
      dsimp only
      split
      · exact there
      · simp only [Store.isPresent, Store.content?, List.contains_eq_mem, List.mem_append, Bool.or_eq_true,
          decide_eq_true_eq] at there ⊢
        exact there.imp_right Or.inl
  script_write w p contents := rfl
  isPresent_write w {p q} contents apart := by
    have other := of_decide_eq_false apart
    simp only [host, Store.write]
    cases w.store.fault? .write p with
    | some e => rfl
    | none => simp [Store.isPresent, Store.content?, lookup_put, other]

namespace Drive
variable (compile : Command → Answer)

def presence : Presence (host compile) where
  made p q := q.leadsTo p
  filled p q := q.same p
  isPresent_execute _ _ _ := rfl
  isPresent_createDir d p q apart := by
    change (((d.createDir p).2.content q).isSome || (d.createDir p).2.hasDir q) = _
    rw [content_createDir, hasDir_createDir]
    cases (d.createDir p).1 with
    | ok => simp [apart, host]
    | error e => rfl
  isPresent_kept d p q there := by
    simp only [host, Bool.or_eq_true] at there ⊢
    rw [content_createDir, hasDir_createDir]
    refine there.imp_right fun hdir => ?_
    cases (d.createDir p).1 with
    | ok => simp [hdir]
    | error e => exact hdir
  isPresent_write d p q contents apart := by
    change (((d.write p contents).2.content q).isSome || (d.write p contents).2.hasDir q) = _
    rw [content_write, hasDir_write]
    cases (d.write p contents).1 with
    | ok => simp [apart, host]
    | error e => rfl

def insulated : Insulated (host compile) Unit where
  toPresence := presence compile
  script _ := ()
  answer_eq _ _ _ _ := rfl
  script_execute _ _ _ _ := rfl
  script_createDir _ _ := rfl
  script_write _ _ _ := rfl

end Drive

/-- Whether an action saves an artifact or tells the observer that one was lost. -/
def Action.isSaving : Action → Bool
  | madeDir _ => true
  | wrote .. => true
  | recorded (.artifactWriteFailed ..) => true
  | _ => false

def comparingDeeds (t : List Action) : List Action := (deeds t).filter fun a => !a.isSaving

@[simp] theorem comparingDeeds_append (t u : List Action) :
    comparingDeeds (t ++ u) = comparingDeeds t ++ comparingDeeds u := by
  rw [comparingDeeds, deeds_append, List.filter_append, comparingDeeds, comparingDeeds]

@[simp] theorem comparingDeeds_said (h : Host σ) (n : Nat) (text : String) : comparingDeeds (h.said n text) = [] := by
  rw [comparingDeeds, deeds_said, List.filter_nil]

theorem commands_comparingDeeds (t : List Action) : commands (comparingDeeds t) = commands t := by
  rw [← commands_deeds t, commands, comparingDeeds, List.filterMap_filter]
  congr 1
  funext a
  cases a <;> simp [Action.isSaving, Action.command?]

def Summary.bare (s : Summary) : Summary := { s with artifactFailures := [] }

namespace Batch

variable {h : Host σ} {style : Style} {setup : Setup}

/-- A piece of a trace, with nothing said of the saves: an action, a block of console text, a save, the report of a
module with the places of its two artifacts, or the closing block with the lines above and below those for lost
artifacts. -/
inductive Piece where
  | act (a : Action)
  | block (text : String)
  | save (c : Capture)
  | report (above : String) (p q : Path) (below : String)
  | closing (above below : List String)

variable (h style setup) in
/-- A trace tells a story: each piece in turn, a save with any outcome and its notices, a report with any marks and a
closing block with any lines for lost artifacts. As notices are blocks too, the number of a block is left open. -/
inductive Tells : List Piece → List Action → Prop
  | nil : Tells [] []
  | act (a : Action) {story : List Piece} {t : List Action} (rest : Tells story t) : Tells (.act a :: story) (a :: t)
  | block (n : Nat) (text : String) {story : List Piece} {t : List Action} (rest : Tells story t) :
    Tells (.block text :: story) (h.said n text ++ t)
  | save (n : Nat) (c : Capture) (loss : Option ArtifactError) {story : List Piece} {t : List Action}
      (rest : Tells story t) : Tells (.save c :: story) (persistTrace h style setup n c loss ++ t)
  | report (n : Nat) (above : String) (p q : Path) (below : String) (a b : Bool) {story : List Piece} {t : List Action}
      (rest : Tells story t) : Tells (.report above p q below :: story)
        (h.said n (above ++ Console.placeLine style a p ++ Console.placeLine style b q ++ below) ++ t)
  | closing (n : Nat) (above below : List String) (lost : List ArtifactFailure) {story : List Piece} {t : List Action}
      (rest : Tells story t) : Tells (.closing above below :: story)
        (h.said n (Console.printed (above ++ lost.map Console.lostLine ++ below) ++ "\n") ++ t)

theorem Tells.append {story story' : List Piece} {t t' : List Action} (first : Tells h style setup story t)
    (second : Tells h style setup story' t') : Tells h style setup (story ++ story') (t ++ t') := by
  induction first with
  | nil => exact second
  | act a rest ih => exact .act a ih
  | block n text rest ih => rw [List.append_assoc]; exact .block n text ih
  | save n c loss rest ih => rw [List.append_assoc]; exact .save n c loss ih
  | report n above p q below a b rest ih => rw [List.append_assoc]; exact .report n above p q below a b ih
  | closing n above below lost rest ih => rw [List.append_assoc]; exact .closing n above below lost ih

theorem tells_acts (t : List Action) : Tells h style setup (t.map .act) t := by
  induction t with
  | nil => exact .nil
  | cons a t ih => exact .act a ih

theorem tells_block (n : Nat) (text : String) : Tells h style setup [.block text] (h.said n text) := by
  have hblock : Tells h style setup [.block text] (h.said n text ++ []) := .block n text .nil
  rwa [List.append_nil] at hblock

theorem comparingDeeds_persistTrace (n : Nat) (c : Capture) (loss : Option ArtifactError) :
    comparingDeeds (persistTrace h style setup n c loss) = [] := by
  rw [comparingDeeds, deeds_persistTrace]
  rcases loss with _ | ⟨step, path, source⟩
  · rfl
  · cases step <;> rfl

def Piece.act? : Piece → Option Action
  | act a => some a
  | _ => none

/-- A story says which deeds there are beside the saves. -/
theorem Tells.comparingDeeds_eq {story : List Piece} {t : List Action} (ht : Tells h style setup story t) :
    comparingDeeds t = comparingDeeds (story.filterMap Piece.act?) := by
  induction ht with
  | nil => rfl
  | @act a story t rest ih =>
    rw [← List.singleton_append, comparingDeeds_append, ih, ← comparingDeeds_append]
    rfl
  | block n text rest ih =>
    rw [comparingDeeds_append, comparingDeeds_said]
    exact ih
  | save n c loss rest ih =>
    rw [comparingDeeds_append, comparingDeeds_persistTrace]
    exact ih
  | report n above p q below a b rest ih =>
    rw [comparingDeeds_append, comparingDeeds_said]
    exact ih
  | closing n above below lost rest ih =>
    rw [comparingDeeds_append, comparingDeeds_said]
    exact ih

section Stories
variable (h style setup)

def openingStory (stems : List String) (m : Path) : List Piece :=
  [.act (.asked m), .act (.recorded (.moduleStarted m)), .block (Console.header style m ++ "\n")] ++
    if stems.contains m.stem then [.act (.logged .warn (clashWarning m))] else []

def compileStory (m : Path) (mode : Mode) (r : Except InvocationError Capture) : List Piece :=
  .block (Console.step mode ++ "\n") :: (invokeTrace h setup m mode r ++
    match r with
    | .ok c => [.recorded (.invocationFinished m mode c.elapsed)]
    | .error _ => []).map .act

def skipStory (m : Path) : List Piece :=
  [.act (.asked m), .act (.logged .warn (missingWarning m)), .block (Console.skipNotice style m ++ "\n"),
    .act (.recorded (.moduleSkipped m))]

def reportStory (m : Path) (captures : PerMode Capture) : List Piece :=
  let report := Comparison.report setup ⟨m, captures, ⟨none, none⟩⟩
  [.report (Console.previews (captures.map Capture.text) setup.previewLimit) report.artifacts.unoptimized
      report.artifacts.optimized (Console.statistics style report.lines ++ "\n"),
    .act (.recorded (.moduleCompared m report.lines))]

def visitStory (w : σ) (stems : List String) (m : Path) : List Piece :=
  if h.isPresent w m then
    openingStory style stems m ++
    match setup.judge m .unoptimized (h.reply setup w m .unoptimized).1,
      setup.judge m .optimized (h.reply setup w m .optimized).1 with
    | .error e, _ => compileStory h setup m .unoptimized (.error e) ++ (abortTrace m e).map .act
    | .ok c₁, .error e => compileStory h setup m .unoptimized (.ok c₁) ++ compileStory h setup m .optimized (.error e) ++
        (abortTrace m e).map .act
    | .ok c₁, .ok c₂ => compileStory h setup m .unoptimized (.ok c₁) ++ compileStory h setup m .optimized (.ok c₂) ++
        [.save c₁] ++ [.save c₂] ++ reportStory style setup m ⟨c₁, c₂⟩
  else skipStory style m

def closingStory (summary : Summary) : List Piece :=
  (if summary.isSuccess then
    [.act (.recorded (.batchCompleted summary.reports.length summary.skipped.length))] else []) ++
  [.act .flushed, .closing ("" :: Console.headline style summary ::
      ((if summary.reports.isEmpty then [] else [Console.checkLine setup.outputDir]) ++
        summary.skipped.map Console.skippedLine))
    ((summary.failure.map fun e => Console.failedLine e.module).toList ++ Console.guidanceLines)]

theorem closingStory_bare (summary : Summary) :
    closingStory style setup summary.bare = closingStory style setup summary := rfl

end Stories

section Traces
variable (n : Nat) (m : Path)

theorem tells_openingTrace (stems : List String) :
    Tells h style setup (openingStory style stems m) (openingTrace h style n stems m) := by
  refine .append (t := _ ++ h.said n (Console.header style m ++ "\n")) ?_ ?_
  · exact .act _ (.act _ (tells_block ..))
  · split
    · exact tells_acts [_]
    · exact .nil

theorem tells_compileTrace (mode : Mode) (r : Except InvocationError Capture) :
    Tells h style setup (compileStory h setup m mode r) (compileTrace h setup n m mode r) := by
  unfold compileTrace
  rw [List.append_assoc]
  exact .block n _ (tells_acts _)

theorem tells_skipTrace : Tells h style setup (skipStory style m) (skipTrace h style n m) := by
  rw [skipTrace, List.append_assoc]
  exact .act _ (.act _ (.block n _ (.act _ .nil)))

theorem tells_persistTrace (c : Capture) (loss : Option ArtifactError) :
    Tells h style setup [.save c] (persistTrace h style setup n c loss) := by
  have hsave : Tells h style setup [.save c] (persistTrace h style setup n c loss ++ []) := .save n c loss .nil
  rwa [List.append_nil] at hsave

/-- Reports of the same captures differ in their marks. -/
theorem tells_reportTrace (captures : PerMode Capture) (losses : PerMode (Option ArtifactError)) :
    Tells h style setup (reportStory style setup m captures) (reportTrace h style setup n ⟨m, captures, losses⟩) := by
  let c : Comparison := ⟨m, captures, losses⟩
  have htext : Console.moduleReport style (c.report setup) (captures.map Capture.text) (c.unsaved setup)
      setup.previewLimit ++ "\n" = Console.previews (captures.map Capture.text) setup.previewLimit ++
        Console.artifactLine style (c.unsaved setup) (c.report setup).artifacts.unoptimized ++
        Console.artifactLine style (c.unsaved setup) (c.report setup).artifacts.optimized ++
        (Console.statistics style (c.report setup).lines ++ "\n") := by
    rw [Console.moduleReport_places]
    exact String.append_assoc
  unfold reportTrace
  rw [htext, Console.artifactLine_eq, Console.artifactLine_eq]
  exact .report n _ _ _ _ _ _ (.act _ .nil)

theorem tells_closingTrace (summary : Summary) :
    Tells h style setup (closingStory style setup summary) (closingTrace h style setup n summary) := by
  let above := "" :: Console.headline style summary ::
    ((if summary.reports.isEmpty then [] else [Console.checkLine setup.outputDir]) ++
      summary.skipped.map Console.skippedLine)
  let below := (summary.failure.map fun e => Console.failedLine e.module).toList ++ Console.guidanceLines
  have hlines : Console.closingLines style summary setup.outputDir =
      above ++ summary.artifactFailures.map Console.lostLine ++ below := by
    simp only [Console.closingLines, above, below, List.cons_append, List.append_assoc]
  have hblock : Tells h style setup [.closing above below]
      (h.said n (Console.printed (above ++ summary.artifactFailures.map Console.lostLine ++ below) ++ "\n") ++ []) :=
    .closing n above below summary.artifactFailures .nil
  rw [← hlines, ← Console.batchReport_printed, List.append_nil] at hblock
  rw [closingTrace, List.append_assoc]
  refine .append ?_ (.act .flushed hblock)
  split
  · exact tells_acts [_]
  · exact .nil

end Traces

end Batch

def Visit.bare : Visit → Visit
  | .compared c => .compared { c with losses := ⟨none, none⟩ }
  | v => v

/-- A visit to `m` in the world `w` as far as the saves have no part in it. -/
def Host.bareVisit (h : Host σ) (setup : Setup) (w : σ) (m : Path) : Visit :=
  if h.isPresent w m then
    match setup.judge m .unoptimized (h.reply setup w m .unoptimized).1,
      setup.judge m .optimized (h.reply setup w m .optimized).1 with
    | .error e, _ => .aborted e
    | .ok _, .error e => .aborted e
    | .ok c₁, .ok c₂ => .compared ⟨m, ⟨c₁, c₂⟩, ⟨none, none⟩⟩
  else .skipped m

namespace Batch

variable {h : Host σ} {style : Style} {setup : Setup}

section Visit
variable {stems : List String} {m : Path} {s t : Session σ} {v : Visit}

theorem Visited.bare_eq (hv : Visited h style setup stems m s v t) : v.bare = h.bareVisit setup s.world m := by
  cases hv with
  | skipped absent => simp [Host.bareVisit, absent, Visit.bare]
  | failedFirst present first => simp [Host.bareVisit, present, first, Visit.bare]
  | failedSecond present first second => simp [Host.bareVisit, present, first, second, Visit.bare]
  | compared present first second kept₁ kept₂ => simp [Host.bareVisit, present, first, second, Visit.bare]

/-- What a visit tells does not show what came of its saves. -/
theorem Visited.tells (hv : Visited h style setup stems m s v t) :
    ∃ part, t.trace = s.trace ++ part ∧ Tells h style setup (visitStory h style setup s.world stems m) part := by
  cases hv with
  | skipped absent =>
    refine ⟨_, rfl, ?_⟩
    simp only [visitStory, absent, Bool.false_eq_true, ↓reduceIte]
    exact tells_skipTrace ..
  | failedFirst present first =>
    refine ⟨_, rfl, ?_⟩
    simp only [visitStory, present, first, ↓reduceIte, ← List.append_assoc]
    exact ((tells_openingTrace ..).append (tells_compileTrace ..)).append (tells_acts _)
  | failedSecond present first second =>
    refine ⟨_, rfl, ?_⟩
    simp only [visitStory, present, first, second, ↓reduceIte, ← List.append_assoc]
    exact (((tells_openingTrace ..).append (tells_compileTrace ..)).append (tells_compileTrace ..)).append
      (tells_acts _)
  | compared present first second kept₁ kept₂ =>
    refine ⟨_, rfl, ?_⟩
    simp only [visitStory, present, first, second, ↓reduceIte, ← List.append_assoc]
    exact (((((tells_openingTrace ..).append (tells_compileTrace ..)).append (tells_compileTrace ..)).append
      (tells_persistTrace ..)).append (tells_persistTrace ..)).append (tells_reportTrace ..)

end Visit

section Twins
variable (I : Insulated h α) {ms : List Path}

variable (style setup ms) in
/-- Two sessions that agree on the script and on which of the listed modules are there, and whose traces tell one
story. -/
structure Twins (s s' : Session σ) : Prop where
  script : I.script s.world = I.script s'.world
  present : ∀ m ∈ ms, h.isPresent s.world m = h.isPresent s'.world m
  trace : ∃ story, Tells h style setup story s.trace ∧ Tells h style setup story s'.trace

variable (setup) in
/-- No listed module that is missing in the world `w` may appear by the making of the output directory, and no listed
module at all may appear or go by the writing of an artifact of a listed module. -/
structure Apart (presence : Presence h) (w : σ) (ms : List Path) : Prop where
  outputDir : ∀ m ∈ ms, h.isPresent w m = false → presence.made setup.outputDir m = false
  artifact : ∀ m ∈ ms, ∀ n ∈ ms, ∀ mode,
    presence.filled (artifactPath setup.outputDir n.stem mode setup.extension) m = false

instance (presence : Presence h) (w : σ) : Decidable (Apart setup presence w ms) :=
  decidable_of_iff ((∀ m ∈ ms, h.isPresent w m = false → presence.made setup.outputDir m = false) ∧
      ∀ m ∈ ms, ∀ n ∈ ms, ∀ mode ∈ [Mode.unoptimized, .optimized],
        presence.filled (artifactPath setup.outputDir n.stem mode setup.extension) m = false)
    ⟨fun ⟨hdir, hpath⟩ => ⟨hdir, fun m hm n hn mode => hpath m hm n hn mode (by cases mode <;> simp)⟩,
      fun apart => ⟨apart.outputDir, fun m hm n hn mode _ => apart.artifact m hm n hn mode⟩⟩

namespace Apart
variable {presence : Presence h} {w w' : σ}

theorem congr (apart : Apart setup presence w ms) (same : ∀ m ∈ ms, h.isPresent w' m = h.isPresent w m) :
    Apart setup presence w' ms where
  outputDir m hm absent := apart.outputDir m hm ((same m hm).symm.trans absent)
  artifact := apart.artifact

/-- No operation of a batch changes which of its modules are there. -/
theorem preserved (apart : Apart setup presence w ms) {n : Path} (hn : n ∈ ms) :
    Preserved h setup ms fun v => h.isPresent v n = h.isPresent w n where
  execute v c hv := (presence.isPresent_execute v c n).trans hv
  createDir v hv := by
    cases hthere : h.isPresent w n with
    | true => exact presence.isPresent_kept v setup.outputDir (hv.trans hthere)
    | false => exact (presence.isPresent_createDir v (apart.outputDir n hn hthere)).trans (hv.trans hthere)
  write v m hm mode contents hv := (presence.isPresent_write v contents (apart.artifact n hn m hm mode)).trans hv

theorem visited {s t : Session σ} (apart : Apart setup presence s.world ms) {stems : List String} {m : Path}
    (hm : m ∈ ms) {v : Visit} (hv : Visited h style setup stems m s v t) : Apart setup presence t.world ms :=
  apart.congr fun _ hn => (apart.preserved hn).visited hm hv rfl

end Apart

variable (setup) in
/-- Runs in worlds of one script get the same answers and leave worlds of one script. -/
theorem reply_twins {w w' : σ} (same : I.script w = I.script w') (m : Path) (mode : Mode) :
    (h.reply setup w m mode).1 = (h.reply setup w' m mode).1 ∧
      I.script (h.reply setup w m mode).2 = I.script (h.reply setup w' m mode).2 := by
  have hfirst := I.script_execute (h.command setup m .unoptimized) same
  cases mode with
  | unoptimized => exact ⟨I.answer_eq _ same, hfirst⟩
  | optimized => exact ⟨I.answer_eq _ hfirst, I.script_execute _ hfirst⟩

theorem afterCalls_twins {w w' : σ} (same : I.script w = I.script w') (calls : List (Command × Answer)) :
    I.script (h.afterCalls w calls) = I.script (h.afterCalls w' calls) := by
  induction calls generalizing w w' with
  | nil => exact same
  | cons call rest ih => exact ih (I.script_execute call.1 same)

section Visit
variable {stems : List String} {m : Path} {s t s' t' : Session σ} {v v' : Visit}

theorem Visited.script_eq (hv : Visited h style setup stems m s v t) :
    I.script t.world = I.script (h.afterCalls s.world (h.runs setup s.world m)) := by
  have hkeep (mode : Mode) (contents : Bytes) (w : σ) :
      I.script (h.keep setup.outputDir setup.extension m.stem mode contents w).2 = I.script w :=
    keep_preserves (P := (I.script · = I.script w)) (fun v hv => (I.script_createDir v _).trans hv)
      (fun v mode contents hv => (I.script_write v _ contents).trans hv) mode contents rfl
  cases hv with
  | skipped absent => simp [Host.runs, absent, Host.afterCalls]
  | failedFirst present first =>
    have hruns : h.runs setup s.world m =
        [(h.command setup m .unoptimized, (h.reply setup s.world m .unoptimized).1)] := by
      simp [Host.runs, present, (setup.judge_error first).1]
    rw [hruns]
    rfl
  | failedSecond present first second =>
    simp only [Host.runs, present, setup.judge_succeeded first, ↓reduceIte]
    rfl
  | @compared c₁ c₂ l₁ l₂ w₁ w₂ present first second kept₁ kept₂ =>
    have hfirst := hkeep .unoptimized c₁.stdout (h.reply setup s.world m .optimized).2
    have hsecond := hkeep .optimized c₂.stdout w₁
    rw [kept₁] at hfirst
    rw [kept₂] at hsecond
    rw [Session.after_world, hsecond, hfirst]
    simp only [Host.runs, present, setup.judge_succeeded first, ↓reduceIte]
    rfl

/-- Visits in twin sessions find the same and leave twin sessions. -/
theorem visit_twins (apart : Apart setup I.toPresence s.world ms) (hm : m ∈ ms)
    (twins : Twins style setup I ms s s')
    (hv : Visited h style setup stems m s v t) (hv' : Visited h style setup stems m s' v' t') :
    v.bare = v'.bare ∧ Twins style setup I ms t t' := by
  have hpresent := twins.present m hm
  have hanswer (mode : Mode) := (reply_twins setup I twins.script m mode).1
  have hruns : h.runs setup s.world m = h.runs setup s'.world m := by
    simp only [Host.runs, hpresent, hanswer]
  constructor
  · rw [hv.bare_eq, hv'.bare_eq]
    simp only [Host.bareVisit, hpresent, hanswer]
  · exact {
      script := by
        rw [hv.script_eq I, hv'.script_eq I, hruns]
        exact afterCalls_twins I twins.script _
      present := by
        intro n hn
        have apart' := apart.congr fun n hn => (twins.present n hn).symm
        rw [(apart.preserved hn).visited hm hv rfl, (apart'.preserved hn).visited hm hv' rfl, twins.present n hn]
      trace := by
        obtain ⟨story, hstory, hstory'⟩ := twins.trace
        obtain ⟨part, htrace, hpart⟩ := hv.tells
        obtain ⟨part', htrace', hpart'⟩ := hv'.tells
        have hsame : visitStory h style setup s.world stems m = visitStory h style setup s'.world stems m := by
          simp only [visitStory, hpresent, hanswer]
        rw [hsame] at hpart
        rw [htrace, htrace']
        exact ⟨_, hstory.append hpart, hstory'.append hpart'⟩ }

end Visit

/-- What a stop means for the rest of the batch does not depend on losses. -/
theorem stops_alike {a b : Stop σ} (hstems : a.stems = b.stems) (hmodule : a.module = b.module)
    (hbare : a.visit.bare = b.visit.bare) :
    a.visit.isAborted = b.visit.isAborted ∧ a.nextStems = b.nextStems := by
  obtain ⟨stems, m, before, v, after⟩ := a
  obtain ⟨stems', m', before', v', after'⟩ := b
  obtain rfl : stems = stems' := hstems
  obtain rfl : m = m' := hmodule
  cases v <;> cases v' <;> simp_all [Visit.bare, Visit.isAborted, Stop.nextStems]

/-- Two batches that start in twin sessions visit the same and end in twin sessions. -/
theorem walk_twins (stems : List String) {rest : List Path} (hrest : ∀ m ∈ rest, m ∈ ms) {s s' : Session σ}
    (apart : Apart setup I.toPresence s.world ms) (twins : Twins style setup I ms s s') :
    ((walk h style setup stems rest).run s).1.map Visit.bare =
        ((walk h style setup stems rest).run s').1.map Visit.bare ∧
      Twins style setup I ms ((walk h style setup stems rest).run s).2 ((walk h style setup stems rest).run s').2 := by
  induction rest generalizing stems s s' with
  | nil => exact ⟨rfl, twins⟩
  | cons m rest ih =>
    have hstep : (stopAt h style setup stems m s).visit.bare = (stopAt h style setup stems m s').visit.bare ∧
        Twins style setup I ms (stopAt h style setup stems m s).after (stopAt h style setup stems m s').after :=
      visit_twins I apart (hrest m List.mem_cons_self) twins (visit_visited h style setup stems m s)
        (visit_visited h style setup stems m s')
    obtain ⟨hbare, hnext⟩ := hstep
    have hapart : Apart setup I.toPresence (stopAt h style setup stems m s).after.world ms :=
      apart.visited (hrest m List.mem_cons_self) (visit_visited h style setup stems m s)
    have hstops : (stopAt h style setup stems m s).visit.isAborted =
          (stopAt h style setup stems m s').visit.isAborted ∧
        (stopAt h style setup stems m s).nextStems = (stopAt h style setup stems m s').nextStems :=
      stops_alike rfl rfl hbare
    rw [walk_cons, walk_cons]
    dsimp only
    rw [← hstops.1, ← hstops.2]
    split
    · exact ⟨by rw [List.map_singleton, List.map_singleton, hbare], hnext⟩
    · obtain ⟨hvisits, hend⟩ := ih (stopAt h style setup stems m s).nextStems
        (fun n hn => hrest n (List.mem_cons_of_mem m hn)) hapart hnext
      exact ⟨by rw [List.map_cons, List.map_cons, hbare, hvisits], hend⟩

end Twins

theorem ofVisits_bare (visits : List Visit) :
    Summary.ofVisits setup (visits.map Visit.bare) = (Summary.ofVisits setup visits).bare := by
  have hreport : Visit.report? setup ∘ Visit.bare = Visit.report? setup := by
    funext v
    cases v <;> rfl
  have hskipped : Visit.skipped? ∘ Visit.bare = Visit.skipped? := by
    funext v
    cases v <;> rfl
  have hfailure : Visit.failure? ∘ Visit.bare = Visit.failure? := by
    funext v
    cases v <;> rfl
  have hlost : (visits.map Visit.bare).flatMap Visit.failures = [] := by
    rw [List.flatMap_map, List.flatMap_eq_nil_iff]
    intro v hv
    cases v <;> rfl
  simp only [Summary.bare, Summary.ofVisits_eq, List.filterMap_map, hreport, hskipped, hfailure, hlost]

variable (h style setup) in
/-- What two batches have in common that differ in their saves only, the first from the world `w` and the second from
the world `w'`. -/
structure SameComparison (w w' : σ) (ms : List Path) (result result' : Summary × Session σ) : Prop where
  reports : result.1.reports = result'.1.reports
  skipped : result.1.skipped = result'.1.skipped
  status : result.1.status = result'.1.status
  failure : result.1.failure = result'.1.failure
  commands : commands result.2.trace = commands result'.2.trace
  deeds : comparingDeeds result.2.trace = comparingDeeds result'.2.trace
  trace : ∃ story, Tells h style setup story result.2.trace ∧ Tells h style setup story result'.2.trace
  present : ∀ m ∈ ms, h.isPresent result.2.world m = h.isPresent result'.2.world m
  elsewhere : ∀ {φ : Type} (view : σ → φ), Untouched h setup ms view → view w = view w' →
    view result.2.world = view result'.2.world

/-- Batches over one list whose worlds agree on the answers of the compiler and on which of the modules are there make
the same comparison, whatever fails to be saved in either. -/
theorem run_ignores_faults (I : Insulated h α) (style : Style) {w w' : σ} {ms : List Path}
    (apart : Apart setup I.toPresence w ms)
    (script : I.script w = I.script w') (present : ∀ m ∈ ms, h.isPresent w m = h.isPresent w' m) :
    SameComparison h style setup w w' ms ((run h style setup ms).run (.start w))
      ((run h style setup ms).run (.start w')) := by
  have hstart : Twins style setup I ms (.start w) (.start w') := ⟨script, present, [], .nil, .nil⟩
  obtain ⟨hvisits, hend⟩ := walk_twins I [] (fun m hm => hm) apart hstart
  rw [walk_visits, walk_visits] at hvisits
  let summary := Summary.ofVisits setup ((course h style setup [] ms (.start w)).map Stop.visit)
  let summary' := Summary.ofVisits setup ((course h style setup [] ms (.start w')).map Stop.visit)
  have hsummary : summary.bare = summary'.bare := by
    rw [← ofVisits_bare, ← ofVisits_bare, hvisits]
  have hclosing : closingStory style setup summary = closingStory style setup summary' := by
    rw [← closingStory_bare, hsummary, closingStory_bare]
  have htrace : ∃ story, Tells h style setup story ((run h style setup ms).run (.start w)).2.trace ∧
      Tells h style setup story ((run h style setup ms).run (.start w')).2.trace := by
    obtain ⟨story, hstory, hstory'⟩ := hend.trace
    rw [run_run, run_run]
    refine ⟨story ++ closingStory style setup summary, hstory.append (tells_closingTrace ..), ?_⟩
    rw [hclosing]
    exact hstory'.append (tells_closingTrace ..)
  have hdeeds : comparingDeeds ((run h style setup ms).run (.start w)).2.trace =
      comparingDeeds ((run h style setup ms).run (.start w')).2.trace := by
    obtain ⟨story, hstory, hstory'⟩ := htrace
    rw [hstory.comparingDeeds_eq, hstory'.comparingDeeds_eq]
  obtain ⟨hreports, hskipped, -, hfailure, hstatus⟩ := Summary.mk.inj hsummary
  exact {
    reports := by rwa [run_run, run_run]
    skipped := by rwa [run_run, run_run]
    status := by rwa [run_run, run_run]
    failure := by rwa [run_run, run_run]
    commands := by rw [← commands_comparingDeeds, hdeeds, commands_comparingDeeds]
    deeds := hdeeds
    trace := htrace
    present := by
      rw [run_run, run_run]
      exact hend.present
    elsewhere := by
      intro φ view untouched hview
      rw [untouched.run_eq, untouched.run_eq, hview] }

def noDirectory : FileOp → List Component → Option IoError
  | .createDir, _ => some .enospc
  | _, _ => none

def nestedInsulated : Insulated nestedHost Unit := Drive.insulated _

/-- With every directory refused all four artifacts are lost, and the comparison is the same. -/
theorem run_ignores_faults_no_directory :
    SameComparison nestedHost ⟨false, false⟩ nestedSetup (nestedWorld Drive.faultless)
      (nestedWorld noDirectory) nestedModules
      ((run nestedHost ⟨false, false⟩ nestedSetup nestedModules).run (.start (nestedWorld Drive.faultless)))
      ((run nestedHost ⟨false, false⟩ nestedSetup nestedModules).run (.start (nestedWorld noDirectory))) ∧
    ((run nestedHost ⟨false, false⟩ nestedSetup nestedModules).run
      (.start (nestedWorld Drive.faultless))).1.artifactFailures.length = 0 ∧
    ((run nestedHost ⟨false, false⟩ nestedSetup nestedModules).run
      (.start (nestedWorld noDirectory))).1.artifactFailures.length = 4 := by
  have hapart : Apart nestedSetup nestedInsulated.toPresence (nestedWorld Drive.faultless) nestedModules := by decide +kernel
  exact ⟨run_ignores_faults nestedInsulated ⟨false, false⟩ hapart rfl fun _ _ => rfl, by decide +kernel,
    by decide +kernel⟩

/-- The second module is the directory above the output directory, found only once that was made for the first. No
module is the output directory itself or an artifact. -/
def directoryLast : List Path := [Path.ofString "m.c", Path.ofString "a"]

/-- A module that is a directory above the output directory is found or skipped as the faults have it. -/
theorem faults_hide_directory :
    (∀ m ∈ directoryLast, m.same nestedSetup.outputDir = false ∧
      ∀ n ∈ directoryLast, ∀ mode ∈ [Mode.unoptimized, .optimized],
        m.same (artifactPath nestedSetup.outputDir n.stem mode nestedSetup.extension) = false) ∧
    ¬ SameComparison nestedHost ⟨false, false⟩ nestedSetup (nestedWorld Drive.faultless)
      (nestedWorld noDirectory) directoryLast
      ((run nestedHost ⟨false, false⟩ nestedSetup directoryLast).run (.start (nestedWorld Drive.faultless)))
      ((run nestedHost ⟨false, false⟩ nestedSetup directoryLast).run
        (.start (nestedWorld noDirectory))) := by
  refine ⟨by decide +kernel, fun same => ?_⟩
  have hskipped : ((run nestedHost ⟨false, false⟩ nestedSetup directoryLast).run
        (.start (nestedWorld Drive.faultless))).1.skipped = [] ∧
      ((run nestedHost ⟨false, false⟩ nestedSetup directoryLast).run
        (.start (nestedWorld noDirectory))).1.skipped = [Path.ofString "a"] := by decide +kernel
  rw [same.skipped, hskipped.2] at hskipped
  exact absurd hskipped.1 (by simp)

end Batch
end PassDelta
