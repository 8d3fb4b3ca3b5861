import PassDelta.Memory
import PassDelta.Proofs.Comparing
/-!
# The console has no part in a batch

What becomes of a batch's text decides nothing: two consoles get one script told, and the rest is the same. So a report
for people and a document tell of one outcome, and the command that printed either ends with one code.
-/

namespace PassDelta

open CommandLine

variable {σ : Type}

/-- Two runs have the same effects. The host may be any, so its world can keep every call with all that was passed. -/
structure SameEffects (r r' : Summary × Session σ) : Prop where
  summary : r.1 = r'.1
  world : r.2.world = r'.2.world
  requests : requests r.2.trace = requests r'.2.trace
  events : events r.2.trace = events r'.2.trace
  deeds : deeds r.2.trace = deeds r'.2.trace

theorem SameEffects.of_deeds {r r' : Summary × Session σ} (summary : r.1 = r'.1) (world : r.2.world = r'.2.world)
    (hdeeds : PassDelta.deeds r.2.trace = PassDelta.deeds r'.2.trace) : SameEffects r r' := by
  refine ⟨summary, world, ?_, ?_, hdeeds⟩
  · rw [← requests_deeds, hdeeds, requests_deeds]
  · rw [← events_notices, ← notices_deeds, hdeeds, notices_deeds, events_notices]

namespace Batch

variable (h : Host σ) (style : Style)

theorem run_sameEffects (setup : Setup) (ms : List Path) (console console' : Nat → Shown) (s : Session σ) :
    SameEffects ((run (h.withConsole console) style setup ms).run s)
      ((run (h.withConsole console') style setup ms).run s) := by
  apply SameEffects.of_deeds
  · rw [run_script, run_script, Host.summary_withConsole, Host.summary_withConsole]
  · rw [run_script, run_script, Session.after_world, Session.after_world, Host.left_withConsole,
      Host.left_withConsole]
  · simp only [run_script, Session.after_trace, deeds_append, Host.deeds_tell, runScript_withConsole]

theorem run_one_script (setup : Setup) (ms : List Path) (s : Session σ) :
    ∃ lines, ∀ console, ((run (h.withConsole console) style setup ms).run s).2.trace =
      s.trace ++ (h.withConsole console).tell s.blocks lines := by
  refine ⟨runScript h style setup s.world ms, fun console => ?_⟩
  rw [run_script, runScript_withConsole, Session.after_trace]

theorem deeds_delivery (n : Nat) (summary : Summary) : deeds (delivery h n summary) = [] := by
  unfold delivery
  split
  · exact deeds_offered h n _
  · rfl

/-- A batch whose summary becomes a document has the effects of the batch alone, whatever becomes of the document. -/
theorem compareAsDocument_sameEffects (c : Config) (s : Session σ) :
    SameEffects ((run h style c.setup c.modules).run s) ((Prod.fst <$> compareAsDocument h style c).run s) := by
  obtain ⟨n, k, hdocument⟩ := compareAsDocument_run h style c s
  have hfirst : (Prod.fst <$> compareAsDocument h style c).run s =
      (((compareAsDocument h style c).run s).1.1, ((compareAsDocument h style c).run s).2) := rfl
  rw [hfirst, hdocument]
  apply SameEffects.of_deeds
  · rw [run_script]
  · rw [run_script]
    rfl
  · simp only [run_script, Session.after_trace, deeds_append, Host.deeds_tell, deeds_delivery, List.append_nil]

/-- One comparison made with a report for people from the session `s`, and with a document from the session `d`: both
end with one code in one world after the same batch, and tell the same trouble or the summary of that batch. -/
structure ModesAgree (h : Host σ) (style : Style) (s d : Session σ) (resolved : Except Trouble Config)
    (report document : Nat × Session σ) : Prop where
  code : report.1 = document.1
  world : report.2.world = document.2.world
  deeds : ∃ reading probes batch, deeds report.2.trace = deeds s.trace ++ reading ++ probes ++ batch ∧
    deeds document.2.trace = deeds d.trace ++ reading ++ batch ∧
    ∀ a ∈ probes, ∃ program, a = .ran (Tool.versionCommand program)
  unresolved : ∀ t, resolved = .error t → report.1 = t.exitCode ∧ ∃ told, report.2.trace = s.trace ++ told ∧
    document.2.trace = d.trace ++ told ∧ told.getLast? = some (.complained (t.render style ++ "\n"))
  told : ∀ c, resolved = .ok c → ∃ summary before before', summary = ((run h style c.setup c.modules).run d).1 ∧
    report.1 = codeOf (outcome summary) ∧
    report.2.trace = before ++ .printed (Console.batchReport style summary c.outputDir ++ "\n") ::
      parting style (outcome summary) ∧
    document.2.trace = before' ++ delivered summary :: parting style (outcome summary)

section Modes
variable {h style} {root : Path} {o : Options} {s d : Session σ}

/-- The last that a batch tells a working console is its report. -/
theorem tell_runScript_of_shown (style : Style) (shows : ∀ n, h.console n = .shown) (n : Nat) (setup : Setup) (w : σ)
    (ms : List Path) : ∃ before, h.tell n (runScript h style setup w ms) =
      before ++ [.printed (Console.batchReport style (h.summary setup w ms) setup.outputDir ++ "\n")] := by
  rw [runScript, Host.tell_append, tell_closingScript]
  unfold closingTrace
  rw [Host.said_of_shown shows, ← List.append_assoc]
  exact ⟨_, rfl⟩

theorem deeds_probeTrace (w : σ) (program : String) :
    ∀ a ∈ deeds (Tool.probeTrace h w program), ∃ program, a = .ran (Tool.versionCommand program) := by
  unfold Tool.probeTrace
  cases h.locate w program with
  | none => simp
  | some path => simp [Action.isDeed]

theorem deeds_readTrace (o : Options) (root : Path) (found : Except IoError String) :
    deeds (o.readTrace root found) = [.fetched (o.source root)] := by
  unfold Options.readTrace
  rw [deeds_cons, if_pos (show (Action.fetched (o.source root)).isDeed = true from rfl)]
  congr 1
  split
  · split <;> rfl
  · rfl

theorem deeds_delivered (summary : Summary) : deeds [delivered summary] = [] := by
  unfold delivered
  cases (Document.ofSummary summary).write <;> rfl

theorem deeds_printed (text : String) : deeds [.printed text] = [] := rfl

theorem deeds_parting (r : Except Trouble Unit) : deeds (parting style r) = [] := by
  cases r <;> rfl

theorem deeds_farewell (e : Ending) : deeds (farewell style e) = [] := by
  cases e with
  | ok r => exact deeds_parting r
  | error e => rfl

/-- Whether a document is wanted has no part in the settings. -/
theorem readTrace_withJson (b : Bool) (found : Except IoError String) :
    ({ o with json := b } : Options).readTrace root found = o.readTrace root found := rfl

theorem source_withJson (b : Bool) : ({ o with json := b } : Options).source root = o.source root := rfl

theorem modesAgree_unresolved {t : Trouble} (hworld : d.world = s.world)
    (ht : o.verdict h.wording root (h.read s.world (o.source root)) = .error t) :
    ModesAgree h style s d (.error t) ((perform h style root (.compare { o with json := false })).run s)
      ((perform h style root (.compare { o with json := true })).run d) := by
  have hreport := perform_unresolved h style (o := { o with json := false }) ht
  have hdocument := perform_unresolved h style (o := { o with json := true }) (hworld ▸ ht)
  rw [readTrace_withJson, source_withJson] at hreport hdocument
  rw [hreport, hdocument, hworld]
  exact {
    code := rfl
    world := rfl
    deeds := ⟨[.fetched (o.source root)], [], [], by simp [deeds_readTrace, Action.isDeed],
      by simp [deeds_readTrace, Action.isDeed], by simp⟩
    unresolved := by
      rintro _ ⟨⟩
      exact ⟨rfl, _, rfl, rfl, List.getLast?_concat⟩
    told := by
      rintro c ⟨⟩ }

theorem modesAgree_resolved (shows : ∀ n, h.console n = .shown) {c : Config}
    (hworld : d.world = Tool.probed h s.world c.compiler)
    (hc : o.verdict h.wording root (h.read s.world (o.source root)) = .ok c)
    (hd : o.verdict h.wording root (h.read d.world (o.source root)) = .ok c) :
    ModesAgree h style s d (.ok c) ((perform h style root (.compare { o with json := false })).run s)
      ((perform h style root (.compare { o with json := true })).run d) := by
  obtain ⟨known, k, hreport⟩ := perform_report h style (o := { o with json := false }) shows hc rfl
  obtain ⟨k', hdocument⟩ := perform_document_shown h style (o := { o with json := true }) shows hd rfl
  rw [readTrace_withJson, source_withJson] at hreport hdocument
  rw [← hworld] at hreport
  have hsummary : h.summary c.setup d.world c.modules = ((run h style c.setup c.modules).run d).1 := by
    rw [run_script]
  obtain ⟨before, htell⟩ := tell_runScript_of_shown style shows (s.blocks + 2) c.setup d.world c.modules
  rw [hreport, hdocument]
  exact {
    code := rfl
    world := rfl
    deeds := by
      refine ⟨[.fetched (o.source root)], deeds (Tool.probeTrace h s.world c.compiler),
        deeds (Line.acts (runScript h style c.setup d.world c.modules)), ?_, ?_, deeds_probeTrace _ _⟩
      · simp only [Session.after_trace, deeds_append, deeds_readTrace, deeds_printed, Host.deeds_tell, deeds_parting,
          List.append_nil, List.nil_append, List.append_assoc]
      · simp only [Session.after_trace, deeds_append, deeds_readTrace, deeds_delivered, deeds_parting,
          List.append_nil, List.append_assoc]
    unresolved := by
      rintro t ⟨⟩
    told := by
      rintro _ ⟨⟩
      refine ⟨h.summary c.setup d.world c.modules, s.trace ++ (o.readTrace root (h.read s.world (o.source root)) ++
          ([.printed (announcement style c)] ++ Tool.probeTrace h s.world c.compiler ++ [.printed known]) ++ before),
        d.trace ++ (o.readTrace root (h.read d.world (o.source root)) ++
          Line.acts (runScript h style c.setup d.world c.modules)), hsummary, rfl, ?_, ?_⟩
      · rw [Session.after_trace, htell]
        simp only [List.append_assoc, List.cons_append, List.nil_append]
        rfl
      · rw [Session.after_trace]
        simp only [List.append_assoc, List.singleton_append] }

/-- The world in which a comparison for people begins its batch: the one that learning of the compiler leaves. -/
def reached (h : Host σ) (root : Path) (o : Options) (s : Session σ) : σ :=
  match ((o.resolve h root).run s).1 with
  | .ok c => ((Tool.probe h c.compiler).run s).2.world
  | .error _ => s.world

theorem modesAgree (shows : ∀ n, h.console n = .shown) (hworld : d.world = reached h root o s)
    (settled : ((o.resolve h root).run d).1 = ((o.resolve h root).run s).1) :
    ModesAgree h style s d ((o.resolve h root).run s).1
      ((perform h style root (.compare { o with json := false })).run s)
      ((perform h style root (.compare { o with json := true })).run d) := by
  unfold reached at hworld
  rw [Options.resolve_run, Options.resolve_run] at settled
  rw [Options.resolve_run] at hworld ⊢
  cases hverdict : o.verdict h.wording root (h.read s.world (o.source root)) with
  | error t =>
    rw [hverdict] at hworld
    exact modesAgree_unresolved hworld hverdict
  | ok c =>
    obtain ⟨status, hprobe⟩ := Tool.probe_run h c.compiler s
    simp only [hverdict, hprobe, Session.after_world] at hworld settled
    exact modesAgree_resolved shows hworld hverdict settled

end Modes

/-- The console has no part in what a comparison made from the session `s` does and comes to. Its two modes are compared
where the batch begins in one world: a comparison for people has asked for the compiler's version before. -/
structure IgnoresConsole (h : Host σ) (style : Style) (s : Session σ) : Prop where
  effects : ∀ setup ms console console', SameEffects ((run (h.withConsole console) style setup ms).run s)
    ((run (h.withConsole console') style setup ms).run s)
  script : ∀ setup ms, ∃ lines, ∀ console, ((run (h.withConsole console) style setup ms).run s).2.trace =
    s.trace ++ (h.withConsole console).tell s.blocks lines
  document : ∀ c, SameEffects ((run h style c.setup c.modules).run s)
    ((Prod.fst <$> compareAsDocument h style c).run s)
  modes : ∀ (root : Path) (o : Options) (d : Session σ), (∀ n, h.console n = .shown) → d.world = reached h root o s →
    ((o.resolve h root).run d).1 = ((o.resolve h root).run s).1 →
    ModesAgree h style s d ((o.resolve h root).run s).1
      ((perform h style root (.compare { o with json := false })).run s)
      ((perform h style root (.compare { o with json := true })).run d)

/-- A batch is the same on every console, and a comparison comes to the same in both of its modes. -/
theorem run_ignores_console (h : Host σ) (style : Style) (s : Session σ) : IgnoresConsole h style s where
  effects := fun setup ms console console' => run_sameEffects h style setup ms console console' s
  script := fun setup ms => run_one_script h style setup ms s
  document := fun c => compareAsDocument_sameEffects h style c s
  modes := fun _ _ _ shows hworld settled => modesAgree shows hworld settled

/-- A comparison whose text is refused ends with the code of a crash. One for people ends so before its batch; one that is
to end in a document ends so after it, unless its document cannot be written and so is not offered. -/
structure Crashes (h : Host σ) (style : Style) (s : Session σ) (root : Path) (o : Options) (c : Config)
    (report document : Nat × Session σ) : Prop where
  unstarted : report.1 = crashCode ∧ report.2.world = s.world ∧
    deeds report.2.trace = deeds s.trace ++ [.fetched (o.source root)]
  code : ∃ summary, summary = ((run h style c.setup c.modules).run s).1 ∧
    document.1 = (if (Document.ofSummary summary).write.isOk then crashCode else codeOf (outcome summary))
  world : document.2.world = ((run h style c.setup c.modules).run s).2.world
  deeds : ∃ batch, deeds ((run h style c.setup c.modules).run s).2.trace = deeds s.trace ++ batch ∧
    deeds document.2.trace = deeds s.trace ++ [.fetched (o.source root)] ++ batch

theorem compare_crashes (h : Host σ) (style : Style) (s : Session σ) {root : Path} {o : Options} {c : Config}
    (refuses : ∀ n, ∃ e, h.console n = .refused e) (resolved : ((o.resolve h root).run s).1 = .ok c) :
    Crashes h style s root o c ((perform h style root (.compare { o with json := false })).run s)
      ((perform h style root (.compare { o with json := true })).run s) := by
  rw [Options.resolve_run] at resolved
  obtain ⟨e, he⟩ := refuses s.blocks
  have hreport := perform_report_refused h style (o := { o with json := false }) resolved rfl he
  obtain ⟨n, k, hdocument⟩ := perform_document h style (o := { o with json := true }) resolved rfl
  rw [readTrace_withJson, source_withJson] at hreport hdocument
  obtain ⟨e', he'⟩ := refuses n
  rw [hreport, hdocument]
  exact {
    unstarted := by
      refine ⟨rfl, rfl, ?_⟩
      simp only [Session.after_trace, deeds_append, deeds_readTrace, deeds_farewell, List.append_nil]
    code := by
      refine ⟨h.summary c.setup s.world c.modules, by rw [run_script], ?_⟩
      simp only [accepted, Host.taken, he']
      cases (Document.ofSummary (h.summary c.setup s.world c.modules)).write <;> rfl
    world := by
      rw [run_script]
      rfl
    deeds := by
      refine ⟨deeds (Line.acts (runScript h style c.setup s.world c.modules)), ?_, ?_⟩
      · rw [run_script, Session.after_trace, deeds_append, Host.deeds_tell]
      · simp only [Session.after_trace, deeds_append, deeds_readTrace, deeds_delivery, deeds_farewell,
          List.append_nil, List.append_assoc] }

/-- A comparison of two modules, the first of which is missing, without a configuration file. -/
def failingOptions : Options :=
  { Options.none with modules := [Path.ofString "gone.vy", Path.ofString "a.vy"] }

def failingWorld : Memory :=
  ⟨⟨[Path.ofString "a.vy"], [], [], []⟩,
    [.ok ⟨.exited 0, Text.encode "ret\n", [], ⟨0⟩⟩, .ok ⟨.exited 1, [], Text.encode "no\n", ⟨0⟩⟩]⟩

/-- Memory where every program is on the search path, so the question for a version takes an answer away. -/
def askingHost : Host Memory := { Memory.host with locate := fun _ program => some (.ofString program) }

def askedWorld : Memory :=
  { failingWorld with answers := .ok ⟨.exited 0, Text.encode "1.0\n", [], ⟨0⟩⟩ :: failingWorld.answers }

/-- A comparison that fails ends with one code in both modes, although only the one for people has asked for a version
before. -/
theorem run_ignores_console_failing :
    ((perform askingHost ⟨false, false⟩ ⟨[]⟩ (.compare { failingOptions with json := false })).run
        (.start askedWorld)).1 = 1 ∧
      ((perform askingHost ⟨false, false⟩ ⟨[]⟩ (.compare { failingOptions with json := true })).run
        (.start failingWorld)).1 = 1 := by
  have hmodes := (run_ignores_console askingHost ⟨false, false⟩ (.start askedWorld)).modes ⟨[]⟩ failingOptions
    (.start failingWorld) (fun _ => rfl) rfl (by decide +kernel)
  have hreport : ((perform askingHost ⟨false, false⟩ ⟨[]⟩ (.compare { failingOptions with json := false })).run
      (.start askedWorld)).1 = 1 := by decide +kernel
  exact ⟨hreport, hmodes.code.symm.trans hreport⟩

end Batch
end PassDelta
