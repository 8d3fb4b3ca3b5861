import PassDelta.Proofs.Outcome
import PassDelta.Proofs.Resolution
import PassDelta.Proofs.Script
/-!
# Comparisons from the command line

A comparison reads its settings and then either says why there are none, or runs a batch and tells its summary: as
text behind two lines about the compiler, or as one document. Its exit code is a matter of the result alone.
-/

namespace PassDelta

variable {σ : Type} (h : Host σ)

namespace Host

def silent : Host σ := h.withConsole fun _ => .dropped

variable (console : Nat → Shown) (setup : Setup)

@[simp] theorem attend_withConsole (w : σ) (m : Path) :
    (h.withConsole console).attend setup w m = h.attend setup w m := rfl

@[simp] theorem stations_withConsole (w : σ) (ms : List Path) :
    (h.withConsole console).stations setup w ms = h.stations setup w ms := by
  induction ms generalizing w with
  | nil => rfl
  | cons m rest ih => rw [stations, stations, attend_withConsole, ih]

@[simp] theorem left_withConsole (w : σ) (ms : List Path) :
    (h.withConsole console).left setup w ms = h.left setup w ms := by
  induction ms generalizing w with
  | nil => rfl
  | cons m rest ih => rw [left, left, attend_withConsole, ih]

@[simp] theorem summary_withConsole (w : σ) (ms : List Path) :
    (h.withConsole console).summary setup w ms = h.summary setup w ms := by
  simp only [summary, visits, stations_withConsole, attend_withConsole]

/-- Nothing of a script but its acts is told to a console that shows nothing. -/
theorem tell_silent (n : Nat) (lines : List Line) : h.silent.tell n lines = Line.acts lines := by
  induction lines generalizing n with
  | nil => rfl
  | cons line rest ih =>
    cases line with
    | act a => rw [tell, ih, Line.acts_act]
    | block text =>
      rw [tell, ih, Line.acts_block]
      rfl

end Host

namespace Batch
variable (console : Nat → Shown) (style : Style) (setup : Setup)

@[simp] theorem visitScript_withConsole (w : σ) (stems : List String) (m : Path) :
    visitScript (h.withConsole console) style setup w stems m = visitScript h style setup w stems m := rfl

@[simp] theorem walkScript_withConsole (stems : List String) (found : List (Path × σ)) :
    walkScript (h.withConsole console) style setup stems found = walkScript h style setup stems found := by
  induction found generalizing stems with
  | nil => rfl
  | cons p rest ih => rw [walkScript, walkScript, ih, visitScript_withConsole, Host.attend_withConsole]

/-- What a batch does and has to say is no matter of the console. -/
@[simp] theorem runScript_withConsole (w : σ) (ms : List Path) :
    runScript (h.withConsole console) style setup w ms = runScript h style setup w ms := by
  simp only [runScript, walkScript_withConsole, Host.stations_withConsole, Host.summary_withConsole]

end Batch

namespace Host
variable {h : Host σ} (shows : ∀ n, h.console n = .shown) (n : Nat) (text : String)
include shows

theorem said_of_shown : h.said n text = [.printed text] := by rw [said, shows n]

theorem offered_of_shown : h.offered n text = [.printed text] := by rw [offered, shows n]

theorem taken_of_shown : h.taken n = .ok () := by rw [taken, shows n]

end Host

namespace Tool

def versionCommand (program : String) : Command := ⟨program, [Text.encode "--version"], .untimed⟩

def probeTrace (w : σ) (program : String) : List Action :=
  match h.locate w program with
  | none => []
  | some path =>
    [.logged .debug (program ++ " resolved to " ++ path.display), .ran (versionCommand program)]

def probed (w : σ) (program : String) : σ :=
  match h.locate w program with
  | none => w
  | some _ => (h.execute w (versionCommand program)).2

theorem locate_run (program : String) (s : Session σ) :
    (Work.locate h program).run s = (h.locate s.world program, s) := rfl

theorem version_run (program : String) (s : Session σ) : ∃ answer, (version h program).run s =
    (answer, s.after (h.execute s.world (versionCommand program)).2 [.ran (versionCommand program)] 0) := by
  have hcommand : versionCommand program = ⟨program, [Text.encode "--version"], .untimed⟩ := rfl
  unfold version
  rw [Work.bind_run, Work.execute_run, ← hcommand]
  cases (h.execute s.world (versionCommand program)).1 with
  | error source => exact ⟨_, rfl⟩
  | ok done =>
    dsimp only
    split <;> exact ⟨_, rfl⟩

theorem probe_run (program : String) (s : Session σ) : ∃ status, (probe h program).run s =
    (status, s.after (probed h s.world program) (probeTrace h s.world program) 0) := by
  unfold probe probed probeTrace
  rw [Work.bind_run, locate_run]
  cases h.locate s.world program with
  | none =>
    exact ⟨.missing, by rw [Session.after_nil]; rfl⟩
  | some path =>
    dsimp only
    obtain ⟨answer, hanswer⟩ := version_run h program
      (s.after s.world [.logged .debug (program ++ " resolved to " ++ path.display)] 0)
    rw [Work.bind_run, Work.log_run, Work.bind_run, hanswer, Session.after_after]
    cases answer with
    | error e => exact ⟨_, rfl⟩
    | ok v =>
      dsimp only
      split <;> exact ⟨_, rfl⟩

end Tool

namespace CommandLine

variable (style : Style)

def parting : Except Trouble Unit → List Action
  | .ok () => []
  | .error t => [.complained (t.render style ++ "\n")]

def codeOf : Except Trouble Unit → Nat
  | .ok () => 0
  | .error t => t.exitCode

theorem conclude_run (r : Except Trouble Unit) (s : Session σ) :
    (conclude style r).run s = (codeOf r, s.after s.world (parting style r) 0) := by
  cases r with
  | ok u =>
    rw [parting, Session.after_nil]
    rfl
  | error t => rfl

def exitCode : Ending → Nat
  | .ok r => codeOf r
  | .error _ => crashCode

def farewell : Ending → List Action
  | .ok r => parting style r
  | .error e => [.complained ("failed printing to stdout" ++ ": " ++ e.message ++ "\n")]

theorem finish_run (e : Ending) (s : Session σ) :
    (finish style e).run s = (exitCode e, s.after s.world (farewell style e) 0) := by
  cases e with
  | ok r => exact conclude_run style r s
  | error e => rfl

/-- The document of a summary as it is delivered, or the complaint that it cannot be written. -/
def delivery (n : Nat) (summary : Summary) : List Action :=
  match (Document.ofSummary summary).write with
  | .ok text => h.offered n (text ++ "\n")
  | .error problem => [.complained ("Error formatting JSON: " ++ problem ++ "\n")]

/-- Whether the console takes the document of a summary. One that cannot be written is not offered. -/
def accepted (n : Nat) (summary : Summary) : Except IoError Unit :=
  match (Document.ofSummary summary).write with
  | .ok _ => h.taken n
  | .error _ => .ok ()

theorem deliver_run (summary : Summary) (s : Session σ) : ∃ k, (deliver h summary).run s =
    (accepted h s.blocks summary, s.after s.world (delivery h s.blocks summary) k) := by
  unfold deliver accepted delivery
  cases (Document.ofSummary summary).write with
  | ok text => exact ⟨1, Work.offer_run h _ s⟩
  | error problem => exact ⟨0, rfl⟩

def delivered (summary : Summary) : Action :=
  match (Document.ofSummary summary).write with
  | .ok text => .printed (text ++ "\n")
  | .error problem => .complained ("Error formatting JSON: " ++ problem ++ "\n")

variable {h} in
theorem delivery_of_shown (shows : ∀ n, h.console n = .shown) (n : Nat) (summary : Summary) :
    delivery h n summary = [delivered summary] := by
  unfold delivery delivered
  cases (Document.ofSummary summary).write with
  | ok text => exact Host.offered_of_shown shows n _
  | error problem => rfl

variable {h} in
theorem accepted_of_shown (shows : ∀ n, h.console n = .shown) (n : Nat) (summary : Summary) :
    accepted h n summary = .ok () := by
  unfold accepted
  cases (Document.ofSummary summary).write with
  | ok text => exact Host.taken_of_shown shows n
  | error problem => rfl

theorem compareAsDocument_run (c : Config) (s : Session σ) : ∃ n k, (compareAsDocument h style c).run s =
    ((h.summary c.setup s.world c.modules, accepted h n (h.summary c.setup s.world c.modules)),
      s.after (h.left c.setup s.world c.modules)
        (Line.acts (Batch.runScript h style c.setup s.world c.modules) ++
          delivery h n (h.summary c.setup s.world c.modules)) k) := by
  have hsilent : (h.withConsole fun _ => .dropped) = h.silent := rfl
  have hrun := Batch.run_script h.silent style c.setup c.modules s
  rw [Host.tell_silent, ← hsilent, Host.summary_withConsole, Host.left_withConsole,
    Batch.runScript_withConsole] at hrun
  obtain ⟨k, hdeliver⟩ := deliver_run h (h.summary c.setup s.world c.modules) (s.after
    (h.left c.setup s.world c.modules) (Line.acts (Batch.runScript h style c.setup s.world c.modules))
    (Line.blocks (Batch.runScript h style c.setup s.world c.modules)))
  unfold compareAsDocument
  rw [Work.bind_run, hrun, Work.bind_run, hdeliver, Session.after_after]
  exact ⟨_, _, rfl⟩

/-- What is said and done before a batch for people: two lines, the second after a look at the compiler. A line that
is refused is the last. -/
theorem announce_run (c : Config) (s : Session σ) : ∃ known, (announce h style c).run s =
    match h.taken s.blocks with
    | .error e => (.error e, s.after s.world (h.offered s.blocks (announcement style c)) 1)
    | .ok () => (h.taken (s.blocks + 1), s.after (Tool.probed h s.world c.compiler)
        (h.offered s.blocks (announcement style c) ++ Tool.probeTrace h s.world c.compiler ++
          h.offered (s.blocks + 1) known) 2) := by
  obtain ⟨status, hprobe⟩ := Tool.probe_run h c.compiler
    (s.after s.world (h.offered s.blocks (announcement style c)) 1)
  refine ⟨Tool.describe style c.compiler status ++ "\n", ?_⟩
  unfold announce
  rw [Work.bind_run, Work.offer_run]
  cases h.taken s.blocks with
  | error e => rfl
  | ok u =>
    dsimp only
    rw [Work.bind_run, hprobe, Work.offer_run]
    simp only [Session.after_after, Session.after_world, Session.after_blocks]

section Perform
variable {root : Path} {o : Options} {s : Session σ}

theorem perform_unresolved {t : Trouble} (ht : o.verdict h.wording root (h.read s.world (o.source root)) = .error t) :
    (perform h style root (.compare o)).run s = (t.exitCode, s.after s.world
      (o.readTrace root (h.read s.world (o.source root)) ++ [.complained (t.render style ++ "\n")]) 0) := by
  unfold perform compare
  simp only [Work.bind_run]
  rw [Options.resolve_run, ht]
  simp only [Work.pure_run, finish_run, exitCode, farewell, codeOf, parting, Session.after_after,
    Session.after_world]

/-- A comparison that is to end in a document runs its batch whatever becomes of the document. -/
theorem perform_document {c : Config} (hc : o.verdict h.wording root (h.read s.world (o.source root)) = .ok c)
    (hjson : o.json = true) : ∃ n k, (perform h style root (.compare o)).run s =
      let summary := h.summary c.setup s.world c.modules
      let ending : Ending := (accepted h n summary).map fun _ => outcome summary
      (exitCode ending, s.after (h.left c.setup s.world c.modules)
        (o.readTrace root (h.read s.world (o.source root)) ++
          Line.acts (Batch.runScript h style c.setup s.world c.modules) ++
          delivery h n summary ++ farewell style ending) k) := by
  obtain ⟨n, k, hdocument⟩ := compareAsDocument_run h style c
    (s.after s.world (o.readTrace root (h.read s.world (o.source root))) 0)
  refine ⟨n, k, ?_⟩
  unfold perform compare
  simp only [Work.bind_run]
  rw [Options.resolve_run, hc]
  simp only [hjson, ↓reduceIte, Work.bind_run, Work.pure_run, hdocument, finish_run, Session.after_after,
    Session.after_world, List.append_assoc, Nat.add_zero, Nat.zero_add]

theorem perform_document_shown (shows : ∀ n, h.console n = .shown) {c : Config}
    (hc : o.verdict h.wording root (h.read s.world (o.source root)) = .ok c) (hjson : o.json = true) :
    ∃ k, (perform h style root (.compare o)).run s =
      let summary := h.summary c.setup s.world c.modules
      (codeOf (outcome summary), s.after (h.left c.setup s.world c.modules)
        (o.readTrace root (h.read s.world (o.source root)) ++
          Line.acts (Batch.runScript h style c.setup s.world c.modules) ++
          [delivered summary] ++ parting style (outcome summary)) k) := by
  obtain ⟨n, k, hdocument⟩ := perform_document h style hc hjson
  simp only [accepted_of_shown shows, delivery_of_shown shows] at hdocument
  exact ⟨k, hdocument⟩

/-- A comparison for people that a working console shows runs its batch in the world that learning of the compiler
leaves. -/
theorem perform_report (shows : ∀ n, h.console n = .shown) {c : Config}
    (hc : o.verdict h.wording root (h.read s.world (o.source root)) = .ok c) (hjson : o.json = false) :
    ∃ known k, (perform h style root (.compare o)).run s =
      let w := Tool.probed h s.world c.compiler
      (codeOf (outcome (h.summary c.setup w c.modules)), s.after (h.left c.setup w c.modules)
        (o.readTrace root (h.read s.world (o.source root)) ++
          ([.printed (announcement style c)] ++ Tool.probeTrace h s.world c.compiler ++ [.printed known]) ++
          h.tell (s.blocks + 2) (Batch.runScript h style c.setup w c.modules) ++
          parting style (outcome (h.summary c.setup w c.modules))) k) := by
  obtain ⟨known, hannounce⟩ := announce_run h style c
    (s.after s.world (o.readTrace root (h.read s.world (o.source root))) 0)
  rw [Host.taken_of_shown shows, Host.taken_of_shown shows, Host.offered_of_shown shows,
    Host.offered_of_shown shows] at hannounce
  refine ⟨known, 2 + Line.blocks (Batch.runScript h style c.setup (Tool.probed h s.world c.compiler)
    c.modules), ?_⟩
  unfold perform compare
  simp only [Work.bind_run]
  rw [Options.resolve_run, hc]
  simp only [hjson, Bool.false_eq_true, ↓reduceIte, Work.bind_run, Work.pure_run, hannounce, Batch.run_script,
    finish_run, exitCode, farewell, Session.after_after, Session.after_world, Session.after_blocks, Nat.add_zero,
    Nat.zero_add]

/-- A comparison for people whose first line is refused ends there. -/
theorem perform_report_refused {c : Config} (hc : o.verdict h.wording root (h.read s.world (o.source root)) = .ok c)
    (hjson : o.json = false) {e : IoError} (hrefused : h.console s.blocks = .refused e) :
    (perform h style root (.compare o)).run s = (crashCode, s.after s.world
      (o.readTrace root (h.read s.world (o.source root)) ++ farewell style (.error e)) 1) := by
  obtain ⟨known, hannounce⟩ := announce_run h style c
    (s.after s.world (o.readTrace root (h.read s.world (o.source root))) 0)
  have htaken : h.taken s.blocks = .error e := by rw [Host.taken, hrefused]
  have hoffered : h.offered s.blocks (announcement style c) = [] := by rw [Host.offered, hrefused]
  simp only [Session.after_blocks, Nat.add_zero, htaken, hoffered] at hannounce
  unfold perform compare
  simp only [Work.bind_run]
  rw [Options.resolve_run, hc]
  simp only [hjson, Bool.false_eq_true, ↓reduceIte, Work.bind_run, Work.pure_run, hannounce, finish_run, exitCode,
    Session.after_after, Session.after_world, Nat.zero_add, List.append_nil]

end Perform
end CommandLine

end PassDelta
