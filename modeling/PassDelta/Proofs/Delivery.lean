import PassDelta.Memory
import PassDelta.Proofs.Comparing
import PassDelta.Proofs.Describable
/-!
# Delivering the document

A comparison that is to end in a document shows nothing else. The document is shown exactly if all that it has to tell
is text; if not, there is a complaint in its place, and the exit code is that of the batch all the same.
-/

namespace PassDelta

variable {σ : Type}

namespace Action

def printed? : Action → Option String
  | printed text => some text
  | _ => none

def complained? : Action → Option String
  | complained text => some text
  | _ => none

end Action

def wordsOf (f : Action → Option String) (t : List Action) : String := String.join (t.filterMap f)

abbrev outputOf : List Action → String := wordsOf Action.printed?

abbrev errorsOf : List Action → String := wordsOf Action.complained?

@[simp] theorem wordsOf_append (f : Action → Option String) (t u : List Action) :
    wordsOf f (t ++ u) = wordsOf f t ++ wordsOf f u := by
  rw [wordsOf, List.filterMap_append, String.join_append]
  rfl

theorem wordsOf_singleton {f : Action → Option String} {a : Action} {text : String} (ha : f a = some text) :
    wordsOf f [a] = text := by
  simp [wordsOf, ha]

def Wordless (t : List Action) : Prop := ∀ a ∈ t, a.printed? = none ∧ a.complained? = none

@[simp] theorem wordless_append {t u : List Action} : Wordless (t ++ u) ↔ Wordless t ∧ Wordless u :=
  List.forall_mem_append

theorem Wordless.outputs {t : List Action} (ht : Wordless t) : outputOf t = "" ∧ errorsOf t = "" := by
  have hnone {f : Action → Option String} (hf : ∀ a ∈ t, f a = none) : wordsOf f t = "" := by
    rw [wordsOf, List.filterMap_eq_nil_iff.mpr hf, String.join_nil]
  exact ⟨hnone fun a ha => (ht a ha).1, hnone fun a ha => (ht a ha).2⟩

namespace Batch
variable (h : Host σ) (style : Style) (setup : Setup)

theorem wordless_compileScript (m : Path) (M : Mode) (r : Except InvocationError Capture) :
    Wordless (Line.acts (compileScript h setup m M r)) := by
  cases r <;> simp [compileScript, invokeTrace, Wordless, Action.printed?, Action.complained?]

theorem wordless_persistScript (c : Capture) (loss : Option ArtifactError) :
    Wordless (Line.acts (persistScript style setup c loss)) := by
  unfold persistScript
  rcases loss with _ | ⟨step, path, source⟩
  · simp [saveTrace, Wordless, Action.printed?, Action.complained?]
  · cases step <;> simp [saveTrace, Wordless, Action.printed?, Action.complained?]

theorem wordless_visitScript (w : σ) (stems : List String) (m : Path) :
    Wordless (Line.acts (visitScript h style setup w stems m)) := by
  have hopening : Wordless (Line.acts (openingScript style stems m)) := by
    unfold openingScript
    split <;> simp [Wordless, Action.printed?, Action.complained?]
  have hruns : Wordless (Line.acts (runsScript h setup w m)) := by
    unfold runsScript
    split
    · exact wordless_compileScript h setup m _ _
    · rw [Line.acts_append, wordless_append]
      exact ⟨wordless_compileScript h setup m _ _, wordless_compileScript h setup m _ _⟩
  have hsequel (v : Visit) : Wordless (Line.acts (sequelScript style setup v)) := by
    cases v with
    | skipped m => simp [sequelScript, Wordless]
    | aborted e => simp [sequelScript, abortTrace, Wordless, Action.printed?, Action.complained?]
    | compared c =>
      have hreport : Wordless (Line.acts (reportScript style setup c)) := by
        simp [reportScript, Wordless, Action.printed?, Action.complained?]
      rw [sequelScript, Line.acts_append, Line.acts_append, wordless_append, wordless_append]
      exact ⟨⟨wordless_persistScript style setup _ _, wordless_persistScript style setup _ _⟩, hreport⟩
  unfold visitScript
  split
  · simp only [Line.acts_append, wordless_append]
    exact ⟨⟨hopening, hruns⟩, hsequel _⟩
  · simp [skipScript, Wordless, Action.printed?, Action.complained?]

theorem wordless_walkScript (stems : List String) (found : List (Path × σ)) :
    Wordless (Line.acts (walkScript h style setup stems found)) := by
  induction found generalizing stems with
  | nil => simp [walkScript, Wordless]
  | cons p rest ih =>
    rw [walkScript, Line.acts_append, wordless_append]
    exact ⟨wordless_visitScript h style setup p.2 stems p.1, ih _⟩

theorem wordless_runScript (w : σ) (ms : List Path) : Wordless (Line.acts (runScript h style setup w ms)) := by
  have hclosing (summary : Summary) : Wordless (Line.acts (closingScript style setup summary)) := by
    unfold closingScript
    split <;> simp [Wordless, Action.printed?, Action.complained?]
  rw [runScript, Line.acts_append, wordless_append]
  exact ⟨wordless_walkScript h style setup [] _, hclosing _⟩

end Batch

theorem Options.wordless_readTrace (o : Options) (root : Path) (found : Except IoError String) :
    Wordless (o.readTrace root found) := by
  unfold readTrace
  split
  · split <;> simp [Wordless, Action.printed?, Action.complained?]
  · simp [Wordless, Action.printed?, Action.complained?]

namespace CommandLine
open Batch

/-- A program ends with zero exactly if its batch was completed. -/
theorem codeOf_outcome_eq_zero {summary : Summary}
    (hs : summary.status = .aborted ↔ summary.failure.isSome = true) :
    codeOf (outcome summary) = 0 ↔ summary.isSuccess = true := by
  have hcode := @code_ne_zero_iff Unit ⟨false, false⟩ summary (.start ())
  rw [conclude_run, ← hs, ← Summary.isSuccess_eq_false, ne_eq] at hcode
  rw [← not_iff_not, hcode, Bool.not_eq_true]

def partingWords (style : Style) (summary : Summary) : String :=
  match outcome summary with
  | .ok () => ""
  | .error t => t.render style ++ "\n"

theorem parting_output (style : Style) (summary : Summary) :
    outputOf (parting style (outcome summary)) = "" ∧
      errorsOf (parting style (outcome summary)) = partingWords style summary := by
  unfold partingWords
  cases outcome summary with
  | ok u => exact ⟨rfl, rfl⟩
  | error t => exact ⟨rfl, wordsOf_singleton rfl⟩

def complaint : String := "Error formatting JSON: " ++ Document.writeProblem ++ "\n"

section Delivery
variable {summary : Summary}

theorem delivered_written {text : String} (hw : (Document.ofSummary summary).write = .ok text) :
    outputOf [delivered summary] = text ++ "\n" ∧ errorsOf [delivered summary] = "" := by
  rw [delivered, hw]
  exact ⟨wordsOf_singleton rfl, rfl⟩

theorem delivered_unwritten (hvalue : (Document.ofSummary summary).json? = none) :
    outputOf [delivered summary] = "" ∧ errorsOf [delivered summary] = complaint := by
  rw [delivered, Document.write, hvalue]
  exact ⟨rfl, wordsOf_singleton rfl⟩

end Delivery

/-- A whole output is the document of a batch with this summary and exit code, and a line feed. -/
def IsDocumentOf (summary : Summary) (code : Nat) (output : String) : Prop :=
  ∃ text d, output = text ++ "\n" ∧ Document.read text = .ok d ∧ (d.success = true ↔ code = 0) ∧
    d.analyzed = summary.reports.length ∧ d.skipped = summary.skipped.length ∧ d.failed = summary.failedCount

theorem isDocumentOf_write {summary : Summary} {code : Nat} (hwords : summary.HasWords)
    (hcode : code = 0 ↔ summary.isSuccess = true) {text : String}
    (hw : (Document.ofSummary summary).write = .ok text) : IsDocumentOf summary code (text ++ "\n") := by
  obtain ⟨v, hv, rfl⟩ := Document.write_eq_ok.mp hw
  obtain ⟨d, hread, hsame⟩ := Document.read_pretty hwords.isReadable hv
  have hsuccess : d.success = summary.isSuccess := congrArg Document.success hsame
  exact ⟨v.pretty, d, rfl, hread, by rw [hsuccess, hcode], congrArg Document.analyzed hsame,
    congrArg Document.skipped hsame, congrArg Document.failed hsame⟩

/-- What a comparison that is to end in a document puts out is the delivery and its parting words: reading settings and
running a batch have no words. -/
theorem perform_outputs {h : Host σ} (shows : ∀ n, h.console n = .shown) (style : Style) {root : Path} {o : Options}
    {world : σ} {c : Config} (hc : o.verdict h.wording root (h.read world (o.source root)) = .ok c)
    (json : o.json = true) :
    ((perform h style root (.compare o)).run (.start world)).1 =
        codeOf (outcome (h.summary c.setup world c.modules)) ∧
      outputOf ((perform h style root (.compare o)).run (.start world)).2.trace =
        outputOf [delivered (h.summary c.setup world c.modules)] ∧
      errorsOf ((perform h style root (.compare o)).run (.start world)).2.trace =
        errorsOf [delivered (h.summary c.setup world c.modules)] ++
          partingWords style (h.summary c.setup world c.modules) := by
  obtain ⟨k, hperform⟩ := perform_document_shown h style (s := .start world) shows hc json
  have hread := (o.wordless_readTrace root (h.read world (o.source root))).outputs
  have hrun := (wordless_runScript h style c.setup world c.modules).outputs
  have hparting := parting_output style (h.summary c.setup world c.modules)
  rw [hperform]
  refine ⟨rfl, ?_, ?_⟩
  · simp only [Session.after_trace, Session.start_trace, Session.start_world, List.nil_append, wordsOf_append, hread,
      hrun, hparting, String.empty_append, String.append_empty]
  · simp only [Session.after_trace, Session.start_trace, Session.start_world, List.nil_append, wordsOf_append, hread,
      hrun, hparting, String.empty_append]

/-- How a comparison ends that is to tell the summary of its batch in a document. -/
structure Delivers (style : Style) (c : Config) (summary : Summary) (result : Nat × Session σ) : Prop where
  code : result.1 = 0 ↔ summary.isSuccess = true
  document : IsDocumentOf summary result.1 (outputOf result.2.trace) ↔ Describable c.setup c.modules summary
  delivered : Describable c.setup c.modules summary → errorsOf result.2.trace = partingWords style summary
  undelivered : ¬Describable c.setup c.modules summary →
    outputOf result.2.trace = "" ∧ errorsOf result.2.trace = complaint ++ partingWords style summary

/-- A comparison shows the document of its batch, and nothing else, exactly if all that this has to tell is text; the
exit code is that of the batch either way. -/
theorem compare_delivers (h : Host σ) (style : Style) (root : Path) {o : Options} {world : σ} {c : Config}
    (shows : ∀ n, h.console n = .shown) (json : o.json = true)
    (resolved : ((o.resolve h root).run (.start world)).1 = .ok c) (listed : c.modules.length < twoTo 64)
    (captured : ∀ x, .compared x ∈ ((Batch.walk h style c.setup [] c.modules).run (.start world)).1 →
      ∀ M, (x.captures.get M).stdout.length < twoTo 64) :
    Delivers style c ((Batch.run h style c.setup c.modules).run (.start world)).1
      ((perform h style root (.compare o)).run (.start world)) := by
  have hverdict : o.verdict h.wording root (h.read world (o.source root)) = .ok c := by
    rwa [Options.resolve_run] at resolved
  rw [walk_script] at captured
  have hclosed := (run_closed h style c.setup world c.modules).status_aborted
  rw [run_gives] at hclosed ⊢
  have hcode := codeOf_outcome_eq_zero hclosed
  have hdescribable : Describable c.setup c.modules (h.summary c.setup world c.modules) ↔
      (Document.ofSummary (h.summary c.setup world c.modules)).json?.isSome = true := by
    rw [describable_iff, Document.isSome_json?, Document.paths_ofSummary]
  obtain ⟨hfirst, houtput, herrors⟩ := perform_outputs shows style hverdict json
  rw [← hfirst] at hcode
  cases hvalue : (Document.ofSummary (h.summary c.setup world c.modules)).json? with
  | none =>
    obtain ⟨hout, herr⟩ := delivered_unwritten hvalue
    have hnot : ¬Describable c.setup c.modules (h.summary c.setup world c.modules) := by
      rw [hdescribable, hvalue]
      exact Bool.false_ne_true
    exact {
      code := hcode
      document := by
        refine iff_of_false ?_ hnot
        rintro ⟨text, d, htext, -⟩
        rw [houtput, hout] at htext
        exact absurd htext.symm (by simp)
      delivered := fun hd => absurd hd hnot
      undelivered := fun _ => ⟨houtput.trans hout, by rw [herrors, herr]⟩ }
  | some v =>
    have hwrite := Document.write_eq_ok.mpr ⟨v, hvalue, rfl⟩
    obtain ⟨hout, herr⟩ := delivered_written hwrite
    have hd : Describable c.setup c.modules (h.summary c.setup world c.modules) := by
      rw [hdescribable, hvalue]
      rfl
    exact {
      code := hcode
      document := by
        refine iff_of_true ?_ hd
        rw [houtput, hout]
        exact isDocumentOf_write (summary_hasWords h c.setup listed captured) hcode hwrite
      delivered := fun _ => by rw [herrors, herr, String.empty_append]
      undelivered := fun hnot => absurd hd hnot }

/-- The options of a comparison of one module that is to end in a document. -/
def documentOptions (m : Path) : Options := { Options.none with modules := [m], json := true }

def documentConfig (m : Path) : Config := { Config.initial with modules := [m] }

def documentRun (m : Path) (world : Memory) : Nat × Session Memory :=
  (perform Memory.host ⟨false, false⟩ ⟨[]⟩ (.compare (documentOptions m))).run (.start world)

/-- A world with one module, where runs print a line and artifacts cannot be written. -/
def documentWorld (m : Path) : Memory :=
  ⟨⟨[m], [], [], [⟨.write, .none, .custom .other "disk full"⟩]⟩,
    List.replicate 2 (.ok ⟨.exited 0, Text.encode "ret\n", [], ⟨0⟩⟩)⟩

def documentComparison (m : Path) : Comparison where
  module := m
  captures := .ofFn fun M => ⟨m, M, .exited 0, Text.encode "ret\n", "", ⟨0⟩⟩
  losses := .ofFn fun M => some ⟨.write,
    artifactPath (documentConfig m).outputDir m.stem M (documentConfig m).extension, .custom .other "disk full"⟩

/-- A module whose name is no ASCII, compared where its artifacts cannot be written. -/
theorem compare_delivers_lost_artifacts :
    (((documentOptions (.ofString "é.vy")).resolve Memory.host ⟨[]⟩).run
      (.start (documentWorld (.ofString "é.vy")))).1 = .ok (documentConfig (.ofString "é.vy")) ∧
    IsDocumentOf ((Batch.run Memory.host ⟨false, false⟩ (documentConfig (.ofString "é.vy")).setup
        [.ofString "é.vy"]).run (.start (documentWorld (.ofString "é.vy")))).1 0
      (outputOf (documentRun (.ofString "é.vy") (documentWorld (.ofString "é.vy"))).2.trace) := by
  have hresolved : (((documentOptions (.ofString "é.vy")).resolve Memory.host ⟨[]⟩).run
      (.start (documentWorld (.ofString "é.vy")))).1 = .ok (documentConfig (.ofString "é.vy")) := by decide +kernel
  have hvisits : ((Batch.walk Memory.host ⟨false, false⟩ (documentConfig (.ofString "é.vy")).setup []
      [.ofString "é.vy"]).run (.start (documentWorld (.ofString "é.vy")))).1 =
        [.compared (documentComparison (.ofString "é.vy"))] := by decide +kernel
  have hcode : (documentRun (.ofString "é.vy") (documentWorld (.ofString "é.vy"))).1 = 0 := by decide +kernel
  have hcaptured (x : Comparison) (hx : .compared x ∈ ((Batch.walk Memory.host ⟨false, false⟩
      (documentConfig (.ofString "é.vy")).setup [] [.ofString "é.vy"]).run
        (.start (documentWorld (.ofString "é.vy")))).1) (M : Mode) :
      (x.captures.get M).stdout.length < twoTo 64 := by
    rw [hvisits, List.mem_singleton] at hx
    obtain rfl := Visit.compared.inj hx
    cases M <;> decide
  have hdelivers := compare_delivers Memory.host ⟨false, false⟩ ⟨[]⟩ (fun _ => rfl) rfl hresolved (by decide)
    hcaptured
  have hdocument := hdelivers.document.mpr
  rw [documentRun] at hcode ⊢
  rw [hcode] at hdocument
  refine ⟨hresolved, hdocument ⟨?_, ?_⟩⟩
  · intro m hm
    obtain rfl := List.mem_singleton.mp (List.mem_of_mem_take hm)
    decide +kernel
  · intro hne
    decide +kernel

/-- A batch that skips a module whose path is no text is completed and leaves the console without a document. -/
theorem compare_leaves_no_document :
    (((documentOptions ⟨[0x61, 0xFF]⟩).resolve Memory.host ⟨[]⟩).run (.start ⟨.empty, []⟩)).1 =
        .ok (documentConfig ⟨[0x61, 0xFF]⟩) ∧
      (documentRun ⟨[0x61, 0xFF]⟩ ⟨.empty, []⟩).1 = 0 ∧
      ¬∃ text, outputOf (documentRun ⟨[0x61, 0xFF]⟩ ⟨.empty, []⟩).2.trace = text ++ "\n" := by
  have hnothing : outputOf (documentRun ⟨[0x61, 0xFF]⟩ ⟨.empty, []⟩).2.trace = "" := by decide +kernel
  refine ⟨by decide +kernel, by decide +kernel, ?_⟩
  rw [hnothing]
  rintro ⟨text, htext⟩
  exact absurd htext.symm (by simp)

end CommandLine
end PassDelta
