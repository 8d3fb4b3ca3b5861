import PassDelta.Console
import PassDelta.Session
/-!
# Batches

A batch visits the listed modules in order. A module that is not there is skipped; any other is compiled in
both modes, both captures are saved, and the pair is reported. The first run without usable output ends the
batch, and no later module is touched. What happened at each list position is a `Visit`; the summary is read off
the visits.
-/

namespace PassDelta

/-- One module compared: both captures, and for each mode the error if its artifact was lost. -/
structure Comparison where
  module : Path
  captures : PerMode Capture
  losses : PerMode (Option ArtifactError)
  deriving DecidableEq, Repr

inductive Visit where
  | skipped (module : Path)
  | compared (c : Comparison)
  | aborted (failure : InvocationError)
  deriving DecidableEq, Repr

namespace Comparison

def report (setup : Setup) (c : Comparison) : Report where
  name := c.module.stem
  module := c.module
  lines := c.captures.map fun capture => Text.countLines capture.text
  artifacts := .ofFn fun mode => artifactPath setup.outputDir c.module.stem mode setup.extension

def unsaved (setup : Setup) (c : Comparison) : List Path :=
  [Mode.unoptimized, .optimized].filterMap fun mode =>
    (c.losses.get mode).map fun _ => (c.report setup).artifacts.get mode

def failures (c : Comparison) : List ArtifactFailure :=
  c.losses.toList.filterMap fun loss => loss.map fun error => ⟨c.module, error⟩

end Comparison

namespace Summary

def initial : Summary := ⟨[], [], [], none, .completed⟩

def record (setup : Setup) (s : Summary) : Visit → Summary
  | .skipped m => { s with skipped := s.skipped ++ [m] }
  | .compared c =>
    { s with artifactFailures := s.artifactFailures ++ c.failures, reports := s.reports ++ [c.report setup] }
  | .aborted e => { s with failure := some e, status := .aborted }

def ofVisits (setup : Setup) (visits : List Visit) : Summary := visits.foldl (record setup) initial

end Summary

namespace Batch

variable {σ : Type}

def invoke (h : Host σ) (setup : Setup) (module : Path) (mode : Mode) :
    Work σ (Except InvocationError Capture) := do
  let arguments := setup.arguments module mode
  let run := module.display ++ " (" ++ mode.name ++ ")"
  Work.log .debug (run ++ ": " ++ setup.compiler ++ " " ++ Text.quoteList arguments)
  match ← Work.execute h ⟨setup.compiler, arguments, h.limit setup.timeout⟩ with
  | .error source =>
    let cause := match source.kind, setup.timeout with
      | .timedOut, some limit => .timedOut limit
      | _, _ => .notStarted source
    return .error ⟨setup.compiler, module, mode, cause⟩
  | .ok done =>
    let stderr := Text.lossy done.stderr
    if done.status.isSuccess then
      Work.log .debug (run ++ " finished in " ++ done.elapsed.exact ++ ", " ++ toString done.stdout.length ++
        " bytes of IR")
      return .ok ⟨module, mode, done.status, done.stdout, stderr, done.elapsed⟩
    else
      return .error ⟨setup.compiler, module, mode, .unsuccessful (done.status.code?.map Int.ofNat) stderr⟩

def compile (h : Host σ) (setup : Setup) (module : Path) (mode : Mode) :
    Work σ (Except InvocationError Capture) := do
  Work.print h (Console.step mode ++ "\n")
  match ← invoke h setup module mode with
  | .error e => return .error e
  | .ok capture =>
    Work.record (.invocationFinished module mode capture.elapsed)
    return .ok capture

/-- The unoptimized run, then the optimized one; the first error wins. -/
def compilePair (h : Host σ) (setup : Setup) (module : Path) :
    Work σ (Except InvocationError (PerMode Capture)) := do
  match ← compile h setup module .unoptimized with
  | .error e => return .error e
  | .ok unoptimized =>
    match ← compile h setup module .optimized with
    | .error e => return .error e
    | .ok optimized => return .ok ⟨unoptimized, optimized⟩

end Batch

/-- Keeps `contents` as the artifact of `stem` in one mode, byte for byte, replacing an earlier one. -/
def saveArtifact {σ : Type} (h : Host σ) (outputDir : Path) (extension stem : String) (mode : Mode)
    (contents : Bytes) : Work σ (Except ArtifactError Path) := do
  match ← Work.createDir h outputDir with
  | .error source => return .error ⟨.createDir, outputDir, source⟩
  | .ok () =>
    let path := artifactPath outputDir stem mode extension
    match ← Work.write h path contents with
    | .error source => return .error ⟨.write, path, source⟩
    | .ok () =>
      Work.log .debug ("wrote " ++ toString contents.length ++ " bytes to " ++ path.display)
      return .ok path

namespace Batch

variable {σ : Type}

/-- Saves one capture. A failure is told on every channel and is otherwise without consequence. -/
def persist (h : Host σ) (style : Style) (setup : Setup) (capture : Capture) :
    Work σ (Option ArtifactError) := do
  let module := capture.module
  match ← saveArtifact h setup.outputDir setup.extension module.stem capture.mode capture.stdout with
  | .ok path =>
    Work.log .debug (capture.mode.name ++ " IR of " ++ module.display ++ " saved to " ++ path.display)
    return none
  | .error e =>
    Work.log .warn e.message
    Work.print h (Console.artifactWarning style e.message ++ "\n")
    Work.record (.artifactWriteFailed module e.path)
    return some e

/-- Compares a module that is there. `stems` are those of the modules compared before it. -/
def compare (h : Host σ) (style : Style) (setup : Setup) (stems : List String) (module : Path) :
    Work σ Visit := do
  Work.record (.moduleStarted module)
  Work.print h (Console.header style module ++ "\n")
  if stems.contains module.stem then
    Work.log .warn (module.display ++ " shares the stem '" ++ module.stem ++
      "' with an earlier module, overwriting its artifacts")
  match ← compilePair h setup module with
  | .error e =>
    Work.log .error ("aborting batch: " ++ e.message)
    Work.record (.batchAborted module)
    return .aborted e
  | .ok captures =>
    let unoptimizedLoss ← persist h style setup captures.unoptimized
    let optimizedLoss ← persist h style setup captures.optimized
    let c : Comparison := ⟨module, captures, ⟨unoptimizedLoss, optimizedLoss⟩⟩
    let report := c.report setup
    Work.print h (Console.moduleReport style report (captures.map Capture.text) (c.unsaved setup)
      setup.previewLimit ++ "\n")
    Work.record (.moduleCompared module report.lines)
    return .compared c

def visit (h : Host σ) (style : Style) (setup : Setup) (stems : List String) (module : Path) :
    Work σ Visit := do
  if ← Work.isPresent h module then
    compare h style setup stems module
  else
    Work.log .warn (module.display ++ " not found, skipping")
    Work.print h (Console.skipNotice style module ++ "\n")
    Work.record (.moduleSkipped module)
    return .skipped module

def walk (h : Host σ) (style : Style) (setup : Setup) : List String → List Path → Work σ (List Visit)
  | _, [] => return []
  | stems, module :: rest => do
    match ← visit h style setup stems module with
    | .aborted e => return [.aborted e]
    | .skipped m => return .skipped m :: (← walk h style setup stems rest)
    | .compared c => return .compared c :: (← walk h style setup (module.stem :: stems) rest)

def run (h : Host σ) (style : Style) (setup : Setup) (modules : List Path) : Work σ Summary := do
  let summary := Summary.ofVisits setup (← walk h style setup [] modules)
  if summary.isSuccess then
    Work.record (.batchCompleted summary.reports.length summary.skipped.length)
  Work.flush
  Work.print h (Console.batchReport style summary setup.outputDir ++ "\n")
  return summary

end Batch
end PassDelta
