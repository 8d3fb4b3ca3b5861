import PassDelta.Report
import PassDelta.Style
/-!
# Console text

The blocks a batch prints: a banner and two progress lines per module, warnings, previews with statistics, and
the closing counts. Every function returns text; where it goes is decided elsewhere.
-/

namespace PassDelta.Console

/-- The first `limit` characters of a text, with three dots after them when something was cut. -/
def preview (text : String) (limit : Nat) : String :=
  let shown := text.toList.take limit
  if shown.length = text.toList.length then text else String.ofList (shown ++ ['.', '.', '.'])

def rule : String := String.ofList (List.replicate 60 '=')

/-- The banner of a module: its file name, or the whole path if that ends in no name. -/
def header (style : Style) (module : Path) : String :=
  let name := match module.fileName with
    | some bytes => Text.lossy bytes
    | none => module.display
  "\n" ++ rule ++ "\n" ++ style.lens ++ " Analyzing: " ++ style.strong name ++ "\n" ++ rule ++ "\n"

def step (mode : Mode) : String := toString mode.step ++ ". Generating " ++ mode.upperName ++ " IR..."

def warned (style : Style) (text : String) : String :=
  style.warning ++ " " ++ style.bold .yellow "Warning:" ++ " " ++ text

def skipNotice (style : Style) (module : Path) : String :=
  warned style (module.display ++ " not found, skipping...")

def artifactWarning (style : Style) (message : String) : String := "   " ++ warned style message

def artifactLine (style : Style) (unsaved : List Path) (path : Path) : String :=
  if unsaved.any (·.same path) then
    "   " ++ style.faint path.display ++ " " ++ style.tint .yellow "(not saved)" ++ "\n"
  else "   " ++ style.tint .cyan path.display ++ "\n"

def statistics (style : Style) (lines : PerMode Nat) : String :=
  let delta := Report.lineDelta lines
  let percent := Report.percentText (Report.reduction lines)
  "\n" ++ style.chart ++ " Optimization Statistics:\n" ++
    "  Unoptimized: " ++ toString lines.unoptimized ++ " lines\n" ++
    "  Optimized:   " ++ toString lines.optimized ++ " lines\n" ++
    "  Reduction:   " ++ (if 0 < delta then style.bold .green percent else style.tint .yellow percent) ++
    " (" ++ Report.deltaText delta ++ ")\n"

def moduleReport (style : Style) (report : Report) (texts : PerMode String) (unsaved : List Path)
    (limit : Nat) : String :=
  "\n--- UNOPTIMIZED IR ---\n" ++ preview texts.unoptimized limit ++
    "\n\n--- OPTIMIZED IR ---\n" ++ preview texts.optimized limit ++ "\n" ++
    "\nFull output saved to:\n" ++
    String.join (report.artifacts.toList.map (artifactLine style unsaved)) ++
    statistics style report.lines

def guidance : List String := [
  "Constant folding (literal values computed at compile time)",
  "Dead code elimination (unreachable blocks removed)",
  "Strength reduction (mul/div by powers of 2 → shifts)",
  "Comparison optimizations (iszero chains)",
  "SCCP results (complex constant propagation)"]

def heading (style : Style) : BatchStatus → String
  | .completed => style.check ++ " " ++ style.bold .green "Analysis complete:"
  | .aborted => style.cross ++ " " ++ style.bold .red "Analysis aborted:"

/-- The closing block: counts, what was skipped, lost or failed, and guidance. -/
def batchReport (style : Style) (summary : Summary) (outputDir : Path) : String :=
  "\n" ++ heading style summary.status ++ " " ++ toString summary.reports.length ++ " analyzed, " ++
    toString summary.skipped.length ++ " skipped, " ++ toString summary.failedCount ++ " failed\n" ++
    (if summary.reports.isEmpty then "" else "   Check " ++ outputDir.display ++ "/ for full IR code.\n") ++
    String.join (summary.skipped.map fun m => "   skipped: " ++ m.display ++ "\n") ++
    String.join (summary.artifactFailures.map fun f => "   not saved: " ++ f.error.path.display ++ "\n") ++
    (summary.failure.map fun e => "   failed: " ++ e.module.display ++ "\n").getD "" ++
    "\nKey things to look for:\n" ++
    String.join (guidance.map fun g => "  - " ++ g ++ "\n")

end PassDelta.Console
