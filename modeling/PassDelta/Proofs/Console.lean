import PassDelta.Console
/-!
# Console text taken apart

The report of a module ends with its counts. The closing block of a batch is a list of lines, each of which its first
words give away.
-/

namespace PassDelta.Console

def countTable (style : Style) (lines : PerMode Nat) : String :=
  "\n" ++ style.chart ++ " Optimization Statistics:\n" ++
    "  Unoptimized: " ++ toString lines.unoptimized ++ " lines\n" ++
    "  Optimized:   " ++ toString lines.optimized ++ " lines\n"

def reductionLine (style : Style) (lines : PerMode Nat) : String :=
  let delta := Report.lineDelta lines
  let percent := Report.percentText (Report.reduction lines)
  "  Reduction:   " ++ (if 0 < delta then style.bold .green percent else style.tint .yellow percent) ++
    " (" ++ Report.deltaText delta ++ ")\n"

theorem statistics_eq (style : Style) (lines : PerMode Nat) :
    statistics style lines = countTable style lines ++ reductionLine style lines := by
  unfold statistics countTable reductionLine
  dsimp only
  simp only [String.append_assoc]

/-- The report of a module ends with its counts and the line below them. -/
theorem moduleReport_statistics (style : Style) (report : Report) (texts : PerMode String) (unsaved : List Path)
    (limit : Nat) : ∃ above, moduleReport style report texts unsaved limit =
      above ++ countTable style report.lines ++ reductionLine style report.lines := by
  have hend : ∃ above, moduleReport style report texts unsaved limit = above ++ statistics style report.lines :=
    ⟨_, rfl⟩
  obtain ⟨above, habove⟩ := hend
  exact ⟨above, by rw [habove, statistics_eq, String.append_assoc]⟩

/-- The line for an artifact: where it is, or where it would be had it not been lost. -/
def placeLine (style : Style) (lost : Bool) (path : Path) : String :=
  if lost then "   " ++ style.faint path.display ++ " " ++ style.tint .yellow "(not saved)" ++ "\n"
  else "   " ++ style.tint .cyan path.display ++ "\n"

theorem artifactLine_eq (style : Style) (unsaved : List Path) (path : Path) :
    artifactLine style unsaved path = placeLine style (unsaved.any (·.same path)) path := rfl

/-- The line for an artifact shows whether it was lost, whatever the path. -/
theorem placeLine_inj {style : Style} {path : Path} {a b : Bool} :
    placeLine style a path = placeLine style b path ↔ a = b := by
  have hdiffer : placeLine style true path ≠ placeLine style false path := by
    obtain ⟨coloured, symbols⟩ := style
    intro heq
    have hchars := congrArg String.toList heq
    cases coloured with
    | true =>
      -- one line is dimmed and the other one coloured
      have hstart := congrArg (List.take 6) hchars
      simp [placeLine, Style.faint, Style.tint, Style.paint, Style.escape, Style.weightCode,
        Style.colourCode] at hstart
    | false =>
      have hlength := congrArg List.length hchars
      simp [placeLine, Style.faint, Style.tint, Style.paint] at hlength
  constructor
  · intro heq
    cases a <;> cases b
    · rfl
    · exact (hdiffer heq.symm).elim
    · exact (hdiffer heq).elim
    · rfl
  · rintro rfl
    rfl

/-- What stands in the report of a module above the places of its artifacts. -/
def previews (texts : PerMode String) (limit : Nat) : String :=
  "\n--- UNOPTIMIZED IR ---\n" ++ preview texts.unoptimized limit ++
    "\n\n--- OPTIMIZED IR ---\n" ++ preview texts.optimized limit ++ "\n" ++
    "\nFull output saved to:\n"

theorem moduleReport_places (style : Style) (report : Report) (texts : PerMode String) (unsaved : List Path)
    (limit : Nat) : moduleReport style report texts unsaved limit =
      previews texts limit ++ artifactLine style unsaved report.artifacts.unoptimized ++
        artifactLine style unsaved report.artifacts.optimized ++ statistics style report.lines := by
  have hplaces : String.join (report.artifacts.toList.map (artifactLine style unsaved)) =
      artifactLine style unsaved report.artifacts.unoptimized ++
        artifactLine style unsaved report.artifacts.optimized := by
    simp [PerMode.toList]
  unfold moduleReport previews
  simp only [hplaces, String.append_assoc]

def printed (lines : List String) : String := String.join (lines.map (· ++ "\n"))

theorem printed_append (front back : List String) : printed (front ++ back) = printed front ++ printed back := by
  rw [printed, List.map_append, String.join_append, printed, printed]

theorem printed_cons (line : String) (rest : List String) : printed (line :: rest) = line ++ "\n" ++ printed rest := by
  rw [printed, List.map_cons, String.join_cons, printed]

theorem printed_map {α : Type} (f : α → String) (items : List α) :
    printed (items.map f) = String.join (items.map fun a => f a ++ "\n") := by
  rw [printed, List.map_map]
  rfl

def headline (style : Style) (summary : Summary) : String :=
  heading style summary.status ++ " " ++ toString summary.reports.length ++ " analyzed, " ++
    toString summary.skipped.length ++ " skipped, " ++ toString summary.failedCount ++ " failed"

def skippedLine (m : Path) : String := "   skipped: " ++ m.display

def lostLine (f : ArtifactFailure) : String := "   not saved: " ++ f.error.path.display

def failedLine (m : Path) : String := "   failed: " ++ m.display

def checkLine (outputDir : Path) : String := "   Check " ++ outputDir.display ++ "/ for full IR code."

def guidanceLines : List String := "" :: "Key things to look for:" :: guidance.map ("  - " ++ ·)

def closingLines (style : Style) (summary : Summary) (outputDir : Path) : List String :=
  "" :: headline style summary ::
    ((if summary.reports.isEmpty then [] else [checkLine outputDir]) ++ summary.skipped.map skippedLine ++
      summary.artifactFailures.map lostLine ++ (summary.failure.map fun e => failedLine e.module).toList ++
      guidanceLines)

theorem batchReport_printed (style : Style) (summary : Summary) (outputDir : Path) :
    batchReport style summary outputDir = printed (closingLines style summary outputDir) := by
  have hcheck : printed (if summary.reports.isEmpty then [] else [checkLine outputDir]) =
      if summary.reports.isEmpty then "" else "   Check " ++ outputDir.display ++ "/ for full IR code.\n" := by
    split
    · rfl
    · simp [printed, checkLine, String.append_assoc]
  have hfailed : printed (summary.failure.map fun e => failedLine e.module).toList =
      (summary.failure.map fun e => "   failed: " ++ e.module.display ++ "\n").getD "" := by
    cases summary.failure with
    | none => rfl
    | some e => simp [printed, failedLine]
  have hguidance : printed guidanceLines =
      "\nKey things to look for:\n" ++ String.join (guidance.map fun g => "  - " ++ g ++ "\n") := by
    rw [guidanceLines, printed_cons, printed_cons, printed_map]
    rfl
  rw [closingLines, printed_cons, printed_cons, printed_append, printed_append, printed_append, printed_append, hcheck,
    hfailed, hguidance, printed_map, printed_map]
  unfold batchReport headline skippedLine lostLine
  simp only [String.append_assoc]
  rfl

theorem failedLine_mem {style : Style} {summary : Summary} {outputDir : Path} {e : InvocationError}
    (he : summary.failure = some e) : failedLine e.module ∈ closingLines style summary outputDir := by
  simp [closingLines, he]

def start (line : String) : List Char := line.toList.take 4

theorem start_append {front : String} (hlong : 4 ≤ front.toList.length) (back : String) :
    start (front ++ back) = start front := by
  rw [start, String.toList_append, List.take_append_of_le_length hlong, start]

theorem start_checkLine (outputDir : Path) : start (checkLine outputDir) = [' ', ' ', ' ', 'C'] := by
  simp [start, checkLine]

theorem start_skippedLine (m : Path) : start (skippedLine m) = [' ', ' ', ' ', 's'] := by
  change start ("   skipped: " ++ m.display) = _
  simp [start]

theorem start_lostLine (f : ArtifactFailure) : start (lostLine f) = [' ', ' ', ' ', 'n'] := by
  change start ("   not saved: " ++ f.error.path.display) = _
  simp [start]

theorem start_failedLine (m : Path) : start (failedLine m) = [' ', ' ', ' ', 'f'] := by
  simp [start, failedLine]

/-- What a heading starts with: its mark, and as much of its words as four characters hold. -/
def headingStart (style : Style) (status : BatchStatus) : List Char :=
  let words := if style.coloured then ['\x1b', '['] else ['A', 'n']
  match status with
  | .completed => if style.symbols then '✅' :: ' ' :: words else ['[', 'O', 'K', ']']
  | .aborted => if style.symbols then '❌' :: ' ' :: words else ['[', 'F', 'A', 'I']

theorem start_heading (style : Style) (status : BatchStatus) :
    start (heading style status) = headingStart style status := by
  obtain ⟨coloured, symbols⟩ := style
  cases status <;> cases symbols <;> cases coloured <;>
    simp [start, heading, headingStart, Style.check, Style.cross, Style.mark, Style.bold, Style.paint, Style.escape]

/-- A heading does not begin as a line for a module does. -/
theorem headingStart_ne (style : Style) (status : BatchStatus) (c : Char) :
    headingStart style status ≠ [' ', ' ', ' ', c] := by
  obtain ⟨coloured, symbols⟩ := style
  cases status <;> cases symbols <;> cases coloured <;> simp [headingStart]

theorem four_le_heading (style : Style) (status : BatchStatus) : 4 ≤ (heading style status).toList.length := by
  have hlength : (headingStart style status).length = 4 := by
    obtain ⟨coloured, symbols⟩ := style
    cases status <;> cases symbols <;> cases coloured <;> rfl
  rw [← start_heading, start, List.length_take] at hlength
  omega

theorem start_headline (style : Style) (summary : Summary) :
    start (headline style summary) = start (heading style summary.status) := by
  unfold headline
  simp only [String.append_assoc]
  exact start_append (four_le_heading ..) _

/-- The first four characters of a heading tell how the batch ended. -/
theorem start_heading_injective {style : Style} {status other : BatchStatus}
    (hstart : start (heading style status) = start (heading style other)) : status = other := by
  rw [start_heading, start_heading] at hstart
  obtain ⟨coloured, symbols⟩ := style
  cases status <;> cases other <;> cases symbols <;> simp [headingStart] at hstart ⊢

/-- The guidance begins with an empty line and a caption, and goes on with items behind dashes. -/
theorem start_guidanceLines (c : Char) {line : String} (hline : line ∈ guidanceLines) :
    start line ≠ [' ', ' ', ' ', c] := by
  simp only [guidanceLines, List.mem_cons, List.mem_map] at hline
  obtain rfl | rfl | ⟨item, -, rfl⟩ := hline <;> simp [start]

/-- A line of the closing block for a failed module is there for the failure of the batch. -/
theorem failure_of_failedLine {style : Style} {summary : Summary} {outputDir m : Path}
    (hm : failedLine m ∈ closingLines style summary outputDir) :
    ∃ e, summary.failure = some e ∧ failedLine e.module = failedLine m := by
  -- no other line of the block begins with the same four characters
  have hstart := start_failedLine m
  simp only [closingLines, List.mem_cons, List.mem_append, List.mem_map] at hm
  rcases hm with hm | hm | (((hm | ⟨skipped, -, hm⟩) | ⟨lost, -, hm⟩) | hm) | hm
  · simp [hm, start] at hstart
  · rw [hm, start_headline, start_heading] at hstart
    exact (headingStart_ne _ _ _ hstart).elim
  · split at hm
    · simp at hm
    · simp [List.mem_singleton.mp hm, start_checkLine] at hstart
  · simp [← hm, start_skippedLine] at hstart
  · simp [← hm, start_lostLine] at hstart
  · exact Option.map_eq_some_iff.mp (Option.mem_toList.mp hm)
  · exact (start_guidanceLines _ hm hstart).elim

/-- Whether a line of the closing block begins as that for a lost artifact. -/
def isLostLine (line : String) : Bool := start line = [' ', ' ', ' ', 'n']

/-- Of the lines of the closing block, those for lost artifacts are one for each of them. -/
theorem filter_lostLine (style : Style) (summary : Summary) (outputDir : Path) :
    (closingLines style summary outputDir).filter isLostLine = summary.artifactFailures.map lostLine := by
  have hhead : isLostLine (headline style summary) = false := by
    rw [isLostLine, start_headline, start_heading]
    exact decide_eq_false (headingStart_ne _ _ _)
  have hcheck : (if summary.reports.isEmpty then [] else [checkLine outputDir]).filter isLostLine = [] := by
    split
    · rfl
    · simp [isLostLine, start_checkLine]
  have hskipped : (summary.skipped.map skippedLine).filter isLostLine = [] := by
    simp [isLostLine, start_skippedLine]
  have hlost : (summary.artifactFailures.map lostLine).filter isLostLine = summary.artifactFailures.map lostLine := by
    simp [isLostLine, start_lostLine]
  have hfailed : (summary.failure.map fun e => failedLine e.module).toList.filter isLostLine = [] := by
    cases summary.failure <;> simp [isLostLine, start_failedLine]
  have hguidance : guidanceLines.filter isLostLine = [] := by
    rw [List.filter_eq_nil_iff]
    intro line hline hstart
    exact start_guidanceLines _ hline (of_decide_eq_true hstart)
  have hempty : isLostLine "" = false := by decide
  simp only [closingLines, List.filter_cons, List.filter_append, hempty, hhead, hcheck, hskipped, hlost, hfailed,
    hguidance, Bool.false_eq_true, ↓reduceIte, List.nil_append, List.append_nil]

/-- Whether a block begins with three blanks, as a warning of a lost artifact does. -/
def isInset (block : String) : Bool := block.toList.take 3 = [' ', ' ', ' ']

theorem isInset_append {front : String} (hlong : 3 ≤ front.toList.length) (back : String) :
    isInset (front ++ back) = isInset front := by
  rw [isInset, String.toList_append, List.take_append_of_le_length hlong, isInset]

theorem isInset_artifactWarning (style : Style) (message : String) :
    isInset (artifactWarning style message ++ "\n") = true := by
  simp [isInset, artifactWarning]

theorem isInset_header (style : Style) (m : Path) : isInset (header style m ++ "\n") = false := by
  simp [isInset, header]

theorem isInset_step (mode : Mode) : isInset (step mode ++ "\n") = false := by
  cases mode <;> decide +kernel

theorem isInset_skipNotice (style : Style) (m : Path) : isInset (skipNotice style m ++ "\n") = false := by
  obtain ⟨coloured, symbols⟩ := style
  cases symbols <;> simp [isInset, skipNotice, warned, Style.warning, Style.mark]

theorem isInset_moduleReport (style : Style) (report : Report) (texts : PerMode String) (unsaved : List Path)
    (limit : Nat) : isInset (moduleReport style report texts unsaved limit ++ "\n") = false := by
  unfold moduleReport
  simp only [String.append_assoc]
  exact isInset_append (by decide) _

theorem isInset_batchReport (style : Style) (summary : Summary) (outputDir : Path) :
    isInset (batchReport style summary outputDir ++ "\n") = false := by
  rw [batchReport_printed, closingLines, printed_cons, printed_cons]
  simp [isInset]

end PassDelta.Console
