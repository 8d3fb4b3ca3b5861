/-!
# Lines

A line ends with LF or CR LF; a last line without terminator still counts, and empty text has no lines.
No other character ends a line.
-/

namespace PassDelta.Text

/-- Lines of a suffix, and whether that suffix starts with a line feed. -/
structure LineState where
  lines : List (List Char)
  atBreak : Bool

/-- Puts one more character in front. A carriage return directly before a line feed belongs to the
terminator. -/
def LineState.cons (c : Char) (s : LineState) : LineState :=
  if c = '\n' then ⟨[] :: s.lines, true⟩
  else if c = '\r' ∧ s.atBreak then ⟨s.lines, false⟩
  else match s.lines with
    | [] => ⟨[[c]], false⟩
    | l :: ls => ⟨(c :: l) :: ls, false⟩

def lines (cs : List Char) : List (List Char) := (cs.foldr LineState.cons ⟨[], false⟩).lines

def countLines (text : String) : Nat := (lines text.toList).length

example : lines "a\r\n\nb\r\r\nc\r".toList = ["a".toList, [], "b\r".toList, "c\r".toList] := by decide

end PassDelta.Text
