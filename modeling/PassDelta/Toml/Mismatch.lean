import PassDelta.Number.Shortest
import PassDelta.Text.Quoted
import PassDelta.Toml.Item
/-!
# Values of the wrong kind

A value that is not what was wanted is shown in its line, underlined, with what it is and what was expected.
-/

namespace PassDelta.Toml

inductive Wanted where
  | text
  | path
  | sequence
  | word
  | size
  deriving DecidableEq, Repr

def Wanted.name : Wanted → String
  | text => "a string"
  | path => "path string"
  | sequence => "a sequence"
  | word => "u64"
  | size => "usize"

/-- A value of the wrong kind. One of the right kind that is out of range is `outOfRange`. -/
structure Mismatch where
  span : Span
  found : String
  outOfRange : Bool
  wanted : Wanted
  deriving DecidableEq, Repr

/-- Why a text gives no settings: it is no TOML, or a value is of the wrong kind. -/
inductive Complaint where
  | malformed
  | mismatch (m : Mismatch)
  deriving DecidableEq, Repr

def floatForm : Binary64.Form := ⟨fun _ => true, true⟩

def describeFloat (x : Binary64) : String :=
  if x.isNaN then "NaN"
  else if x.isInfinite then if x.isNegative then "-inf" else "inf"
  else x.writeShortest floatForm

def Scalar.describe : Scalar → String
  | .text s => "string " ++ Text.quoteText s
  | .integer n => "integer " ++ "`" ++ toString n ++ "`"
  | .float x => "floating point " ++ "`" ++ describeFloat x ++ "`"
  | .boolean b => "boolean " ++ "`" ++ toString b ++ "`"
  | .moment _ => "map"

def Item.describe : Item → String
  | .scalar _ v => v.describe
  | .list .. => "sequence"
  | .table .. => "map"
  | .tables _ => "sequence"

def Mismatch.message (m : Mismatch) : String :=
  (if m.outOfRange then "invalid value: " else "invalid type: ") ++ m.found ++ ", expected " ++ m.wanted.name

/-- The stretch of the text before a span, cut after its last line end, and the number of lines before that. -/
def position (text : List Char) (span : Span) : Nat × Nat :=
  let before := text.take (text.length - span.start.length)
  (before.count '\n', (before.reverse.takeWhile (· ≠ '\n')).length)

/-- The line with a number, counted from zero. A carriage return at its end stays. -/
def lineAt (text : List Char) (n : Nat) : List Char := ((text.splitOn '\n')[n]?).getD []

/-- The message with the place it is about: the line, and marks below the value as far as it is on that line. -/
def Mismatch.render (text : List Char) (m : Mismatch) : String :=
  let (row, column) := position text m.span
  let line := lineAt text row
  let number := toString (row + 1)
  let blanks (n : Nat) : String := String.ofList (List.replicate n ' ')
  let value := m.span.start.take (m.span.start.length - m.span.stop.length)
  let marks := max 1 (min (Text.byteLength value) (Text.byteLength line - column))
  "TOML parse error at line " ++ number ++ ", column " ++ toString (column + 1) ++ "\n" ++
    blanks (number.length + 1) ++ "|\n" ++
    number ++ " | " ++ String.ofList line ++ "\n" ++
    blanks (number.length + 1) ++ "|" ++ blanks (column + 1) ++ String.ofList (List.replicate marks '^') ++ "\n" ++
    m.message

/-- The complaint in words. Those for a text that is no TOML are not settled here. -/
def Complaint.render (wording : String → String) (text : String) : Complaint → String
  | .malformed => wording text
  | .mismatch m => m.render text.toList

end PassDelta.Toml
