/-!
# Writing TOML

Settings are written one per line. A text takes the first form that holds it without escapes it could do without:
basic on one line, literal on one line, then both over several lines; what no form holds raw is escaped. Lists of
two and more stand one item per line.
-/

namespace PassDelta.Toml

inductive Datum where
  | text (s : String)
  | texts (items : List String)
  | number (n : Nat)
  deriving DecidableEq, Repr

/-- The length of the longest run of a character, after a run of `current` that is under way. -/
def longestRun (q : Char) (current : Nat) : List Char → Nat
  | [] => current
  | c :: rest => if c = q then longestRun q (current + 1) rest else max current (longestRun q 0 rest)

/-- A control character that only a basic string can hold, as an escape. -/
def needsEscape (c : Char) : Bool := (c.toNat < 0x20 && c ≠ '\t' && c ≠ '\n') || c.toNat = 0x7F

inductive StringForm where
  | basic
  | literal
  | longBasic
  | longLiteral
  deriving DecidableEq, Repr

def formOf (s : List Char) : StringForm :=
  let control := s.any needsEscape
  let broken := s.contains '\n'
  let backslash := s.contains '\\'
  let double := longestRun '"' 0 s
  let single := longestRun '\'' 0 s
  if !control && !backslash && double = 0 && !broken then .basic
  else if !control && single = 0 && !broken then .literal
  else if !control && !backslash && double ≤ 2 then .longBasic
  else if !control && single ≤ 2 then .longLiteral
  else if broken then .longBasic
  else .basic

def upperHex (n : Nat) : Char := (Nat.digitChar n).toUpper

def escapeBasic (long : Bool) (c : Char) : List Char :=
  if c = '\\' then ['\\', '\\']
  else if c.toNat = 8 then ['\\', 'b']
  else if c = '\t' then ['\\', 't']
  else if c = '\n' then if long then ['\n'] else ['\\', 'n']
  else if c.toNat = 12 then ['\\', 'f']
  else if c = '\r' then ['\\', 'r']
  else if needsEscape c then ['\\', 'u', '0', '0', upperHex (c.toNat / 16), upperHex (c.toNat % 16)]
  else [c]

/-- The inside of a basic string. A quote is escaped when `free` raw ones stand directly before it. -/
def writeBasic (long : Bool) (free : Nat) : Nat → List Char → List Char
  | _, [] => []
  | run, c :: rest =>
    if c = '"' then
      if run < free then '"' :: writeBasic long free (run + 1) rest
      else '\\' :: '"' :: writeBasic long free 0 rest
    else escapeBasic long c ++ writeBasic long free 0 rest

/-- The line end after the opening quotes of a long string that has line ends. -/
def opening (s : List Char) : List Char := if s.contains '\n' then ['\n'] else []

def writeText (s : List Char) : List Char :=
  match formOf s with
  | .basic => ['"'] ++ writeBasic false 0 0 s ++ ['"']
  | .literal => ['\''] ++ s ++ ['\'']
  | .longBasic => ['"', '"', '"'] ++ opening s ++ writeBasic true 2 0 s ++ ['"', '"', '"']
  | .longLiteral => ['\'', '\'', '\''] ++ opening s ++ s ++ ['\'', '\'', '\'']

def writeItems : List String → List Char
  | [] => ['[', ']']
  | [s] => ['['] ++ writeText s.toList ++ [']']
  | items => ['[', '\n'] ++
      items.flatMap (fun s => [' ', ' ', ' ', ' '] ++ writeText s.toList ++ [',', '\n']) ++ [']']

def writeDatum : Datum → List Char
  | .text s => writeText s.toList
  | .texts items => writeItems items
  | .number n => (toString n).toList

/-- One line per setting, but for lists and texts that run over several. -/
def writeEntries (entries : List (String × Datum)) : String :=
  String.ofList (entries.flatMap fun e => e.1.toList ++ [' ', '=', ' '] ++ writeDatum e.2 ++ ['\n'])

example : writeText "a'b\"c".toList = "\"\"\"a'b\"c\"\"\"".toList := by decide +kernel
example : writeText "a\u0007".toList = "\"a\\u0007\"".toList := by decide +kernel

end PassDelta.Toml
