import PassDelta.Text.Utf8
/-!
# JSON text as read

Text is scanned into a tree that is kept even when the text breaks off or goes wrong: the tree then ends, at its
right edge, in the problem met there. Strings and numerals stay as written, because only the reader of a value
decides whether it minds a lone surrogate or a number out of range. The first problem of a document is thus found
by walking its tree from left to right.
-/

namespace PassDelta.Json

/-- Why a document cannot be read: its text is no JSON, its text ends early, or a value is not of the wanted
sort. -/
inductive ReadError where
  | malformed
  | truncated
  | mismatch
  deriving DecidableEq, Repr

/-- One element of a string as written: a character, or a UTF-16 unit from a numeric escape. -/
inductive Mark where
  | char (c : Char)
  | unit (u : Nat)
  deriving DecidableEq, Repr

/-- A string as written, and the problem before its closing quote, if any. -/
structure Lexeme where
  marks : List Mark
  problem : Option ReadError
  deriving DecidableEq, Repr

structure Numeral where
  negative : Bool
  whole : List Nat
  fraction : List Nat
  exponent : Option (Bool × List Nat)
  deriving DecidableEq, Repr

/-- Scanned text. `problem` is what stands in place of the closing bracket; `broken` stands for text that is no
value, with the error for a reader that wants one and for a reader that skips it. -/
inductive Node where
  | null
  | bool (b : Bool)
  | num (n : Numeral)
  | str (s : Lexeme)
  | arr (items : List Node) (problem : Option ReadError)
  | obj (members : List (Lexeme × Node)) (problem : Option ReadError)
  | broken (wanted skipped : ReadError)
  deriving Repr

/-- A scanned part and the text after it; no text after a part that broke. -/
abbrev Scan (α : Type) := α × Option (List Char)

def isSpace (c : Char) : Bool := c = ' ' || c = '\t' || c = '\n' || c = '\r'

def skipSpace (cs : List Char) : List Char := cs.dropWhile isSpace

def digitValue? (c : Char) : Option Nat := if c.isDigit then some (c.toNat - 48) else none

def hexValue? (c : Char) : Option Nat :=
  if c.isDigit then some (c.toNat - 48)
  else if 'a' ≤ c ∧ c ≤ 'f' then some (c.toNat - 87)
  else if 'A' ≤ c ∧ c ≤ 'F' then some (c.toNat - 55)
  else none

def hexNumber? (cs : List Char) : Option Nat :=
  cs.foldl (fun acc c => do return (← acc) * 16 + (← hexValue? c)) (some 0)

def simpleEscape? (c : Char) : Option Char :=
  if c = '"' ∨ c = '\\' ∨ c = '/' then some c
  else if c = 'b' then some (Char.ofNat 8)
  else if c = 'f' then some (Char.ofNat 12)
  else if c = 'n' then some '\n'
  else if c = 'r' then some '\r'
  else if c = 't' then some '\t'
  else none

def pushMark (m : Mark) (s : Scan Lexeme) : Scan Lexeme := ({ s.1 with marks := m :: s.1.marks }, s.2)

def stopString (e : ReadError) : Scan Lexeme := (⟨[], some e⟩, none)

/-- A string after its opening quote. A numeric escape needs four more bytes before it is looked at. -/
def scanString : List Char → Scan Lexeme
  | [] => stopString .truncated
  | '\\' :: [] => stopString .truncated
  | '\\' :: 'u' :: a :: b :: c :: d :: rest =>
    match hexNumber? [a, b, c, d] with
    | some u => pushMark (.unit u) (scanString rest)
    | none => stopString .malformed
  | '\\' :: 'u' :: rest => stopString (if Text.byteLength rest < 4 then .truncated else .malformed)
  | '\\' :: e :: rest =>
    match simpleEscape? e with
    | some c => pushMark (.char c) (scanString rest)
    | none => stopString .malformed
  | '"' :: rest => (⟨[], none⟩, some rest)
  | c :: rest => if c.toNat < 0x20 then stopString .malformed else pushMark (.char c) (scanString rest)

def digits (cs : List Char) : List Nat × List Char :=
  ((cs.takeWhile Char.isDigit).filterMap digitValue?, cs.dropWhile Char.isDigit)

def malformed : Scan Node := (.broken .malformed .malformed, none)

/-- A missing digit. At the end of the text a reader that wants the number waits for more. -/
def missingDigit (rest : List Char) : Scan Node :=
  (.broken (if rest.isEmpty then .truncated else .malformed) .malformed, none)

def scanExponent (negative : Bool) (whole fraction : List Nat) (cs : List Char) : Scan Node :=
  let (negativeExponent, rest) := match cs with
    | '+' :: r => (false, r)
    | '-' :: r => (true, r)
    | r => (false, r)
  match digits rest with
  | ([], r) => missingDigit r
  | (ds, r) => (.num ⟨negative, whole, fraction, some (negativeExponent, ds)⟩, some r)

def scanTail (negative : Bool) (whole fraction : List Nat) (cs : List Char) : Scan Node :=
  match cs with
  | 'e' :: r => scanExponent negative whole fraction r
  | 'E' :: r => scanExponent negative whole fraction r
  | r => (.num ⟨negative, whole, fraction, none⟩, some r)

def scanNumber (cs : List Char) : Scan Node :=
  let (negative, unsigned) := match cs with
    | '-' :: r => (true, r)
    | r => (false, r)
  match digits unsigned with
  | ([], r) => missingDigit r
  | (0 :: _ :: _, _) => malformed
  | (whole, '.' :: r) =>
    match digits r with
    | ([], r') => missingDigit r'
    | (fraction, r') => scanTail negative whole fraction r'
  | (whole, r) => scanTail negative whole [] r

def scanWord (value : Node) : List Char → List Char → Scan Node
  | [], rest => (value, some rest)
  | _ :: _, [] => (.broken .truncated .truncated, none)
  | w :: ws, c :: rest => if c = w then scanWord value ws rest else malformed

mutual

/-- A value, after blanks. `fuel` bounds nesting and list lengths together; two steps go to each character. -/
def scanValue (fuel : Nat) (text : List Char) : Scan Node :=
  match fuel with
  | 0 => malformed
  | fuel + 1 =>
    match skipSpace text with
    | [] => (.broken .truncated .truncated, none)
    | c :: rest =>
      if c = '"' then let (s, r) := scanString rest; (.str s, r)
      else if c = '[' then
        match skipSpace rest with
        | ']' :: r => (.arr [] none, some r)
        | r => let (items, problem, r') := scanItems fuel r; (.arr items problem, r')
      else if c = '\x7b' then
        match skipSpace rest with
        | [] => (.obj [] (some .truncated), none)
        | '\x7d' :: r => (.obj [] none, some r)
        | '"' :: r => let (members, problem, r') := scanMembers fuel r; (.obj members problem, r')
        | _ => (.obj [] (some .malformed), none)
      else if c = 't' then scanWord (.bool true) ['r', 'u', 'e'] rest
      else if c = 'f' then scanWord (.bool false) ['a', 'l', 's', 'e'] rest
      else if c = 'n' then scanWord .null ['u', 'l', 'l'] rest
      else if c = '-' ∨ c.isDigit then scanNumber (c :: rest)
      else malformed

/-- Items of a list up to its closing bracket. A comma before the bracket leaves a broken item. -/
def scanItems (fuel : Nat) (text : List Char) : List Node × Option ReadError × Option (List Char) :=
  match fuel with
  | 0 => ([], some .malformed, none)
  | fuel + 1 =>
    match scanValue fuel text with
    | (v, none) => ([v], none, none)
    | (v, some rest) =>
      match skipSpace rest with
      | [] => ([v], some .truncated, none)
      | ']' :: r => ([v], none, some r)
      | ',' :: r =>
        match skipSpace r with
        | ']' :: _ => ([v, .broken .malformed .malformed], none, none)
        | r' => let (vs, problem, r'') := scanItems fuel r'; (v :: vs, problem, r'')
      | _ => ([v], some .malformed, none)

def scanMembers (fuel : Nat) (text : List Char) :
    List (Lexeme × Node) × Option ReadError × Option (List Char) :=
  match fuel with
  | 0 => ([], some .malformed, none)
  | fuel + 1 =>
    match scanString text with
    | (k, none) => ([(k, .broken .malformed .malformed)], none, none)
    | (k, some rest) =>
      match skipSpace rest with
      | [] => ([(k, .broken .truncated .truncated)], none, none)
      | ':' :: r =>
        match scanValue fuel r with
        | (v, none) => ([(k, v)], none, none)
        | (v, some r') =>
          match skipSpace r' with
          | [] => ([(k, v)], some .truncated, none)
          | '\x7d' :: r'' => ([(k, v)], none, some r'')
          | ',' :: r'' =>
            match skipSpace r'' with
            | [] => ([(k, v)], some .truncated, none)
            | '"' :: r3 => let (ms, problem, r4) := scanMembers fuel r3; ((k, v) :: ms, problem, r4)
            | _ => ([(k, v)], some .malformed, none)
          | _ => ([(k, v)], some .malformed, none)
      | _ => ([(k, .broken .malformed .malformed)], none, none)

end

/-- The tree of a text and what follows it. A list opens with one character and takes two steps, one for itself and
one for its first item. -/
def scan (text : List Char) : Scan Node := scanValue (2 * text.length + 2) text

end PassDelta.Json
