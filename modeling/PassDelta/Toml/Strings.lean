/-!
# TOML strings as written

Basic strings take escapes, literal strings take none; both come on one line or over several. A string over
several lines loses the line end after its opening quotes, and up to two quotes may stand directly before its
closing ones.
-/

namespace PassDelta.Toml

abbrev Scan (α : Type) := Option (α × List Char)

/-- A character that may stand as itself in strings and comments: no control except the tab. -/
def isPlain (c : Char) : Bool := c = '\t' || (0x20 ≤ c.toNat && c.toNat ≠ 0x7F)

def isBlankOnLine (c : Char) : Bool := c = ' ' || c = '\t'

def skipBlank (cs : List Char) : List Char := cs.dropWhile isBlankOnLine

def lineEnd? : List Char → Option (List Char)
  | '\n' :: rest => some rest
  | '\r' :: '\n' :: rest => some rest
  | _ => none

def push (c : Char) (s : Scan (List Char)) : Scan (List Char) := s.map fun (cs, rest) => (c :: cs, rest)

def simpleEscape? (c : Char) : Option Char :=
  if c = '"' ∨ c = '\\' then some c
  else if c = 'b' then some (Char.ofNat 8)
  else if c = 't' then some '\t'
  else if c = 'n' then some '\n'
  else if c = 'f' then some (Char.ofNat 12)
  else if c = 'r' then some '\r'
  else if c = 'e' then some (Char.ofNat 27)
  else none

def codeWidth? (c : Char) : Option Nat :=
  if c = 'x' then some 2
  else if c = 'u' then some 4
  else if c = 'U' then some 8
  else none

def hexValue? (c : Char) : Option Nat :=
  if c.isDigit then some (c.toNat - 48)
  else if 'a' ≤ c ∧ c ≤ 'f' then some (c.toNat - 87)
  else if 'A' ≤ c ∧ c ≤ 'F' then some (c.toNat - 55)
  else none

/-- The character with a code, unless it is a surrogate or too large. -/
def charOf? (code : Nat) : Option Char := if code.isValidChar then some (Char.ofNat code) else none

/-- Where a scanner is inside a basic string: between characters, after a backslash, inside a numeric escape with
digits left and the value so far, or in the white space that an escaped line end swallows, once that line end is
met. -/
inductive Inside where
  | plain
  | escape
  | code (left value : Nat)
  | fold (ended : Bool)
  deriving DecidableEq, Repr

def Inside.settle (c : Char) : Inside → Inside
  | .fold true => if isBlankOnLine c || c = '\n' || c = '\r' then .fold true else .plain
  | state => state

def closeLong (quote : Char) : List Char → List Char × List Char
  | a :: b :: rest =>
    if a = quote then if b = quote then ([a, b], rest) else ([a], b :: rest) else ([], a :: b :: rest)
  | [a] => if a = quote then ([a], []) else ([], [a])
  | [] => ([], [])

def startsWithTwo (quote : Char) : List Char → Bool
  | a :: b :: _ => a = quote && b = quote
  | _ => false

def beforeFeed (rest : List Char) : Bool := rest.head? = some '\n'

/-- A basic string after its opening quotes; `long` if these were three. -/
def scanBasic (long : Bool) : Inside → List Char → Scan (List Char)
  | _, [] => none
  | state, c :: rest =>
    match state.settle c with
    | .plain =>
      if c = '"' then
        if !long then some ([], rest)
        else if startsWithTwo '"' rest then some (closeLong '"' (rest.drop 2))
        else push c (scanBasic long .plain rest)
      else if c = '\\' then scanBasic long .escape rest
      else if isPlain c || (long && (c = '\n' || (c = '\r' && beforeFeed rest))) then
        push c (scanBasic long .plain rest)
      else none
    | .escape =>
      match simpleEscape? c, codeWidth? c with
      | some e, _ => push e (scanBasic long .plain rest)
      | none, some n => scanBasic long (.code n 0) rest
      | none, none =>
        if !long then none
        else if c = '\n' then scanBasic long (.fold true) rest
        else if isBlankOnLine c || (c = '\r' && beforeFeed rest) then scanBasic long (.fold false) rest
        else none
    | .code left value =>
      match hexValue? c with
      | none => none
      | some d =>
        if 1 < left then scanBasic long (.code (left - 1) (value * 16 + d)) rest
        else match charOf? (value * 16 + d) with
          | some x => push x (scanBasic long .plain rest)
          | none => none
    | .fold ended =>
      if c = '\n' then scanBasic long (.fold true) rest
      else if isBlankOnLine c || (c = '\r' && beforeFeed rest) then scanBasic long (.fold ended) rest
      else none

def scanLiteral (long : Bool) : List Char → Scan (List Char)
  | [] => none
  | c :: rest =>
    if c = '\'' then
      if !long then some ([], rest)
      else if startsWithTwo '\'' rest then some (closeLong '\'' (rest.drop 2))
      else push c (scanLiteral long rest)
    else if isPlain c || (long && (c = '\n' || (c = '\r' && beforeFeed rest))) then push c (scanLiteral long rest)
    else none

def dropLineEnd (cs : List Char) : List Char := (lineEnd? cs).getD cs

def scanShort : List Char → Scan (List Char)
  | '"' :: rest => scanBasic false .plain rest
  | '\'' :: rest => scanLiteral false rest
  | _ => none

def scanString : List Char → Scan (List Char)
  | '"' :: '"' :: '"' :: rest => scanBasic true .plain (dropLineEnd rest)
  | '\'' :: '\'' :: '\'' :: rest => scanLiteral true (dropLineEnd rest)
  | cs => scanShort cs

example : scanString "\"a\\u00e9\\\\\"x".toList = some ("aé\\".toList, ['x']) := by decide +kernel
example : scanString "'''\na''b'''''y".toList = some ("a''b''".toList, ['y']) := by decide +kernel
example : scanString "\"\"\"a\\ \n \n b\"\"\"".toList = some ("ab".toList, []) := by decide +kernel

end PassDelta.Toml
