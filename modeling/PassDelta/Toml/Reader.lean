import PassDelta.Toml.Scalar
import PassDelta.Toml.Table
/-!
# Reading TOML

A text is a sequence of lines: blank, comment, header, or key and value. Lists and inline tables may run over
several lines, also around the equals sign of a member, and end with a comma. Both nest at most eighty deep, and a
dotted key has at most eighty parts.
-/

namespace PassDelta.Toml

/-- How deep lists and inline tables may nest, and how many parts a dotted key may have. -/
def maxDepth : Nat := 80

def skipFill (inComment : Bool) : List Char → Option (List Char)
  | [] => some []
  | c :: rest =>
    if c = '\n' then skipFill false rest
    else if c = '\r' then if beforeFeed rest then skipFill inComment rest else none
    else if inComment then if isPlain c then skipFill true rest else none
    else if c = '#' then skipFill true rest
    else if isBlankOnLine c then skipFill false rest
    else some (c :: rest)

/-- The end of a line, after blanks and perhaps a comment; the end of the text will do. -/
def finishLine (cs : List Char) : Option (List Char) :=
  let afterComment := match skipBlank cs with
    | '#' :: rest => rest.dropWhile isPlain
    | rest => rest
  match afterComment with
  | [] => some []
  | rest => lineEnd? rest

def isBareKeyChar (c : Char) : Bool := c.isAlphanum || c = '_' || c = '-'

def scanKey (cs : List Char) : Scan Key :=
  let keyOf (name rest : List Char) : Key × List Char := (⟨String.ofList name, cs, rest⟩, rest)
  if cs.head? = some '"' ∨ cs.head? = some '\'' then (scanShort cs).map fun (name, rest) => keyOf name rest
  else match cs.takeWhile isBareKeyChar with
    | [] => none
    | name => some (keyOf name (cs.dropWhile isBareKeyChar))

/-- At most `parts` keys with dots between them: the leading ones and the last. -/
def scanPath (parts : Nat) (cs : List Char) : Scan (List Key × Key) :=
  match parts with
  | 0 => none
  | parts + 1 =>
    match scanKey cs with
    | none => none
    | some (key, rest) =>
      match skipBlank rest with
      | '.' :: more => (scanPath parts (skipBlank more)).map fun ((path, last), rest') => ((key :: path, last), rest')
      | _ => some (([], key), rest)

/-- A dotted key and the equals sign, with what `skip` passes over on both sides of the sign. -/
def scanAssigned (skip : List Char → Option (List Char)) (cs : List Char) : Scan (List Key × Key) :=
  match scanPath maxDepth cs with
  | none => none
  | some (keys, rest) =>
    match skip rest with
    | some ('=' :: more) => (skip more).map fun rest' => (keys, rest')
    | _ => none

mutual

/-- A value. `fuel` bounds the length of the text, `depth` the nesting. -/
def scanValue (fuel depth : Nat) (cs : List Char) : Scan Item :=
  match fuel with
  | 0 => none
  | fuel + 1 =>
    match cs, depth with
    | '[' :: rest, depth + 1 =>
      (scanItems fuel depth rest).map fun (items, rest') => (.list ⟨cs, rest'⟩ items, rest')
    | '\x7b' :: rest, depth + 1 =>
      (scanMembers fuel depth cs [] rest).map fun (members, rest') =>
        (.table (.braces ⟨cs, rest'⟩) members, rest')
    | _, _ => (scanScalar cs).map fun (v, rest') => (.scalar ⟨cs, rest'⟩ v, rest')

def scanItems (fuel depth : Nat) (cs : List Char) : Scan (List Item) :=
  match fuel with
  | 0 => none
  | fuel + 1 =>
    match skipFill false cs with
    | none => none
    | some (']' :: rest) => some ([], rest)
    | some rest =>
      match scanValue fuel depth rest with
      | none => none
      | some (v, rest) =>
        match skipFill false rest with
        | some (']' :: rest) => some ([v], rest)
        | some (',' :: rest) => (scanItems fuel depth rest).map fun (vs, rest') => (v :: vs, rest')
        | _ => none

/-- The members of an inline table, from after its brace or a comma, with those before them. -/
def scanMembers (fuel depth : Nat) (start : List Char) (before : Members) (cs : List Char) : Scan Members :=
  match fuel with
  | 0 => none
  | fuel + 1 =>
    match skipFill false cs with
    | none => none
    | some ('\x7d' :: rest) => some (before, rest)
    | some rest =>
      match scanAssigned (skipFill false) rest with
      | none => none
      | some ((path, key), rest) =>
        match scanValue fuel depth rest with
        | none => none
        | some (v, rest) =>
          match assign path key v (.braces ⟨start, rest⟩) before, skipFill false rest with
          | some members, some ('\x7d' :: rest) => some (members, rest)
          | some members, some (',' :: rest) => scanMembers fuel depth start members rest
          | _, _ => none

end

/-- The tables read so far, and the path to the one that keys are added to. -/
structure Progress where
  root : Members
  path : List Key

def rootOrigin : Origin := .header ⟨[], []⟩

/-- A line with a key and a value. `fuel` bounds the length of the text. -/
def scanEntry (fuel : Nat) (p : Progress) (cs : List Char) : Scan Progress :=
  match scanAssigned (fun rest => some (skipBlank rest)) cs with
  | none => none
  | some ((path, key), rest) =>
    match scanValue fuel maxDepth rest with
    | none => none
    | some (v, rest) =>
      (within false (assign path key v) p.path rootOrigin p.root).map fun root => (⟨root, p.path⟩, rest)

def scanHeader (p : Progress) (cs : List Char) : Scan Progress :=
  let double := startsWithTwo '[' cs
  let inner := skipBlank (cs.drop (if double then 2 else 1))
  match scanPath maxDepth inner with
  | none => none
  | some ((path, key), rest) =>
    let closed := match double, skipBlank rest with
      | true, ']' :: ']' :: rest => some rest
      | false, ']' :: rest => some rest
      | _, _ => none
    match closed with
    | none => none
    | some rest =>
      let span : Span := ⟨cs, rest⟩
      let change := if double then openEntry key span else openTable key span
      (within false (fun _ => change) path rootOrigin p.root).map fun root => (⟨root, path ++ [key]⟩, rest)

def scanLines (fuel : Nat) (p : Progress) (cs : List Char) : Option Members :=
  match fuel with
  | 0 => none
  | fuel + 1 =>
    let line := skipBlank cs
    let scanned : Scan Progress :=
      match line with
      | '[' :: _ => scanHeader p line
      | [] => some (p, line)
      | c :: _ => if c = '\n' ∨ c = '\r' ∨ c = '#' then some (p, line) else scanEntry fuel p line
    match scanned with
    | none => none
    | some (p', rest) =>
      match finishLine rest with
      | none => none
      | some [] => some p'.root
      | some next => scanLines fuel p' next

def skipMark : List Char → List Char
  | [] => []
  | c :: rest => if c.toNat = 0xFEFF then rest else c :: rest

def read (text : List Char) : Option Members := scanLines (text.length + 1) ⟨[], []⟩ (skipMark text)

end PassDelta.Toml
