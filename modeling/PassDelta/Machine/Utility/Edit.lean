import PassDelta.Machine.Regex
import PassDelta.Machine.Utility.Line
/-!
# Editing lines

A script of edits that every line of a stream goes through: substitutions, deletions, insertions, a second text to
keep things in, and jumps.
-/

namespace PassDelta.Machine.Utility

/-- Which lines an edit is for. An expression that is left out is the one used last. -/
inductive Address where
  | line (n : Nat)
  | last
  | matching (pattern : Option Regex) (fold : Bool)
  | stride (first step : Nat)
  deriving DecidableEq, Repr

inductive RangeEnd where
  | address (a : Address)
  | more (n : Nat)
  | multiple (n : Nat)
  deriving DecidableEq, Repr

structure Guard where
  first : Option Address
  upto : Option RangeEnd
  negated : Bool
  deriving DecidableEq, Repr

/-- A part of a replacement: a text, a group of the match, or a change of case. -/
inductive Substitute where
  | text (cs : Octets)
  | group (n : Nat)
  | case (letter : Char)
  deriving DecidableEq, Repr

inductive Edit where
  | plain (letter : Char)
  | substitute (pattern : Option Regex) (fold : Bool) (replacement : List Substitute) (nth : Nat) (all prints : Bool)
      (file : Option Octets)
  | quit (silent : Bool) (code : Nat)
  | text (letter : Char) (body : Octets)
  | exchange (source target : Octets)
  | label (name : Octets)
  | jump (letter : Char) (name : Octets)
  | insert (file : Octets)
  | write (file : Octets)
  | opening
  | closing
  deriving DecidableEq, Repr

structure Step where
  guard : Guard
  edit : Edit
  deriving DecidableEq, Repr

namespace Edit

structure Source where
  rest : Octets
  taken : Nat

abbrev Read := StateT Source (Except String)

def refuse {α : Type} (text : String) : Read α := do throw ("char " ++ toString (← get).taken ++ ": " ++ text)

def next? : Read (Option Char) := do
  let s ← get
  match s.rest with
  | c :: rest =>
    set (⟨rest, s.taken + 1⟩ : Source)
    return some c
  | [] => return none

def peek : Read (Option Char) := do return (← get).rest.head?

def takeWhile (p : Char → Bool) : Read Octets := do
  let s ← get
  let found := s.rest.takeWhile p
  set (⟨s.rest.drop found.length, s.taken + found.length⟩ : Source)
  return found

def skipBlanks : Read Unit := do let _ ← takeWhile fun c => c = ' ' || c = '\t'

/-- The text up to a delimiter, which may stand in it after a backslash, and what follows. Where brackets hide the
delimiter, `bracketed` tells whether one is open. -/
def delimited (mark : Char) (hides : Bool) : Bool → Octets → Option (Octets × Octets)
  | _, [] => none
  | bracketed, '\\' :: c :: rest =>
    if bracketed then (delimited mark hides true (c :: rest)).map fun (cs, r) => ('\\' :: cs, r)
    else (delimited mark hides false rest).map fun (cs, r) => (if c = mark then (c :: cs, r) else ('\\' :: c :: cs, r))
  | bracketed, c :: rest =>
    if c = mark ∧ !bracketed then some ([], rest)
    else
      let opened := if !hides then false
        else if bracketed then c ≠ ']'
        else c = '[' && rest.contains ']'
      (delimited mark hides opened rest).map fun (cs, r) => (c :: cs, r)

def readDelimited (mark : Char) (hides : Bool) (complaint : String) : Read Octets := do
  let s ← get
  match delimited mark hides false s.rest with
  | some (body, rest) =>
    set (⟨rest, s.taken + (s.rest.length - rest.length)⟩ : Source)
    return body
  | none =>
    set (⟨[], s.taken + s.rest.length⟩ : Source)
    refuse complaint

def readPattern (extended : Bool) (text : Octets) : Read (Option Regex) := do
  if text.isEmpty then return none
  match Regex.read extended text with
  | .ok r => return some r
  | .error e => refuse e

def readAddress? (extended : Bool) : Read (Option Address) := do
  match ← peek with
  | some '$' =>
    let _ ← next?
    return some .last
  | some '/' =>
    let _ ← next?
    pattern '/'
  | some '\\' =>
    let _ ← next?
    match ← next? with
    | some mark => pattern mark
    | none => refuse "unexpected `,'"
  | some c =>
    if c.isDigit then
      let n := valueIn 10 (← takeWhile Char.isDigit)
      if (← peek) = some '~' then
        let _ ← next?
        return some (.stride n (valueIn 10 (← takeWhile Char.isDigit)))
      else return some (.line n)
    else return none
  | none => return none
where
  pattern (mark : Char) : Read (Option Address) := do
    let text ← readDelimited mark true "unterminated address regex"
    let r ← readPattern extended text
    let flags ← takeWhile fun c => c = 'I' || c = 'M'
    return some (.matching r (flags.contains 'I'))

def readGuard (extended : Bool) : Read Guard := do
  let first ← readAddress? extended
  if first.isSome then skipBlanks
  let upto ← if first.isSome ∧ (← peek) = some ',' then
      let _ ← next?
      skipBlanks
      match ← peek with
      | some '+' =>
        let _ ← next?
        pure (some (.more (valueIn 10 (← takeWhile Char.isDigit))))
      | some '~' =>
        let _ ← next?
        pure (some (.multiple (valueIn 10 (← takeWhile Char.isDigit))))
      | _ =>
        match ← readAddress? extended with
        | some a => pure (some (RangeEnd.address a))
        | none => refuse "unexpected `,'"
    else pure none
  skipBlanks
  let marks ← takeWhile fun c => c = '!' || c = ' ' || c = '\t'
  return ⟨first, upto, marks.contains '!'⟩

def replacement : Octets → List Substitute
  | [] => []
  | '&' :: rest => .group 0 :: replacement rest
  | '\\' :: c :: rest =>
    if c.isDigit then .group (c.toNat - 48) :: replacement rest
    else if "ULulE".toList.contains c then .case c :: replacement rest
    else .text [if c = 'n' then '\n' else if c = 't' then '\t' else if c = 'r' then '\r' else c] :: replacement rest
  | c :: rest => .text [c] :: replacement rest

def readEnd : Read Unit := do
  skipBlanks
  match ← peek with
  | none => return ()
  | some c =>
    if c = '\x7d' ∨ c = '#' then return ()
    else
      let _ ← next?
      if c ≠ '\n' ∧ c ≠ ';' then refuse "extra characters after command"

def readSubstitution (extended : Bool) : Read Edit := do
  let complaint := "unterminated `s' command"
  match ← next? with
  | none => refuse complaint
  | some mark =>
    let pattern ← readDelimited mark true complaint
    let parts := replacement (← readDelimited mark false complaint)
    let mut nth := 1
    let mut all := false
    let mut prints := false
    let mut fold := false
    let mut file := none
    for _ in List.range ((← get).rest.length + 1) do
      match ← peek with
      | none => break
      | some c =>
        if c.isDigit then nth := valueIn 10 (← takeWhile Char.isDigit)
        else if "gpiIMme".toList.contains c then
          let _ ← next?
          if c = 'g' then all := true
          if c = 'p' then prints := true
          if c = 'i' ∨ c = 'I' then fold := true
        else if c = 'w' then
          let _ ← next?
          skipBlanks
          file := some (← takeWhile (· ≠ '\n'))
        else if c = ' ' ∨ c = '\t' ∨ c = ';' ∨ c = '\n' ∨ c = '\x7d' ∨ c = '#' then break
        else
          let _ ← next?
          refuse "unknown option to `s'"
    let r ← readPattern extended pattern
    let most := parts.foldl (fun n p => match p with
      | .group k => max n k
      | _ => n) 0
    if r.any fun r => r.groupCount < most then
      refuse ("invalid reference \\" ++ toString most ++ " on `s' command's RHS")
    readEnd
    return .substitute r fold parts nth all prints file

/-- The text of an insertion: the rest of the line, and further lines where a backslash ends one. -/
def insertedText : Octets → Octets × Octets
  | [] => (['\n'], [])
  | '\n' :: rest => (['\n'], rest)
  | '\\' :: c :: rest => let (cs, r) := insertedText rest; (c :: cs, r)
  | c :: rest => let (cs, r) := insertedText rest; (c :: cs, r)

def readText (letter : Char) : Read Edit := do
  skipBlanks
  if (← peek).isNone then refuse ("expected \\ after `a', `c' or `i'")
  if (← peek) = some '\\' then
    let _ ← next?
    skipBlanks
    if (← peek) = some '\n' then
      let _ ← next?
  if (← peek).isNone then return .text letter []
  let s ← get
  let (body, rest) := insertedText s.rest
  set (⟨rest, s.taken + (s.rest.length - rest.length)⟩ : Source)
  return .text letter body

def readLabel : Read Octets := do
  skipBlanks
  let name ← takeWhile fun c => c ≠ '\n' && c ≠ ';' && c ≠ ' ' && c ≠ '\x7d'
  readEnd
  return name

def exchanged : Octets → Octets
  | '\\' :: 'n' :: rest => '\n' :: exchanged rest
  | '\\' :: c :: rest => c :: exchanged rest
  | c :: rest => c :: exchanged rest
  | [] => []

def readFileName : Read Octets := do
  skipBlanks
  let name ← takeWhile (· ≠ '\n')
  if name.isEmpty then refuse "missing filename in r/R/w/W commands"
  return name

def readEdit (extended : Bool) : Read Edit := do
  match ← next? with
  | none => refuse "missing command"
  | some c =>
    if c = '\x7b' then return .opening
    else if c = '\x7d' then
      readEnd
      return .closing
    else if c = 's' then readSubstitution extended
    else if c = 'y' then
      let complaint := "unterminated `y' command"
      match ← next? with
      | none => refuse complaint
      | some mark =>
        let source := exchanged (← readDelimited mark false complaint)
        let target := exchanged (← readDelimited mark false complaint)
        if source.length ≠ target.length then refuse "strings for `y' command are different lengths"
        readEnd
        return .exchange source target
    else if c = 'a' ∨ c = 'i' ∨ c = 'c' then readText c
    else if c = ':' then
      skipBlanks
      let name ← takeWhile fun c => c ≠ '\n' && c ≠ ';' && c ≠ ' '
      if name.isEmpty then refuse "\":\" lacks a label"
      return .label name
    else if c = 'b' ∨ c = 't' ∨ c = 'T' then return .jump c (← readLabel)
    else if c = 'r' then return .insert (← readFileName)
    else if c = 'w' then return .write (← readFileName)
    else if c = 'q' ∨ c = 'Q' then
      skipBlanks
      let code ← takeWhile Char.isDigit
      readEnd
      return .quit (c = 'Q') (valueIn 10 code % 256)
    else if "pPdDnNgGhHx=zlF".toList.contains c then
      readEnd
      return .plain c
    else refuse ("unknown command: `" ++ String.ofList [c] ++ "'")

def readSteps (extended : Bool) (fuel depth : Nat) : Read (List Step) :=
  match fuel with
  | 0 => return []
  | fuel + 1 => do
    let _ ← takeWhile fun c => c = ' ' || c = '\t' || c = '\n' || c = ';'
    match ← peek with
    | none =>
      if 0 < depth then throw "char 0: unmatched `\x7b'"
      return []
    | some '#' =>
      let _ ← takeWhile (· ≠ '\n')
      readSteps extended fuel depth
    | some _ =>
      let guard ← readGuard extended
      let edit ← readEdit extended
      let depth ← match edit with
        | .opening => pure (depth + 1)
        | .closing => do
          if depth = 0 then refuse "unexpected `\x7d'"
          pure (depth - 1)
        | _ => pure depth
      return ⟨guard, edit⟩ :: (← readSteps extended fuel depth)

def steps (extended : Bool) (text : Octets) : Except String (List Step) :=
  ((readSteps extended (text.length + 1) 0).run ⟨text, 0⟩).map Prod.fst

end Edit

/-- A stream that is edited. What is written is kept latest first, each part with the file it goes to. -/
structure Editing where
  lines : List Octets
  number : Nat
  space : Octets
  ended : Bool
  hold : Octets
  queue : List Octets
  out : List (Option Octets × Octets)
  open_ : Bool
  replaced : Bool
  active : List (Nat × Option Nat)
  lastPattern : Regex
  stopped : Option Nat
  deriving Repr

namespace Editing

def write (e : Editing) (file : Option Octets) (text : Octets) : Editing := { e with out := (file, text) :: e.out }

def print (e : Editing) (text : Octets) : Editing :=
  { (if e.open_ then e.write none ['\n'] else e).write none text with
    open_ := text.getLast? ≠ some '\n' && !text.isEmpty }

def printLine (e : Editing) (line : Octets) : Editing :=
  if e.ended then e.print (line ++ ['\n']) else { e.print line with open_ := true }

def writeLine (e : Editing) (file line : Octets) : Editing :=
  if file = "/dev/stdout".toList then e.printLine line else e.write (some file) (line ++ ['\n'])

def flush (e : Editing) : Editing :=
  { e.queue.foldl (fun e text => e.print text) { e with queue := [] } with queue := [] }

def load? (e : Editing) : Option (Octets × Editing) :=
  match e.lines with
  | [] => none
  | line :: rest =>
    some (chomp line, { e with lines := rest, number := e.number + 1, ended := line.getLast? = some '\n' })

def isLast (e : Editing) : Bool := e.lines.isEmpty

def holds (e : Editing) : Address → Bool × Editing
  | .line n => (e.number = n, e)
  | .last => (e.isLast, e)
  | .stride first step =>
    (if step = 0 then e.number = first else first ≤ e.number && (e.number - first) % step = 0, e)
  | .matching pattern fold =>
    let r := pattern.getD e.lastPattern
    ((r.search fold none e.space).isSome, { e with lastPattern := r })

def keep (e : Editing) (index : Nat) (goesOn : Option (Option Nat)) : Editing :=
  let others := e.active.filter (·.1 ≠ index)
  { e with active := match goesOn with
    | some limit => (index, limit) :: others
    | none => others }

def inside (e : Editing) (index : Nat) (upto : RangeEnd) (limit : Option Nat) : Bool × Editing :=
  match limit, upto with
  | some n, _ => (e.number ≤ n, if n ≤ e.number then e.keep index none else e)
  | none, .address a =>
    let (found, e) := e.holds a
    (true, if found then e.keep index none else e)
  | none, _ => (true, e)

def enter (e : Editing) (index : Nat) : RangeEnd → Editing
  | .address (.line n) => if n ≤ e.number then e else e.keep index (some (some n))
  | .address .last => if e.isLast then e else e.keep index (some none)
  | .address _ => e.keep index (some none)
  | .more n => if n = 0 then e else e.keep index (some (some (e.number + n)))
  | .multiple n => if n = 0 ∨ e.number % n = 0 then e else e.keep index (some (some ((e.number / n + 1) * n)))

def selects (e : Editing) (index : Nat) (g : Guard) : Bool × Editing :=
  let (found, e) := match g.first, g.upto with
    | none, _ => (true, e)
    | some a, none => e.holds a
    | some a, some upto =>
      match e.active.lookup index with
      | some limit => e.inside index upto limit
      | none =>
        let (found, e) := e.holds a
        if found then (true, e.enter index upto) else (false, e)
  (found != g.negated, e)

/-- A text under a change of case, of which one may be for its first octet only. -/
def cased (lasting once : Char) (text : Octets) : Octets :=
  let body := if lasting = 'U' then text.map Char.toUpper else if lasting = 'L' then text.map Char.toLower else text
  match body with
  | c :: rest => (if once = 'u' then c.toUpper else if once = 'l' then c.toLower else c) :: rest
  | [] => []

def filled (f : Regex.Found) : List Substitute → Char → Char → Octets
  | [], _, _ => []
  | .case c :: rest, lasting, once =>
    if c = 'u' ∨ c = 'l' then filled f rest lasting c else filled f rest c once
  | .text cs :: rest, lasting, once => cased lasting once cs ++ filled f rest lasting (if cs.isEmpty then once else ' ')
  | .group n :: rest, lasting, once =>
    let cs := if n = 0 then f.text else (f.groups.lookup n).getD []
    cased lasting once cs ++ filled f rest lasting (if cs.isEmpty then once else ' ')

/-- A text with its matches from the `nth` on replaced, or only that one, and whether there was one. -/
def substituted (r : Regex) (fold : Bool) (parts : List Substitute) (nth : Nat) (all : Bool) (text : Octets) :
    Octets × Bool :=
  let found := r.searchAll fold (text.length + 2) none true text
  let chosen (i : Nat) : Bool := if all then nth ≤ i + 1 else nth = i + 1
  let pieces := found.zipIdx.map fun (f, i) => f.before ++ if chosen i then filled f parts ' ' ' ' else f.text
  (pieces.flatten ++ (found.getLast?.map Regex.Found.after).getD text, nth ≤ found.length)

inductive Going where
  | on (e : Editing)
  | jump (name : Octets) (e : Editing)
  | skip (e : Editing)
  | finish (prints : Bool) (e : Editing)
  | again (e : Editing)

def visibleLine (cs : Octets) : Octets :=
  cs.flatMap (fun c =>
    if c = '\\' then ['\\', '\\']
    else if c = '\n' then ['\\', 'n']
    else if c = '\t' then ['\\', 't']
    else if c.toNat < 32 ∨ 127 ≤ c.toNat then
      '\\' :: leftFill 3 '0' (Nat.toDigits 8 c.toNat)
    else [c]) ++ ['$']

def plain (e : Editing) (silent : Bool) (c : Char) : Going :=
  let first := e.space.takeWhile (· ≠ '\n')
  match c with
  | 'p' => .on (e.printLine e.space)
  | 'P' => .on (e.print (first ++ ['\n']))
  | 'd' => .finish false e
  | 'D' =>
    if first.length = e.space.length then .finish false e
    else .again { e with space := e.space.drop (first.length + 1) }
  | 'g' => .on { e with space := e.hold }
  | 'G' => .on { e with space := e.space ++ ['\n'] ++ e.hold }
  | 'h' => .on { e with hold := e.space }
  | 'H' => .on { e with hold := e.hold ++ ['\n'] ++ e.space }
  | 'x' => .on { e with hold := e.space, space := e.hold }
  | 'z' => .on { e with space := [] }
  | '=' => .on (e.print (digitsOf e.number ++ ['\n']))
  | 'l' => .on (e.print (visibleLine e.space ++ ['\n']))
  | 'F' => .on (e.print "-\n".toList)
  | 'n' =>
    if e.isLast then .finish true { e with stopped := some 0 }
    else
      let e := (if silent then e else e.printLine e.space).flush
      match e.load? with
      | some (line, e) => .on { e with space := line }
      | none => .on e
  | 'N' =>
    match e.flush.load? with
    | some (line, e') => .on { e' with space := e.space ++ ['\n'] ++ line }
    | none => .finish true { e with stopped := some 0 }
  | _ => .on e

def apply (e : Editing) (silent : Bool) (read : Octets → Octets) (index : Nat) (g : Guard) : Edit → Going
  | .plain c => plain e silent c
  | .substitute pattern fold parts nth all prints file =>
    let r := pattern.getD e.lastPattern
    let (space, changed) := substituted r fold parts nth all e.space
    let e := { e with lastPattern := r }
    if changed then
      let e := { e with space := space, replaced := true }
      let e := if prints then e.printLine space else e
      .on (match file with
        | some name => e.writeLine name space
        | none => e)
    else .on e
  | .quit silently code => .finish (!silently) { e with stopped := some code }
  | .text c body =>
    if c = 'a' then .on { e with queue := e.queue ++ [body] }
    else if c = 'i' then .on (e.print body)
    else if g.upto.isSome ∧ !g.negated ∧ (e.active.lookup index).isSome then .finish false e
    else .finish false (e.print body)
  | .exchange source target =>
    .on { e with space := e.space.map fun c => ((source.idxOf? c).bind fun i => target[i]?).getD c }
  | .label _ => .on e
  | .jump c name =>
    if c = 'b' then .jump name e
    else if c = 't' then if e.replaced then .jump name { e with replaced := false } else .on e
    else if e.replaced then .on { e with replaced := false } else .jump name e
  | .insert file => .on { e with queue := e.queue ++ [read file] }
  | .write file => .on (e.writeLine file e.space)
  | .opening => .on e
  | .closing => .on e

def behindBlock : Nat → Nat → List Step → Nat
  | _, i, [] => i
  | depth, i, s :: rest =>
    match s.edit with
    | .opening => behindBlock (depth + 1) (i + 1) rest
    | .closing => if depth = 0 then i + 1 else behindBlock (depth - 1) (i + 1) rest
    | _ => behindBlock depth (i + 1) rest

def runFrom (script : List Step) (silent : Bool) (read : Octets → Octets) : Nat → Nat → Editing → Going
  | 0, _, e => .finish true e
  | fuel + 1, i, e =>
    match script[i]? with
    | none => .finish true e
    | some s =>
      let (selected, e) := e.selects i s.guard
      if !selected then
        let i' := match s.edit with
          | .opening => behindBlock 0 (i + 1) (script.drop (i + 1))
          | _ => i + 1
        runFrom script silent read fuel i' e
      else match e.apply silent read i s.guard s.edit with
        | .on e => runFrom script silent read fuel (i + 1) e
        | .jump name e =>
          if name.isEmpty then .finish true e
          else match script.findIdx? fun s => s.edit = .label name with
            | some j => runFrom script silent read fuel j e
            | none => .finish true e
        | other => other

def maxSteps : Nat := 100000

def cycles (script : List Step) (silent : Bool) (read : Octets → Octets) : Nat → Bool → Editing → Editing
  | 0, _, e => e
  | fuel + 1, keeps, e =>
    let start := if keeps then some e else e.load?.map fun (line, e) => { e with space := line, replaced := false }
    match start with
    | none => e
    | some e =>
      let close (prints : Bool) (e : Editing) : Editing := (if prints ∧ !silent then e.printLine e.space else e).flush
      match runFrom script silent read maxSteps 0 e with
      | .finish prints e =>
        let e := close prints e
        if e.stopped.isSome then e else cycles script silent read fuel false e
      | .again e => cycles script silent read fuel true e.flush
      | .on e => cycles script silent read fuel false (close true e)
      | .jump _ e => cycles script silent read fuel false (close true e)
      | .skip e => cycles script silent read fuel false (close true e)

/-- A stream before its first line. A range from line zero is open from the start. -/
def start (script : List Step) (lines : List Octets) : Editing :=
  let active := script.zipIdx.filterMap fun (s, i) =>
    if s.guard.first = some (.line 0) ∧ s.guard.upto.isSome then some (i, none) else none
  ⟨lines, 0, [], true, [], [], [], false, false, active, .empty, none⟩

end Editing

open Act

def editText (script : List Step) (silent : Bool) (read : Octets → Octets) (lines : List Octets) : Editing :=
  Editing.cycles script silent read (2 * lines.length + lines.flatten.length + 2) false (Editing.start script lines)

def deliverEdited (e : Editing) (output : Octets → Act Unit) : Act Unit := do
  for (file, text) in e.out.reverse do
    match file with
    | none => output text
    | some _ => pure ()
  for file in (e.out.filterMap Prod.fst).eraseDups do
    let text := (e.out.reverse.filter fun x => x.1 = some file).flatMap Prod.snd
    let _ ← store file false text
  if let some code := e.stopped then
    if code ≠ 0 then fail code

def sed : Act Unit := do
  let args := (← read).args.map fun w => if "-i.".toList.isPrefixOf w then ['-', 'i'] else w
  let long := [("quiet", 'n'), ("silent", 'n'), ("expression", 'e'), ("file", 'f'), ("regexp-extended", 'E'),
    ("in-place", 'i'), ("separate", 's'), ("unbuffered", 'u')]
  withReader (fun call => { call with args := args }) <| withOptions 1 "nErisuz" "efl" long fun c => do
    let pieces := (c.options.filter fun o => o.1 = 'e' || o.1 = 'f')
    let mut texts := []
    for (letter, value) in pieces do
      if letter = 'e' then texts := texts ++ [value]
      else match ← fetch value with
        | .ok text => texts := texts ++ [text]
        | .error e => return ← reject 4 ("couldn't open file ".toList ++ value ++ ": ".toList ++ octetsOfText e.words)
    let (script?, files) := if pieces.isEmpty then (c.operands.head?, c.operands.tail)
      else (some (['\n'].intercalate texts), c.operands)
    match script? with
    | none =>
      put 2 "Usage: sed [OPTION]... \x7bscript-only-if-no-other-script\x7d [input-file]...\n".toList
      fail 1
    | some text =>
      match Edit.steps (c.has 'E' || c.has 'r') text with
      | .error e => reject 1 (octetsOfText ("-e expression #1, " ++ e))
      | .ok script =>
        let w ← getWorld
        let here ← place
        let readInserted (file : Octets) : Octets :=
          match w.tree.readBytes here ⟨bytesOf file⟩ with
          | .ok contents => octets contents
          | .error _ => []
        let mut parts := []
        for file in if files.isEmpty then [['-']] else files do
          match ← fetch file with
          | .ok text => parts := parts ++ [(file, fullLines text)]
          | .error e =>
            if e = .eisdir then
              reject 4 ((if c.has 'i' then "couldn't edit ".toList else "read error on ".toList) ++ file ++
                if c.has 'i' then ": not a regular file".toList else ": Is a directory".toList)
            else reject 2 ("can't read ".toList ++ file ++ ": ".toList ++ octetsOfText e.words)
        if c.has 'i' then
          for (file, lines) in parts do
            let e := editText script (c.has 'n') readInserted lines
            let rest := e.lines.flatten
            deliverEdited e fun _ => pure ()
            let text := (e.out.reverse.filter fun x => x.1.isNone).flatMap Prod.snd ++ rest
            let _ ← store file false text
        else if c.has 's' then
          for (_, lines) in parts do
            deliverEdited (editText script (c.has 'n') readInserted lines) print
        else
          let joined := (parts.map Prod.snd).foldl (fun lines more => match lines.getLast? with
            | some line => if line.getLast? = some '\n' then lines ++ more else lines.dropLast ++ [line ++ ['\n']] ++ more
            | none => more) []
          deliverEdited (editText script (c.has 'n') readInserted joined) print

end PassDelta.Machine.Utility
