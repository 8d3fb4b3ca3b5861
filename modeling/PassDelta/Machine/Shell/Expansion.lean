import PassDelta.Machine.Shell.Braces
import PassDelta.Machine.Quoting
import PassDelta.Machine.Shell.Reckoning
/-!
# Expansion of words

A word becomes a row of octets, each marked with where it came from; the marks say where fields may be cut and
which octets are patterns. Commands inside a word are run by a function that is given.
-/

namespace PassDelta.Machine.Shell

/-- An octet of an expanded word, or a boundary. A `mark` makes a field even of nothing; `gone` takes back the mark
before it, and a `cut` ends a field. -/
inductive Atom where
  | plain (c : Char)
  | quoted (c : Char)
  | value (c : Char)
  | mark
  | cut
  | gone
  deriving DecidableEq, Repr

inductive Failure where
  | unset (name : String)
  | required (name : String) (text : Option Octets) (loose : Bool)
  | readonly (name : String)
  | badSubstitution (written : Octets)
  | sum (text : Octets) (fault : SumFault)
  | ambiguous (written : Octets)
  | told (text : Octets)
  deriving DecidableEq, Repr

def Failure.message (d : Dialect) (f : Failure) : Octets :=
  match d, f with
  | .plain, .unset name => name.toList ++ ": parameter not set".toList
  | .rich, .unset name => (if name.toList.all Char.isDigit then ['$'] else []) ++ name.toList ++ ": unbound variable".toList
  | _, .required name (some text) _ => name.toList ++ ": ".toList ++ text
  | .plain, .required name none loose =>
    (name ++ ": parameter not set" ++ if loose then " or null" else "").toList
  | .rich, .required name none loose =>
    (name ++ ": parameter " ++ if loose then "null or not set" else "not set").toList
  | .plain, .readonly name => name.toList ++ ": is read only".toList
  | .rich, .readonly name => name.toList ++ ": readonly variable".toList
  | .plain, .badSubstitution _ => "Bad substitution".toList
  | .rich, .badSubstitution written => written ++ ": bad substitution".toList
  | _, .sum text fault => fault.message text
  | _, .ambiguous written => written ++ ": ambiguous redirect".toList
  | _, .told text => text

abbrev Expand := ExceptT Failure Exec

def valueAtoms (isQuoted : Bool) (text : Octets) : List Atom := text.map (if isQuoted then Atom.quoted else Atom.value)

def textAtoms (soft isQuoted : Bool) (cs : Octets) : List Atom :=
  if isQuoted && cs.isEmpty then [.mark]
  else cs.map (if isQuoted then Atom.quoted else if soft then Atom.value else Atom.plain)

def wholeText (atoms : List Atom) : Octets :=
  atoms.filterMap fun a => match a with
    | .plain c => some c
    | .quoted c => some c
    | .value c => some c
    | .cut => some ' '
    | _ => none

/-- The octets of a row as a pattern in which quoted ones stand for themselves. -/
def patternOf (atoms : List Atom) : List (Char × Bool) :=
  atoms.filterMap fun a => match a with
    | .plain c => some (c, false)
    | .value c => some (c, false)
    | .quoted c => some (c, true)
    | .cut => some (' ', true)
    | _ => none

/-- The longest or shortest part at the front that a pattern covers is taken away. -/
def trimFront (longest : Bool) (pattern : List Glob) (text : Octets) : Octets :=
  let cuts := (List.range (text.length + 1)).filter fun n => covers pattern (text.take n)
  match (if longest then cuts.getLast? else cuts.head?) with
  | some n => text.drop n
  | none => text

/-- The longest or shortest part at the end that a pattern covers is taken away. -/
def trimBack (longest : Bool) (pattern : List Glob) (text : Octets) : Octets :=
  let cuts := (List.range (text.length + 1)).filter fun n => covers pattern (text.drop n)
  match (if longest then cuts.head? else cuts.getLast?) with
  | some n => text.take n
  | none => text

/-- What a parameter stands for: a text, if it is set, or several of them, joined in quotes or not. -/
inductive Found where
  | one (text : Option Octets)
  | many (values : List Octets) (joined : Bool)
  deriving DecidableEq, Repr

namespace Found

def text? : Found → Option Octets
  | one text => text
  | many values _ => if values.isEmpty then none else some ([' '].intercalate values)

def map (change : Octets → Octets) : Found → Found
  | one text => one (text.map change)
  | many values joined => many (values.map change) joined

end Found

def manyAtoms (s : Shell) (isQuoted joined : Bool) (values : List Octets) : List Atom :=
  if isQuoted && joined then
    let mark := match s.value? "IFS" with
      | some [] => []
      | some (c :: _) => [c]
      | none => [' ']
    valueAtoms true (mark.intercalate values)
  else if isQuoted && values.isEmpty then [.gone]
  else [Atom.cut].intercalate (values.map fun v => (if isQuoted then [.mark] else []) ++ valueAtoms isQuoted v)

def foundAtoms (s : Shell) (isQuoted : Bool) : Found → List Atom
  | .one text => valueAtoms isQuoted (text.getD [])
  | .many values joined => manyAtoms s isQuoted joined values

def globRule (s : Shell) : GlobRule := ⟨s.isRich, s.isRich && s.switches.contains "extglob"⟩

def named (s : Shell) (name : String) : Found :=
  if name = "@" then .many s.positional false
  else if name = "*" then .many s.positional true
  else .one (s.value? (if s.isRich then meant s maxMeanings name else name))

def dropNewlines (cs : Octets) : Octets := (cs.reverse.dropWhile (· = '\n')).reverse

def Subject.title : Subject → String
  | .name x => x
  | .element x _ => x
  | .all x joined => x ++ if joined then "[*]" else "[@]"
  | .indirect s => title s

/-- The part of a text from a place on, counted from its end when below zero, up to a length or a place before the
end. None where the end comes before the start. -/
def slice (size start : Int) (length : Option Int) : Option (Nat × Nat) :=
  let start := if start < 0 then size + start else start
  if start < 0 ∨ size < start then some (0, 0)
  else match length with
    | none => some (start.toNat, (size - start).toNat)
    | some n =>
      if 0 ≤ n then some (start.toNat, n.toNat)
      else if size + n < start then none
      else some (start.toNat, (size + n - start).toNat)

/-- A replacement in which an ampersand that is not quoted stands for what it replaces. -/
def filledIn (by_ : List Atom) (matched : Octets) : Octets :=
  by_.flatMap fun a => match a with
    | .plain c => if c = '&' then matched else [c]
    | .value c => if c = '&' then matched else [c]
    | .quoted c => [c]
    | .cut => [' ']
    | _ => []

def longestFront (pattern : List Glob) (text : Octets) : Option Nat :=
  ((List.range (text.length + 1)).filter fun n => covers pattern (text.take n)).getLast?

def substituted (pattern : List Glob) (by_ : List Atom) (all : Bool) : Nat → Octets → Octets
  | 0, text => text
  | _ + 1, [] => []
  | fuel + 1, c :: rest =>
    let text := c :: rest
    match (longestFront pattern text).filter (0 < ·) with
    | some n =>
      let after := text.drop n
      filledIn by_ (text.take n) ++ if all then substituted pattern by_ all fuel after else after
    | none => c :: substituted pattern by_ all fuel rest

def substitutedAt (anchor : Anchor) (pattern : List Glob) (by_ : List Atom) (all : Bool) (text : Octets) : Octets :=
  match anchor with
  | .start => match longestFront pattern text with
    | some n => filledIn by_ (text.take n) ++ text.drop n
    | none => text
  | .finish =>
    match (List.range (text.length + 1)).find? fun n => covers pattern (text.drop n) with
    | some n => text.take n ++ filledIn by_ (text.drop n)
    | none => text
  | .anywhere =>
    if pattern.isEmpty then text
    else if text.isEmpty then (if covers pattern [] then filledIn by_ [] else [])
    else substituted pattern by_ all (text.length + 1) text

def recaseChar (how : Recase) (c : Char) : Char :=
  match how with
  | .upper => c.toUpper
  | .lower => c.toLower
  | .other => if c.isUpper then c.toLower else c.toUpper

/-- A text with the case of letters changed that a pattern covers: of the first octet, or of all. -/
def recasedText (how : Recase) (all : Bool) (pattern : List Glob) (text : Octets) : Octets :=
  let change (c : Char) : Char := if covers pattern [c] then recaseChar how c else c
  if all then text.map change
  else match text with
    | [] => []
    | c :: rest => change c :: rest

def markLetters (v : Variable) : Octets :=
  (match v.row with
    | some r => if r.named then ['A'] else ['a']
    | none => []) ++ (v.kinds.filter (· = 'i')) ++ (v.kinds.filter (· = 'l')) ++ (v.kinds.filter (· = 'n')) ++
    (if v.readonly then ['r'] else []) ++ (v.kinds.filter (· = 'u')) ++ (if v.exported then ['x'] else [])

def writtenRow (r : Row) : Octets :=
  let key (k : Octets) : Octets := if k.any isMeta ∨ hasControl k then declaredValue k else k
  let items := r.items.map fun (k, v) => ['['] ++ key k ++ "]=".toList ++ declaredValue v
  ['('] ++ [' '].intercalate items ++ (if r.named && !items.isEmpty then [' '] else []) ++ [')']

def declaredText (name : String) (v : Variable) : Octets :=
  let marks := markLetters v
  let value : Octets := match v.row, v.value with
    | some r, _ => '=' :: writtenRow r
    | none, some text => '=' :: declaredValue text
    | none, none => []
  "declare -".toList ++ (if marks.isEmpty then ['-'] else marks) ++ [' '] ++ name.toList ++ value

def resolved (wide : Bool) : Nat → Octets → Octets
  | 0, cs => cs
  | _ + 1, [] => []
  | fuel + 1, '\\' :: rest => let (out, more) := Parse.resolveEscape wide rest; out ++ resolved wide fuel more
  | fuel + 1, c :: rest => c :: resolved wide fuel rest

def shownBy (s : Shell) (name : String) (letter : Char) (found : Found) : Found :=
  let variable_? := s.binding? name
  match letter with
  | 'Q' => found.map quotedValue
  | 'U' => found.map fun t => t.map Char.toUpper
  | 'L' => found.map fun t => t.map Char.toLower
  | 'u' => found.map fun t => (t.take 1).map Char.toUpper ++ t.drop 1
  | 'E' => found.map fun t => resolved s.isWide (t.length + 1) t
  | 'a' => .one (variable_?.map markLetters)
  | 'A' =>
    match variable_? with
    | some v =>
      .one (some (if v.row.isNone ∧ (markLetters v).isEmpty then name.toList ++ '=' :: quotedValue (v.value.getD [])
        else declaredText name v))
    | none => .one none
  | _ => found

def Failure.ofReckoning : ReckonFault → Failure
  | .unset name => .unset name
  | .readonly name => .readonly name
  | .told text => .told text

def reckoned (text : Octets) : Expand Int := do
  match ← liftM (valueOfSum text).run with
  | .ok n => return n
  | .error f => throw (.ofReckoning f)

def keyFor (name : String) (index : Octets) : Expand Octets := do
  match ← liftM (keyOf maxReckoning name index).run with
  | .ok key => return key
  | .error f => throw (.ofReckoning f)

def elementOf (x : String) (index : Octets) : Expand (String × Found) := do
  let name := meant (← get) maxMeanings x
  let key ← keyFor name index
  return (x ++ "[" ++ String.ofList index ++ "]", .one (element? (← get) name key))

def lookedUp (text : Octets) : Expand (String × Found) := do
  let s ← get
  match text.span (· ≠ '[') with
  | (name, _ :: index) =>
    let x := String.ofList name
    let index := index.dropLast
    if index = ['@'] ∨ index = ['*'] then return (x, .many ((itemsOf s x).map Prod.snd) (index = ['*']))
    else elementOf x index
  | (name, []) => return (String.ofList name, named s (String.ofList name))

/-- Commands inside words: what they print, and the path at which their output or their input is found. -/
structure Within where
  capture : List Command → Exec Octets
  stream : Bool → List Command → Exec Octets

mutual

/-- The row of one piece. Text counts as a value where it stands in an expansion that is not quoted (`soft`). -/
def expandPiece (within : Within) (soft : Bool) : Piece → Expand (List Atom)
  | .text isQuoted cs => return textAtoms soft isQuoted cs
  | .output isQuoted body => do
    let out ← liftM (within.capture body)
    return valueAtoms isQuoted (dropNewlines (out.filter (·.toNat ≠ 0)))
  | .stream reads body => do return valueAtoms true (← liftM (within.stream reads body))
  | .assigning a => expandAssignment within a
  | .elements written _ => return written.map Atom.quoted
  | .sum isQuoted body => do
    let text := wholeText (← expandPieces within true body)
    if (← get).isRich then return valueAtoms isQuoted (toString (← reckoned text)).toList
    match evaluate (← get).value text with
    | .error e => throw (.sum text e)
    | .ok (n, assigned) =>
      for (name, m) in assigned.reverse do
        if (← get).isReadonly name then throw (.readonly name)
        modify fun s => s.assign name (toString m).toList
      return valueAtoms isQuoted (toString n).toList
  | .parameter isQuoted subject form argument extra => do
    let (name, found) ← expandSubject within subject
    let s ← get
    let isMissing (loose : Bool) : Bool := match found.text? with
      | none => true
      | some text => loose && text.isEmpty
    let checkSet : Expand Unit := do
      match found with
      | .one none => if s.has 'u' then throw (.unset name)
      | _ => pure ()
    match form with
    | .bad written => throw (.badSubstitution written)
    | .value =>
      checkSet
      return foundAtoms s isQuoted found
    | .length =>
      match found with
      | .many values _ => return valueAtoms isQuoted (digits values.length)
      | .one text =>
        checkSet
        return valueAtoms isQuoted (digits (characters s (text.getD [])).length)
    | .default loose =>
      if isMissing loose then expandPieces within (!isQuoted) argument else return foundAtoms s isQuoted found
    | .replace loose =>
      if isMissing loose then
        return match found with
          | .many _ false => if isQuoted then [.gone] else []
          | _ => []
      else expandPieces within (!isQuoted) argument
    | .assign loose =>
      if isMissing loose then
        let text := wholeText (← expandPieces within false argument)
        if !(name.toList.head?.any isNameStart) then throw (.badSubstitution [])
        if s.isReadonly name then throw (.readonly name)
        modify fun s => s.assign name text
        return valueAtoms isQuoted text
      else return foundAtoms s isQuoted found
    | .require loose =>
      if isMissing loose then
        let text := wholeText (← expandPieces within false argument)
        throw (.required name (if argument.isEmpty then none else some text) loose)
      else return foundAtoms s isQuoted found
    | .trimStart longest =>
      checkSet
      if found.text?.isNone then return []
      let pattern := globOf (globRule s) (patternOf (← expandPieces within false argument))
      return foundAtoms s isQuoted (found.map (trimFront longest pattern))
    | .trimEnd longest =>
      checkSet
      if found.text?.isNone then return []
      let pattern := globOf (globRule s) (patternOf (← expandPieces within false argument))
      return foundAtoms s isQuoted (found.map (trimBack longest pattern))
    | .slice bounded =>
      checkSet
      let start ← reckoned (wholeText (← expandPieces within true argument))
      let lengthText := wholeText (← expandPieces within true extra)
      let length ← if bounded then do pure (some (← reckoned lengthText)) else pure none
      let refused : Expand (List Atom) := throw (.told (lengthText ++ ": substring expression < 0".toList))
      match found with
      | .one text =>
        let cs := characters s (text.getD [])
        match slice cs.length start length with
        | some (n, count) => return valueAtoms isQuoted ((cs.drop n).take count).flatten
        | none => refused
      | .many values joined =>
        if name = "@" ∨ name = "*" then
          let values := if start = 0 then s.name :: values else values
          let start := if 0 < start then start - 1 else start
          let size : Int := values.length
          match slice size start length with
          | some (n, count) => return foundAtoms s isQuoted (.many ((values.drop n).take count) joined)
          | none => refused
        else
          let items := itemsOf s name
          let size : Int :=
            if isNamed s name then items.length
            else ((items.getLast?.map fun x => valueIn 10 x.1 + 1).getD 0 : Nat)
          let first := if start < 0 then size + start else start
          let kept := if first < 0 then []
            else if isNamed s name then items.drop first.toNat
            else items.filter fun x => first ≤ (valueIn 10 x.1 : Int)
          match length with
          | some n =>
            if n < 0 then refused
            else return foundAtoms s isQuoted (.many ((kept.map Prod.snd).take n.toNat) joined)
          | none => return foundAtoms s isQuoted (.many (kept.map Prod.snd) joined)
    | .substitute anchor all =>
      checkSet
      let pattern := globOf (globRule s) (patternOf (← expandPieces within false argument))
      let by_ ← expandPieces within false extra
      return foundAtoms s isQuoted (found.map (substitutedAt anchor pattern by_ all))
    | .recase how all =>
      checkSet
      let pattern := globOf (globRule s) (patternOf (← expandPieces within false argument))
      let pattern := if argument.isEmpty then [.any] else pattern
      return foundAtoms s isQuoted (found.map (recasedText how all pattern))
    | .keys =>
      let joined : Bool := match found with
        | .many _ joined => joined
        | .one _ => false
      return foundAtoms s isQuoted (.many ((itemsOf s name).map Prod.fst) joined)
    | .names =>
      let joined : Bool := match found with
        | .many _ joined => joined
        | .one _ => false
      let isMeant (v : String × Variable) : Bool := v.2.value.isSome && name.toList.isPrefixOf v.1.toList
      let names := (s.bindings.filter isMeant).map fun v => v.1.toList
      return foundAtoms s isQuoted (.many (names.mergeSort octetsLe) joined)
    | .shown letter => return foundAtoms s isQuoted (shownBy s name letter found)

def expandPieces (within : Within) (soft : Bool) : List Piece → Expand (List Atom)
  | [] => return []
  | p :: rest => do
    let atoms ← expandPiece within soft p
    return atoms ++ (← expandPieces within soft rest)

def expandSubject (within : Within) : Subject → Expand (String × Found)
  | .name x => do return (x, named (← get) x)
  | .element x index => do
    let key := wholeText (← expandPieces within false index)
    elementOf x key
  | .all x joined => do
    let s ← get
    let name := meant s maxMeanings x
    return (name, .many ((itemsOf s name).map Prod.snd) joined)
  | .indirect subject => do
    let (name, found) ← expandSubject within subject
    match found.text? with
    | none => throw (.told (name.toList ++ ": invalid indirect expansion".toList))
    | some text => lookedUp text

def expandAssignment (within : Within) : Assignment → Expand (List Atom)
  | .mk name index appends value => do
    let key ← match index with
      | some w => do pure (['['] ++ wholeText (← expandPieces within false w) ++ [']'])
      | none => pure []
    let text ← expandPieces within false value
    return (name.toList ++ key ++ (if appends then "+=".toList else ['='])).map Atom.quoted ++ text

end

/-- A word that begins with a tilde, with the home directory in its place. The rich shell also knows the working
directory and the one before it by signs behind the tilde. -/
def withHome (s : Shell) : Word → Word
  | .text false ('~' :: cs) :: rest =>
    let sign : Octets := if s.isRich then cs.takeWhile fun c => c = '+' || c = '-' else []
    let place? := match sign with
      | [] => s.value? "HOME"
      | ['+'] => s.value? "PWD"
      | ['-'] => s.value? "OLDPWD"
      | _ => none
    let cs' := cs.drop sign.length
    match place? with
    | some place =>
      if cs'.head? = some '/' ∨ (cs'.isEmpty ∧ rest.isEmpty) then
        (if place.isEmpty then [] else [.text true place]) ++ .text false cs' :: rest
      else .text false ('~' :: cs) :: rest
    | none => .text false ('~' :: cs) :: rest
  | w => w

/-- The fields of a row. A field is ended by separators in values: blank ones in any number count as one, of the
others each. -/
structure Cutting where
  done : List (List (Char × Bool))
  field : List (Char × Bool)
  marks : Nat
  present : Bool
  afterBlank : Bool

namespace Cutting

def close (c : Cutting) : Cutting := ⟨c.field.reverse :: c.done, [], 0, false, false⟩

def isPresent (c : Cutting) : Bool := c.present || 0 < c.marks

def add (c : Cutting) (x : Char) (isQuoted : Bool) : Cutting :=
  { c with field := (x, isQuoted) :: c.field, present := true, afterBlank := false }

def step (separators : Octets) (c : Cutting) : Atom → Cutting
  | .plain x => c.add x false
  | .quoted x => c.add x true
  | .mark => { c with marks := c.marks + 1, afterBlank := false }
  | .gone => { c with marks := c.marks - 1 }
  | .cut => if c.isPresent then c.close else { c with afterBlank := false }
  | .value x =>
    if !separators.contains x then c.add x false
    else if isBlankOctet x then if c.isPresent then { c.close with afterBlank := true } else c
    else if c.afterBlank then { c with afterBlank := false }
    else c.close

end Cutting

def cutFields (separators : Octets) (atoms : List Atom) : List (List (Char × Bool)) :=
  let c := atoms.foldl (Cutting.step separators) ⟨[], [], 0, false, false⟩
  (if c.isPresent then c.close else c).done.reverse

def isWild (rule : GlobRule) : List (Char × Bool) → Bool
  | [] => false
  | x :: rest =>
    x = ('*', false) || x = ('?', false) || x = ('[', false) ||
      (rule.groups && !x.2 && beginsGroup x.1 && rest.head? = some ('(', false)) || isWild rule rest

/-- How patterns are fitted to paths: what they may have, whether they fit names that begin with a dot, the names that
every directory has for itself and the one above, names whatever the case of letters, and whether two stars stand for
any number of directories. -/
structure PathRule where
  glob : GlobRule
  dotted : Bool
  links : Bool
  folded : Bool
  deep : Bool

def pathRule (s : Shell) : PathRule :=
  let has (name : String) : Bool := s.isRich && s.switches.contains name
  ⟨globRule s, has "dotglob", !s.isRich, has "nocaseglob", has "globstar"⟩

def foldedPattern (cs : List (Char × Bool)) : List (Char × Bool) := cs.map fun x => (x.1.toLower, x.2)

def deepDirs (t : Tree) (rule : PathRule) : Nat → Place → Octets → List (Place × Octets)
  | 0, dir, written => [(dir, written)]
  | fuel + 1, dir, written =>
    let names := ((t.children dir).map octets).filter fun name => rule.dotted || name.head? ≠ some '.'
    (dir, written) :: names.flatMap fun name =>
      match t.entry? (dir ++ [bytesOf name]) with
      | some (.dir _) => deepDirs t rule fuel (dir ++ [bytesOf name]) (written ++ name ++ ['/'])
      | _ => []

/-- The paths that components of a pattern lead to from a directory; `written` is the path so far. -/
def matchPaths (t : Tree) (rule : PathRule) : List (List (Char × Bool)) → Place → Octets → List Octets
  | [], _, written => [written]
  | part :: rest, dir, written =>
    let slash (path : Octets) : Octets := if rest.isEmpty then path else path ++ ['/']
    if part.isEmpty then matchPaths t rule rest dir (slash written)
    else if !isWild rule.glob part then
      let name := part.map Prod.fst
      match t.follow dir [bytesOf name] with
      | .ok place => matchPaths t rule rest place (slash (written ++ name))
      | .error _ => []
    else
      let pattern := globOf rule.glob (if rule.folded then foldedPattern part else part)
      let holds (name : Octets) : Bool := covers pattern (if rule.folded then name.map Char.toLower else name)
      let children (dir : Place) : List Octets :=
        let named := (t.children dir).map octets
        if part.head?.any (·.1 = '.') then (if rule.links then [['.'], ['.', '.']] else []) ++ named
        else named.filter fun name => rule.dotted || name.head? ≠ some '.'
      let below (dir : Place) (written name : Octets) : List Octets :=
        match t.follow dir [bytesOf name] with
        | .ok place =>
          if rest.isEmpty || t.isDir place then matchPaths t rule rest place (slash (written ++ name)) else []
        | .error _ => []
      if rule.deep ∧ part = [('*', false), ('*', false)] then
        (deepDirs t rule 64 dir written).flatMap fun (place, way) =>
          if rest.isEmpty then
            (if way = written ∧ written.isEmpty then [] else [way]) ++
              (children place).filterMap fun name => if t.isDir (place ++ [bytesOf name]) then none else some (way ++ name)
          else matchPaths t rule rest place way
      else ((children dir).filter holds).flatMap (below dir written)

/-- The paths that a field stands for. A pattern that none fits stands for itself, unless the rich shell is told to
leave it out or to refuse it. -/
def pathsOf (s : Shell) (field : List (Char × Bool)) : Except Failure (List Octets) :=
  let text := field.map Prod.fst
  let rule := pathRule s
  if s.has 'f' || !isWild rule.glob field then .ok [text]
  else
    let parts := field.splitOnP fun x => x.1 = '/'
    let found := match parts with
      | [] :: rest => matchPaths s.world.tree rule rest [] ['/']
      | parts => matchPaths s.world.tree rule parts s.here []
    if !found.isEmpty then .ok (if s.isRich then found.mergeSort octetsLe else found)
    else if s.switches.contains "failglob" then .error (.told ("no match: ".toList ++ text))
    else .ok (if s.switches.contains "nullglob" then [] else [text])

def fieldsOfOne (within : Within) (w : Word) : Expand (List Octets) := do
  let atoms ← expandPieces within false (withHome (← get) w)
  let s ← get
  return (← liftExcept ((cutFields s.separators atoms).mapM (pathsOf s))).flatten
where
  liftExcept {α : Type} : Except Failure α → Expand α
    | .ok a => return a
    | .error f => throw f

def fieldsOf (within : Within) (w : Word) : Expand (List Octets) := do
  if (← get).isRich then return (← (Braces.words w).mapM (fieldsOfOne within)).flatten else fieldsOfOne within w

def textOf (within : Within) (w : Word) : Expand Octets := do
  return wholeText (← expandPieces within false (withHome (← get) w))

/-- A value with the home directory for the tildes at its start and behind colons. -/
def withHomes (s : Shell) : Bool → Word → Word
  | first, .text false cs :: rest =>
    let home := (s.value? "HOME").getD ['~']
    let isWhole (part : Octets) : Bool := part = ['~'] || "~/".toList.isPrefixOf part
    let expanded (part : Octets) : Octets := if isWhole part then home ++ part.drop 1 else part
    let parts := cs.splitOn ':'
    let open_ (n : Nat) (part : Octets) : Bool :=
      (n = 0 && !first) || (n + 1 = parts.length && !rest.isEmpty && part = ['~'])
    let changed := parts.zipIdx.map fun (part, n) => if open_ n part then part else expanded part
    .text false ([':'].intercalate changed) :: withHomes s false rest
  | _, p :: rest => p :: withHomes s false rest
  | _, [] => []

def valueOf (within : Within) (w : Word) : Expand Octets := do
  return wholeText (← expandPieces within false (withHomes (← get) true w))

/-- The fields that the words of a command become. After the name of a command that marks variables, a word that
assigns is one field. -/
def commandFields (within : Within) (marks : String → Bool) : List Octets → List Word →
    Expand (List Octets)
  | done, [] => return done
  | done, w :: rest => do
    let name := (done.dropWhile fun word => word = "command".toList).headD []
    let assigned := if marks (String.ofList name) then assignment? w else none
    let fields ← match assigned with
      | some (name, value) => do pure [name.toList ++ '=' :: (← valueOf within value)]
      | none => fieldsOf within w
    commandFields within marks (done ++ fields) rest

def globsOf (within : Within) (inCheck : Bool) (w : Word) : Expand (List Glob) := do
  let cs := patternOf (← expandPieces within false (withHome (← get) w))
  let s ← get
  let rule := globRule s
  let cs := if s.switches.contains "nocasematch" then foldedPattern cs else cs
  return globOf { rule with groups := rule.groups || inCheck } cs

def fits (s : Shell) (pattern : List Glob) (text : Octets) : Bool :=
  covers pattern (if s.switches.contains "nocasematch" then text.map Char.toLower else text)

/-- The regular expression that a word becomes: what is quoted stands for itself. -/
def regexOf (within : Within) (w : Word) : Expand Octets := do
  let cs := patternOf (← expandPieces within false (withHome (← get) w))
  return cs.flatMap fun (c, quoted) => if quoted ∧ "\\^$.|?*+()[]\x7b\x7d".toList.contains c then ['\\', c] else [c]

/-- Passes over the rest of the script, or of the line, because a word cannot be expanded. -/
def give (f : Failure) : Exec Unit := do
  let s ← get
  let text := f.message s.dialect
  let ends : Bool := match f with
    | .unset _ => true
    | .required .. => true
    | _ => false
  if !s.isRich then abandon 2 text
  else if ends then abandon (if s.has 'c' ∧ s.self = s.number then 127 else 1) text
  else dropLine text

def expandOr {α : Type} (e : Expand α) : Exec (Option α) := do
  match ← e.run with
  | .ok a => return some a
  | .error f =>
    give f
    return none

end PassDelta.Machine.Shell
