import PassDelta.Machine.Numeral
/-!
# Regular expressions

Expressions in the basic and the extended form, and their matches: of those that begin first, the longest.
-/

namespace PassDelta.Machine

structure OctetSet where
  negated : Bool
  ranges : List (Char × Char)
  deriving DecidableEq, Repr

def OctetSet.holds (s : OctetSet) (c : Char) : Bool := (s.ranges.any fun r => r.1 ≤ c && c ≤ r.2) != s.negated

def classRanges : String → List (Char × Char)
  | "alpha" => [('A', 'Z'), ('a', 'z')]
  | "digit" => [('0', '9')]
  | "alnum" => [('0', '9'), ('A', 'Z'), ('a', 'z')]
  | "upper" => [('A', 'Z')]
  | "lower" => [('a', 'z')]
  | "space" => [('\t', '\r'), (' ', ' ')]
  | "blank" => [('\t', '\t'), (' ', ' ')]
  | "punct" => [('!', '/'), (':', '@'), ('[', '\x60'), ('\x7b', '~')]
  | "print" => [(' ', '~')]
  | "graph" => [('!', '~')]
  | "cntrl" => [('\x00', '\x1f'), ('\x7f', '\x7f')]
  | "xdigit" => [('0', '9'), ('A', 'F'), ('a', 'f')]
  | _ => []

def wordRanges : List (Char × Char) := ('_', '_') :: classRanges "alnum"

def isWordOctet (c : Char) : Bool := OctetSet.holds ⟨false, wordRanges⟩ c

inductive WordEdge where
  | opens
  | closes
  | either
  | neither
  | unled
  | unfollowed
  deriving DecidableEq, Repr

inductive Regex where
  | empty
  | one (set : OctetSet)
  | start
  | finish
  | edge (kind : WordEdge)
  | sequence (a b : Regex)
  | either (a b : Regex)
  | repeated (a : Regex) (least : Nat) (most : Option Nat)
  | group (n : Nat) (a : Regex)
  | again (n : Nat)
  deriving DecidableEq, Repr

/-- How far a match has come: the octet before, what is left, and the texts of groups, latest first. -/
structure Spot where
  before : Option Char
  rest : Octets
  groups : List (Nat × Octets)
  deriving DecidableEq, Repr

namespace Spot

def past (s : Spot) (n : Nat) : Spot :=
  if n = 0 then s else { s with before := s.rest[n - 1]?, rest := s.rest.drop n }

def upTo (s t : Spot) : Octets := s.rest.take (s.rest.length - t.rest.length)

def isAt (s : Spot) (kind : WordEdge) : Bool :=
  let behind := s.before.any isWordOctet
  let ahead := s.rest.head?.any isWordOctet
  match kind with
  | .opens => !behind && ahead
  | .closes => behind && !ahead
  | .either => behind != ahead
  | .neither => behind == ahead
  | .unled => !behind
  | .unfollowed => !ahead

def distinct : List Spot → List Spot
  | [] => []
  | s :: more => s :: (distinct more).filter fun t => t.rest.length ≠ s.rest.length

def farthest? : List Spot → Option Spot
  | [] => none
  | s :: more =>
    match farthest? more with
    | some t => if t.rest.length < s.rest.length then some t else some s
    | none => some s

end Spot

namespace Regex

/-- The spots after repeated steps, those of more steps first. A step that gets nowhere is not repeated. -/
def turns (step : Spot → List Spot) : Nat → Nat → Option Nat → Spot → List Spot
  | 0, _, _, s => [s]
  | fuel + 1, least, most, s =>
    if most = some 0 then [s]
    else
      let next := (step s).filter fun t => least ≠ 0 || t.rest.length < s.rest.length
      let further := next.flatMap fun t => turns step fuel (least - 1) (most.map (· - 1)) t
      Spot.distinct (if least = 0 then further ++ [s] else further)

def spots (fold : Bool) : Regex → Spot → List Spot
  | .empty, s => [s]
  | .one set, s =>
    match s.rest with
    | c :: _ => if set.holds c || fold && (set.holds c.toLower || set.holds c.toUpper) then [s.past 1] else []
    | [] => []
  | .start, s => if s.before.isNone then [s] else []
  | .finish, s => if s.rest.isEmpty then [s] else []
  | .edge kind, s => if s.isAt kind then [s] else []
  | .sequence a b, s => Spot.distinct ((spots fold a s).flatMap (spots fold b))
  | .either a b, s => spots fold a s ++ spots fold b s
  | .repeated a least most, s => turns (spots fold a) (s.rest.length + least + 1) least most s
  | .group n a, s => (spots fold a s).map fun t => { t with groups := (n, s.upTo t) :: t.groups }
  | .again n, s =>
    match s.groups.lookup n with
    | some text => if text.isPrefixOf s.rest then [s.past text.length] else []
    | none => []

structure Found where
  before : Octets
  text : Octets
  groups : List (Nat × Octets)
  after : Octets
  deriving DecidableEq, Repr

def matchAt? (r : Regex) (fold : Bool) (s : Spot) : Option Spot := Spot.farthest? (r.spots fold s)

/-- The first match in what is left after `last`, which is none at the start of a line. -/
def search (r : Regex) (fold : Bool) (last : Option Char) : Octets → Option Found
  | [] => (r.matchAt? fold ⟨last, [], []⟩).map fun t => ⟨[], [], t.groups, []⟩
  | c :: rest =>
    let s : Spot := ⟨last, c :: rest, []⟩
    match r.matchAt? fold s with
    | some t => some ⟨[], s.upTo t, t.groups, t.rest⟩
    | none => (search r fold (some c) rest).map fun f => { f with before := c :: f.before }

/-- All matches that do not overlap. After an empty one the search goes on behind the next octet, and right after
another match an empty one does not count. -/
def searchAll (r : Regex) (fold : Bool) : Nat → Option Char → Bool → Octets → List Found
  | 0, _, _, _ => []
  | fuel + 1, last, fresh, cs =>
    match r.search fold last cs with
    | none => []
    | some f =>
      let behind : Option Char := ((f.before ++ f.text).getLast?).or last
      if f.text.isEmpty then
        match f.after with
        | [] => if f.before.isEmpty ∧ !fresh then [] else [f]
        | c :: more =>
          if f.before.isEmpty ∧ !fresh then
            match searchAll r fold fuel (some c) true more with
            | [] => []
            | g :: gs => { g with before := c :: g.before } :: gs
          else f :: (match searchAll r fold fuel (some c) true more with
            | [] => []
            | g :: gs => { g with before := c :: g.before } :: gs)
      else f :: searchAll r fold fuel behind false f.after

structure Source where
  rest : Octets
  groups : Nat

abbrev Read := StateT Source (Except String)

/-- The inside of brackets after a first octet that may be the closing one; ends behind the closing bracket. -/
def bracketRanges : Nat → Bool → Octets → Option (List (Char × Char) × Octets)
  | 0, _, _ => none
  | _ + 1, _, [] => none
  | fuel + 1, first, '[' :: ':' :: rest =>
    let name := rest.takeWhile (· ≠ ':')
    match rest.drop name.length with
    | ':' :: ']' :: more =>
      (bracketRanges fuel false more).map fun (rs, r) => (classRanges (String.ofList name) ++ rs, r)
    | _ => (bracketRanges fuel first (':' :: rest)).map fun (rs, r) => (('[', '[') :: rs, r)
  | fuel + 1, first, c :: rest =>
    if c = ']' ∧ !first then some ([], rest)
    else match rest with
      | '-' :: d :: more =>
        if d = ']' then (bracketRanges fuel false rest).map fun (rs, r) => ((c, c) :: rs, r)
        else (bracketRanges fuel false more).map fun (rs, r) => ((c, d) :: rs, r)
      | _ => (bracketRanges fuel false rest).map fun (rs, r) => ((c, c) :: rs, r)

def readBracket : Read Regex := do
  let s ← get
  let (negated, body) := match s.rest with
    | '^' :: more => (true, more)
    | more => (false, more)
  match bracketRanges (body.length + 1) true body with
  | some (ranges, rest) =>
    set { s with rest := rest }
    return .one ⟨negated, ranges⟩
  | none => throw "Unmatched [, [^, [:, [., or [="

def octet (c : Char) : Regex := .one ⟨false, [(c, c)]⟩

def escaped (c : Char) : Regex :=
  match c with
  | 'w' => .one ⟨false, wordRanges⟩
  | 'W' => .one ⟨true, wordRanges⟩
  | 's' => .one ⟨false, classRanges "space"⟩
  | 'S' => .one ⟨true, classRanges "space"⟩
  | 'b' => .edge .either
  | 'B' => .edge .neither
  | '<' => .edge .opens
  | '>' => .edge .closes
  | '\x60' => .start
  | '\'' => .finish
  | 'n' => octet '\n'
  | 't' => octet '\t'
  | c => octet c

def took (text : String) : Read Bool := do
  let s ← get
  if text.toList.isPrefixOf s.rest then
    set { s with rest := s.rest.drop text.length }
    return true
  else return false

def sees (text : String) : Read Bool := do return text.toList.isPrefixOf (← get).rest

def readBounds (close : String) : Read (Nat × Option Nat) := do
  let s ← get
  let low := s.rest.takeWhile Char.isDigit
  set { s with rest := s.rest.drop low.length }
  if ← took "," then
    let s ← get
    let high := s.rest.takeWhile Char.isDigit
    set { s with rest := s.rest.drop high.length }
    if ← took close then return (valueIn 10 low, if high.isEmpty then none else some (valueIn 10 high))
  else if low ≠ [] then
    if ← took close then return (valueIn 10 low, some (valueIn 10 low))
  throw "Invalid preceding regular expression"

def readRepeats (extended : Bool) : Nat → Regex → Read Regex
  | 0, r => return r
  | fuel + 1, r => do
    let operator (c : String) : String := if extended then c else "\\" ++ c
    if ← took "*" then readRepeats extended fuel (.repeated r 0 none)
    else if ← took (operator "+") then readRepeats extended fuel (.repeated r 1 none)
    else if ← took (operator "?") then readRepeats extended fuel (.repeated r 0 (some 1))
    else if ← took (operator "\x7b") then
      let (least, most) ← readBounds (operator "\x7d")
      readRepeats extended fuel (.repeated r least most)
    else return r

mutual

def readEither (extended : Bool) (fuel : Nat) (depth : Nat) : Read Regex :=
  match fuel with
  | 0 => throw "Regular expression too big"
  | fuel + 1 => do
    let a ← readSequence extended fuel depth true
    if ← took (if extended then "|" else "\\|") then return .either a (← readEither extended fuel depth)
    else return a

def readSequence (extended : Bool) (fuel depth : Nat) (first : Bool) : Read Regex :=
  match fuel with
  | 0 => throw "Regular expression too big"
  | fuel + 1 => do
    let close := if extended then ")" else "\\)"
    let bar := if extended then "|" else "\\|"
    if (← get).rest.isEmpty then return .empty
    if ← sees bar then return .empty
    if ← sees close then
      if 0 < depth then return .empty
      if !extended then throw "Unmatched ) or \\)"
    if (extended || first) then
      if ← took "^" then return .sequence .start (← readSequence extended fuel depth (!extended))
    if ← sees "$" then
      let after : Octets := (← get).rest.tail
      if extended || after.isEmpty || (0 < depth && close.toList.isPrefixOf after) || bar.toList.isPrefixOf after then
        let _ ← took "$"
        return .sequence .finish (← readSequence extended fuel depth false)
    if first then
      if ← took "*" then
        let literal ← if extended then pure Regex.empty
          else readRepeats extended ((← get).rest.length + 1) (octet '*')
        return .sequence literal (← readSequence extended fuel depth (extended && first))
    let atom ← readAtom extended fuel depth
    let piece ← readRepeats extended ((← get).rest.length + 1) atom
    return .sequence piece (← readSequence extended fuel depth false)

def readAtom (extended : Bool) (fuel depth : Nat) : Read Regex :=
  match fuel with
  | 0 => throw "Regular expression too big"
  | fuel + 1 => do
    if ← took (if extended then "(" else "\\(") then
      let n := (← get).groups + 1
      set { (← get) with groups := n }
      let a ← readEither extended fuel (depth + 1)
      if ← took (if extended then ")" else "\\)") then return .group n a
      else throw "Unmatched ( or \\("
    if ← took "[" then return ← readBracket
    if ← took "." then return .one ⟨true, []⟩
    let s ← get
    match s.rest with
    | '\\' :: c :: more =>
      set { s with rest := more }
      if c.isDigit ∧ c ≠ '0' then
        if s.groups < c.toNat - 48 then throw "Invalid back reference"
        return .again (c.toNat - 48)
      else return escaped c
    | ['\\'] => throw "Trailing backslash"
    | c :: more =>
      set { s with rest := more }
      return octet c
    | [] => return .empty

end

def read (extended : Bool) (text : Octets) : Except String Regex :=
  let fuel := 4 * text.length + 4
  match (readEither extended fuel 0).run ⟨text, 0⟩ with
  | .ok (r, s) => if s.rest.isEmpty then .ok r else .error "Unmatched ) or \\)"
  | .error e => .error e

def groupCount : Regex → Nat
  | .sequence a b => groupCount a + groupCount b
  | .either a b => groupCount a + groupCount b
  | .repeated a _ _ => groupCount a
  | .group _ a => groupCount a + 1
  | _ => 0

def literal (text : Octets) : Regex := text.foldr (fun c r => .sequence (octet c) r) .empty

example : (read true "(a|ab)(c|bcd)*".toList).toOption.bind (fun r => (r.search false none "xabcd".toList).map Found.text) =
    some "abcd".toList := by decide +kernel

end Regex
end PassDelta.Machine
