import PassDelta.Machine.Regex
/-!
# Patterns of the shell

A star stands for any octets, a question mark for one, brackets for one of a set; anything quoted stands for
itself.
-/

namespace PassDelta.Machine.Shell

inductive Glob where
  | one (c : Char)
  | any
  | many
  | oneOf (negated : Bool) (ranges : List (Char × Char))
  /-- One of several patterns: once with `@`, perhaps with `?`, repeated with `+` and `*`, none of them with `!`. -/
  | group (kind : Char) (alternatives : List (List Glob))

structure GlobRule where
  caret : Bool
  groups : Bool
  deriving DecidableEq, Repr

/-- The ranges of a set after its opening bracket, up to the closing one, and what follows. A bracket that stands
first is only itself, and so is anything quoted. -/
def readSet : Nat → Bool → List (Char × Bool) → Option (List (Char × Char) × List (Char × Bool))
  | 0, _, _ => none
  | _ + 1, _, [] => none
  | fuel + 1, first, (c, quoted) :: rest =>
    if c = ']' ∧ !quoted ∧ !first then some ([], rest)
    else if c = '[' ∧ !quoted ∧ rest.head? = some (':', false) then
      let name := (rest.drop 1).takeWhile fun x => x.1 ≠ ':'
      match rest.drop (1 + name.length) with
      | (':', _) :: (']', _) :: more =>
        (readSet fuel false more).map fun (rs, r) => (classRanges (String.ofList (name.map Prod.fst)) ++ rs, r)
      | _ => (readSet fuel false rest).map fun (rs, r) => ((c, c) :: rs, r)
    else match rest with
      | ('-', false) :: (d, dQuoted) :: more =>
        if d = ']' ∧ !dQuoted then (readSet fuel false rest).map fun (rs, r) => ((c, c) :: rs, r)
        else (readSet fuel false more).map fun (rs, r) => ((c, d) :: rs, r)
      | _ => (readSet fuel false rest).map fun (rs, r) => ((c, c) :: rs, r)

/-- Whether an octet with an opening bracket behind it begins a group of patterns. -/
def beginsGroup (c : Char) : Bool := c = '?' || c = '*' || c = '+' || c = '@' || c = '!'

/-- The patterns of a group after its opening bracket, the one that is read coming last, and what follows. -/
def groupParts : Nat → List (Char × Bool) → List (Char × Bool) → Option (List (List (Char × Bool)) × List (Char × Bool))
  | _, _, [] => none
  | depth, read, (c, quoted) :: rest =>
    if quoted then groupParts depth ((c, quoted) :: read) rest
    else if c = ')' ∧ depth = 0 then some ([read.reverse], rest)
    else if c = '|' ∧ depth = 0 then (groupParts 0 [] rest).map fun (found, after) => (read.reverse :: found, after)
    else
      let depth := if c = '(' then depth + 1 else if c = ')' then depth - 1 else depth
      groupParts depth ((c, quoted) :: read) rest

def globs (rule : GlobRule) : Nat → List (Char × Bool) → List Glob
  | 0, _ => []
  | _ + 1, [] => []
  | fuel + 1, (c, quoted) :: rest =>
    let group? := if rule.groups ∧ !quoted ∧ beginsGroup c ∧ rest.head? = some ('(', false) then groupParts 0 [] rest.tail
      else none
    match group? with
    | some (parts, after) => .group c (parts.map (globs rule fuel)) :: globs rule fuel after
    | none =>
      if quoted then .one c :: globs rule fuel rest
      else if c = '*' then .many :: globs rule fuel rest
      else if c = '?' then .any :: globs rule fuel rest
      else if c = '[' then
        let negated := rest.head? = some ('!', false) ∨ (rule.caret ∧ rest.head? = some ('^', false))
        match readSet (rest.length + 1) true (if negated then rest.tail else rest) with
        | some (ranges, after) => .oneOf negated ranges :: globs rule fuel after
        | none => .one c :: globs rule fuel rest
      else .one c :: globs rule fuel rest

def Glob.holds (c : Char) : Glob → Bool
  | .one d => c = d
  | .oneOf negated rs => (rs.any fun (a, b) => a ≤ c && c ≤ b) != negated
  | _ => true

def Glob.isGroup : Glob → Bool
  | .group .. => true
  | _ => false

def distinctEnds (es : List Octets) : List Octets :=
  es.foldr (fun e found => e :: found.filter fun x => x.length ≠ e.length) []

def allEnds : Octets → List Octets
  | [] => [[]]
  | c :: cs => (c :: cs) :: allEnds cs

def reached (step : Octets → List Octets) : Nat → List Octets → List Octets
  | 0, found => found
  | fuel + 1, found =>
    let more := distinctEnds (found ++ found.flatMap step)
    if more.length = found.length then found else reached step fuel more

mutual

/-- What may be left of a text behind the part that a piece of a pattern covers. -/
def Glob.ends : Glob → Octets → List Octets
  | .many, cs => allEnds cs
  | .group kind alternatives, cs =>
    let once := endsOfAny alternatives cs
    if kind = '?' then distinctEnds (cs :: once)
    else if kind = '+' then reached (endsOfAny alternatives) cs.length once
    else if kind = '*' then reached (endsOfAny alternatives) (cs.length + 1) [cs]
    else if kind = '!' then (allEnds cs).filter fun e => !once.any fun x => x.length = e.length
    else once
  | g, cs => match cs with
    | [] => []
    | c :: rest => if g.holds c then [rest] else []

def endsOfAll : List Glob → Octets → List Octets
  | [], cs => [cs]
  | g :: gs, cs => distinctEnds ((g.ends cs).flatMap (endsOfAll gs))

def endsOfAny : List (List Glob) → Octets → List Octets
  | [], _ => []
  | a :: rest, cs => distinctEnds (endsOfAll a cs ++ endsOfAny rest cs)

end

def coversPlain : List Glob → List Char → Bool
  | [], [] => true
  | [], _ :: _ => false
  | .many :: gs, [] => coversPlain gs []
  | .many :: gs, c :: cs => coversPlain gs (c :: cs) || coversPlain (.many :: gs) cs
  | _ :: _, [] => false
  | g :: gs, c :: cs => g.holds c && coversPlain gs cs
termination_by gs cs => gs.length + cs.length

def covers (gs : List Glob) (cs : Octets) : Bool :=
  if gs.any Glob.isGroup then (endsOfAll gs cs).any List.isEmpty else coversPlain gs cs

def globOf (rule : GlobRule) (cs : List (Char × Bool)) : List Glob := globs rule (cs.length + 1) cs

end PassDelta.Machine.Shell
