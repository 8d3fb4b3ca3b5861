import PassDelta.Machine.Regex
/-!
# Patterns of records

Regular expressions as programs over records write them: in the extended form, with escapes also inside brackets.
An operator must have an operand.
-/

namespace PassDelta.Machine.Records

/-- The octet meant by an escape after its backslash, and what follows; none if the letter has no meaning. -/
def escape? : Octets → Option (Char × Octets)
  | [] => none
  | c :: rest =>
    match [('"', '"'), ('\\', '\\'), ('/', '/'), ('a', Char.ofNat 7), ('b', Char.ofNat 8), ('f', Char.ofNat 12),
      ('n', '\n'), ('r', '\r'), ('t', '\t'), ('v', Char.ofNat 11)].lookup c with
    | some d => some (d, rest)
    | none =>
      if isOctal c then
        let (code, rest') := readOctal 3 (c :: rest)
        some (Char.ofNat (code % 256), rest')
      else
        let ds := (rest.take 2).takeWhile fun d => (digitValue? d).isSome
        if c = 'x' ∧ ds ≠ [] then some (Char.ofNat (valueIn 16 ds), rest.drop ds.length) else none

namespace Pattern

inductive Fault where
  | operand
  | bracket
  | group
  deriving DecidableEq, Repr

def Fault.message : Fault → String
  | .operand => "missing operand"
  | .bracket => "bad class -- [], [^] or ["
  | .group => "missing ')'"

def setOctet : Octets → Option (Char × Octets)
  | [] => none
  | '\\' :: rest =>
    match escape? rest, rest with
    | some found, _ => some found
    | none, c :: more => some (c, more)
    | none, [] => some ('\\', [])
  | c :: rest => some (c, rest)

/-- The ranges of a set, up to the closing bracket, which stands for itself when it is first. -/
def ranges : Nat → Bool → Octets → Option (List (Char × Char) × Octets)
  | 0, _, _ => none
  | _ + 1, _, [] => none
  | fuel + 1, first, cs =>
    match cs with
    | '[' :: ':' :: rest =>
      let name := rest.takeWhile (· ≠ ':')
      match rest.drop name.length with
      | ':' :: ']' :: more =>
        (ranges fuel false more).map fun (rs, r) => (classRanges (String.ofList name) ++ rs, r)
      | _ => (ranges fuel false (':' :: rest)).map fun (rs, r) => (('[', '[') :: rs, r)
    | cs =>
      if cs.head? = some ']' ∧ !first then some ([], cs.tail)
      else do
        let (low, rest) ← setOctet cs
        match rest with
        | '-' :: more =>
          if more.head? = some ']' then (ranges fuel false rest).map fun (rs, r) => ((low, low) :: rs, r)
          else do
            let (high, after) ← setOctet more
            (ranges fuel false after).map fun (rs, r) => ((low, high) :: rs, r)
        | rest => (ranges fuel false rest).map fun (rs, r) => ((low, low) :: rs, r)

/-- The bounds of a repetition after its brace, and what follows, if they are written well. -/
def bounds? (cs : Octets) : Option (Nat × Option Nat × Octets) :=
  let low := cs.takeWhile Char.isDigit
  match low, cs.drop low.length with
  | [], _ => none
  | _, '\x7d' :: rest => some (valueIn 10 low, some (valueIn 10 low), rest)
  | _, ',' :: more =>
    let high := more.takeWhile Char.isDigit
    match more.drop high.length with
    | '\x7d' :: rest => some (valueIn 10 low, if high.isEmpty then none else some (valueIn 10 high), rest)
    | _ => none
  | _, _ => none

def repeats : Nat → Regex → Octets → Regex × Octets
  | 0, r, cs => (r, cs)
  | fuel + 1, r, cs =>
    match cs with
    | '*' :: rest => repeats fuel (.repeated r 0 none) rest
    | '+' :: rest => repeats fuel (.repeated r 1 none) rest
    | '?' :: rest => repeats fuel (.repeated r 0 (some 1)) rest
    | '\x7b' :: rest =>
      match bounds? rest with
      | some (least, most, rest) => repeats fuel (.repeated r least most) rest
      | none => (r, cs)
    | cs => (r, cs)

mutual

def either (fuel depth : Nat) (cs : Octets) : Except Fault (Regex × Octets) :=
  match fuel with
  | 0 => .error .operand
  | fuel + 1 => do
    let (a, rest) ← sequence fuel depth true cs
    match rest with
    | '|' :: more =>
      let (b, rest) ← either fuel depth more
      return (.either a b, rest)
    | rest => return (a, rest)

def sequence (fuel depth : Nat) (first : Bool) (cs : Octets) : Except Fault (Regex × Octets) :=
  match fuel with
  | 0 => .error .operand
  | fuel + 1 =>
    if cs.isEmpty ∨ cs.head? = some '|' ∨ (0 < depth ∧ cs.head? = some ')') then
      if first then .error .operand else .ok (.empty, cs)
    else do
      let (a, rest) ← operand fuel depth cs
      let (a, rest) := repeats (rest.length + 1) a rest
      let (b, rest) ← sequence fuel depth false rest
      return (.sequence a b, rest)

def operand (fuel depth : Nat) (cs : Octets) : Except Fault (Regex × Octets) :=
  match fuel with
  | 0 => .error .operand
  | fuel + 1 =>
    match cs with
    | '(' :: rest => do
      let (a, rest) ← either fuel (depth + 1) rest
      match rest with
      | ')' :: more => return (.group 0 a, more)
      | _ => .error .group
    | '[' :: rest =>
      let (negated, body) := if rest.head? = some '^' then (true, rest.tail) else (false, rest)
      match ranges (body.length + 1) true body with
      | some (rs, after) => .ok (.one ⟨negated, rs⟩, after)
      | none => .error .bracket
    | '.' :: rest => .ok (.one ⟨true, []⟩, rest)
    | '^' :: rest => .ok (.start, rest)
    | '$' :: rest => .ok (.finish, rest)
    | '*' :: _ => .error .operand
    | '+' :: _ => .error .operand
    | '?' :: _ => .error .operand
    | '\\' :: c :: rest =>
      match escape? (c :: rest) with
      | some (d, after) => .ok (Regex.octet d, after)
      | none => .ok (Regex.octet c, rest)
    | c :: rest => .ok (Regex.octet c, rest)
    | [] => .error .operand

end

def read (text : Octets) : Except Fault Regex :=
  if text.isEmpty then .ok .empty else (either (4 * text.length + 4) 0 text).map Prod.fst

end Pattern
end PassDelta.Machine.Records
