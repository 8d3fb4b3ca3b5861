import PassDelta.Duration
import PassDelta.Machine.Shell.Declaration
/-!
# Reading input

Commands of the rich shell that take lines, or other parts of an open stream, into variables.
-/

namespace PassDelta.Machine.Shell

/-- What was taken from a text: octets, each marked when a backslash protects it, how many octets that were, and
whether the part was complete. -/
structure Intake where
  octets : List (Char × Bool)
  count : Nat
  complete : Bool
  deriving DecidableEq, Repr

namespace Intake

def more (xs : List (Char × Bool)) (n : Nat) (i : Intake) : Intake :=
  { i with octets := xs ++ i.octets, count := i.count + n }

/-- Takes octets up to a delimiter, if one is looked for, or until there are enough. -/
def ofText (raw : Bool) (delimiter : Option Char) : Option Nat → Octets → Intake
  | some 0, _ => ⟨[], 0, true⟩
  | _, [] => ⟨[], 0, false⟩
  | limit, c :: rest =>
    let left := limit.map (· - 1)
    if some c = delimiter then ⟨[], 1, true⟩
    else if c = '\\' ∧ !raw then
      match rest with
      | [] => ⟨[], 1, false⟩
      | d :: rest =>
        if d = '\n' then (ofText raw delimiter limit rest).more [] 2
        else (ofText raw delimiter left rest).more [(d, true)] 2
    else if c = Char.ofNat 0 then (ofText raw delimiter limit rest).more [] 1
    else (ofText raw delimiter left rest).more [(c, false)] 1

end Intake

def seconds? (word : Octets) : Option Nat :=
  let whole := word.takeWhile Char.isDigit
  let rest := word.drop whole.length
  let fraction := rest.drop 1
  if (rest.isEmpty ∧ !whole.isEmpty) then some (valueIn 10 whole * tenTo 9)
  else if rest.head? = some '.' ∧ fraction.all Char.isDigit ∧ !(whole.isEmpty ∧ fraction.isEmpty) then
    let ds := (fraction ++ List.replicate 9 '0').take 9
    some (valueIn 10 whole * tenTo 9 + valueIn 10 ds)
  else none

def givenStream (word : Octets) : Exec (Except Reply Nat) := do
  if word.isEmpty ∨ !word.all Char.isDigit then
    return .error (← failed (word ++ ": invalid file descriptor specification".toList))
  match (← get).streams.lookup (valueIn 10 word) with
  | some n => return .ok n
  | none => return .error (← failed (word ++ ": invalid file descriptor: Bad file descriptor".toList))

structure Reading where
  raw : Bool
  table : Option Octets
  delimiter : Char
  limit : Option Nat
  exact : Bool
  patience : Option Nat

def readValues (s : Shell) (r : Reading) (names : List Octets) (cs : List (Char × Bool)) : List (Octets × Octets) :=
  match names with
  | [] => [("REPLY".toList, cs.map Prod.fst)]
  | name :: rest =>
    if r.exact then (name, cs.map Prod.fst) :: rest.map fun n => (n, [])
    else distribute s.separators names cs

def readFrom (r : Reading) (n : Nat) (names : List Octets) : Exec Reply := do
  let s ← get
  let text := s.world.rest n
  let i := Intake.ofText r.raw (if r.exact then none else some r.delimiter) r.limit text
  let after := s.world.advance n i.count (!i.complete)
  let isLate := r.patience.any fun t => s.world.clock + t < after.clock
  let i := if isLate then ⟨[], 0, false⟩ else i
  set { s with world := if isLate then s.world.waitUntil (s.world.clock + r.patience.getD 0) else after }
  checkTime
  let mut status := if isLate then 142 else if i.complete then 0 else 1
  match r.table with
  | some name =>
    let atoms := i.octets.map fun (c, isQuoted) => if isQuoted then Atom.quoted c else Atom.value c
    let fields := (cutFields (← get).separators atoms).map fun f => f.map Prod.fst
    match ← (Setting.apply ⟨String.ofList name, none, false, .row [] (fields.map fun f => (none, f))⟩).run with
    | .ok () => pure ()
    | .error f =>
      complain (f.message .rich)
      status := 1
  | none =>
    for (name, value) in readValues (← get) r names i.octets do
      if !(← giveTo name value) then
        status := 1
        break
  quiet status

def richRead : Builtin := fun words =>
  withOptions "read" "ersE" "adinNptu" words fun found names => do
    let value? (c : Char) : Option Octets := (found.filter (·.1 = c)).getLast?.map Prod.snd
    let count? := (value? 'N').or (value? 'n')
    match count?.filter (fun w => w.isEmpty || !w.all Char.isDigit), (value? 't').filter fun w => (seconds? w).isNone with
    | some w, _ => failed (w ++ ": invalid number".toList)
    | none, some w => failed (w ++ ": invalid timeout specification".toList)
    | none, none =>
      match names.find? fun n => (Setting.ofText? (n ++ ['='])).isNone with
      | some n => failed (['`'] ++ n ++ "': not a valid identifier".toList)
      | none =>
        let stream ← match value? 'u' with
          | some w => givenStream w
          | none => match (← get).streams.lookup 0 with
            | some n => pure (.ok n)
            | none => pure (.error (← failed "0: invalid file descriptor: Bad file descriptor".toList))
        match stream with
        | .error reply => return reply
        | .ok n =>
          let patience := (value? 't').bind seconds?
          if patience = some 0 then quiet 0
          else
            let delimiter := ((value? 'd').map fun w => w.headD (Char.ofNat 0)).getD '\n'
            readFrom ⟨found.any (·.1 = 'r'), value? 'a', delimiter, count?.map (valueIn 10), (value? 'N').isSome, patience⟩
              n names

def endedParts (delimiter : Char) (text : Octets) : List Octets :=
  let (part, done) := text.foldr (fun c (part, done) =>
    if c = delimiter then ([c], if part.isEmpty then done else part :: done) else (c :: part, done))
    (([] : Octets), ([] : List Octets))
  if part.isEmpty then done else part :: done

def mapfile (command : String) : Builtin := fun words =>
  withOptions command "t" "dnOsuCc" words fun found names => do
    let value? (c : Char) : Option Octets := (found.filter (·.1 = c)).getLast?.map Prod.snd
    let number (c : Char) : Nat := ((value? c).map (valueIn 10)).getD 0
    let name := names.headD "MAPFILE".toList
    let isBad (w : Octets) : Bool := w.isEmpty || !w.all Char.isDigit
    match ((value? 'n').or (value? 's')).filter isBad, (value? 'O').filter isBad with
    | some w, _ => failed (w ++ ": invalid line count".toList)
    | none, some w => failed (w ++ ": invalid array origin".toList)
    | none, none =>
      if !isName name then failed (['`'] ++ name ++ "': not a valid identifier".toList)
      else
        match ← givenStream ((value? 'u').getD ['0']) with
        | .error reply => return reply
        | .ok n =>
          let s ← get
          let delimiter := ((value? 'd').map fun w => w.headD (Char.ofNat 0)).getD '\n'
          let all := endedParts delimiter (s.world.rest n)
          let skipped := number 's'
          let wanted := all.drop skipped
          let taken := if number 'n' = 0 then wanted else wanted.take (number 'n')
          let count := ((all.take skipped).map List.length).foldl (· + ·) 0 + (taken.map List.length).foldl (· + ·) 0
          set { s with world := s.world.advance n count (taken.length = wanted.length) }
          let strip (line : Octets) : Octets :=
            let cut := found.any (·.1 = 't') ∧ line.getLast? = some delimiter
            (if cut then line.dropLast else line).filter (·.toNat ≠ 0)
          let origin := number 'O'
          let items := taken.zipIdx.map fun (line, i) => (some (digits (origin + i)), strip line)
          match ← (Setting.apply ⟨String.ofList name, none, (value? 'O').isSome, .row [] items⟩).run with
          | .ok () => quiet 0
          | .error f =>
            modify fun s => { s with speaker := none }
            failed (f.message .rich)

end PassDelta.Machine.Shell
