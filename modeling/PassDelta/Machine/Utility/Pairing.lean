import PassDelta.Machine.Utility.Order
/-!
# Two files in order

Programs that go through two files whose lines are in order, and put together what belongs together.
-/

namespace PassDelta.Machine.Utility

open Act

/-- Whether files are checked for being in order: always, where it matters, or never. -/
inductive OrderCheck where
  | always
  | usual
  | never
  deriving DecidableEq, Repr

def OrderCheck.ofOptions (c : Chosen) : OrderCheck := if c.has 'κ' then .always else if c.has 'ν' then .never else .usual

def twoTexts (c : Chosen) : Act (Option (Octets × Octets)) := do
  match c.operands with
  | [] =>
    misuse 1 "missing operand".toList
    return none
  | [a] =>
    misuse 1 ("missing operand after ".toList ++ (← cited a))
    return none
  | _ :: _ :: extra :: _ =>
    misuse 1 ("extra operand ".toList ++ (← cited extra))
    return none
  | [a, b] =>
    let some x ← fetchOr 1 shown a | return none
    let some y ← fetchOr 1 shown b | return none
    return some (x, y)

/-- Going through two files: what is left of them, the lines before that, how many lines of each kind there were,
whether any had no partner, and of which files it was told that they are not in order. -/
structure Common where
  left : List Octets
  right : List Octets
  before : List (Option Octets)
  counts : List Nat
  unpaired : Bool
  told : List Nat

def Common.heed (s : Common) (check : OrderCheck) (file : Nat) (next : Option Octets) : Act Common := do
  match s.before[file]?, next with
  | some (some old), some new =>
    if (check = .always ∨ check = .usual ∧ s.unpaired) ∧ !s.told.contains file ∧ new < old then
      grumble ("file ".toList ++ digitsOf (file + 1) ++ " is not in sorted order".toList)
      return { s with told := file :: s.told }
    else return s
  | _, _ => return s

def commLong : List (String × Char) := [("check-order", 'κ'), ("nocheck-order", 'ν'), ("output-delimiter", 'δ'),
  ("total", 'τ'), ("zero-terminated", 'z')]

def comm : Act Unit := withOptions 1 "123zκντ" "δ" commLong fun c => do
  let marks := (c.values 'δ').eraseDups
  if 1 < marks.length then return ← reject 1 "multiple output delimiters specified".toList
  let mark := match marks with
    | [] => ['\t']
    | m :: _ => if m.isEmpty then [Char.ofNat 0] else m
  let check := OrderCheck.ofOptions c
  let ending := endMark c
  let some (x, y) ← twoTexts c | return
  let lines (text : Octets) : List Octets := plainLinesBy ending text
  let column (kind : Nat) : Octets :=
    ((List.range (kind - 1)).filter fun i => !c.has (Char.ofNat (49 + i))).flatMap fun _ => mark
  let write (kind : Nat) (line : Octets) : Act Unit := do
    if !c.has (Char.ofNat (48 + kind)) then print (column kind ++ line ++ [ending])
  let rec go : Nat → Common → Act Common
    | 0, s => return s
    | fuel + 1, s => do
      if check = .always ∧ !s.told.isEmpty then return s
      let order : Option Ordering := match s.left, s.right with
        | a :: _, b :: _ => some (compareOctets a b)
        | _ :: _, [] => some .lt
        | [], _ :: _ => some .gt
        | [], [] => none
      match order with
      | none => return s
      | some (o : Ordering) =>
        let s : Common := { s with unpaired := s.unpaired || o ≠ Ordering.eq }
        let kind := match o with
          | .lt => 1
          | .gt => 2
          | .eq => 3
        write kind ((if o = .gt then s.right else s.left).headD [])
        let s := { s with counts := s.counts.zipIdx.map fun (n, i) => if i + 1 = kind then n + 1 else n }
        let s ← if o ≠ .gt then do
            let old := s.before[0]?.join
            let here := s.left.head?
            let s := { s with left := s.left.tail, before := [here, s.before[1]?.join] }
            match s.left.head? with
            | some next => s.heed check 0 (some next)
            | none =>
              let t ← { s with before := [old, s.before[1]?.join] }.heed check 0 here
              pure { t with before := s.before }
          else pure s
        let s ← if o ≠ .lt then do
            let old := s.before[1]?.join
            let here := s.right.head?
            let s := { s with right := s.right.tail, before := [s.before[0]?.join, here] }
            match s.right.head? with
            | some next => s.heed check 1 (some next)
            | none =>
              let t ← { s with before := [s.before[0]?.join, old] }.heed check 1 here
              pure { t with before := s.before }
          else pure s
        go fuel s
  let (left, right) := (lines x, lines y)
  let s ← go (left.length + right.length + 1) ⟨left, right, [none, none], [0, 0, 0], false, []⟩
  if check = .always ∧ !s.told.isEmpty then return ← fail 1
  if c.has 'τ' then print (mark.intercalate (s.counts.map digitsOf) ++ mark ++ "total".toList ++ [ending])
  if !s.told.isEmpty then reject 1 "input is not in sorted order".toList

structure Record where
  line : Octets
  fields : List Octets
  deriving DecidableEq, Repr

def joinFields (mark : Option Char) (line : Octets) : List Octets :=
  match mark with
  | some m => if m = '\n' then [line] else if line.isEmpty then [] else line.splitOn m
  | none =>
    let body := line.dropWhile isBlankOctet
    if body.isEmpty then []
    else
      let step (c : Char) (done : List Octets × Bool) : List Octets × Bool :=
        if isBlankOctet c then (if done.2 then done.1 else [] :: done.1, true)
        else match done.1 with
          | f :: fs => ((c :: f) :: fs, false)
          | [] => ([[c]], false)
      (body.foldr step ([[]], false)).1

/-- A field that is written: of the first or the second line, or the one that they are joined by. -/
structure FieldChoice where
  file : Nat
  field : Nat
  deriving DecidableEq, Repr

/-- What joining is done by: the marks between fields, the fields that are compared, how, what is written, what for
empty fields, and which lines without a partner. -/
structure Joining where
  mark : Option Char
  keys : Nat × Nat
  folds : Bool
  chosen : List FieldChoice
  filler : Octets
  widths : Option (Nat × Nat)
  alone : List Nat
  pairs : Bool
  ending : Char

namespace Joining

def key (j : Joining) (file : Nat) (r : Record) : Octets :=
  let text := (r.fields[if file = 1 then j.keys.1 else j.keys.2]?).getD []
  if j.folds then text.map Char.toUpper else text

def text (j : Joining) (a b : Option Record) : Octets :=
  let field (r : Option Record) (n : Nat) : Octets :=
    let found := ((r.bind fun r => r.fields[n]?)).getD []
    if found.isEmpty then j.filler else found
  let shared := if a.isSome then field a j.keys.1 else field b j.keys.2
  let others (r : Option Record) (k : Nat) (width : Option Nat) : List Octets :=
    let n := width.getD ((r.map fun r => r.fields.length).getD 0)
    ((List.range n).filter (· ≠ k)).map (field r)
  let items := if j.chosen.isEmpty then
      shared :: others a j.keys.1 (j.widths.map Prod.fst) ++ others b j.keys.2 (j.widths.map Prod.snd)
    else j.chosen.map fun o => if o.file = 0 then shared else field (if o.file = 1 then a else b) o.field
  [j.mark.getD ' '].intercalate items ++ [j.ending]

end Joining

/-- One of the files that are joined: what is left of it, how many lines have been read, and the last of them. -/
structure JoinSide where
  name : Octets
  number : Nat
  rest : List Record
  read : Nat
  before : Option Record
  told : Bool

def JoinSide.next (s : JoinSide) (j : Joining) (checks : Bool) : Act (Option Record × JoinSide) := do
  match s.rest with
  | [] => return (none, s)
  | r :: rest =>
    let isBehind := s.before.any fun old => j.key s.number r < j.key s.number old
    let tells := checks && !s.told && isBehind
    if tells then
      grumble (s.name ++ [':'] ++ digitsOf (s.read + 1) ++ ": is not sorted: ".toList ++ r.line)
    return (some r, { s with rest := rest, read := s.read + 1, before := some r, told := s.told || tells })

def JoinSide.run (j : Joining) (checks : Bool) (key : Octets) :
    Nat → JoinSide → List Record → Act (List Record × Option Record × JoinSide)
  | 0, s, found => return (found.reverse, none, s)
  | fuel + 1, s, found => do
    match ← s.next j checks with
    | (none, s) => return (found.reverse, none, s)
    | (some r, s) => if j.key s.number r = key then run j checks key fuel s (r :: found) else return (found.reverse, some r, s)

def fieldNumber (word : Octets) : Act (Option Nat) := do
  if word ≠ [] ∧ word.all Char.isDigit ∧ valueIn 10 word ≠ 0 then return some (valueIn 10 word - 1)
  reject 1 ("invalid field number: ".toList ++ (← cited word))
  return none

def fieldChoice (word : Octets) : Act (Option FieldChoice) := do
  match word with
  | ['0'] => return some ⟨0, 0⟩
  | '0' :: _ =>
    reject 1 ("invalid field specifier: ".toList ++ (← cited word))
    return none
  | c :: rest =>
    if c ≠ '1' ∧ c ≠ '2' then
      reject 1 ("invalid file number in field spec: ".toList ++ (← cited word))
      return none
    match rest with
    | '.' :: number => return (← fieldNumber number).map fun n => ⟨c.toNat - 48, n⟩
    | _ =>
      reject 1 ("invalid field specifier: ".toList ++ (← cited word))
      return none
  | [] =>
    reject 1 ("invalid file number in field spec: ".toList ++ (← cited word))
    return none

def joinLong : List (String × Char) := [("ignore-case", 'i'), ("check-order", 'κ'), ("nocheck-order", 'ν'),
  ("zero-terminated", 'z'), ("header", 'η')]

def join : Act Unit := withOptions 1 "izκνη" "12aejotv" joinLong fun c => do
  let mut mark : Option Char := none
  let mut keys := (0, 0)
  let mut alone : List Nat := []
  let mut chosen : List FieldChoice := []
  let mut auto := false
  for (letter, word) in c.options do
    match letter with
    | '1' =>
      let some n ← fieldNumber word | return
      keys := (n, keys.2)
    | '2' =>
      let some n ← fieldNumber word | return
      keys := (keys.1, n)
    | 'j' =>
      let some n ← fieldNumber word | return
      keys := (n, n)
    | 't' =>
      match word with
      | [] => mark := some '\n'
      | [x] => mark := some x
      | ['\\', '0'] => mark := some (Char.ofNat 0)
      | w => return ← reject 1 ("multi-character tab ".toList ++ (← cited w))
    | 'o' =>
      if word = "auto".toList then auto := true
      else
        for item in (word.splitOnP fun c => c = ',' || isGap c) do
          let some o ← fieldChoice item | return
          chosen := chosen ++ [o]
    | _ =>
      if letter = 'a' ∨ letter = 'v' then
        if word ≠ ['1'] ∧ word ≠ ['2'] then return ← reject 1 ("invalid field number: ".toList ++ (← cited word))
        alone := valueIn 10 word :: alone
  if c.operands = [['-'], ['-']] then return ← reject 1 "both files cannot be standard input".toList
  let some (x, y) ← twoTexts c | return
  let ending := endMark c
  let check := OrderCheck.ofOptions c
  let records (text : Octets) : List Record := (plainLinesBy ending text).map fun l => ⟨l, joinFields mark l⟩
  let (left, right) := (records x, records y)
  let width (rs : List Record) : Nat := (rs.head?.map fun r => r.fields.length).getD 0
  let j : Joining :=
    ⟨mark, keys, c.has 'i', chosen, (c.value? 'e').getD [], if auto then some (width left, width right) else none, alone,
      !c.has 'v', ending⟩
  let side (n : Nat) (rs : List Record) : JoinSide := ⟨(c.operands[n - 1]?).getD [], n, rs, 0, none, false⟩
  let headed := c.has 'η'
  if headed ∧ (!left.isEmpty ∨ !right.isEmpty) then print (j.text left.head? right.head?)
  let skip (s : JoinSide) : JoinSide := if headed then { s with rest := s.rest.tail, read := s.rest.length - s.rest.tail.length } else s
  let stops (s t : JoinSide) : Bool := check = .always && (s.told || t.told)
  let checks (unpaired : Bool) : Bool := check = .always || check = .usual && unpaired
  let rec go : Nat → Bool → Option Record → Option Record → JoinSide → JoinSide →
      Act (Bool × Option Record × Option Record × JoinSide × JoinSide)
    | 0, unpaired, a, b, s, t => return (unpaired, a, b, s, t)
    | fuel + 1, unpaired, a, b, s, t => do
      match a, b with
      | some x, some y =>
        if stops s t then return (unpaired, a, b, s, t)
        match compareOctets (j.key 1 x) (j.key 2 y) with
        | .lt =>
          if alone.contains 1 then print (j.text a none)
          let (a, s) ← s.next j (checks unpaired)
          go fuel true a b s t
        | .gt =>
          if alone.contains 2 then print (j.text none b)
          let (b, t) ← t.next j (checks unpaired)
          go fuel true a b s t
        | .eq =>
          let (xs, a, s) ← s.run j (checks unpaired) (j.key 2 y) (s.rest.length + 1) [x]
          let (ys, b, t) ← t.run j (checks unpaired) (j.key 1 x) (t.rest.length + 1) [y]
          if stops s t then return (unpaired, a, b, s, t)
          if j.pairs then print (xs.flatMap fun x => ys.flatMap fun y => j.text (some x) (some y))
          go fuel unpaired a b s t
      | _, _ => return (unpaired, a, b, s, t)
  let (a, s) ← (skip (side 1 left)).next j (check = .always)
  let (b, t) ← (skip (side 2 right)).next j (check = .always)
  let (unpaired, a, b, s, t) ← go (left.length + right.length + 1) false a b s t
  let rec drain : Nat → Bool → Bool → JoinSide → Act JoinSide
    | 0, _, _, s => return s
    | fuel + 1, writes, unpaired, s => do
      match ← s.next j (checks unpaired) with
      | (none, s) => return s
      | (some r, s) =>
        if writes then print (if s.number = 1 then j.text (some r) none else j.text none (some r))
        if (s.told ∧ !writes) ∨ (check = .always ∧ s.told) then return s
        drain fuel writes unpaired s
  if stops s t then return ← fail 1
  let checkTail := check ≠ .never && !(s.told && t.told)
  let mut unpaired := unpaired
  let mut s := s
  let mut t := t
  if a.isSome ∧ (alone.contains 1 ∨ checkTail) then
    if alone.contains 1 then print (j.text a none)
    if b.isSome then unpaired := true
    s ← drain (left.length + 1) (alone.contains 1) unpaired s
  if stops s t then return ← fail 1
  if b.isSome ∧ (alone.contains 2 ∨ checkTail) then
    if alone.contains 2 then print (j.text none b)
    if a.isSome then unpaired := true
    t ← drain (right.length + 1) (alone.contains 2) unpaired t
  if stops s t then return ← fail 1
  if s.told ∨ t.told then reject 1 "input is not in sorted order".toList

end PassDelta.Machine.Utility
