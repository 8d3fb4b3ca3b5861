import PassDelta.Machine.Utility.Order
import PassDelta.Text.Utf8
/-!
# Counting

The programs that count what is in files, and that print sequences of numbers.
-/

namespace PassDelta.Machine.Utility

open Act

structure Counts where
  lines : Nat
  words : Nat
  chars : Nat
  bytes : Nat
  longest : Nat

namespace Counts

def none : Counts := ⟨0, 0, 0, 0, 0⟩

def add (a b : Counts) : Counts :=
  ⟨a.lines + b.lines, a.words + b.words, a.chars + b.chars, a.bytes + b.bytes, max a.longest b.longest⟩

/-- What a character does to the count of words and columns: blank, of some width, or neither. -/
inductive CharKind where
  | blank
  | shown (width : Nat)
  | hidden

def wideKind (n : Nat) : CharKind :=
  let isIn (ranges : List (Nat × Nat)) : Bool := ranges.any fun r => r.1 ≤ n && n ≤ r.2
  if isIn [(0x80, 0x84), (0x86, 0x9F)] then .hidden
  else if isIn [(0x85, 0x85), (0xA0, 0xA0), (0x1680, 0x1680), (0x2000, 0x200A), (0x2028, 0x2029), (0x202F, 0x202F),
      (0x205F, 0x2060), (0x3000, 0x3000)] then .blank
  else if isIn [(0x300, 0x36F), (0x483, 0x489), (0x200B, 0x200F), (0xFE00, 0xFE0F), (0x20D0, 0x20F0)] then .shown 0
  else if isIn [(0x1100, 0x115F), (0x2E80, 0x303E), (0x3041, 0xA4CF), (0xAC00, 0xD7A3), (0xF900, 0xFAFF), (0xFE30, 0xFE6F),
      (0xFF00, 0xFF60), (0xFFE0, 0xFFE6), (0x1F300, 0x1F64F), (0x1F900, 0x1F9FF), (0x20000, 0x3FFFD)] then .shown 2
  else .shown 1

def blankWidth (n : Nat) : Nat := if n = 0x3000 then 2 else if n = 0x85 ∨ n = 0x2028 ∨ n = 0x2029 ∨ n = 0x2060 then 0 else 1

structure Spot where
  counts : Counts
  column : Nat
  inWord : Bool

/-- Counts one character by its code; none stands for an octet that is a part of no character. -/
def Spot.step (s : Spot) : Option Nat → Spot
  | .none => s
  | some n =>
    let c := s.counts
    let words := if s.inWord then c.words + 1 else c.words
    let counted : Counts := { c with chars := c.chars + 1 }
    if n = 10 ∨ n = 13 ∨ n = 12 then
      ⟨{ counted with lines := if n = 10 then c.lines + 1 else c.lines, words := words, longest := max c.longest s.column },
        0, false⟩
    else if n = 9 then ⟨{ counted with words := words }, s.column + 8 - s.column % 8, false⟩
    else if n = 32 then ⟨{ counted with words := words }, s.column + 1, false⟩
    else if n = 11 then ⟨{ counted with words := words }, s.column, false⟩
    else if n < 32 ∨ n = 127 then ⟨counted, s.column, s.inWord⟩
    else if n < 127 then ⟨counted, s.column + 1, true⟩
    else match wideKind n with
      | .blank => ⟨{ counted with words := words }, s.column + blankWidth n, false⟩
      | .shown w => ⟨counted, s.column + w, true⟩
      | .hidden => ⟨counted, s.column, s.inWord⟩

def codes (wide : Bool) (cs : Octets) : List (Option Nat) :=
  if !wide then cs.map fun c => if c.toNat < 128 then some c.toNat else some 1
  else
    let rec go : Nat → Octets → List (Option Nat)
      | 0, _ => []
      | _ + 1, [] => []
      | fuel + 1, c :: rest =>
        if c.toNat < 128 then some c.toNat :: go fuel rest
        else
          let size := if 0xF0 ≤ c.toNat then 4 else if 0xE0 ≤ c.toNat then 3 else 2
          match Text.decode? (bytesOf ((c :: rest).take size)) with
          | some s => match s.toList with
            | [x] => some x.toNat :: go fuel (rest.drop (size - 1))
            | _ => .none :: go fuel rest
          | .none => .none :: go fuel rest
    go (cs.length + 1) cs

def of (wide : Bool) (cs : Octets) : Counts :=
  let s := (codes wide cs).foldl Spot.step ⟨Counts.none, 0, false⟩
  let c := s.counts
  { c with
    words := if s.inWord then c.words + 1 else c.words, bytes := cs.length, longest := max c.longest s.column }

def select (c : Chosen) (n : Counts) : List Nat :=
  (if c.has 'l' then [n.lines] else []) ++ (if c.has 'w' then [n.words] else []) ++ (if c.has 'm' then [n.chars] else []) ++
    (if c.has 'c' then [n.bytes] else []) ++ (if c.has 'L' then [n.longest] else [])

end Counts

def wcLong : List (String × Char) :=
  [("lines", 'l'), ("words", 'w'), ("bytes", 'c'), ("chars", 'm'), ("max-line-length", 'L'), ("total", 'τ')]

def wc : Act Unit := withOptions 1 "lwcmL" "τ" wcLong fun chosen => do
  let known := ["auto", "always", "only", "never"]
  let mut total := "auto"
  for word in chosen.values 'τ' do
    match known.filter fun k => word.isPrefixOf k.toList with
    | [k] => total := k
    | ks =>
      if known.contains (String.ofList word) then total := String.ofList word
      else if ks.length ≤ 4 then return ← unknownWord "--total" word known
  let asked := chosen.options.any fun o => o.1 ≠ 'τ'
  let c := if asked then chosen else { chosen with options := [('l', []), ('w', []), ('c', [])] ++ chosen.options }
  let wide := isWideLanguage (← read).environment
  let files := filesOf c
  let single := files.length = 1 ∧ (Counts.select c Counts.none).length = 1
  let mut size := 0
  let mut least := 1
  for file in files do
    if file = ['-'] then
      let w ← getWorld
      match (← read).streams.lookup 0 with
      | some id =>
        match w.channel id with
        | .file place .. => if w.tree.isDir place then least := 7 else size := size + (w.contentsAt place).length
        | _ => least := 7
      | none => pure ()
    else match ← entry file with
      | .ok (.file contents _) => size := size + contents.length
      | .ok _ => least := 7
      | .error _ => pure ()
  let width := if single ∨ total = "only" then 1 else max least (digitsOf size).length
  let row (n : Counts) (name : Option Octets) : Act Unit :=
    print ([' '].intercalate ((Counts.select c n).map fun k => leftFill width ' ' (digitsOf k)) ++
      ((name.map fun x => ' ' :: x).getD []) ++ ['\n'])
  let mut sum := Counts.none
  for file in files do
    let name := if c.operands.isEmpty then none else some file
    match ← fetch file with
    | .ok text =>
      let n := Counts.of wide text
      sum := sum.add n
      if total ≠ "only" then row n name
    | .error e =>
      reject 1 (fileFault file e)
      if e = .eisdir ∧ total ≠ "only" then row Counts.none name
  if total = "only" then row sum none
  else if total = "always" ∨ (total = "auto" ∧ 1 < files.length) then row sum (some "total".toList)

/-- A number as units of its last place, with how many places it is written with. -/
def decimal? (word : Octets) : Option (Int × Nat) :=
  let (negative, body) := splitSign (word.dropWhile isSpaceOctet)
  let signed (n : Nat) : Int := if negative then -(n : Int) else n
  match body with
  | '0' :: x :: ds =>
    if (x = 'x' ∨ x = 'X') ∧ ds ≠ [] ∧ ds.all fun d => (digitValue? d).isSome then some (signed (valueIn 16 ds), 0)
    else ofDecimal signed body
  | _ => ofDecimal signed body
where
  ofDecimal (signed : Nat → Int) (body : Octets) : Option (Int × Nat) :=
    let whole := body.takeWhile Char.isDigit
    let behind := body.drop whole.length
    let (fraction, rest) := match behind with
      | '.' :: more => more.span Char.isDigit
      | more => ([], more)
    let power? : Option Int := match rest with
      | [] => some 0
      | e :: more => if e = 'e' ∨ e = 'E' then readInteger? more else none
    if whole.isEmpty ∧ fraction.isEmpty then none
    else power?.bind fun power =>
      if 400 < power.natAbs then none
      else
        let places : Int := fraction.length - power
        let n := signed (valueIn 10 (whole ++ fraction))
        some (if 0 ≤ places then (n, places.toNat) else (n * tenTo places.natAbs, 0))

def placedText (places : Nat) (n : Int) : Octets :=
  let ds := leftFill (places + 1) '0' (digitsOf n.natAbs)
  let body := if places = 0 then ds else ds.take (ds.length - places) ++ ['.'] ++ ds.drop (ds.length - places)
  if n < 0 then '-' :: body else body

/-- What is wrong with a format for numbers, if anything is; else its only conversion stands between two texts. -/
def numberFormat (format : Octets) : Except String (Octets × Conversion × Octets) :=
  let rec plain : Nat → Octets → Octets × Option Octets
    | 0, cs => (cs, none)
    | _ + 1, [] => ([], none)
    | fuel + 1, '%' :: '%' :: rest =>
      let (a, b) := plain fuel rest
      ('%' :: a, b)
    | _ + 1, '%' :: rest => ([], some rest)
    | fuel + 1, c :: rest =>
      let (a, b) := plain fuel rest
      (c :: a, b)
  match plain (format.length + 1) format with
  | (_, none) => .error "has no % directive"
  | (before, some rest) =>
    let flags := rest.takeWhile "-+#0 '".toList.contains
    let rest := rest.drop flags.length
    let width := rest.takeWhile Char.isDigit
    let rest := rest.drop width.length
    let (precision, rest) := match rest with
      | '.' :: more =>
        let ds := more.takeWhile Char.isDigit
        (some (valueIn 10 ds), more.drop ds.length)
      | more => (none, more)
    let rest := if rest.head? = some 'L' then rest.drop 1 else rest
    match rest with
    | [] => .error "ends in %"
    | letter :: after =>
      if !"efgaEFGA".toList.contains letter then .error ("has unknown %" ++ String.singleton letter ++ " directive")
      else match plain (after.length + 1) after with
        | (_, some _) => .error "has too many % directives"
        | (behind, none) =>
          .ok (before, ⟨flags, if width.isEmpty then none else some (valueIn 10 width), precision, letter⟩, behind)

structure Steps where
  first : Int
  step : Int
  count : Nat
  scale : Nat

def seqLong : List (String × Char) := [("equal-width", 'w'), ("separator", 's'), ("format", 'f')]

def seq : Act Unit := do
  let isNegative (w : Octets) : Bool := match w with
    | '-' :: c :: _ => c.isDigit || c = '.'
    | _ => false
  let args := (← read).args
  let rec optionsOf : Nat → List Octets → Nat
    | 0, _ => 0
    | fuel + 1, w :: rest =>
      if w.head? ≠ some '-' ∨ w = ['-'] ∨ isNegative w ∨ w = ['-', '-'] then 0
      else if (w = ['-', 's'] ∨ w = ['-', 'f'] ∨ w = "-ws".toList ∨ w = "-wf".toList ∨ w = "--separator".toList ∨
          w = "--format".toList) ∧ !rest.isEmpty then 2 + optionsOf fuel rest.tail
      else 1 + optionsOf fuel rest
    | _ + 1, [] => 0
  let n := optionsOf (args.length + 1) args
  let words := args.drop n
  let words := if words.head? = some ['-', '-'] then words else ['-', '-'] :: words
  withReader (fun call => { call with args := args.take n ++ words }) <| withOptions 1 "w" "sf" seqLong fun c => do
    let operands := c.operands
    if operands.isEmpty then return ← misuse 1 "missing operand".toList
    if let some extra := operands[3]? then return ← misuse 1 ("extra operand ".toList ++ (← cited extra))
    let shape ← match c.value? 'f' with
      | none => pure none
      | some format => match numberFormat format with
        | .error e => return ← reject 1 ("format ".toList ++ (← cited format) ++ (" " ++ e).toList)
        | .ok x => pure (some x)
    if shape.isSome ∧ c.has 'w' then
      return ← misuse 1 "format string may not be specified when printing equal width strings".toList
    let isEndless (w : Octets) : Bool := ["inf", "infinity"].contains (String.ofList ((splitSign w).2.map Char.toLower))
    for w in operands do
      if String.ofList ((splitSign w).2.map Char.toLower) = "nan" then
        return ← misuse 1 ("invalid 'not-a-number' argument: ".toList ++ (← cited w))
      if (decimal? w).isNone ∧ !isEndless w then
        return ← misuse 1 ("invalid floating point argument: ".toList ++ (← cited w))
    let endless := operands.getLast?.any isEndless
    let numbers := operands.map fun w => (decimal? w).getD (0, 0)
    let (first, step, last) := match numbers with
      | [l] => ((1, 0), (1, 0), l)
      | [f, l] => (f, (1, 0), l)
      | f :: s :: l :: _ => (f, s, l)
      | [] => ((1, 0), (1, 0), (0, 0))
    if step.1 = 0 then
      return ← misuse 1 ("invalid Zero increment value: ".toList ++ (← cited (operands[1]?.getD [])))
    let places := max first.2 step.2
    let scale := max places last.2
    let units (x : Int × Nat) : Int := x.1 * tenTo (scale - x.2)
    let span := units last - units first
    let total := if endless then 150000 else if 0 ≤ span * units step then (span / units step).toNat + 1 else 0
    let total := if !endless ∧ span * units step < 0 then 0 else total
    let at_ (i : Nat) : Int := units first + i * units step
    let write (i : Nat) : Octets :=
      match shape with
      | some (before, v, behind) =>
        before ++ v.amount (.ratio (at_ i < 0) (at_ i).natAbs (tenTo scale)) ++ behind
      | none => placedText places (at_ i / tenTo (scale - places))
    let items := (List.range total).map write
    let lastText := placedText places (units last / tenTo (scale - places))
    let width := if total = 0 then 0 else max (items.headD []).length lastText.length
    let items := if c.has 'w' then items.map fun w => match w with
        | '-' :: body => '-' :: leftFill (width - 1) '0' body
        | body => leftFill width '0' body
      else items
    if total ≠ 0 then print (((c.value? 's').getD ['\n']).intercalate items ++ ['\n'])
    if endless then goOn

end PassDelta.Machine.Utility
