import PassDelta.Machine.Quoting
import PassDelta.Machine.Calendar
import PassDelta.Number.Binary64
/-!
# Written arguments

Arguments on a line, and arguments by a format. Escapes begin with a backslash; an unknown one stands for itself.
-/

namespace PassDelta.Machine

/-- Programs that write arguments differ in a few words: that of the plain shell, one of its own, and those of the rich
shell by a format and on a line, which know longer characters when they are `wide`. -/
inductive Writer where
  | inShell
  | alone
  | rich (wide : Bool)
  | richLine (wide : Bool)
  deriving DecidableEq, Repr

namespace Writer

def isRich : Writer → Bool
  | rich _ => true
  | richLine _ => true
  | _ => false

def isWide : Writer → Bool
  | rich wide => wide
  | richLine wide => wide
  | _ => false

def isLine : Writer → Bool
  | richLine _ => true
  | _ => false

end Writer

def letterEscape? (c : Char) : Option Char :=
  [('\\', '\\'), ('a', Char.ofNat 7), ('b', Char.ofNat 8), ('e', Char.ofNat 27), ('f', Char.ofNat 12), ('n', '\n'),
    ('r', '\r'), ('t', '\t'), ('v', Char.ofNat 11)].lookup c

/-- Octets with escapes resolved, and whether an escape ended all output. Octal escapes have up to three digits,
after a zero when `zeroed`; only then an escape can end the output. Hexadecimal ones are not for the plain shell, and
codes of characters only for the rich one. -/
def unescape (writer : Writer) (zeroed : Bool) : Nat → Octets → Octets × Bool
  | 0, _ => ([], false)
  | _ + 1, [] => ([], false)
  | fuel + 1, '\\' :: c :: rest =>
    let go (before rest : Octets) : Octets × Bool :=
      let (out, ended) := unescape writer zeroed fuel rest
      (before ++ out, ended)
    if c = 'c' ∧ zeroed then ([], true)
    else match if c = 'E' ∧ writer.isRich then some (Char.ofNat 27) else letterEscape? c with
      | some e => go [e] rest
      | none =>
        if isOctal c ∧ (c = '0' ∨ !writer.isLine) then
          let (code, rest') := readOctal 3 (if zeroed ∧ c = '0' then rest else c :: rest)
          go [Char.ofNat (code % 256)] rest'
        else
          let most := if c = 'u' then 4 else if c = 'U' then 8 else 2
          let ds := (rest.take most).takeWhile fun d => (digitValue? d).isSome
          if c = 'x' ∧ writer ≠ .inShell ∧ ds ≠ [] then go [Char.ofNat (valueIn 16 ds)] (rest.drop ds.length)
          else if (c = 'u' ∨ c = 'U') ∧ writer.isRich ∧ ds ≠ [] then
            go (codedOctets writer.isWide (valueIn 16 ds)) (rest.drop ds.length)
          else if c = '"' ∧ !zeroed ∧ writer ≠ .inShell then go ['"'] rest
          else if (c = '\'' ∨ c = '?') ∧ !zeroed ∧ writer.isRich then go [c] rest
          else go ['\\', c] rest
  | fuel + 1, c :: rest => let (out, ended) := unescape writer zeroed fuel rest; (c :: out, ended)

def joinWords (words : List Octets) : Octets := [' '].intercalate words

/-- The words on one line, escapes resolved; after `-n` the line is not ended. -/
def echoEscaped (words : List Octets) : Octets :=
  let (silent, words) := match words with
    | ['-', 'n'] :: rest => (true, rest)
    | rest => (false, rest)
  let line := joinWords words
  let (out, ended) := unescape .inShell true (line.length + 1) line
  if silent ∨ ended then out else out ++ ['\n']

def isEchoOption : Octets → Bool
  | '-' :: c :: cs => (c :: cs).all fun x => x = 'n' || x = 'e' || x = 'E'
  | _ => false

def echoPlain (writer : Writer) (words : List Octets) : Octets :=
  let flags := (words.takeWhile isEchoOption).flatten
  let line := joinWords (words.dropWhile isEchoOption)
  let escapes := (flags.filter fun c => c = 'e' || c = 'E').getLast? = some 'e'
  let (out, ended) := if escapes then unescape writer true (line.length + 1) line else (line, false)
  if flags.contains 'n' ∨ ended then out else out ++ ['\n']

/-- A conversion of a format: its flags, the least width, the precision, and its letter. -/
structure Conversion where
  flags : List Char
  width : Option Int
  precision : Option Nat
  letter : Char
  deriving DecidableEq, Repr

def Conversion.left (v : Conversion) : Bool := v.flags.contains '-' || v.width.any (· < 0)

def Conversion.pad (v : Conversion) (text : Octets) : Octets :=
  let fill := List.replicate ((v.width.getD 0).natAbs - text.length) ' '
  if v.left then text ++ fill else fill ++ text

/-- A number, as its sign and its digits, filled up to the width of its field. -/
def Conversion.padNumber (v : Conversion) (sign digits : Octets) (zeros : Bool) : Octets :=
  let missing := (v.width.getD 0).natAbs - (sign.length + digits.length)
  if zeros ∧ v.flags.contains '0' ∧ !v.left then sign ++ List.replicate missing '0' ++ digits
  else v.pad (sign ++ digits)

def Conversion.sign (v : Conversion) (negative : Bool) : Octets :=
  if negative then ['-'] else if v.flags.contains '+' then ['+'] else if v.flags.contains ' ' then [' '] else []

def Conversion.integer (v : Conversion) (n : Int) : Octets :=
  let signed := v.letter = 'd' ∨ v.letter = 'i'
  let magnitude := if signed then n.natAbs else bits n
  let digits := match v.letter with
    | 'x' => Nat.toDigits 16 magnitude
    | 'X' => (Nat.toDigits 16 magnitude).map Char.toUpper
    | 'o' => Nat.toDigits 8 magnitude
    | _ => Nat.toDigits 10 magnitude
  let digits := if v.precision = some 0 ∧ magnitude = 0 then [] else digits
  let digits := List.replicate (v.precision.getD 0 - digits.length) '0' ++ digits
  let mark : Octets :=
    if !v.flags.contains '#' ∨ magnitude = 0 then []
    else match v.letter with
      | 'x' => ['0', 'x']
      | 'X' => ['0', 'X']
      | 'o' => ['0']
      | _ => []
  v.padNumber ((if signed then v.sign (n < 0) else []) ++ mark) digits v.precision.isNone

/-- A decimal number read from the front of a text: its sign, its digits as a fraction, and what follows. -/
def readDecimal (cs : Octets) : Option (Bool × Nat × Nat × Octets) :=
  let (negative, body) := splitSign cs
  let whole := body.takeWhile Char.isDigit
  let (fraction, rest) := match body.drop whole.length with
    | '.' :: more => more.span Char.isDigit
    | more => ([], more)
  if whole.isEmpty ∧ fraction.isEmpty then none
  else
    let digits := valueIn 10 (whole ++ fraction)
    let exponent : Int × Octets := match rest with
      | e :: more =>
        if e = 'e' ∨ e = 'E' then
          let (minus, ds) := splitSign more
          let power := ds.takeWhile Char.isDigit
          if power.isEmpty then (0, rest)
          else
            let n : Int := min 400 (valueIn 10 power)
            (if minus then -n else n, ds.drop power.length)
        else (0, rest)
      | [] => (0, rest)
    let scale := exponent.1 - fraction.length
    if 0 ≤ scale then some (negative, digits * tenTo scale.toNat, 1, exponent.2)
    else some (negative, digits, tenTo scale.natAbs, exponent.2)

inductive Amount where
  | ratio (negative : Bool) (num den : Nat)
  | infinite (negative : Bool)
  | notNumber (negative : Bool)
  deriving DecidableEq, Repr

def amountOf (x : Binary64) : Amount :=
  if x.isNaN then .notNumber x.isNegative
  else if x.isInfinite then .infinite x.isNegative
  else .ratio x.isNegative x.units Binary64.one

/-- The nearest ratio whose numerator has sixty-four bits before a power of two. -/
def extended (num den : Nat) : Nat × Nat :=
  if num = 0 then (0, 1)
  else
    let up := 66 + den.log2 - num.log2
    let drop := (num * twoTo up / den).log2 - 63
    (roundHalfEven (num * twoTo up) (den * twoTo drop) * twoTo drop, twoTo up)

def fixedDigits (places num den : Nat) : Octets :=
  let units := roundHalfEven (num * tenTo places) den
  if places = 0 then (toString units).toList else (fixedPlaces places units).toList

/-- The digits of a ratio with one before the point and `places` after it, and the exponent. -/
def scientific (places num den : Nat) : Octets × Int :=
  if num = 0 then (List.replicate (places + 1) '0', 0)
  else
    let guess : Int := (Nat.toDigits 10 num).length - (Nat.toDigits 10 den).length
    let first := if den * tenTo guess.toNat ≤ num * tenTo (-guess).toNat then guess else guess - 1
    let rounded (e : Int) : Nat :=
      let shift : Int := places - e
      roundHalfEven (num * tenTo shift.toNat) (den * tenTo (-shift).toNat)
    let digits := Nat.toDigits 10 (rounded first)
    if digits.length = places + 1 then (digits, first)
    else (Nat.toDigits 10 (rounded (first + 1)), first + 1)

def exponentText (e : Int) : Octets :=
  let ds := Nat.toDigits 10 e.natAbs
  (if e < 0 then ['e', '-'] else ['e', '+']) ++ (if ds.length < 2 then '0' :: ds else ds)

def pointed (n : Nat) (digits : Octets) : Octets :=
  if digits.length ≤ n then digits else digits.take n ++ ['.'] ++ digits.drop n

def dropZeros (cs : Octets) : Octets :=
  if cs.contains '.' then
    let body := (cs.reverse.dropWhile (· = '0')).reverse
    if body.getLast? = some '.' then body.dropLast else body
  else cs

/-- A number by a conversion: with fixed places, with an exponent, or whichever is shorter. -/
def Conversion.amount (v : Conversion) (a : Amount) : Octets :=
  let cased (text : Octets) : Octets := if v.letter.isUpper then text.map Char.toUpper else text
  match a with
  | .notNumber negative => v.padNumber (v.sign negative) (cased "nan".toList) false
  | .infinite negative => v.padNumber (v.sign negative) (cased "inf".toList) false
  | .ratio negative num den =>
    let places := v.precision.getD 6
    let body : Octets := match v.letter.toLower with
      | 'f' => fixedDigits places num den
      | 'e' => let (ds, e) := scientific places num den; pointed 1 ds ++ exponentText e
      | _ =>
        let significant := max 1 places
        let (ds, e) := scientific (significant - 1) num den
        if e < -4 ∨ (significant : Int) ≤ e then dropZeros (pointed 1 ds) ++ exponentText e
        else dropZeros (fixedDigits ((significant : Int) - 1 - e).toNat num den)
    v.padNumber (v.sign negative) (cased body) true

def Conversion.float (v : Conversion) (x : Binary64) : Octets := v.amount (amountOf x)

inductive Part where
  | plain (text : Octets)
  | convert (v : Conversion) (starWidth starPrecision : Bool) (written : Octets)
  | time (v : Conversion) (format : Octets)
  | unfinished (written : Octets)
  deriving DecidableEq, Repr

/-- The parts of a format. For the rich shell there are times, and letters before that of a conversion that tell how
wide a number is; a doubled sign may not have anything between. -/
def partsFor (rich : Bool) : Nat → Octets → List Part
  | 0, _ => []
  | _ + 1, [] => []
  | fuel + 1, '%' :: '%' :: rest => .plain ['%'] :: partsFor rich fuel rest
  | fuel + 1, '%' :: rest =>
    let flags := rest.takeWhile fun c => c = '-' || c = '+' || c = ' ' || c = '#' || c = '0' || (rich && c = '\'')
    let behind := rest.drop flags.length
    let (width, starWidth, behind) := match behind with
      | '*' :: r => (none, true, r)
      | r =>
        let ds := r.takeWhile Char.isDigit
        (if ds.isEmpty then none else some (valueIn 10 ds : Int), false, r.drop ds.length)
    let (precision, starPrecision, behind) := match behind with
      | '.' :: '*' :: r => (none, true, r)
      | '.' :: r => let ds := r.takeWhile Char.isDigit; (some (valueIn 10 ds), false, r.drop ds.length)
      | r => (none, false, r)
    let behind := if rich then behind.dropWhile "hjlLtz".toList.contains else behind
    match behind with
    | [] => [.unfinished ('%' :: rest)]
    | letter :: after =>
      let format := after.takeWhile (· ≠ ')')
      if rich ∧ letter = '(' ∧ "T".toList.isPrefixOf (after.drop (format.length + 1)) then
        .time ⟨flags, width, precision, 's'⟩ format :: partsFor rich fuel (after.drop (format.length + 2))
      else
        let written := flags ++ (width.map fun n => (toString n).toList).getD [] ++ [letter]
        .convert ⟨flags, width, precision, letter⟩ starWidth starPrecision written :: partsFor rich fuel after
  | fuel + 1, cs =>
    let text := cs.takeWhile (· ≠ '%')
    .plain text :: partsFor rich fuel (cs.drop text.length)

def parts (fuel : Nat) (format : Octets) : List Part := partsFor false fuel format

/-- What a format has written so far, latest first, with what it complained about, and the arguments left. -/
structure Printing where
  said : List (Nat × Octets)
  status : Nat
  left : List Octets
  used : Bool
  ended : Bool
  clock : Int

namespace Printing

def write (p : Printing) (text : Octets) : Printing := { p with said := (1, text) :: p.said }

def complain (p : Printing) (text : Octets) : Printing := { p with said := (2, text) :: p.said, status := 1 }

def warn (p : Printing) (text : Octets) : Printing := { p with said := (2, text) :: p.said }

def next (p : Printing) : Octets × Printing := (p.left.headD [], { p with left := p.left.tail, used := true })

def blame (p : Printing) (writer : Writer) (word : Octets) (partly : Bool) : Printing :=
  match writer with
  | .inShell =>
    p.complain (word ++ if partly then ": not completely converted".toList else ": expected numeric value".toList)
  | .alone =>
    p.complain (['\''] ++ word ++ ['\''] ++
      if partly then ": value not completely converted".toList else ": expected a numeric value".toList)
  | _ => p.complain (word ++ ": invalid number".toList)

/-- The next argument as an integer. A quote before a character stands for its code. -/
def integer (p : Printing) (writer : Writer) : Int × Printing :=
  if p.left.isEmpty then (0, p.next.2)
  else
    let (word, p) := p.next
    match word with
    | '\'' :: c :: _ => (c.toNat, p)
    | '"' :: c :: _ => (c.toNat, p)
    | _ =>
      let body := word.dropWhile fun c => c = ' ' || c = '\t' || c = '\n'
      let (negative, ds) := splitSign body
      match readNumber ds with
      | none => (0, if word.isEmpty ∧ writer ≠ .alone then p else p.blame writer word false)
      | some (n, rest) =>
        let value : Int := if negative then -(n : Int) else n
        let p := if rest.isEmpty then p else p.blame writer word true
        if clamp value = value then (value, p)
        else
          let text := word ++ ": Numerical result out of range".toList
          (clamp value, if writer.isRich then p.warn ("warning: ".toList ++ text) else p.complain text)

/-- The next argument as a number that need not be whole. The plain shell has doubles, the others have more bits. -/
def amount (p : Printing) (writer : Writer) : Amount × Printing :=
  if p.left.isEmpty then (.ratio false 0 1, p.next.2)
  else
    let (word, p) := p.next
    let body := word.dropWhile fun c => c = ' ' || c = '\t'
    let (negative, name) := splitSign body
    let name := String.ofList (name.map Char.toLower)
    if name = "inf" ∨ name = "infinity" then (.infinite negative, p)
    else if name = "nan" then (.notNumber negative, p)
    else match readDecimal body with
      | none =>
        match word with
        | q :: c :: _ => if q = '\'' ∨ q = '"' then (.ratio false c.toNat 1, p)
          else (.ratio false 0 1, p.blame writer word false)
        | _ => (.ratio false 0 1, if word.isEmpty then p else p.blame writer word false)
      | some (negative, num, den, rest) =>
        let p := if rest.isEmpty then p else p.blame writer word true
        if writer = .inShell then (amountOf (.ofRatio negative num den), p)
        else let (num, den) := extended num den; (.ratio negative num den, p)

def convert (p : Printing) (writer : Writer) (v : Conversion) (written : Octets) : Printing :=
  match v.letter with
  | 's' =>
    let (word, p) := p.next
    p.write (v.pad (match v.precision with
      | some n => word.take n
      | none => word))
  | 'b' =>
    let (word, p) := p.next
    let (text, ended) := unescape writer true (word.length + 1) word
    { p.write (v.pad text) with ended := ended }
  | 'c' =>
    let (word, p) := p.next
    p.write (v.pad [word.headD (Char.ofNat 0)])
  | letter =>
    if "diouxX".toList.contains letter then let (n, p) := p.integer writer; p.write (v.integer n)
    else if "eEfFgG".toList.contains letter then let (x, p) := p.amount writer; p.write (v.amount x)
    else if (letter = 'q' ∨ letter = 'Q') ∧ writer.isRich then
      let (word, p) := p.next
      let cut (text : Octets) : Octets := match v.precision with
        | some n => text.take n
        | none => text
      p.write (v.pad (if letter = 'q' then cut (escapedValue word) else escapedValue (cut word)))
    else
      let text := match writer with
        | .inShell => '%' :: written ++ ": invalid directive".toList
        | .alone => '%' :: written ++ ": invalid conversion specification".toList
        | _ => ['`', letter] ++ "': invalid format character".toList
      { p.complain text with status := if writer = .inShell then 2 else 1, ended := true }

def part (writer : Writer) (p : Printing) : Part → Printing
  | .plain text => p.write text
  | .unfinished written =>
    let text := match writer with
      | .inShell => "missing format character".toList
      | .alone => "%: invalid conversion specification".toList
      | _ => ['`'] ++ written ++ "': missing format character".toList
    { p.complain text with status := if writer = .inShell then 2 else 1, ended := true }
  | .time v format =>
    let (n, p) := if p.left.isEmpty then (-1, p) else p.integer writer
    p.write (v.pad (timeText (if n < 0 then p.clock else n) format))
  | .convert v starWidth starPrecision written =>
    let (width, p) := if starWidth then let (n, p) := p.integer writer; (some n, p) else (v.width, p)
    let (precision, p) :=
      if starPrecision then let (n, p) := p.integer writer; (some n.toNat, p) else (v.precision, p)
    p.convert writer { v with width := width, precision := precision } written

/-- Goes through a format until all arguments are used; a format that uses none is gone through once. -/
def run (writer : Writer) (format : List Part) : Nat → Printing → Printing
  | 0, p => p
  | fuel + 1, p =>
    let p' := format.foldl (fun p x => if p.ended then p else p.part writer x) { p with used := false }
    if p'.ended ∨ p'.left.isEmpty ∨ !p'.used then p' else run writer format fuel p'

end Printing

/-- Arguments written by a format at a time: what is said, each with its stream, and the status. -/
def printf (writer : Writer) (clock : Int) (format : Octets) (words : List Octets) : List (Nat × Octets) × Nat :=
  let text := (unescape writer false (format.length + 1) format).1
  let found := partsFor writer.isRich (text.length + 1) text
  let done := Printing.run writer found (words.length + 1) ⟨[], 0, words, false, false, clock⟩
  (done.said.reverse, done.status)

example : printf .inShell 0 "%s-%03d\\n".toList ["a".toList, "7".toList] =
    ([(1, "a".toList), (1, "-".toList), (1, "007".toList), (1, "\n".toList)], 0) := by decide +kernel

end PassDelta.Machine
