import PassDelta.Toml.Item
import PassDelta.Toml.Strings
/-!
# TOML numbers, booleans and moments

Integers are decimal with an optional sign, or hexadecimal, octal or binary without one, and fit 64 bits; floats
are finite unless written as words; dates and times name real ones. Underscores may stand between digits.
-/

namespace PassDelta.Toml

/-- Digits of a class with single underscores between them, without these. -/
def ungroup (isDigit : Char → Bool) : List Char → Option (List Char)
  | [] => none
  | [c] => if isDigit c then some [c] else none
  | c :: d :: rest =>
    if !isDigit c then none
    else if d = '_' then (c :: ·) <$> ungroup isDigit rest
    else (c :: ·) <$> ungroup isDigit (d :: rest)

def numberOf (radix : Nat) (ds : List Char) : Nat :=
  ds.foldl (fun n c => n * radix + (hexValue? c).getD 0) 0

def isDigitOf (radix : Nat) (c : Char) : Bool := (hexValue? c).any (· < radix)

def inRange (n : Int) : Option Int := if fitsSigned 63 n then some n else none

def signed : List Char → Bool × List Char
  | '+' :: rest => (false, rest)
  | '-' :: rest => (true, rest)
  | cs => (false, cs)

def decimal? (cs : List Char) : Option (List Char) := do
  let ds ← ungroup Char.isDigit cs
  if ds.length ≤ 1 ∨ ds.head? ≠ some '0' then return ds else none

def radixInteger? (radix : Nat) (cs : List Char) : Option Int := do
  inRange (numberOf radix (← ungroup (isDigitOf radix) cs))

def integer? : List Char → Option Int
  | '0' :: 'x' :: ds => radixInteger? 16 ds
  | '0' :: 'o' :: ds => radixInteger? 8 ds
  | '0' :: 'b' :: ds => radixInteger? 2 ds
  | cs => do
    let (negative, ds) := signed cs
    let n : Int := numberOf 10 (← decimal? ds)
    inRange (if negative then -n else n)

def cut (p : Char → Bool) (cs : List Char) : List Char × Option (List Char) :=
  (cs.takeWhile (!p ·), match cs.dropWhile (!p ·) with
    | [] => none
    | _ :: rest => some rest)

/-- `digits * 10 ^ exponent`, if it is not too large. Exponents far out of range are not computed. -/
def floatOf? (negative : Bool) (digits : List Char) (exponent : Int) : Option Binary64 :=
  let n := numberOf 10 digits
  let top : Int := exponent + digits.length
  if n = 0 ∨ top < -400 then some (.ofWord negative 0)
  else if 400 < exponent then none
  else
    let x := if 0 ≤ exponent then Binary64.ofRatio negative (n * tenTo exponent.toNat) 1
      else Binary64.ofRatio negative n (tenTo exponent.natAbs)
    if x.isInfinite then none else some x

def float? (cs : List Char) : Option Binary64 := do
  let (negative, body) := signed cs
  if body = ['i', 'n', 'f'] then return .ofWord negative Binary64.infinityWord
  if body = ['n', 'a', 'n'] then return .ofWord negative (Binary64.infinityWord + twoTo 51)
  let (mantissa, power) := cut (fun c => c = 'e' || c = 'E') body
  let (whole, fraction) := cut (· = '.') mantissa
  if fraction.isNone ∧ power.isNone then none
  let whole ← decimal? whole
  let fraction ← (fraction.map (ungroup Char.isDigit)).getD (some [])
  let exponent : Int ← match power with
    | none => some 0
    | some p => do
      let (down, ds) := signed p
      let e : Int := numberOf 10 (← ungroup Char.isDigit ds)
      some (if down then -e else e)
  floatOf? negative (whole ++ fraction) (exponent - fraction.length)

def fixedNumber (n : Nat) (cs : List Char) : Scan Nat :=
  let ds := cs.take n
  if ds.length = n ∧ ds.all Char.isDigit then some (numberOf 10 ds, cs.drop n) else none

def expect (c : Char) : List Char → Option (List Char)
  | d :: rest => if c = d then some rest else none
  | [] => none

def daysIn (year month : Nat) : Nat :=
  if month = 2 then if (year % 4 = 0 ∧ year % 100 ≠ 0) ∨ year % 400 = 0 then 29 else 28
  else if month = 4 ∨ month = 6 ∨ month = 9 ∨ month = 11 then 30
  else 31

def date? (cs : List Char) : Option (List Char) := do
  let (year, cs) ← fixedNumber 4 cs
  let (month, cs) ← fixedNumber 2 (← expect '-' cs)
  let (day, cs) ← fixedNumber 2 (← expect '-' cs)
  if 1 ≤ month ∧ month ≤ 12 ∧ 1 ≤ day ∧ day ≤ daysIn year month then some cs else none

def clock? (cs : List Char) : Option (List Char) := do
  let (hour, cs) ← fixedNumber 2 cs
  let (minute, cs) ← fixedNumber 2 (← expect ':' cs)
  if hour ≤ 23 ∧ minute ≤ 59 then some cs else none

/-- The text after a time of day; seconds may be left out, and may be sixty. -/
def time? (cs : List Char) : Option (List Char) := do
  let cs ← clock? cs
  match cs with
  | ':' :: rest => do
    let (second, rest) ← fixedNumber 2 rest
    if 60 < second then none
    match rest with
    | '.' :: ds => if (ds.takeWhile Char.isDigit).isEmpty then none else some (ds.dropWhile Char.isDigit)
    | _ => some rest
  | _ => some cs

def offset? : List Char → Option (List Char)
  | 'Z' :: rest => some rest
  | 'z' :: rest => some rest
  | '+' :: rest => clock? rest
  | '-' :: rest => clock? rest
  | _ => none

/-- Whether a text is a date, a time, or both, then perhaps with an offset. -/
def isMoment (cs : List Char) : Bool :=
  match date? cs with
  | none => time? cs = some []
  | some [] => true
  | some (c :: rest) =>
    (c = 'T' || c = 't' || c = ' ') &&
      match time? rest with
      | some [] => true
      | some zone => offset? zone = some []
      | none => false

def isWordChar (c : Char) : Bool := c.isAlphanum || c = '_' || c = '+' || c = '-' || c = '.' || c = ':'

def scalarOf? (word : List Char) : Option Scalar :=
  if word = ['t', 'r', 'u', 'e'] then some (.boolean true)
  else if word = ['f', 'a', 'l', 's', 'e'] then some (.boolean false)
  else match integer? word, float? word with
    | some n, _ => some (.integer n)
    | none, some x => some (.float x)
    | none, none => if isMoment word then some (.moment word) else none

/-- An unquoted word. Behind a date one blank may stand before a time. -/
def scanWord (cs : List Char) : List Char × List Char :=
  let word := cs.takeWhile isWordChar
  match date? word, cs.dropWhile isWordChar with
  | some [], ' ' :: d :: rest =>
    if d.isDigit then (word ++ ' ' :: (d :: rest).takeWhile isWordChar, (d :: rest).dropWhile isWordChar)
    else (word, ' ' :: d :: rest)
  | _, rest => (word, rest)

def scanScalar (cs : List Char) : Scan Scalar :=
  if cs.head? = some '"' ∨ cs.head? = some '\'' then
    (scanString cs).map fun (s, rest) => (.text (String.ofList s), rest)
  else
    let (word, rest) := scanWord cs
    (scalarOf? word).map fun v => (v, rest)

example : integer? "1_000".toList = some 1000 ∧ integer? "0x1F".toList = some 31 ∧ integer? "01".toList = none ∧
    integer? "-9223372036854775808".toList = some (-9223372036854775808) := by decide +kernel

end PassDelta.Toml
