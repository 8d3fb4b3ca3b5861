import PassDelta.Machine.Octets
import PassDelta.Number.Power
/-!
# Numerals

Numbers written in bases eight, ten and sixteen, and the range of sixty-four bits.
-/

namespace PassDelta.Machine

def isOctal (c : Char) : Bool := '0' ≤ c && c ≤ '7'

def readOctal (n : Nat) (cs : Octets) : Nat × Octets :=
  let ds := (cs.take n).takeWhile isOctal
  (ds.foldl (fun v c => v * 8 + (c.toNat - 48)) 0, cs.drop ds.length)

def splitSign : Octets → Bool × Octets
  | '-' :: rest => (true, rest)
  | '+' :: rest => (false, rest)
  | rest => (false, rest)

def readInteger? (cs : Octets) : Option Int :=
  let (negative, ds) := splitSign cs
  if ds.isEmpty ∨ !ds.all Char.isDigit then none
  else
    let n : Int := ds.foldl (fun v c => v * 10 + ((c.toNat - 48 : Nat) : Int)) 0
    some (if negative then -n else n)

/-- The octets of a character by its code. Without longer characters one beyond the first codes is written out. -/
def codedOctets (wide : Bool) (n : Nat) : Octets :=
  if n < 128 then [Char.ofNat n]
  else if wide then octetsOfText (String.singleton (Char.ofNat n))
  else
    let ds := (Nat.toDigits 16 n).map Char.toUpper
    let width := if n < 65536 then 4 else 8
    ['\\', if n < 65536 then 'u' else 'U'] ++ List.replicate (width - ds.length) '0' ++ ds

def wrap (n : Int) : Int := n.bmod (twoTo 64)

def clamp (n : Int) : Int := max (-(twoTo 63 : Int)) (min n (twoTo 63 - 1))

def digitValue? (c : Char) : Option Nat :=
  if c.isDigit then some (c.toNat - 48)
  else if 'a' ≤ c ∧ c ≤ 'f' then some (c.toNat - 87)
  else if 'A' ≤ c ∧ c ≤ 'F' then some (c.toNat - 55)
  else none

def takeDigits (base : Nat) (cs : Octets) : Octets × Octets := cs.span fun c => (digitValue? c).any (· < base)

def valueIn (base : Nat) (ds : Octets) : Nat := ds.foldl (fun v c => v * base + (digitValue? c).getD 0) 0

/-- A number without sign: in base sixteen after `0x`, in base eight after `0`, else in base ten. -/
def readNumber : Octets → Option (Nat × Octets)
  | '0' :: x :: c :: rest =>
    if (x = 'x' ∨ x = 'X') ∧ (digitValue? c).isSome then
      let (ds, r) := takeDigits 16 (c :: rest)
      some (valueIn 16 ds, r)
    else
      let (ds, r) := takeDigits 8 (x :: c :: rest)
      some (valueIn 8 ds, r)
  | c :: rest =>
    if c.isDigit then
      let (ds, r) := takeDigits (if c = '0' then 8 else 10) (c :: rest)
      some (valueIn (if c = '0' then 8 else 10) ds, r)
    else none
  | [] => none

def bits (n : Int) : Nat := (n % (twoTo 64 : Int)).toNat

def isBlankOctet (c : Char) : Bool := c = ' ' || c = '\t' || c = '\n'

def decimalNumber? (text : Octets) : Option Int :=
  let body := ((text.dropWhile isBlankOctet).reverse.dropWhile isBlankOctet).reverse
  (readInteger? body).filter fun n => clamp n = n

/-- The number of sixty-four bits that a whole text is, with blanks around it. An empty text is zero. -/
def wholeNumber? (text : Octets) : Option Int :=
  let body := text.dropWhile isBlankOctet
  if body.isEmpty then some 0
  else
    let (negative, ds) := splitSign body
    match readNumber ds with
    | some (n, r) =>
      let value : Int := if negative then -n else n
      if r.all isBlankOctet ∧ clamp value = value then some value else none
    | none => none

end PassDelta.Machine
