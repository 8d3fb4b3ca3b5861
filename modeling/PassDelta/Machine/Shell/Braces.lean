import PassDelta.Machine.Shell.Command
/-!
# Words with alternatives

In the rich shell a word with alternatives between braces stands for several words, and so does one with a row of
numbers or letters.
-/

namespace PassDelta.Machine.Shell.Braces

inductive Part where
  | octet (c : Char)
  | piece (p : Piece)

def ofWord (w : Word) : List Part :=
  w.flatMap fun p => match p with
    | .text false cs => cs.map Part.octet
    | p => [.piece p]

def frontOctets : List Part → Octets × List Part
  | .octet c :: rest => let (cs, more) := frontOctets rest; (c :: cs, more)
  | rest => ([], rest)

def toWord : Nat → List Part → Word
  | 0, _ => []
  | _ + 1, [] => []
  | fuel + 1, .piece p :: rest => p :: toWord fuel rest
  | fuel + 1, parts => let (cs, rest) := frontOctets parts; .text false cs :: toWord fuel rest

/-- The alternatives up to the brace that closes them, the part that is read coming last, and what follows. -/
def alternatives : Nat → List Part → List Part → Option (List (List Part) × List Part)
  | _, _, [] => none
  | depth, read, .octet c :: rest =>
    if c = '\x7d' ∧ depth = 0 then some ([read.reverse], rest)
    else if c = ',' ∧ depth = 0 then (alternatives 0 [] rest).map fun (found, after) => (read.reverse :: found, after)
    else
      let depth := if c = '\x7b' then depth + 1 else if c = '\x7d' then depth - 1 else depth
      alternatives depth (.octet c :: read) rest
  | depth, read, p :: rest => alternatives depth (p :: read) rest

def numbers (first last : Int) (by_ : Nat) (width : Nat) : List Octets :=
  let count := (last - first).natAbs / by_ + 1
  (List.range count).map fun i =>
    let n : Int := if first ≤ last then first + (i * by_ : Nat) else first - (i * by_ : Nat)
    let ds := Nat.toDigits 10 n.natAbs
    let sign : Octets := if n < 0 then ['-'] else []
    sign ++ List.replicate (width - sign.length - ds.length) '0' ++ ds

def isFilled (cs : Octets) : Bool :=
  match (splitSign cs).2 with
  | '0' :: _ :: _ => true
  | _ => false

def maxRow : Nat := 1000000

def row? (cs : Octets) : Option (List Octets) :=
  let parts := splitDots cs.length cs
  let step? : Option Nat := match parts with
    | [_, _] => some 1
    | [_, _, by_] => (readInteger? by_).map fun n => max 1 n.natAbs
    | _ => none
  match parts, step? with
  | a :: b :: _, some by_ =>
    match readInteger? a, readInteger? b with
    | some first, some last =>
      if maxRow < (last - first).natAbs / by_ then none
      else
        let width := if isFilled a ∨ isFilled b then max a.length b.length else 0
        some (numbers first last by_ width)
    | _, _ =>
      match a, b with
      | [x], [y] =>
        if x.isAlpha ∧ y.isAlpha then
          some ((numbersOf x.toNat y.toNat by_).map fun n => [Char.ofNat n])
        else none
      | _, _ => none
  | _, _ => none
where
  splitDots : Nat → Octets → List Octets
    | 0, cs => [cs]
    | _ + 1, [] => [[]]
    | fuel + 1, '.' :: '.' :: rest => [] :: splitDots fuel rest
    | fuel + 1, c :: rest =>
      match splitDots fuel rest with
      | first :: more => (c :: first) :: more
      | [] => [[c]]
  numbersOf (first last by_ : Nat) : List Nat :=
    let count := (if first ≤ last then last - first else first - last) / by_ + 1
    (List.range count).map fun i => if first ≤ last then first + i * by_ else first - i * by_

def octets? (ps : List Part) : Option Octets :=
  ps.mapM fun p => match p with
    | .octet c => some c
    | .piece _ => none

def spread : Nat → List Part → List (List Part)
  | 0, parts => [parts]
  | _ + 1, [] => [[]]
  | fuel + 1, .octet '\x7b' :: rest =>
    let plain : List (List Part) := (spread fuel rest).map fun w => .octet '\x7b' :: w
    match alternatives 0 [] rest with
    | none => plain
    | some ([only], after) =>
      match (octets? only).bind row? with
      | some words =>
        let ends := spread fuel after
        words.flatMap fun w => ends.map fun e => w.map Part.octet ++ e
      | none => plain
    | some (found, after) =>
      let ends := spread fuel after
      (found.flatMap (spread fuel)).flatMap fun w => ends.map fun e => w ++ e
  | fuel + 1, p :: rest => (spread fuel rest).map fun w => p :: w

end PassDelta.Machine.Shell.Braces

namespace PassDelta.Machine.Shell

def Braces.words (w : Word) : List Word :=
  if !(w.any fun p => match p with
      | .text false cs => cs.contains '\x7b'
      | _ => false) then [w]
  else
    let parts := Braces.ofWord w
    (Braces.spread (2 * parts.length + 2) parts).map fun ps => Braces.toWord (ps.length + 1) ps

end PassDelta.Machine.Shell
