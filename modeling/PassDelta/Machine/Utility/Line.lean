import PassDelta.Machine.Utility.Act
import PassDelta.Text.Utf8
/-!
# Lines

Texts as lines, numbers with suffixes, and the files that programs on lines are called with.
-/

namespace PassDelta.Machine

def fullLinesBy (mark : Char) (cs : Octets) : List Octets :=
  let lines := cs.splitOn mark
  lines.dropLast.map (· ++ [mark]) ++ (lines.getLast?.filter (· ≠ [])).toList

def fullLines (cs : Octets) : List Octets := fullLinesBy '\n' cs

def chompBy (mark : Char) (line : Octets) : Octets := if line.getLast? = some mark then line.dropLast else line

def chomp (line : Octets) : Octets := chompBy '\n' line

def plainLinesBy (mark : Char) (cs : Octets) : List Octets := (fullLinesBy mark cs).map (chompBy mark)

def plainLines (cs : Octets) : List Octets := plainLinesBy '\n' cs

def unlinesOctets (lines : List Octets) : Octets := lines.flatMap (· ++ ['\n'])

def leftFill (width : Nat) (c : Char) (text : Octets) : Octets := List.replicate (width - text.length) c ++ text

def rightFill (width : Nat) (c : Char) (text : Octets) : Octets := text ++ List.replicate (width - text.length) c

def digitsOf (n : Nat) : Octets := Nat.toDigits 10 n

def isSpaceOctet (c : Char) : Bool := c = ' ' || (9 ≤ c.toNat && c.toNat ≤ 13)

def isGap (c : Char) : Bool := c = ' ' || c = '\t'

def wordsOf (cs : Octets) : List Octets := (cs.splitOnP isSpaceOctet).filter (· ≠ [])

/-- How many a suffix stands for: powers of a thousand or of 1024, blocks, or words. -/
def scale? (suffix : Octets) : Option Nat :=
  let power (c : Char) : Option Nat :=
    if c = 'k' ∨ c = 'm' then some (if c = 'k' then 1 else 2)
    else ("KMGTPEZYRQ".toList.idxOf? c).map (· + 1)
  match suffix with
  | [] => some 1
  | ['b'] => some 512
  | [c] => (power c).map (Nat.pow 1024)
  | [c, 'B'] => (power c).map (Nat.pow 1000)
  | [c, 'i', 'B'] => (power c).map (Nat.pow 1024)
  | _ => none

def amount? (word : Octets) : Option Nat :=
  let body := match word.dropWhile isSpaceOctet with
    | '+' :: rest => rest
    | rest => rest
  let ds := body.takeWhile Char.isDigit
  if ds.isEmpty then none else (scale? (body.drop ds.length)).map (valueIn 10 ds * ·)

def wordLimit : Nat := twoTo 64 - 1

namespace Utility

open Act

def filesOf (c : Chosen) : List Octets := if c.operands.isEmpty then [['-']] else c.operands

def endMark (c : Chosen) : Char := if c.has 'z' then Char.ofNat 0 else '\n'

def texts (operands : List Octets) (complaint : Octets → Octets) (status : Nat) : Act (List Octets) := do
  let files := if operands.isEmpty then [['-']] else operands
  let mut found := []
  for file in files do
    if let some text ← fetchOr status complaint file then found := found ++ [text]
  return found

def store (file : Octets) (behind : Bool) (text : Octets) : Act (Except IoError Unit) := do
  let w ← getWorld
  match ← entry file with
  | .ok (.device (.stream n)) =>
    put n text
    return .ok ()
  | found =>
    let old := match found with
      | .ok (.file contents _) => if behind then contents else []
      | _ => []
    match w.tree.writeFile (← place) ⟨bytesOf file⟩ (old ++ bytesOf text) (granted (← read).mask 0o666) with
    | .ok tree =>
      setWorld { w with tree := tree }
      return .ok ()
    | .error e => return .error e

def fileFault (file : Octets) (e : IoError) : Octets := shown file ++ ": ".toList ++ octetsOfText e.words

end Utility
end PassDelta.Machine
