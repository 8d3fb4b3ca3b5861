import PassDelta.Number.Shortest
import PassDelta.Text.Quoted
/-!
# JSON values and their text

Values print on one line or spread over lines with two columns per level. Strings escape only what JSON
requires; doubles are written with the fewest digits, positionally while the leading digit's exponent is
between -5 and 15, and a number that is not finite is written as null.
-/

namespace PassDelta

inductive Json where
  | null
  | bool (b : Bool)
  | int (n : Int)
  | num (x : Binary64)
  | str (s : String)
  | arr (items : List Json)
  | obj (members : List (String × Json))
  deriving Repr

namespace Json

def numberForm : Binary64.Form := ⟨fun e => -5 ≤ e && e ≤ 15, false⟩

def writeNumber (x : Binary64) : String := if x.isFinite then x.writeShortest numberForm else "null"

def escape (c : Char) : List Char :=
  if c = '"' then ['\\', '"']
  else if c = '\\' then ['\\', '\\']
  else if c.toNat = 8 then ['\\', 'b']
  else if c = '\t' then ['\\', 't']
  else if c = '\n' then ['\\', 'n']
  else if c.toNat = 12 then ['\\', 'f']
  else if c = '\r' then ['\\', 'r']
  else if c.toNat < 0x20 then ['\\', 'u'] ++ Text.hex false 4 c.toNat
  else [c]

def writeString (s : String) : List Char := '"' :: s.toList.flatMap escape ++ ['"']

def indent (level : Nat) : List Char := '\n' :: List.replicate (2 * level) ' '

def writeScalar : Json → List Char
  | null => "null".toList
  | bool b => (toString b).toList
  | int n => (toString n).toList
  | num x => (writeNumber x).toList
  | str s => writeString s
  | arr _ => []
  | obj _ => []

mutual

/-- Text spread over lines, for a value that starts on a line of the given level. -/
def spread (level : Nat) : Json → List Char
  | arr [] => ['[', ']']
  | arr (v :: vs) => '[' :: indent (level + 1) ++ spread (level + 1) v ++ spreadItems level vs
  | obj [] => ['\x7b', '\x7d']
  | obj ((k, v) :: ms) =>
    '\x7b' :: indent (level + 1) ++ writeString k ++ [':', ' '] ++ spread (level + 1) v ++ spreadMembers level ms
  | v => writeScalar v

def spreadItems (level : Nat) : List Json → List Char
  | [] => indent level ++ [']']
  | v :: vs => ',' :: indent (level + 1) ++ spread (level + 1) v ++ spreadItems level vs

def spreadMembers (level : Nat) : List (String × Json) → List Char
  | [] => indent level ++ ['\x7d']
  | (k, v) :: ms =>
    ',' :: indent (level + 1) ++ writeString k ++ [':', ' '] ++ spread (level + 1) v ++ spreadMembers level ms

end

mutual

def compact : Json → List Char
  | arr [] => ['[', ']']
  | arr (v :: vs) => '[' :: compact v ++ compactItems vs
  | obj [] => ['\x7b', '\x7d']
  | obj ((k, v) :: ms) => '\x7b' :: writeString k ++ ':' :: compact v ++ compactMembers ms
  | v => writeScalar v

def compactItems : List Json → List Char
  | [] => [']']
  | v :: vs => ',' :: compact v ++ compactItems vs

def compactMembers : List (String × Json) → List Char
  | [] => ['\x7d']
  | (k, v) :: ms => ',' :: writeString k ++ ':' :: compact v ++ compactMembers ms

end

def pretty (v : Json) : String := String.ofList (spread 0 v)

example : pretty (.obj [("a", .arr []), ("b", .arr [.int (-1), .str "\t\""])]) =
    "\x7b\n  \"a\": [],\n  \"b\": [\n    -1,\n    \"\\t\\\"\"\n  ]\n\x7d" := by decide +kernel

end Json
end PassDelta
