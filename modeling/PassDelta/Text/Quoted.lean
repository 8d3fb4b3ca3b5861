import PassDelta.Text.Utf8
import PassDelta.Text.Invisible
/-!
# Quoted text

Names and arguments in log lines and messages stand between double quotes, with everything that would not
show as itself escaped. A byte that is no text is shown in hexadecimal.
-/

namespace PassDelta.Text

/-- The digits of a number in base sixteen, at least `width` of them. -/
def hex (upper : Bool) (width n : Nat) : List Char :=
  let ds := (Nat.toDigits 16 n).map fun c => if upper then c.toUpper else c
  List.replicate (width - ds.length) '0' ++ ds

def escapeQuoted (c : Char) : List Char :=
  if c = '"' then ['\\', '"']
  else if c = '\\' then ['\\', '\\']
  else if c = '\t' then ['\\', 't']
  else if c = '\n' then ['\\', 'n']
  else if c = '\r' then ['\\', 'r']
  else if c.toNat = 0 then ['\\', '0']
  else if isInvisible c then ['\\', 'u', '\x7b'] ++ hex false 1 c.toNat ++ ['\x7d']
  else [c]

def Piece.quote : Piece → List Char
  | .scalar c => escapeQuoted c
  | .invalid bytes => bytes.flatMap fun b => ['\\', 'x'] ++ hex true 2 b.toNat

def quoteText (s : String) : String := String.ofList (['"'] ++ s.toList.flatMap escapeQuoted ++ ['"'])

def quoteBytes (bytes : Bytes) : String := String.ofList (['"'] ++ (pieces bytes).flatMap Piece.quote ++ ['"'])

def quoteList (items : List Bytes) : String := "[" ++ ", ".intercalate (items.map quoteBytes) ++ "]"

example : quoteBytes [0x61, 0x22, 0xFF, 0x0A] = "\"a\\\"\\xFF\\n\"" := by decide +kernel

end PassDelta.Text
