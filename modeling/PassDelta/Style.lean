/-!
# Styles

Console text is painted with terminal escapes and marked with symbols, each of which a plain terminal can do
without. Colour is written before weight, and one reset ends both.
-/

namespace PassDelta

inductive Colour where
  | red
  | green
  | yellow
  | cyan
  deriving DecidableEq, Repr

inductive Weight where
  | bold
  | dim
  deriving DecidableEq, Repr

/-- What the terminal shows: colours and weights, and symbols outside ASCII. -/
structure Style where
  coloured : Bool
  symbols : Bool
  deriving DecidableEq, Repr

namespace Style

/-- What a terminal of a locale shows; colours only if they are asked for. -/
def ofLocale (locale : String) (coloured : Bool) : Style :=
  ⟨coloured, (locale.map Char.toUpper).endsWith "UTF-8"⟩

def escape (code : String) : String := "\x1b[" ++ code ++ "m"

def colourCode : Colour → String
  | .red => "31"
  | .green => "32"
  | .yellow => "33"
  | .cyan => "36"

def weightCode : Weight → String
  | .bold => "1"
  | .dim => "2"

def paint (s : Style) (colour : Option Colour) (weight : Option Weight) (text : String) : String :=
  if s.coloured then
    (colour.map fun c => escape (colourCode c)).getD "" ++
      (weight.map fun w => escape (weightCode w)).getD "" ++ text ++ escape "0"
  else text

def bold (s : Style) (colour : Colour) (text : String) : String := s.paint (some colour) (some .bold) text
def strong (s : Style) (text : String) : String := s.paint none (some .bold) text
def faint (s : Style) (text : String) : String := s.paint none (some .dim) text
def tint (s : Style) (colour : Colour) (text : String) : String := s.paint (some colour) none text

def mark (s : Style) (symbol plain : String) : String := if s.symbols then symbol else plain

def rocket (s : Style) : String := s.mark "🚀" ">"
def check (s : Style) : String := s.mark "✅" "[OK]"
def cross (s : Style) : String := s.mark "❌" "[FAIL]"
def sparkles (s : Style) : String := s.mark "✨" "*"
def chart (s : Style) : String := s.mark "📊" "~"
def lens (s : Style) : String := s.mark "🔍" ">>"
def warning (s : Style) : String := s.mark "⚠️" "!"

end Style
end PassDelta
