import PassDelta.CommandLine.Grammar
import PassDelta.Style
/-!
# Help texts

Help is laid out in columns: what a command is for, how it is called, then its operands and switches, each with a
word on what it does. Terms are padded to the longest of their list.
-/

namespace PassDelta.CommandLine

/-- How help is painted: headings bold and underlined, names bold. -/
structure HelpStyle where
  coloured : Bool

namespace HelpStyle

def heading (s : HelpStyle) (text : String) : String :=
  if s.coloured then "\x1b[1m\x1b[4m" ++ text ++ "\x1b[0m" else text

def name (s : HelpStyle) (text : String) : String := if s.coloured then "\x1b[1m" ++ text ++ "\x1b[0m" else text

end HelpStyle

/-- A term of a list: its painted text, how wide it shows, and what it means. -/
structure Term where
  text : String
  width : Nat
  about : String

def Term.plain (text about : String) : Term := ⟨text, text.length, about⟩

def spaces (n : Nat) : String := String.ofList (List.replicate n ' ')

def columns (terms : List Term) : String :=
  let width := (terms.map Term.width).foldl max 0
  String.join (terms.map fun t => "  " ++ t.text ++ spaces (width - t.width + 2) ++ t.about ++ "\n")

def Operand.usage (o : Operand) : String :=
  (if o.required then "<" ++ o.placeholder ++ ">" else "[" ++ o.placeholder ++ "]") ++
    (if o.repeated then "..." else "")

def Operand.term (o : Operand) : Term :=
  let choices := if o.choices.isEmpty then "" else " [possible values: " ++ ", ".intercalate o.choices ++ "]"
  .plain o.usage (o.about ++ choices)

def Switch.term (style : HelpStyle) (s : Switch) : Term :=
  let value := (s.value.map fun v => " <" ++ v ++ ">").getD ""
  let short := s.short.map fun c => "-" ++ String.ofList [c]
  let long := "--" ++ s.long
  { text := (short.map fun c => style.name c ++ ", ").getD "    " ++ style.name long ++ value
    width := 4 + long.length + value.length
    about := s.about }

/-- Whether a command has switches beyond those that every command has. -/
def Grammar.hasOwnSwitches (g : Grammar) : Bool := g.switches.any fun s => !commonSwitches.contains s

def usageLine (style : HelpStyle) (words : String) (rest : List String) : String :=
  style.heading "Usage:" ++ " " ++ style.name words ++ String.join (rest.map (" " ++ ·)) ++ "\n"

def Grammar.help (style : HelpStyle) (g : Grammar) : String :=
  let block (title : String) (terms : List Term) : String :=
    if terms.isEmpty then "" else "\n" ++ style.heading (title ++ ":") ++ "\n" ++ columns terms
  g.about ++ "\n\n" ++
    usageLine style (program ++ " " ++ g.name)
      ((if g.hasOwnSwitches then ["[OPTIONS]"] else []) ++ (g.operand.map Operand.usage).toList) ++
    block "Arguments" (g.operand.map Operand.term).toList ++
    block "Options" (g.switches.map (Switch.term style))

def programHelp (style : HelpStyle) : String :=
  let term (g : Grammar) : Term := ⟨style.name g.name, g.name.length, g.about⟩
  let terms := (grammars ++ [helpGrammar]).map term
  programAbout ++ "\n\n" ++ usageLine style program ["[COMMAND]"] ++
    "\n" ++ style.heading "Commands:" ++ "\n" ++ columns terms ++
    "\n" ++ style.heading "Options:" ++ "\n" ++ columns (commonSwitches.map (Switch.term style))

/-- What is said about the version of the program or of one of its commands. -/
def versionLine (g : Option Grammar) : String :=
  program ++ (g.map fun g => "-" ++ g.name).getD "" ++ " " ++ version ++ "\n"

def overview : String :=
  program ++ " v" ++ version ++ "\n" ++ programAbout ++ "\n\n" ++
    "Usage: " ++ program ++ " <COMMAND>\n\n" ++
    "Commands:\n" ++
    "  compare      Compare optimized and unoptimized IR\n" ++
    "  init         Write a starter .ir-compare.toml\n" ++
    "  completions  Generate shell completions\n" ++
    "\nRun '" ++ program ++ " <COMMAND> --help' for more information on a command.\n"

def misuse : String :=
  "error: unexpected or missing argument\n\nUsage: " ++ program ++ " [COMMAND]\n\nFor more information, try '--help'.\n"

end PassDelta.CommandLine
