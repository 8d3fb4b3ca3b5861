import PassDelta.Path
/-!
# The grammar of the command line

The commands with their operands and switches, as data that the reader, the help texts and the completion scripts
share.
-/

namespace PassDelta.CommandLine

inductive Setting where
  | compiler
  | outputDir
  | timeout
  | previewLimit
  | config
  | json
  | force
  | help
  | version
  deriving DecidableEq, Repr

/-- A switch, with the placeholder of its value if it takes one. -/
structure Switch where
  setting : Setting
  short : Option Char
  long : String
  value : Option String
  about : String
  deriving DecidableEq, Repr

structure Operand where
  placeholder : String
  repeated : Bool
  required : Bool
  choices : List String
  about : String
  deriving DecidableEq, Repr

structure Grammar where
  name : String
  about : String
  operand : Option Operand
  switches : List Switch
  deriving DecidableEq, Repr

def program : String := "ir-compare"

def programAbout : String := "Optimized vs unoptimized compiler IR comparison"

def version : String := "0.1.0"

def commonSwitches : List Switch := [
  ⟨.help, some 'h', "help", none, "Print help"⟩,
  ⟨.version, some 'V', "version", none, "Print version"⟩]

def compareGrammar : Grammar where
  name := "compare"
  about := "Compare optimized and unoptimized IR for a list of modules"
  operand := some ⟨"MODULE", true, false, [], "Modules to compare (defaults to `modules` in .ir-compare.toml)"⟩
  switches := [
    ⟨.compiler, some 'c', "compiler", some "COMPILER", "Compiler executable"⟩,
    ⟨.outputDir, some 'o', "output-dir", some "OUTPUT_DIR", "Directory receiving the IR artifacts"⟩,
    ⟨.timeout, some 't', "timeout", some "SECS", "Kill a compiler run after this many seconds"⟩,
    ⟨.previewLimit, some 'p', "preview-limit", some "N", "Characters of IR shown per preview"⟩,
    ⟨.config, none, "config", some "FILE", "Config file to use instead of ./.ir-compare.toml"⟩,
    ⟨.json, none, "json", none, "Output as JSON"⟩] ++ commonSwitches

def initGrammar : Grammar where
  name := "init"
  about := "Write a starter .ir-compare.toml"
  operand := none
  switches := ⟨.force, some 'f', "force", none, "Overwrite an existing config file"⟩ :: commonSwitches

/-- Shells that completion scripts can be written for. -/
inductive ShellKind where
  | bash
  | elvish
  | fish
  | powershell
  | zsh
  deriving DecidableEq, Repr

def shellNames : List (String × ShellKind) := [
  ("bash", .bash), ("elvish", .elvish), ("fish", .fish), ("powershell", .powershell), ("zsh", .zsh)]

def completionsGrammar : Grammar where
  name := "completions"
  about := "Generate shell completions"
  operand := some ⟨"SHELL", false, true, shellNames.map Prod.fst, "Shell to generate completions for"⟩
  switches := commonSwitches

def helpGrammar : Grammar where
  name := "help"
  about := "Print this message or the help of the given subcommand(s)"
  operand := some ⟨"COMMAND", true, false, [], "Print help for the subcommand(s)"⟩
  switches := []

def grammars : List Grammar := [compareGrammar, initGrammar, completionsGrammar]

end PassDelta.CommandLine
