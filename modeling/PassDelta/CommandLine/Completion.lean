import PassDelta.CommandLine.Grammar
/-!
# Completion scripts

Scripts that teach a shell the commands and their switches. Each shell gets the same words in its own form.
-/

namespace PassDelta.CommandLine

def unlines (lines : List String) : String := String.join (lines.map (· ++ "\n"))

def Switch.spellings (s : Switch) : List String :=
  (s.short.map fun c => "-" ++ String.ofList [c]).toList ++ ["--" ++ s.long]

/-- The whole program as one more command, whose words are the commands. -/
def rootGrammar : Grammar := ⟨program, programAbout, none, commonSwitches⟩

def commandNames : List String := (grammars ++ [helpGrammar]).map Grammar.name

def commandTerms : List (String × String) := (grammars ++ [helpGrammar]).map fun g => (g.name, g.about)

def underscored (name : String) (mark : String) : String :=
  mark.intercalate ((name.splitOn "-"))

def Grammar.words (g : Grammar) : List String :=
  g.switches.flatMap Switch.spellings ++ (g.operand.map Operand.choices).getD []

namespace Completion

def bashSwitch (s : Switch) : List String :=
  let files (spelling : String) : List String := [
    "                " ++ spelling ++ ")",
    "                    COMPREPLY=($(compgen -f \"$\x7bcur\x7d\"))",
    "                    return 0",
    "                    ;;"]
  if s.value.isSome then s.spellings.reverse.flatMap files else []

def bashCase (label : String) (depth : Nat) (words : List String) (switches : List Switch) : List String := [
  "        " ++ label ++ ")",
  "            opts=\"" ++ " ".intercalate words ++ "\"",
  "            if [[ $\x7bcur\x7d == -* || $\x7bCOMP_CWORD\x7d -eq " ++ toString depth ++ " ]] ; then",
  "                COMPREPLY=( $(compgen -W \"$\x7bopts\x7d\" -- \"$\x7bcur\x7d\") )",
  "                return 0",
  "            fi",
  "            case \"$\x7bprev\x7d\" in"] ++ switches.flatMap bashSwitch ++ [
  "                *)",
  "                    COMPREPLY=()",
  "                    ;;",
  "            esac",
  "            COMPREPLY=( $(compgen -W \"$\x7bopts\x7d\" -- \"$\x7bcur\x7d\") )",
  "            return 0",
  "            ;;"]

/-- The words after a command, short switches before long ones, and those before operands. -/
def bashWords (switches : List Switch) (operand : Option Operand) : List String :=
  let operands := operand.map fun o =>
    if o.choices.isEmpty then ["[" ++ o.placeholder ++ "]" ++ if o.repeated then "..." else ""] else o.choices
  (switches.filterMap fun s => s.short.map fun c => "-" ++ String.ofList [c]) ++ switches.map (fun s => "--" ++ s.long) ++
    operands.getD []

def bash : String :=
  let root := underscored program "__"
  let function := "_" ++ root
  let mark := "__subcmd__"
  let labelled := grammars.mergeSort fun a b => a.name ≤ b.name
  let step (parent name : String) : List String := [
    "            " ++ parent ++ "," ++ name ++ ")",
    "                cmd=\"" ++ parent ++ mark ++ name ++ "\"",
    "                ;;"]
  let names := (labelled.map Grammar.name ++ ["help"]).mergeSort fun a b => a ≤ b
  let help := root ++ mark ++ "help"
  let detail (name : String) : List String :=
    match grammars.find? (·.name = name) with
    | some g => bashCase (root ++ mark ++ name) 2 (bashWords g.switches g.operand) g.switches
    | none => bashCase help 2 commandNames [] ++
        names.flatMap fun inner => bashCase (help ++ mark ++ inner) 3 [] []
  unlines <| [
    function ++ "() \x7b",
    "    local i cur prev opts cmd",
    "    COMPREPLY=()",
    "    if [[ \"$\x7bBASH_VERSINFO[0]\x7d\" -ge 4 ]]; then",
    "        cur=\"$2\"",
    "    else",
    "        cur=\"$\x7bCOMP_WORDS[COMP_CWORD]\x7d\"",
    "    fi",
    "    prev=\"$3\"",
    "    cmd=\"\"",
    "    opts=\"\"",
    "",
    "    for i in \"$\x7bCOMP_WORDS[@]:0:COMP_CWORD\x7d\"",
    "    do",
    "        case \"$\x7bcmd\x7d,$\x7bi\x7d\" in",
    "            \",$1\")",
    "                cmd=\"" ++ root ++ "\"",
    "                ;;"] ++
    names.flatMap (step root) ++ names.flatMap (step help) ++ [
    "            *)",
    "                ;;",
    "        esac",
    "    done",
    "",
    "    case \"$\x7bcmd\x7d\" in"] ++
    bashCase root 1 (bashWords commonSwitches none ++ commandNames) [] ++ names.flatMap detail ++ [
    "    esac",
    "\x7d",
    "",
    "if [[ \"$\x7bBASH_VERSINFO[0]\x7d\" -eq 4 && \"$\x7bBASH_VERSINFO[1]\x7d\" -ge 4 || " ++
      "\"$\x7bBASH_VERSINFO[0]\x7d\" -gt 4 ]]; then",
    "    complete -F " ++ function ++ " -o nosort -o bashdefault -o default " ++ program,
    "else",
    "    complete -F " ++ function ++ " -o bashdefault -o default " ++ program,
    "fi"]

def zshSwitch (s : Switch) : List String :=
  match s.value with
  | some v =>
    (s.short.map fun c => "'-" ++ String.ofList [c] ++ "+[" ++ s.about ++ "]:" ++ v ++ ":_default' \\").toList ++
      ["'--" ++ s.long ++ "=[" ++ s.about ++ "]:" ++ v ++ ":_default' \\"]
  | none => s.spellings.map fun name => "'" ++ name ++ "[" ++ s.about ++ "]' \\"

def zshOperand (o : Operand) : String :=
  let kind := if o.choices.isEmpty then "_files" else "(" ++ " ".intercalate o.choices ++ ")"
  (if o.repeated then "'*::" else "':") ++ o.placeholder ++ " -- " ++ o.about ++ ":" ++ kind ++ "' \\"

def zsh : String :=
  let opening := "_arguments \"$\x7b_arguments_options[@]\x7d\" : \\"
  unlines <| [
    "#compdef " ++ program,
    "",
    "autoload -U is-at-least",
    "",
    "_" ++ program ++ "() \x7b",
    "    typeset -A opt_args",
    "    typeset -a _arguments_options",
    "    local ret=1",
    "",
    "    if is-at-least 5.2; then",
    "        _arguments_options=(-s -S -C)",
    "    else",
    "        _arguments_options=(-s -C)",
    "    fi",
    "",
    "    local context curcontext=\"$curcontext\" state line",
    "    " ++ opening] ++
    rootGrammar.switches.flatMap zshSwitch ++ [
    "\":: :_" ++ program ++ "_commands\" \\",
    "\"*::: :->" ++ program ++ "\" \\",
    "&& ret=0",
    "    case $state in",
    "    (" ++ program ++ ")",
    "        words=($line[1] \"$\x7bwords[@]\x7d\")",
    "        (( CURRENT += 1 ))",
    "        curcontext=\"$\x7bcurcontext%:*:*\x7d:" ++ program ++ "-command-$line[1]:\"",
    "        case $line[1] in"] ++
    grammars.flatMap (fun g => ["            (" ++ g.name ++ ")", opening] ++ g.switches.flatMap zshSwitch ++
      (g.operand.map zshOperand).toList ++ ["&& ret=0", ";;"]) ++ [
    "            (" ++ helpGrammar.name ++ ")",
    opening,
    "\":: :_" ++ program ++ "_commands\" \\",
    "&& ret=0",
    ";;",
    "        esac",
    "    ;;",
    "esac",
    "\x7d",
    "",
    "(( $+functions[_" ++ program ++ "_commands] )) ||",
    "_" ++ program ++ "_commands() \x7b",
    "    local commands; commands=("] ++
    commandTerms.map (fun (name, about) => "'" ++ name ++ ":" ++ about ++ "' \\") ++ [
    "    )",
    "    _describe -t commands '" ++ program ++ " commands' commands \"$@\"",
    "\x7d",
    "",
    "if [ \"$funcstack[1]\" = \"_" ++ program ++ "\" ]; then",
    "    _" ++ program ++ " \"$@\"",
    "else",
    "    compdef _" ++ program ++ " " ++ program,
    "fi"]

def fishSwitch (condition : String) (s : Switch) : String :=
  "complete -c " ++ program ++ " -n \"" ++ condition ++ "\"" ++
    (s.short.map fun c => " -s " ++ String.ofList [c]).getD "" ++ " -l " ++ s.long ++ " -d '" ++ s.about ++ "'" ++
    (if s.value.isSome then " -r" else "")

def fish : String :=
  let stem := "__fish_" ++ underscored program "_"
  let needs := stem ++ "_needs_command"
  let chosen (g : Grammar) : String := stem ++ "_using_subcommand " ++ g.name
  unlines <| [
    "# Print an optspec for argparse to handle cmd's options that are independent of any subcommand.",
    "function " ++ stem ++ "_global_optspecs",
    "\tstring join \\n h/help V/version",
    "end",
    "",
    "function " ++ needs,
    "\t# Figure out if the current invocation already has a command.",
    "\tset -l cmd (commandline -opc)",
    "\tset -e cmd[1]",
    "\targparse -s (" ++ stem ++ "_global_optspecs) -- $cmd 2>/dev/null",
    "\tor return",
    "\tif set -q argv[1]",
    "\t\t# Also print the command, so this can be used to figure out what it is.",
    "\t\techo $argv[1]",
    "\t\treturn 1",
    "\tend",
    "\treturn 0",
    "end",
    "",
    "function " ++ stem ++ "_using_subcommand",
    "\tset -l cmd (" ++ needs ++ ")",
    "\ttest -z \"$cmd\"",
    "\tand return 1",
    "\tcontains -- $cmd[1] $argv",
    "end",
    ""] ++
    commonSwitches.map (fishSwitch needs) ++
    commandTerms.map (fun (name, about) =>
      "complete -c " ++ program ++ " -n \"" ++ needs ++ "\" -f -a \"" ++ name ++ "\" -d '" ++ about ++ "'") ++
    grammars.flatMap (fun g => g.switches.map (fishSwitch (chosen g))) ++
    commandTerms.map (fun (name, about) =>
      "complete -c " ++ program ++ " -n \"" ++ chosen helpGrammar ++ "\" -f -a \"" ++ name ++ "\" -d '" ++ about ++ "'")

def powershellLine (kind name about : String) : String :=
  "            [CompletionResult]::new('" ++ name ++ "', '" ++ name ++ "', [CompletionResultType]::" ++ kind ++
    ", '" ++ about ++ "')"

def powershellCase (label : String) (lines : List String) : List String :=
  ["        '" ++ label ++ "' \x7b"] ++ lines ++ ["            break", "        \x7d"]

def powershellSwitches (g : Grammar) : List String :=
  g.switches.flatMap fun s => s.spellings.map fun name => powershellLine "ParameterName" name s.about

def powershell : String :=
  let commands := commandTerms.map fun (name, about) => powershellLine "ParameterValue" name about
  unlines <| [
    "",
    "using namespace System.Management.Automation",
    "using namespace System.Management.Automation.Language",
    "",
    "Register-ArgumentCompleter -Native -CommandName '" ++ program ++ "' -ScriptBlock \x7b",
    "    param($wordToComplete, $commandAst, $cursorPosition)",
    "",
    "    $commandElements = $commandAst.CommandElements",
    "    $command = @(",
    "        '" ++ program ++ "'",
    "        for ($i = 1; $i -lt $commandElements.Count; $i++) \x7b",
    "            $element = $commandElements[$i]",
    "            if ($element -isnot [StringConstantExpressionAst] -or",
    "                $element.StringConstantType -ne [StringConstantType]::BareWord -or",
    "                $element.Value.StartsWith('-') -or",
    "                $element.Value -eq $wordToComplete) \x7b",
    "                break",
    "        \x7d",
    "        $element.Value",
    "    \x7d) -join ';'",
    "",
    "    $completions = @(switch ($command) \x7b"] ++
    powershellCase program (powershellSwitches rootGrammar ++ commands) ++
    grammars.flatMap (fun g => powershellCase (program ++ ";" ++ g.name) (powershellSwitches g)) ++
    powershellCase (program ++ ";" ++ helpGrammar.name) commands ++ [
    "    \x7d)",
    "",
    "    $completions.Where\x7b $_.CompletionText -like \"$wordToComplete*\" \x7d |",
    "        Sort-Object -Property ListItemText",
    "\x7d"]

def elvishCase (label : String) (lines : List String) : List String :=
  ["        &'" ++ label ++ "'= \x7b"] ++ lines ++ ["        \x7d"]

def elvishSwitches (g : Grammar) : List String :=
  g.switches.flatMap fun s => s.spellings.map fun name => "            cand " ++ name ++ " '" ++ s.about ++ "'"

def elvish : String :=
  let commands := commandTerms.map fun (name, about) => "            cand " ++ name ++ " '" ++ about ++ "'"
  unlines <| [
    "",
    "use builtin;",
    "use str;",
    "",
    "set edit:completion:arg-completer[" ++ program ++ "] = \x7b|@words|",
    "    fn spaces \x7b|n|",
    "        builtin:repeat $n ' ' | str:join ''",
    "    \x7d",
    "    fn cand \x7b|text desc|",
    "        edit:complex-candidate $text &display=$text' '(spaces (- 14 (wcswidth $text)))$desc",
    "    \x7d",
    "    var command = '" ++ program ++ "'",
    "    for word $words[1..-1] \x7b",
    "        if (str:has-prefix $word '-') \x7b",
    "            break",
    "        \x7d",
    "        set command = $command';'$word",
    "    \x7d",
    "    var completions = ["] ++
    elvishCase program (elvishSwitches rootGrammar ++ commands) ++
    grammars.flatMap (fun g => elvishCase (program ++ ";" ++ g.name) (elvishSwitches g)) ++
    elvishCase (program ++ ";" ++ helpGrammar.name) commands ++ [
    "    ]",
    "    $completions[$command]",
    "\x7d"]

def script : ShellKind → String
  | .bash => bash
  | .elvish => elvish
  | .fish => fish
  | .powershell => powershell
  | .zsh => zsh

end Completion
end PassDelta.CommandLine
