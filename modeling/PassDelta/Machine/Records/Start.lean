import PassDelta.Machine.Records.Action
import PassDelta.Machine.Records.Reader
/-!
# Starting a program over records

The words it is called with, the rules before, for and after the records, and what is told of a program that cannot
go on.
-/

namespace PassDelta.Machine.Records

/-- How a program is called: values for variables in the order they are set, files with its text, and other words. -/
structure Started where
  assigned : List (String × Octets)
  files : List Octets
  rest : List Octets
  asksHelp : Bool
  deriving DecidableEq, Repr

namespace Started

def attached (letter : Char) (cs : Octets) (rest : List Octets) : Except Octets (Octets × List Octets) :=
  match cs, rest with
  | [], [] => .error ("option -".toList ++ letter :: " lacks argument".toList)
  | [], word :: more => .ok (word, more)
  | cs, more => .ok (cs, more)

def idleNames : List String := ["compat", "interactive", "posix"]

def named (long : Bool) (name : Octets) (rest : List Octets) (s : Started) :
    Except Octets (Started × List Octets) :=
  let name := name.map Char.toLower
  let means (x : String) : Bool := name ≠ [] && name.isPrefixOf x.toList
  let plain := name.takeWhile (· ≠ '=')
  if means "help" ∨ means "usage" then .ok ({ s with asksHelp := true }, rest)
  else if means "exec" then do
    let (file, more) ← attached 'W' [] rest
    .ok ({ s with files := s.files ++ [file], rest := more }, [])
  else if idleNames.any means ∨ plain = "random".toList ∨ plain = "sprintf".toList then .ok (s, rest)
  else .error (if long then "not an option: --".toList ++ name else "vacuous option: -W \"".toList ++ name ++ ['"'])

def read : Nat → List Octets → Started → Except Octets Started
  | 0, words, s => .ok { s with rest := words }
  | fuel + 1, words, s =>
    match words with
    | ['-', '-'] :: rest => .ok { s with rest := rest }
    | ('-' :: '-' :: name) :: rest => do
      let (s, rest) ← named true name rest s
      if rest.isEmpty then return s else read fuel rest s
    | ('-' :: letter :: cs) :: rest =>
      match letter with
      | 'F' => do
        let (value, rest) ← attached letter cs rest
        read fuel rest { s with assigned := s.assigned ++ [("FS", value)] }
      | 'v' => do
        let (value, rest) ← attached letter cs rest
        match Run.assignedOperand? value with
        | some setting => read fuel rest { s with assigned := s.assigned ++ [setting] }
        | none => throw ("improper assignment: -v ".toList ++ value)
      | 'f' => do
        let (file, rest) ← attached letter cs rest
        read fuel rest { s with files := s.files ++ [file] }
      | 'W' => do
        let (name, rest) ← attached letter cs rest
        let (s, rest) ← named false name rest s
        if rest.isEmpty then return s else read fuel rest s
      | _ => throw ("not an option: -".toList ++ letter :: cs)
    | words => .ok { s with rest := words }

end Started

def help : List String := [
  "Usage: mawk [Options] [Program] [file ...]",
  "",
  "Program:",
  "    The -f option value is the name of a file containing program text.",
  "    If no -f option is given, a \"--\" ends option processing; the following",
  "    parameters are the program text.",
  "",
  "Options:",
  "    -f program-file  Program  text is read from file instead of from the",
  "                     command-line.  Multiple -f options are accepted.",
  "    -F value         sets the field separator, FS, to value.",
  "    -v var=value     assigns value to program variable var.",
  "    --               unambiguous end of options.",
  "",
  "    Implementation-specific options are prefixed with \"-W\".  They can be",
  "    abbreviated:",
  "",
  "    -W version       show version information and exit.",
  "    -W compat        pre-POSIX 2001.",
  "    -W dump          show assembler-like listing of program and exit.",
  "    -W help          show this message and exit.",
  "    -W interactive   set unbuffered output, line-buffered input.",
  "    -W exec file     use file as program as well as last option.",
  "    -W posix         stricter POSIX checking.",
  "    -W random=number set initial random seed.",
  "    -W sprintf=number adjust size of sprintf buffer.",
  "    -W usage         show this message and exit."]

namespace Run

def depth : Nat := maxNesting

/-- Runs what is done before or after the records. False when the program asks to exit. -/
def runBlocks (spawn : Spawn) (blocks : List Statement) : Run Bool := do
  try
    let _ ← execAll spawn depth blocks
    return true
  catch
    | .exit => return false
    | .next => return true
    | .nextFile => return true
    | e => throw e

def applies (spawn : Spawn) (n : Nat) : Condition → Run Bool
  | .always => return true
  | .holds e => do return (← eval spawn depth e).isTrue
  | .range first last => do
    let begun := (← get).within.contains n
    if !begun then
      if !(← eval spawn depth first).isTrue then return false
    let isLast := (← eval spawn depth last).isTrue
    modify fun s => { s with within := if isLast then s.within.erase n else if begun then s.within else n :: s.within }
    return true

def runRules (spawn : Spawn) : Nat → List Rule → Run Unit
  | _, [] => return ()
  | n, rule :: rest => do
    if ← applies spawn n rule.condition then
      match rule.body with
      | some body =>
        let _ ← exec spawn depth body
      | none => say ((← text (← field 0)) ++ (← text (← scalar "ORS")))
    runRules spawn (n + 1) rest

/-- Runs the rules on a record, of which the rest and perhaps that of the file may be passed over. False when the program
asks to exit. -/
def withRules (rules : Run Unit) : Run Bool := do
  try
    rules
    return true
  catch
    | .next => return true
    | .nextFile =>
      modify fun s => { s with
        sources := s.sources.map fun k => if s.input = some k.name ∧ !k.isCommand then { k with rest := [] } else k }
      return true
    | .exit => return false
    | e => throw e

def runRecords (spawn : Spawn) (rules : List Rule) : Nat → Run Bool
  | 0 => throw .late
  | fuel + 1 => do
    match ← nextRecord spawn maxFiles with
    | none => return true
    | some cs =>
      countRecord
      setRecord cs
      if ← withRules (runRules spawn 0 rules) then runRecords spawn rules fuel else return false

def runAll (spawn : Spawn) (p : Program) : Run Unit := do
  let goesOn ← runBlocks spawn p.before
  if goesOn ∧ (!p.rules.isEmpty ∨ !p.after.isEmpty) then
    let _ ← runRecords spawn p.rules patience
  let _ ← runBlocks spawn p.after

end Run

def Running.initial (w : World) (call : Call) (name : Octets) (p : Program) (operands : List Octets) : Running :=
  let arguments := (name :: operands).zipIdx.foldl (fun (t : Table) v => t.set (.number (v.2 : Nat)) (.given v.1)) .empty
  let environment := call.environment.foldl (fun (t : Table) v => t.set (.text v.1.toList) (.given v.2)) .empty
  let scalars := Std.HashMap.ofList (("ARGC", Value.ofNat (operands.length + 1)) :: usualScalars)
  { world := w, call := call, program := p, scalars := scalars,
    globals := .ofList [("ARGV", 0), ("ENVIRON", 1)], tables := .ofList [(0, arguments), (1, environment)], nextTable := 2,
    frame := none, stack := 0, record := .given [], fields := #[], isSplit := false, isStale := false, said := [],
    saidSize := 0, sinks := [], sources := [], operand := 1, input := none, within := [], seed := .ofNat 0, drawn := 0,
    status := 0 }

def told (file : Option Octets) (l : Located) : Octets :=
  match l.fault with
  | .unexpected _ => (toString l.line ++ ": ").toList ++ l.fault.message
  | _ =>
    let place := match file with
      | some f => f ++ ": ".toList
      | none => []
    place ++ ("line " ++ toString l.line ++ ": ").toList ++ l.fault.message

def run (spawn : Spawn) (w : World) (call : Call) : Ending × World :=
  let name := (call.name.splitOn '/').getLastD []
  let start (p : Program) (operands : List Octets) : Running := .initial w call name p operands
  let nothing : Program := ⟨[], [], [], []⟩
  let closed (s : Running) (ending : Ending) : Ending × World := (ending, s.world)
  let inform (lines : List Octets) : Run Unit :=
    lines.forM fun line => Run.complain (name ++ ": ".toList ++ line ++ ['\n'])
  let refuse (s : Running) (lines : List Octets) : Ending × World :=
    closed ((inform lines).run s).2 (.exited 2)
  let rec finish : Nat → Running → Except Stop Unit → Ending × World
    | _, s, .ok () => closed s (.exited s.status)
    | _, s, .error .late => closed s .late
    | again, s, .error e =>
      let number (x : String) : Octets := ((s.scalars[x]?).getD .unset).toText []
      let line : Octets := match e with
        | .failed text => text
        | .fault text => "run time error: ".toList ++ text ++ "\n\tFILENAME=\"".toList ++ number "FILENAME" ++ "\" FNR=".toList
            ++ number "FNR" ++ " NR=".toList ++ number "NR"
        | _ => []
      let s := ((inform (if line.isEmpty then [] else [line])).run s).2
      match again with
      | 0 => closed s (.exited 2)
      | again + 1 =>
        let (r, s) := ((Run.closeAll spawn).run s)
        match r with
        | .ok () => closed s (.exited 2)
        | .error e => finish again s (.error e)
  match Started.read (call.args.length + 1) call.args ⟨[], [], [], false⟩ with
  | .error text => refuse (start nothing []) [text]
  | .ok started =>
    let printHelp : Ending × World :=
      let say : Run Unit := do
        Run.say (help.flatMap fun line => (line ++ "\n").toList)
        Run.closeAll spawn
      closed (say.run (start nothing [])).2 (.exited 0)
    let perform (w : World) (file : Option Octets) (text : Octets) (operands : List Octets) : Ending × World :=
      match Program.read text with
      | .error faults =>
        refuse { start nothing [] with world := w } (faults.map (told file))
      | .ok p =>
        let work : Run Unit := do
          started.assigned.forM fun v => Run.assign v.1 v.2
          Run.runAll spawn p
          Run.closeAll spawn
        let (r, s) := work.run { start p operands with world := w }
        finish 1 s r
    if started.asksHelp then printHelp
    else if started.files.isEmpty then
      match started.rest with
      | [] => printHelp
      | text :: operands => perform w none text operands
    else
      let collect : Run Octets := do
        let parts ← started.files.mapM fun f => do
          match ← Run.fileText f with
          | (some text, _) => return text
          | (none, e) =>
            throw (.failed ("cannot open \"".toList ++ f ++ "\" (".toList ++ octetsOfText e.words ++ [')']))
        return parts.flatten
      match collect.run (start nothing []) with
      | (.ok text, s) => perform s.world started.files.head? text started.rest
      | (.error e, s) => finish 0 s (.error e)

end PassDelta.Machine.Records
