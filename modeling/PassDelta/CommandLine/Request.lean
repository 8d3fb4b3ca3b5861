import PassDelta.CommandLine.Grammar
import PassDelta.Options
/-!
# Requests

What a command line asks for. Arguments are taken from left to right, and the first that is wrong, or asks for
help or the version, decides. Switches may stand between operands; after two dashes everything is an operand.
-/

namespace PassDelta.CommandLine

/-- What a command line asks for. Help is about one command, or about all when none is named. -/
inductive Request where
  | overview
  | compare (options : Options)
  | create (force : Bool)
  | completions (shell : ShellKind)
  | help (topic : Option Grammar)
  | version (command : Option Grammar)
  | misuse
  deriving DecidableEq, Repr

/-- One argument by its role; nothing is read after a wrong one. -/
inductive Argument where
  | switch (setting : Setting) (value : Option Bytes)
  | operand (value : Bytes)
  | wrong
  deriving DecidableEq, Repr

def dash : UInt8 := 0x2D
def equals : UInt8 := 0x3D

/-- Whether an argument is a switch by its look. A single dash is not. -/
def looksLikeSwitch (arg : Bytes) : Bool := arg.head? = some dash && arg ≠ [dash]

def Grammar.long? (g : Grammar) (name : Bytes) : Option Switch :=
  g.switches.find? fun s => Text.encode s.long = name

def Grammar.short? (g : Grammar) (letter : UInt8) : Option Switch :=
  g.switches.find? fun s => s.short.any fun c => c.toNat = letter.toNat

def splitValue (arg : Bytes) : Bytes × Option Bytes :=
  match arg.dropWhile (· ≠ equals) with
  | [] => (arg, none)
  | _ :: value => (arg.takeWhile (· ≠ equals), some value)

/-- The switches in a group of letters, and the last one if its value is still to come. The letters after one that
takes a value are that value. -/
def Grammar.letters (g : Grammar) : Bytes → List Argument × Option Setting
  | [] => ([], none)
  | b :: rest =>
    match g.short? b with
    | none => ([.wrong], none)
    | some s =>
      match s.value, rest with
      | some _, [] => ([], some s.setting)
      | some _, c :: value => ([.switch s.setting (some (if c = equals then value else c :: value))], none)
      | none, _ => let (more, pending) := letters g rest; (.switch s.setting none :: more, pending)

/-- What one argument says by itself, and the switch whose value the next one must be. -/
def Grammar.single (g : Grammar) (arg : Bytes) : List Argument × Option Setting :=
  if !looksLikeSwitch arg then ([.operand arg], none)
  else if (arg.drop 1).head? = some dash then
    let (name, value) := splitValue (arg.drop 2)
    match g.long? name with
    | none => ([.wrong], none)
    | some s =>
      match s.value, value with
      | some _, some v => ([.switch s.setting (some v)], none)
      | some _, none => ([], some s.setting)
      | none, some _ => ([.wrong], none)
      | none, none => ([.switch s.setting none], none)
  else g.letters (arg.drop 1)

/-- The arguments by their roles. `pending` is a switch that waits for its value. -/
def Grammar.arguments (g : Grammar) (pending : Option Setting) : List Bytes → List Argument
  | [] => if pending.isSome then [.wrong] else []
  | arg :: rest =>
    match pending with
    | some setting => if looksLikeSwitch arg then [.wrong] else .switch setting (some arg) :: arguments g none rest
    | none =>
      if arg = [dash, dash] then rest.map .operand
      else
        let (read, next) := g.single arg
        read ++ arguments g next rest

/-- A natural number below `2 ^ 64`; a plus sign may stand before it. -/
def readWord? (value : Bytes) : Option Nat :=
  let digits := if value.head? = some 0x2B then value.tail else value
  if digits.isEmpty ∨ !digits.all (fun b => 0x30 ≤ b && b ≤ 0x39) then none
  else
    let n := digits.foldl (fun n b => n * 10 + (b.toNat - 0x30)) 0
    if n < twoTo 64 then some n else none

def readPath? (value : Bytes) : Option Path := if value.isEmpty then none else some ⟨value⟩

inductive Stop where
  | wrong
  | help
  | version
  deriving DecidableEq, Repr

def once {α : Type} (old : Option α) (value : Option α) : Except Stop (Option α) :=
  match old, value with
  | none, some v => .ok (some v)
  | _, _ => .error .wrong

def onceOn (old : Bool) : Except Stop Bool := if old then .error .wrong else .ok true

def compareStep (o : Options) (a : Argument) : Except Stop Options :=
  match a with
  | .wrong => .error .wrong
  | .operand value =>
    match readPath? value with
    | some p => .ok { o with modules := o.modules ++ [p] }
    | none => .error .wrong
  | .switch setting value => do
    match setting with
    | .compiler => return { o with compiler := ← once o.compiler (value.bind Text.decode?) }
    | .outputDir => return { o with outputDir := ← once o.outputDir (value.bind readPath?) }
    | .timeout => return { o with timeoutSecs := ← once o.timeoutSecs ((value.bind readWord?).filter (1 ≤ ·)) }
    | .previewLimit => return { o with previewLimit := ← once o.previewLimit (value.bind readWord?) }
    | .config => return { o with config := ← once o.config (value.bind readPath?) }
    | .json => return { o with json := ← onceOn o.json }
    | .help => throw .help
    | .version => throw .version
    | .force => throw .wrong

def initStep (force : Bool) (a : Argument) : Except Stop Bool :=
  match a with
  | .switch .force _ => onceOn force
  | .switch .help _ => .error .help
  | .switch .version _ => .error .version
  | _ => .error .wrong

def completionsStep (shell : Option ShellKind) (a : Argument) : Except Stop (Option ShellKind) :=
  match a with
  | .operand value => once shell ((Text.decode? value).bind fun name => shellNames.lookup name)
  | .switch .help _ => .error .help
  | .switch .version _ => .error .version
  | _ => .error .wrong

/-- The request of a command whose arguments are taken in one by one. -/
def requestOf {α : Type} (g : Grammar) (step : α → Argument → Except Stop α) (start : α)
    (finish : α → Request) (args : List Bytes) : Request :=
  match (g.arguments none args).foldlM step start with
  | .ok a => finish a
  | .error .wrong => .misuse
  | .error .help => .help (some g)
  | .error .version => .version (some g)

def helpRequest : List Bytes → Request
  | [] => .help none
  | [name] =>
    match (grammars ++ [helpGrammar]).find? fun g => Text.encode g.name = name with
    | some g => .help (some g)
    | none => .misuse
  | _ => .misuse

def rootRequest (arg : Bytes) (rest : List Bytes) : Request :=
  if arg = [dash, dash] then if rest.isEmpty then .overview else .misuse
  else
    let root : Grammar := ⟨program, programAbout, none, commonSwitches⟩
    match (root.single arg).1 with
    | .switch .help _ :: _ => .help none
    | .switch .version _ :: _ => .version none
    | _ => .misuse

def read : List Bytes → Request
  | [] => .overview
  | arg :: rest =>
    if arg = Text.encode compareGrammar.name then
      requestOf compareGrammar compareStep Options.none .compare rest
    else if arg = Text.encode initGrammar.name then requestOf initGrammar initStep false .create rest
    else if arg = Text.encode completionsGrammar.name then
      requestOf completionsGrammar completionsStep none (fun shell => shell.elim .misuse .completions) rest
    else if arg = Text.encode helpGrammar.name then helpRequest rest
    else rootRequest arg rest

end PassDelta.CommandLine
