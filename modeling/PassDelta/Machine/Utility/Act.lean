import PassDelta.Machine.Numeral
import PassDelta.Machine.World
/-!
# Acting programs

What a small program does while it runs: it reads and writes the channels of its call, looks at the tree, and ends
with a status. Output that cannot be written is told once, at the end.
-/

namespace PassDelta.Machine

/-- A program under way. What an endless one has printed is only a part of what it would. -/
structure Acting where
  world : World
  status : Nat
  broken : Option IoError
  endless : Bool

abbrev Act := ReaderT Call (StateM Acting)

namespace Act

def getWorld : Act World := do return (← get).world

def setWorld (w : World) : Act Unit := modify fun a => { a with world := w }

def fail (status : Nat) : Act Unit := modify fun a => { a with status := status }

def goOn : Act Unit := modify fun a => { a with endless := true }

def put (stream : Nat) (text : Octets) : Act Unit := do
  let w ← getWorld
  let written := match (← read).streams.lookup stream with
    | some n => w.say n text
    | none => if text.isEmpty then .ok w else .error .ebadf
  match written with
  | .ok w => setWorld w
  | .error e => if stream = 1 then modify fun a => { a with broken := some e }

def print (text : Octets) : Act Unit := put 1 text

def grumble (text : Octets) : Act Unit := do put 2 ((← read).name ++ ": ".toList ++ text ++ ['\n'])

def reject (status : Nat) (text : Octets) : Act Unit := do
  grumble text
  fail status

def misuse (status : Nat) (text : Octets) : Act Unit := do
  reject status text
  let name := (← read).name
  put 2 ("Try '".toList ++ name ++ " --help' for more information.\n".toList)

def place : Act Place := do return (← read).here

def input : Act Octets := do
  match (← read).streams.lookup 0 with
  | none => return []
  | some n =>
    let (text, w) := (← getWorld).readAll n
    setWorld w
    return text

def entry (file : Octets) : Act (Except IoError Entry) := do
  let tree := (← getWorld).tree
  return (tree.find (← place) ⟨bytesOf file⟩).map fun p => (tree.entry? p).getD (.dir Entry.dirMode)

def inputIsDir : Act Bool := do
  let w ← getWorld
  match (← read).streams.lookup 0 with
  | some n =>
    match w.channel n with
    | .file place .. => return w.tree.isDir place
    | _ => return false
  | none => return false

def fetch (file : Octets) : Act (Except IoError Octets) := do
  if file = ['-'] then
    if ← inputIsDir then return .error .eisdir
    if ((← read).streams.lookup 0).isNone then return .error .ebadf
    return .ok (← input)
  match ← entry file with
  | .error e => return .error e
  | .ok (.file contents _) => return .ok (octets contents)
  | .ok (.dir _) => return .error .eisdir
  | .ok (.link _) => return .error .eloop
  | .ok (.program _) => return .ok []
  | .ok (.device .null) => return .ok []
  | .ok (.device (.stream 0)) => return .ok (← input)
  | .ok (.device (.stream _)) => return .ok []
  | .ok (.device _) => return .ok (List.replicate World.plenty (Char.ofNat 0))

def isPlainName (name : Octets) : Bool :=
  !name.isEmpty && name.all fun c => c.isAlphanum || "-_./,+:@%".toList.contains c || 128 ≤ c.toNat

/-- Whether a character can stand between double quotes beside a single quote. -/
def isTame (c : Char) : Bool := 32 ≤ c.toNat && c.toNat ≠ 127 && !("!\"$&()*;<=>[^`|\\~#?".toList.contains c)

def escapedControl (c : Char) : Octets :=
  match ("abtnvfr".toList.zip [7, 8, 9, 10, 11, 12, 13]).find? fun x => x.2 = c.toNat with
  | some (letter, _) => ['\\', letter]
  | none => '\\' :: [c.toNat / 64 % 8, c.toNat / 8 % 8, c.toNat % 8].map fun d => Char.ofNat (48 + d)

/-- The inside of single quotes: those in a name stand outside of them, and so do control characters, which are
`escaping` while they follow one another. -/
def quotedInside : Bool → Octets → Octets
  | _, [] => []
  | escaping, c :: rest =>
    if c.toNat < 32 ∨ c.toNat = 127 then
      (if escaping then [] else "'$'".toList) ++ escapedControl c ++ quotedInside true rest
    else
      (if escaping then "''".toList else []) ++ (if c = '\'' then "'\\''".toList else [c]) ++ quotedInside false rest

def quoted (name : Octets) : Octets :=
  if name.contains '\'' ∧ name.all isTame then ['"'] ++ name ++ ['"']
  else ['\''] ++ quotedInside false name ++ ['\'']

def shown (name : Octets) : Octets := if isPlainName name then name else quoted name

/-- Whether the language of the environment writes characters in more than one octet. Only one such language is
installed. -/
def isWideLanguage (environment : List (String × Octets)) : Bool :=
  let chosen := (["LC_ALL", "LC_CTYPE", "LANG"].filterMap fun name => environment.lookup name).find? fun text => !text.isEmpty
  chosen.any fun text => ["C.UTF-8", "C.UTF8"].contains (String.ofList (text.map Char.toUpper))

def citedIn (environment : List (String × Octets)) (word : Octets) : Octets :=
  if isWideLanguage environment then octetsOfText "‘" ++ word ++ octetsOfText "’" else ['\''] ++ word ++ ['\'']

/-- A word in a message, between the quotes of the language of the environment. -/
def cited (word : Octets) : Act Octets := do return citedIn (← read).environment word

def fetchOr (status : Nat) (complaint : Octets → Octets) (file : Octets) : Act (Option Octets) := do
  match ← fetch file with
  | .ok text => return some text
  | .error e =>
    reject status (complaint file ++ ": ".toList ++ octetsOfText e.words)
    return none

/-- The options of a program: letters without and with a value, and the long names of letters. A letter that is
among both may have a value right behind it, and one that is no octet can only be meant by its long name. -/
structure Options where
  flags : List Char
  valued : List Char
  long : List (String × Char)

inductive OptionFault where
  | invalid (letter : Char)
  | missingValue (letter : Char)
  | missingLongValue (name : String)
  | unwantedValue (name : String)
  | ambiguous (word : Octets) (names : List String)
  | unrecognized (word : Octets)
  deriving DecidableEq, Repr

def OptionFault.message : OptionFault → Octets
  | invalid c => "invalid option -- '".toList ++ [c, '\'']
  | missingValue c => "option requires an argument -- '".toList ++ [c, '\'']
  | missingLongValue name => ("option '--" ++ name ++ "' requires an argument").toList
  | unwantedValue name => ("option '--" ++ name ++ "' doesn't allow an argument").toList
  | ambiguous word names =>
    "option '--".toList ++ word ++ "' is ambiguous; possibilities:".toList ++
      names.flatMap fun name => (" '--" ++ name ++ "'").toList
  | unrecognized word => "unrecognized option '".toList ++ word ++ ['\'']

def OptionFault.written (word : Octets) : OptionFault → OptionFault
  | ambiguous _ names => .ambiguous word names
  | unrecognized _ => .unrecognized ('-' :: '-' :: word)
  | f => f

structure Chosen where
  options : List (Char × Octets)
  operands : List Octets
  deriving DecidableEq, Repr

namespace Chosen

def has (c : Chosen) (letter : Char) : Bool := c.options.any (·.1 = letter)

def value? (c : Chosen) (letter : Char) : Option Octets := (c.options.filter (·.1 = letter)).getLast?.map Prod.snd

def values (c : Chosen) (letter : Char) : List Octets := (c.options.filter (·.1 = letter)).map Prod.snd

def addOption (letter : Char) (value : Octets) (c : Chosen) : Chosen :=
  { c with options := (letter, value) :: c.options }

def addOperand (word : Octets) (c : Chosen) : Chosen := { c with operands := word :: c.operands }

end Chosen

/-- The long option that a name means: its own, or that of the only letter whose names begin with it. -/
def Options.longNamed (o : Options) (name : Octets) : Except OptionFault (String × Char) :=
  let written := String.ofList name
  match o.long.find? fun l => l.1 = written with
  | some found => .ok found
  | none =>
    let candidates := o.long.filter fun l => name.isPrefixOf l.1.toList
    match candidates with
    | [] => .error (.unrecognized ('-' :: '-' :: name))
    | found :: rest =>
      if rest.all (·.2 = found.2) then .ok found else .error (.ambiguous name (candidates.map Prod.fst))

mutual

def Options.read (o : Options) : List Octets → Except OptionFault Chosen
  | [] => .ok ⟨[], []⟩
  | ['-', '-'] :: rest => .ok ⟨[], rest⟩
  | ('-' :: '-' :: name) :: rest =>
    let (name, value?) := match name.span (· ≠ '=') with
      | (name, _ :: value) => (name, some value)
      | (name, []) => (name, none)
    match o.longNamed name with
    | .error e => .error (e.written (name ++ (value?.map fun v => '=' :: v).getD []))
    | .ok (full, letter) =>
      match value? with
      | some value =>
        if o.valued.contains letter then (o.read rest).map (Chosen.addOption letter value)
        else .error (.unwantedValue full)
      | none =>
        if !o.valued.contains letter ∨ o.flags.contains letter then (o.read rest).map (Chosen.addOption letter [])
        else match rest with
          | value :: more => (o.read more).map (Chosen.addOption letter value)
          | [] => .error (.missingLongValue full)
  | ('-' :: c :: letters) :: rest => o.readLetters (c :: letters) rest
  | word :: rest => (o.read rest).map (Chosen.addOperand word)
termination_by words => (words.length, 0)

def Options.readLetters (o : Options) : List Char → List Octets → Except OptionFault Chosen
  | [], rest => o.read rest
  | c :: letters, rest =>
    if o.valued.contains c then
      if letters ≠ [] ∨ o.flags.contains c then (o.read rest).map (Chosen.addOption c letters)
      else match rest with
        | value :: more => (o.read more).map (Chosen.addOption c value)
        | [] => .error (.missingValue c)
    else if o.flags.contains c then (o.readLetters letters rest).map (Chosen.addOption c [])
    else .error (.invalid c)
termination_by letters rest => (rest.length, letters.length + 1)

end

def withOptions (status : Nat) (flags valued : String) (long : List (String × Char)) (act : Chosen → Act Unit) :
    Act Unit := do
  match Options.read ⟨flags.toList, valued.toList, long⟩ (← read).args with
  | .ok chosen => act chosen
  | .error e => misuse status e.message

/-- The status of a program whose output cannot be written, and the lines that tell it. -/
def brokenOutput (program reason : String) : Nat × List String :=
  match program with
  | "sort" => (2, ["fflush failed: 'standard output': " ++ reason, "write error"])
  | "sed" => (4, ["couldn't flush stdout: " ++ reason])
  | "wc" => (1, ["write error"])
  | "ls" => (2, ["write error: " ++ reason])
  | "grep" => (2, ["write error: " ++ reason])
  | "env" => (125, ["write error: " ++ reason])
  | _ => (1, ["write error: " ++ reason])

/-- How a program ends that would write for ever: when nobody reads what it writes any more, or never. -/
def endlessly (w : World) (call : Call) : Ending × World :=
  match (call.streams.lookup 1).map w.channel with
  | some (.sink _ true) => (.killed 13, w)
  | _ => (.late, w.waitUntil World.never)

def run (act : Act Unit) (world : World) (call : Call) : Ending × World :=
  let (_, a) := StateT.run (ReaderT.run act call) (⟨world, 0, none, false⟩ : Acting)
  match a.broken with
  | none => if a.endless then endlessly a.world call else (.exited a.status, a.world)
  | some e =>
    let (status, lines) := brokenOutput (String.ofList call.name) e.words
    let text := lines.flatMap fun line => call.name ++ octetsOfText (": " ++ line ++ "\n")
    match (call.streams.lookup 2).map fun n => a.world.say n text with
    | some (.ok w) => (.exited status, w)
    | _ => (.exited status, a.world)

end Act
end PassDelta.Machine
