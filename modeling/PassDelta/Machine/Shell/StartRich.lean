import PassDelta.Machine.Shell.Start
/-!
# Starting a rich shell

The words a rich shell is called with, and the variables that it knows from the beginning.
-/

namespace PassDelta.Machine.Shell

/-- How a rich shell was called: options that were turned on and off, in order, whether the first word left is a
script, whether scripts come from the input, and the words left. `told` is what it has been asked to tell. -/
structure Opening where
  turns : List (Bool × String)
  isText : Bool
  fromInput : Bool
  rest : List Octets
  told : List (Bool × Bool)
  deriving DecidableEq, Repr

namespace Opening

/-- Long options, which stand before all others, and how many words follow each. -/
def longOptions : List (String × Nat) := [
  ("debug", 0), ("debugger", 0), ("dump-po-strings", 0), ("dump-strings", 0), ("help", 0), ("init-file", 1),
  ("login", 0), ("noediting", 0), ("noprofile", 0), ("norc", 0), ("posix", 0), ("pretty-print", 0), ("rcfile", 1),
  ("restricted", 0), ("verbose", 0), ("version", 0)]

def usageLines (name : Octets) : Octets :=
  "Usage:\t".toList ++ name ++ " [GNU long option] [option] ...\n\t".toList ++ name ++
    " [GNU long option] [option] script-file ...\nGNU long options:\n".toList ++
    (longOptions.flatMap fun o => ("\t--" ++ o.1 ++ "\n").toList) ++
    ("Shell options:\n\t-ilrsD or -c command or -O shopt_option\t\t(invocation only)\n" ++
      "\t-abefhkmnptuvxBCEHPT or -o option\n").toList

/-- What is wrong with how a rich shell was called: a message, and whether the use is told behind it. -/
structure Misuse where
  text : Octets
  tells : Bool
  deriving DecidableEq, Repr

def readLong (o : Opening) : List Octets → Except Misuse (Opening × List Octets)
  | [] => .ok (o, [])
  | word :: rest =>
    let name := match word with
      | '-' :: '-' :: name => name
      | '-' :: name => name
      | _ => []
    match longOptions.lookup (String.ofList name) with
    | none =>
      if "--".toList.isPrefixOf word ∧ word.length ≠ 2 then .error ⟨word ++ ": invalid option".toList, true⟩
      else .ok (o, word :: rest)
    | some 0 =>
      let o := if name ∈ ["posix".toList, "verbose".toList] then
        { o with turns := o.turns ++ [(true, String.ofList name)] } else o
      readLong o rest
    | some _ =>
      match rest with
      | [] => .error ⟨name ++ ": option requires an argument".toList, false⟩
      | _ :: rest => readLong o rest

/-- Takes the letters of one word; letters that take words take them from behind it. -/
def readLetters (on : Bool) (o : Opening) : List Char → List Octets → Except Misuse (Opening × List Octets)
  | [], rest => .ok (o, rest)
  | 'c' :: cs, rest => readLetters on { o with isText := true } cs rest
  | 's' :: cs, rest => readLetters on { o with fromInput := true } cs rest
  | 'o' :: cs, rest =>
    match rest with
    | [] => readLetters on { o with told := o.told ++ [(true, on)] } cs []
    | name :: rest =>
      if richOptions.any (·.1 = String.ofList name) then
        readLetters on { o with turns := o.turns ++ [(on, String.ofList name)] } cs rest
      else .error ⟨"line 0: ".toList ++ "bash: ".toList ++ name ++ ": invalid option name".toList, false⟩
  | 'O' :: cs, rest =>
    match rest with
    | [] => readLetters on { o with told := o.told ++ [(false, on)] } cs []
    | name :: rest =>
      if switchNames.contains (String.ofList name) then
        readLetters on { o with turns := o.turns ++ [(on, String.ofList name)] } cs rest
      else .error ⟨"line 0: ".toList ++ name ++ ": invalid shell option name".toList, false⟩
  | c :: cs, rest =>
    if ['i', 'l', 'r', 'D'].contains c then readLetters on o cs rest
    else match richOptions.find? (·.2 = some c) with
      | some (name, _) => readLetters on { o with turns := o.turns ++ [(on, name)] } cs rest
      | none => .error ⟨[if on then '-' else '+', c] ++ ": invalid option".toList, true⟩

def readShort : Nat → Opening → List Octets → Except Misuse Opening
  | 0, o, words => .ok { o with rest := words }
  | fuel + 1, o, words =>
    match words with
    | ['-'] :: rest => .ok { o with rest := rest }
    | ['-', '-'] :: rest => .ok { o with rest := rest }
    | ('-' :: cs) :: rest => do
      let (o, rest) ← readLetters true o cs rest
      readShort fuel o rest
    | ('+' :: c :: cs) :: rest => do
      let (o, rest) ← readLetters false o (c :: cs) rest
      readShort fuel o rest
    | words => .ok { o with rest := words }

def read (words : List Octets) : Except Misuse Opening := do
  let (o, rest) ← readLong ⟨[], false, false, [], []⟩ words
  readShort (words.length + 1) o rest

end Opening

def richVariables (w : World) (call : Call) (level : Octets) : List (String × Variable) :=
  let own (name : String) (text : String) : String × Variable := (name, .plain (some text.toList) false false)
  let fixed (name : String) (text : Octets) : String × Variable :=
    (name, { Variable.plain (some text) false true with kinds := ['i'] })
  let version := (["5", "2", "21", "1", "release", "x86_64-pc-linux-gnu"]).map String.toList
  [("PWD", .plain (some (placeText call.here)) true false),
    ("SHLVL", .plain (some level) true false), own "IFS" " \t\n",
    ("OPTIND", { Variable.plain (some ['1']) false false with kinds := ['i'] }), own "OPTERR" "1",
    own "BASH" "/usr/bin/bash", own "BASH_VERSION" "5.2.21(1)-release",
    ("BASH_VERSINFO", { Variable.plain none false true with row := some (.ofValues version) }),
    fixed "EUID" ['0'], fixed "PPID" (digits (w.next - 1))]

def richDefaults : List (String × Octets) := [
  ("PATH", usualSearch), ("UID", ['0']), ("HOSTNAME", "localhost".toList), ("HOSTTYPE", "x86_64".toList),
  ("MACHTYPE", "x86_64-pc-linux-gnu".toList), ("OSTYPE", "linux-gnu".toList), ("PS4", "+ ".toList),
  ("SHELL", "/bin/bash".toList), ("TERM", "dumb".toList)]

def freshRich (w : World) (call : Call) (options : List Char) (name : Octets) (positional : List Octets) : Shell :=
  let level := match (call.environment.lookup "SHLVL").bind decimalNumber? with
    | some n => if 0 ≤ n then digits (n.toNat + 1) else ['0']
    | none => ['1']
  let usual := richVariables w call level
  let given := (call.environment.filter fun v => isName v.1.toList ∧ !usual.any (·.1 = v.1) ∧ v.1 ≠ "_").map fun v =>
    (v.1, Variable.plain (some v.2) true false)
  let bindings := usual ++ given
  let missing := richDefaults.filter fun v => !bindings.any (·.1 = v.1)
  let back := if given.any (·.1 = "OLDPWD") then [] else [("OLDPWD", Variable.plain none true false)]
  { blank w call .rich options name positional with
    bindings := bindings ++ back ++ missing.map fun v => (v.1, Variable.plain (some v.2) false false)
    switches := usualSwitches
    lastWord := (call.environment.lookup "_").getD call.name }

/-- Where a file with a script is: where its name says, or on the search path. -/
def scriptPlace (w : World) (call : Call) (file : Octets) : Octets :=
  let exists_ (path : Octets) : Bool := ((w.tree.find call.here ⟨bytesOf path⟩).toOption.bind w.tree.entry?).isSome
  if file.contains '/' ∨ exists_ file then file
  else
    let dirs := ((call.environment.lookup "PATH").getD usualSearch).splitOn ':'
    ((dirs.map fun dir => if dir.isEmpty then file else dir ++ ['/'] ++ file).find? exists_).getD file

def runRich (spawn : Spawn) (w : World) (call : Call) : Ending × World :=
  let refuse (text : Octets) (status : Nat) : Ending × World :=
    let work : Exec Unit := do
      let _ ← say 2 text
      finish (.exited status)
    ending (work.run (freshRich w call [] call.name [])).2
  let complaint (name text : Octets) : Octets := name ++ ": ".toList ++ text ++ ['\n']
  match Opening.read call.args with
  | .error m => refuse (complaint call.name m.text ++ if m.tells then Opening.usageLines call.name else []) 2
  | .ok o =>
    let runWith (letters : String) (name : Octets) (positional : List Octets) (final : Bool) (text : Octets)
        (prepare : Shell → Shell) (w : World) : Ending × World :=
      let work : Exec Unit := do
        for (on, name) in o.turns do turn on name
        for (isOption, on) in o.told do
          let s ← get
          let lines := if isOption then richOptions.flatMap fun x => (if on then stateLine else optionCommand) s x.1
            else switchNames.flatMap fun x => (if on then stateLine else switchCommand) s x
          let _ ← say 1 lines
        modify prepare
      runText spawn final text (work.run (freshRich w call letters.toList name positional)).2
    if o.isText then
      match o.rest with
      | [] => refuse (complaint call.name "-c: option requires an argument".toList) 2
      | script :: rest =>
        runWith "hBc" (rest.headD call.name) rest.tail true script
          (fun s => { s with origin := "-c: ".toList }.assign "BASH_EXECUTION_STRING" script) w
    else
      match (if o.fromInput then [] else o.rest) with
      | [] =>
        match call.streams.lookup 0 with
        | some n =>
          let (text, w) := w.readAll n
          runWith "hBs" call.name o.rest false text id w
        | none => (.exited 0, w)
      | file :: rest =>
        let path := scriptPlace w call file
        match w.tree.readBytes call.here ⟨bytesOf path⟩ with
        | .ok contents =>
          let text := octets contents
          let isProgram : Bool := match (w.tree.find call.here ⟨bytesOf path⟩).toOption.bind w.tree.entry? with
            | some (.program _) => true
            | _ => false
          if isProgram ∨ ((text.take 80).takeWhile (· ≠ '\n')).contains (Char.ofNat 0) then
            refuse (complaint path (path ++ ": cannot execute binary file".toList)) 126
          else
            runWith "hB" path rest false (text.filter (· ≠ Char.ofNat 0))
              (fun s => { s with callers := [⟨"main", path, 0⟩] }) w
        | .error .eisdir => refuse (complaint path (path ++ ": Is a directory".toList)) 126
        | .error e =>
          refuse (complaint call.name (file ++ ": ".toList ++ octetsOfText e.words)) (if e = .enoent then 127 else 126)

end PassDelta.Machine.Shell
