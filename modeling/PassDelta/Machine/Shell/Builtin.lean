import PassDelta.Machine.Permission
import PassDelta.Machine.Shell.Redirection
import PassDelta.Machine.Utility.Condition
import PassDelta.Machine.Utility.Format
/-!
# Commands of the shell itself

Those commands that need nothing run: they change variables, options, positional parameters, traps and signals, or
write a line. A few of them are special: when one of those cannot do its work, the script ends.
-/

namespace PassDelta.Machine.Shell

structure Reply where
  status : Nat
  out : Octets
  deriving DecidableEq, Repr

abbrev Builtin := List Octets → Exec Reply

def quiet (status : Nat) : Exec Reply := return ⟨status, []⟩

def isMarking (name : String) : Bool := ["export", "local", "readonly"].contains name

def isSpecial (name : String) : Bool :=
  isMarking name || [":", ".", "break", "continue", "eval", "exec", "exit", "return", "set", "shift", "times", "trap",
    "unset"].contains name

def refuse (special : Bool) (text : Octets) : Exec Reply := do
  if special then abandon 2 text else complain text
  quiet 2

def definition (word : Octets) : Octets × Option Octets :=
  match word.span (· ≠ '=') with
  | (name, _ :: value) => (name, some value)
  | (name, []) => (name, none)

def singleQuoted (text : Octets) : Octets :=
  ['\''] ++ text.flatMap (fun c => if c = '\'' then "'\"'\"'".toList else [c]) ++ ['\'']

/-- The letters of options before the operands, each with a value if it takes one; none if a letter is not known. -/
def letters (flags valued : List Char) : Nat → List Octets → Except Octets (List (Char × Octets) × List Octets)
  | 0, words => .ok ([], words)
  | _ + 1, ['-', '-'] :: rest => .ok ([], rest)
  | fuel + 1, ('-' :: c :: cs) :: rest =>
    if flags.contains c then
      let more := if cs.isEmpty then letters flags valued fuel rest else letters flags valued fuel (('-' :: cs) :: rest)
      more.map fun (found, left) => ((c, []) :: found, left)
    else if valued.contains c then
      match cs, rest with
      | [], value :: more => (letters flags valued fuel more).map fun (found, left) => ((c, value) :: found, left)
      | [], [] => .error ("No arg for -".toList ++ [c] ++ " option".toList)
      | cs, more => (letters flags valued fuel more).map fun (found, left) => ((c, cs) :: found, left)
    else .error ("Illegal option -".toList ++ [c])
  | _ + 1, words => .ok ([], words)

def withLetters (special : Bool) (flags valued : String) (words : List Octets)
    (act : List (Char × Octets) → List Octets → Exec Reply) : Exec Reply := do
  match letters flags.toList valued.toList (words.flatten.length + words.length + 1) words with
  | .ok (found, rest) => act found rest
  | .error text => refuse special text

/-- The variables with a mark, as commands that would set them, in the order of their names. -/
def listed (s : Shell) (command : String) (shown : Variable → Bool) : Octets :=
  let chosen := (s.bindings.filter fun v => shown v.2).mergeSort fun a b => a.1 ≤ b.1
  chosen.flatMap fun (name, v) =>
    command.toList ++ name.toList ++ (v.value.map fun text => '=' :: singleQuoted text).getD [] ++ ['\n']

def markAll (mark : Variable → Variable) : List Octets → Exec Reply
  | [] => quiet 0
  | word :: rest => do
    let (name, value) := definition word
    if !isName name then refuse true (word ++ ": bad variable name".toList)
    else
      let key := String.ofList name
      if value.isSome ∧ (← get).isReadonly key then refuse true (name ++ ": is read only".toList)
      else
        modify fun s =>
          let s := match value with
            | some text => s.assign key text
            | none => s
          s.putVariable key (mark ((s.binding? key).getD (.plain none false false)))
        markAll mark rest

def marking (name : String) (shown : Variable → Bool) (mark : Variable → Variable) : Builtin := fun words =>
  withLetters true "p" "" words fun found rest => do
    if rest.isEmpty ∨ found ≠ [] then return ⟨0, listed (← get) (name ++ " ") shown⟩
    else markAll mark rest

def unsetAll (functions : Bool) : List Octets → Exec Reply
  | [] => quiet 0
  | word :: rest => do
    let key := String.ofList word
    if functions then
      modify fun s => { s with functions := s.functions.filter (·.1 ≠ key) }
      unsetAll functions rest
    else if !isName word then refuse true (word ++ ": bad variable name".toList)
    else if (← get).isReadonly key then refuse true (word ++ ": is read only".toList)
    else
      modify fun s => s.dropVariable key
      unsetAll functions rest

def unset : Builtin := fun words =>
  withLetters true "fv" "" words fun found rest => unsetAll (found.getLast?.any (·.1 = 'f')) rest

def localise : Builtin
  | [] => quiet 0
  | word :: rest => do
    let s ← get
    match s.locals with
    | [] => do
      abandon 2 "not in a function".toList
      quiet 2
    | scope :: outer =>
      let (name, value) := definition word
      let key := String.ofList name
      if word = ['-'] then localise rest
      else if !isName name then
        abandon 2 (word ++ ": bad variable name".toList)
        quiet 2
      else
        let scope := if scope.any (·.1 = key) then scope else (key, s.binding? key) :: scope
        set { s with locals := scope :: outer }
        match value with
        | some text => assignOr key text
        | none => pure ()
        localise rest

def leaveScope : Exec Unit := modify fun s =>
  match s.locals with
  | [] => s
  | scope :: outer =>
    let restored := scope.foldl (fun s (name, old) => match old with
      | some v => s.putVariable name v
      | none => s.dropVariable name) s
    { restored with locals := outer }

def optionNames : List (String × Char) := [
  ("errexit", 'e'), ("noglob", 'f'), ("ignoreeof", 'I'), ("interactive", 'i'), ("monitor", 'm'), ("noexec", 'n'),
  ("stdin", 's'), ("xtrace", 'x'), ("verbose", 'v'), ("vi", 'V'), ("emacs", 'E'), ("noclobber", 'C'),
  ("allexport", 'a'), ("notify", 'b'), ("nounset", 'u'), ("privileged", 'p'), ("nolog", '0'), ("debug", '1')]

def setOption (on : Bool) (c : Char) : Exec Unit := modify fun s =>
  let others := s.options.filter (· ≠ c)
  { s with options := if on then others ++ [c] else others }

def setLetters (on : Bool) : List Char → Exec (Option Char)
  | [] => return none
  | c :: cs => do
    if optionNames.any (·.2 = c) then
      setOption on c
      setLetters on cs
    else return some c

def optionList (s : Shell) : Octets :=
  "Current option settings\n".toList ++ optionNames.flatMap fun (name, c) =>
    name.toList ++ List.replicate (16 - name.length) ' ' ++ (if s.has c then "on".toList else "off".toList) ++ ['\n']

def setWords : Builtin
  | [] => quiet 0
  | ['-', '-'] :: rest => do
    modify fun s => { s with positional := rest }
    quiet 0
  | (sign :: cs) :: rest => do
    if sign ≠ '-' ∧ sign ≠ '+' then
      modify fun s => { s with positional := (sign :: cs) :: rest }
      quiet 0
    else if cs.isEmpty then
      modify fun s => { s with positional := if rest.isEmpty then s.positional else rest }
      quiet 0
    else
      let on := sign = '-'
      let written : Octets := if on then ['-'] else ['+']
      match ← setLetters on (cs.takeWhile (· ≠ 'o')) with
      | some c => refuse true ("Illegal option ".toList ++ written ++ [c])
      | none =>
        if cs.contains 'o' then
          match rest with
          | name :: more =>
            match optionNames.lookup (String.ofList name) with
            | some c => do
              setOption on c
              setWords more
            | none => refuse true ("Illegal option ".toList ++ written ++ "o ".toList ++ name)
          | [] => return ⟨0, optionList (← get)⟩
        else setWords rest
  | [] :: rest => do
    modify fun s => { s with positional := [] :: rest }
    quiet 0

def setBuiltin : Builtin := fun words => do
  if words.isEmpty then return ⟨0, listed (← get) "" fun v => v.value.isSome⟩ else setWords words

def natural (word : Octets) (act : Nat → Exec Reply) : Exec Reply := do
  if word ≠ [] ∧ word.all Char.isDigit then act (valueIn 10 word)
  else refuse true ("Illegal number: ".toList ++ word)

def shift : Builtin := fun words => natural (words.headD ['1']) fun n => do
  let s ← get
  if n ≤ s.positional.length then
    set { s with positional := s.positional.drop n }
    quiet 0
  else refuse true "can't shift that many".toList

def getopts : Builtin
  | description :: name :: given => do
    let s ← get
    if s.isRich ∧ (!isName name ∨ s.isReadonly (String.ofList name)) then
      let old := s.speaker
      if isName name then modify fun s => { s with speaker := none }
      complain (if isName name then name ++ ": readonly variable".toList
        else ['`'] ++ name ++ "': not a valid identifier".toList)
      modify fun s => { s with speaker := old }
      return ← quiet 1
    let args := if given.isEmpty then s.positional else given
    let silent := description.head? = some ':'
    let tells (text richText : String) (c : Char) : Exec Unit := do
      if s.isRich then
        if s.value? "OPTERR" ≠ some ['0'] then
          let _ ← say 2 (s.name ++ ": ".toList ++ richText.toList ++ " -- ".toList ++ [c, '\n'])
      else
        let _ ← say 2 (text.toList ++ [c] ++ (if text = "No arg for -" then " option\n" else "\n").toList)
    let key := String.ofList name
    let next := valueIn 10 (((s.value? "OPTIND").getD ['1']).takeWhile Char.isDigit)
    let index := next - if s.optionOffset = 0 then 0 else 1
    let word := (args[index - 1]?).getD []
    let finishAt (index : Nat) : Exec Reply := do
      modify fun s => { (s.assign key ['?']).assign "OPTIND" (digits index) with optionOffset := 0 }
      quiet 1
    let offset := max 1 s.optionOffset
    if s.optionOffset = 0 ∧ (word.length < 2 ∨ word.head? ≠ some '-') then finishAt index
    else if s.optionOffset = 0 ∧ word = "--".toList then finishAt (index + 1)
    else
      let c := (word[offset]?).getD '?'
      let isLast := word.length ≤ offset + 1
      let place (index offset : Nat) (s : Shell) : Shell :=
        { s.assign "OPTIND" (digits index) with optionOffset := offset }
      let step (s : Shell) : Shell := if isLast then place (index + 1) 0 s else place (index + 1) (offset + 1) s
      let known := if c = ':' then none else (description.dropWhile (· ≠ c)).head?
      let takesValue := ((description.dropWhile (· ≠ c)).drop 1).head? = some ':'
      let answer (s : Shell) (letter : Octets) (value : Option Octets) : Shell :=
        let s := s.assign key letter
        match value with
        | some text => s.assign "OPTARG" text
        | none => s.dropVariable "OPTARG"
      if known.isNone then
        if !silent then tells "Illegal option -" "illegal option" c
        modify fun s => answer (step s) ['?'] (if silent then some [c] else none)
        quiet 0
      else if !takesValue then
        modify fun s => answer (step s) [c] (if s.isRich then none else some [])
        quiet 0
      else if !isLast then
        modify fun s => answer (place (index + 1) 0 s) [c] (some (word.drop (offset + 1)))
        quiet 0
      else match args[index]? with
        | some value =>
          modify fun s => answer (place (index + 2) 0 s) [c] (some value)
          quiet 0
        | none =>
          if !silent then tells "No arg for -" "option requires an argument" c
          modify fun s =>
            answer (place (index + 1) 0 s) [if silent then ':' else '?'] (if silent then some [c] else none)
          quiet 0
  | _ => do
    if (← get).isRich then
      let _ ← say 2 "getopts: usage: getopts optstring name [arg ...]\n".toList
      quiet 2
    else refuse false "Usage: getopts optstring var [arg...]".toList

def placeText (place : Place) : Octets := if place.isEmpty then ['/'] else octets (place.flatMap (Path.slash :: ·))

def changeDir : Builtin := fun words => do
  let s ← get
  let words := words.filter fun w => w ≠ "-P".toList ∧ w ≠ "-L".toList ∧ w ≠ "--".toList
  let home := (s.value? "HOME").getD []
  let old := (s.value? "OLDPWD").getD (placeText s.here)
  let target := match words with
    | [] => home
    | ['-'] :: _ => old
    | w :: _ => w
  if target.isEmpty then quiet 0
  else
    match s.world.tree.find s.here ⟨bytesOf target⟩ with
    | .ok place =>
      if s.world.tree.isDir place then
        set ({ (s.assign "OLDPWD" (placeText s.here)).assign "PWD" (placeText place) with here := place })
        return ⟨0, if words.head? = some ['-'] then placeText place ++ ['\n'] else []⟩
      else refuse false ("can't cd to ".toList ++ target)
    | .error _ => refuse false ("can't cd to ".toList ++ target)

/-- A line of input with its escapes: each octet and whether a backslash protects it. A line that ends in a
backslash goes on in the next one. -/
def readEscaped (raw : Bool) : Nat → List (Char × Bool) → Exec (List (Char × Bool) × Bool)
  | 0, read => return (read, false)
  | fuel + 1, read => do
    let s ← get
    match s.streams.lookup 0 with
    | none => return (read, false)
    | some n =>
      let (line, w) := s.world.readLine n
      set { s with world := w }
      let complete := line.getLast? = some '\n'
      let body := if complete then line.dropLast else line
      let rec marked : Octets → List (Char × Bool) × Bool
        | [] => ([], false)
        | ['\\'] => ([], true)
        | '\\' :: c :: rest => let (cs, open_) := marked rest; ((c, true) :: cs, open_)
        | c :: rest => let (cs, open_) := marked rest; ((c, false) :: cs, open_)
      if raw then return (read ++ body.map fun c => (c, false), complete)
      let (cs, open_) := marked body
      if open_ ∧ complete then readEscaped raw fuel (read ++ cs) else return (read ++ cs, complete)

def distribute (separators : Octets) : List Octets → List (Char × Bool) → List (Octets × Octets)
  | [], _ => []
  | [name], cs =>
    let blank (x : Char × Bool) : Bool := !x.2 && separators.contains x.1 && isBlankOctet x.1
    let mark (x : Char × Bool) : Bool := !x.2 && separators.contains x.1
    let body := ((cs.dropWhile blank).reverse.dropWhile blank).reverse
    let field := body.takeWhile fun x => !mark x
    let after := (body.drop field.length).dropWhile blank
    let only := match after with
      | [x] => mark x && !blank x
      | _ => false
    [(name, (if only then field else body).map Prod.fst)]
  | name :: rest, cs =>
    let blank (x : Char × Bool) : Bool := !x.2 && separators.contains x.1 && isBlankOctet x.1
    let mark (x : Char × Bool) : Bool := !x.2 && separators.contains x.1
    let cs := cs.dropWhile blank
    let field := cs.takeWhile fun x => !mark x
    let after := (cs.drop field.length).dropWhile blank
    let after := match after with
      | x :: more => if mark x then more.dropWhile blank else x :: more
      | [] => []
    (name, field.map Prod.fst) :: distribute separators rest after

def readLine : Builtin := fun words =>
  withLetters false "r" "p" words fun found names => do
    if names.isEmpty then return ← refuse false "arg count".toList
    match names.find? fun n => !isName n with
    | some n => refuse false (n ++ ": bad variable name".toList)
    | none =>
      let (cs, complete) ← readEscaped (found.any (·.1 = 'r')) World.plenty []
      for (name, text) in distribute (← get).separators names cs do assignOr (String.ofList name) text
      quiet (if complete then 0 else 1)

def trapList (s : Shell) : Octets :=
  let named := (s.traps.mergeSort fun a b => a.1 ≤ b.1)
  named.flatMap fun (n, action) =>
    let name := if n = 0 then "EXIT" else ((signalNames.find? (·.2 = n)).map Prod.fst).getD (toString n)
    "trap -- ".toList ++ singleQuoted action ++ [' '] ++ name.toList ++ ['\n']

def trapAll (action : Option Octets) : List Octets → Exec Reply
  | [] => quiet 0
  | word :: rest => do
    match signal? word with
    | none =>
      let _ ← say 2 ("trap: ".toList ++ word ++ ": bad trap\n".toList)
      quiet 1
    | some n =>
      modify fun s =>
        let others := s.traps.filter (·.1 ≠ n)
        { s with traps := match action with
          | some text => (n, text) :: others
          | none => others }
      trapAll action rest

def trap : Builtin := fun words => do
  match (if words.head? = some "--".toList then words.tail else words) with
  | [] => return ⟨0, trapList (← get)⟩
  | [word] => trapAll none [word]
  | ['-'] :: rest => trapAll none rest
  | word :: rest =>
    if (signal? word).isSome ∧ word.all Char.isDigit then trapAll none (word :: rest)
    else trapAll (some word) rest

def deliver (signal target : Nat) : Exec Bool := do
  let s ← get
  match s.jobs.find? (·.number = target) with
  | some job =>
    if signal ≠ 0 ∧ s.world.clock < job.ends ∧ !isHarmless signal then
      let killed : Job := ⟨target, s.world.clock, .killed signal⟩
      set { s with jobs := killed :: s.jobs.filter (·.number ≠ target) }
    return true
  | none =>
    if target = s.number ∨ target = s.self ∨ World.firstNumber ≤ target ∧ target < s.world.next then
      set { s with world := { s.world with signals := s.world.signals ++ [(target, signal)] } }
      return true
    else return false

def killAll (signal : Nat) : List Octets → Exec Reply
  | [] => quiet 0
  | word :: rest => do
    let digits := if word.head? = some '-' then word.tail else word
    if digits = [] ∨ !digits.all Char.isDigit then refuse false ("Illegal number: ".toList ++ word)
    else if ← deliver signal (valueIn 10 digits) then killAll signal rest
    else do
      complain "No such process\n".toList
      let _ ← killAll signal rest
      quiet 1

def killUsage : Octets :=
  "Usage: kill [-s sigspec | -signum | -sigspec] [pid | job]... or\nkill -l [exitstatus]".toList

def kill : Builtin
  | [] => refuse false killUsage
  | ['-', 'l'] :: rest => do
    match rest with
    | [] => return ⟨0, ['0', '\n'] ++ signalNames.flatMap fun n => n.1.toList ++ ['\n']⟩
    | word :: _ =>
      let n := valueIn 10 word
      match signalNames.find? fun x => x.2 = if 128 < n then n - 128 else n with
      | some x => return ⟨0, x.1.toList ++ ['\n']⟩
      | none => refuse false ("invalid signal number or exit status: ".toList ++ word)
  | ['-', 's'] :: rest =>
    match rest with
    | [] => refuse false "No arg for -s option".toList
    | word :: targets =>
      match signal? word with
      | none => refuse false ("invalid signal number or name: ".toList ++ word)
      | some n => if targets.isEmpty then refuse false killUsage else killAll n targets
  | ['-', '-'] :: rest => if rest.isEmpty then refuse false killUsage else killAll 15 rest
  | ('-' :: c :: cs) :: rest =>
    match signal? (c :: cs) with
    | none => refuse false ("Illegal option -".toList ++ [c])
    | some n => if rest.isEmpty then refuse false killUsage else killAll n rest
  | words => killAll 15 words

def awaitJob (j : Job) : Exec Unit := do
  modify fun s => { s with world := s.world.waitUntil j.ends, jobs := s.jobs.filter (·.number ≠ j.number) }
  match j.ending with
  | .killed n =>
    match signalWords n with
    | some text =>
      let _ ← say 2 (text ++ ['\n'])
    | none => pure ()
  | _ => pure ()

def wait : Builtin := fun words => do
  let s ← get
  if words.isEmpty then
    for j in s.jobs do awaitJob j
    checkTime
    quiet 0
  else
    let mut status := 0
    for word in words do
      let word := if word.head? = some '%' then word.tail else word
      match (← get).jobs.find? fun j => digits j.number = word with
      | some j =>
        awaitJob j
        status := statusOf j.ending
      | none => status := 127
    checkTime
    quiet status

def loopFlow (f : Nat → Flow) : Builtin := fun words => natural (words.headD ['1']) fun n => do
  if n = 0 then refuse true ("Illegal number: ".toList ++ words.headD [])
  else
    let s ← get
    if s.loops ≠ 0 then set { s with flow := some (f (min n s.loops)) }
    quiet 0

def exit : Builtin := fun words => do
  match words with
  | [] =>
    let n := (← get).status
    finish (.exited n)
    quiet n
  | word :: _ => natural word fun n => do
    finish (.exited (n % 256))
    quiet (n % 256)

def returnFrom : Builtin := fun words => do
  let back (n : Nat) : Exec Reply := do
    modify fun s => { s with flow := some .back }
    quiet n
  match words with
  | [] => back (← get).status
  | word :: _ => natural word fun n => back (n % 256)

def testWords (words : List Octets) : Exec Reply := do
  let s ← get
  match test ⟨s.world.tree, s.here⟩ words with
  | .ok b => quiet (if b then 0 else 1)
  | .error e => refuse false e.message

def bracket : Builtin := fun words =>
  if words.getLast? = some [']'] then testWords words.dropLast else refuse false "missing ]".toList

def printFormat : Builtin := fun words => do
  match (if words.head? = some "--".toList then words.tail else words) with
  | [] => refuse false "usage: printf format [arg ...]".toList
  | format :: args =>
    let (said, status) := printf .inShell 0 format args
    for (stream, text) in said do if stream ≠ 1 then complain text
    return ⟨status, said.flatMap fun x => if x.1 = 1 then x.2 else []⟩

def searchPath (s : Shell) (name : Octets) : Option Octets :=
  let isProgram (path : Octets) : Bool :=
    match (s.world.tree.find s.here ⟨bytesOf path⟩).toOption.bind s.world.tree.entry? with
    | some e => e.isProgram
    | _ => false
  if name.contains '/' then if isProgram name then some name else none
  else
    let dirs := ((s.value? "PATH").getD []).splitOn ':'
    (dirs.map fun dir => if dir.isEmpty then name else dir ++ ['/'] ++ name).find? isProgram

def hash : Builtin := fun words => do
  let s ← get
  match words.find? fun w => w.head? ≠ some '-' && (searchPath s w).isNone with
  | some w =>
    complain (w ++ ": not found".toList)
    quiet 1
  | none => quiet 0

def umask : Builtin := fun words =>
  withLetters false "S" "" words fun found rest => do
    let mask := (← get).mask
    match rest with
    | [] => return ⟨0, (if found.isEmpty then octalText 4 mask else maskText mask) ++ ['\n']⟩
    | word :: _ =>
      if word.head?.any Char.isDigit then
        if word.all isOctal then
          modify fun s => { s with mask := Nat.land (valueIn 8 word) 0o777 }
          quiet 0
        else refuse false ("Illegal number: ".toList ++ word)
      else match applyChanges 0 false word (withoutBits 0o777 mask) with
        | some mode =>
          modify fun s => { s with mask := withoutBits 0o777 mode }
          quiet 0
        | none => refuse false ("Illegal mode: ".toList ++ word)

/-- A name and the text that it stands for, as they can be written in a script. -/
def aliasText (a : Octets × Octets) : Octets := a.1 ++ '=' :: singleQuoted a.2

def aliasAll : List Octets → Exec Reply
  | [] => quiet 0
  | word :: rest => do
    let s ← get
    match definition word, s.aliases.find? (·.1 = word) with
    | (name, some text), _ =>
      set { s with aliases := (name, text) :: s.aliases.filter (·.1 ≠ name) }
      aliasAll rest
    | _, some a =>
      let r ← aliasAll rest
      return { r with out := aliasText a ++ ['\n'] ++ r.out }
    | _, none =>
      let _ ← say 2 ("alias: ".toList ++ word ++ " not found\n".toList)
      let r ← aliasAll rest
      return { r with status := 1 }

def defineAliases : Builtin := fun words => do
  if words.isEmpty then
    let known := (← get).aliases.mergeSort fun a b => octetsLe a.1 b.1
    return ⟨0, known.flatMap fun a => aliasText a ++ ['\n']⟩
  else aliasAll words

def unaliasAll : List Octets → Exec Reply
  | [] => quiet 0
  | word :: rest => do
    let s ← get
    if s.aliases.any (·.1 = word) then
      set { s with aliases := s.aliases.filter (·.1 ≠ word) }
      unaliasAll rest
    else
      let _ ← say 2 ("unalias: ".toList ++ word ++ " not found\n".toList)
      let r ← unaliasAll rest
      return { r with status := 1 }

def unalias : Builtin := fun words =>
  withLetters false "a" "" words fun found rest => do
    if found.isEmpty then unaliasAll rest
    else
      modify fun s => { s with aliases := [] }
      quiet 0

def builtins : List (String × Builtin) := [
  (":", fun _ => quiet 0), ("true", fun _ => quiet 0), ("false", fun _ => quiet 1),
  ("echo", fun words => return ⟨0, echoEscaped words⟩), ("printf", printFormat), ("test", testWords),
  ("[", bracket),
  ("cd", changeDir), ("chdir", changeDir), ("pwd", fun _ => do return ⟨0, placeText (← get).here ++ ['\n']⟩),
  ("export", marking "export" Variable.exported fun v => { v with exported := true }),
  ("readonly", marking "readonly" Variable.readonly fun v => { v with readonly := true }),
  ("unset", unset), ("local", localise), ("set", setBuiltin), ("shift", shift), ("getopts", getopts),
  ("read", readLine), ("trap", trap), ("kill", kill), ("wait", wait), ("break", loopFlow .leave),
  ("continue", loopFlow .again), ("exit", exit), ("return", returnFrom),
  ("umask", umask),
  ("ulimit", fun _ => return ⟨0, "unlimited\n".toList⟩), ("alias", defineAliases), ("unalias", unalias),
  ("jobs", fun _ => quiet 0), ("bg", fun _ => refuse false "No current job".toList),
  ("fg", fun _ => refuse false "No current job".toList),
  ("times", fun _ => return ⟨0, "0m0.000000s 0m0.000000s\n0m0.000000s 0m0.000000s\n".toList⟩),
  ("hash", hash)]

end PassDelta.Machine.Shell
