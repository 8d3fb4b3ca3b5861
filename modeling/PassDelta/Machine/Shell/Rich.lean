import PassDelta.Machine.Shell.Check
import PassDelta.Machine.Shell.Intake
/-!
# Commands of the rich shell

Those commands of the rich shell itself that need nothing run, beside those that declare, read and test: they write,
change directories, set traps, send signals and wait, and leave loops and functions.
-/

namespace PassDelta.Machine.Shell

def richEcho : Builtin := fun words => do return ⟨0, echoPlain (.richLine (← get).isWide) words⟩

def richPrint : Builtin := fun words => do
  let write (target : Option Octets) (words : List Octets) : Exec Reply := do
    match words with
    | [] =>
      tellUsage "printf"
      quiet 2
    | format :: args =>
      let s ← get
      let (said, status) := printf (.rich s.isWide) (s.world.clock / tenTo 9) format args
      let out := said.flatMap fun x => if x.1 = 1 then x.2 else []
      for (stream, text) in said do if stream ≠ 1 then complain text
      match target with
      | none => return ⟨status, out⟩
      | some name => if ← giveTo name out then quiet status else quiet 1
  match words with
  | ['-', 'v'] :: name :: rest =>
    if (Setting.ofText? (name ++ ['='])).isNone then
      complain (['`'] ++ name ++ "': not a valid identifier".toList)
      quiet 2
    else write (some name) (if rest.head? = some "--".toList then rest.tail else rest)
  | ['-', 'v'] :: _ => misused "printf" "-v: option requires an argument".toList
  | ['-', '-'] :: rest => write none rest
  | ('-' :: c :: _) :: _ => misused "printf" (['-', c] ++ ": invalid option".toList)
  | words => write none words

/-- A path from the root without the names that every directory has for itself and the one above. -/
def tidyPath (path : Octets) : Octets :=
  let parts := path.splitOn '/'
  let kept := parts.foldl (fun (done : List Octets) part =>
    if part.isEmpty ∨ part = ['.'] then done else if part = ['.', '.'] then done.tail else part :: done) []
  '/' :: ['/'].intercalate kept.reverse

def knownHere (s : Shell) : Octets :=
  match s.value? "PWD" with
  | some path =>
    if path.head? = some '/' ∧ (s.world.tree.find s.here ⟨bytesOf path⟩).toOption = some s.here then path
    else placeText s.here
  | none => placeText s.here

def goTo (s : Shell) (physical : Bool) (target : Octets) : Except IoError Shell := do
  let full := if target.head? = some '/' then target else knownHere s ++ ['/'] ++ target
  let path := if physical then target else tidyPath full
  let place ← s.world.tree.find s.here ⟨bytesOf path⟩
  if !s.world.tree.isDir place then throw .enotdir
  let s' := (s.assign "OLDPWD" (knownHere s)).assign "PWD" (if physical then placeText place else path)
  return { s' with here := place }

def richCd : Builtin := fun words =>
  withOptions "cd" "LPe@" "" words fun found rest => do
    let s ← get
    let go (shows : Bool) (target : Octets) : Exec Reply := do
      match goTo s (found.getLast?.any (·.1 = 'P')) target with
      | .ok s' =>
        set s'
        return ⟨0, if shows then s'.value "PWD" ++ ['\n'] else []⟩
      | .error e => failed (target ++ ": ".toList ++ octetsOfText e.words)
    match rest with
    | [] => match s.value? "HOME" with
      | some home => if home.isEmpty then quiet 0 else go false home
      | none => failed "HOME not set".toList
    | [['-']] => match s.value? "OLDPWD" with
      | some old => go true old
      | none => failed "OLDPWD not set".toList
    | [target] =>
      let through := ((s.value? "CDPATH").getD []).splitOn ':'
      let isOwn := target.isEmpty || target.head? = some '/' || ['.'] = target || ['.', '.'] = target ||
        "./".toList.isPrefixOf target || "../".toList.isPrefixOf target
      let found? := if isOwn then none
        else (through.filter (· ≠ [])).find? fun dir => (goTo s false (dir ++ ['/'] ++ target)).isOk
      match found? with
      | some dir => go true (dir ++ ['/'] ++ target)
      | none => if target.isEmpty then quiet 0 else go false target
    | _ => failed "too many arguments".toList

def richPwd : Builtin := fun words =>
  withOptions "pwd" "LP" "" words fun found _ => do
    let s ← get
    return ⟨0, (if found.getLast?.any (·.1 = 'P') then placeText s.here else knownHere s) ++ ['\n']⟩

def shortPath (s : Shell) (path : Octets) : Octets :=
  match s.value? "HOME" with
  | some home =>
    if !home.isEmpty ∧ home ≠ ['/'] ∧ (path = home ∨ (home ++ ['/']).isPrefixOf path) then '~' :: path.drop home.length
    else path
  | none => path

def stackLine (s : Shell) : Octets := [' '].intercalate ((knownHere s :: s.dirs).map (shortPath s)) ++ ['\n']

/-- The place in the stack of directories that a word counts to, from its front or its end. -/
def stackPlace? (s : Shell) (word : Octets) : Option Nat :=
  let size := s.dirs.length + 1
  match word with
  | sign :: ds =>
    if ds.isEmpty ∨ !ds.all Char.isDigit then none
    else if sign = '+' then some (valueIn 10 ds)
    else if sign = '-' then some (if valueIn 10 ds < size then size - 1 - valueIn 10 ds else size)
    else none
  | [] => none

def takeStack (stack : List Octets) : Exec Reply := do
  match stack with
  | [] => quiet 0
  | first :: rest =>
    match goTo (← get) false first with
    | .ok s =>
      let s := { s with dirs := rest }
      set s
      return ⟨0, stackLine s⟩
    | .error e => failed (first ++ ": ".toList ++ octetsOfText e.words)

def pushd : Builtin := fun words => do
  let s ← get
  let stack := knownHere s :: s.dirs
  let (stays, words) := match words with
    | ['-', 'n'] :: rest => (true, rest)
    | rest => (false, rest)
  let words := if words.head? = some "--".toList then words.tail else words
  match words with
  | [] => match s.dirs with
    | [] => failed "no other directory".toList
    | next :: rest => takeStack (next :: knownHere s :: rest)
  | [word] =>
    match stackPlace? s word with
    | some n =>
      if s.dirs.isEmpty then failed "directory stack empty".toList
      else if stack.length ≤ n then failed (word ++ ": directory stack index out of range".toList)
      else takeStack (stack.drop n ++ stack.take n)
    | none =>
      if stays then
        let s := { s with dirs := word :: s.dirs }
        set s
        return ⟨0, stackLine s⟩
      else match goTo s false word with
        | .ok s' =>
          let s' := { s' with dirs := stack }
          set s'
          return ⟨0, stackLine s'⟩
        | .error e => failed (word ++ ": ".toList ++ octetsOfText e.words)
  | _ => failed "too many arguments".toList

def popd : Builtin := fun words => do
  let s ← get
  let stack := knownHere s :: s.dirs
  let (stays, words) := match words with
    | ['-', 'n'] :: rest => (true, rest)
    | rest => (false, rest)
  if s.dirs.isEmpty then failed "directory stack empty".toList
  else match words with
    | [] =>
      if stays then
        let s := { s with dirs := s.dirs.tail }
        set s
        return ⟨0, stackLine s⟩
      else takeStack s.dirs
    | word :: _ =>
      match stackPlace? s word with
      | some n =>
        if n = 0 then takeStack s.dirs
        else if stack.length ≤ n then failed (word ++ ": directory stack index out of range".toList)
        else
          let s := { s with dirs := s.dirs.eraseIdx (n - 1) }
          set s
          return ⟨0, stackLine s⟩
      | none => misused "popd" (word ++ ": invalid argument".toList)

def tellDirs : Builtin := fun words => do
  let s ← get
  let stack := knownHere s :: s.dirs
  let flags := (words.filter fun w => w.head? = some '-' && !w.tail.all Char.isDigit).flatten
  let short (path : Octets) : Octets := if flags.contains 'l' then path else shortPath s path
  if flags.contains 'c' then
    set { s with dirs := [] }
    quiet 0
  else match words.findSome? (stackPlace? s) with
    | some n =>
      match stack[n]? with
      | some path => return ⟨0, short path ++ ['\n']⟩
      | none =>
        if s.dirs.isEmpty then failed "directory stack empty".toList
        else failed (digits n ++ ": directory stack index out of range".toList)
    | none =>
      let paths := stack.map short
      if flags.contains 'v' then
        let line (path : Octets) (n : Nat) : Octets :=
          List.replicate (2 - (digits n).length) ' ' ++ digits n ++ [' ', ' '] ++ path ++ ['\n']
        return ⟨0, (paths.zipIdx.map fun (path, n) => line path n).flatten⟩
      else if flags.contains 'p' then return ⟨0, paths.flatMap fun path => path ++ ['\n']⟩
      else return ⟨0, [' '].intercalate paths ++ ['\n']⟩

/-- The number of a word that must be whole, or a complaint that passes over the rest of the line. -/
def numeric (words : List Octets) (act : Int → Exec Reply) : Exec Reply := do
  match words with
  | [] => act 1
  | word :: rest =>
    match decimalNumber? word with
    | none => failed (word ++ ": numeric argument required".toList)
    | some n =>
      if rest.isEmpty then act n
      else
        dropAll "too many arguments".toList
        quiet 1

def richShift : Builtin := fun words => numeric words fun n => do
  let s ← get
  if n < 0 then failed (toString n ++ ": shift count out of range").toList
  else if n.toNat ≤ s.positional.length then
    set { s with positional := s.positional.drop n.toNat }
    quiet 0
  else quiet 1

def richLoopFlow (f : Nat → Flow) : Builtin := fun words => do
  let s ← get
  if s.loops = 0 then
    complain "only meaningful in a `for', `while', or `until' loop".toList
    quiet 0
  else match words with
    | word :: _ =>
      if (decimalNumber? word).isNone then
        complain (word ++ ": numeric argument required".toList)
        finish (.exited 128)
        return ⟨128, []⟩
      else numeric words fun n => do
        if n ≤ 0 then
          complain (word ++ ": loop count out of range".toList)
          modify fun s => { s with flow := some (.leave s.loops) }
          quiet 1
        else
          modify fun s => { s with flow := some (f (min n.toNat s.loops)) }
          quiet 0
    | [] =>
      set { s with flow := some (f 1) }
      quiet 0

def richExit : Builtin := fun words => do
  let leave (n : Nat) : Exec Reply := do
    finish (.exited n)
    quiet n
  match words with
  | [] => leave (← get).status
  | word :: rest =>
    match decimalNumber? word with
    | none =>
      complain (word ++ ": numeric argument required".toList)
      leave 2
    | some n =>
      if rest.isEmpty then leave (n % 256).toNat
      else
        dropAll "too many arguments".toList
        quiet 1

def richReturn : Builtin := fun words => do
  let s ← get
  let back (n : Nat) : Exec Reply := do
    modify fun s => { s with flow := some .back }
    quiet n
  if !s.callers.any (·.function ≠ "main") then
    complain "can only `return' from a function or sourced script".toList
    quiet 2
  else match words with
    | [] => back s.status
    | word :: rest =>
      match decimalNumber? word with
      | none =>
        complain (word ++ ": numeric argument required".toList)
        back 2
      | some n =>
        if rest.isEmpty then back (n % 256).toNat
        else
          dropAll "too many arguments".toList
          quiet 1

def letAll : List Octets → Int → Exec Reply
  | [], n => quiet (if n = 0 then 1 else 0)
  | word :: rest, _ => do
    match ← (valueOfSum word).run with
    | .ok n => letAll rest n
    | .error (.told text) => failed text
    | .error f =>
      modify fun s => { s with speaker := none }
      give (.ofReckoning f)
      modify fun s => { s with flow := if s.flow = some .dropped then none else s.flow }
      quiet 1

def letWords : Builtin := fun words => do
  if words.isEmpty then failed "expression expected".toList else letAll words 0

def traceEvents : List (String × Nat) := [("DEBUG", 65), ("ERR", 66), ("RETURN", 67)]

def richSignal? (word : Octets) : Option Nat :=
  if word ≠ [] ∧ word.all Char.isDigit then some (valueIn 10 word) |>.filter (· ≤ 64)
  else
    let name := String.ofList (word.map Char.toUpper)
    let plain := if name.startsWith "SIG" then String.ofList (name.toList.drop 3) else name
    if name = "EXIT" then some 0 else (signalNames.lookup plain).or (traceEvents.lookup name)

def richSignalName (n : Nat) : String :=
  if n = 0 then "EXIT"
  else match signalNames.find? (·.2 = n), traceEvents.find? (·.2 = n) with
    | some x, _ => "SIG" ++ x.1
    | none, some x => x.1
    | none, none => if 34 ≤ n then "SIGRTMIN" ++ (if n = 34 then "" else "+" ++ toString (n - 34)) else toString n

def signalTable : Octets :=
  let realTime (n : Nat) : String :=
    if n = 34 then "SIGRTMIN" else if n = 64 then "SIGRTMAX"
    else if n ≤ 49 then "SIGRTMIN+" ++ toString (n - 34) else "SIGRTMAX-" ++ toString (64 - n)
  let all := signalNames.map (fun x => (x.2, "SIG" ++ x.1)) ++
    ((List.range 31).map (· + 34)).map fun n => (n, realTime n)
  let cell (x : Nat × String) : Octets := List.replicate (2 - (digits x.1).length) ' ' ++ digits x.1 ++ ") ".toList ++ x.2.toList
  let joined := all.zipIdx.flatMap fun (x, i) =>
    cell x ++ if (i + 1) % 5 = 0 ∨ i + 1 = all.length then ['\n'] else ['\t']
  joined

def trapLine (n : Nat) (action : Octets) : Octets :=
  "trap -- ".toList ++ quotedValue action ++ [' '] ++ (richSignalName n).toList ++ ['\n']

def richTrapAll (action : Option Octets) : List Octets → Nat → Exec Reply
  | [], status => quiet status
  | word :: rest, status => do
    match richSignal? word with
    | none =>
      complain (word ++ ": invalid signal specification".toList)
      richTrapAll action rest 1
    | some n =>
      modify fun s =>
        let others := s.traps.filter (·.1 ≠ n)
        { s with traps := match action with
          | some text => (n, text) :: others
          | none => others }
      richTrapAll action rest status

def richTrap : Builtin := fun words =>
  withOptions "trap" "lp" "" words fun found rest => do
    let s ← get
    let known := s.traps.mergeSort fun a b => a.1 ≤ b.1
    if found.any (·.1 = 'l') then return ⟨0, signalTable⟩
    else if found.any (·.1 = 'p') ∧ !rest.isEmpty then
      return ⟨0, rest.flatMap fun w => ((richSignal? w).bind fun n => (s.traps.lookup n).map (trapLine n)).getD []⟩
    else match rest with
      | [] => return ⟨0, known.flatMap fun (n, action) => trapLine n action⟩
      | [word] =>
        if (richSignal? word).isSome then richTrapAll none [word] 0
        else
          tellUsage "trap"
          quiet 2
      | ['-'] :: names => richTrapAll none names 0
      | word :: names =>
        if word ≠ [] ∧ word.all Char.isDigit ∧ (richSignal? word).isSome then richTrapAll none rest 0
        else richTrapAll (some word) names 0

def killEach (signal : Nat) : List Octets → Nat → Exec Reply
  | [], status => quiet status
  | word :: rest, status => do
    let ds := if word.head? = some '-' then word.tail else word
    if word.head? = some '%' then
      complain (word ++ ": no such job".toList)
      killEach signal rest 1
    else if word.isEmpty then
      complain "`': not a pid or valid job spec".toList
      killEach signal rest 1
    else if ds = [] ∨ !ds.all Char.isDigit then
      complain (word ++ ": arguments must be process or job IDs".toList)
      killEach signal rest 1
    else if ← deliver signal (valueIn 10 ds) then killEach signal rest status
    else
      complain ("(".toList ++ word ++ ") - No such process".toList)
      killEach signal rest 1

def richKill : Builtin := fun words => do
  let usage : Exec Reply := do
    tellUsage "kill"
    quiet 2
  let send (word : Octets) (targets : List Octets) : Exec Reply := do
    match richSignal? word with
    | none => failed (word ++ ": invalid signal specification".toList)
    | some n => if targets.isEmpty then usage else killEach n targets 0
  match words with
  | [] => usage
  | ['-', 'l'] :: rest =>
    if rest.isEmpty then return ⟨0, signalTable⟩
    else
      let mut out : Octets := []
      let mut status := 0
      for word in rest do
        if word ≠ [] ∧ word.all Char.isDigit then
          let n := valueIn 10 word
          let n := if 128 < n then n - 128 else n
          match (signalNames.find? (·.2 = n)), n with
          | some x, _ => out := out ++ x.1.toList ++ ['\n']
          | none, 0 => out := out ++ "EXIT\n".toList
          | none, _ =>
            complain (word ++ ": invalid signal specification".toList)
            status := 1
        else match richSignal? word with
          | some n => out := out ++ digits n ++ ['\n']
          | none =>
            complain (word ++ ": invalid signal specification".toList)
            status := 1
      return ⟨status, out⟩
  | ['-', 's'] :: name :: rest => send name rest
  | ['-', 'n'] :: name :: rest => send name rest
  | ['-', '-'] :: rest => if rest.isEmpty then usage else killEach 15 rest 0
  | ('-' :: c :: cs) :: rest => send (c :: cs) rest
  | words => killEach 15 words 0

def richWait : Builtin := fun words =>
  withOptions "wait" "fn" "p" words fun found rest => do
    let s ← get
    if rest.isEmpty then
      let chosen := if found.any (·.1 = 'n') then
          ((s.jobs.filter fun j => s.world.clock < j.ends).mergeSort fun a b => a.ends ≤ b.ends).take 1
        else s.jobs
      for j in chosen do modify fun s => { s with world := s.world.waitUntil j.ends }
      checkTime
      quiet (if found.any (·.1 = 'n') then (chosen.head?.map fun j => statusOf j.ending).getD 127 else 0)
    else
      let mut status := 0
      for word in rest do
        if word.head? = some '%' then
          complain (word ++ ": no such job".toList)
          status := 127
        else if word = [] ∨ !word.all Char.isDigit then
          complain (['`'] ++ word ++ "': not a pid or valid job spec".toList)
          status := 1
        else match (← get).jobs.find? fun j => digits j.number = word with
          | some j =>
            modify fun s => { s with world := s.world.waitUntil j.ends }
            status := statusOf j.ending
          | none =>
            complain ("pid ".toList ++ word ++ " is not a child of this shell".toList)
            status := 127
      checkTime
      quiet status

def richUmask : Builtin := fun words =>
  withOptions "umask" "pS" "" words fun found rest => do
    let mask := (← get).mask
    let symbolic := found.any (·.1 = 'S')
    let before : Octets :=
      if found.any (·.1 = 'p') then "umask ".toList ++ if symbolic then "-S ".toList else [] else []
    let told (mask : Nat) : Octets := before ++ (if symbolic then maskText mask else octalText 4 mask) ++ ['\n']
    match rest with
    | [] => return ⟨0, told mask⟩
    | word :: _ =>
      if word.head?.any Char.isDigit then
        if word.all isOctal then
          let new := Nat.land (valueIn 8 word) 0o777
          modify fun s => { s with mask := new }
          return ⟨0, if symbolic then told new else []⟩
        else failed (word ++ ": octal number out of range".toList)
      else match applyChanges 0 false word (withoutBits 0o777 mask) with
        | some mode =>
          let new := withoutBits 0o777 mode
          modify fun s => { s with mask := new }
          return ⟨0, if symbolic then told new else []⟩
        | none =>
          let known := "ugoa".toList
          let sign := (word.dropWhile known.contains).head?.getD ' '
          if "+-=".toList.contains sign then
            let bad := ((word.dropWhile known.contains).drop 1).find? fun c => !"rwxXstugo,+-=".toList.contains c
            failed (['`', bad.getD ' '] ++ "': invalid symbolic mode character".toList)
          else failed (['`', sign] ++ "': invalid symbolic mode operator".toList)

def caller : Builtin := fun words => do
  let s ← get
  match words with
  | [] =>
    match s.callers with
    | f :: g :: _ => return ⟨0, digits f.line ++ [' '] ++ g.source ++ ['\n']⟩
    | [f] => if f.function = "main" then quiet 1 else return ⟨0, digits f.line ++ " NULL\n".toList⟩
    | [] => quiet 1
  | word :: _ =>
    let n := valueIn 10 word
    match s.callers[n]?, s.callers[n + 1]? with
    | some f, some g =>
      return ⟨0, digits f.line ++ [' '] ++ g.function.toList ++ [' '] ++ g.source ++ ['\n']⟩
    | _, _ => quiet 1

def richHash : Builtin := fun words =>
  withOptions "hash" "lrdt" "p" words fun found names => do
    let s ← get
    if names.isEmpty then return ⟨0, if found.isEmpty then "hash: hash table empty\n".toList else []⟩
    else match names.find? fun w => !w.contains '/' && (searchPath s w).isNone && !builtins.any (·.1 = String.ofList w) with
      | some w => failed (w ++ ": not found".toList)
      | none =>
        return ⟨0, if found.any (·.1 = 't') then names.flatMap fun w => (searchPath s w).getD [] ++ ['\n'] else []⟩

def richAliasText (a : Octets × Octets) : Octets := "alias ".toList ++ a.1 ++ '=' :: quotedValue a.2 ++ ['\n']

def richAlias : Builtin := fun words =>
  withOptions "alias" "p" "" words fun found names => do
    let mut out : Octets := []
    let mut status := 0
    if names.isEmpty ∨ found ≠ [] then
      out := ((← get).aliases.mergeSort fun a b => octetsLe a.1 b.1).flatMap richAliasText
    for word in names do
      match definition word, (← get).aliases.find? (·.1 = word) with
      | (name, some text), _ => modify fun s => { s with aliases := (name, text) :: s.aliases.filter (·.1 ≠ name) }
      | _, some a => out := out ++ richAliasText a
      | _, none =>
        complain (word ++ ": not found".toList)
        status := 1
    return ⟨status, out⟩

def richUnalias : Builtin := fun words =>
  withOptions "unalias" "a" "" words fun found names => do
    if found ≠ [] then
      modify fun s => { s with aliases := [] }
      quiet 0
    else if names.isEmpty then
      tellUsage "unalias"
      quiet 2
    else
      let mut status := 0
      for word in names do
        if (← get).aliases.any (·.1 = word) then
          modify fun s => { s with aliases := s.aliases.filter (·.1 ≠ word) }
        else
          complain (word ++ ": not found".toList)
          status := 1
      quiet status

def limits : Builtin := fun words =>
  withOptions "ulimit" "SHabcdefiklmnpqrstuvxPRT" "" words fun found rest => do
    if !rest.isEmpty then quiet 0
    else return ⟨0, (match found.getLast? with
      | some ('c', _) => "0\n"
      | some ('n', _) => "1024\n"
      | some ('p', _) => "8\n"
      | some ('s', _) => "8192\n"
      | _ => "unlimited\n").toList⟩

def uncontrolled (text : String) : Builtin := fun _ => failed text.toList

def richBuiltins : List (String × Builtin) := [
  (":", fun _ => quiet 0), ("true", fun _ => quiet 0), ("false", fun _ => quiet 1), ("echo", richEcho),
  ("printf", richPrint), ("test", richTest), ("[", richBracket), ("cd", richCd), ("pwd", richPwd), ("pushd", pushd),
  ("popd", popd), ("dirs", tellDirs), ("unset", richUnset), ("set", richSet), ("shopt", shopt), ("shift", richShift),
  ("getopts", getopts), ("read", richRead), ("mapfile", mapfile "mapfile"), ("readarray", mapfile "readarray"),
  ("trap", richTrap), ("kill", richKill), ("wait", richWait), ("break", richLoopFlow .leave),
  ("continue", richLoopFlow .again), ("exit", richExit), ("return", richReturn), ("let", letWords),
  ("umask", richUmask), ("ulimit", limits), ("alias", richAlias), ("unalias", richUnalias), ("hash", richHash),
  ("caller", caller), ("jobs", fun _ => quiet 0), ("bg", uncontrolled "no job control"),
  ("fg", uncontrolled "no job control"), ("suspend", uncontrolled "cannot suspend: no job control"),
  ("disown", uncontrolled "current: no such job"), ("logout", uncontrolled "not login shell: use `exit'"),
  ("times", fun _ => return ⟨0, "0m0.000s 0m0.000s\n0m0.000s 0m0.000s\n".toList⟩), ("enable", fun _ => quiet 0),
  ("history", fun _ => quiet 0), ("fc", fun _ => quiet 0), ("complete", fun _ => quiet 0),
  ("compgen", fun _ => quiet 1), ("compopt", fun _ => quiet 1),
  ("bind", fun _ => do
    complain "warning: line editing not enabled".toList
    quiet 0),
  ("help", fun _ => quiet 0)]

/-- The commands of the rich shell that run others, or get settings for words. -/
def runningBuiltins : List String :=
  [".", "source", "eval", "exec", "command", "builtin", "type", "declare", "typeset", "local", "export", "readonly"]

def isRichBuiltin (name : String) : Bool := richBuiltins.any (·.1 = name) || runningBuiltins.contains name

end PassDelta.Machine.Shell
