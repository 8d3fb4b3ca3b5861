import PassDelta.Machine.Shell.Builtin
import PassDelta.Machine.Quoting
/-!
# Options of the rich shell

Options with and without letters, and switches of their own kind, and the commands that tell and change them.
-/

namespace PassDelta.Machine.Shell

/-- The letters of options before the operands of a command of the rich shell, each with a value if it takes one. -/
def richLetters (flags valued : List Char) : Nat → List Octets → Except Octets (List (Char × Octets) × List Octets)
  | 0, words => .ok ([], words)
  | _ + 1, ['-', '-'] :: rest => .ok ([], rest)
  | fuel + 1, ('-' :: c :: cs) :: rest =>
    if flags.contains c then
      let more := if cs.isEmpty then rest else ('-' :: cs) :: rest
      (richLetters flags valued fuel more).map fun (found, left) => ((c, []) :: found, left)
    else if valued.contains c then
      match cs, rest with
      | [], value :: more => (richLetters flags valued fuel more).map fun (found, left) => ((c, value) :: found, left)
      | [], [] => .error (['-', c] ++ ": option requires an argument".toList)
      | cs, more => (richLetters flags valued fuel more).map fun (found, left) => ((c, cs) :: found, left)
    else .error (['-', c] ++ ": invalid option".toList)
  | _ + 1, words => .ok ([], words)

def usages : List (String × String) := [
  ("alias", "alias [-p] [name[=value] ... ]"), ("builtin", "builtin [shell-builtin [arg ...]]"),
  ("cd", "cd [-L|[-P [-e]] [-@]] [dir]"), ("command", "command [-pVv] command [arg ...]"),
  ("declare", "declare [-aAfFgiIlnrtux] [name[=value] ...] or declare -p [-aAfFilnrtux] [name ...]"),
  ("dirs", "dirs [-clpv] [+N] [-N]"), ("eval", "eval [arg ...]"),
  ("exec", "exec [-cl] [-a name] [command [argument ...]] [redirection ...]"),
  ("export", "export [-fn] [name[=value] ...] or export -p"), ("getopts", "getopts optstring name [arg ...]"),
  ("hash", "hash [-lr] [-p pathname] [-dt] [name ...]"),
  ("kill", "kill [-s sigspec | -n signum | -sigspec] pid | jobspec ... or kill -l [sigspec]"),
  ("local", "local [option] name[=value] ..."),
  ("mapfile", "mapfile [-d delim] [-n count] [-O origin] [-s count] [-t] [-u fd] [-C callback] [-c quantum] [array]"),
  ("popd", "popd [-n] [+N | -N]"), ("printf", "printf [-v var] format [arguments]"),
  ("pushd", "pushd [-n] [+N | -N | dir]"), ("pwd", "pwd [-LP]"),
  ("read", "read [-ers] [-a array] [-d delim] [-i text] [-n nchars] [-N nchars] [-p prompt] [-t timeout] [-u fd] [name ...]"),
  ("readarray",
    "readarray [-d delim] [-n count] [-O origin] [-s count] [-t] [-u fd] [-C callback] [-c quantum] [array]"),
  ("readonly", "readonly [-aAf] [name[=value] ...] or readonly -p"),
  ("set", "set [-abefhkmnptuvxBCEHPT] [-o option-name] [--] [-] [arg ...]"),
  ("shopt", "shopt [-pqsu] [-o] [optname ...]"), ("source", "source filename [arguments]"),
  (".", ". filename [arguments]"), ("trap", "trap [-lp] [[arg] signal_spec ...]"),
  ("type", "type [-afptP] name [name ...]"),
  ("typeset", "typeset [-aAfFgiIlnrtux] name[=value] ... or typeset -p [-aAfFilnrtux] [name ...]"),
  ("ulimit", "ulimit [-SHabcdefiklmnpqrstuvxPRT] [limit]"), ("umask", "umask [-p] [-S] [mode]"),
  ("unalias", "unalias [-a] name [name ...]"), ("unset", "unset [-f] [-v] [-n] [name ...]"),
  ("wait", "wait [-fn] [-p var] [id ...]")]

def tellUsage (name : String) : Exec Unit := do
  let _ ← say 2 (name ++ ": usage: " ++ (usages.lookup name).getD name ++ "\n").toList

def misused (name : String) (text : Octets) : Exec Reply := do
  complain text
  tellUsage name
  quiet 2

/-- Runs a command of the rich shell with the options that were read, or complains. -/
def withOptions (name flags valued : String) (words : List Octets)
    (act : List (Char × Octets) → List Octets → Exec Reply) : Exec Reply := do
  match richLetters flags.toList valued.toList (words.flatten.length + words.length + 1) words with
  | .ok (found, rest) => act found rest
  | .error text => misused name text

def failed (text : Octets) : Exec Reply := do
  complain text
  quiet 1

def turn (on : Bool) (name : String) : Exec Unit :=
  match richOptions.lookup name with
  | some (some c) => setOption on c
  | _ => modify fun s =>
    let others := s.switches.filter (· ≠ name)
    { s with switches := if on then name :: others else others }

def stateLine (s : Shell) (name : String) : Octets :=
  name.toList ++ List.replicate (15 - name.length) ' ' ++ ['\t'] ++ (if isOn s name then "on\n" else "off\n").toList

def optionCommand (s : Shell) (name : String) : Octets :=
  ((if isOn s name then "set -o " else "set +o ") ++ name ++ "\n").toList

def switchCommand (s : Shell) (name : String) : Octets :=
  ((if isOn s name then "shopt -s " else "shopt -u ") ++ name ++ "\n").toList

def settingLine (name : String) (v : Variable) : Octets :=
  match v.row, v.value with
  | some r, _ => name.toList ++ '=' :: writtenRow r ++ ['\n']
  | none, some text => name.toList ++ '=' :: (if text.isEmpty then [] else tracedWord text) ++ ['\n']
  | none, none => []

def setByWords : List Octets → Exec Reply
  | [] => quiet 0
  | ['-', '-'] :: rest => do
    modify fun s => { s with positional := rest }
    quiet 0
  | ['-'] :: rest => do
    turn false "xtrace"
    turn false "verbose"
    modify fun s => if rest.isEmpty then s else { s with positional := rest }
    quiet 0
  | (sign :: c :: cs) :: rest => do
    if sign ≠ '-' ∧ sign ≠ '+' then
      modify fun s => { s with positional := (sign :: c :: cs) :: rest }
      quiet 0
    else
      let on := sign = '-'
      let known (x : Char) : Bool := x = 'o' || richOptions.any (·.2 = some x)
      match (c :: cs).find? fun x => !known x with
      | some x => misused "set" ([sign, x] ++ ": invalid option".toList)
      | none =>
        for x in c :: cs do if x ≠ 'o' then setOption on x
        if !(c :: cs).contains 'o' then setByWords rest
        else match rest with
          | [] =>
            let s ← get
            let line := if on then stateLine s else optionCommand s
            return ⟨0, richOptions.flatMap fun o => line o.1⟩
          | name :: more =>
            let key := String.ofList name
            if richOptions.any (·.1 = key) then
              turn on key
              setByWords more
            else
              complain (name ++ ": invalid option name".toList)
              quiet 2
  | words => do
    modify fun s => { s with positional := words }
    quiet 0

def richSet : Builtin := fun words => do
  if words.isEmpty then
    let s ← get
    let known := s.bindings.mergeSort fun a b => a.1 ≤ b.1
    return ⟨0, known.flatMap fun (name, v) => settingLine name v⟩
  else setByWords words

def shopt : Builtin := fun words =>
  withOptions "shopt" "pqsuo" "" words fun found names => do
    let s ← get
    let asks (c : Char) : Bool := found.any (·.1 = c)
    let known := if asks 'o' then richOptions.map Prod.fst else switchNames
    let command := if asks 'o' then optionCommand s else switchCommand s
    let unknown (name : Octets) : Octets :=
      name ++ (if asks 'o' then ": invalid option name" else ": invalid shell option name").toList
    let line (name : String) : Octets := if asks 'p' then command name else stateLine s name
    if asks 's' ∧ asks 'u' then failed "cannot set and unset shell options simultaneously".toList
    else if names.isEmpty then
      let wanted := known.filter fun n => (!asks 's' || isOn s n) && (!asks 'u' || !isOn s n)
      return ⟨0, if asks 'q' then [] else wanted.flatMap line⟩
    else if asks 's' ∨ asks 'u' then
      let mut status := 0
      for name in names do
        if known.contains (String.ofList name) then turn (asks 's') (String.ofList name)
        else
          complain (unknown name)
          status := 1
      quiet status
    else
      let mut out : Octets := []
      let mut status := 0
      for name in names do
        let key := String.ofList name
        if known.contains key then
          if !asks 'q' then out := out ++ line key
          if !isOn s key then status := 1
        else
          complain (unknown name)
          status := 1
      return ⟨status, out⟩

end PassDelta.Machine.Shell
