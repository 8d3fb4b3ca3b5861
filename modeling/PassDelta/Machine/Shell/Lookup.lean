import PassDelta.Machine.Shell.Rich
/-!
# What names stand for

A name of a command may be another text, a keyword, a function, a command of the shell, or a program on the search
path, and a script may ask which.
-/

namespace PassDelta.Machine.Shell

def describeName (s : Shell) (name : Octets) : Option Octets :=
  let key := String.ofList name
  if Shell.keywords.contains key then some "a shell keyword".toList
  else match s.aliases.lookup name with
    | some text => some ("an alias for ".toList ++ text)
    | none =>
      if isSpecial key then some "a special shell builtin".toList
      else if s.functions.any (·.1 = key) then some "a shell function".toList
      else if (builtins.any (·.1 = key)) || key = "command" || key = "type" then some "a shell builtin".toList
      else searchPath s name

def typeOf : Builtin := fun words => do
  let s ← get
  let line (w : Octets) : Octets := w ++ match describeName s w with
    | some text => " is ".toList ++ text ++ ['\n']
    | none => ": not found\n".toList
  return ⟨if words.all fun w => (describeName s w).isSome then 0 else 127, words.flatMap line⟩

def locateName (s : Shell) (name : Octets) : Reply :=
  match s.aliases.find? (·.1 = name), describeName s name with
  | some a, some _ => ⟨0, "alias ".toList ++ aliasText a ++ ['\n']⟩
  | none, some text => ⟨0, (if text.head? = some '/' ∨ name.contains '/' then text else name) ++ ['\n']⟩
  | _, none => ⟨127, []⟩

inductive Meaning where
  | aliased (text : Octets)
  | keyword
  | function
  | builtin
  | file (path : Octets)
  deriving DecidableEq, Repr

def pathsTo (s : Shell) (name : Octets) : List Octets :=
  if name.contains '/' then (searchPath s name).toList
  else
    let dirs := ((s.value? "PATH").getD []).splitOn ':'
    (dirs.map fun dir => (if dir.isEmpty then ['.'] else dir) ++ ['/'] ++ name).filter fun p => (searchPath s p).isSome

def meanings (s : Shell) (name : Octets) : List Meaning :=
  let key := String.ofList name
  let known (b : Bool) (m : Meaning) : List Meaning := if b then [m] else []
  ((if s.switches.contains "expand_aliases" then s.aliases.lookup name else none).map Meaning.aliased).toList ++
    known (richWords.contains key) .keyword ++ known (s.functions.any (·.1 = key)) .function ++
    known (isRichBuiltin key) .builtin ++ (pathsTo s name).map Meaning.file
where
  richWords : List String := Shell.keywords ++ richKeywords ++ ["]]", "coproc"]

namespace Meaning

def path? : Meaning → Option Octets
  | file path => some path
  | _ => none

def line (name : Octets) : Meaning → Octets
  | aliased text => name ++ " is aliased to `".toList ++ text ++ "'\n".toList
  | keyword => name ++ " is a shell keyword\n".toList
  | function => name ++ " is a function\n".toList
  | builtin => name ++ " is a shell builtin\n".toList
  | file path => name ++ " is ".toList ++ path ++ ['\n']

def word : Meaning → Octets
  | aliased _ => "alias\n".toList
  | keyword => "keyword\n".toList
  | function => "function\n".toList
  | builtin => "builtin\n".toList
  | file _ => "file\n".toList

end Meaning

def richType : Builtin := fun words =>
  withOptions "type" "afptP" "" words fun found names => do
    let asks (c : Char) : Bool := found.any (·.1 = c)
    let s ← get
    let mut out : Octets := []
    let mut status := 0
    for name in names do
      let all := (meanings s name).filter fun m =>
        (!asks 'P' || m.path?.isSome) && (!asks 'f' || m ≠ .function)
      let chosen := if asks 'a' then all else all.take 1
      if chosen.isEmpty then
        if !(asks 't' ∨ asks 'p' ∨ asks 'P') then complain (name ++ ": not found".toList)
        status := 1
      else
        out := out ++ chosen.flatMap fun m =>
          if asks 't' then m.word
          else if asks 'p' ∨ asks 'P' then (m.path?.map fun p => p ++ ['\n']).getD []
          else m.line name
    return ⟨status, out⟩

def tellMeanings (inWords : Bool) (names : List Octets) : Exec Reply := do
  let s ← get
  let mut out : Octets := []
  let mut known := false
  for name in names do
    match (meanings s name).head? with
    | none => if inWords then complain (name ++ ": not found".toList)
    | some m =>
      known := true
      out := out ++ if inWords then m.line name else match m with
        | .aliased text => richAliasText (name, text)
        | .file path => (if name.contains '/' then name else path) ++ ['\n']
        | _ => name ++ ['\n']
  return ⟨if known ∨ names.isEmpty then 0 else 1, out⟩

end PassDelta.Machine.Shell
