import PassDelta.Machine.Shell.Options
import PassDelta.Machine.Shell.Setting
/-!
# Declarations

Commands of the rich shell that mark variables, give them values, make them local, tell them, or take them away.
-/

namespace PassDelta.Machine.Shell

/-- What a declaration asks for: letters of marks to be set and to be taken, in which scope, and whether variables are
only told. -/
structure Declaring where
  command : String
  on : List Char
  off : List Char
  anywhere : Bool
  tells : Bool
  functions : Bool
  names : Bool
  deriving DecidableEq, Repr

def declaringLetters (command : String) : List Char :=
  match command with
  | "export" => "fnp".toList
  | "readonly" => "aAfp".toList
  | _ => "aAcfFgiIlnprtux".toList

namespace Declaring

def letter (d : Declaring) (sets : Bool) (c : Char) : Declaring :=
  let marks : Declaring := if sets then { d with on := c :: d.on } else { d with off := c :: d.off }
  match c with
  | 'g' => { d with anywhere := true }
  | 'p' => { d with tells := true }
  | 'f' => { d with functions := true }
  | 'F' => { d with functions := true, names := true }
  | 'I' => d
  | 'n' => if d.command = "export" then { d with on := d.on.filter (· ≠ 'x'), off := 'x' :: d.off } else marks
  | _ => marks

def read (d : Declaring) : List Given → Except (Char × Char) (Declaring × List Given)
  | .word ['-', '-'] :: rest => .ok (d, rest)
  | .word (sign :: c :: cs) :: rest =>
    if sign ≠ '-' ∧ (sign ≠ '+' ∨ d.command = "export" ∨ d.command = "readonly") then
      .ok (d, .word (sign :: c :: cs) :: rest)
    else match (c :: cs).find? fun x => !(declaringLetters d.command).contains x with
      | some x => .error (sign, x)
      | none => read ((c :: cs).foldl (fun d x => d.letter (sign = '-') x) d) rest
  | rest => .ok (d, rest)

/-- A variable with the marks that a declaration asks for, before it gets a value; the others are set behind that. -/
def marked (d : Declaring) (v : Variable) : Variable :=
  let table : Variable :=
    if d.on.contains 'A' then { v with row := some (v.row.getD (.empty true)), value := v.value }
    else if d.on.contains 'a' ∧ v.row.isNone then
      { v with row := some ⟨false, (v.value.map fun t => (['0'], t)).toList⟩ }
    else v
  let cases := ['l', 'u', 'c']
  let added := d.on.filter fun c => ['i', 'l', 'u', 'c', 'n', 't'].contains c
  let taken := d.off ++ if added.any cases.contains then cases else []
  { table with
    kinds := added.reverse ++ (table.kinds.filter fun c => !taken.contains c && !added.contains c)
    exported := (table.exported && !d.off.contains 'x') || d.on.contains 'x' }

end Declaring

/-- Begins a variable of the function that is run. One of that name that it has already stays. -/
def makeLocal (name : String) : Exec Unit := modify fun s =>
  match s.locals with
  | [] => s
  | scope :: outer =>
    if scope.any (·.1 = name) then s
    else { s with locals := ((name, s.binding? name) :: scope) :: outer }.dropVariable name

def declareOne (d : Declaring) (g : Given) : Exec Reply := do
  let s ← get
  let setting? := match g with
    | .setting x => some x
    | .word w => Setting.ofText? w
  let name? : Option String := match g, setting? with
    | _, some x => some x.name
    | .word w, none => if isName (w.takeWhile (· ≠ '[')) then some (String.ofList (w.takeWhile (· ≠ '['))) else none
    | .setting x, none => some x.name
  match name? with
  | none => failed (['`'] ++ g.text ++ "': not a valid identifier".toList)
  | some name =>
    let isLocal := !s.locals.isEmpty && !d.anywhere && d.command ≠ "export" && d.command ≠ "readonly"
    if s.isReadonly name ∧ (setting?.isSome ∨ d.off.contains 'r' ∨ isLocal) then
      let speaks := d.command ≠ "export" ∧ d.command ≠ "readonly"
      if !speaks then modify fun s => { s with speaker := none }
      failed (name.toList ++ ": readonly variable".toList)
    else
      let key := if d.on.contains 'n' ∨ d.off.contains 'n' then name else meant s maxMeanings name
      if isLocal then makeLocal name
      let key := if isLocal then name else key
      let v := ((← get).binding? key).getD (.plain none ((← get).has 'a') false)
      if d.on.contains 'A' ∧ v.row.any (!·.named) then
        failed (name.toList ++ ": cannot convert indexed to associative array".toList)
      else if d.on.contains 'a' ∧ v.row.any Row.named then
        failed (name.toList ++ ": cannot convert associative to indexed array".toList)
      else
        let asReference := d.on.contains 'n'
        modify fun s => s.putVariable key (d.marked { v with kinds := v.kinds.filter (· ≠ 'n') })
        if v.kinds.contains 'n' ∧ !d.off.contains 'n' then
          modify fun s => s.putVariable key (d.marked v)
        let outcome ← match setting? with
          | none => pure (Except.ok ())
          | some x =>
            if asReference then
              let target := match x.content with
                | .text t => t
                | .row .. => []
              modify fun s => s.putVariable key { ((s.binding? key).getD v) with value := some target }
              pure (.ok ())
            else ({ x with name := key } : Setting).apply.run
        match outcome with
        | .error f => failed (f.message .rich)
        | .ok () =>
          if d.on.contains 'r' then
            modify fun s => s.putVariable key { ((s.binding? key).getD v) with readonly := true }
          quiet 0

def declareAll (d : Declaring) : List Given → Nat → Exec Reply
  | [], status => quiet status
  | g :: rest, status => do
    let old := (← get).speaker
    let r ← declareOne d g
    modify fun s => { s with speaker := old }
    declareAll d rest (max status r.status)

def tellAll (command : String) : List Given → Exec Reply
  | [] => quiet 0
  | g :: rest => do
    let name := String.ofList g.text
    match (← get).binding? name with
    | some v =>
      let r ← tellAll command rest
      return { r with out := declaredText name v ++ ['\n'] ++ r.out }
    | none =>
      complain (g.text ++ ": not found".toList)
      let r ← tellAll command rest
      return { r with status := 1 }

def tellMarked (d : Declaring) : Exec Reply := do
  let s ← get
  let wanted (v : Variable) : Bool := d.on.all fun c => (markLetters v).contains c
  let known := (s.bindings.filter fun v => wanted v.2).mergeSort fun a b => a.1 ≤ b.1
  return ⟨0, known.flatMap fun (name, v) => declaredText name v ++ ['\n']⟩

def tellFunctions (names : List Given) : Exec Reply := do
  let s ← get
  if names.isEmpty then
    let known := (s.functions.map fun f => f.1.toList).mergeSort octetsLe
    return ⟨0, known.flatMap fun name => "declare -f ".toList ++ name ++ ['\n']⟩
  else
    let found := names.filter fun g => s.functions.any (·.1 = String.ofList g.text)
    return ⟨if found.length = names.length then 0 else 1, found.flatMap fun g => g.text ++ ['\n']⟩

def declareBy (command : String) (words : List Given) : Exec Reply := do
  let s ← get
  let usual := if command = "export" then ['x'] else if command = "readonly" then ['r'] else []
  if command = "local" ∧ s.locals.isEmpty then return ← failed "can only be used in a function".toList
  match Declaring.read ⟨command, usual, [], false, false, false, false⟩ words with
  | .error (sign, c) => misused command ([sign, c] ++ ": invalid option".toList)
  | .ok (d, names) =>
    if d.functions then tellFunctions names
    else if names.isEmpty then
      if command = "local" then
        let own := (s.locals.headD []).map Prod.fst
        let known := (s.bindings.filter fun v => own.contains v.1).mergeSort fun a b => a.1 ≤ b.1
        return ⟨0, known.flatMap fun (name, v) => declaredText name v ++ ['\n']⟩
      else if d.on.isEmpty ∧ !d.tells then
        let known := s.bindings.mergeSort fun a b => a.1 ≤ b.1
        return ⟨0, known.flatMap fun (name, v) => settingLine name v⟩
      else tellMarked d
    else if d.tells ∧ command ≠ "export" ∧ command ≠ "readonly" then tellAll command names
    else declareAll d (names.filter fun g => g.text ≠ ['-']) 0

def unsetOne (letters : List Char) (word : Octets) : Exec Reply := do
  let s ← get
  let name := word.takeWhile (· ≠ '[')
  let index := (word.drop name.length).drop 1 |>.dropLast
  let written := String.ofList name
  let key := if letters.contains 'n' then written else meant s maxMeanings written
  if letters.contains 'f' then
    set { s with functions := s.functions.filter (·.1 ≠ String.ofList word) }
    quiet 0
  else if !isName name then
    if letters.isEmpty ∧ s.functions.any (·.1 = String.ofList word) then
      set { s with functions := s.functions.filter (·.1 ≠ String.ofList word) }
      quiet 0
    else failed (['`'] ++ word ++ "': not a valid identifier".toList)
  else if s.isReadonly key then failed (name ++ ": cannot unset: readonly variable".toList)
  else match s.binding? key with
    | none =>
      if letters.isEmpty then set { s with functions := s.functions.filter (·.1 ≠ written) }
      quiet 0
    | some v =>
      if name.length = word.length then
        set (s.dropVariable key)
        quiet 0
      else match v.row with
        | none =>
          if index = ['0'] ∨ index = ['@'] ∨ index = ['*'] then
            set (s.dropVariable key)
            quiet 0
          else failed (name ++ ": not an array variable".toList)
        | some r =>
          if (index = ['@'] ∨ index = ['*']) ∧ !r.named then
            set (s.putVariable key (v.withRow (.empty r.named)))
            quiet 0
          else match ← (keyFor key index).run with
            | .ok k =>
              modify fun s => s.putVariable key (v.withRow (r.erase k))
              quiet 0
            | .error f => failed (f.message .rich)

def unsetEach (letters : List Char) : List Octets → Nat → Exec Reply
  | [], status => quiet status
  | w :: rest, status => do
    let r ← unsetOne letters w
    unsetEach letters rest (max status r.status)

def richUnset : Builtin := fun words =>
  withOptions "unset" "fnv" "" words fun found names => unsetEach (found.map Prod.fst) names 0

/-- Gives a value to what a word names, a variable or an element, or complains. -/
def giveTo (target text : Octets) : Exec Bool := do
  match Setting.ofText? (target ++ ['=']) with
  | none =>
    complain (['`'] ++ target ++ "': not a valid identifier".toList)
    return false
  | some x =>
    match ← ({ x with content := .text text } : Setting).apply.run with
    | .ok () => return true
    | .error f =>
      let old := (← get).speaker
      modify fun s => { s with speaker := none }
      complain (f.message .rich)
      modify fun s => { s with speaker := old }
      return false

end PassDelta.Machine.Shell
