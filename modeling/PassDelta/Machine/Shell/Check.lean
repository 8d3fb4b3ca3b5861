import PassDelta.Machine.Shell.Options
import PassDelta.Machine.Shell.Setting
/-!
# Conditions of the rich shell

Conditions in double brackets, whose words are patterns, sums and regular expressions, and those of the commands that
test their arguments, which are read by how many arguments there are.
-/

namespace PassDelta.Machine.Shell

def isSet (word : Octets) : Expand Bool := do
  let s ← get
  let name := word.takeWhile (· ≠ '[')
  let key := meant s maxMeanings (String.ofList name)
  if name.length = word.length then return (s.value? key).isSome
  else
    let index := (word.drop (name.length + 1)).dropLast
    if index = ['@'] ∨ index = ['*'] then return !(itemsOf s key).isEmpty
    else
      let k ← keyFor key index
      return (element? (← get) key k).isSome

def leads (s : Shell) (path : Octets) : Bool := (s.world.tree.find s.here ⟨bytesOf path⟩).isOk

def checkWord (operator : String) (word : Octets) : Expand Bool := do
  let s ← get
  match operator with
  | "-v" => isSet word
  | "-o" => return isOn s (String.ofList word)
  | "-R" => return (s.binding? (String.ofList word)).any fun v => v.kinds.contains 'n'
  | "-a" => return leads s word
  | "-N" => return false
  | _ => return (testOne? ⟨s.world.tree, s.here⟩ operator.toList word).getD false

def checkFiles (s : Shell) (operator : String) (a b : Octets) : Bool :=
  match operator with
  | "-nt" => leads s a && !leads s b
  | "-ot" => leads s b && !leads s a
  | _ => isSamePlace ⟨s.world.tree, s.here⟩ a b

abbrev Showing := Octets → Exec Unit

/-- Fits a regular expression to a text; what its groups fit becomes a table. Two when it cannot be read. -/
def fitRegex (text expression : Octets) : Exec Nat := do
  let s ← get
  let fold := s.switches.contains "nocasematch"
  match Regex.read true expression with
  | .error _ => return 2
  | .ok r =>
    match r.search fold none text with
    | none =>
      modify fun s => s.putVariable "BASH_REMATCH" ((Variable.plain none false false).withRow (.empty false))
      return 1
    | some f =>
      let groups := (List.range r.groupCount).map fun n => (f.groups.lookup (n + 1)).getD []
      let row := Row.ofValues (f.text :: groups)
      modify fun s => s.putVariable "BASH_REMATCH" ((Variable.plain none false false).withRow row)
      return 0

def shownOperand (text : Octets) : Octets := if text.isEmpty then ['\'', '\''] else text

/-- Zero when a condition holds, one when it does not, and two when it has no answer. -/
def checkStatus (within : Within) (shows : Showing) : Check → Expand Nat
  | .holds w => do
    let text ← textOf within w
    shows ("[[ -n ".toList ++ shownOperand text ++ " ]]".toList)
    return if text.isEmpty then 1 else 0
  | .one operator w => do
    let text ← textOf within w
    shows ("[[ ".toList ++ operator.toList ++ [' '] ++ shownOperand text ++ " ]]".toList)
    return if ← checkWord operator text then 0 else 1
  | .two operator a b => do
    let text ← textOf within a
    let show_ (right : Octets) : Exec Unit :=
      shows ("[[ ".toList ++ shownOperand text ++ [' '] ++ operator.toList ++ [' '] ++ shownOperand right ++
        " ]]".toList)
    if operator = "=" ∨ operator = "==" ∨ operator = "!=" then
      let atoms ← expandPieces within false (withHome (← get) b)
      show_ ((patternOf atoms).flatMap fun (c, isQuoted) => if isQuoted then ['\\', c] else [c])
      let s ← get
      let cs := patternOf atoms
      let cs := if s.switches.contains "nocasematch" then foldedPattern cs else cs
      return if fits s (globOf ⟨true, true⟩ cs) text == (operator ≠ "!=") then 0 else 1
    else if operator = "=~" then
      let expression ← regexOf within b
      show_ expression
      fitRegex text expression
    else
      let right ← textOf within b
      show_ right
      if operator = "<" then return if decide (text < right) then 0 else 1
      else if operator = ">" then return if decide (right < text) then 0 else 1
      else match compareBy? operator.toList with
        | none => return if checkFiles (← get) operator text right then 0 else 1
        | some holds =>
          let outcome : Reckon Bool := do
            let m ← valueOfSum text
            return holds m (← valueOfSum right)
          match ← liftM outcome.run with
          | .ok b => return if b then 0 else 1
          | .error (.told fault) =>
            complain ("[[: ".toList ++ fault)
            return 1
          | .error f => throw (.ofReckoning f)
  | .inverse c => do
    let n ← checkStatus within shows c
    return if n = 0 then 1 else if n = 1 then 0 else n
  | .both a b => do
    let n ← checkStatus within shows a
    if n = 0 then checkStatus within shows b else return n
  | .either a b => do
    let n ← checkStatus within shows a
    if n = 0 then return 0 else checkStatus within shows b

/-- A test of arguments: whether it holds, and what is left of them; or what is wrong with them. -/
abbrev Tested := ExceptT Octets Exec

def testWord (operator : String) (word : Octets) : Tested Bool := do
  match ← liftM (checkWord operator word).run with
  | .ok b => return b
  | .error f => throw (f.message .rich)

def testPair (a : Octets) (operator : String) (b : Octets) : Tested Bool := do
  match relateBy? operator.toList, compareBy? operator.toList with
  | some holds, _ => return holds a b
  | none, some holds =>
    match decimalNumber? a, decimalNumber? b with
    | some m, some n => return holds m n
    | none, _ => throw (a ++ ": integer expression expected".toList)
    | _, none => throw (b ++ ": integer expression expected".toList)
  | none, none => if operator = "==" then return a = b else return checkFiles (← get) operator a b

def isPairOperator (word : Octets) : Bool :=
  Parse.binaryChecks.contains (String.ofList word) && word ≠ "=~".toList

def testTwoWords (a b : Octets) : Tested Bool := do
  if a = ['!'] then return b.isEmpty
  else if Parse.unaryChecks.contains (String.ofList a) then testWord (String.ofList a) b
  else throw (a ++ ": unary operator expected".toList)

def testThreeWords (a b c : Octets) : Tested Bool := do
  if isPairOperator b then testPair a (String.ofList b) c
  else if b = "-a".toList then return !a.isEmpty && !c.isEmpty
  else if b = "-o".toList then return !a.isEmpty || !c.isEmpty
  else if a = ['!'] then return !(← testTwoWords b c)
  else if a = ['('] ∧ c = [')'] then return !b.isEmpty
  else throw (b ++ ": binary operator expected".toList)

mutual

def testTerm (fuel : Nat) (words : List Octets) : Tested (Bool × List Octets) :=
  match fuel with
  | 0 => throw "too many arguments".toList
  | fuel + 1 => do
    match words with
    | [] => throw "argument expected".toList
    | ['!'] :: rest =>
      let (b, left) ← testTerm fuel rest
      return (!b, left)
    | ['('] :: rest =>
      let (b, left) ← testAny fuel rest
      match left with
      | [] => throw "`)' expected".toList
      | [')'] :: left => return (b, left)
      | w :: _ => throw ("`)' expected, found ".toList ++ w)
    | a :: op :: c :: rest =>
      if isPairOperator op then return (← testPair a (String.ofList op) c, rest)
      else if Parse.unaryChecks.contains (String.ofList a) then return (← testWord (String.ofList a) op, c :: rest)
      else return (!a.isEmpty, op :: c :: rest)
    | [a, b] =>
      if Parse.unaryChecks.contains (String.ofList a) then return (← testWord (String.ofList a) b, [])
      else return (!a.isEmpty, [b])
    | [a] => return (!a.isEmpty, [])

def testAll (fuel : Nat) (words : List Octets) : Tested (Bool × List Octets) :=
  match fuel with
  | 0 => throw "too many arguments".toList
  | fuel + 1 => do
    let (a, left) ← testTerm fuel words
    match left with
    | ['-', 'a'] :: rest =>
      let (b, left) ← testAll fuel rest
      return (a && b, left)
    | left => return (a, left)

def testAny (fuel : Nat) (words : List Octets) : Tested (Bool × List Octets) :=
  match fuel with
  | 0 => throw "too many arguments".toList
  | fuel + 1 => do
    let (a, left) ← testAll fuel words
    match left with
    | ['-', 'o'] :: rest =>
      let (b, left) ← testAny fuel rest
      return (a || b, left)
    | left => return (a, left)

end

def testMany (words : List Octets) : Tested Bool := do
  let (b, left) ← testAny (4 * words.length + 4) words
  match left with
  | [] => return b
  | ['-', c] :: _ => throw ("syntax error: `-".toList ++ [c] ++ "' unexpected".toList)
  | _ => throw "too many arguments".toList

def testArguments : List Octets → Tested Bool
  | [] => return false
  | [a] => return !a.isEmpty
  | [a, b] => testTwoWords a b
  | [a, b, c] => testThreeWords a b c
  | [a, b, c, d] => do
    if a = ['!'] then return !(← testThreeWords b c d)
    else if a = ['('] ∧ d = [')'] then testTwoWords b c
    else testMany [a, b, c, d]
  | words => testMany words

def richTest : Builtin := fun words => do
  match ← (testArguments words).run with
  | .ok b => quiet (if b then 0 else 1)
  | .error text =>
    complain text
    quiet 2

def richBracket : Builtin := fun words => do
  if words.getLast? = some [']'] then richTest words.dropLast
  else
    complain "missing `]'".toList
    quiet 2

end PassDelta.Machine.Shell
