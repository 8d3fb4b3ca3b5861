import PassDelta.Machine.Shell.Arithmetic
import PassDelta.Machine.Shell.State
/-!
# Sums of the rich shell

Sums whose operands are numbers in any base, variables and elements of tables. The value of a variable is itself read
as a sum. Steps and assignments change variables while the sum is worked out.
-/

namespace PassDelta.Machine.Shell

def meant (s : Shell) : Nat → String → String
  | 0, name => name
  | fuel + 1, name =>
    match s.binding? name with
    | some v => if v.kinds.contains 'n' ∧ v.value.any isName then meant s fuel (String.ofList (v.value.getD [])) else name
    | none => name

def maxMeanings : Nat := 8

def rowOf? (s : Shell) (name : String) : Option Row := (s.binding? name).bind Variable.row

def isNamed (s : Shell) (name : String) : Bool := (rowOf? s name).any Row.named

def itemsOf (s : Shell) (name : String) : List (Octets × Octets) :=
  match name with
  | "PIPESTATUS" => (Row.ofValues (s.statuses.map digits)).items
  | "FUNCNAME" =>
    if s.callers.any Frame.isCall then (Row.ofValues (s.callers.map fun f => f.function.toList)).items else []
  | "BASH_SOURCE" => (Row.ofValues (s.callers.map Frame.source)).items
  | "BASH_LINENO" => (Row.ofValues (s.callers.map fun f => digits f.line)).items
  | _ =>
    match rowOf? s name with
    | some r => r.items
    | none => ((s.value? name).map fun v => (['0'], v)).toList

def element? (s : Shell) (name : String) (key : Octets) : Option Octets := (itemsOf s name).lookup key

def assignElement (s : Shell) (name : String) (key text : Octets) : Shell :=
  let v := (s.binding? name).getD (.plain none false false)
  let row := v.row.getD ⟨false, (v.value.map fun x => (['0'], x)).toList⟩
  s.putVariable name (v.withRow (row.put key (v.recased text)))

inductive ReckonFault where
  | unset (name : String)
  | readonly (name : String)
  | told (text : Octets)
  deriving DecidableEq, Repr

structure Cell where
  name : String
  index : Option Octets
  deriving DecidableEq, Repr

inductive Reckoning where
  | number (n : Int)
  | cell (c : Cell)
  | assign (c : Cell) (operator : String) (value : Reckoning)
  | step (c : Cell) (up after : Bool)
  | unary (operator : String) (a : Reckoning)
  | binary (operator : String) (a b : Reckoning) (text : Octets)
  | choice (condition yes no : Reckoning)
  deriving DecidableEq, Repr

namespace Reckoning

structure Flaw where
  words : String
  text : Octets
  deriving DecidableEq, Repr

def richOperators : List String := ["**", "++", "--", ","] ++ operators

def digitOf? (base : Nat) (c : Char) : Option Nat :=
  if c.isDigit then some (c.toNat - 48)
  else if 'a' ≤ c ∧ c ≤ 'z' then some (c.toNat - 87)
  else if 'A' ≤ c ∧ c ≤ 'Z' then some (if base ≤ 36 then c.toNat - 55 else c.toNat - 29)
  else if c = '@' then some 62
  else if c = '_' then some 63
  else none

/-- The number of digits in a base, wrapped around; none if one of them is too great. -/
def digitsIn (base : Nat) (ds : Octets) : Option Int :=
  (ds.foldlM (fun v c => (digitOf? base c).bind fun d => if d < base then some (v * base + d) else none) 0).map
    fun (n : Nat) => wrap n

def numeral (run : Octets) : Except String Int :=
  let tooGreat (n : Option Int) : Except String Int := match n with
    | some n => .ok n
    | none => .error "value too great for base"
  match run.span (· ≠ '#') with
  | (base, _ :: ds) =>
    match digitsIn 10 base with
    | some b =>
      if b < 2 ∨ 64 < b then .error "invalid arithmetic base"
      else if ds.isEmpty then .error "invalid integer constant"
      else tooGreat (digitsIn b.toNat ds)
    | none => .error "invalid number"
  | (run, []) =>
    match run with
    | '0' :: x :: ds => if x = 'x' ∨ x = 'X' then tooGreat (digitsIn 16 ds) else tooGreat (digitsIn 8 (x :: ds))
    | run => tooGreat (digitsIn 10 run)

/-- The text up to the bracket that closes the one before it, and what follows. -/
def untilBracket : Nat → Octets → Option (Octets × Octets)
  | _, [] => none
  | depth, ']' :: rest =>
    if depth = 0 then some ([], rest) else (untilBracket (depth - 1) rest).map fun (cs, r) => (']' :: cs, r)
  | depth, '[' :: rest => (untilBracket (depth + 1) rest).map fun (cs, r) => ('[' :: cs, r)
  | depth, c :: rest => (untilBracket depth rest).map fun (cs, r) => (c :: cs, r)

inductive Mark where
  | op (name : String)
  | number (n : Int)
  | cell (c : Cell)
  deriving DecidableEq, Repr

structure Marked where
  mark : Mark
  text : Octets
  deriving DecidableEq, Repr

def marks : Nat → Option Mark → Octets → List Marked × Option Flaw
  | 0, _, _ => ([], none)
  | _ + 1, _, [] => ([], none)
  | fuel + 1, last, c :: rest =>
    let cs := c :: rest
    let emit (m : Mark) (after : Octets) : List Marked × Option Flaw :=
      let (more, flaw) := marks fuel (some m) after
      (⟨m, cs⟩ :: more, flaw)
    if isBlankOctet c then marks fuel last rest
    else if isNameStart c then
      let name := c :: rest.takeWhile isNameChar
      let after := cs.drop name.length
      match after with
      | '[' :: more =>
        match untilBracket 0 more with
        | some (index, after) => emit (.cell ⟨String.ofList name, some index⟩) after
        | none => ([], some ⟨"bad array subscript", cs⟩)
      | after => emit (.cell ⟨String.ofList name, none⟩) after
    else if c.isDigit then
      let run := cs.takeWhile fun d => d.isAlphanum || d = '#' || d = '@' || d = '_'
      match numeral run with
      | .ok n => emit (.number n) (cs.drop run.length)
      | .error words => ([], some ⟨words, cs⟩)
    else match richOperators.find? fun o => o.toList.isPrefixOf cs with
      | some o =>
        let after := cs.drop o.length
        let isStep := o = "++" ∨ o = "--"
        let follows : Bool := match last with
          | some (.cell _) => true
          | _ => (after.dropWhile isBlankOctet).head?.any isNameStart
        if isStep ∧ !follows then emit (.op (if o = "++" then "+" else "-")) rest else emit (.op o) after
      | none =>
        let afterOperand : Bool := match last with
          | some (.number _) => true
          | some (.cell _) => true
          | some (.op o) => o = ")"
          | none => false
        ([], some ⟨if afterOperand then "syntax error: invalid arithmetic operator" else "syntax error: operand expected", cs⟩)

structure Reading where
  rest : List Marked
  flaw : Option Flaw
  last : Octets

abbrev Read := StateT Reading (Except Flaw)

def next? : Read (Option Mark) := do return (← get).rest.head?.map Marked.mark

def refuse {α : Type} (words : String) : Read α := do
  let s ← get
  match s.rest, s.flaw with
  | m :: _, _ => throw ⟨words, m.text⟩
  | [], some f => throw f
  | [], none => throw ⟨words, s.last⟩

def pass : Read Unit := modify fun s => match s.rest with
  | m :: rest => { s with rest := rest, last := m.text }
  | [] => s

def took (o : String) : Read Bool := do
  if (← next?) = some (.op o) then
    pass
    return true
  else return false

def tightness? (o : String) : Option Nat := if o = "**" then none else strength? o

mutual

def operand (fuel : Nat) : Read Reckoning :=
  match fuel with
  | 0 => refuse "expression recursion level exceeded"
  | fuel + 1 => do
    match ← next? with
    | some (.number n) =>
      pass
      return .number n
    | some (.cell c) =>
      pass
      if ← took "++" then return .step c true true
      if ← took "--" then return .step c false true
      return .cell c
    | some (.op o) =>
      if o = "(" then
        pass
        let a ← whole fuel
        if ← took ")" then return a else refuse "missing `)'"
      else if o = "++" ∨ o = "--" then
        pass
        match ← next? with
        | some (.cell c) =>
          pass
          return .step c (o = "++") false
        | _ => refuse "identifier expected after pre-increment or pre-decrement"
      else refuse "syntax error: operand expected"
    | none => refuse "syntax error: operand expected"

def signed (fuel : Nat) : Read Reckoning :=
  match fuel with
  | 0 => refuse "expression recursion level exceeded"
  | fuel + 1 => do
    match ← next? with
    | some (.op o) =>
      if o = "!" ∨ o = "~" ∨ o = "-" ∨ o = "+" then
        pass
        return .unary o (← signed fuel)
      else operand fuel
    | _ => operand fuel

def power (fuel : Nat) : Read Reckoning :=
  match fuel with
  | 0 => refuse "expression recursion level exceeded"
  | fuel + 1 => do
    let a ← signed fuel
    if ← took "**" then
      let text := ((← get).rest.head?.map Marked.text).getD []
      return .binary "**" a (← power fuel) text
    else return a

/-- More operands joined by operators that bind at least as tightly as `least`. -/
def joined (fuel least : Nat) (a : Reckoning) : Read Reckoning :=
  match fuel with
  | 0 => refuse "expression recursion level exceeded"
  | fuel + 1 => do
    match ← next? with
    | some (.op o) =>
      match tightness? o with
      | some n =>
        if n < least then return a
        pass
        let text := ((← get).rest.head?.map Marked.text).getD []
        let b ← joined fuel (n + 1) (← power fuel)
        joined fuel least (.binary o a b text)
      | none => return a
    | _ => return a

def conditional (fuel : Nat) : Read Reckoning :=
  match fuel with
  | 0 => refuse "expression recursion level exceeded"
  | fuel + 1 => do
    let c ← joined fuel 1 (← power fuel)
    if !(← took "?") then return c
    let isMissing (m : Option Mark) : Bool := m.isNone || m = some (.op ":")
    if isMissing (← next?) then refuse "expression expected"
    let yes ← whole fuel
    if !(← took ":") then refuse "`:' expected for conditional expression"
    if (← next?).isNone then refuse "expression expected"
    return .choice c yes (← conditional fuel)

def assignment (fuel : Nat) : Read Reckoning :=
  match fuel with
  | 0 => refuse "expression recursion level exceeded"
  | fuel + 1 => do
    let a ← conditional fuel
    match ← next? with
    | some (.op o) =>
      match assigning? o, a with
      | some first, .cell c =>
        pass
        return .assign c first (← assignment fuel)
      | some _, _ => refuse "attempted assignment to non-variable"
      | none, a => return a
    | _ => return a

def whole (fuel : Nat) : Read Reckoning :=
  match fuel with
  | 0 => refuse "expression recursion level exceeded"
  | fuel + 1 => do
    let a ← assignment fuel
    if ← took "," then return .binary "," a (← whole fuel) [] else return a

end

def read (text : Octets) : Except Flaw Reckoning :=
  if text.all isBlankOctet then .ok (.number 0)
  else
    let (ms, flaw) := marks (text.length + 1) none text
    let all : Read Reckoning := do
      let a ← whole (8 * ms.length + 8)
      let s ← get
      if s.rest.isEmpty ∧ s.flaw.isNone then return a else refuse "syntax error in expression"
    match all.run ⟨ms, flaw, text⟩ with
    | .ok (a, _) => .ok a
    | .error f => .error f

end Reckoning

abbrev Reckon := ExceptT ReckonFault Exec

def flawText (text : Octets) (f : Reckoning.Flaw) : Octets :=
  text.dropWhile isBlankOctet ++ (": " ++ f.words ++ " (error token is \"").toList ++ f.text ++ "\")".toList

def powerOf (a : Int) (n : Nat) : Int := wrap (((a % (twoTo 64 : Int)).toNat.pow (n % 64) * (powered (n / 64)) : Nat) : Int)
where
  powered : Nat → Nat
    | 0 => 1
    | n + 1 => powered n * ((a % (twoTo 64 : Int)).toNat.pow 64 % twoTo 64) % twoTo 64

mutual

/-- The value of a sum that is part of a text. What does not count is not live and changes nothing. -/
def reckon (fuel : Nat) (text : Octets) (live : Bool) (e : Reckoning) : Reckon Int :=
  match fuel with
  | 0 => throw (.told (flawText text ⟨"expression recursion level exceeded", text⟩))
  | fuel + 1 => do
    match e with
    | .number n => return n
    | .cell c => if live then cellValue fuel text c else return 0
    | .assign c o e =>
      let n ← reckon fuel text live e
      if !live then return n
      let n ← if o = "" then pure n else operate text o (← cellValue fuel text c) n []
      setCell fuel c n
      return n
    | .step c up after =>
      if !live then return 0
      let old ← cellValue fuel text c
      let new := wrap (if up then old + 1 else old - 1)
      setCell fuel c new
      return if after then old else new
    | .unary o a => return apply o (← reckon fuel text live a)
    | .binary o a b rest =>
      let m ← reckon fuel text live a
      if o = "&&" then
        let n ← reckon fuel text (live && m ≠ 0) b
        return truth (m ≠ 0 ∧ n ≠ 0)
      if o = "||" then
        let n ← reckon fuel text (live && m = 0) b
        return truth (m ≠ 0 ∨ n ≠ 0)
      let n ← reckon fuel text live b
      if live then operate text o m n rest else return n
    | .choice c yes no =>
      let n ← reckon fuel text live c
      let a ← reckon fuel text (live && n ≠ 0) yes
      let b ← reckon fuel text (live && n = 0) no
      return if n ≠ 0 then a else b

def operate (text : Octets) (o : String) (m n : Int) (rest : Octets) : Reckon Int := do
  if o = "**" then
    if n < 0 then
      let token := rest.dropWhile fun c => c = '-' || isBlankOctet c
      throw (.told (flawText text ⟨"exponent less than 0", token⟩))
    return powerOf m n.toNat
  if o = "," then return n
  match combine o m n with
  | .ok k => return k
  | .error _ => throw (.told (flawText text ⟨"division by 0", rest⟩))

def reckonText (fuel : Nat) (text : Octets) : Reckon Int :=
  match fuel with
  | 0 => throw (.told (flawText text ⟨"expression recursion level exceeded", text⟩))
  | fuel + 1 =>
    match Reckoning.read text with
    | .ok e => reckon fuel text true e
    | .error f => throw (.told (flawText text f))

def keyOf (fuel : Nat) (name : String) (index : Octets) : Reckon Octets :=
  match fuel with
  | 0 => return index
  | fuel + 1 => do
    let s ← get
    if isNamed s name then return index
    let n ← reckonText fuel index
    if 0 ≤ n then return digits n.toNat
    let size : Int := ((rowOf? s name).map Row.next).getD (if (s.value? name).isSome then 1 else 0)
    if 0 ≤ size + n then return digits (size + n).toNat
    else throw (.told (name.toList ++ ": bad array subscript".toList))

def cellValue (fuel : Nat) (text : Octets) (c : Cell) : Reckon Int :=
  match fuel with
  | 0 => throw (.told (flawText text ⟨"expression recursion level exceeded", c.name.toList⟩))
  | fuel + 1 => do
    let s ← get
    let name := meant s maxMeanings c.name
    let value? ← match c.index with
      | some index => do
        let key ← keyOf fuel name index
        pure (element? (← get) name key)
      | none => pure (s.value? name)
    match value? with
    | none => if s.has 'u' then throw (.unset c.name) else return 0
    | some value => reckonText fuel value

def setCell (fuel : Nat) (c : Cell) (n : Int) : Reckon Unit :=
  match fuel with
  | 0 => return ()
  | fuel + 1 => do
    let s ← get
    let name := meant s maxMeanings c.name
    if s.isReadonly name then throw (.readonly name)
    match c.index with
    | some index =>
      let key ← keyOf fuel name index
      modify fun s => assignElement s name key (toString n).toList
    | none => modify fun s => s.assign name (toString n).toList

end

def maxReckoning : Nat := 3000

def valueOfSum (text : Octets) : Reckon Int := reckonText maxReckoning text

end PassDelta.Machine.Shell
