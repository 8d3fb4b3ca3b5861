import PassDelta.Machine.Records.Program
import PassDelta.Machine.Records.Token
/-!
# Reading programs over records

Tokens become rules and functions. Operators bind, from the loosest: assignment, choice, either, both, membership,
matching, comparison, concatenation, sums, products, signs, commands that are read from, powers, steps, fields.
-/

namespace PassDelta.Machine.Records

structure Scoped where
  within : String
  name : String
  deriving DecidableEq, Repr

/-- An argument of a call, which is a table just when the function takes one there. Without a name it is a value. -/
structure Passing where
  given : Option Scoped
  callee : String
  index : Nat
  line : Nat
  deriving DecidableEq, Repr

/-- What is left of a program, the functions it defines, where the statement that is read stands, what was found out
about names, and the faults after which it is read on. `kinds` tells whether a name is that of a table. -/
structure Reading where
  rest : List Marked
  functions : List String
  known : List (String × List String)
  loops : Nat
  function : Option String
  parameters : List String
  inRule : Bool
  calls : List (String × Nat × Nat)
  passings : List Passing
  kinds : List (Scoped × Bool)
  faults : List Located

abbrev Read := ExceptT Located (StateM Reading)

namespace Read

def peek : Read Marked := do return ((← get).rest.head?).getD ⟨.finish, 0, 0⟩

def upcoming : Read Token := do return (← peek).token

def pass : Read Unit := modify fun s => { s with rest := if s.rest.length ≤ 1 then s.rest else s.rest.tail }

def fail {α : Type} (fault : Fault) : Read α := do throw ⟨(← peek).line, fault⟩

def unexpected {α : Type} : Read α := do
  let m ← peek
  let closesParen : Bool := match m.token with
    | .newline => true
    | .sign s => s = ";" || s = "\x7d"
    | _ => false
  if closesParen ∧ 0 < m.parens then fail (.missing ')' m.token.shown)
  else if m.token = .finish then fail (.missing '\x7d' m.token.shown)
  else fail (.near m.token.shown)

def sees (s : String) : Read Bool := do return (← upcoming) = .sign s

def took (s : String) : Read Bool := do
  if ← sees s then
    pass
    return true
  else return false

def expect (s : String) : Read Unit := do if !(← took s) then unexpected

def skipNewlines (fuel : Nat) : Read Unit :=
  match fuel with
  | 0 => pure ()
  | fuel + 1 => do
    if (← upcoming) = .newline then
      pass
      skipNewlines fuel

def expectName : Read String := do
  match ← upcoming with
  | .name x _ =>
    pass
    return x
  | _ => unexpected

def compiled (text : Octets) : Read Regex := do
  match Pattern.read text with
  | .ok r => return r
  | .error e => fail (.pattern e.message text)

structure Operand where
  expr : Expr
  isTarget : Bool

def plain (e : Expr) : Operand := ⟨e, false⟩

def note (line : Nat) (fault : Fault) : Read Unit := modify fun s => { s with faults := ⟨line, fault⟩ :: s.faults }

def placeOf (x : String) : Read Scoped := do
  let s ← get
  return ⟨if s.parameters.contains x then s.function.getD "" else "", x⟩

def noteKind (isTable : Bool) (x : String) : Read Unit := do
  let place ← placeOf x
  match (← get).kinds.lookup place with
  | none => modify fun s => { s with kinds := (place, isTable) :: s.kinds }
  | some known =>
    if known ≠ isTable then note (← peek).line (.illegal known (place.within ≠ "") x)

def expectTable : Read String := do
  let x ← expectName
  noteKind true x
  return x

def bareName? : Expr → Option String
  | .value (.name x) => some x
  | _ => none

/-- What is known of an argument holds of what takes it, and the other way round. False when nothing is known yet. -/
def settle (p : Passing) : Read Bool := do
  let s ← get
  match s.known.lookup p.callee with
  | none => return false
  | some parameters =>
    let taken : Scoped := ⟨p.callee, (parameters[p.index]?).getD ""⟩
    let given : Option Bool := match p.given with
      | some g => s.kinds.lookup g
      | none => some false
    match given, s.kinds.lookup taken with
    | some g, some t =>
      if g ≠ t then note p.line (.argument (p.index + 1) p.callee g)
      return true
    | some g, none =>
      set { s with kinds := (taken, g) :: s.kinds }
      return true
    | none, some t =>
      set { s with kinds := (p.given.map fun g => (g, t)).toList ++ s.kinds }
      return true
    | none, none => return false

def settleAll : Nat → Read Unit
  | 0 => pure ()
  | fuel + 1 => do
    let before := (← get).passings
    let open_ ← before.filterM fun p => do return !(← settle p)
    modify fun s => { s with passings := open_ }
    if open_.length < before.length then settleAll fuel

def noteCall (callee : String) (args : List Expr) (line : Nat) : Read Unit := do
  modify fun s => { s with calls := (callee, args.length, line) :: s.calls }
  for (e, i) in args.zipIdx do
    let given ← match bareName? e with
      | some x => do pure (some (← placeOf x))
      | none => pure none
    let p : Passing := ⟨given, callee, i, line⟩
    if !(← settle p) then modify fun s => { s with passings := s.passings ++ [p] }

def targetOf : Expr → Option Target
  | .value t => some t
  | _ => none

def assigning? (s : String) : Option (Option Operator) :=
  [("=", none), ("+=", some .add), ("-=", some .sub), ("*=", some .mul), ("/=", some .div), ("%=", some .mod),
    ("^=", some Operator.pow)].lookup s

def relation? (s : String) : Option Relation :=
  [("<", Relation.less), ("<=", .atMost), ("==", .equal), ("!=", .unequal), (">=", .atLeast), (">", .greater)].lookup s

def beginsOperand : Token → Bool
  | .number .. => true
  | .text _ => true
  | .pattern _ => true
  | .name .. => true
  | .word x => isBuiltin x || x = "getline"
  | .sign s => s = "(" || s = "$" || s = "!" || s = "-" || s = "+" || s = "++" || s = "--"
  | _ => false

def bareArgument? : List Marked → Option (String × List Marked)
  | ⟨.name x false, _, _⟩ :: m :: rest => if m.token = .sign "," ∨ m.token = .sign ")" then some (x, m :: rest) else none
  | _ => none

def isNameToken : Token → Bool
  | .name .. => true
  | _ => false

mutual

/-- An expression. Where output may be led on, `>` and `|` do not belong to it. -/
def expression (fuel : Nat) (out : Bool) : Read Expr :=
  match fuel with
  | 0 => unexpected
  | fuel + 1 => do
    let c ← chain fuel out 1
    if ← took "?" then
      let yes ← expression fuel out
      expect ":"
      let no ← expression fuel out
      return .choice c yes no
    else return c

/-- Operands joined by operators that bind at least as tightly as `least`, from either to comparison. -/
def chain (fuel : Nat) (out : Bool) (least : Nat) : Read Expr :=
  match fuel with
  | 0 => unexpected
  | fuel + 1 => do
    let a ← operand fuel out
    links fuel out least a

def links (fuel : Nat) (out : Bool) (least : Nat) (a : Expr) : Read Expr :=
  match fuel with
  | 0 => unexpected
  | fuel + 1 => do
    match ← upcoming with
    | .word "in" =>
      if 3 < least then return a
      pass
      links fuel out least (.member [a] (← expectTable))
    | .sign s =>
      if s = "||" ∧ least ≤ 1 then
        pass
        links fuel out least (.either a (← chain fuel out 2))
      else if s = "&&" ∧ least ≤ 2 then
        pass
        links fuel out least (.both a (← chain fuel out 3))
      else if (s = "~" ∨ s = "!~") ∧ least ≤ 4 then
        pass
        links fuel out least (.found (s = "!~") a (← chain fuel out 5))
      else match relation? s with
        | some r =>
          if least ≤ 5 ∧ !(out ∧ (s = ">" ∨ s = ">=")) then
            pass
            links fuel out least (.compare r a (← chain fuel out 6))
          else return a
        | none => return a
    | _ => return a

/-- An operand of the operators above; one that can be given a value may be given one. -/
def operand (fuel : Nat) (out : Bool) : Read Expr :=
  match fuel with
  | 0 => unexpected
  | fuel + 1 => do
    let a ← concatenation fuel out
    match (if a.isTarget then targetOf a.expr else none), ← upcoming with
    | some t, .sign s =>
      match assigning? s with
      | some first =>
        pass
        return .assign t first (← expression fuel out)
      | none => return a.expr
    | _, _ => return a.expr

def concatenation (fuel : Nat) (out : Bool) : Read Operand :=
  match fuel with
  | 0 => unexpected
  | fuel + 1 => do
    let a ← sum fuel out
    concatenated fuel out a

def concatenated (fuel : Nat) (out : Bool) (a : Operand) : Read Operand :=
  match fuel with
  | 0 => unexpected
  | fuel + 1 => do
    if beginsOperand (← upcoming) then
      let b ← sum fuel out
      concatenated fuel out (plain (.concat a.expr b.expr))
    else return a

def sum (fuel : Nat) (out : Bool) : Read Operand :=
  match fuel with
  | 0 => unexpected
  | fuel + 1 => do
    let a ← product fuel out
    sums fuel out a

def sums (fuel : Nat) (out : Bool) (a : Operand) : Read Operand :=
  match fuel with
  | 0 => unexpected
  | fuel + 1 => do
    let o? : Option Operator := match ← upcoming with
      | .sign "+" => some Operator.add
      | .sign "-" => some Operator.sub
      | _ => none
    match o? with
    | some o =>
      pass
      let b ← product fuel out
      sums fuel out (plain (.binary o a.expr b.expr))
    | none => return a

def product (fuel : Nat) (out : Bool) : Read Operand :=
  match fuel with
  | 0 => unexpected
  | fuel + 1 => do
    let a ← signed fuel out
    products fuel out a

def products (fuel : Nat) (out : Bool) (a : Operand) : Read Operand :=
  match fuel with
  | 0 => unexpected
  | fuel + 1 => do
    let o? : Option Operator := match ← upcoming with
      | .sign "*" => some Operator.mul
      | .sign "/" => some Operator.div
      | .sign "%" => some Operator.mod
      | _ => none
    match o? with
    | some o =>
      pass
      let b ← signed fuel out
      products fuel out (plain (.binary o a.expr b.expr))
    | none => return a

def signed (fuel : Nat) (out : Bool) : Read Operand :=
  match fuel with
  | 0 => unexpected
  | fuel + 1 => do
    if ← took "!" then return plain (.inverse (← signed fuel out).expr)
    else if ← took "-" then return plain (.negative (← signed fuel out).expr)
    else if ← took "+" then return plain (.positive (← signed fuel out).expr)
    else
      let a ← power fuel
      piped fuel out a

def piped (fuel : Nat) (out : Bool) (a : Operand) : Read Operand :=
  match fuel with
  | 0 => unexpected
  | fuel + 1 => do
    let follows : Bool := match (← get).rest with
      | ⟨.sign "|", _, _⟩ :: ⟨.word "getline", _, _⟩ :: _ => true
      | _ => false
    if follows then
      pass
      pass
      let t ← fetchTarget fuel
      piped fuel out (plain (.fetch (.command a.expr) t))
    else return a

def fetchTarget (fuel : Nat) : Read (Option Target) :=
  match fuel with
  | 0 => unexpected
  | fuel + 1 => do
    let t ← upcoming
    if isNameToken t ∨ t = .sign "$" then
      let a ← primary fuel
      match targetOf a.expr with
      | some t => return some t
      | none => unexpected
    else return none

def power (fuel : Nat) : Read Operand :=
  match fuel with
  | 0 => unexpected
  | fuel + 1 => do
    let a ← stepped fuel
    if ← took "^" then return plain (.binary .pow a.expr (← exponent fuel))
    else return a

def exponent (fuel : Nat) : Read Expr :=
  match fuel with
  | 0 => unexpected
  | fuel + 1 => do
    if ← took "!" then return .inverse (← exponent fuel)
    else if ← took "-" then return .negative (← exponent fuel)
    else if ← took "+" then return .positive (← exponent fuel)
    else return (← power fuel).expr

/-- An operand that is stepped up or down, before or after its value is taken. -/
def stepped (fuel : Nat) : Read Operand :=
  match fuel with
  | 0 => unexpected
  | fuel + 1 => do
    let before? : Option Bool := match ← upcoming with
      | .sign "++" => some true
      | .sign "--" => some false
      | _ => none
    match before? with
    | some up =>
      pass
      let a ← primary fuel
      match (if a.isTarget then targetOf a.expr else none) with
      | some t => return plain (.step t up false)
      | none => unexpected
    | none =>
      let a ← primary fuel
      match (if a.isTarget then targetOf a.expr else none), ← upcoming with
      | some t, .sign "++" =>
        pass
        return plain (.step t true true)
      | some t, .sign "--" =>
        pass
        return plain (.step t false true)
      | _, _ => return a

def arguments (fuel : Nat) (close : String) : Read (List Expr) :=
  match fuel with
  | 0 => unexpected
  | fuel + 1 => do
    if ← took close then return []
    else moreArguments fuel close

def moreArguments (fuel : Nat) (close : String) : Read (List Expr) :=
  match fuel with
  | 0 => unexpected
  | fuel + 1 => do
    let e ← expression fuel false
    if ← took "," then return e :: (← moreArguments fuel close)
    else
      expect close
      return [e]

def primary (fuel : Nat) : Read Operand :=
  match fuel with
  | 0 => unexpected
  | fuel + 1 => do
    let m ← peek
    match m.token with
    | .number x _ =>
      pass
      return plain (.number x)
    | .text cs =>
      pass
      return plain (.text cs)
    | .pattern cs =>
      let r ← compiled cs
      pass
      return plain (.pattern r)
    | .name x called =>
      let isFunction := called || ((← get).functions.contains x && (← get).rest.tail.head?.any (·.token = .sign "("))
      pass
      if isFunction then
        expect "("
        let args ← passed fuel
        noteCall x args m.line
        return plain (.call x args)
      else if ← took "[" then
        noteKind true x
        return ⟨.value (.element x (← moreArguments fuel "]")), true⟩
      else
        noteKind false x
        return ⟨.value (.name x), true⟩
    | .word "getline" =>
      pass
      let t ← fetchTarget fuel
      if ← took "<" then
        let file ← power fuel
        return plain (.fetch (.file file.expr) t)
      else return plain (.fetch .input t)
    | .word x => builtin fuel x
    | .sign "$" =>
      pass
      let index ← fieldIndex fuel
      return ⟨.value (.field index), true⟩
    | .sign "(" =>
      pass
      let es ← moreArguments fuel ")"
      match es with
      | [e] =>
        match e with
        | .value (.field i) => return ⟨.value (.field i), true⟩
        | e => return plain e
      | es =>
        match ← upcoming with
        | .word "in" =>
          pass
          return plain (.member es (← expectTable))
        | _ => unexpected
    | _ => unexpected

/-- The arguments of a function. A bare name among them may be that of a table. -/
def passed (fuel : Nat) : Read (List Expr) :=
  match fuel with
  | 0 => unexpected
  | fuel + 1 => do if ← took ")" then return [] else morePassed fuel

def morePassed (fuel : Nat) : Read (List Expr) :=
  match fuel with
  | 0 => unexpected
  | fuel + 1 => do
    let e ← match bareArgument? (← get).rest with
      | some (x, rest) => do
        modify fun s => { s with rest := rest }
        pure (.value (.name x))
      | none => expression fuel false
    if ← took "," then return e :: (← morePassed fuel)
    else
      expect ")"
      return [e]

def builtin (fuel : Nat) (x : String) : Read Operand :=
  match fuel with
  | 0 => unexpected
  | fuel + 1 => do
    let line := (← peek).line
    match builtinArity.lookup x with
    | none => unexpected
    | some (least, most) =>
      pass
      match x with
      | "length" =>
        if !(← took "(") then return plain (.builtin x [])
        let args ← passed fuel
        if 1 < args.length then throw ⟨line, .argumentCount x⟩
        return plain (.builtin x args)
      | "split" =>
        expect "("
        let e ← expression fuel false
        expect ","
        let t ← expectTable
        let table : Expr := .value (.name t)
        if ← took ")" then return plain (.builtin x [e, table])
        expect ","
        let separator ← expression fuel false
        expect ")"
        return plain (.builtin x [e, table, separator])
      | "match" =>
        expect "("
        let e ← expression fuel false
        expect ","
        let pattern ← expression fuel false
        expect ")"
        return plain (.builtin x [e, pattern])
      | x =>
        expect "("
        if x = "sub" ∨ x = "gsub" then
          let pattern ← expression fuel false
          expect ","
          let by_ ← expression fuel false
          if ← took ")" then return plain (.builtin x [pattern, by_])
          expect ","
          match ← fetchTarget fuel with
          | none => unexpected
          | some t =>
            expect ")"
            return plain (.builtin x [pattern, by_, .value t])
        else
          let args ← arguments fuel ")"
          if args.length < least ∨ most < args.length then throw ⟨line, .argumentCount x⟩
          return plain (.builtin x args)

def fieldIndex (fuel : Nat) : Read Expr :=
  match fuel with
  | 0 => unexpected
  | fuel + 1 => do
    match ← upcoming with
    | .sign "++" => return (← stepped fuel).expr
    | .sign "--" => return (← stepped fuel).expr
    | .sign "-" =>
      pass
      return .negative (← fieldIndex fuel)
    | .sign "+" =>
      pass
      return .positive (← fieldIndex fuel)
    | .sign "!" =>
      pass
      return .inverse (← fieldIndex fuel)
    | _ => return (← primary fuel).expr

end

/-- Takes the end of a simple statement; a closing brace ends one too and stays. -/
def endStatement : Read Unit := do
  match ← upcoming with
  | .newline => pass
  | .sign ";" => pass
  | .sign "\x7d" => pure ()
  | _ => unexpected

def endsPrint : Token → Bool
  | .newline => true
  | .finish => true
  | .sign s => s = ";" || s = "\x7d" || s = ">" || s = ">>" || s = ">=" || s = "|"
  | _ => false

/-- The arguments of a statement that prints. Brackets may stand around all of them. -/
def printed (fuel : Nat) : Read (List Expr) := do
  if endsPrint (← upcoming) then return []
  let s ← get
  if ← sees "(" then
    pass
    let es ← arguments fuel ")"
    if endsPrint (← upcoming) then return es
    set s
  let rec more : Nat → Read (List Expr)
    | 0 => unexpected
    | n + 1 => do
      let e ← expression fuel true
      if ← took "," then return e :: (← more n) else return [e]
  more fuel

def arrow (fuel : Nat) : Read (Option (Arrow × Expr)) := do
  if ← took ">" then return some (.replace, ← expression fuel false)
  else if ← took ">>" then return some (.append, ← expression fuel false)
  else if ← took "|" then return some (.command, ← expression fuel false)
  else if ← sees ">=" then fail (.near ['='])
  else return none

def inLoop {α : Type} (read : Read α) : Read α := do
  modify fun s => { s with loops := s.loops + 1 }
  let a ← read
  modify fun s => { s with loops := s.loops - 1 }
  return a

def keyed? : List Marked → Option (String × String × List Marked)
  | ⟨.sign "(", _, _⟩ :: ⟨.name key _, _, _⟩ :: ⟨.word "in", _, _⟩ :: ⟨.name table _, _, _⟩ :: ⟨.sign ")", _, _⟩ :: rest =>
    some (key, table, rest)
  | _ => none

def skipFaulty (e : Located) : Read Unit := do
  let s ← get
  let rest := s.rest.dropWhile fun m => m.token ≠ .newline ∧ m.token ≠ .sign ";" ∧ m.token ≠ .finish
  match rest with
  | m :: more =>
    if m.token = .finish ∨ more.length ≤ 1 then throw e
    set { s with rest := more, faults := e :: s.faults }
  | [] => throw e

def optional (fuel : Nat) (close : String) : Read (Option Expr) := do
  if ← took close then return none
  else
    let e ← expression fuel false
    expect close
    return some e

mutual

def statement (fuel : Nat) : Read Statement :=
  match fuel with
  | 0 => unexpected
  | fuel + 1 => do
    let plainly (s : Statement) : Read Statement := do
      endStatement
      return s
    let condition : Read Expr := do
      expect "("
      let e ← expression fuel false
      expect ")"
      skipNewlines fuel
      return e
    match ← upcoming with
    | .newline =>
      pass
      return .block []
    | .sign ";" =>
      pass
      return .block []
    | .sign "\x7b" => block fuel
    | .word "if" =>
      pass
      let c ← condition
      let yes ← statement fuel
      if (← upcoming) = .word "else" then
        pass
        return .choice c yes (← statement fuel)
      else return .choice c yes (.block [])
    | .word "while" =>
      pass
      let c ← condition
      return .loop true (some c) (.block []) (← inLoop (statement fuel))
    | .word "do" =>
      pass
      let body ← inLoop (statement fuel)
      if (← upcoming) ≠ .word "while" then unexpected
      pass
      expect "("
      let c ← expression fuel false
      expect ")"
      plainly (.loop false (some c) (.block []) body)
    | .word "for" =>
      pass
      match keyed? (← get).rest with
      | some (key, table, rest) =>
        modify fun s => { s with rest := rest }
        noteKind false key
        noteKind true table
        skipNewlines fuel
        return .each key table (← inLoop (statement fuel))
      | none =>
        expect "("
        let first ← optional fuel ";"
        let c ← optional fuel ";"
        let step ← optional fuel ")"
        skipNewlines fuel
        let body ← inLoop (statement fuel)
        let act (e : Option Expr) : List Statement := (e.map Statement.expression).toList
        return .block (act first ++ [.loop true c (.block (act step)) body])
    | .word "break" =>
      if (← get).loops = 0 then fail (.outsideLoop "break")
      pass
      plainly .leave
    | .word "continue" =>
      if (← get).loops = 0 then fail (.outsideLoop "continue")
      pass
      plainly .again
    | .word "next" =>
      if !(← get).inRule ∧ (← get).function.isNone then fail (.misplaced "next")
      pass
      plainly .next
    | .word "nextfile" =>
      if !(← get).inRule ∧ (← get).function.isNone then fail (.misplaced "nextfile")
      pass
      plainly .nextFile
    | .word "exit" =>
      pass
      plainly (.exit (← result fuel))
    | .word "return" =>
      if (← get).function.isNone then fail .outsideFunction
      pass
      plainly (.back (← result fuel))
    | .word "delete" =>
      pass
      let x ← expectTable
      if ← took "[" then
        let subscripts ← moreArguments fuel "]"
        plainly (.delete x (some subscripts))
      else plainly (.delete x none)
    | .word "print" =>
      pass
      let es ← printed fuel
      plainly (.print es (← arrow fuel))
    | .word "printf" =>
      pass
      let es ← printed fuel
      if es.isEmpty then fail (.noArguments "printf")
      plainly (.printf es (← arrow fuel))
    | _ =>
      let e ← expression fuel false
      plainly (.expression e)

def result (fuel : Nat) : Read (Option Expr) :=
  match fuel with
  | 0 => unexpected
  | fuel + 1 => do
    match ← upcoming with
    | .newline => return none
    | .sign ";" => return none
    | .sign "\x7d" => return none
    | _ => return some (← expression fuel false)

def block (fuel : Nat) : Read Statement :=
  match fuel with
  | 0 => unexpected
  | fuel + 1 => do
    expect "\x7b"
    return .block (← statements fuel)

def statements (fuel : Nat) : Read (List Statement) :=
  match fuel with
  | 0 => unexpected
  | fuel + 1 => do
    if ← took "\x7d" then return []
    else
      let s ← try statement fuel catch e => do
        skipFaulty e
        pure (.block [])
      return s :: (← statements fuel)

end

def parameters (fuel : Nat) : Read (List String) :=
  match fuel with
  | 0 => unexpected
  | fuel + 1 => do
    if ← took ")" then return []
    let m ← peek
    let x ← expectName
    let more ← if ← took "," then parameters fuel else do
      expect ")"
      pure []
    if more.contains x then throw ⟨m.line, .duplicated x⟩
    return x :: more

def item (fuel : Nat) (p : Program) : Read Program := do
  let ruleBody (inRule : Bool) (function : Option String) (parameters : List String) : Read Statement := do
    modify fun s => { s with inRule := inRule, function := function, parameters := parameters, loops := 0 }
    let b ← block fuel
    modify fun s => { s with
      function := none
      parameters := []
      known := (function.map fun x => (x, parameters)).toList ++ s.known }
    let _ ← took ";"
    return b
  match ← upcoming with
  | .word "BEGIN" =>
    pass
    return { p with before := p.before ++ [← ruleBody false none []] }
  | .word "END" =>
    pass
    return { p with after := p.after ++ [← ruleBody false none []] }
  | .word "function" =>
    pass
    let m ← peek
    let x ← expectName
    if p.functions.any (·.name = x) then throw ⟨m.line, .redefined x⟩
    expect "("
    let ps ← parameters fuel
    skipNewlines fuel
    return { p with functions := p.functions ++ [⟨x, ps, [], ← ruleBody false (some x) ps⟩] }
  | .sign "\x7b" => return { p with rules := p.rules ++ [⟨.always, some (← ruleBody true none [])⟩] }
  | _ =>
    let first ← expression fuel false
    let condition ← if ← took "," then do pure (Condition.range first (← expression fuel false))
      else pure (Condition.holds first)
    match ← upcoming with
    | .sign "\x7b" => return { p with rules := p.rules ++ [⟨condition, some (← ruleBody true none [])⟩] }
    | .newline => pass
    | .sign ";" => pass
    | _ => unexpected
    return { p with rules := p.rules ++ [⟨condition, none⟩] }

def items (fuel : Nat) (inner : Nat) (p : Program) : Read Program :=
  match fuel with
  | 0 => return p
  | fuel + 1 => do
    skipNewlines inner
    if (← upcoming) = .finish then return p
    else items fuel inner (← item inner p)

end Read

def definedNames : List Marked → List String
  | ⟨.word "function", _, _⟩ :: ⟨.name x called, line, parens⟩ :: rest =>
    x :: definedNames (⟨.name x called, line, parens⟩ :: rest)
  | _ :: rest => definedNames rest
  | [] => []

def badCall? (p : Program) (lastLine : Nat) : List (String × Nat × Nat) → Option Located
  | [] => none
  | (x, count, line) :: rest =>
    match badCall? p lastLine rest with
    | some e => some e
    | none =>
      match p.functions.find? (·.name = x) with
      | none => some ⟨lastLine, .undefined x⟩
      | some f => if f.parameters.length < count then some ⟨line, .surplus x⟩ else none

def givenKinds : List (Scoped × Bool) :=
  [(⟨"", "ENVIRON"⟩, true), (⟨"", "ARGV"⟩, true)] ++ usualNames.map fun x => (⟨"", x⟩, false)
where
  usualNames : List String := ["NR", "NF", "FNR", "FS", "OFS", "RS", "ORS", "FILENAME", "SUBSEP", "RSTART", "RLENGTH", "CONVFMT",
    "OFMT", "ARGC"]

def maxFaults : Nat := 5

def Program.read (text : Octets) : Except (List Located) Program :=
  let text := text ++ ['\n']
  let (ts, lexical) := tokens (2 * text.length + 2) 1 0 0 .newline text
  let ended := (ts.getLast?.map Marked.token) = some Token.finish
  let lastLine := text.count '\n' + 1
  let fuel := 40 * ts.length + 100
  let complete := if ended then ts else ts ++ match lexical.getLast? with
    | some e => [⟨.finish, e.line, 0⟩]
    | none => []
  let work : Read Program := do
    let p ← Read.items fuel fuel ⟨[], [], [], []⟩
    Read.settleAll ((← get).passings.length + 1)
    return p
  let (answer, s) := work.run.run ⟨complete, definedNames ts, [], 0, none, [], false, [], [], givenKinds, []⟩
  let told := s.faults.reverse
  let stray : List Located := match lexical.getLast? with
    | some ⟨line, .extra '\x7d'⟩ => [⟨line, .near "end of line".toList⟩]
    | _ => []
  let last : List Located := match answer with
    | .ok p => if ended then (badCall? p lastLine s.calls).toList else stray
    | .error e =>
      match e.fault with
      | .missing '\x7d' _ => if ended then [e] else stray
      | _ => e :: if ended ∧ 0 < openBraces ts then [⟨lastLine, .missing '\x7d' "end of file".toList⟩] else []
  let faults := (told ++ lexical ++ last).take maxFaults
  match answer, faults with
  | .ok p, [] =>
    .ok { p with functions := p.functions.map fun f =>
      { f with tables := f.parameters.filter fun x => s.kinds.lookup ⟨f.name, x⟩ = some true } }
  | _, faults => .error faults

end PassDelta.Machine.Records
