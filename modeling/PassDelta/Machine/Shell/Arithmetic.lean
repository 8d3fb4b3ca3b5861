import PassDelta.Machine.Shell.Command
/-!
# Arithmetic of the shell

Sums over numbers of sixty-four bits and variables, with the operators, precedence and assignments of C. A text is
read into a tree; where it cannot be read on, the tree has a break, which is met when all before it has been
evaluated. What the evaluation assigns is kept beside the value.
-/

namespace PassDelta.Machine.Shell

/-- A sum. A break stands where something else was expected after the sum that was read. -/
inductive Sum where
  | number (n : Int)
  | variable (name : String)
  | assign (name operator : String) (value : Sum)
  | unary (operator : String) (a : Sum)
  | binary (operator : String) (a b : Sum)
  | choice (condition yes no : Sum)
  | broken (a : Sum) (expected : String)
  deriving DecidableEq, Repr

inductive SumFault where
  | expecting (what : String)
  | divisionByZero
  | illegalNumber (text : Octets)
  deriving DecidableEq, Repr

inductive Sign where
  | op (name : String)
  | number (n : Int)
  | name (name : String)
  | bad
  deriving DecidableEq, Repr

def operators : List String := [
  "<<=", ">>=", "<=", ">=", "==", "!=", "&&", "||", "<<", ">>", "+=", "-=", "*=", "/=", "%=", "&=", "^=", "|=",
  "+", "-", "*", "/", "%", "<", ">", "!", "~", "&", "^", "|", "?", ":", "=", "(", ")"]

def signs : Nat → Octets → List Sign
  | 0, _ => []
  | _ + 1, [] => []
  | fuel + 1, c :: rest =>
    if c = ' ' ∨ c = '\t' ∨ c = '\n' then signs fuel rest
    else if isNameStart c then
      .name (String.ofList (c :: rest.takeWhile isNameChar)) :: signs fuel (rest.dropWhile isNameChar)
    else match readNumber (c :: rest) with
      | some (n, r) => .number (clamp n) :: signs fuel r
      | none =>
        match operators.find? fun o => o.toList.isPrefixOf (c :: rest) with
        | some o => .op o :: signs fuel ((c :: rest).drop o.length)
        | none => [.bad]

def strength? (name : String) : Option Nat :=
  [("||", 1), ("&&", 2), ("|", 3), ("^", 4), ("&", 5), ("==", 6), ("!=", 6), ("<", 7), ("<=", 7), (">", 7), (">=", 7),
    ("<<", 8), (">>", 8), ("+", 9), ("-", 9), ("*", 10), ("/", 10), ("%", 10)].lookup name

def assigning? (name : String) : Option String :=
  [("=", ""), ("+=", "+"), ("-=", "-"), ("*=", "*"), ("/=", "/"), ("%=", "%"), ("<<=", "<<"), (">>=", ">>"), ("&=", "&"),
    ("^=", "^"), ("|=", "|")].lookup name

abbrev SumScan := Sum × List Sign

def noPrimary (ss : List Sign) : SumScan := (.broken (.number 0) "primary", ss)

mutual

/-- A number, a variable, a sum in brackets, or an operand with a sign before it. -/
def primary (fuel : Nat) (ss : List Sign) : SumScan :=
  match fuel with
  | 0 => noPrimary ss
  | fuel + 1 =>
    match ss with
    | .number n :: rest => (.number n, rest)
    | .name x :: rest => (.variable x, rest)
    | .op o :: rest =>
      if o = "(" then
        let (a, r) := assignment fuel rest
        if r.head? = some (.op ")") then (a, r.tail) else (.broken a "')'", r)
      else if o = "+" ∨ o = "-" ∨ o = "!" ∨ o = "~" then
        let (a, r) := primary fuel rest
        (.unary o a, r)
      else noPrimary ss
    | _ => noPrimary ss

/-- More operands joined by operators that bind at least as tightly as `least`. -/
def joined (fuel least : Nat) (left : Sum) (ss : List Sign) : SumScan :=
  match fuel with
  | 0 => (left, ss)
  | fuel + 1 =>
    match ss with
    | .op o :: rest =>
      match strength? o with
      | some n =>
        if n < least then (left, ss)
        else
          let (a, r) := primary fuel rest
          let (b, r) := joined fuel (n + 1) a r
          joined fuel least (.binary o left b) r
      | none => (left, ss)
    | _ => (left, ss)

def conditional (fuel : Nat) (ss : List Sign) : SumScan :=
  match fuel with
  | 0 => noPrimary ss
  | fuel + 1 =>
    let (a, r) := primary fuel ss
    let (a, r) := joined fuel 1 a r
    if r.head? ≠ some (.op "?") then (a, r)
    else
      let (yes, r) := assignment fuel r.tail
      if r.head? ≠ some (.op ":") then (.choice a (.broken yes "':'") (.number 0), r)
      else
        let (no, r) := conditional fuel r.tail
        (.choice a yes no, r)

def assignment (fuel : Nat) (ss : List Sign) : SumScan :=
  match fuel with
  | 0 => noPrimary ss
  | fuel + 1 =>
    match ss with
    | .name x :: .op o :: rest =>
      match assigning? o with
      | some first =>
        let (a, r) := assignment fuel rest
        (.assign x first a, r)
      | none => conditional fuel ss
    | _ => conditional fuel ss

end

def Sum.parse (text : Octets) : Sum :=
  let ss := signs (text.length + 1) text
  match assignment (4 * ss.length + 4) ss with
  | (a, []) => a
  | (a, _) => .broken a "EOF"

def truth (b : Bool) : Int := if b then 1 else 0

def combine (name : String) (a b : Int) : Except SumFault Int :=
  if name = "+" then .ok (wrap (a + b))
  else if name = "-" then .ok (wrap (a - b))
  else if name = "*" then .ok (wrap (a * b))
  else if name = "/" then if b = 0 then .error .divisionByZero else .ok (wrap (a.tdiv b))
  else if name = "%" then if b = 0 then .error .divisionByZero else .ok (a.tmod b)
  else if name = "<<" then .ok (wrap (a * twoTo (bits b % 64)))
  else if name = ">>" then .ok (a.fdiv (twoTo (bits b % 64)))
  else if name = "<" then .ok (truth (a < b))
  else if name = "<=" then .ok (truth (a ≤ b))
  else if name = ">" then .ok (truth (a > b))
  else if name = ">=" then .ok (truth (a ≥ b))
  else if name = "==" then .ok (truth (a = b))
  else if name = "!=" then .ok (truth (a ≠ b))
  else if name = "&" then .ok (wrap (Nat.land (bits a) (bits b)))
  else if name = "|" then .ok (wrap (Nat.lor (bits a) (bits b)))
  else if name = "^" then .ok (wrap (Nat.xor (bits a) (bits b)))
  else .ok b

def apply (name : String) (a : Int) : Int :=
  if name = "-" then wrap (-a)
  else if name = "!" then truth (a = 0)
  else if name = "~" then -a - 1
  else a

def numberOf (text : Octets) : Except SumFault Int :=
  match wholeNumber? text with
  | some n => .ok n
  | none => .error (.illegalNumber text)

abbrev Assigned := List (String × Int)

/-- The value of a sum and what it assigns. What does not count is not live: there only breaks are met. -/
def Sum.eval (value : String → Octets) (live : Bool) : Sum → Assigned → Except SumFault (Int × Assigned)
  | .number n, s => .ok (n, s)
  | .variable x, s =>
    if !live then .ok (0, s)
    else match s.lookup x with
      | some n => .ok (n, s)
      | none => (numberOf (value x)).map fun n => (n, s)
  | .unary o a, s => (eval value live a s).map fun (n, s) => (apply o n, s)
  | .assign x o a, s => do
    let (n, s) ← eval value live a s
    if !live then return (n, s)
    if o = "" then return (n, (x, n) :: s)
    let old ← match s.lookup x with
      | some n => pure n
      | none => numberOf (value x)
    let n ← combine o old n
    return (n, (x, n) :: s)
  | .binary o a b, s => do
    let (m, s) ← eval value live a s
    if o = "&&" then
      let (n, s) ← eval value (live && m ≠ 0) b s
      return (truth (m ≠ 0 ∧ n ≠ 0), s)
    if o = "||" then
      let (n, s) ← eval value (live && m = 0) b s
      return (truth (m ≠ 0 ∨ n ≠ 0), s)
    let (n, s) ← eval value live b s
    if live then return (← combine o m n, s) else return (n, s)
  | .choice c yes no, s => do
    let (n, s) ← eval value live c s
    let (a, s) ← eval value (live && n ≠ 0) yes s
    let (b, s) ← eval value (live && n = 0) no s
    return (if n ≠ 0 then a else b, s)
  | .broken a expected, s => do
    let _ ← eval value live a s
    throw (.expecting expected)

def evaluate (value : String → Octets) (text : Octets) : Except SumFault (Int × Assigned) :=
  (Sum.parse text).eval value true []

def SumFault.message (text : Octets) : SumFault → Octets
  | .illegalNumber n => "Illegal number: ".toList ++ n
  | .divisionByZero => "arithmetic expression: division by zero: \"".toList ++ text ++ ['"']
  | .expecting what => ("arithmetic expression: expecting " ++ what ++ ": \"").toList ++ text ++ ['"']

example : (evaluate (fun _ => ['4']) "i + 2*(3-1) < 9".toList).toOption = some (1, []) := by decide +kernel

end PassDelta.Machine.Shell
