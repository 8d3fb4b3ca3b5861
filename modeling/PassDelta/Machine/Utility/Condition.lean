import PassDelta.Machine.Numeral
import PassDelta.Machine.Tree
/-!
# Conditions

Tests on words, numbers and files, joined by "not", "and" and "or". A single word holds when it is not empty, also
when it looks like an operator.
-/

namespace PassDelta.Machine

inductive ConditionFault where
  | illegalNumber (word : Octets)
  | unexpectedOperator (word : Octets)
  | argumentExpected (word : Octets)
  | unclosed
  deriving DecidableEq, Repr

def ConditionFault.message : ConditionFault → Octets
  | .illegalNumber word => "Illegal number: ".toList ++ word
  | .unexpectedOperator word => word ++ ": unexpected operator".toList
  | .argumentExpected word => word ++ ": argument expected".toList
  | .unclosed => "closing paren expected".toList

def compareBy? (operator : Octets) : Option (Int → Int → Bool) :=
  match String.ofList operator with
  | "-eq" => some (· = ·)
  | "-ne" => some (· ≠ ·)
  | "-lt" => some (· < ·)
  | "-le" => some (· ≤ ·)
  | "-gt" => some (· > ·)
  | "-ge" => some (· ≥ ·)
  | _ => none

def relateBy? (operator : Octets) : Option (Octets → Octets → Bool) :=
  match String.ofList operator with
  | "=" => some fun a b => a = b
  | "!=" => some fun a b => a ≠ b
  | "<" => some fun a b => decide (a < b)
  | ">" => some fun a b => decide (b < a)
  | _ => none

def isBinary (word : Octets) : Bool :=
  (compareBy? word).isSome || (relateBy? word).isSome || word = "-nt".toList || word = "-ot".toList ||
    word = "-ef".toList

structure Place.View where
  tree : Tree
  here : Place

def testOne? (v : Place.View) (operator word : Octets) : Option Bool :=
  let entry := (v.tree.find v.here ⟨bytesOf word⟩).toOption.bind v.tree.entry?
  let itself := (v.tree.findLink v.here ⟨bytesOf word⟩).toOption.bind v.tree.entry?
  let isLink := match itself with
    | some (.link _) => true
    | _ => false
  let hasBit (n : Nat) : Bool := match entry with
    | some (.file _ mode) => mode.testBit n
    | some (.dir mode) => mode.testBit n
    | _ => false
  match String.ofList operator with
  | "-n" => some (!word.isEmpty)
  | "-z" => some word.isEmpty
  | "-e" => some entry.isSome
  | "-r" => some entry.isSome
  | "-w" => some entry.isSome
  | "-O" => some entry.isSome
  | "-G" => some entry.isSome
  | "-d" => some (entry.any Entry.isDir)
  | "-f" => some (match entry with
      | some (.file ..) => true
      | some (.program _) => true
      | _ => false)
  | "-c" => some (match entry with
      | some (.device _) => true
      | _ => false)
  | "-s" => some (match entry with
      | some (.file contents _) => !contents.isEmpty
      | some (.dir _) => true
      | some (.program _) => true
      | _ => false)
  | "-x" => some (entry.any fun e => e.isProgram || e.isDir)
  | "-b" => some false
  | "-h" => some isLink
  | "-L" => some isLink
  | "-p" => some false
  | "-S" => some false
  | "-g" => some (hasBit 10)
  | "-u" => some (hasBit 11)
  | "-k" => some (hasBit 9)
  | "-t" => some false
  | _ => none

def isSamePlace (v : Place.View) (a b : Octets) : Bool :=
  match v.tree.find v.here ⟨bytesOf a⟩, v.tree.find v.here ⟨bytesOf b⟩ with
  | .ok p, .ok q => p = q
  | _, _ => false

def testTwo (v : Place.View) (a operator b : Octets) : Except ConditionFault Bool :=
  match relateBy? operator, compareBy? operator with
  | some holds, _ => .ok (holds a b)
  | none, some holds =>
    match decimalNumber? a, decimalNumber? b with
    | some m, some n => .ok (holds m n)
    | none, _ => .error (.illegalNumber a)
    | _, none => .error (.illegalNumber b)
  | none, none => .ok (operator = "-ef".toList && isSamePlace v a b)

abbrev ConditionScan := Except ConditionFault (Bool × List Octets)

mutual

def testPrimary (v : Place.View) (fuel : Nat) (words : List Octets) : ConditionScan :=
  match fuel with
  | 0 => .error .unclosed
  | fuel + 1 =>
    match words with
    | [] => .ok (false, [])
    | [w] => .ok (!w.isEmpty, [])
    | a :: op :: rest =>
      if isBinary op then
        match rest with
        | b :: rest => (testTwo v a op b).map fun holds => (holds, rest)
        | [] =>
          match testOne? v a op with
          | some b => .ok (b, [])
          | none => .error (.argumentExpected op)
      else if a = ['('] then
        (testEither v fuel (op :: rest)).bind fun (b, r) =>
          if r.head? = some [')'] then .ok (b, r.tail) else .error .unclosed
      else match testOne? v a op with
        | some b => .ok (b, rest)
        | none => .ok (!a.isEmpty, op :: rest)

def testInverse (v : Place.View) (fuel : Nat) (words : List Octets) : ConditionScan :=
  match fuel with
  | 0 => .error .unclosed
  | fuel + 1 =>
    match words with
    | ['!'] :: w :: rest =>
      if isBinary w ∧ rest.length = 1 then testPrimary v fuel words
      else (testInverse v fuel (w :: rest)).map fun (b, r) => (!b, r)
    | _ => testPrimary v fuel words

def testBoth (v : Place.View) (fuel : Nat) (words : List Octets) : ConditionScan :=
  match fuel with
  | 0 => .error .unclosed
  | fuel + 1 =>
    (testInverse v fuel words).bind fun (a, r) =>
      if r.head? = some "-a".toList then (testBoth v fuel r.tail).map fun (b, r) => (a && b, r) else .ok (a, r)

def testEither (v : Place.View) (fuel : Nat) (words : List Octets) : ConditionScan :=
  match fuel with
  | 0 => .error .unclosed
  | fuel + 1 =>
    (testBoth v fuel words).bind fun (a, r) =>
      if r.head? = some "-o".toList then (testEither v fuel r.tail).map fun (b, r) => (a || b, r) else .ok (a, r)

end

def test (v : Place.View) (words : List Octets) : Except ConditionFault Bool :=
  match words with
  | [] => .ok false
  | _ =>
    match testEither v (6 * words.length + 6) words with
    | .ok (b, []) => .ok b
    | .ok (_, left) => .error (.unexpectedOperator ((words.take (words.length - left.length)).getLast?.getD []))
    | .error e => .error e

end PassDelta.Machine
