import PassDelta.Machine.Regex
import PassDelta.Machine.Utility.Act
/-!
# Expressions of words

Sums, comparisons and matches whose every operand and operator is a word of its own.
-/

namespace PassDelta.Machine.Utility

inductive ExpressionFault where
  | missingArgument (after : Octets)
  | unexpectedArgument (word : Octets)
  | unclosed (after : Octets)
  | noInteger
  | divisionByZero
  | pattern (text : String)
  deriving DecidableEq, Repr

structure Wording where
  last : Octets
  rest : List Octets

abbrev Evaluate := StateT Wording (Except ExpressionFault)

namespace Evaluate

def next : Evaluate Octets := do
  let s ← get
  match s.rest with
  | w :: rest =>
    set (⟨w, rest⟩ : Wording)
    return w
  | [] => throw (.missingArgument s.last)

def took (word : String) : Evaluate Bool := do
  let s ← get
  match s.rest with
  | w :: rest =>
    if w = word.toList then
      set (⟨w, rest⟩ : Wording)
      return true
    else return false
  | [] => return false

def isNull (w : Octets) : Bool :=
  w.isEmpty || (let body := if w.head? = some '-' then w.tail else w; !body.isEmpty && body.all (· = '0'))

def integer? (w : Octets) : Option Int := if w.head? = some '+' then none else readInteger? w

def shownInt (n : Int) : Octets := (toString n).toList

def shownTruth (b : Bool) : Octets := if b then ['1'] else ['0']

/-- What a text has of a pattern at its front: its first group, or how long it is. -/
def front (text pattern : Octets) : Evaluate Octets := do
  match Regex.read false pattern with
  | .error e => throw (.pattern e)
  | .ok r =>
    let grouped := 0 < r.groupCount
    match r.matchAt? false ⟨none, text, []⟩ with
    | some s =>
      if grouped then return (s.groups.lookup 1).getD []
      else return shownInt (text.length - s.rest.length : Nat)
    | none => return if grouped then [] else ['0']

def calculate (operator : String) (a b : Octets) : Evaluate Octets := do
  match integer? a, integer? b with
  | some m, some n =>
    if operator = "+" then return shownInt (m + n)
    if operator = "-" then return shownInt (m - n)
    if operator = "*" then return shownInt (m * n)
    if n = 0 then throw .divisionByZero
    return shownInt (if operator = "/" then m.tdiv n else m.tmod n)
  | _, _ => throw .noInteger

def ordered (a b : Octets) : Ordering :=
  match integer? a, integer? b with
  | some m, some n => compare m n
  | _, _ => if a = b then .eq else if a < b then .lt else .gt

def relation? (operator : String) : Option (Ordering → Bool) :=
  match operator with
  | "<" => some (· = .lt)
  | "<=" => some (· ≠ .gt)
  | "=" => some (· = .eq)
  | "==" => some (· = .eq)
  | "!=" => some (· ≠ .eq)
  | ">=" => some (· ≠ .lt)
  | ">" => some (· = .gt)
  | _ => none

def levels : List (List String) :=
  [["|"], ["&"], ["<", "<=", "=", "==", "!=", ">=", ">"], ["+", "-"], ["*", "/", "%"], [":"]]

def combined (operator : String) (a b : Octets) : Evaluate Octets := do
  if operator = "|" then return if !isNull a then a else if !isNull b then b else ['0']
  if operator = "&" then return if isNull a ∨ isNull b then ['0'] else a
  if operator = ":" then return ← front a b
  match relation? operator with
  | some holds => return shownTruth (holds (ordered a b))
  | none => calculate operator a b

def tookOne : List String → Evaluate (Option String)
  | [] => return none
  | o :: more => do if ← took o then return some o else tookOne more

mutual

def level (fuel n : Nat) : Evaluate Octets :=
  match fuel with
  | 0 => throw .noInteger
  | fuel + 1 => do
    match levels[n]? with
    | none => operand fuel
    | some operators => further fuel n operators (← level fuel (n + 1))

def further (fuel n : Nat) (operators : List String) (a : Octets) : Evaluate Octets :=
  match fuel with
  | 0 => throw .noInteger
  | fuel + 1 => do
    match ← tookOne operators with
    | none => return a
    | some o => further fuel n operators (← combined o a (← level fuel (n + 1)))

def operand (fuel : Nat) : Evaluate Octets :=
  match fuel with
  | 0 => throw .noInteger
  | fuel + 1 => do
    if (← get).rest.length ≤ 1 then
      let w ← next
      if w = ['('] then throw (.missingArgument w)
      if w = [')'] then throw (.unexpectedArgument w)
      return w
    if ← took "+" then return ← next
    if ← took "(" then
      let value ← level fuel 0
      if ← took ")" then return value
      match (← get).rest with
      | [] => throw (.unclosed (← get).last)
      | _ => throw (.unclosed (← get).last)
    if ← took "length" then return shownInt (← operand fuel).length
    if ← took "match" then
      let text ← operand fuel
      return ← front text (← operand fuel)
    if ← took "index" then
      let text ← operand fuel
      let set ← operand fuel
      return shownInt ((text.findIdx? set.contains).elim 0 (· + 1) : Nat)
    if ← took "substr" then
      let text ← operand fuel
      let start ← operand fuel
      let size ← operand fuel
      match integer? start, integer? size with
      | some i, some n => return if i < 1 ∨ n < 1 then [] else (text.drop (i.toNat - 1)).take n.toNat
      | _, _ => return []
    let w ← next
    if w = [')'] then throw (.unexpectedArgument w)
    return w

end

def expression (words : List Octets) : Except ExpressionFault Octets := do
  let (value, s) ← (level (20 * words.length + 20) 0).run ⟨[], words⟩
  match s.rest with
  | [] => return value
  | w :: _ => throw (.unexpectedArgument w)

end Evaluate

open Act

def expr : Act Unit := do
  let args := match (← read).args with
    | ['-', '-'] :: rest => rest
    | args => args
  if args.isEmpty then misuse 2 "missing operand".toList
  else match Evaluate.expression args with
    | .ok value =>
      print (value ++ ['\n'])
      fail (if Evaluate.isNull value then 1 else 0)
    | .error e =>
      match e with
      | .missingArgument w => reject 2 ("syntax error: missing argument after ".toList ++ (← cited w))
      | .unexpectedArgument w => reject 2 ("syntax error: unexpected argument ".toList ++ (← cited w))
      | .unclosed w => reject 2 ("syntax error: expecting ')' after ".toList ++ (← cited w))
      | .noInteger => reject 2 "non-integer argument".toList
      | .divisionByZero => reject 2 "division by zero".toList
      | .pattern text => reject 2 text.toList

example : (Evaluate.expression ["2".toList, "+".toList, "3".toList, "*".toList, "4".toList]).toOption = some "14".toList := by
  decide +kernel

end PassDelta.Machine.Utility
