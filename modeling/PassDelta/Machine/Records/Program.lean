import PassDelta.Machine.Regex
import PassDelta.Number.Arithmetic
/-!
# Programs over records

A text is cut into records, and a program is a list of rules: actions, each with a condition on the record. Actions
are made of statements, and statements of expressions over numbers and texts.
-/

namespace PassDelta.Machine.Records

inductive Operator where
  | add
  | sub
  | mul
  | div
  | mod
  | pow
  deriving DecidableEq, Repr

inductive Relation where
  | less
  | atMost
  | equal
  | unequal
  | atLeast
  | greater
  deriving DecidableEq, Repr

mutual

/-- What can be given a value: a variable, an element of a table, or a field of the record. -/
inductive Target where
  | name (x : String)
  | element (table : String) (subscripts : List Expr)
  | field (index : Expr)
  deriving Repr

/-- Where a record is taken from: the input of the program, a file, or what a command prints. -/
inductive Origin where
  | input
  | file (path : Expr)
  | command (text : Expr)
  deriving Repr

/-- An expression. A pattern that stands alone is looked for in the record. -/
inductive Expr where
  | number (x : Binary64)
  | text (cs : Octets)
  | pattern (r : Regex)
  | value (t : Target)
  | assign (t : Target) (first : Option Operator) (e : Expr)
  | step (t : Target) (up after : Bool)
  | negative (e : Expr)
  | positive (e : Expr)
  | inverse (e : Expr)
  | binary (o : Operator) (a b : Expr)
  | concat (a b : Expr)
  | compare (r : Relation) (a b : Expr)
  | both (a b : Expr)
  | either (a b : Expr)
  | choice (c yes no : Expr)
  | found (negated : Bool) (subject pattern : Expr)
  | member (subscripts : List Expr) (table : String)
  | builtin (name : String) (arguments : List Expr)
  | call (name : String) (arguments : List Expr)
  | fetch (origin : Origin) (target : Option Target)
  deriving Repr

end

inductive Arrow where
  | replace
  | append
  | command
  deriving DecidableEq, Repr

inductive Statement where
  | expression (e : Expr)
  | print (arguments : List Expr) (out : Option (Arrow × Expr))
  | printf (arguments : List Expr) (out : Option (Arrow × Expr))
  | delete (table : String) (subscripts : Option (List Expr))
  | block (body : List Statement)
  | choice (c : Expr) (yes no : Statement)
  /-- Repeats the body and then the step while the condition holds, which is asked before the first turn when
  `early`. -/
  | loop (early : Bool) (c : Option Expr) (step body : Statement)
  | each (key table : String) (body : Statement)
  | next
  | nextFile
  | exit (e : Option Expr)
  | back (e : Option Expr)
  | leave
  | again
  deriving Repr

inductive Condition where
  | always
  | holds (e : Expr)
  /-- From a record on which the first holds through one on which the second does. -/
  | range (first last : Expr)
  deriving Repr

structure Rule where
  condition : Condition
  body : Option Statement
  deriving Repr

structure Function where
  name : String
  parameters : List String
  tables : List String
  body : Statement
  deriving Repr

structure Program where
  before : List Statement
  rules : List Rule
  after : List Statement
  functions : List Function
  deriving Repr

end PassDelta.Machine.Records
