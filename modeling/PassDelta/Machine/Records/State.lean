import PassDelta.Machine.Records.Pattern
import PassDelta.Machine.Records.Program
import PassDelta.Machine.Records.Table
import PassDelta.Machine.World
/-!
# The state of a program over records

Variables, tables and the record with its fields. Fields are cut out of the record when the first of them is asked
for, and the record is made anew when it is asked for after a field was changed.
-/

namespace PassDelta.Machine.Records

structure Source where
  name : Octets
  isCommand : Bool
  rest : Octets
  status : Nat

/-- What is written: to a channel, or to a command that is started when it has all its input. The parts that wait to
be written come latest first. -/
structure Sink where
  name : Octets
  channel : Option Nat
  waiting : List Octets

/-- The names of a function that is run: those with values, and those of tables by their numbers. -/
structure Frame where
  values : List (String × Value)
  tables : List (String × Nat)

inductive Stop where
  | next
  | nextFile
  | exit
  | late
  | failed (text : Octets)
  | fault (text : Octets)
  deriving DecidableEq, Repr

structure Running where
  world : World
  call : Call
  program : Program
  scalars : Std.HashMap String Value
  globals : Std.HashMap String Nat
  tables : Std.HashMap Nat Table
  nextTable : Nat
  frame : Option Frame
  stack : Nat
  record : Value
  fields : Array Value
  isSplit : Bool
  isStale : Bool
  said : List Octets
  saidSize : Nat
  sinks : List Sink
  sources : List Source
  operand : Nat
  input : Option Octets
  within : List Nat
  seed : Value
  drawn : Nat
  status : Nat

abbrev Run := ExceptT Stop (StateM Running)

def usualScalars : List (String × Value) := [
  ("FS", .text [' ']), ("OFS", .text [' ']), ("ORS", .text ['\n']), ("RS", .text ['\n']),
  ("SUBSEP", .text [Char.ofNat 28]), ("CONVFMT", .text "%.6g".toList), ("OFMT", .text "%.6g".toList),
  ("NR", .ofNat 0), ("FNR", .ofNat 0), ("FILENAME", .text [])]

namespace Run

def scalar (x : String) : Run Value := do return ((← get).scalars[x]?).getD .unset

def setScalar (x : String) (v : Value) : Run Unit := modify fun s => { s with scalars := s.scalars.insert x v }

def convfmt : Run Octets := do return (← scalar "CONVFMT").toText []

def text (v : Value) : Run Octets := do
  match v with
  | .text cs => return cs
  | .given cs => return cs
  | .unset => return []
  | v => return v.toText (← convfmt)

def firstFull (r : Regex) : Nat → Option Char → Octets → Octets → Option (Octets × Octets × Octets)
  | 0, _, _, _ => none
  | fuel + 1, last, skipped, cs =>
    match r.search false last cs with
    | none => none
    | some f =>
      if !f.text.isEmpty then some (skipped ++ f.before, f.text, f.after)
      else match f.after with
        | [] => none
        | c :: more => firstFull r fuel (some c) (skipped ++ f.before ++ [c]) more

def partsBetween (r : Regex) : Nat → Option Char → Octets → List Octets
  | 0, _, cs => [cs]
  | fuel + 1, last, cs =>
    match firstFull r (cs.length + 1) last [] cs with
    | some (before, matched, after) => before :: partsBetween r fuel matched.getLast? after
    | none => [cs]

def isBlank (c : Char) : Bool := c = ' ' || c = '\t' || c = '\n'

/-- How a text is cut into fields: between blanks, at an octet, into octets, or between matches. -/
inductive Cutter where
  | blanks
  | octet (c : Char)
  | each
  | pattern (r : Regex)

def badPattern (e : Pattern.Fault) (cs : Octets) : Octets :=
  ("regular expression compile failed (" ++ e.message ++ ")\n").toList ++ cs

def cutterOf (separator : Octets) : Except Octets Cutter :=
  match separator with
  | [' '] => .ok .blanks
  | [c] => .ok (.octet c)
  | [] => .ok .each
  | cs => match Pattern.read cs with
    | .ok r => .ok (.pattern r)
    | .error e => .error (badPattern e cs)

def Cutter.parts (k : Cutter) (cs : Octets) : List Octets :=
  match k with
  | .blanks => (cs.splitOnP isBlank).filter (· ≠ [])
  | .each => cs.map fun c => [c]
  | .octet c => if cs.isEmpty then [] else cs.splitOn c
  | .pattern r => if cs.isEmpty then [] else partsBetween r (cs.length + 1) none cs

def recordCutter : Run Cutter := do
  match cutterOf (← text (← scalar "FS")) with
  | .ok k => return k
  | .error e => throw (.fault e)

def split : Run Unit := do
  if !(← get).isSplit then
    let k ← recordCutter
    let parts := k.parts (← text (← get).record)
    modify fun s => { s with fields := (parts.map Value.given).toArray, isSplit := true }

def fieldCount : Run Nat := do
  split
  return (← get).fields.size

def refresh : Run Unit := do
  if (← get).isStale then
    let between ← text (← scalar "OFS")
    let format := (← scalar "OFMT").toText []
    let parts := (← get).fields.toList.map fun v => v.toText format
    modify fun s => { s with record := .given (between.intercalate parts), isStale := false }

def setRecord (cs : Octets) : Run Unit :=
  modify fun s => { s with record := .given cs, fields := #[], isSplit := false, isStale := false }

def setFieldCount (n : Nat) : Run Unit := do
  split
  modify fun s =>
    let fields := if n ≤ s.fields.size then s.fields.extract 0 n
      else s.fields ++ Array.replicate (n - s.fields.size) (.given [])
    { s with fields := fields, isStale := true }

def field (n : Nat) : Run Value := do
  if n = 0 then
    refresh
    return (← get).record
  else
    split
    return ((← get).fields[n - 1]?).getD (.given [])

def setField (n : Nat) (v : Value) : Run Unit := do
  if n = 0 then setRecord (← text v)
  else
    split
    if (← get).fields.size < n then setFieldCount n
    modify fun s => { s with fields := s.fields.setIfInBounds (n - 1) v, isStale := true }

def valueOf (x : String) : Run Value := do
  match (← get).frame with
  | some f =>
    match f.values.lookup x with
    | some v => return v
    | none => if f.tables.any (·.1 = x) then return .unset else global x
  | none => global x
where
  global (x : String) : Run Value := do if x = "NF" then return .ofNat (← fieldCount) else scalar x

def countOf (v : Value) : Run Nat := do
  let n := v.toNumber.toInt
  if n < 0 then throw (.fault "negative value assigned to NF".toList)
  return n.toNat

def setGlobal (x : String) (v : Value) : Run Unit := do
  if x = "NF" then setFieldCount (← countOf v)
  else
    if x = "FS" then split
    setScalar x v

def setVariable (x : String) (v : Value) : Run Unit := do
  let s ← get
  match s.frame with
  | some f =>
    if f.values.any (·.1 = x) then
      set { s with frame := some { f with values := f.values.map fun (y : String × Value) => if y.1 = x then (x, v) else y } }
    else setGlobal x v
  | none => setGlobal x v

def newTable (t : Table) : Run Nat := do
  let n := (← get).nextTable
  modify fun s => { s with nextTable := n + 1, tables := s.tables.insert n t }
  return n

def tableNumber (x : String) : Run Nat := do
  let s ← get
  let isLocal := s.frame.any fun f => f.values.any (·.1 = x) || f.tables.any (·.1 = x)
  match s.frame.bind fun f => f.tables.lookup x with
  | some n => return n
  | none =>
    if isLocal then
      let n ← newTable .empty
      modify fun s => { s with frame := s.frame.map fun f =>
        { values := f.values.filter (·.1 ≠ x), tables := (x, n) :: f.tables } }
      return n
    else match s.globals[x]? with
      | some n => return n
      | none =>
        let n ← newTable .empty
        modify fun s => { s with globals := s.globals.insert x n }
        return n

def knownTable? (x : String) : Run (Option Nat) := do
  let s ← get
  match s.frame with
  | some f =>
    if f.values.any (·.1 = x) then return none
    else return (f.tables.lookup x).or s.globals[x]?
  | none => return s.globals[x]?

def table (n : Nat) : Run Table := do return ((← get).tables[n]?).getD .empty

def setTable (n : Nat) (t : Table) : Run Unit := modify fun s => { s with tables := s.tables.insert n t }

@[noinline] def takeTable (n : Nat) (tables : Std.HashMap Nat Table) : Table × Std.HashMap Nat Table :=
  (tables.getD n .empty, tables.erase n)

def withTable {α : Type} (n : Nat) (act : Table → α × Table) : Run α :=
  modifyGet fun s =>
    let (t, others) := takeTable n s.tables
    let (a, t) := act t
    (a, { s with tables := others.insert n t })

def keyOf (v : Value) : Run Key := do
  match v with
  | .number x =>
    match x.smallInt? with
    | some n => return .number n
    | none =>
      if x.isWhole ∧ (x.toInt).natAbs < twoTo 63 then return .number x.toInt else return .text (← text v)
  | v => return .text (← text v)

def keyOfAll : List Value → Run Key
  | [v] => keyOf v
  | vs => do
    let between ← text (← scalar "SUBSEP")
    return .text (between.intercalate (← vs.mapM text))

end Run
end PassDelta.Machine.Records
