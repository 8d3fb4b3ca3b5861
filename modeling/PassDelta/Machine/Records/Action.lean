import PassDelta.Machine.Records.Flow
import PassDelta.Number.Elementary
/-!
# Running actions

Expressions are evaluated and statements run. A loop that turns for too long counts as late, and calls nest only so
deep.
-/

namespace PassDelta.Machine.Records

/-- Whether what follows a statement is run: on, behind or at the start of the loop, or back with a value. -/
inductive Outcome where
  | on
  | leave
  | again
  | back (v : Value)
  deriving DecidableEq, Repr

namespace Run

def patience : Nat := 2000000

def maxStack : Nat := 1005

def maxNesting : Nat := 40000

def waiting {α : Type} (n : Nat) (act : Run α) : Run α := do
  modify fun s => { s with stack := s.stack + n }
  if maxStack < (← get).stack then throw (.failed "program limit exceeded: eval stack size=1024".toList)
  let a ← act
  modify fun s => { s with stack := s.stack - n }
  return a

inductive Slot where
  | name (x : String)
  | field (n : Nat)
  | element (table : Nat) (key : Key)

def slotValue : Slot → Run Value
  | .name x => valueOf x
  | .field n => field n
  | .element t k => withTable t fun table =>
    let table := table.touch k true
    ((table.value? k).getD .unset, table)

def setSlot (v : Value) : Slot → Run Unit
  | .name x => setVariable x v
  | .field n => setField n v
  | .element t k => withTable t fun table => ((), table.set k v)

def fieldNumber (v : Value) : Run Nat := do
  let n := v.toNumber.toInt
  if n < 0 then throw (.fault (("negative field index $" ++ toString n).toList))
  return n.toNat

def combine (o : Operator) (x y : Binary64) : Binary64 :=
  match o with
  | .add => x.add y
  | .sub => x.sub y
  | .mul => x.times y
  | .div => x.quotient y
  | .mod => x.remainder y
  | .pow => x.power y

def holds (r : Relation) (o : Ordering) : Bool :=
  match r with
  | .less => o = .lt
  | .atMost => o ≠ .gt
  | .equal => o = .eq
  | .unequal => o ≠ .eq
  | .atLeast => o ≠ .lt
  | .greater => o = .gt

def patternOf (cs : Octets) : Run Regex := do
  match Pattern.read cs with
  | .ok r => return r
  | .error e => throw (.fault (badPattern e cs))

/-- A sum with a number before it that cannot be told below or above counts as equal. -/
def compareValues (a b : Value) : Run Ordering := do return (a.order? (← convfmt) b).getD .eq

def integerOf (x : Binary64) : Int :=
  if x.isNaN then -(twoTo 63 : Int)
  else if x.isInfinite then if x.isNegative then -(twoTo 63 : Int) + 1 else twoTo 64 - 1
  else
    let n := x.toInt
    if (twoTo 63 : Int) ≤ n then min n (twoTo 64 - 1) else max n (-(twoTo 63 : Int) + 1)

def octetOf (v : Value) : Octets :=
  let ofNumber (x : Binary64) : Octets := [Char.ofNat (x.toInt % 256).toNat]
  match v with
  | .number x => ofNumber x
  | .unset => [Char.ofNat 0]
  | .text cs => [cs.headD (Char.ofNat 0)]
  | .given cs => match wholeFloat? cs with
    | some x => ofNumber x
    | none => [cs.headD (Char.ofNat 0)]

/-- Values by the parts of a format; `done` counts the conversions. What was written so far comes back also with a
fault, which tells of the statement that has the format. -/
def fill (told : String) (format : Octets) : Nat → Nat → List Part → List Value → List Octets → Run (List Octets × Option Octets)
  | 0, _, _, _, out => return (out, none)
  | _ + 1, _, [], _, out => return (out, none)
  | fuel + 1, done, part :: rest, values, out => do
    let fault (text : Octets) : Run (List Octets × Option Octets) :=
      return (out, some (text ++ (" " ++ told ++ "(\"").toList ++ format ++ "\")".toList))
    let missing : Run (List Octets × Option Octets) := fault "not enough arguments passed to".toList
    match part with
    | .plain cs => fill told format fuel done rest values (cs :: out)
    | .time _ _ => fill told format fuel done rest values out
    | .unfinished _ =>
      if values.isEmpty then missing else fault (("improper conversion(number " ++ toString done ++ ") in").toList)
    | .convert v starWidth starPrecision written =>
      if (v.letter = 'l' ∨ v.letter = 'h') ∧ !rest.isEmpty then
        match rest with
        | .plain (c :: cs) :: more =>
          fill told format fuel done (.convert { v with letter := c } starWidth starPrecision written :: .plain cs :: more) values
            out
        | rest => fill told format fuel done rest values out
      else if starWidth then
        match values with
        | [] => missing
        | w :: more =>
          fill told format fuel done (.convert { v with width := some (integerOf w.toNumber) } false starPrecision written :: rest)
            more out
      else if starPrecision then
        match values with
        | [] => missing
        | n :: more =>
          fill told format fuel done
            (.convert { v with precision := some (integerOf n.toNumber).toNat } false false written :: rest) more out
      else match values with
        | [] => missing
        | value :: more =>
          let go (cs : Octets) : Run (List Octets × Option Octets) := fill told format fuel (done + 1) rest more (cs :: out)
          match v.letter with
          | 's' =>
            let cs ← text value
            go (v.pad (match v.precision with
              | some n => cs.take n
              | none => cs))
          | 'c' => go (v.pad (octetOf value))
          | letter =>
            if "diouxX".toList.contains letter then go (v.integer (integerOf value.toNumber))
            else if "eEfFgG".toList.contains letter then go (v.float value.toNumber)
            else fault (("improper conversion(number " ++ toString done ++ ") in").toList)

def formatted (told : String) (values : List Value) (out : Octets → Run Unit) : Run Unit := do
  let format ← text (values.headD .unset)
  let ps := parts (format.length + 1) format
  let (said, fault) ← fill told format (3 * ps.length + 3 * values.length + 3) 1 ps values.tail []
  match fault with
  | none => out said.reverse.flatten
  | some e =>
    if told = "printf" then out said.reverse.flatten
    throw (.fault e)

/-- A number without its fraction in thirty-two bits; one beyond those is the least of them. -/
def narrow (x : Binary64) : Int :=
  let n := x.toInt
  if x.isFinite ∧ -(twoTo 31 : Int) ≤ n ∧ n < (twoTo 31 : Int) then n else -(twoTo 31 : Int)

/-- A part of a text from a place on; the places before the first are counted as text that is left out. -/
def partOf (cs : Octets) (start : Binary64) (length : Option Binary64) : Octets :=
  let i := narrow start
  let at_ := max 1 i
  let rest := cs.drop (at_ - 1).toNat
  match length with
  | none => rest
  | some n =>
    let n := narrow n
    let n := if i < 1 then (n - i).bmod (twoTo 32) else n
    rest.take n.toNat

def placeIn (sought : Octets) : Nat → Octets → Nat
  | n, cs =>
    if sought.isPrefixOf cs then n
    else match cs with
      | [] => 0
      | _ :: rest => placeIn sought (n + 1) rest

/-- The text that comes in the place of a match: an ampersand is the match, one behind a backslash itself. -/
def replacement (matched : Octets) : Nat → Octets → Octets
  | 0, cs => cs
  | _ + 1, [] => []
  | fuel + 1, c :: rest =>
    if c = '&' then matched ++ replacement matched fuel rest
    else if c = '\\' then
      let slashes := (c :: rest).takeWhile (· = '\\')
      let after := (c :: rest).drop slashes.length
      if after.head? = some '&' then
        let kept := List.replicate (slashes.length / 2) '\\'
        if slashes.length % 2 = 1 then kept ++ '&' :: replacement matched fuel after.tail
        else kept ++ matched ++ replacement matched fuel after.tail
      else slashes ++ replacement matched fuel after
    else c :: replacement matched fuel rest

def replaced (r : Regex) (by_ : Octets) (all : Bool) (cs : Octets) : Octets × Nat :=
  let found := if all then r.searchAll false (2 * cs.length + 2) none true cs else (r.search false none cs).toList
  match found.getLast? with
  | none => (cs, 0)
  | some last =>
    (found.flatMap (fun f => f.before ++ replacement f.text (by_.length + 1) by_) ++ last.after, found.length)

def lower (c : Char) : Char := if 'A' ≤ c ∧ c ≤ 'Z' then c.toLower else c

def upper (c : Char) : Char := if 'a' ≤ c ∧ c ≤ 'z' then c.toUpper else c

def draw : Run Value := do
  let n := (← get).drawn
  modify fun s => { s with drawn := (n * 6364136223846793005 + 1442695040888963407) % twoTo 64 }
  return .number (.ofRatio false ((← get).drawn / twoTo 32) (twoTo 32))

def ofValues (spawn : Spawn) (name : String) (values : List Value) : Run Value := do
  let number (i : Nat) : Binary64 := ((values[i]?).getD .unset).toNumber
  let textAt (i : Nat) : Run Octets := text ((values[i]?).getD .unset)
  match name with
  | "length" => return .ofNat (← textAt 0).length
  | "substr" =>
    return .text (partOf (← textAt 0) (number 1) (if values.length = 3 then some (number 2) else none))
  | "index" => return .ofNat (placeIn (← textAt 1) 1 (← textAt 0))
  | "tolower" => return .text ((← textAt 0).map lower)
  | "toupper" => return .text ((← textAt 0).map upper)
  | "int" => return .number (number 0).whole
  | "sqrt" => return .number (number 0).sqrt
  | "exp" => return .number (number 0).exp
  | "log" => return .number (number 0).log
  | "sin" => return .number (number 0).sin
  | "cos" => return .number (number 0).cos
  | "atan2" => return .number (Binary64.angle (number 0) (number 1))
  | "rand" => draw
  | "srand" =>
    let old := (← get).seed
    let seed := (values[0]?).getD (.ofNat 1)
    modify fun s => { s with seed := seed, drawn := seed.toNumber.bits.toNat }
    return old
  | "systime" => return .ofNat ((← get).world.clock / tenTo 9)
  | "mktime" => return .number (.ofInt (-1))
  | "strftime" => return .text []
  | "system" =>
    let command ← textAt 0
    flushAll
    return .ofNat (← runCommand spawn "sh" command (← get).call.streams)
  | "close" => return .number (.ofInt (← close spawn (← textAt 0)))
  | "fflush" =>
    if values.isEmpty then
      flushOutput
      return .ofNat 0
    else
      let file ← textAt 0
      flushAll
      if file = nameOfOutput ∨ file.isEmpty ∨ (← get).sinks.any (·.name = file) then return .ofNat 0
      else return .number (.ofInt (-1))
  | _ => return .unset

/-- Gives what was read to what it is for. A record from the operands is counted. -/
def received (isInput : Bool) (slot : Option Slot) (cs : Octets) : Run Value := do
  if isInput then countRecord
  match slot with
  | none => setRecord cs
  | some t => setSlot (.given cs) t
  return .ofNat 1

/-- Turns while a condition holds, which is asked before the first turn when `asks`. -/
def repeating (condition : Run Bool) (body step : Run Outcome) : Nat → Bool → Run Outcome
  | 0, _ => throw .late
  | n + 1, asks => do
    if asks then
      if !(← condition) then return .on
    match ← body with
    | .leave => return .on
    | .back v => return .back v
    | _ =>
      let _ ← step
      repeating condition body step n true

def visiting (setKey : Octets → Run Unit) (body : Run Outcome) : List Octets → Run Outcome
  | [] => return .on
  | k :: rest => do
    setKey k
    match ← body with
    | .leave => return .on
    | .back v => return .back v
    | _ => visiting setKey body rest

mutual

def eval (spawn : Spawn) (fuel : Nat) (e : Expr) : Run Value :=
  match fuel with
  | 0 => throw (.failed "program limit exceeded: eval stack size=1024".toList)
  | fuel + 1 =>
    match e with
    | .number x => return .number x
    | .text cs => return .text cs
    | .pattern r => do return .ofBool (r.search false none (← text (← field 0))).isSome
    | .value (.name x) => valueOf x
    | .value t => do slotValue (← slotOf spawn fuel t)
    | .assign t first e => do
      let slot ← slotOf spawn fuel t
      let v ← waiting 1 (eval spawn fuel e)
      let v ← match first with
        | none => pure v
        | some o => do pure (.number (combine o (← slotValue slot).toNumber v.toNumber))
      setSlot v slot
      return v
    | .step t up after => do
      let slot ← slotOf spawn fuel t
      let old := (← slotValue slot).toNumber
      let new := if up then old.add (.ofSmallInt 1) else old.sub (.ofSmallInt 1)
      setSlot (.number new) slot
      return .number (if after then old else new)
    | .negative e => do return .number (-(← eval spawn fuel e).toNumber)
    | .positive e => do return .number (← eval spawn fuel e).toNumber
    | .inverse e => do return .ofBool (!(← eval spawn fuel e).isTrue)
    | .binary o a b => do
      let x ← eval spawn fuel a
      let y ← waiting 1 (eval spawn fuel b)
      return .number (combine o x.toNumber y.toNumber)
    | .concat a b => do
      let x ← text (← eval spawn fuel a)
      let y ← waiting 1 (eval spawn fuel b)
      return .text (x ++ (← text y))
    | .compare r a b => do
      let x ← eval spawn fuel a
      let y ← waiting 1 (eval spawn fuel b)
      return .ofBool (holds r (← compareValues x y))
    | .both a b => do
      if !(← eval spawn fuel a).isTrue then return .ofBool false
      return .ofBool (← eval spawn fuel b).isTrue
    | .either a b => do
      if (← eval spawn fuel a).isTrue then return .ofBool true
      return .ofBool (← eval spawn fuel b).isTrue
    | .choice c yes no => do
      if (← eval spawn fuel c).isTrue then eval spawn fuel yes else eval spawn fuel no
    | .found negated subject pattern => do
      let cs ← text (← eval spawn fuel subject)
      let r ← regexOf spawn fuel pattern
      return .ofBool ((r.search false none cs).isSome != negated)
    | .member subscripts x => do
      let key ← keyOfAll (← evalAll spawn fuel subscripts)
      let n ← tableNumber x
      return .ofBool (← withTable n fun t => ((t.value? key).isSome, t.touch key false))
    | .builtin name args => builtin spawn fuel name args
    | .call name args => do
      match (← get).program.functions.find? (·.name = name) with
      | none => return .unset
      | some f =>
        let frame ← bindAll spawn fuel f f.parameters args ⟨[], []⟩
        let outer := (← get).frame
        modify fun s => { s with frame := some frame }
        let outcome ← waiting f.parameters.length (exec spawn fuel f.body)
        modify fun s => { s with frame := outer }
        return match outcome with
          | .back v => v
          | _ => .unset
    | .fetch origin target => fetch spawn fuel origin target

def evalAll (spawn : Spawn) (fuel : Nat) (es : List Expr) : Run (List Value) :=
  match fuel with
  | 0 => throw (.failed "program limit exceeded: eval stack size=1024".toList)
  | fuel + 1 =>
    match es with
    | [] => return []
    | e :: rest => do
      let v ← eval spawn fuel e
      if rest.isEmpty then return [v] else return v :: (← waiting 1 (evalAll spawn fuel rest))

def bindAll (spawn : Spawn) (fuel : Nat) (f : Function) (parameters : List String) (args : List Expr) (frame : Frame) :
    Run Frame :=
  match fuel with
  | 0 => throw (.failed "program limit exceeded: eval stack size=1024".toList)
  | fuel + 1 =>
    match parameters, args with
    | [], _ => return ⟨frame.values.reverse, frame.tables⟩
    | x :: more, [] => bindAll spawn fuel f more [] { frame with values := (x, .unset) :: frame.values }
    | x :: more, e :: rest => do
      let passed ← match e with
        | .value (.name y) => if f.tables.contains x then do pure (some (← tableNumber y)) else knownTable? y
        | _ => pure none
      match passed with
      | some n => bindAll spawn fuel f more rest { frame with tables := (x, n) :: frame.tables }
      | none =>
        let v ← eval spawn fuel e
        waiting 1 (bindAll spawn fuel f more rest { frame with values := (x, v) :: frame.values })

def slotOf (spawn : Spawn) (fuel : Nat) (t : Target) : Run Slot :=
  match fuel with
  | 0 => throw (.failed "program limit exceeded: eval stack size=1024".toList)
  | fuel + 1 =>
    match t with
    | .name x => return .name x
    | .field index => do return .field (← fieldNumber (← eval spawn fuel index))
    | .element x subscripts => do
      let key ← keyOfAll (← evalAll spawn fuel subscripts)
      let n ← tableNumber x
      withTable n fun table => ((), table.touch key true)
      return .element n key

def regexOf (spawn : Spawn) (fuel : Nat) (e : Expr) : Run Regex :=
  match fuel with
  | 0 => throw (.failed "program limit exceeded: eval stack size=1024".toList)
  | fuel + 1 =>
    match e with
    | .pattern r => return r
    | e => do patternOf (← text (← eval spawn fuel e))

def builtin (spawn : Spawn) (fuel : Nat) (name : String) (args : List Expr) : Run Value :=
  match fuel with
  | 0 => throw (.failed "program limit exceeded: eval stack size=1024".toList)
  | fuel + 1 =>
    match name, args with
    | "length", [] => do return .ofNat (← text (← field 0)).length
    | "length", [.value (.name x)] => do
      match ← knownTable? x with
      | some n => return .ofNat (← table n).size
      | none => return .ofNat (← text (← valueOf x)).length
    | "split", e :: t :: more => do
      let cs ← text (← eval spawn fuel e)
      let cutter ← match more with
        | [.pattern r] => pure (Cutter.pattern r)
        | [s] => do
          match cutterOf (← text (← eval spawn fuel s)) with
          | .ok k => pure k
          | .error e => throw (.fault e)
        | _ => do
          match cutterOf (← text (← scalar "FS")) with
          | .ok k => pure k
          | .error e => throw (.fault e)
      let found := cutter.parts cs
      match t with
      | .value (.name x) => setTable (← tableNumber x) (.ofParts (found.map Value.given))
      | _ => pure ()
      return .ofNat found.length
    | "match", e :: p :: _ => do
      let cs ← text (← eval spawn fuel e)
      let r ← regexOf spawn fuel p
      let (start, length) : Int × Int := match r.search false none cs with
        | some f => (f.before.length + 1, f.text.length)
        | none => (0, -1)
      setScalar "RSTART" (.number (.ofInt start))
      setScalar "RLENGTH" (.number (.ofInt length))
      return .number (.ofInt start)
    | "sprintf", args => do
      let values ← evalAll spawn fuel args
      let format ← text (values.headD .unset)
      let ps := parts (format.length + 1) format
      let (said, fault) ← fill "sprintf" format (3 * ps.length + 3 * values.length + 3) 1 ps values.tail []
      match fault with
      | none => return .text said.reverse.flatten
      | some e => throw (.fault e)
    | name, args => do
      if name = "sub" ∨ name = "gsub" then
        let r ← regexOf spawn fuel (args.headD (.text []))
        let by_ ← text (← eval spawn fuel ((args[1]?).getD (.text [])))
        let slot ← match (args[2]? : Option Expr) with
          | some (.value t) => slotOf spawn fuel t
          | _ => pure (Slot.field 0)
        let cs ← text (← slotValue slot)
        let (out, count) := replaced r by_ (name = "gsub") cs
        if 0 < count then setSlot (.text out) slot
        return .ofNat count
      else ofValues spawn name (← evalAll spawn fuel args)

def fetch (spawn : Spawn) (fuel : Nat) (origin : Origin) (target : Option Target) : Run Value :=
  match fuel with
  | 0 => throw (.failed "program limit exceeded: eval stack size=1024".toList)
  | fuel + 1 => do
    let slot : Run (Option Slot) := match target with
      | some t => do return some (← slotOf spawn fuel t)
      | none => return none
    match origin with
    | .input =>
      let slot ← slot
      match ← nextRecord spawn maxFiles with
      | some cs => received true slot cs
      | none => return .ofNat 0
    | .file path =>
      let slot ← slot
      let name ← text (← eval spawn fuel path)
      match ← sourceOf? spawn false (if name = ['-'] then nameOfInput else name) with
      | none => return .number (.ofInt (-1))
      | some k =>
        match ← recordOf k with
        | some cs => received false slot cs
        | none => return .ofNat 0
    | .command e =>
      let command ← text (← eval spawn fuel e)
      let slot ← slot
      match ← sourceOf? spawn true command with
      | none => return .number (.ofInt (-1))
      | some k =>
        match ← recordOf k with
        | some cs => received false slot cs
        | none => return .ofNat 0

def exec (spawn : Spawn) (fuel : Nat) (s : Statement) : Run Outcome :=
  match fuel with
  | 0 => throw (.failed "program limit exceeded: eval stack size=1024".toList)
  | fuel + 1 =>
    match s with
    | .expression e => do
      let _ ← eval spawn fuel e
      return .on
    | .print args out => do
      let values ← if args.isEmpty then do pure [← field 0] else evalAll spawn fuel args
      let format := (← scalar "OFMT").toText []
      let between ← text (← scalar "OFS")
      let line := between.intercalate (values.map (Value.toText format)) ++ (← text (← scalar "ORS"))
      lead spawn fuel out line
      return .on
    | .printf args out => do
      let values ← evalAll spawn fuel args
      formatted "printf" values (lead spawn fuel out)
      return .on
    | .delete x none => do
      setTable (← tableNumber x) .empty
      return .on
    | .delete x (some subscripts) => do
      let key ← keyOfAll (← evalAll spawn fuel subscripts)
      let n ← tableNumber x
      withTable n fun t => ((), t.erase key)
      return .on
    | .block body => execAll spawn fuel body
    | .choice c yes no => do
      if (← eval spawn fuel c).isTrue then exec spawn fuel yes else exec spawn fuel no
    | .loop early c step body =>
      let condition : Run Bool := match c with
        | some e => do return (← eval spawn fuel e).isTrue
        | none => return true
      repeating condition (exec spawn fuel body) (exec spawn fuel step) patience early
    | .each key x body => do
      let n ← tableNumber x
      let keys ← withTable n Table.keys
      visiting (fun k => setVariable key (.text k)) (exec spawn fuel body) keys
    | .next => throw .next
    | .nextFile => throw .nextFile
    | .exit e => do
      match e with
      | some e =>
        let v ← eval spawn fuel e
        modify fun s => { s with status := (narrow v.toNumber % 256).toNat }
      | none => pure ()
      throw .exit
    | .back none => return .back .unset
    | .back (some e) => do return .back (← eval spawn fuel e)
    | .leave => return .leave
    | .again => return .again

def lead (spawn : Spawn) (fuel : Nat) (out : Option (Arrow × Expr)) (line : Octets) : Run Unit :=
  match fuel with
  | 0 => throw (.failed "program limit exceeded: eval stack size=1024".toList)
  | fuel + 1 => do
    match out with
    | none => say line
    | some (arrow, e) => sayTo arrow (← text (← eval spawn fuel e)) line

def execAll (spawn : Spawn) (fuel : Nat) (body : List Statement) : Run Outcome :=
  match fuel with
  | 0 => throw (.failed "program limit exceeded: eval stack size=1024".toList)
  | fuel + 1 =>
    match body with
    | [] => return .on
    | s :: rest => do
      match ← exec spawn fuel s with
      | .on => execAll spawn fuel rest
      | other => return other

end

end Run
end PassDelta.Machine.Records
