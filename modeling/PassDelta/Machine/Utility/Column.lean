import PassDelta.Machine.Utility.Line
/-!
# Columns

Programs that take parts of lines, put lines side by side, or care for the column that a character stands in.
-/

namespace PassDelta.Machine.Utility

open Act

structure Span where
  first : Nat
  last : Nat
  deriving DecidableEq, Repr

def Span.holds (s : Span) (n : Nat) : Bool := s.first ≤ n && n ≤ s.last

inductive SpanFault where
  | zero
  | decreasing
  | unended
  | dashes
  | stray (rest : Octets)
  | large (number : Octets)
  deriving DecidableEq, Repr

def SpanFault.message (fields : Bool) : SpanFault → Octets × Option Octets
  | zero => ((if fields then "fields are numbered from 1" else "byte/character positions are numbered from 1").toList, none)
  | decreasing => ("invalid decreasing range".toList, none)
  | unended => ("invalid range with no endpoint: -".toList, none)
  | dashes => ((if fields then "invalid field range" else "invalid byte or character range").toList, none)
  | stray rest => ((if fields then "invalid field value " else "invalid byte/character position ").toList, some rest)
  | large n => ((if fields then "field number " else "byte/character offset ").toList, some n)

def span? (first last : Option Nat) (isRange : Bool) : Except SpanFault Span :=
  match isRange, first, last with
  | false, some n, _ => if n = 0 then .error .zero else .ok ⟨n, n⟩
  | false, none, _ => .error .zero
  | true, none, none => .error .unended
  | true, first, none => .ok ⟨first.getD 1, wordLimit⟩
  | true, first, some n => if n < first.getD 1 then .error .decreasing else .ok ⟨first.getD 1, n⟩

def readSpans : Nat → Octets → Option Nat → Option Nat → Bool → Except SpanFault (List Span)
  | 0, _, _, _, _ => .ok []
  | _ + 1, [], first, last, isRange => (span? first last isRange).map fun s => [s]
  | fuel + 1, c :: rest, first, last, isRange =>
    if c = '-' then
      if isRange then .error .dashes
      else if first = some 0 then .error .zero
      else readSpans fuel rest first none true
    else if c = ',' ∨ isGap c then do
      let s ← span? first last isRange
      return s :: (← readSpans fuel rest none none false)
    else if c.isDigit then
      let ds := (c :: rest).takeWhile Char.isDigit
      let n := valueIn 10 ds
      let behind := (c :: rest).drop ds.length
      if wordLimit ≤ n then .error (.large ds)
      else if isRange then readSpans fuel behind first (some n) true
      else readSpans fuel behind (some n) none false
    else .error (.stray (c :: rest))

def mergeSpans (spans : List Span) : List Span :=
  (spans.mergeSort fun a b => a.first ≤ b.first).foldr (fun s rest => match rest with
    | t :: more => if t.first ≤ s.last then ⟨s.first, max s.last t.last⟩ :: more else s :: rest
    | [] => [s]) []

def gapsOf : Nat → List Span → List Span
  | from_, [] => if from_ ≤ wordLimit then [⟨from_, wordLimit⟩] else []
  | from_, s :: rest =>
    (if from_ < s.first then [⟨from_, s.first - 1⟩] else []) ++ gapsOf (s.last + 1) rest

def pick {α : Type} (spans : List Span) (items : List α) : List α :=
  (items.zipIdx 1).filterMap fun (x, i) => if spans.any (·.holds i) then some x else none

def pickOctets (spans : List Span) (mark : Octets) (line : Octets) : Octets :=
  let found := spans.map fun s => (line.take s.last).drop (s.first - 1)
  mark.intercalate (found.filter (· ≠ []))

def settleSpans : Nat → List Span → List Span
  | 0, spans => spans
  | fuel + 1, spans =>
    let merged := mergeSpans spans
    if merged.length = spans.length then merged else settleSpans fuel merged

def cutLong : List (String × Char) := [("bytes", 'b'), ("characters", 'c'), ("delimiter", 'd'), ("fields", 'f'),
  ("only-delimited", 's'), ("output-delimiter", 'δ'), ("complement", 'κ'), ("zero-terminated", 'z')]

def cut : Act Unit := withOptions 1 "nszκ" "bcdfδ" cutLong fun c => do
  let lists := c.options.filter fun o => ['b', 'c', 'f'].contains o.1
  let fields := c.has 'f'
  if (c.value? 'd').any fun d => 1 < d.length then
    return ← misuse 1 "the delimiter must be a single character".toList
  match lists with
  | [] => misuse 1 "you must specify a list of bytes, characters, or fields".toList
  | _ :: _ :: _ => misuse 1 "only one list may be specified".toList
  | [(_, list)] =>
    if !fields ∧ c.has 'd' then
      return ← misuse 1 "an input delimiter may be specified only when operating on fields".toList
    if !fields ∧ c.has 's' then
      return ← misuse 1
        "suppressing non-delimited lines makes sense\n\tonly when operating on fields".toList
    match readSpans (list.length + 1) list none none false with
    | .error f =>
      let (text, word) := f.message fields
      let word ← match word with
        | some w => cited w
        | none => pure []
      let behind := match f with
        | .large _ => " is too large".toList
        | _ => []
      misuse 1 (text ++ word ++ behind)
    | .ok spans =>
      let spans := settleSpans (spans.length + 1) spans
      let spans := if c.has 'κ' then gapsOf 1 spans else spans
      let zero := [Char.ofNat 0]
      let mark := match c.value? 'd' with
        | some d => d.headD (Char.ofNat 0)
        | none => '\t'
      let between := (c.value? 'δ').map fun o => if o.isEmpty then zero else o
      let ending := endMark c
      for file in filesOf c do
        if let some text ← fetchOr 1 shown file then
          if fields ∧ mark = ending then
            let parts := plainLinesBy mark text
            let chosen := if parts.length ≤ 1 then (if c.has 's' ∧ !text.contains mark then [] else
                if text.contains mark then pick spans parts else parts)
              else pick spans parts
            if !text.isEmpty ∧ !(parts.length ≤ 1 ∧ c.has 's' ∧ !text.contains mark) then
              print ((between.getD [mark]).intercalate chosen ++ [ending])
          else
            for line in plainLinesBy ending text do
              if !fields then print (pickOctets spans (between.getD []) line ++ [ending])
              else if line.contains mark then
                print ((between.getD [mark]).intercalate (pick spans (line.splitOn mark)) ++ [ending])
              else if !c.has 's' then print (line ++ [ending])

/-- The marks between columns, one for each; none if a backslash ends the list. -/
def columnMarks : Octets → Option (List Octets)
  | [] => some []
  | ['\\'] => none
  | '\\' :: c :: rest =>
    let mark : Octets := if c = '0' then [] else
      match "bfnrtv".toList.idxOf? c with
      | some i => [Char.ofNat (([8, 12, 10, 13, 9, 11][i]?).getD 0)]
      | none => [c]
    (columnMarks rest).map (mark :: ·)
  | c :: rest => (columnMarks rest).map ([c] :: ·)

def joinedBy (marks : List Octets) (items : List Octets) : Octets :=
  (items.zipIdx).flatMap fun (item, i) =>
    (if i = 0 then [] else (marks[(i - 1) % max 1 marks.length]?).getD []) ++ item

def paste : Act Unit :=
    withOptions 1 "sz" "d" [("serial", 's'), ("delimiters", 'd'), ("zero-terminated", 'z')] fun c => do
  let ending := endMark c
  match columnMarks ((c.value? 'd').getD ['\t']) with
  | none =>
    reject 1 ("delimiter list ends with an unescaped backslash: ".toList ++ (c.value? 'd').getD [])
  | some marks =>
    let marks := if marks.isEmpty then [[]] else marks
    let files := filesOf c
    if c.has 's' then
      for file in files do
        match ← fetch file with
        | .ok text => print (joinedBy marks (plainLinesBy ending text) ++ [ending])
        | .error e =>
          if e = .eisdir then print [ending]
          reject 1 (fileFault file e)
    else
      let isMissing (file : Octets) : Act (Option IoError) := do
        if file = ['-'] then return none
        match ← entry file with
        | .ok _ => return none
        | .error e => return some e
      for file in files do
        if let some e ← isMissing file then return ← reject 1 (fileFault file e)
      let dashes := files.count ['-']
      let shared ← if dashes = 0 then pure [] else do pure (plainLinesBy ending (← input))
      let mut columns : List (List Octets) := []
      let mut seen := 0
      for file in files do
        if file = ['-'] then
          let here := seen
          columns := columns ++ [(shared.zipIdx.filter fun x => x.2 % dashes = here).map Prod.fst]
          seen := seen + 1
        else match ← fetch file with
          | .ok text => columns := columns ++ [plainLinesBy ending text]
          | .error e =>
            reject 1 (fileFault file e)
            columns := columns ++ [[]]
      let height := columns.foldl (fun n lines => max n lines.length) 0
      let rec rows : Nat → List (List Octets) → Octets
        | 0, _ => []
        | n + 1, columns =>
          joinedBy marks (columns.map fun lines => lines.headD []) ++ [ending] ++ rows n (columns.map List.tail)
      print (rows height columns)

def columnAfter (bytes : Bool) (column : Nat) (c : Char) : Nat :=
  if bytes then column + 1
  else if c = Char.ofNat 8 then column - 1
  else if c = '\r' then 0
  else if c = '\t' then column + 8 - column % 8
  else column + 1

/-- Breaks a line where it gets too wide; `held`, latest first, is what has been read of the piece so far. -/
def foldLine (bytes spaces : Bool) (width : Nat) : Nat → Octets → Nat → Octets → Octets
  | 0, held, _, rest => held.reverse ++ rest
  | _ + 1, held, _, [] => held.reverse
  | fuel + 1, held, column, c :: rest =>
    let next := columnAfter bytes column c
    if next ≤ width ∨ held.isEmpty then foldLine bytes spaces width fuel (c :: held) next rest
    else
      let (behind, before) := if spaces then held.span (fun x => !isGap x) else ([], held)
      if before.isEmpty then
        held.reverse ++ ['\n'] ++ foldLine bytes spaces width fuel [] 0 (c :: rest)
      else
        let column := behind.reverse.foldl (columnAfter bytes) 0
        before.reverse ++ ['\n'] ++ foldLine bytes spaces width fuel behind column (c :: rest)

def withNumberFor (letter : Char) (args : List Octets) : List Octets :=
  args.map fun w => match w with
    | '-' :: c :: cs => if (c :: cs).all Char.isDigit then '-' :: letter :: c :: cs else w
    | _ => w

def fold : Act Unit := do
  let args := withNumberFor 'w' (← read).args
  withReader (fun call => { call with args := args }) <|
    withOptions 1 "bs" "w" [("width", 'w'), ("bytes", 'b'), ("spaces", 's')] fun c => do
      let word := (c.value? 'w').getD "80".toList
      match (readInteger? word).map Int.toNat with
      | none => reject 1 ("invalid number of columns: ".toList ++ (← cited word))
      | some 0 =>
        reject 1 ("invalid number of columns: ".toList ++ (← cited word) ++ ": Numerical result out of range".toList)
      | some width =>
        for file in filesOf c do
          if let some text ← fetchOr 1 shown file then
            for line in fullLines text do
              let body := chomp line
              print (foldLine (c.has 'b') (c.has 's') width (3 * body.length + 3) [] 0 body ++ line.drop body.length)

/-- Where tabs lead: columns, and the distance between further ones, counted from the last or from the first. -/
structure TabStops where
  places : List Nat
  every : Nat
  fromLast : Bool
  deriving DecidableEq, Repr

def TabStops.next? (t : TabStops) (column : Nat) : Option Nat :=
  match t.places.find? (column < ·) with
  | some n => some n
  | none =>
    if t.every = 0 then none
    else
      let base := if t.fromLast then t.places.getLastD 0 else 0
      some (base + ((column - base) / t.every + 1) * t.every)

/-- Reads a list of tab stops, or tells what is wrong with it; a word to be cited stands behind. -/
def readStops (word : Octets) : Except (String × Option Octets) TabStops := do
  let items := (word.splitOnP fun c => c = ',' || isGap c).filter (· ≠ [])
  let step (t : TabStops) (item : Octets) : Except (String × Option Octets) TabStops := do
    let (kind, ds) := match item with
      | '/' :: ds => (some false, ds)
      | '+' :: ds => (some true, ds)
      | ds => (none, ds)
    match ds.find? fun c => !c.isDigit with
    | some _ => throw ("tab size contains invalid character(s): ", some (ds.dropWhile Char.isDigit))
    | none =>
      let n := valueIn 10 ds
      match kind with
      | some fromLast => return { t with every := n, fromLast := fromLast }
      | none =>
        if n = 0 then throw ("tab size cannot be 0", none)
        else if (t.places.getLast?).any (n ≤ ·) then throw ("tab sizes must be ascending", none)
        else return { t with places := t.places ++ [n] }
  let t ← items.foldlM step ⟨[], 0, false⟩
  match t.places, t.every with
  | [], 0 => return ⟨[], 8, false⟩
  | [n], 0 => return ⟨[], n, false⟩
  | _, _ => return t

def expandLine (stops : TabStops) (initialOnly : Bool) : Nat → Bool → Octets → Octets
  | _, _, [] => []
  | column, converts, c :: rest =>
    if converts ∧ c = '\t' then
      let next := (stops.next? column).getD (column + 1)
      List.replicate (next - column) ' ' ++ expandLine stops initialOnly next converts rest
    else
      let column := if c = Char.ofNat 8 then column - 1 else column + 1
      c :: expandLine stops initialOnly column (converts && (!initialOnly || isGap c)) rest

/-- Blanks that did not become a tab, latest first; a lone one before a tab stop does if others follow it. -/
def heldBlanks (lone : Bool) (held : Octets) : Octets :=
  match held.reverse with
  | _ :: x :: more => if lone then '\t' :: x :: more else held.reverse
  | cs => cs

/-- Blanks of a line as tabs where they reach a tab stop. `held` are blanks that may still become one, and `lone` tells
that the first of them is a single one before a tab stop. -/
def unexpandLine (stops : TabStops) (whole : Bool) : Nat → Bool → Bool → Bool → Octets → Octets → Octets
  | _, _, _, lone, held, [] => heldBlanks lone held
  | column, converts, lastBlank, lone, held, c :: rest =>
    if !converts then c :: unexpandLine stops whole column false lastBlank false [] rest
    else if isGap c then
      match stops.next? column with
      | none => heldBlanks lone held ++ c :: unexpandLine stops whole column false true false [] rest
      | some next =>
        if c = '\t' then
          let kept := if lone && !held.isEmpty then ['\t'] else []
          heldBlanks lone kept ++ '\t' :: unexpandLine stops whole next converts true false [] rest
        else
          let column := column + 1
          if !(lastBlank ∧ column = next) then
            unexpandLine stops whole column converts true (lone || column = next) (c :: held) rest
          else
            let kept := if lone then ['\t'] else []
            heldBlanks lone kept ++ '\t' :: unexpandLine stops whole column converts true false [] rest
    else
      let column := if c = Char.ofNat 8 then column - 1 else column + 1
      heldBlanks lone held ++ c :: unexpandLine stops whole column (converts && whole) false false [] rest

def onStops (c : Chosen) (change : TabStops → Octets → Octets) : Act Unit := do
  match readStops ([','].intercalate (c.values 't')) with
  | .error (text, word) =>
    match word with
    | some w => reject 1 (text.toList ++ (← cited w))
    | none => reject 1 text.toList
  | .ok stops =>
    for file in filesOf c do
      if let some text ← fetchOr 1 shown file then
        print ((fullLines text).flatMap fun line => change stops (chomp line) ++ line.drop (chomp line).length)

def expand : Act Unit := do
  let args := withNumberFor 't' (← read).args
  withReader (fun call => { call with args := args }) <|
    withOptions 1 "i" "t" [("initial", 'i'), ("tabs", 't')] fun c =>
      onStops c fun stops => expandLine stops (c.has 'i') 0 true

def unexpand : Act Unit := do
  let args := withNumberFor 't' (← read).args
  withReader (fun call => { call with args := args }) <|
    withOptions 1 "af" "t" [("all", 'a'), ("first-only", 'f'), ("tabs", 't')] fun c =>
      onStops c fun stops => unexpandLine stops ((c.has 'a' || c.has 't') && !c.has 'f') 0 true true false []

end PassDelta.Machine.Utility
