import PassDelta.Machine.Utility.Format
import PassDelta.Machine.Utility.Line
/-!
# Order

The orders that lines can be put in, by their texts or by keys in them, and the programs that sort lines and take equal
ones together.
-/

namespace PassDelta.Machine.Utility

open Act

/-- The front of a name before its suffixes, which begin with a point and a letter; it is not empty if the name is
not. -/
def versionFront (cs : Octets) : Octets :=
  let isInner (c : Char) : Bool := c.isAlphanum || c = '~'
  let rec isSuffix : Nat → Octets → Bool
    | 0, _ => false
    | _ + 1, [] => true
    | fuel + 1, '.' :: c :: rest => (c.isAlpha || c = '~') && isSuffix fuel (rest.dropWhile isInner)
    | _ + 1, _ => false
  ((List.range cs.length).map (· + 1)).find? (fun n => isSuffix (cs.length + 1) (cs.drop n)) |>.elim cs cs.take

/-- How characters between numbers are ordered: tildes, the end, letters, all others. -/
def versionRank : Octets → Int
  | [] => -1
  | c :: _ => if c.isDigit then 0 else if c.isAlpha then c.toNat else if c = '~' then -2 else c.toNat + 256

def compareRuns : Nat → Octets → Octets → Ordering
  | 0, _, _ => .eq
  | fuel + 1, a, b =>
    if a.isEmpty ∧ b.isEmpty then .eq
    else
      let stops (cs : Octets) : Bool := (cs.head?).all Char.isDigit
      if !(stops a && stops b) then
        match compare (versionRank a) (versionRank b) with
        | .eq => compareRuns fuel (a.drop 1) (b.drop 1)
        | o => o
      else
        let (x, y) := (a.takeWhile Char.isDigit, b.takeWhile Char.isDigit)
        match compare (valueIn 10 x) (valueIn 10 y) with
        | .eq => compareRuns fuel (a.drop x.length) (b.drop y.length)
        | o => o

/-- The order of two names as versions; those that begin with a point come first. -/
def compareVersions (a b : Octets) : Ordering :=
  let rank (cs : Octets) : Nat :=
    if cs.isEmpty then 0 else if cs = ['.'] then 1 else if cs = ['.', '.'] then 2 else if cs.head? = some '.' then 3 else 4
  let fuel := a.length + b.length + 2
  ((compare (rank a) (rank b)).then (compareRuns fuel (versionFront a) (versionFront b))).then (compareRuns fuel a b)

inductive KeyValue where
  | text (cs : Octets)
  | amount (order : Int) (units : Int) (places : Nat)
  | month (n : Nat)
  | general (rank : Nat) (negative : Bool) (num den : Nat)
  | version (cs : Octets)
  deriving DecidableEq, Repr

def compareUnits (a : Int) (m : Nat) (b : Int) (n : Nat) : Ordering :=
  let places := max m n
  compare (a * tenTo (places - m)) (b * tenTo (places - n))

def compareOctets (a b : Octets) : Ordering := if a = b then .eq else if a < b then .lt else .gt

def KeyValue.compare : KeyValue → KeyValue → Ordering
  | text a, text b => compareOctets a b
  | amount o a m, amount p b n => (Ord.compare o p).then (compareUnits a m b n)
  | month a, month b => Ord.compare a b
  | version a, version b => compareVersions a b
  | general r s a b, general q t c d =>
    let signed (negative : Bool) (n : Nat) : Int := if negative then -(n : Int) else n
    (Ord.compare r q).then (Ord.compare (signed s (a * d)) (signed t (c * b)))
  | _, _ => .eq

/-- A decimal number at the front of a text: its digits as a whole number, its places, and what follows. -/
def frontDecimal (cs : Octets) : Int × Nat × Octets :=
  let body := cs.dropWhile isBlankOctet
  let (negative, body) := match body with
    | '-' :: rest => (true, rest)
    | rest => (false, rest)
  let whole := body.takeWhile Char.isDigit
  let behind := body.drop whole.length
  let fraction := match behind with
    | '.' :: more => more.takeWhile Char.isDigit
    | _ => []
  let rest := if behind.head? = some '.' then behind.drop (fraction.length + 1) else behind
  let n : Int := valueIn 10 (whole ++ fraction)
  (if negative then -n else n, fraction.length, rest)

def KeyValue.ofText (letters : List Char) (cs : Octets) : KeyValue :=
  if letters.contains 'n' then
    let (n, places, _) := frontDecimal cs
    .amount 0 n places
  else if letters.contains 'h' then
    let (n, places, rest) := frontDecimal cs
    let power : Int := match rest with
      | 'k' :: _ => 1
      | c :: _ => (("KMGTPEZYRQ".toList.idxOf? c).map fun i => ((i + 1 : Nat) : Int)).getD 0
      | [] => 0
    .amount (if n = 0 then 0 else if n < 0 then -power else power) n places
  else if letters.contains 'g' then
    match readDecimal (cs.dropWhile isSpaceOctet) with
    | some (negative, num, den, _) => .general 3 negative num (max 1 den)
    | none =>
      let (negative, body) := splitSign (cs.dropWhile isSpaceOctet)
      let word := (body.take 3).map Char.toLower
      if word = "nan".toList then .general 1 false 0 1
      else if word = "inf".toList then if negative then .general 2 false 0 1 else .general 4 false 0 1
      else .general 0 false 0 1
  else if letters.contains 'M' then
    let names := ["jan", "feb", "mar", "apr", "may", "jun", "jul", "aug", "sep", "oct", "nov", "dec"]
    let word := String.ofList (((cs.dropWhile isBlankOctet).take 3).map Char.toLower)
    .month ((names.idxOf? word).elim 0 (· + 1))
  else
    let kept := if letters.contains 'd' then cs.filter fun c => isBlankOctet c || c.isAlphanum
      else if letters.contains 'i' then cs.filter fun c => 32 ≤ c.toNat && c.toNat < 127
      else cs
    let kept := if letters.contains 'f' then kept.map Char.toUpper else kept
    if letters.contains 'V' then .version kept else .text kept

/-- A key of a sort: the places where it begins and ends, whether blanks there are passed over, and the letters of its
ordering. Fields that are passed over are counted, and so are characters; the last field is whole if none are. -/
structure SortKey where
  first : Nat
  start : Nat
  skipsFirst : Bool
  last : Option Nat
  stop : Nat
  skipsLast : Bool
  letters : List Char
  deriving DecidableEq, Repr

namespace SortKey

/-- What is left of a line behind some fields; with a mark between fields the last one keeps it if it `stays`. -/
def behindFields (mark : Option Char) (stays : Bool) : Nat → Octets → Octets
  | 0, cs => cs
  | n + 1, cs =>
    let rest := match mark with
      | some m =>
        let at_ := cs.dropWhile (· ≠ m)
        if n = 0 ∧ stays then at_ else at_.drop 1
      | none => (cs.dropWhile isBlankOctet).dropWhile fun c => !isBlankOctet c
    behindFields mark stays n rest

def text (k : SortKey) (mark : Option Char) (line : Octets) : Octets :=
  let from_ := behindFields mark false (min k.first (line.length + 1)) line
  let from_ := (if k.skipsFirst then from_.dropWhile isBlankOctet else from_).drop k.start
  match k.last with
  | none => from_
  | some n =>
    let behind := if k.stop = 0 then behindFields mark true (min n (line.length + 1) + 1) line
      else
        let at_ := behindFields mark false (min n (line.length + 1)) line
        (if k.skipsLast then at_.dropWhile isBlankOctet else at_).drop k.stop
    from_.take (from_.length - behind.length)

def isPlain (k : SortKey) : Bool := k.letters.isEmpty && !k.skipsFirst && !k.skipsLast

def whole (letters : List Char) : SortKey :=
  let skips := letters.contains 'b'
  ⟨0, 0, skips, none, 0, skips, letters.filter (· ≠ 'b')⟩

/-- The letters of an ordering that exclude one another; all of them if there are too many. -/
def clash (k : SortKey) : Option (List Char) :=
  let has (c : Char) : Bool := k.letters.contains c
  let one (b : Bool) : Nat := if b then 1 else 0
  let kinds := one (has 'n') + one (has 'g') + one (has 'h') + one (has 'M') +
    one (has 'V' || has 'R' || has 'd' || has 'i')
  if 1 < kinds then some ("dfghiMnRV".toList.filter has) else none

end SortKey

inductive KeyFault where
  | count (what : String) (rest : Octets)
  | field (what : String)
  deriving DecidableEq, Repr

def keyNumber (what : String) (cs : Octets) : Except KeyFault (Nat × Octets) :=
  let body := match cs.dropWhile isSpaceOctet with
    | '+' :: rest => rest
    | rest => rest
  let ds := body.takeWhile Char.isDigit
  if ds.isEmpty then .error (.count what cs) else .ok (min wordLimit (valueIn 10 ds), body.drop ds.length)

def orderLetters : List Char := "bdfghiMnRrV".toList

def readKey (word : Octets) : Except KeyFault SortKey := do
  let (first, rest) ← keyNumber "invalid number at field start" word
  if first = 0 then throw (.field "field number is zero")
  let (start, rest) ← match rest with
    | '.' :: more => do
      let (n, rest) ← keyNumber "invalid number after '.'" more
      if n = 0 then throw (.field "character offset is zero")
      pure (n - 1, rest)
    | rest => pure (0, rest)
  let letters := rest.takeWhile orderLetters.contains
  let rest := rest.drop letters.length
  let key : SortKey := ⟨first - 1, start, letters.contains 'b', none, 0, false, letters.filter (· ≠ 'b')⟩
  match rest with
  | ',' :: more => do
    let (last, rest) ← keyNumber "invalid number after ','" more
    if last = 0 then throw (.field "field number is zero")
    let (stop, rest) ← match rest with
      | '.' :: more => keyNumber "invalid number after '.'" more
      | rest => pure (0, rest)
    let more := rest.takeWhile orderLetters.contains
    if !(rest.drop more.length).isEmpty then throw (.field "stray character in field spec")
    return { key with last := some (last - 1), stop := stop, skipsLast := more.contains 'b'
                      letters := key.letters ++ more.filter (· ≠ 'b') }
  | [] => return key
  | _ => throw (.field "stray character in field spec")

structure Keyed where
  line : Octets
  values : List KeyValue

/-- How lines are ordered: by keys between marks, backwards or not, and by their whole texts where the keys are
equal. -/
structure Sorting where
  keys : List SortKey
  mark : Option Char
  backwards : Bool
  unique : Bool
  stable : Bool

namespace Sorting

def keyed (s : Sorting) (line : Octets) : Keyed :=
  ⟨line, s.keys.map fun k => .ofText k.letters (k.text s.mark line)⟩

def compare (s : Sorting) (a b : Keyed) : Ordering :=
  let byKeys := (s.keys.zip (a.values.zip b.values)).foldl (fun o (k, x, y) =>
    o.then (if k.letters.contains 'r' then (x.compare y).swap else x.compare y)) .eq
  if !s.keys.isEmpty ∧ (s.unique ∨ s.stable) then byKeys
  else byKeys.then (if s.backwards then (compareOctets a.line b.line).swap else compareOctets a.line b.line)

def firsts (s : Sorting) (lines : List Keyed) : List Keyed :=
  lines.foldr (fun x rest => x :: (rest.dropWhile fun y => s.compare x y = .eq)) []

def merge (s : Sorting) : Nat → List (List Keyed) → List Keyed
  | 0, _ => []
  | fuel + 1, lists =>
    let heads := lists.zipIdx.filterMap fun (l, i) => l.head?.map fun x => (x, i)
    match heads with
    | [] => []
    | first :: others =>
      let (least, i) := others.foldl (fun m x => if s.compare x.1 m.1 = .lt then x else m) first
      least :: merge s fuel (lists.zipIdx.map fun (l, j) => if j = i then l.tail else l)

def disorder (s : Sorting) : Nat → List Keyed → Option (Nat × Octets)
  | n, a :: b :: rest =>
    let o := s.compare a b
    if o = .gt ∨ (s.unique ∧ o = .eq) then some (n + 1, b.line) else disorder s (n + 1) (b :: rest)
  | _, _ => none

end Sorting

def sortLong : List (String × Char) := [("ignore-leading-blanks", 'b'), ("check", 'χ'), ("dictionary-order", 'd'),
  ("ignore-case", 'f'), ("general-numeric-sort", 'g'), ("human-numeric-sort", 'h'), ("ignore-nonprinting", 'i'), ("key", 'k'),
  ("merge", 'm'), ("month-sort", 'M'), ("numeric-sort", 'n'), ("output", 'o'), ("random-sort", 'R'), ("reverse", 'r'),
  ("sort", 'ς'), ("stable", 's'), ("buffer-size", 'S'), ("field-separator", 't'), ("temporary-directory", 'T'),
  ("unique", 'u'), ("version-sort", 'V'), ("zero-terminated", 'z'), ("parallel", 'π'), ("batch-size", 'β')]

def sortMark (c : Chosen) : Act (Except Octets (Option Char)) := do
  let mut mark : Option Char := none
  for word in c.values 't' do
    let found ← match word with
      | [] => pure (Except.error "empty tab".toList)
      | [x] => pure (.ok x)
      | ['\\', '0'] => pure (.ok (Char.ofNat 0))
      | w => do pure (.error ("multi-character tab ".toList ++ (← cited w)))
    match found with
    | .error e => return .error e
    | .ok x =>
      if mark.any (· ≠ x) then return .error "incompatible tabs".toList
      mark := some x
  return .ok mark

def keyComplaint (word : Octets) : KeyFault → Act Octets
  | .count what rest => do return (what ++ ": invalid count at start of ").toList ++ (← cited rest)
  | .field what => do return (what ++ ": invalid field specification ").toList ++ (← cited word)

def unknownWord (option : String) (word : Octets) (lines : List String) : Act Unit := do
  reject 1 ("invalid argument ".toList ++ (← cited word) ++ (" for ".toList ++ (← cited option.toList)))
  put 2 "Valid arguments are:\n".toList
  for line in lines do
    let names := (line.splitOn " ").map fun n => n.toList
    let mut told : List Octets := []
    for n in names do told := told ++ [← cited n]
    put 2 ("  - ".toList ++ ", ".toList.intercalate told ++ ['\n'])
  put 2 ("Try '".toList ++ (← read).name ++ " --help' for more information.\n".toList)

/-- The old form of keys, which counts the fields that are passed over, as options. -/
def withOldKeys : List Octets → List Octets
  | [] => []
  | [w] => [oldKey w []]
  | w :: ('-' :: es) :: more =>
    if oldKey w [] ≠ w ∧ es ≠ [] ∧ es.all Char.isDigit then oldKey w (',' :: es) :: withOldKeys more
    else oldKey w [] :: withOldKeys (('-' :: es) :: more)
  | w :: rest => oldKey w [] :: withOldKeys rest
where
  oldKey (word last : Octets) : Octets :=
    match word with
    | '+' :: d :: ds =>
      if (d :: ds).all Char.isDigit then "-k".toList ++ digitsOf (valueIn 10 (d :: ds) + 1) ++ last else word
    | _ => word

def sortFiles (c : Chosen) : Act Unit := do
  let words := [("general-numeric", 'g'), ("human-numeric", 'h'), ("month", 'M'), ("numeric", 'n'), ("random", 'R'),
    ("version", 'V')]
  let mut shared : List Char := []
  for (letter, word) in c.options do
    if orderLetters.contains letter then shared := shared ++ [letter]
    if letter = 'ς' then
      match words.filter fun x => word.isPrefixOf x.1.toList with
      | [x] => shared := shared ++ [x.2]
      | _ => return ← unknownWord "--sort" word (words.map Prod.fst)
    if letter = 'χ' ∧ word ≠ [] then
      if !(["quiet", "silent", "diagnose-first"].any fun x => word.isPrefixOf x.toList) then
        return ← unknownWord "--check" word ["quiet silent", "diagnose-first"]
  let quietly := c.has 'C' || (c.values 'χ').any fun w => ["quiet", "silent"].any fun x => w ≠ [] && w.isPrefixOf x.toList
  let checks := c.has 'c' || c.has 'C' || c.has 'χ'
  let mark ← match ← sortMark c with
    | .error e => return ← reject 2 e
    | .ok m => pure m
  let mut given : List SortKey := []
  for word in c.values 'k' do
    match readKey word with
    | .error f => return ← reject 2 (← keyComplaint word f)
    | .ok k => given := given ++ [k]
  let base := SortKey.whole shared
  let keys := given.map fun k =>
    if k.isPlain then { k with letters := base.letters, skipsFirst := base.skipsFirst, skipsLast := base.skipsLast } else k
  let plain := (shared.filter (· ≠ 'r')).isEmpty
  let keys := if keys.isEmpty ∧ !plain then [base] else keys
  if let some letters := keys.findSome? SortKey.clash then
    return ← reject 2 ("options ".toList ++ (← cited ('-' :: letters)) ++ " are incompatible".toList)
  let files := filesOf c
  if checks then
    if let some extra := files[1]? then
      return ← reject 2 ("extra operand ".toList ++ (← cited extra) ++
        (if c.has 'C' then " not allowed with -C" else " not allowed with -c").toList)
  let ending := endMark c
  let s : Sorting := ⟨keys, mark, shared.contains 'r', c.has 'u', c.has 's'⟩
  let mut lists : List (List Keyed) := []
  for file in files do
    match ← fetch file with
    | .ok text => lists := lists ++ [(plainLinesBy ending text).map s.keyed]
    | .error e =>
      let what := if e = .eisdir then "read failed: " else if checks ∨ c.has 'm' then "open failed: " else "cannot read: "
      return ← reject 2 (what.toList ++ fileFault file e)
  if checks then
    match s.disorder 1 lists.flatten with
    | none => pure ()
    | some (n, line) =>
      if quietly then fail 1
      else reject 1 (files.headD [] ++ ":".toList ++ digitsOf n ++ ": disorder: ".toList ++ line)
  else
    let sorted := if c.has 'm' then s.merge (lists.flatten.length + 1) lists
      else lists.flatten.mergeSort fun a b => s.compare a b ≠ .gt
    let kept := if s.unique then s.firsts sorted else sorted
    let text := kept.flatMap fun x => x.line ++ [ending]
    match c.value? 'o' with
    | none => print text
    | some file =>
      if let .error e ← store file false text then reject 2 ("open failed: ".toList ++ fileFault file e)

def sort : Act Unit :=
  withReader (fun call => { call with args := withOldKeys call.args }) <|
    withOptions 2 "bcCdfghiMmnRrsuVzχ" "koStTςπβχ" sortLong sortFiles

/-- How lines are compared for being equal: fields and octets that are passed over, how many octets count, and whether
the size of letters does not. -/
structure Sameness where
  fields : Nat
  octets : Nat
  width : Option Nat
  folds : Bool
  deriving DecidableEq, Repr

def Sameness.key (s : Sameness) (line : Octets) : Octets :=
  let rec behind : Nat → Octets → Octets
    | 0, cs => cs
    | n + 1, cs => behind n ((cs.dropWhile isBlankOctet).dropWhile fun c => !isBlankOctet c)
  let rest := (behind (min s.fields line.length) line).drop s.octets
  let rest := match s.width with
    | some n => rest.take n
    | none => rest
  if s.folds then rest.map Char.toUpper else rest

def groupsOf : List (Octets × Octets) → List (List Octets)
  | [] => []
  | (key, line) :: rest =>
    match rest, groupsOf rest with
    | (next, _) :: _, g :: gs => if key = next then (line :: g) :: gs else [line] :: g :: gs
    | _, gs => [line] :: gs

def uniqLong : List (String × Char) := [("count", 'c'), ("repeated", 'd'), ("all-repeated", 'Δ'), ("unique", 'u'),
  ("ignore-case", 'i'), ("skip-fields", 'f'), ("skip-chars", 's'), ("check-chars", 'w'), ("zero-terminated", 'z'),
  ("group", 'γ')]

def uniq : Act Unit := do
  let args := (← read).args.map fun w => match w with
    | '-' :: d :: ds => if (d :: ds).all Char.isDigit then '-' :: 'f' :: d :: ds else w
    | '+' :: d :: ds => if (d :: ds).all Char.isDigit then '-' :: 's' :: d :: ds else w
    | _ => w
  withReader (fun call => { call with args := args }) <| withOptions 1 "cdDuizγΔ" "fswΔγ" uniqLong fun c => do
    for (letter, what) in [('f', "fields to skip"), ('s', "bytes to skip"), ('w', "bytes to compare")] do
      for word in c.values letter do
        if (amount? word).isNone then return ← reject 1 (word ++ (": invalid number of " ++ what).toList)
    let oneOf (option : String) (letter : Char) (known : List String) : Act (Option (Option String)) := do
      let mut found : Option String := none
      for word in c.values letter do
        if word.isEmpty then found := known.find? fun k => k = "none" || k = "separate"
        else match known.filter fun k => word.isPrefixOf k.toList with
          | [k] => found := some k
          | _ =>
            unknownWord option word known
            return none
      return some found
    let some all ← oneOf "--all-repeated" 'Δ' ["none", "prepend", "separate"] | return
    let all := if all.isNone ∧ c.has 'D' then some "none" else all
    let some group ← oneOf "--group" 'γ' ["prepend", "append", "separate", "both"] | return
    if group.isSome ∧ (c.has 'c' ∨ c.has 'd' ∨ all.isSome ∨ c.has 'u') then
      return ← misuse 1 "--group is mutually exclusive with -c/-d/-D/-u".toList
    if all.isSome ∧ c.has 'c' then
      return ← misuse 1 "printing all duplicated lines and repeat counts is meaningless".toList
    if let some extra := c.operands[2]? then return ← misuse 1 ("extra operand ".toList ++ (← cited extra))
    let file := c.operands.headD ['-']
    let number (letter : Char) : Option Nat := (c.value? letter).bind amount?
    let same : Sameness := ⟨(number 'f').getD 0, (number 's').getD 0, number 'w', c.has 'i'⟩
    let ending := endMark c
    match ← fetch file with
    | .error .eisdir => reject 1 ("error reading ".toList ++ (← cited file) ++ ": Is a directory".toList)
    | .error e => reject 1 (fileFault file e)
    | .ok text =>
      let groups := groupsOf ((plainLinesBy ending text).map fun line => (same.key line, line))
      let written (lines : List Octets) : Octets := lines.flatMap (· ++ [ending])
      let out : Octets :=
        match group, all with
        | some how, _ =>
          let front : Octets := if how = "prepend" ∨ how = "both" then [ending] else []
          let back : Octets := if how = "append" ∨ how = "both" then [ending] else []
          if groups.isEmpty then [] else front ++ [ending].intercalate (groups.map written) ++ back
        | none, some how =>
          let kept := groups.filter fun g => 1 < g.length
          let kept := if c.has 'u' then kept.map List.tail else kept
          let front : Octets := if how = "prepend" ∧ !kept.isEmpty then [ending] else []
          front ++ (if how = "none" then [] else [ending]).intercalate (kept.map written)
        | none, none =>
          let kept := groups.filter fun g => (!c.has 'd' || 1 < g.length) && (!c.has 'u' || g.length = 1)
          kept.flatMap fun g =>
            (if c.has 'c' then leftFill 7 ' ' (digitsOf g.length) ++ [' '] else []) ++ g.headD [] ++ [ending]
      match c.operands[1]? with
      | none => print out
      | some target =>
        if target = ['-'] then print out
        else if let .error e ← store target false out then reject 1 (fileFault target e)

end PassDelta.Machine.Utility
