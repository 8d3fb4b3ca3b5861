import PassDelta.Machine.Regex
import PassDelta.Machine.Utility.Line
/-!
# Whole files

Programs that print files as they are, or some of their lines, numbered, marked or turned round.
-/

namespace PassDelta.Machine.Utility

open Act

def visible (c : Char) : Octets :=
  let low (n : Nat) : Octets :=
    if n = 127 then ['^', '?'] else if n < 32 then ['^', Char.ofNat (n + 64)] else [Char.ofNat n]
  if c.toNat < 128 then low c.toNat else ['M', '-'] ++ low (c.toNat - 128)

structure CatStyle where
  numbers : Bool
  blanksToo : Bool
  ends : Bool
  tabs : Bool
  controls : Bool
  squeeze : Bool

/-- Where the printing of lines stands: the number of the next line, how many blank lines came last, and whether a
line has been begun. -/
structure CatSpot where
  number : Nat
  blanks : Nat
  within : Bool

def catLine (s : CatStyle) (at_ : CatSpot) (line : Octets) : Octets × CatSpot :=
  let body := chomp line
  let ended := line.length ≠ body.length
  let isBlank := body.isEmpty && !at_.within
  if s.squeeze ∧ isBlank ∧ 1 ≤ at_.blanks then ([], { at_ with blanks := at_.blanks + 1 })
  else
    let numbered := !at_.within && s.numbers && (s.blanksToo || !body.isEmpty)
    let mark := if numbered then leftFill 6 ' ' (digitsOf at_.number) ++ ['\t'] else []
    let (body, carriage) : Octets × Octets :=
      if s.ends ∧ !s.controls ∧ ended ∧ body.getLast? = some '\r' then (body.dropLast, ['^', 'M']) else (body, [])
    let shown := body.flatMap fun c =>
      if c = '\t' then if s.tabs then ['^', 'I'] else [c] else if s.controls then visible c else [c]
    let close := if !ended then [] else if s.ends then ['$', '\n'] else ['\n']
    (mark ++ shown ++ carriage ++ close,
      ⟨if numbered then at_.number + 1 else at_.number, if isBlank then at_.blanks + 1 else 0, !ended⟩)

def catLong : List (String × Char) := [("number", 'n'), ("number-nonblank", 'b'), ("show-ends", 'E'), ("show-tabs", 'T'),
  ("show-all", 'A'), ("squeeze-blank", 's'), ("show-nonprinting", 'v')]

def cat : Act Unit := withOptions 1 "nbETAstevu" "" catLong fun c => do
  let all := c.has 'A'
  let plain := c.options.all (·.1 = 'u')
  let style : CatStyle := ⟨c.has 'n' || c.has 'b', !c.has 'b', c.has 'E' || all || c.has 'e', c.has 'T' || all || c.has 't',
    all || c.has 'v' || c.has 'e' || c.has 't', c.has 's'⟩
  if ((← read).streams.lookup 1).isNone then
    return ← reject 1 "standard output: Bad file descriptor".toList
  let mut spot : CatSpot := ⟨1, 0, false⟩
  for file in filesOf c do
    if let some text ← fetchOr 1 (fun file => if isPlainName file then file else shown file) file then
      if plain then print text
      else
        let (out, last) := (fullLines text).foldl (fun (done : List Octets × CatSpot) line =>
          let (text, next) := catLine style done.2 line
          (text :: done.1, next)) ([], spot)
        spot := last
        print out.reverse.flatten
      if text.length = World.plenty then goOn
  if ((← read).streams.lookup 0).isNone ∧ (c.operands.isEmpty ∨ c.operands.contains ['-']) then
    reject 1 "closing standard input: Bad file descriptor".toList

def tee : Act Unit := withOptions 1 "aip" "" [("append", 'a'), ("ignore-interrupts", 'i')] fun c => do
  let text ← input
  for file in c.operands do
    if let .error e ← store file (c.has 'a') text then reject 1 (fileFault file e)
  print text

def yes : Act Unit := withOptions 1 "" "" [] fun c => do
  let line := (if c.operands.isEmpty then ['y'] else [' '].intercalate c.operands) ++ ['\n']
  print (List.replicate (max 150000 (2 * World.plenty / line.length)) line).flatten
  goOn

/-- Goes through files, each under a header when there are several; `extract` tells what to print of a file that can be
opened. -/
def underHeaders (c : Chosen) (extract : Octets → Act (Except IoError Octets)) : Act Unit := do
  let files := filesOf c
  let headed := (1 < files.length || c.has 'v') && !c.has 'q'
  let mut first := true
  for file in files do
    let found ← extract file
    match found with
    | .error e =>
      if e ≠ .eisdir then
        reject 1 ("cannot open ".toList ++ quoted file ++ " for reading: ".toList ++ octetsOfText e.words)
    | .ok _ => pure ()
    if found matches .ok _ | .error .eisdir then
      if headed then
        let title := if file = ['-'] then "standard input".toList else file
        print ((if first then [] else ['\n']) ++ "==> ".toList ++ title ++ " <==\n".toList)
      first := false
    match found with
    | .ok text => print text
    | .error .eisdir => reject 1 ("error reading ".toList ++ quoted file ++ ": Is a directory".toList)
    | .error _ => pure ()

/-- Which end of a file is asked for: how many lines or octets, and the sign before the number. -/
structure Extent where
  byBytes : Bool
  sign : Option Char
  count : Nat
  deriving DecidableEq, Repr

def extent? (c : Chosen) (signs : List Char) : Act (Option Extent) := do
  let asked := (c.options.filter fun o => o.1 = 'n' || o.1 = 'c').getLast?
  let byBytes := asked.any (·.1 = 'c')
  let word := (asked.map Prod.snd).getD "10".toList
  let (sign, body) := match word with
    | s :: rest => if signs.contains s then (some s, rest) else (none, word)
    | [] => (none, [])
  let complaint : Octets :=
    ("invalid number of ".toList ++ (if byBytes then "bytes: " else "lines: ").toList) ++ (← cited body)
  match amount? body with
  | none =>
    reject 1 complaint
    return none
  | some n =>
    if wordLimit < n then
      reject 1 (complaint ++ ": Value too large for defined data type".toList)
      return none
    return some ⟨byBytes, sign, n⟩

/-- What stands before the operands in the old form: a number of lines or octets, and letters. -/
def oldExtent (letters : List Char) (sign : Octets) (word : Octets) : Option (List Octets) :=
  let ds := word.takeWhile Char.isDigit
  let behind := word.drop ds.length
  if ds.isEmpty ∨ !behind.all letters.contains then none
  else
    let flags := behind.filter ['q', 'v', 'z', 'f'].contains
    let unit := if behind.contains 'c' then 'c' else 'n'
    some ((if flags.isEmpty then [] else ['-' :: flags]) ++ [['-', unit] ++ sign ++ ds])

def head : Act Unit := do
  let given := (← read).args
  let args := match given with
    | ('-' :: c :: cs) :: rest =>
      if !c.isDigit then given else ((oldExtent ['c', 'l', 'q', 'v', 'z'] [] (c :: cs)).map (· ++ rest)).getD given
    | _ => given
  match args with
  | ('-' :: c :: cs) :: _ =>
    if c.isDigit then
      let stray := (cs.dropWhile Char.isDigit).find? fun c => !(['c', 'l', 'q', 'v', 'z'].contains c)
      return ← misuse 1 ("invalid trailing option -- ".toList ++ stray.toList)
  | _ => pure ()
  let long := [("lines", 'n'), ("bytes", 'c'), ("quiet", 'q'), ("silent", 'q'), ("verbose", 'v'), ("zero-terminated", 'z')]
  withReader (fun call => { call with args := args }) <| withOptions 1 "qvz" "nc" long fun c => do
    if let some x ← extent? c ['-'] then
      let front (text : Octets) : Octets :=
        if x.byBytes then text.take (if x.sign.isSome then text.length - x.count else x.count)
        else
          let parts := fullLinesBy (endMark c) text
          (parts.take (if x.sign.isSome then parts.length - x.count else x.count)).flatten
      underHeaders c fun file => do
        let zeros : Octets := List.replicate x.count (Char.ofNat 0)
        if file = ['-'] then
          let w ← getWorld
          match (← read).streams.lookup 0 with
          | some id =>
            if !(← inputIsDir) then
              match w.channel id with
              | .file .. =>
                let text := front (w.rest id)
                setWorld (w.advance id text.length false)
                return .ok text
              | .device .zero => return .ok zeros
              | _ => pure ()
          | none => pure ()
        else if let .ok (.device .zero) ← entry file then return .ok zeros
        return (← fetch file).map front

def tailLong : List (String × Char) := [("lines", 'n'), ("bytes", 'c'), ("quiet", 'q'), ("silent", 'q'), ("verbose", 'v'),
  ("zero-terminated", 'z'), ("follow", 'φ'), ("retry", 'ρ'), ("sleep-interval", 's'), ("pid", 'π'),
  ("max-unchanged-stats", 'μ')]

def tail : Act Unit := do
  let given := (← read).args
  let old (sign : Char) (word : Octets) (rest : List Octets) : List Octets :=
    let single := rest.length ≤ 1 && !(rest.any fun w => w.head? = some '-' && w ≠ ['-']) || rest.head? = some ['-', '-']
    if !single then given
    else ((oldExtent ['c', 'l', 'f'] [sign] word).map (· ++ rest)).getD given
  let args := match given with
    | ('+' :: word) :: rest => old '+' word rest
    | ('-' :: word) :: rest => old '-' word rest
    | _ => given
  match (args.takeWhile (· ≠ ['-', '-'])).find? fun w => w.head? = some '-' && (w[1]?).any Char.isDigit with
  | some w =>
    if args = given then return ← reject 1 ("option used in invalid context -- ".toList ++ (w.drop 1).take 1)
  | none => pure ()
  withReader (fun call => { call with args := args }) <| withOptions 1 "qvzfFφρ" "ncsφπμ" tailLong fun c => do
    if let some word := c.value? 's' then
      if (amount? word).isNone then return ← reject 1 ("invalid number of seconds: ".toList ++ (← cited word))
    if let some x ← extent? c ['+', '-'] then
      let follows := c.has 'f' || c.has 'F' || c.has 'φ'
      if c.has 'ρ' ∧ !follows then
        grumble "warning: --retry ignored; --retry is useful only when following".toList
      let back (text : Octets) : Octets :=
        let fromStart := x.sign = some '+'
        if x.byBytes then text.drop (if fromStart then x.count - 1 else text.length - x.count)
        else
          let parts := fullLinesBy (endMark c) text
          (parts.drop (if fromStart then x.count - 1 else parts.length - x.count)).flatten
      let nothing := x.count = 0 && x.sign ≠ some '+'
      let mut any := false
      for file in filesOf c do if (← entry file).toBool ∨ file = ['-'] then any := true
      underHeaders c fun file => do
        match ← fetch file with
        | .error .eisdir => return if nothing then .ok [] else .error .eisdir
        | found => return found.map back
      if follows then
        if any then setWorld ((← getWorld).waitUntil World.never)
        else if !(c.has 'F') then reject 1 "no files remaining".toList

/-- Where a text occurs in another one, sought from the end; each place and the length of what is there. -/
def placesOf (mark text : Octets) : List (Nat × Nat) :=
  let back := mark.reverse
  let rec go : Nat → Nat → Octets → List (Nat × Nat)
    | 0, _, _ => []
    | _ + 1, _, [] => []
    | fuel + 1, left, c :: rest =>
      if back.isPrefixOf (c :: rest) then
        (left - mark.length, mark.length) :: go fuel (left - mark.length) ((c :: rest).drop mark.length)
      else go fuel (left - 1) rest
  go (text.length + 1) text.length text.reverse

/-- Where a pattern matches in a text, sought from the end; a match ends where the next one begins. -/
def matchesOf (r : Regex) (text : Octets) : List (Nat × Nat) :=
  let lengthAt (n limit : Nat) : Nat :=
    let rest := (text.take limit).drop n
    match r.matchAt? false ⟨if n = 0 then none else text[n - 1]?, rest, []⟩ with
    | some after => rest.length - after.rest.length
    | none => 0
  let rec go : Nat → Nat → List (Nat × Nat)
    | 0, _ => []
    | n + 1, limit =>
      let size := lengthAt n limit
      if size = 0 then go n limit else (n, size) :: go n n
  go text.length text.length

def partsFrom (text : Octets) (places : List Nat) : List Octets :=
  let (parts, left) := places.foldl (fun (done : List Octets × Octets) n =>
    (done.2.drop n :: done.1, done.2.take n)) ([], text)
  (left :: parts).reverse

def tac : Act Unit := withOptions 1 "br" "s" [("before", 'b'), ("regex", 'r'), ("separator", 's')] fun c => do
  let mark := match c.value? 's' with
    | some [] => [Char.ofNat 0]
    | some s => s
    | none => ['\n']
  for file in filesOf c do
    match ← fetch file with
    | .error .eisdir => reject 1 (file ++ ": read error: Is a directory".toList)
    | .error e => reject 1 ("failed to open ".toList ++ quoted file ++ " for reading: ".toList ++ octetsOfText e.words)
    | .ok text =>
      match if c.has 'r' then (Regex.read false mark).map fun r => matchesOf r text else .ok (placesOf mark text) with
      | .error e => return ← reject 1 e.toList
      | .ok found =>
        print (partsFrom text (found.map fun x => if c.has 'b' then x.1 else x.1 + x.2)).flatten

def rev : Act Unit := withOptions 1 "" "" [] fun c => do
  for text in ← texts c.operands (fun f => "cannot open ".toList ++ f) 1 do
    print ((fullLines text).flatMap fun line =>
      let body := chomp line
      let turned := match Text.decode? (bytesOf body) with
        | some s => octetsOfText (String.ofList s.toList.reverse)
        | none => body.reverse
      turned ++ line.drop body.length)

/-- Which lines get a number: all, those that are not empty, none, or those that match. -/
inductive Numbering where
  | every
  | filled
  | no
  | matching (r : Regex)

def Numbering.ofWord (word : Octets) : Except (Option String) Numbering :=
  match word with
  | ['a'] => .ok .every
  | ['t'] => .ok .filled
  | ['n'] => .ok .no
  | 'p' :: pattern => match Regex.read false pattern with
    | .ok r => .ok (.matching r)
    | .error e => .error (some e)
  | _ => .error none

/-- How lines are numbered: the numberings of heads, bodies and feet, what marks those, and how numbers look. -/
structure Lining where
  numberings : List Numbering
  mark : Octets
  step : Int
  first : Int
  keeps : Bool
  blanks : Nat
  shape : Octets
  width : Nat
  behind : Octets

structure LineSpot where
  number : Int
  section_ : Nat
  blanks : Nat

def Lining.numberText (l : Lining) (n : Int) : Octets :=
  let ds := digitsOf n.natAbs
  let sign : Octets := if n < 0 then ['-'] else []
  if l.shape = ['l', 'n'] then rightFill l.width ' ' (sign ++ ds)
  else if l.shape = ['r', 'z'] then sign ++ leftFill (l.width - sign.length) '0' ds
  else leftFill l.width ' ' (sign ++ ds)

/-- A line with its number, or with blanks in its place, and where that leaves the numbering. -/
def Lining.line (l : Lining) (at_ : LineSpot) (text : Octets) : Octets × LineSpot :=
  let times := if 2 ≤ l.mark.length then ([3, 2, 1].find? fun n => text = (List.replicate n l.mark).flatten) else none
  match times with
  | some n => (['\n'], { at_ with section_ := 3 - n, number := if l.keeps then at_.number else l.first })
  | none =>
    let isBlank := text.isEmpty
    let (numbered, blanks) := match l.numberings[at_.section_]? with
      | some .every =>
        if 1 < l.blanks ∧ isBlank then
          if at_.blanks + 1 = l.blanks then (true, 0) else (false, at_.blanks + 1)
        else (true, 0)
      | some .filled => (!isBlank, at_.blanks)
      | some (.matching r) => ((r.search false none text).isSome, at_.blanks)
      | _ => (false, at_.blanks)
    if numbered then
      (l.numberText at_.number ++ l.behind ++ text ++ ['\n'], { at_ with number := at_.number + l.step, blanks := blanks })
    else
      (List.replicate (l.width + l.behind.length) ' ' ++ text ++ ['\n'], { at_ with blanks := blanks })

def nlLong : List (String × Char) := [("body-numbering", 'b'), ("section-delimiter", 'd'), ("footer-numbering", 'f'),
  ("header-numbering", 'h'), ("line-increment", 'i'), ("join-blank-lines", 'l'), ("number-format", 'n'),
  ("no-renumber", 'p'), ("number-separator", 's'), ("starting-line-number", 'v'), ("number-width", 'w')]

def nlStyles : List (Char × String) := [('b', "body"), ('f', "footer"), ('h', "header")]

def nlNumbers : List (Char × String × Int) := [('v', "starting line number", -(twoTo 63 : Int)),
  ('i', "line number increment", -(twoTo 63 : Int)), ('l', "line number of blank lines", 1),
  ('w', "line number field width", 1)]

def nl : Act Unit := withOptions 1 "p" "bdfhilnsvw" nlLong fun c => do
  let mut wrong := false
  for (letter, word) in c.options do
    let told := ": ".toList ++ (← cited word)
    if let some what := nlStyles.lookup letter then
      match Numbering.ofWord word with
      | .ok _ => pure ()
      | .error e =>
        grumble (match e with
          | some e => e.toList
          | none => ("invalid " ++ what ++ " numbering style").toList ++ told)
        wrong := true
    if let some (what, least) := nlNumbers.lookup letter then
      match readInteger? word with
      | none => return ← reject 1 (("invalid " ++ what).toList ++ told)
      | some n =>
        if n < least then
          return ← reject 1 (("invalid " ++ what).toList ++ told ++ ": Numerical result out of range".toList)
    if letter = 'n' ∧ !(["ln", "rn", "rz"].contains (String.ofList word)) then
      grumble ("invalid line numbering format".toList ++ told)
      wrong := true
  if wrong then
    fail 1
    return ← put 2 ("Try '".toList ++ (← read).name ++ " --help' for more information.\n".toList)
  let style (letter : Char) (usual : Numbering) : Numbering :=
    ((c.value? letter).bind fun w => (Numbering.ofWord w).toOption).getD usual
  let number (letter : Char) (usual : Int) : Int := ((c.value? letter).bind readInteger?).getD usual
  let first := number 'v' 1
  let mark := match c.value? 'd' with
    | some [x] => [x, ':']
    | some cs => cs
    | none => ['\\', ':']
  let l : Lining :=
    ⟨[style 'h' .no, style 'b' .filled, style 'f' .no], mark, number 'i' 1, first, c.has 'p', (number 'l' 1).toNat,
      (c.value? 'n').getD ['r', 'n'], (number 'w' 6).toNat, (c.value? 's').getD ['\t']⟩
  let mut spot : LineSpot := ⟨first, 1, 0⟩
  for file in filesOf c do
    if let some text ← fetchOr 1 shown file then
      let (out, last) := (plainLines text).foldl (fun (done : List Octets × LineSpot) line =>
        let (text, next) := l.line done.2 line
        (text :: done.1, next)) ([], spot)
      spot := last
      print out.reverse.flatten

end PassDelta.Machine.Utility
