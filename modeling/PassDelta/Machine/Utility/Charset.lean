import PassDelta.Machine.Utility.Line
/-!
# Sets of characters

Lists of characters as they are written with ranges, classes and repetitions, and the program that changes, deletes or
squeezes characters by them.
-/

namespace PassDelta.Machine.Utility

open Act

def classOctets? (name : String) : Option Octets :=
  let all := (List.range 128).map Char.ofNat
  match name with
  | "upper" => some (all.filter Char.isUpper)
  | "lower" => some (all.filter Char.isLower)
  | "alpha" => some (all.filter Char.isAlpha)
  | "digit" => some (all.filter Char.isDigit)
  | "alnum" => some (all.filter Char.isAlphanum)
  | "space" => some (all.filter isSpaceOctet)
  | "blank" => some (all.filter isGap)
  | "punct" => some (all.filter fun c => 32 < c.toNat && c.toNat < 127 && !c.isAlphanum)
  | "cntrl" => some (all.filter fun c => c.toNat < 32 || c.toNat = 127)
  | "print" => some (all.filter fun c => 32 ≤ c.toNat && c.toNat < 127)
  | "graph" => some (all.filter fun c => 32 < c.toNat && c.toNat < 127)
  | "xdigit" => some (all.filter fun c => (digitValue? c).isSome)
  | _ => none

/-- A part of a list of characters. A repetition without a number fills up what is missing. -/
inductive CharPart where
  | one (c : Char)
  | range (first last : Char)
  | kind (name : String)
  | same (c : Char)
  | times (c : Char) (n : Nat)
  | fill (c : Char)
  deriving DecidableEq, Repr

namespace CharPart

def octets (missing : Nat) : CharPart → Octets
  | one c => [c]
  | range a b => (List.range (b.toNat + 1 - a.toNat)).map fun i => Char.ofNat (a.toNat + i)
  | kind name => (classOctets? name).getD []
  | same c => [c]
  | times c n => List.replicate n c
  | fill c => List.replicate missing c

def isCase : CharPart → Bool
  | kind name => name = "upper" || name = "lower"
  | _ => false

end CharPart

/-- Why a list of characters cannot be read; a word to be cited may stand behind the first text. -/
structure CharFault where
  before : String
  word : Option Octets
  after : String
  deriving DecidableEq, Repr

/-- A character of a list and whether a backslash stood before it. -/
abbrev Marked := Char × Bool

def unmarked : Nat → Octets → List Marked × List Octets
  | 0, _ => ([], [])
  | _ + 1, [] => ([], [])
  | _ + 1, ['\\'] =>
    ([('\\', false)], ["warning: an unescaped backslash at end of string is not portable".toList])
  | fuel + 1, '\\' :: d :: more =>
    if isOctal d then
      let (n, rest) := readOctal 3 (d :: more)
      if n < 256 then
        let (cs, told) := unmarked fuel rest
        ((Char.ofNat n, true) :: cs, told)
      else
        let (short, behind) := readOctal 2 (d :: more)
        let three := (d :: more).take 3
        let (cs, told) := unmarked fuel behind
        ((Char.ofNat short, true) :: cs, ("warning: the ambiguous octal escape \\".toList ++ three ++
          " is being\n\tinterpreted as the 2-byte sequence \\0".toList ++ three.take 2 ++ ", ".toList ++ three.drop 2) :: told)
    else
      let c := (([('n', '\n'), ('t', '\t'), ('r', '\r'), ('a', Char.ofNat 7), ('b', Char.ofNat 8), ('f', Char.ofNat 12),
        ('v', Char.ofNat 11)].lookup d).getD d)
      let (cs, told) := unmarked fuel more
      ((c, true) :: cs, told)
  | fuel + 1, c :: rest =>
    let (cs, told) := unmarked fuel rest
    ((c, false) :: cs, told)

def repetition (cs : List Marked) : Except CharFault (Option (CharPart × List Marked)) :=
  match cs with
  | (c, _) :: ('*', false) :: rest =>
    let inside := rest.takeWhile fun x => x.1 ≠ ']' && !x.2
    match rest.drop inside.length with
    | (']', false) :: more =>
      let ds := inside.map Prod.fst
      if ds.isEmpty then .ok (some (.fill c, more))
      else
        let base := if ds.head? = some '0' then 8 else 10
        if ds.all fun d => (digitValue? d).any (· < base) then
          let n := valueIn base ds
          if wordLimit < n then .error ⟨"invalid repeat count ", some ds, " in [c*n] construct"⟩
          else .ok (some (if n = 0 then .fill c else .times c n, more))
        else .error ⟨"invalid repeat count ", some ds, " in [c*n] construct"⟩
    | _ => .ok none
  | _ => .ok none

/-- Where a class or a single character between brackets is closed: what stands inside, and what follows. -/
def closing? (sign : Char) : List Marked → Option (Octets × List Marked)
  | (c, false) :: (']', false) :: rest => if c = sign then some ([], rest) else
      (closing? sign ((']', false) :: rest)).map fun (inside, after) => (c :: inside, after)
  | (c, _) :: rest => (closing? sign rest).map fun (inside, after) => (c :: inside, after)
  | [] => none

def bracketed? (cs : List Marked) : Except CharFault (Option (CharPart × List Marked)) :=
  match cs with
  | (sign, false) :: rest =>
    if sign ≠ ':' ∧ sign ≠ '=' then repetition cs
    else match closing? sign rest with
      | none => repetition cs
      | some (inside, after) =>
        let again : Except CharFault (CharPart × List Marked) → Except CharFault (Option (CharPart × List Marked))
          | .ok x => .ok (some x)
          | .error f => match repetition cs with
            | .ok (some x) => .ok (some x)
            | _ => .error f
        if inside.isEmpty then
          .error ⟨if sign = ':' then "missing character class name '[::]'" else
            "missing equivalence class character '[==]'", none, ""⟩
        else if sign = ':' then
          match classOctets? (String.ofList inside) with
          | some _ => .ok (some (.kind (String.ofList inside), after))
          | none => again (.error ⟨"invalid character class ", some inside, ""⟩)
        else match inside with
          | [c] => .ok (some (.same c, after))
          | _ => again (.error
            ⟨String.ofList inside ++ ": equivalence class operand must be a single character", none, ""⟩)
  | _ => repetition cs

def readParts : Nat → List Marked → Except CharFault (List CharPart)
  | 0, _ => .ok []
  | fuel + 1, cs =>
    match cs with
    | (a, marked) :: b :: c :: rest => do
      let found ← if a = '[' ∧ !marked then bracketed? (b :: c :: rest) else pure none
      match found with
      | some (part, after) => return part :: (← readParts fuel after)
      | none =>
        if b = ('-', false) then
          if c.1 < a then
            throw ⟨"range-endpoints of '" ++ String.ofList (a :: '-' :: c.1 :: []) ++
              "' are in reverse collating sequence order", none, ""⟩
          return .range a c.1 :: (← readParts fuel rest)
        else return .one a :: (← readParts fuel (b :: c :: rest))
    | cs => .ok (cs.map fun x => .one x.1)

def sizeWithout (parts : List CharPart) : Nat := (parts.map fun p => (p.octets 0).length).foldl (· + ·) 0

def isFill : CharPart → Bool
  | .fill _ => true
  | _ => false

/-- The pairs of characters that two lists make. Where both have a class of letters, they go by the case. -/
def charPairs (first second : List CharPart) : Option (List (Char × Char)) :=
  let tag (p : CharPart) (missing : Nat) : List (Char × Nat × Bool) :=
    (p.octets missing).zipIdx.map fun (c, i) => (c, i, p.isCase)
  let rec go : Nat → List (Char × Nat × Bool) → List (Char × Nat × Bool) → Option (List (Char × Char))
    | 0, _, _ => some []
    | fuel + 1, (a, i, x) :: as, (b, j, y) :: bs =>
      if y ∧ j = 0 ∧ !(x ∧ i = 0) then none
      else (go fuel as bs).map ((a, b) :: ·)
    | _ + 1, _, (_, j, y) :: _ => if y ∧ j = 0 then some [] else some []
    | _ + 1, _, [] => some []
  let one := first.flatMap fun p => tag p 0
  let two := second.flatMap fun p => tag p 0
  go (one.length + 1) one two

/-- The second list as long as the first one, if it is not to be cut: what fills it up, or its last character again. -/
def extended? (parts : List CharPart) (size : Nat) (cuts : Bool) : Except CharFault (List CharPart) :=
  let missing := size - sizeWithout parts
  let filled := parts.map fun p => match p with
    | .fill c => .times c missing
    | p => p
  if cuts ∨ sizeWithout filled = size ∨ size < sizeWithout filled then .ok filled
  else match filled.getLast? with
    | none => .error ⟨"when not truncating set1, string2 must be non-empty", none, ""⟩
    | some (.kind _) => .error
      ⟨"when translating with string1 longer than string2,\nthe latter string must not end with a character class", none, ""⟩
    | some p => .ok (filled ++ [.times ((p.octets 1).getLastD ' ') missing])

/-- The second list with its classes of letters as those of the first one ask for, or what is wrong with the pair. -/
def translation (first second : List CharPart) (complement cuts : Bool) :
    Except CharFault (List (Char × Char)) := do
  if first.any isFill then throw ⟨"the [c*] repeat construct may not appear in string1", none, ""⟩
  if 1 < (second.filter isFill).length then throw ⟨"only one [c*] repeat construct may appear in string2", none, ""⟩
  if second.any fun p => match p with | .same _ => true | _ => false then
    throw ⟨"[=c=] expressions may not appear in string2 when translating", none, ""⟩
  if second.any fun p => match p with | .kind _ => !p.isCase | _ => false then
    throw ⟨"when translating, the only character classes that may appear in\nstring2 are 'upper' and 'lower'", none, ""⟩
  let members := first.flatMap (CharPart.octets 0)
  if complement then
    let others := ((List.range 256).map Char.ofNat).filter fun c => !members.contains c
    let second ← extended? second others.length cuts
    let targets := second.flatMap (CharPart.octets 0)
    let uniform := others.length = targets.length && targets.eraseDups.length ≤ 1
    if (first.any fun p => match p with | .kind _ => true | _ => false) ∧ !uniform then
      throw ⟨"when translating with complemented character classes,\nstring2 must map all characters in the domain to one",
        none, ""⟩
    return others.zip targets
  else
    let pairs? := charPairs first (second.map fun p => match p with
      | .fill c => .times c (members.length - sizeWithout second)
      | p => p)
    if pairs?.isNone then throw ⟨"misaligned [:upper:] and/or [:lower:] construct", none, ""⟩
    let second ← extended? second members.length cuts
    return (charPairs first second).getD []

def squeeze (inSet : Char → Bool) (text : Octets) : Octets :=
  (text.foldl (fun (done : Octets) c => if done.head? = some c && inSet c then done else c :: done) []).reverse

def octetTable (cs : Octets) : Array Bool := cs.foldl (fun t c => t.setIfInBounds c.toNat true) (Array.replicate 256 false)

def trLong : List (String × Char) := [("complement", 'c'), ("delete", 'd'), ("squeeze-repeats", 's'), ("truncate-set1", 't')]

def tr : Act Unit := do
  let args := (← read).args
  let options := args.takeWhile fun w => w.head? = some '-' && w ≠ ['-'] && w ≠ ['-', '-']
  let words := args.drop options.length
  let words := if words.head? = some ['-', '-'] then words else ['-', '-'] :: words
  withReader (fun call => { call with args := options ++ words }) <| withOptions 1 "cCdst" "" trLong fun c => do
    let deletes := c.has 'd'
    let squeezes := c.has 's'
    let hint : Act Unit := do
      put 2 ("Try '".toList ++ (← read).name ++ " --help' for more information.\n".toList)
    let least := if deletes = squeezes then 2 else 1
    let most := if deletes && !squeezes then 1 else 2
    match c.operands with
    | [] => return ← misuse 1 "missing operand".toList
    | [a] =>
      if least = 2 then
        reject 1 ("missing operand after ".toList ++ (← cited a))
        put 2 (if squeezes then "Two strings must be given when both deleting and squeezing repeats.\n"
          else "Two strings must be given when translating.\n").toList
        return ← hint
    | words =>
      if let some extra := words[most]? then
        reject 1 ("extra operand ".toList ++ (← cited extra))
        if words.length = 2 then
          put 2 "Only one string may be given when deleting without squeezing repeats.\n".toList
        return ← hint
    let complain (f : CharFault) : Act Unit := do
      let word ← match f.word with
        | some w => cited w
        | none => pure []
      reject 1 (octetsOfText f.before ++ word ++ f.after.toList)
    let mut lists : List (List CharPart) := []
    for word in c.operands do
      let (marked, told) := unmarked (word.length + 1) word
      for text in told do grumble text
      match readParts (marked.length + 1) marked with
      | .error f => return ← complain f
      | .ok parts => lists := lists ++ [parts]
    let complement := c.has 'c' || c.has 'C'
    let first := lists.headD []
    if first.any isFill then
      return ← complain ⟨"the [c*] repeat construct may not appear in string1", none, ""⟩
    let table := octetTable (first.flatMap (CharPart.octets 0))
    let inFirst (x : Char) : Bool := table.getD x.toNat false != complement
    match lists[1]? with
    | none =>
      let text ← input
      print (if deletes then text.filter fun x => !inFirst x else squeeze inFirst text)
    | some second =>
      if deletes then
        if second.any isFill then
          return ← complain ⟨"the [c*] construct may appear in string2 only when translating", none, ""⟩
        let text ← input
        let others := octetTable (second.flatMap (CharPart.octets 0))
        print (squeeze (fun x => others.getD x.toNat false) (text.filter fun x => !inFirst x))
      else
        match translation first second complement (c.has 't') with
        | .error f => complain f
        | .ok pairs =>
          let text ← input
          let plain := (Array.range 256).map Char.ofNat
          let targets := pairs.foldl (fun (t : Array Char) (a, b) => t.setIfInBounds a.toNat b) plain
          let moved := text.map fun x => targets.getD x.toNat x
          let others := octetTable (pairs.map Prod.snd)
          print (if squeezes then squeeze (fun x => others.getD x.toNat false) moved else moved)

end PassDelta.Machine.Utility
