import PassDelta.Machine.Utility.Line
/-!
# Dumps

Octets as numbers or names in columns, and as texts of a few letters that stand for them.
-/

namespace PassDelta.Machine.Utility

open Act

/-- How the octets of a dump are shown: as characters, as names, or as numbers of some octets. -/
inductive DumpKind where
  | chars
  | names
  | signed (size : Nat)
  | plain (size : Nat)
  | octal (size : Nat)
  | hex (size : Nat)
  deriving DecidableEq, Repr

namespace DumpKind

def size : DumpKind → Nat
  | chars => 1
  | names => 1
  | signed n => n
  | plain n => n
  | octal n => n
  | hex n => n

def width (k : DumpKind) : Nat :=
  let at_ (ws : List Nat) : Nat := (ws[k.size.log2]?).getD 0
  match k with
  | chars => 3
  | names => 3
  | signed _ => at_ [4, 6, 11, 20]
  | plain _ => at_ [3, 5, 10, 20]
  | octal _ => at_ [3, 6, 11, 22]
  | hex _ => at_ [2, 4, 8, 16]

def controlNames : List String := [
  "nul", "soh", "stx", "etx", "eot", "enq", "ack", "bel", "bs", "ht", "nl", "vt", "ff", "cr", "so", "si", "dle", "dc1",
  "dc2", "dc3", "dc4", "nak", "syn", "etb", "can", "em", "sub", "esc", "fs", "gs", "rs", "us", "sp"]

def text (k : DumpKind) (cs : Octets) : Octets :=
  let n := cs.foldr (fun c v => v * 256 + c.toNat) 0
  let c := cs.headD ' '
  match k with
  | chars =>
    match ([(0, '0'), (7, 'a'), (8, 'b'), (9, 't'), (10, 'n'), (11, 'v'), (12, 'f'), (13, 'r')] : List (Nat × Char)).lookup n with
    | some letter => ['\\', letter]
    | none => if 32 ≤ n ∧ n < 127 then [c] else leftFill 3 '0' (Nat.toDigits 8 n)
  | names =>
    let n := n % 128
    if n = 127 then "del".toList else ((controlNames[n]?).map String.toList).getD [Char.ofNat n]
  | signed size =>
    let value : Int := (n : Int).bmod (twoTo (8 * size))
    (if value < 0 then ['-'] else []) ++ digitsOf value.natAbs
  | plain _ => digitsOf n
  | octal _ => leftFill k.width '0' (Nat.toDigits 8 n)
  | hex _ => leftFill k.width '0' (Nat.toDigits 16 n)

end DumpKind

structure DumpFormat where
  kind : DumpKind
  shows : Bool
  deriving DecidableEq, Repr

/-- The number of octets that a type of a dump asks for, by a letter or a number, and what follows. -/
def dumpSize (letters : List (Char × Nat)) (usual : Nat) (cs : Octets) : Nat × Octets :=
  match cs with
  | c :: rest =>
    match letters.lookup c with
    | some n => (n, rest)
    | none =>
      let ds := cs.takeWhile Char.isDigit
      if ds.isEmpty then (usual, cs) else (valueIn 10 ds, cs.drop ds.length)
  | [] => (usual, [])

def readDumpTypes (word : Octets) : Nat → Octets → Except (List (String × Option Octets)) (List DumpFormat)
  | 0, _ => .ok []
  | _ + 1, [] => .ok []
  | fuel + 1, c :: rest => do
    let add (kind : DumpKind) (rest : Octets) : Except (List (String × Option Octets)) (List DumpFormat) := do
      let (shows, rest) := match rest with
        | 'z' :: more => (true, more)
        | more => (false, more)
      return ⟨kind, shows⟩ :: (← readDumpTypes word fuel rest)
    if c = 'a' then add .names rest
    else if c = 'c' then add .chars rest
    else if ['d', 'u', 'o', 'x'].contains c then
      let (size, rest) := dumpSize [('C', 1), ('S', 2), ('I', 4), ('L', 8)] 4 rest
      if !([1, 2, 4, 8].contains size) then
        throw [("invalid type string ", some word),
          (";\nthis system doesn't provide a " ++ toString size ++ "-byte integral type", none)]
      add (match c with
        | 'd' => .signed size
        | 'u' => .plain size
        | 'o' => .octal size
        | _ => .hex size) rest
    else throw [("invalid character '" ++ String.singleton c ++ "' in type string ", some word)]

/-- A dump: its formats, how many octets each block has, the base of addresses, and whether equal blocks are left
out. -/
structure Dump where
  formats : List DumpFormat
  block : Nat
  base : Option Nat
  elides : Bool
  bigFirst : Bool

namespace Dump

def addressWidth (d : Dump) : Nat :=
  match d.base with
  | none => 0
  | some 16 => 6
  | some _ => 7

def address (d : Dump) (n : Nat) : Octets :=
  match d.base with
  | none => []
  | some base => leftFill d.addressWidth '0' (Nat.toDigits base n)

def blockWidth (d : Dump) : Nat :=
  (d.formats.map fun f => (f.kind.width + 1) * (d.block / f.kind.size)).foldl max 0

/-- The fields of a block in one format, which share the room that wider ones take. -/
def fields (d : Dump) (f : DumpFormat) (cs : Octets) : Octets :=
  let size := f.kind.size
  let total := d.block / size
  let pad := d.blockWidth - f.kind.width * total
  let count := (cs.length + size - 1) / size
  (List.range count).flatMap fun i =>
    let room := pad * (total - i) / total - pad * (total - i - 1) / total
    let part := (cs.drop (i * size)).take size
    let part := part ++ List.replicate (size - part.length) (Char.ofNat 0)
    leftFill (room + f.kind.width) ' ' (f.kind.text (if d.bigFirst then part.reverse else part))

def line (d : Dump) (f : DumpFormat) (cs : Octets) : Octets :=
  let body := d.fields f cs
  if !f.shows then body
  else
    let shown := cs.map fun c => if 32 ≤ c.toNat ∧ c.toNat < 127 then c else '.'
    let size := f.kind.size
    let total := d.block / size
    let blank := (d.block - cs.length) / size
    let pad := d.blockWidth - f.kind.width * total
    body ++ List.replicate (blank * f.kind.width + pad * blank / total) ' ' ++ "  >".toList ++ shown ++ ['<']

/-- The lines of the blocks of a text from an address on. A block like the one before it is only marked. -/
def blocks (d : Dump) : Nat → Nat → Option Octets → Bool → Octets → List Octets
  | 0, _, _, _, _ => []
  | fuel + 1, at_, before, marked, cs =>
    if cs.isEmpty then (if d.base.isNone then [] else [d.address at_])
    else
      let here := cs.take d.block
      let rest := cs.drop d.block
      let next := at_ + here.length
      if d.elides ∧ here.length = d.block ∧ before = some here then
        (if marked then [] else [['*']]) ++ blocks d fuel next before true rest
      else
        (d.formats.zipIdx.map fun (f, i) =>
          (if i = 0 then d.address at_ else List.replicate d.addressWidth ' ') ++ d.line f here) ++
          blocks d fuel next (some here) false rest

end Dump

def odLong : List (String × Char) := [("address-radix", 'A'), ("skip-bytes", 'j'), ("read-bytes", 'N'), ("format", 't'),
  ("output-duplicates", 'v'), ("width", 'w'), ("endian", 'ε')]

def oldDumpTypes : List (Char × DumpKind) := [('a', .names), ('b', .octal 1), ('c', .chars), ('d', .plain 2), ('i', .signed 4),
  ('l', .signed 8), ('o', .octal 2), ('s', .signed 2), ('x', .hex 2), ('h', .hex 2)]

def dumpAmount? (word : Octets) : Option Nat :=
  (readNumber word).bind fun (n, rest) => (scale? rest).map (n * ·)

def od : Act Unit := withOptions 1 "abcdilosxhvw" "AjNtwε" odLong fun c => do
  for letter in ['j', 'N'] do
    if let some word := c.value? letter then
      if (dumpAmount? word).isNone then
        return ← reject 1 (("invalid -".toList ++ [letter] ++ " argument ".toList) ++ (← cited word))
  let mut base := some 8
  if let some word := c.value? 'A' then
    match [("d", some 10), ("o", some 8), ("x", some 16), ("n", none)].lookup (String.ofList word) with
    | some b => base := b
    | none =>
      return ← reject 1 (("invalid output address radix '".toList ++ word) ++
        "'; it must be one character from [doxn]".toList)
  let mut formats : List DumpFormat := []
  for (letter, word) in c.options do
    if letter = 't' then
      match readDumpTypes word (word.length + 1) word with
      | .ok fs => formats := formats ++ fs
      | .error parts =>
        let mut text : Octets := []
        for (before, word) in parts do
          text := text ++ before.toList ++ (← match word with
            | some w => cited w
            | none => pure [])
        return ← reject 1 text
    else if let some kind := oldDumpTypes.lookup letter then formats := formats ++ [⟨kind, false⟩]
  if formats.isEmpty then formats := [⟨.octal 2, false⟩]
  let unit := formats.foldl (fun n f => max n f.kind.size) 1
  let mut block := 16
  if let some word := c.value? 'w' then
    if word.isEmpty then block := 32
    else match dumpAmount? word with
      | none => return ← reject 1 ("invalid -w argument ".toList ++ (← cited word))
      | some n =>
        block := n
        if n = 0 ∨ n % unit ≠ 0 then
          grumble ("warning: invalid width ".toList ++ digitsOf n ++ "; using ".toList ++ digitsOf unit ++ " instead".toList)
          block := unit
  let mut text : Octets := []
  for file in filesOf c do
    if let some t ← fetchOr 1 shown file then text := text ++ t
  let skip := ((c.value? 'j').bind dumpAmount?).getD 0
  if text.length < skip then return ← reject 1 "cannot skip past end of combined input".toList
  text := text.drop skip
  if let some n := (c.value? 'N').bind dumpAmount? then text := text.take n
  let d : Dump := ⟨formats, block, base, !c.has 'v', c.value? 'ε' = some "big".toList⟩
  print (unlinesOctets (d.blocks (text.length + 2) skip none false text))

/-- An alphabet for groups of octets: its letters, how many octets make a group, and how many letters. -/
structure Lettering where
  alphabet : List Char
  octets : Nat
  letters : Nat

def upperLetters : List Char := "ABCDEFGHIJKLMNOPQRSTUVWXYZ".toList

def base64 : Lettering := ⟨upperLetters ++ "abcdefghijklmnopqrstuvwxyz0123456789+/".toList, 3, 4⟩

def base32 : Lettering := ⟨upperLetters ++ "234567".toList, 5, 8⟩

namespace Lettering

def bits (l : Lettering) : Nat := 8 * l.octets / l.letters

def encodeGroup (l : Lettering) (cs : Octets) : Octets :=
  let n := (cs ++ List.replicate (l.octets - cs.length) (Char.ofNat 0)).foldl (fun v c => v * 256 + c.toNat) 0
  let used := (8 * cs.length + l.bits - 1) / l.bits
  (List.range l.letters).map fun i =>
    if i < used then (l.alphabet[n / twoTo (l.bits * (l.letters - 1 - i)) % twoTo l.bits]?).getD '=' else '='

def encode (l : Lettering) (cs : Octets) : Octets :=
  let rec go : Nat → Octets → List Octets
    | 0, _ => []
    | _ + 1, [] => []
    | fuel + 1, cs => l.encodeGroup (cs.take l.octets) :: go fuel (cs.drop l.octets)
  (go (cs.length + 1) cs).flatten

def decodeGroup (l : Lettering) (cs : Octets) : Octets × Bool :=
  let known := cs.takeWhile l.alphabet.contains
  let value := known.foldl (fun v c => v * twoTo l.bits + (l.alphabet.idxOf? c).getD 0) 0
  let whole := known.length * l.bits / 8
  let n := value / twoTo (known.length * l.bits - 8 * whole)
  let octets := (List.range whole).map fun i => Char.ofNat (n / twoTo (8 * (whole - 1 - i)) % 256)
  let needed := if whole = 0 then 0 else (8 * whole + l.bits - 1) / l.bits
  let padded := cs.length = l.letters && (cs.drop known.length).all (· = '=') && needed = known.length && whole ≠ 0
  (octets, padded)

def decode (l : Lettering) : Nat → Octets → List Octets × Bool
  | 0, _ => ([], true)
  | _ + 1, [] => ([], true)
  | fuel + 1, cs =>
    let (octets, good) := l.decodeGroup (cs.take l.letters)
    if good then
      let (more, fine) := decode l fuel (cs.drop l.letters)
      (octets :: more, fine)
    else ([octets], false)

end Lettering

def wrapped (width : Nat) (cs : Octets) : Octets :=
  if width = 0 then cs
  else
    let rec go : Nat → Octets → List Octets
      | 0, _ => []
      | _ + 1, [] => []
      | fuel + 1, cs => (cs.take width ++ ['\n']) :: go fuel (cs.drop width)
    (go (cs.length + 1) cs).flatten

def lettered (l : Lettering) : Act Unit :=
    withOptions 1 "di" "w" [("decode", 'd'), ("ignore-garbage", 'i'), ("wrap", 'w')] fun c => do
  let width := (c.value? 'w').getD "76".toList
  if (amount? width).isNone then return ← reject 1 ("invalid wrap size: ".toList ++ (← cited width))
  if let some extra := c.operands[1]? then return ← misuse 1 ("extra operand ".toList ++ (← cited extra))
  let file := c.operands.headD ['-']
  match ← fetch file with
  | .error .eisdir => reject 1 "read error: Is a directory".toList
  | .error e => reject 1 (fileFault file e)
  | .ok text =>
    if !c.has 'd' then print (wrapped ((amount? width).getD 0) (l.encode text))
    else
      let text := text.filter fun x => x ≠ '\n' && (!c.has 'i' || x = '=' || l.alphabet.contains x)
      let (parts, fine) := l.decode (text.length + 1) text
      print parts.flatten
      if !fine then reject 1 "invalid input".toList

end PassDelta.Machine.Utility
