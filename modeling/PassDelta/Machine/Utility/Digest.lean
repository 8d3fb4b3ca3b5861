import PassDelta.Machine.Utility.Line
/-!
# Digests

Short numbers that tell whether files are the same: sums, remainders, and digests of blocks of words.
-/

namespace PassDelta.Machine

namespace Digest

/-- A message as blocks: a bit that is set, zeros, and the count of its bits with the greatest octet first or last. -/
def padded (block field : Nat) (greatFirst : Bool) (message : Bytes) : Array UInt8 :=
  let size := message.length
  let zeros := (2 * block - (size + 1 + field) % block) % block
  let count := (List.range field).map fun i => UInt8.ofNat (8 * size / Nat.pow 256 i % 256)
  (message ++ [0x80] ++ List.replicate zeros 0 ++ (if greatFirst then count.reverse else count)).toArray

def word32 (a : Array UInt8) (at_ : Nat) (greatFirst : Bool) : UInt32 :=
  let o (i : Nat) : UInt32 := (a.getD (at_ + i) 0).toUInt32
  if greatFirst then o 0 <<< 24 ||| o 1 <<< 16 ||| o 2 <<< 8 ||| o 3
  else o 3 <<< 24 ||| o 2 <<< 16 ||| o 1 <<< 8 ||| o 0

def word64 (a : Array UInt8) (at_ : Nat) : UInt64 :=
  (List.range 8).foldl (fun v i => v <<< 8 ||| (a.getD (at_ + i) 0).toUInt64) 0

def left32 (x : UInt32) (n : UInt32) : UInt32 := x <<< n ||| x >>> (32 - n)

def right64 (x : UInt64) (n : UInt64) : UInt64 := x >>> n ||| x <<< (64 - n)

def hexDigits (octets n : Nat) : Octets :=
  let ds := Nat.toDigits 16 n
  List.replicate (2 * octets - ds.length) '0' ++ ds

def rootBits (degree bits p : Nat) : Nat :=
  let target := p * twoTo (degree * bits)
  let rec search : Nat → Nat → Nat → Nat
    | 0, low, _ => low
    | fuel + 1, low, high =>
      if high ≤ low + 1 then low
      else
        let middle := (low + high) / 2
        if middle.pow degree ≤ target then search fuel middle high else search fuel low middle
  search (bits + 16) 0 (p * twoTo bits + 1) % twoTo bits

def isPrime (n : Nat) : Bool := 2 ≤ n && (List.range n).all fun d => d < 2 || n % d ≠ 0

def primes (count : Nat) : List Nat := ((List.range 410).filter isPrime).take count

/-- The words that the rounds of the digest with four words add: the sines of whole numbers. -/
def sineWords : Array UInt32 := #[
  0xd76aa478, 0xe8c7b756, 0x242070db, 0xc1bdceee, 0xf57c0faf, 0x4787c62a, 0xa8304613, 0xfd469501,
  0x698098d8, 0x8b44f7af, 0xffff5bb1, 0x895cd7be, 0x6b901122, 0xfd987193, 0xa679438e, 0x49b40821,
  0xf61e2562, 0xc040b340, 0x265e5a51, 0xe9b6c7aa, 0xd62f105d, 0x02441453, 0xd8a1e681, 0xe7d3fbc8,
  0x21e1cde6, 0xc33707d6, 0xf4d50d87, 0x455a14ed, 0xa9e3e905, 0xfcefa3f8, 0x676f02d9, 0x8d2a4c8a,
  0xfffa3942, 0x8771f681, 0x6d9d6122, 0xfde5380c, 0xa4beea44, 0x4bdecfa9, 0xf6bb4b60, 0xbebfbc70,
  0x289b7ec6, 0xeaa127fa, 0xd4ef3085, 0x04881d05, 0xd9d4d039, 0xe6db99e5, 0x1fa27cf8, 0xc4ac5665,
  0xf4292244, 0x432aff97, 0xab9423a7, 0xfc93a039, 0x655b59c3, 0x8f0ccc92, 0xffeff47d, 0x85845dd1,
  0x6fa87e4f, 0xfe2ce6e0, 0xa3014314, 0x4e0811a1, 0xf7537e82, 0xbd3af235, 0x2ad7d2bb, 0xeb86d391]

def md5 (message : Bytes) : Octets :=
  let data := padded 64 8 false message
  let turns : Array UInt32 := #[7, 12, 17, 22, 5, 9, 14, 20, 4, 11, 16, 23, 6, 10, 15, 21]
  let block (s : UInt32 × UInt32 × UInt32 × UInt32) (at_ : Nat) : UInt32 × UInt32 × UInt32 × UInt32 :=
    let (a, b, c, d) := (List.range 64).foldl (fun (a, b, c, d) i =>
      let (f, g) : UInt32 × Nat :=
        if i < 16 then (b &&& c ||| ~~~b &&& d, i)
        else if i < 32 then (d &&& b ||| ~~~d &&& c, (5 * i + 1) % 16)
        else if i < 48 then (b ^^^ c ^^^ d, (3 * i + 5) % 16)
        else (c ^^^ (b ||| ~~~d), 7 * i % 16)
      let x := a + f + sineWords.getD i 0 + word32 data (at_ + 4 * g) false
      (d, b + left32 x (turns.getD (i / 16 * 4 + i % 4) 0), b, c)) s
    (s.1 + a, s.2.1 + b, s.2.2.1 + c, s.2.2.2 + d)
  let (a, b, c, d) := (List.range (data.size / 64)).foldl (fun s i => block s (64 * i))
    (0x67452301, 0xefcdab89, 0x98badcfe, 0x10325476)
  [a, b, c, d].flatMap fun x => (List.range 4).flatMap fun i => hexDigits 1 (x.toNat / Nat.pow 256 i % 256)

def sha1 (message : Bytes) : Octets :=
  let data := padded 64 8 true message
  let block (s : UInt32 × UInt32 × UInt32 × UInt32 × UInt32) (at_ : Nat) : UInt32 × UInt32 × UInt32 × UInt32 × UInt32 :=
    let words := (List.range 64).foldl (fun (w : Array UInt32) _ =>
      let n := w.size
      w.push (left32 (w.getD (n - 3) 0 ^^^ w.getD (n - 8) 0 ^^^ w.getD (n - 14) 0 ^^^ w.getD (n - 16) 0) 1))
      (((List.range 16).map fun i => word32 data (at_ + 4 * i) true).toArray)
    let (a, b, c, d, e) := (List.range 80).foldl (fun (a, b, c, d, e) i =>
      let (f, k) : UInt32 × UInt32 :=
        if i < 20 then (b &&& c ||| ~~~b &&& d, 0x5a827999)
        else if i < 40 then (b ^^^ c ^^^ d, 0x6ed9eba1)
        else if i < 60 then (b &&& c ||| b &&& d ||| c &&& d, 0x8f1bbcdc)
        else (b ^^^ c ^^^ d, 0xca62c1d6)
      (left32 a 5 + f + e + k + words.getD i 0, a, left32 b 30, c, d)) s
    (s.1 + a, s.2.1 + b, s.2.2.1 + c, s.2.2.2.1 + d, s.2.2.2.2 + e)
  let (a, b, c, d, e) := (List.range (data.size / 64)).foldl (fun s i => block s (64 * i))
    (0x67452301, 0xefcdab89, 0x98badcfe, 0x10325476, 0xc3d2e1f0)
  [a, b, c, d, e].flatMap fun x => hexDigits 4 x.toNat

def sha2Short (start : List Nat) (words : Nat) (message : Bytes) : Octets :=
  let data := padded 64 8 true message
  let right (x : UInt32) (n : UInt32) : UInt32 := left32 x (32 - n)
  let rounds := ((primes 64).map fun p => UInt32.ofNat (rootBits 3 32 p)).toArray
  let block (s : Array UInt32) (at_ : Nat) : Array UInt32 :=
    let w := (List.range 48).foldl (fun (w : Array UInt32) _ =>
      let n := w.size
      let (x, y) := (w.getD (n - 15) 0, w.getD (n - 2) 0)
      let s0 := right x 7 ^^^ right x 18 ^^^ x >>> 3
      let s1 := right y 17 ^^^ right y 19 ^^^ y >>> 10
      w.push (w.getD (n - 16) 0 + s0 + w.getD (n - 7) 0 + s1))
      (((List.range 16).map fun i => word32 data (at_ + 4 * i) true).toArray)
    let t := (List.range 64).foldl (fun (t : Array UInt32) i =>
      let x (j : Nat) : UInt32 := t.getD j 0
      let s1 := right (x 4) 6 ^^^ right (x 4) 11 ^^^ right (x 4) 25
      let choice := (x 4 &&& x 5) ^^^ (~~~(x 4) &&& x 6)
      let t1 := x 7 + s1 + choice + rounds.getD i 0 + w.getD i 0
      let s0 := right (x 0) 2 ^^^ right (x 0) 13 ^^^ right (x 0) 22
      let most := (x 0 &&& x 1) ^^^ (x 0 &&& x 2) ^^^ (x 1 &&& x 2)
      #[t1 + s0 + most, x 0, x 1, x 2, x 3 + t1, x 4, x 5, x 6]) s
    ((List.range 8).map fun i => s.getD i 0 + t.getD i 0).toArray
  let s := (List.range (data.size / 64)).foldl (fun s i => block s (64 * i)) (start.map UInt32.ofNat).toArray
  (s.toList.take words).flatMap fun x => hexDigits 4 x.toNat

def sha2Long (start : List Nat) (words : Nat) (message : Bytes) : Octets :=
  let data := padded 128 16 true message
  let rounds := ((primes 80).map fun p => UInt64.ofNat (rootBits 3 64 p)).toArray
  let block (s : Array UInt64) (at_ : Nat) : Array UInt64 :=
    let w := (List.range 64).foldl (fun (w : Array UInt64) _ =>
      let n := w.size
      let (x, y) := (w.getD (n - 15) 0, w.getD (n - 2) 0)
      let s0 := right64 x 1 ^^^ right64 x 8 ^^^ x >>> 7
      let s1 := right64 y 19 ^^^ right64 y 61 ^^^ y >>> 6
      w.push (w.getD (n - 16) 0 + s0 + w.getD (n - 7) 0 + s1))
      (((List.range 16).map fun i => word64 data (at_ + 8 * i)).toArray)
    let t := (List.range 80).foldl (fun (t : Array UInt64) i =>
      let x (j : Nat) : UInt64 := t.getD j 0
      let s1 := right64 (x 4) 14 ^^^ right64 (x 4) 18 ^^^ right64 (x 4) 41
      let choice := (x 4 &&& x 5) ^^^ (~~~(x 4) &&& x 6)
      let t1 := x 7 + s1 + choice + rounds.getD i 0 + w.getD i 0
      let s0 := right64 (x 0) 28 ^^^ right64 (x 0) 34 ^^^ right64 (x 0) 39
      let most := (x 0 &&& x 1) ^^^ (x 0 &&& x 2) ^^^ (x 1 &&& x 2)
      #[t1 + s0 + most, x 0, x 1, x 2, x 3 + t1, x 4, x 5, x 6]) s
    ((List.range 8).map fun i => s.getD i 0 + t.getD i 0).toArray
  let s := (List.range (data.size / 128)).foldl (fun s i => block s (128 * i)) (start.map UInt64.ofNat).toArray
  (s.toList.take words).flatMap fun x => hexDigits 8 x.toNat

def sha256 : Bytes → Octets := sha2Short ((primes 8).map (rootBits 2 32)) 8

def sha224 : Bytes → Octets := sha2Short (((primes 16).drop 8).map fun p => rootBits 2 64 p % twoTo 32) 7

def sha512 : Bytes → Octets := sha2Long ((primes 8).map (rootBits 2 64)) 8

def sha384 : Bytes → Octets := sha2Long (((primes 16).drop 8).map (rootBits 2 64)) 6

/-- The remainder of a message and its length as polynomials, with all bits changed. -/
def crc (message : Bytes) : Nat :=
  let rec lengthOctets : Nat → Nat → Bytes
    | 0, _ => []
    | fuel + 1, n => if n = 0 then [] else UInt8.ofNat (n % 256) :: lengthOctets fuel (n / 256)
  let step (r : UInt32) (b : UInt8) : UInt32 :=
    (List.range 8).foldl (fun r _ => if r &&& 0x80000000 ≠ 0 then r <<< 1 ^^^ 0x04c11db7 else r <<< 1)
      (r ^^^ b.toUInt32 <<< 24)
  (~~~((message ++ lengthOctets 9 message.length).foldl step 0)).toNat

def turnedSum (message : Bytes) : Nat :=
  message.foldl (fun n b => (n / 2 + n % 2 * 32768 + b.toNat) % 65536) 0

def plainSum (message : Bytes) : Nat :=
  let s := message.foldl (fun n b => n + b.toNat) 0 % twoTo 32
  let r := s % 65536 + s / 65536
  r % 65536 + r / 65536

end Digest

namespace Utility

open Act

/-- A kind of digest: its name in tagged lines, its function, and how many digits it has. -/
structure DigestKind where
  tag : String
  digits : Nat
  digest : Bytes → Octets

def digestKinds : List (String × DigestKind) := [
  ("md5", ⟨"MD5", 32, Digest.md5⟩), ("sha1", ⟨"SHA1", 40, Digest.sha1⟩), ("sha224", ⟨"SHA224", 56, Digest.sha224⟩),
  ("sha256", ⟨"SHA256", 64, Digest.sha256⟩), ("sha384", ⟨"SHA384", 96, Digest.sha384⟩),
  ("sha512", ⟨"SHA512", 128, Digest.sha512⟩)]

/-- A name as it stands in a line of a list of digests, and whether it had to be changed. -/
def listedName (name : Octets) : Octets × Bool :=
  let special (c : Char) : Bool := c = '\\' || c = '\n' || c = '\r'
  (name.flatMap fun c => if c = '\\' then ['\\', '\\'] else if c = '\n' then ['\\', 'n'] else if c = '\r' then ['\\', 'r'] else [c],
    name.any special)

def unlistedName : Octets → Octets
  | '\\' :: 'n' :: rest => '\n' :: unlistedName rest
  | '\\' :: 'r' :: rest => '\r' :: unlistedName rest
  | '\\' :: '\\' :: rest => '\\' :: unlistedName rest
  | c :: rest => c :: unlistedName rest
  | [] => []

def listedDigest? (k : DigestKind) (line : Octets) : Option (Octets × Octets) :=
  let isDigest (ds : Octets) : Bool := ds.length = k.digits && ds.all fun c => (digitValue? c).isSome
  let (body, escaped) := match line with
    | '\\' :: rest => (rest, true)
    | rest => (rest, false)
  let front := k.tag.toList ++ " (".toList
  let name (cs : Octets) : Octets := if escaped then unlistedName cs else cs
  if front.isPrefixOf body then
    let rest := body.drop front.length
    let ds := rest.drop (rest.length - k.digits)
    let before := rest.take (rest.length - k.digits)
    if isDigest ds ∧ ") = ".toList.isSuffixOf before then some (ds, name (before.take (before.length - 4))) else none
  else
    let ds := body.take k.digits
    match body.drop k.digits with
    | ' ' :: c :: file =>
      if isDigest ds ∧ !file.isEmpty ∧ (c = ' ' ∨ c = '*') then some (ds, name file) else none
    | _ => none

def digestLong : List (String × Char) := [("binary", 'b'), ("check", 'c'), ("text", 't'), ("zero", 'z'), ("tag", 'τ'),
  ("ignore-missing", 'ι'), ("quiet", 'κ'), ("status", 'σ'), ("strict", 'ς'), ("warn", 'w')]

def checkDigests (k : DigestKind) (c : Chosen) (file : Octets) : Act Unit := do
  let title : Octets := if file = ['-'] then quoted "standard input".toList else shown file
  match ← fetch file with
  | .error e => reject 1 (fileFault file e)
  | .ok text =>
    let mut good := 0
    let mut bad := 0
    let mut differing := 0
    let mut unread := 0
    for (line, i) in (plainLines text).zipIdx 1 do
      if line.head? ≠ some '#' then
        match listedDigest? k line with
        | none =>
          bad := bad + 1
          if c.has 'w' then
            grumble (title ++ ": ".toList ++ digitsOf i ++ (": improperly formatted " ++ k.tag ++ " checksum line").toList)
        | some (ds, name) =>
          good := good + 1
          match ← fetch name with
          | .error e =>
            if !(c.has 'ι' ∧ e = .enoent) then
              grumble (fileFault name e)
              unread := unread + 1
              if !c.has 'σ' then print ((listedName name).1 ++ ": FAILED open or read\n".toList)
          | .ok contents =>
            let same := k.digest (bytesOf contents) = ds.map Char.toLower
            if !same then differing := differing + 1
            if !c.has 'σ' ∧ !(same ∧ c.has 'κ') then
              print ((listedName name).1 ++ (if same then ": OK\n" else ": FAILED\n").toList)
    if good = 0 then reject 1 (title ++ ": no properly formatted checksum lines found".toList)
    else
      let warn (n : Nat) (one many : String) : Act Unit := do
        if n ≠ 0 ∧ !c.has 'σ' then
          grumble ("WARNING: ".toList ++ digitsOf n ++ (if n = 1 then one else many).toList)
      warn bad " line is improperly formatted" " lines are improperly formatted"
      warn unread " listed file could not be read" " listed files could not be read"
      warn differing " computed checksum did NOT match" " computed checksums did NOT match"
      if differing ≠ 0 ∨ unread ≠ 0 ∨ (bad ≠ 0 ∧ c.has 'ς') then fail 1

def digestFiles (k : DigestKind) (tagged : Bool) (c : Chosen) : Act Unit := do
  if c.has 'c' then
    for file in filesOf c do checkDigests k c file
  else
    for file in filesOf c do
      if let some text ← fetchOr 1 shown file then
        let (name, changed) := if c.has 'z' then (file, false) else listedName file
        let digest := k.digest (bytesOf text)
        let line := if tagged ∨ c.has 'τ' then k.tag.toList ++ " (".toList ++ name ++ ") = ".toList ++ digest
          else digest ++ [' ', if c.has 'b' then '*' else ' '] ++ name
        print ((if changed then ['\\'] else []) ++ line ++ [endMark c])

def digestProgram (kind : String) : Act Unit := withOptions 1 "bctzwτικσς" "" digestLong fun c => do
  if let some k := digestKinds.lookup kind then digestFiles k false c

def cksum : Act Unit := withOptions 1 "ctzbwτικσςυ" "a" (("algorithm", 'a') :: ("untagged", 'υ') :: digestLong) fun c => do
  match (c.value? 'a').map String.ofList with
  | none =>
    for file in filesOf c do
      if let some text ← fetchOr 1 shown file then
        let name := if c.operands.isEmpty then [] else ' ' :: file
        print (digitsOf (Digest.crc (bytesOf text)) ++ [' '] ++ digitsOf text.length ++ name ++ ['\n'])
  | some kind =>
    match digestKinds.lookup kind with
    | some k => digestFiles k (!c.has 'υ') c
    | none => misuse 1 ("invalid argument ".toList ++ (← cited kind.toList) ++ " for ".toList ++ (← cited "--algorithm".toList))

def sum : Act Unit := withOptions 1 "rs" "" [("sysv", 's')] fun c => do
  for file in filesOf c do
    if let some text ← fetchOr 1 shown file then
      let bytes := bytesOf text
      let name := if c.operands.isEmpty then [] else ' ' :: file
      if c.has 's' then
        print (digitsOf (Digest.plainSum bytes) ++ [' '] ++ digitsOf ((text.length + 511) / 512) ++ name ++ ['\n'])
      else
        print (leftFill 5 '0' (digitsOf (Digest.turnedSum bytes)) ++ [' '] ++
          leftFill 5 ' ' (digitsOf ((text.length + 1023) / 1024)) ++ name ++ ['\n'])

end Utility
end PassDelta.Machine
