/-!
# UTF-8 text and raw bytes

Compiler output and file names are bytes; reports are text. A byte string splits into pieces, each
either one character or one maximal run of bytes that begins no character. Replacing every such run by
U+FFFD gives the lossy text; a byte string without such runs is text exactly.
-/

namespace PassDelta

abbrev Bytes := List UInt8

namespace Text

/-- One character, or a maximal run of bytes that starts like a character and breaks off. -/
inductive Piece where
  | scalar (c : Char)
  | invalid (bytes : Bytes)
  deriving DecidableEq, Repr

/-- A character under way: the bytes seen (latest first), the bits so far, how many bytes are still
missing, and the range the next one must lie in. -/
structure Partial where
  seen : Bytes
  value : Nat
  missing : Nat
  low : UInt8
  high : UInt8
  deriving Repr

inductive Lead where
  | whole (c : Char)
  | first (p : Partial)
  | bad
  deriving Repr

/-- What a byte begins. The narrowed second-byte ranges after E0, ED, F0 and F4 exclude overlong forms,
surrogates and values above U+10FFFF. -/
def lead (b : UInt8) : Lead :=
  if b < 0x80 then .whole (Char.ofNat b.toNat)
  else if b < 0xC2 then .bad
  else if b < 0xE0 then .first ⟨[b], b.toNat - 0xC0, 1, 0x80, 0xBF⟩
  else if b = 0xE0 then .first ⟨[b], 0, 2, 0xA0, 0xBF⟩
  else if b = 0xED then .first ⟨[b], 0xD, 2, 0x80, 0x9F⟩
  else if b < 0xF0 then .first ⟨[b], b.toNat - 0xE0, 2, 0x80, 0xBF⟩
  else if b = 0xF0 then .first ⟨[b], 0, 3, 0x90, 0xBF⟩
  else if b < 0xF4 then .first ⟨[b], b.toNat - 0xF0, 3, 0x80, 0xBF⟩
  else if b = 0xF4 then .first ⟨[b], 4, 3, 0x80, 0x8F⟩
  else .bad

/-- The splitter between two bytes: the pieces finished so far, latest first, and a character under way. -/
structure Splitter where
  done : List Piece
  open? : Option Partial
  deriving Repr

def Splitter.start : Splitter := ⟨[], none⟩

def Splitter.begin (done : List Piece) (b : UInt8) : Splitter :=
  match lead b with
  | .whole c => ⟨.scalar c :: done, none⟩
  | .first p => ⟨done, some p⟩
  | .bad => ⟨.invalid [b] :: done, none⟩

def Partial.extend (p : Partial) (b : UInt8) : Partial :=
  ⟨b :: p.seen, p.value * 64 + (b.toNat - 0x80), p.missing - 1, 0x80, 0xBF⟩

/-- A byte outside the awaited range ends the run before it and is looked at afresh. -/
def Splitter.step (s : Splitter) (b : UInt8) : Splitter :=
  match s.open? with
  | none => begin s.done b
  | some p =>
    if p.low ≤ b ∧ b ≤ p.high then
      let q := p.extend b
      if q.missing = 0 then ⟨.scalar (Char.ofNat q.value) :: s.done, none⟩ else ⟨s.done, some q⟩
    else begin (.invalid p.seen.reverse :: s.done) b

def Splitter.finish (s : Splitter) : List Piece :=
  match s.open? with
  | none => s.done.reverse
  | some p => (Piece.invalid p.seen.reverse :: s.done).reverse

def pieces (bytes : Bytes) : List Piece :=
  (bytes.foldl Splitter.step Splitter.start).finish

def replacement : Char := Char.ofNat 0xFFFD

def Piece.toChar : Piece → Char
  | .scalar c => c
  | .invalid _ => replacement

def Piece.toChar? : Piece → Option Char
  | .scalar c => some c
  | .invalid _ => none

def lossy (bytes : Bytes) : String := String.ofList ((pieces bytes).map Piece.toChar)

def decode? (bytes : Bytes) : Option String := ((pieces bytes).mapM Piece.toChar?).map String.ofList

def encode (s : String) : Bytes := s.toList.flatMap String.utf8EncodeChar

def byteLength (cs : List Char) : Nat := cs.foldr (fun c n => c.utf8Size + n) 0

end Text

end PassDelta
