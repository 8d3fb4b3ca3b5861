import PassDelta.Path
import Mathlib.Algebra.Group.Nat.Defs
import Mathlib.Data.Nat.Basic
import Mathlib.Tactic.Common
/-!
# Texts and their bytes

The pieces of a byte string, put end to end, are the byte string, and the pieces of an encoded text are its
characters. So a byte string is text exactly if it is the encoding of a text, and it is the encoding of one only.
-/

namespace PassDelta
namespace Text

def tailCount (v : Nat) : Nat := if v < 0x80 then 0 else if v < 0x800 then 1 else if v < 0x10000 then 2 else 3

/-- What the first byte adds to the topmost bits of a character, by the number of bytes that follow. -/
def mark : Nat → Nat
  | 0 => 0
  | 1 => 0xC0
  | 2 => 0xE0
  | _ => 0xF0

def tail (v k : Nat) : UInt8 := UInt8.ofNat (0x80 + v / 64 ^ k % 64)

def tails (v : Nat) : Nat → Bytes
  | 0 => []
  | k + 1 => tail v k :: tails v k

theorem toNat_tail (v k : Nat) : (tail v k).toNat = 0x80 + v / 64 ^ k % 64 := by
  have : v / 64 ^ k % 64 < 64 := Nat.mod_lt _ (by decide)
  simp only [tail, UInt8.toNat_ofNat']
  omega

theorem utf8EncodeChar_eq (c : Char) :
    String.utf8EncodeChar c = UInt8.ofNat (mark (tailCount c.toNat) + c.toNat / 64 ^ tailCount c.toNat) ::
      tails c.toNat (tailCount c.toNat) := by
  have htop : c.toNat < 0x110000 := by
    have h : c.toNat.isValidChar := c.valid
    rcases h with h | h <;> omega
  unfold String.utf8EncodeChar
  simp only [Char.toNat_val, tailCount]
  split_ifs <;> first | omega | skip
  -- one goal for each number of bytes, and in it one equation of digits to base 64 for each byte
  all_goals simp only [mark, tails, tail, List.cons.injEq, and_true]
  · congr 1; omega
  · refine ⟨?_, ?_⟩ <;> congr 1 <;> omega
  · refine ⟨?_, ?_, ?_⟩ <;> congr 1 <;> omega
  · refine ⟨?_, ?_, ?_, ?_⟩ <;> congr 1 <;> omega

/-- A character begins with a byte that belongs to no other place in one. -/
theorem utf8EncodeChar_first (c : Char) :
    ∃ b more, String.utf8EncodeChar c = b :: more ∧ (b.toNat < 0x80 ∨ 0xC0 ≤ b.toNat) := by
  have htop : c.toNat < 0x110000 := by
    have h : c.toNat.isValidChar := c.valid
    rcases h with h | h <;> omega
  refine ⟨_, _, utf8EncodeChar_eq c, ?_⟩
  rw [UInt8.toNat_ofNat']
  unfold tailCount
  split_ifs <;> simp only [mark] <;> omega

/-- What is under way behind the first byte of a character: how many bytes are missing, the bits in that byte, and the
range of the byte that comes next. The range is narrowed where the whole one would spell a character in more bytes than
it needs, a surrogate, or no character. -/
inductive Opening : Nat → Nat → UInt8 → UInt8 → Prop
  | two {value : Nat} : 2 ≤ value → value < 0x20 → Opening 1 value 0x80 0xBF
  | leastThree : Opening 2 0 0xA0 0xBF
  | besideSurrogates : Opening 2 0xD 0x80 0x9F
  | three {value : Nat} : 1 ≤ value → value < 0x10 → value ≠ 0xD → Opening 2 value 0x80 0xBF
  | leastFour : Opening 3 0 0x90 0xBF
  | four {value : Nat} : 1 ≤ value → value < 4 → Opening 3 value 0x80 0xBF
  | lastFour : Opening 3 4 0x80 0x8F

inductive Begins (b : UInt8) : Lead → Prop
  | whole : b.toNat < 0x80 → Begins b (.whole (Char.ofNat b.toNat))
  | first {k value : Nat} {low high : UInt8} : Opening k value low high → b.toNat = mark k + value →
      Begins b (.first ⟨[b], value, k, low, high⟩)
  | bad : 0x80 ≤ b.toNat → b.toNat < 0xC2 ∨ 0xF4 < b.toNat → Begins b .bad

theorem lead_begins (b : UInt8) : Begins b (lead b) := by
  simp only [lead, UInt8.lt_iff_toNat_lt, ← UInt8.toNat_inj, UInt8.reduceToNat]
  by_cases h₁ : b.toNat < 0x80
  · rw [if_pos h₁]
    exact .whole h₁
  by_cases h₂ : b.toNat < 0xC2
  · rw [if_neg h₁, if_pos h₂]
    exact .bad (by omega) (.inl h₂)
  rw [if_neg h₁, if_neg h₂]
  by_cases h₃ : b.toNat < 0xE0
  · rw [if_pos h₃]
    exact .first (.two (by omega) (by omega)) (by rw [mark]; omega)
  rw [if_neg h₃]
  by_cases h₄ : b.toNat = 0xE0
  · rw [if_pos h₄]
    exact .first .leastThree h₄
  rw [if_neg h₄]
  by_cases h₅ : b.toNat = 0xED
  · rw [if_pos h₅]
    exact .first .besideSurrogates h₅
  rw [if_neg h₅]
  by_cases h₆ : b.toNat < 0xF0
  · rw [if_pos h₆]
    exact .first (.three (by omega) (by omega) (by omega)) (by rw [mark]; omega)
  rw [if_neg h₆]
  by_cases h₇ : b.toNat = 0xF0
  · rw [if_pos h₇]
    exact .first .leastFour h₇
  rw [if_neg h₇]
  by_cases h₈ : b.toNat < 0xF4
  · rw [if_pos h₈]
    exact .first (.four (by omega) (by omega)) (by simp only [mark]; omega)
  rw [if_neg h₈]
  by_cases h₉ : b.toNat = 0xF4
  · rw [if_pos h₉]
    exact .first .lastFour h₉
  · rw [if_neg h₉]
    exact .bad (by omega) (.inr (by omega))

theorem toNat_ofNat {v : Nat} (h : v.isValidChar) : (Char.ofNat v).toNat = v := by
  rw [Char.ofNat, dif_pos h]
  rfl

theorem utf8EncodeChar_ofNat {v k : Nat} {b : UInt8} (valid : v.isValidChar) (count : tailCount v = k)
    (hb : b.toNat = mark k + v / 64 ^ k) : String.utf8EncodeChar (Char.ofNat v) = b :: tails v k := by
  rw [utf8EncodeChar_eq, toNat_ofNat valid, count, ← hb, UInt8.ofNat_toNat]

theorem lead_whole {b : UInt8} {c : Char} (h : lead b = .whole c) : String.utf8EncodeChar c = [b] := by
  have begins := lead_begins b
  rw [h] at begins
  cases begins with
  | whole small =>
    have hcount : tailCount b.toNat = 0 := by rw [tailCount, if_pos small]
    exact utf8EncodeChar_ofNat (k := 0) (Or.inl (by omega)) hcount (by simp [mark])

def Piece.bytes : Piece → Bytes
  | .scalar c => String.utf8EncodeChar c
  | .invalid bytes => bytes

/-- The next byte of the character with a code is one that the character under way waits for. -/
def Partial.Awaits (p : Partial) (v : Nat) : Prop :=
  0 < p.missing ∧ v / 64 ^ p.missing = p.value ∧ p.low ≤ tail v (p.missing - 1) ∧ tail v (p.missing - 1) ≤ p.high

/-- What is under way becomes the character whose bytes are read. -/
structure Partial.Sound (p : Partial) : Prop where
  missing_pos : 0 < p.missing
  low : 0x80 ≤ p.low
  high : p.high ≤ 0xBF
  ends (v : Nat) : p.Awaits v →
    v.isValidChar ∧ String.utf8EncodeChar (Char.ofNat v) = p.seen.reverse ++ tails v p.missing

theorem Opening.range {k value : Nat} {low high : UInt8} (hopen : Opening k value low high) :
    0 < k ∧ 0x80 ≤ low ∧ high ≤ 0xBF := by
  cases hopen <;> decide

/-- How many bytes follow and the bits in the first byte can be told from this byte. -/
theorem Opening.unique {k value : Nat} {low high : UInt8} (hopen : Opening k value low high) {v : Nat}
    (htop : v < 0x110000) (h : mark (tailCount v) + v / 64 ^ tailCount v = mark k + value) :
    tailCount v = k ∧ v / 64 ^ k = value := by
  unfold tailCount at *
  cases hopen
  all_goals
    simp only [mark] at h
    split_ifs at h ⊢ <;> simp only at h <;> omega

/-- A code goes on as an opening asks exactly if it is that of a character with as many bytes. -/
theorem Opening.next_iff {k value : Nat} {low high : UInt8} (hopen : Opening k value low high) {v : Nat}
    (hvalue : v / 64 ^ k = value) :
    (low ≤ tail v (k - 1) ∧ tail v (k - 1) ≤ high) ↔ v.isValidChar ∧ tailCount v = k := by
  simp only [UInt8.le_iff_toNat_le, toNat_tail, Nat.isValidChar]
  -- what the bounds of each opening cut off is spelled in fewer bytes, a surrogate, or past the last code
  cases hopen
  all_goals
    simp only [UInt8.reduceToNat, tailCount]
    constructor
    all_goals
      intro h
      split_ifs at * <;> first | omega | exact h.2.elim

theorem lead_sound {b : UInt8} {p : Partial} (h : lead b = .first p) : p.Sound ∧ p.seen = [b] := by
  have begins := lead_begins b
  rw [h] at begins
  cases begins with
  | @first k value low high hopen hb =>
    obtain ⟨hpos, hlow, hhigh⟩ := hopen.range
    refine ⟨⟨hpos, hlow, hhigh, ?_⟩, rfl⟩
    rintro v ⟨-, hvalue, hnext⟩
    obtain ⟨valid, count⟩ := (hopen.next_iff hvalue).1 hnext
    have hvalue : v / 64 ^ k = value := hvalue
    exact ⟨valid, utf8EncodeChar_ofNat valid count (by rw [hvalue, hb])⟩

theorem lead_tail_none {c : Char} (h : tailCount c.toNat = 0) : lead (UInt8.ofNat c.toNat) = .whole c := by
  have small : c.toNat < 0x80 := by
    unfold tailCount at h
    split_ifs at h
    assumption
  have hb : (UInt8.ofNat c.toNat).toNat = c.toNat := by rw [UInt8.toNat_ofNat']; omega
  rw [lead, if_pos (by rw [UInt8.lt_iff_toNat_lt, hb]; exact small), hb, Char.ofNat_toNat]

/-- The first byte of a character of several bytes, by the bits in it. -/
theorem lead_tailCount {c : Char} (h : tailCount c.toNat ≠ 0) :
    ∃ p, lead (UInt8.ofNat (mark (tailCount c.toNat) + c.toNat / 64 ^ tailCount c.toNat)) = .first p ∧
      p.missing = tailCount c.toNat ∧ p.Awaits c.toNat := by
  have valid : c.toNat.isValidChar := c.valid
  have htop : c.toNat < 0x110000 := by rcases valid with h | h <;> omega
  generalize c.toNat = v at h valid htop
  obtain ⟨b, hb⟩ : ∃ b, b = UInt8.ofNat (mark (tailCount v) + v / 64 ^ tailCount v) := ⟨_, rfl⟩
  have hrange : mark (tailCount v) + v / 64 ^ tailCount v < 0xF5 ∧
      0xC2 ≤ mark (tailCount v) + v / 64 ^ tailCount v := by
    unfold tailCount at h ⊢
    split_ifs at h ⊢ <;> simp only [mark] <;> omega
  have hvalue : b.toNat = mark (tailCount v) + v / 64 ^ tailCount v := by
    rw [hb, UInt8.toNat_ofNat']
    exact Nat.mod_eq_of_lt (by omega)
  rw [← hb]
  have begins := lead_begins b
  generalize lead b = l at begins
  cases begins with
  | whole small => omega
  | bad _ hbad => omega
  | @first k value low high hopen hfirst =>
    obtain ⟨rfl, hbits⟩ := hopen.unique htop (hvalue.symm.trans hfirst)
    exact ⟨_, rfl, rfl, hopen.range.1, hbits, (hopen.next_iff hbits).2 ⟨valid, rfl⟩⟩

theorem Partial.Awaits.value_extend {p : Partial} {v : Nat} (awaits : p.Awaits v) :
    (p.extend (tail v (p.missing - 1))).value = v / 64 ^ (p.missing - 1) := by
  have hpos := awaits.1
  have hvalue : v / 64 ^ (p.missing - 1) / 64 = p.value := by
    rw [Nat.div_div_eq_div_mul, ← Nat.pow_succ, Nat.succ_eq_add_one, Nat.sub_add_cancel hpos, awaits.2.1]
  simp only [extend, toNat_tail]
  omega

theorem Partial.Awaits.extend {p : Partial} {v : Nat} (awaits : p.Awaits v) (hmore : p.missing ≠ 1) :
    (p.extend (tail v (p.missing - 1))).Awaits v := by
  have hpos := awaits.1
  refine ⟨by simp only [Partial.extend]; omega, awaits.value_extend.symm, ?_, ?_⟩
  all_goals
    simp only [Partial.extend, UInt8.le_iff_toNat_le, toNat_tail, UInt8.reduceToNat]
    omega

/-- A byte that was waited for belongs to the characters that the extended one can become. -/
theorem Partial.Sound.awaits_of_extend {p : Partial} (hp : p.Sound) {b : UInt8} (hlow : p.low ≤ b)
    (hhigh : b ≤ p.high) {v : Nat} (hv : v / 64 ^ (p.missing - 1) = (p.extend b).value) :
    p.Awaits v ∧ tail v (p.missing - 1) = b := by
  have hbits : 0x80 ≤ b.toNat ∧ b.toNat ≤ 0xBF :=
    ⟨UInt8.le_iff_toNat_le.1 (UInt8.le_trans hp.low hlow), UInt8.le_iff_toNat_le.1 (UInt8.le_trans hhigh hp.high)⟩
  have hvalue : v / 64 ^ (p.missing - 1) = p.value * 64 + (b.toNat - 0x80) := hv
  have htail : tail v (p.missing - 1) = b := by
    rw [← UInt8.toNat_inj, toNat_tail, hvalue]
    omega
  refine ⟨⟨hp.missing_pos, ?_, htail ▸ hlow, htail ▸ hhigh⟩, htail⟩
  have hmissing : p.missing = p.missing - 1 + 1 := (Nat.sub_add_cancel hp.missing_pos).symm
  rw [hmissing, Nat.pow_succ, ← Nat.div_div_eq_div_mul, hvalue]
  omega

theorem Partial.Sound.ends_extend {p : Partial} (hp : p.Sound) {b : UInt8} (hlow : p.low ≤ b)
    (hhigh : b ≤ p.high) {v : Nat} (hv : v / 64 ^ (p.missing - 1) = (p.extend b).value) :
    v.isValidChar ∧ String.utf8EncodeChar (Char.ofNat v) = (p.extend b).seen.reverse ++ tails v (p.missing - 1) := by
  obtain ⟨awaits, htail⟩ := hp.awaits_of_extend hlow hhigh hv
  obtain ⟨valid, ends⟩ := hp.ends v awaits
  have htails : tails v p.missing = b :: tails v (p.missing - 1) := by
    rw [show p.missing = p.missing - 1 + 1 by have := hp.missing_pos; omega, tails, Nat.add_sub_cancel, htail]
  exact ⟨valid, by rw [ends, htails, extend, List.reverse_cons, List.append_assoc, List.singleton_append]⟩

theorem Partial.Sound.extend {p : Partial} (hp : p.Sound) {b : UInt8} (hlow : p.low ≤ b) (hhigh : b ≤ p.high)
    (hmore : (p.extend b).missing ≠ 0) : (p.extend b).Sound where
  missing_pos := Nat.pos_of_ne_zero hmore
  low := UInt8.le_refl _
  high := UInt8.le_refl _
  ends _ awaits := hp.ends_extend hlow hhigh awaits.2.1

theorem Partial.Sound.complete {p : Partial} (hp : p.Sound) {b : UInt8} (hlow : p.low ≤ b) (hhigh : b ≤ p.high)
    (hlast : (p.extend b).missing = 0) :
    String.utf8EncodeChar (Char.ofNat (p.extend b).value) = p.seen.reverse ++ [b] := by
  have hlast : p.missing - 1 = 0 := hlast
  have ends := (hp.ends_extend hlow hhigh (v := (p.extend b).value) (by rw [hlast, Nat.pow_zero, Nat.div_one])).2
  rw [ends, hlast, tails, List.append_nil, Partial.extend, List.reverse_cons]

namespace Splitter

def read (s : Splitter) : Bytes :=
  s.done.reverse.flatMap Piece.bytes ++ (s.open?.elim [] fun p => p.seen.reverse)

def Sound (s : Splitter) : Prop := ∀ p ∈ s.open?, p.Sound

theorem read_begin (done : List Piece) (b : UInt8) :
    (begin done b).read = done.reverse.flatMap Piece.bytes ++ [b] := by
  unfold begin
  cases h : lead b with
  | whole c => simp [read, Piece.bytes, lead_whole h]
  | first p => simp [read, (lead_sound h).2]
  | bad => simp [read, Piece.bytes]

theorem sound_begin (done : List Piece) (b : UInt8) : (begin done b).Sound := by
  intro p hp
  unfold begin at hp
  cases h : lead b with
  | whole c => simp [h] at hp
  | first q =>
    obtain rfl : q = p := by simpa [h] using hp
    exact (lead_sound h).1
  | bad => simp [h] at hp

/-- One byte: nothing that was read before is lost. -/
theorem step_sound {s : Splitter} (h : s.Sound) (b : UInt8) :
    (s.step b).Sound ∧ (s.step b).read = s.read ++ [b] := by
  unfold step
  obtain ⟨done, _ | p⟩ := s
  · exact ⟨sound_begin done b, by rw [read_begin]; simp [read]⟩
  · have hp : p.Sound := h p rfl
    dsimp only
    split_ifs with awaited hlast
    · refine ⟨fun q hq => by simp at hq, ?_⟩
      simp [read, Piece.bytes, hp.complete awaited.1 awaited.2 hlast]
    · refine ⟨fun q hq => ?_, by simp [read, Partial.extend]⟩
      obtain rfl : p.extend b = q := by simpa using hq
      exact hp.extend awaited.1 awaited.2 hlast
    · exact ⟨sound_begin _ b, by rw [read_begin]; simp [read, Piece.bytes]⟩

theorem foldl_step_sound (bytes : Bytes) (s : Splitter) (h : s.Sound) :
    (bytes.foldl step s).Sound ∧ (bytes.foldl step s).read = s.read ++ bytes := by
  induction bytes generalizing s with
  | nil => exact ⟨h, by simp⟩
  | cons b rest ih =>
    obtain ⟨sound, hread⟩ := step_sound h b
    obtain ⟨sound', hread'⟩ := ih (s.step b) sound
    exact ⟨sound', by rw [List.foldl_cons, hread', hread, List.append_assoc, List.singleton_append]⟩

theorem flatMap_finish (s : Splitter) : s.finish.flatMap Piece.bytes = s.read := by
  obtain ⟨done, _ | p⟩ := s
  · simp [finish, read]
  · simp [finish, read, Piece.bytes]

theorem step_awaited (done : List Piece) {p : Partial} {v : Nat} (awaits : p.Awaits v) :
    step ⟨done, some p⟩ (tail v (p.missing - 1)) =
      if p.missing = 1 then ⟨.scalar (Char.ofNat v) :: done, none⟩
      else ⟨done, some (p.extend (tail v (p.missing - 1)))⟩ := by
  simp only [step, awaits.2.2, and_self, if_true]
  have hmissing : (p.extend (tail v (p.missing - 1))).missing = 0 ↔ p.missing = 1 := by
    have := awaits.1
    simp only [Partial.extend]
    omega
  simp only [hmissing]
  split_ifs with hlast
  · have := awaits.value_extend
    rw [this, hlast, Nat.sub_self, Nat.pow_zero, Nat.div_one]
  · rfl

/-- The bytes that a character under way waits for complete it. -/
theorem foldl_tails (done : List Piece) {v : Nat} (k : Nat) (p : Partial) (hk : p.missing = k + 1)
    (awaits : p.Awaits v) :
    (tails v (k + 1)).foldl step ⟨done, some p⟩ = ⟨.scalar (Char.ofNat v) :: done, none⟩ := by
  -- by the bytes behind the next one; that the same code is waited for carries over to the extended character
  induction k generalizing p with
  | zero =>
    have first := step_awaited done awaits
    rw [hk] at first
    exact first
  | succ k ih =>
    have first := step_awaited done awaits
    have next := awaits.extend (by omega)
    rw [hk, Nat.add_sub_cancel] at next
    rw [hk, if_neg (by omega), Nat.add_sub_cancel] at first
    rw [tails, List.foldl_cons, first]
    exact ih (p.extend (tail v (k + 1))) (by simp [Partial.extend, hk]) next

theorem foldl_utf8EncodeChar (done : List Piece) (c : Char) :
    (String.utf8EncodeChar c).foldl step ⟨done, none⟩ = ⟨.scalar c :: done, none⟩ := by
  rw [utf8EncodeChar_eq]
  cases hk : tailCount c.toNat with
  | zero =>
    rw [mark, Nat.pow_zero, Nat.div_one, Nat.zero_add, tails, List.foldl_cons, List.foldl_nil, step]
    simp only [begin, lead_tail_none hk]
  | succ k =>
    obtain ⟨p, first, hmissing, awaits⟩ := lead_tailCount (c := c) (by omega)
    rw [hk] at first hmissing
    have hstart : step ⟨done, none⟩ (UInt8.ofNat (mark (k + 1) + c.toNat / 64 ^ (k + 1))) = ⟨done, some p⟩ := by
      simp only [step, begin, first]
    rw [List.foldl_cons, hstart, foldl_tails done k p hmissing awaits, Char.ofNat_toNat]

theorem foldl_encode (cs : List Char) (done : List Piece) :
    (cs.flatMap String.utf8EncodeChar).foldl step ⟨done, none⟩ =
      ⟨(cs.map Piece.scalar).reverse ++ done, none⟩ := by
  induction cs generalizing done with
  | nil => rfl
  | cons c cs ih =>
    rw [List.flatMap_cons, List.foldl_append, foldl_utf8EncodeChar, ih]
    simp

/-- The first byte of a character ends what was under way before it. -/
theorem foldl_interrupt {p : Partial} (hp : p.Sound) (done : List Piece) (c : Char) (rest : Bytes) :
    (String.utf8EncodeChar c ++ rest).foldl step ⟨done, some p⟩ =
      (String.utf8EncodeChar c ++ rest).foldl step ⟨.invalid p.seen.reverse :: done, none⟩ := by
  obtain ⟨b, more, hchar, hb⟩ := utf8EncodeChar_first c
  have hlow : 0x80 ≤ p.low.toNat := UInt8.le_iff_toNat_le.1 hp.low
  have hhigh : p.high.toNat ≤ 0xBF := UInt8.le_iff_toNat_le.1 hp.high
  have hout : ¬(p.low ≤ b ∧ b ≤ p.high) := by
    simp only [UInt8.le_iff_toNat_le]
    omega
  have hstep : step ⟨done, some p⟩ b = step ⟨.invalid p.seen.reverse :: done, none⟩ b := by
    simp only [step, if_neg hout]
  rw [hchar, List.cons_append, List.foldl_cons, List.foldl_cons, hstep]

/-- A text adds its characters to the pieces of a splitter that goes on with it. -/
theorem finish_foldl_encode {s : Splitter} (hs : s.Sound) (cs : List Char) :
    ((cs.flatMap String.utf8EncodeChar).foldl step s).finish = s.finish ++ cs.map Piece.scalar := by
  obtain ⟨done, _ | p⟩ := s
  · rw [foldl_encode]
    simp [finish]
  · cases cs with
    | nil => simp
    | cons c cs =>
      rw [List.flatMap_cons, foldl_interrupt (hs p rfl), ← List.flatMap_cons, foldl_encode]
      simp [finish]

def count (s : Splitter) : Nat := s.done.length + s.open?.toList.length

theorem count_eq_length (s : Splitter) : s.count = s.finish.length := by
  obtain ⟨done, _ | p⟩ := s <;> simp [count, finish]

theorem count_begin (done : List Piece) (b : UInt8) : (begin done b).count = done.length + 1 := by
  unfold begin
  cases lead b <;> rfl

theorem count_step_le (s : Splitter) (b : UInt8) : (s.step b).count ≤ s.count + 1 := by
  unfold step
  obtain ⟨done, _ | p⟩ := s
  · rw [count_begin]
    rfl
  · dsimp only
    split_ifs
    · simp [count]
    · simp [count]
    · rw [count_begin]
      simp [count]

theorem count_foldl_le (bytes : Bytes) (s : Splitter) : (bytes.foldl step s).count ≤ s.count + bytes.length := by
  induction bytes generalizing s with
  | nil => exact Nat.le_refl _
  | cons b rest ih =>
    have hfirst := s.count_step_le b
    have hrest := ih (s.step b)
    rw [List.foldl_cons, List.length_cons]
    omega

end Splitter

/-- Nothing of a byte string is lost in its pieces. -/
theorem flatMap_pieces (bytes : Bytes) : (pieces bytes).flatMap Piece.bytes = bytes := by
  rw [pieces, Splitter.flatMap_finish, (Splitter.foldl_step_sound bytes .start (fun p hp => nomatch hp)).2]
  simp [Splitter.read, Splitter.start]

theorem pieces_encode (s : String) : pieces (encode s) = s.toList.map Piece.scalar := by
  simp [pieces, encode, Splitter.start, Splitter.foldl_encode, Splitter.finish]

/-- A text behind a byte string is no part of what that breaks off in, so it adds its characters to the pieces. -/
theorem pieces_append_encode (bytes : Bytes) (s : String) :
    pieces (bytes ++ encode s) = pieces bytes ++ s.toList.map Piece.scalar := by
  have hsound := (Splitter.foldl_step_sound bytes .start (fun p hp => nomatch hp)).1
  unfold pieces
  rw [List.foldl_append]
  generalize bytes.foldl Splitter.step .start = state at hsound
  rw [encode, Splitter.finish_foldl_encode hsound, Splitter.finish]

theorem length_pieces_le (bytes : Bytes) : (pieces bytes).length ≤ bytes.length := by
  have hcount := Splitter.count_foldl_le bytes .start
  rw [Splitter.count_eq_length] at hcount
  simpa [pieces, Splitter.count, Splitter.start] using hcount

theorem mapM_toChar?_scalar (cs : List Char) : (cs.map Piece.scalar).mapM Piece.toChar? = some cs := by
  induction cs with
  | nil => rfl
  | cons c cs ih => simp [Piece.toChar?, ih]

theorem eq_scalar_of_mapM_toChar? {ps : List Piece} {cs : List Char} (h : ps.mapM Piece.toChar? = some cs) :
    ps = cs.map Piece.scalar := by
  induction ps generalizing cs with
  | nil => simp_all
  | cons p ps ih =>
    cases p with
    | invalid bytes => simp [Piece.toChar?] at h
    | scalar c =>
      cases hrest : ps.mapM Piece.toChar? with
      | none => simp [Piece.toChar?, hrest] at h
      | some ds =>
        obtain rfl : c :: ds = cs := by simpa [Piece.toChar?, hrest] using h
        rw [ih hrest, List.map_cons]

/-- A byte string decodes to the text that it is the encoding of. -/
theorem decode?_eq_some {bytes : Bytes} {s : String} : decode? bytes = some s ↔ encode s = bytes := by
  constructor
  · intro h
    obtain ⟨cs, hcs, rfl⟩ := Option.map_eq_some_iff.1 h
    rw [← flatMap_pieces bytes, eq_scalar_of_mapM_toChar? hcs, encode, String.toList_ofList, List.flatMap_map]
    rfl
  · rintro rfl
    rw [decode?, pieces_encode, mapM_toChar?_scalar, Option.map_some, String.ofList_toList]

@[simp] theorem decode?_encode (s : String) : decode? (encode s) = some s := decode?_eq_some.2 rfl

@[simp] theorem lossy_encode (s : String) : lossy (encode s) = s := by
  have hchars (cs : List Char) : (cs.map Piece.scalar).map Piece.toChar = cs := by
    simp [Piece.toChar, Function.comp_def]
  rw [lossy, pieces_encode, hchars, String.ofList_toList]

end Text

theorem Path.text?_eq_some {p : Path} {s : String} : p.text? = some s ↔ Path.ofString s = p := by
  rw [text?, Text.decode?_eq_some, ofString]
  exact ⟨fun h => by rw [h], fun h => by rw [← h]⟩

theorem Path.display_of_text? {p : Path} {s : String} (h : p.text? = some s) : p.display = s := by
  rw [← Path.text?_eq_some.1 h, display, ofString, Text.lossy_encode]

end PassDelta
