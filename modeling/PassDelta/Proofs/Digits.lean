import Mathlib.Data.List.Basic
import Mathlib.Tactic.Common
/-!
# Decimal digits

The digits of a number as characters and as numbers. They make up the number again, and a positive number does not begin
with a zero.
-/

namespace PassDelta

theorem head?_toDigits {n : Nat} (h : 0 < n) : (Nat.toDigits 10 n).head? ≠ some '0' := by
  induction n using Nat.strongRecOn with
  | _ n ih =>
    by_cases hsmall : n < 10
    · rw [Nat.toDigits_of_lt_base hsmall]
      have all : ∀ d < 10, 0 < d → Nat.digitChar d ≠ '0' := by decide
      simpa using all n hsmall h
    · rw [Nat.toDigits_of_base_le (by decide) (Nat.not_lt.1 hsmall), List.head?_append_of_ne_nil _ Nat.toDigits_ne_nil]
      exact ih (n / 10) (by omega) (by omega)

theorem isDigit_of_mem {n : Nat} {c : Char} (h : c ∈ Nat.toDigits 10 n) : c.isDigit = true :=
  Nat.isDigit_of_mem_toDigits (by decide) (by decide) h

theorem takeWhile_append {p : Char → Bool} {cs rest : List Char} (hcs : ∀ c ∈ cs, p c = true)
    (hrest : ∀ c ∈ rest.head?, p c = false) :
    (cs ++ rest).takeWhile p = cs ∧ (cs ++ rest).dropWhile p = rest := by
  rw [List.takeWhile_append_of_pos hcs, List.dropWhile_append_of_pos hcs]
  cases rest with
  | nil => simp
  | cons c rest => simp [hrest c rfl]

def decimals (n : Nat) : List Nat := (Nat.toDigits 10 n).map fun c => c.toNat - 48

theorem digitChar_toNat_sub {c : Char} (h : c.isDigit = true) :
    Nat.digitChar (c.toNat - 48) = c ∧ c.toNat - 48 < 10 := by
  obtain ⟨hlow, hhigh⟩ : 48 ≤ c.toNat ∧ c.toNat ≤ 57 := Char.isDigit_iff_toNat.1 h
  have all : ∀ n < 58, 48 ≤ n → Nat.digitChar (n - 48) = Char.ofNat n := by decide
  exact ⟨by rw [all c.toNat (by omega) hlow, Char.ofNat_toNat], by omega⟩

theorem map_digitChar_decimals (n : Nat) : (decimals n).map Nat.digitChar = Nat.toDigits 10 n := by
  rw [decimals, List.map_map]
  exact (List.map_congr_left fun c hc => (digitChar_toNat_sub (isDigit_of_mem hc)).1).trans (List.map_id _)

theorem lt_ten_of_mem_decimals {n d : Nat} (h : d ∈ decimals n) : d < 10 := by
  obtain ⟨c, hc, rfl⟩ := List.mem_map.1 h
  exact (digitChar_toNat_sub (isDigit_of_mem hc)).2

theorem decimals_ne_nil (n : Nat) : decimals n ≠ [] := by simp [decimals]

theorem head?_decimals {n : Nat} (h : 0 < n) : (decimals n).head? ≠ some 0 := by
  intro hhead
  apply head?_toDigits h
  rw [← map_digitChar_decimals, List.head?_map, hhead]
  rfl

def ofDecimals (ds : List Nat) : Nat := ds.foldl (fun n d => n * 10 + d) 0

theorem ofDecimals_decimals (n : Nat) : ofDecimals (decimals n) = n := by
  have go (cs : List Char) (init : Nat) :
      (cs.map fun c => c.toNat - 48).foldl (fun n d => n * 10 + d) init = Nat.ofDigitChars 10 cs init := by
    induction cs generalizing init with
    | nil => rfl
    | cons c cs ih =>
      rw [List.map_cons, List.foldl_cons, ih, Nat.ofDigitChars_cons, Nat.mul_comm]
      rfl
  rw [ofDecimals, decimals, go, Nat.ofDigitChars_ten_toDigits]

end PassDelta
