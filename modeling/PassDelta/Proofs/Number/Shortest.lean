import PassDelta.Number.Shortest
import PassDelta.Proofs.Digits
import PassDelta.Proofs.Number.Bounds
/-!
# Bounds of short decimals

The shortest decimal of a double has no zero in front, unless it is zero altogether, and its first digit stands for no
higher power of ten than the double allows.
-/

namespace PassDelta

theorem tenTo_pos (n : Nat) : 0 < tenTo n := Nat.pow_pos (by decide)

theorem tenTo_add (m n : Nat) : tenTo (m + n) = tenTo m * tenTo n := Nat.pow_add 10 m n

theorem tenTo_le_tenTo {m n : Nat} (h : m ≤ n) : tenTo m ≤ tenTo n := Nat.pow_le_pow_right (by decide) h

def Decimal.top (d : Decimal) : Int := d.exponent + (decimals d.digits).length - 1

namespace Binary64

theorem digitCount_le {n k : Nat} (hk : 0 < k) (h : n < tenTo k) : digitCount n ≤ k :=
  (Nat.length_toDigits_le_iff (by decide) hk).2 h

theorem length_decimals (n : Nat) : (decimals n).length = digitCount n := List.length_map _

theorem digitCount_div {n : Nat} (h : 10 ≤ n) : digitCount n = digitCount (n / 10) + 1 := by
  simp [digitCount, Nat.toDigits_of_base_le (by decide : 1 < 10) h]

/-- Dropping zeros at the end leaves the first digit and its place. -/
theorem strip_keeps {digits : Nat} (h : 0 < digits) (fuel : Nat) (e : Int) :
    0 < (Decimal.strip fuel digits e).digits ∧ (Decimal.strip fuel digits e).top = Decimal.top ⟨digits, e⟩ := by
  induction fuel generalizing digits e with
  | zero => exact ⟨h, rfl⟩
  | succ fuel ih =>
    rw [Decimal.strip]
    split
    · have hten : 10 ≤ digits := by omega
      have hfewer : 0 < digits / 10 := by omega
      obtain ⟨hpos, htop⟩ := ih hfewer (e + 1)
      refine ⟨hpos, ?_⟩
      rw [htop, Decimal.top, Decimal.top, length_decimals, length_decimals, digitCount_div hten]
      push_cast
      omega
    · exact ⟨h, rfl⟩

variable {tieUp : Bool} {word : Nat}

def steps (word : Nat) (e : Int) : Nat × Nat :=
  if 0 ≤ e then (unitsOfWord word, one * tenTo e.toNat) else (unitsOfWord word * tenTo (-e).toNat, one)

/-- The last multiple of `10 ^ e` that is not above a magnitude, in these steps. -/
def gridFloor (word : Nat) (e : Int) : Nat := (steps word e).1 / (steps word e).2

/-- A neighbour of a magnitude reads back and is positive, and there is none only if no neighbour reads back. -/
theorem neighbour?_spec (tieUp : Bool) (word : Nat) (e : Int) :
    (∃ d, neighbour? tieUp word e = some d ∧ 0 < d ∧ d ≤ gridFloor word e + 1 ∧ readsBack word d e = true) ∨
      neighbour? tieUp word e = none ∧
        ¬ (0 < gridFloor word e ∧ readsBack word (gridFloor word e) e = true) ∧
        ¬ readsBack word (gridFloor word e + 1) e = true := by
  unfold gridFloor steps neighbour?
  generalize (if 0 ≤ e then (unitsOfWord word, one * tenTo e.toNat)
    else (unitsOfWord word * tenTo (-e).toNat, one)) = ratio
  obtain ⟨num, den⟩ := ratio
  dsimp only
  generalize num / den = below
  cases hbelow : decide (0 < below) && readsBack word below e <;>
    cases habove : readsBack word (below + 1) e <;>
    simp only [Bool.and_eq_true, Bool.and_eq_false_iff, decide_eq_true_eq, decide_eq_false_iff_not] at hbelow
  · refine .inr ⟨rfl, ?_, Bool.false_ne_true⟩
    rintro ⟨hpos, hreads⟩
    simp [hpos, hreads] at hbelow
  · exact .inl ⟨_, rfl, Nat.succ_pos _, Nat.le_refl _, habove⟩
  · exact .inl ⟨_, rfl, hbelow.1, Nat.le_succ _, hbelow.2⟩
  · refine .inl ⟨_, rfl, ?_⟩
    split
    · exact ⟨Nat.succ_pos _, Nat.le_refl _, habove⟩
    · exact ⟨hbelow.1, Nat.le_succ _, hbelow.2⟩

theorem neighbour?_eq_some {e : Int} {d : Nat} (h : neighbour? tieUp word e = some d) :
    0 < d ∧ d ≤ gridFloor word e + 1 ∧ readsBack word d e = true := by
  rcases neighbour?_spec tieUp word e with ⟨d', hd', hspec⟩ | ⟨hnone, -⟩
  · obtain rfl : d = d' := Option.some.inj (h.symm.trans hd')
    exact hspec
  · rw [hnone] at h
    cases h

-- Stated of the function, not of its value: with arguments in place the search would be computed to compare the two.
theorem shortest_eq : shortest = fun tieUp word =>
    have top := leadingExponent word
    have exponents := (List.range 17).map fun (n : Nat) => top - (n : Int)
    match exponents.findSome? fun e => (neighbour? tieUp word e).map fun d => (d, e) with
    | some (d, e) => Decimal.strip 20 d e
    | none => ⟨0, 0⟩ := rfl

/-- How the shortest decimal came about: nothing read back, or zeros were dropped from a neighbour of the value. -/
theorem shortest_cases (tieUp : Bool) (word : Nat) :
    (shortest tieUp word = ⟨0, 0⟩ ∧ ∀ n < 17, neighbour? tieUp word (leadingExponent word - (n : Nat)) = none) ∨
      ∃ n < 17, ∃ d, neighbour? tieUp word (leadingExponent word - (n : Nat)) = some d ∧
        shortest tieUp word = Decimal.strip 20 d (leadingExponent word - (n : Nat)) := by
  rw [shortest_eq]
  dsimp only
  generalize leadingExponent word = top
  generalize hfound : ((List.range 17).map fun (n : Nat) => top - (n : Int)).findSome? (fun e =>
    (neighbour? tieUp word e).map fun d => (d, e)) = found
  cases found with
  | none =>
    refine .inl ⟨rfl, fun n hn => ?_⟩
    have hnone := List.findSome?_eq_none_iff.1 hfound _ (List.mem_map_of_mem (List.mem_range.2 hn))
    exact Option.map_eq_none_iff.1 hnone
  | some found =>
    obtain ⟨e, hmem, hd⟩ := List.exists_of_findSome?_eq_some hfound
    obtain ⟨n, hn, rfl⟩ := List.mem_map.1 hmem
    obtain ⟨d, hd', rfl⟩ := Option.map_eq_some_iff.1 hd
    exact .inr ⟨n, List.mem_range.1 hn, d, hd', rfl⟩

/-- The first digit of the shortest decimal is not zero, unless it is the only one. -/
theorem head?_shortest (tieUp : Bool) (word : Nat) :
    (decimals (shortest tieUp word).digits).head? ≠ some 0 ∨ (shortest tieUp word).top ≤ 0 := by
  rcases shortest_cases tieUp word with ⟨hzero, -⟩ | ⟨n, -, d, hd, heq⟩
  · rw [hzero]
    exact .inr (by decide)
  · rw [heq]
    exact .inl (head?_decimals (strip_keeps (neighbour?_eq_some hd).1 20 _).1)

end Binary64
end PassDelta
