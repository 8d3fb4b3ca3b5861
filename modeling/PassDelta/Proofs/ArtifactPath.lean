import Mathlib.Data.List.Basic
import PassDelta.Artifact
import PassDelta.Proofs.Utf8
/-!
# Artifact paths

An artifact path tells its stem and its mode: no two artifacts of one directory and extension share a path, however
the stems are spelled, and no two spellings of a path belong to different artifacts.
-/

namespace PassDelta

namespace Text

theorem toNat_tails (v k : Nat) : ∀ b ∈ tails v k, 0x80 ≤ b.toNat := by
  induction k with
  | zero => simp [tails]
  | succ k ih =>
    intro b hb
    rcases List.mem_cons.mp hb with rfl | hb
    · rw [toNat_tail]
      omega
    · exact ih b hb

/-- A byte below 0x80 stands for the character with its code and for nothing else. -/
theorem toNat_of_mem_utf8EncodeChar {c : Char} {b : UInt8} (hb : b ∈ String.utf8EncodeChar c)
    (small : b.toNat < 0x80) : c.toNat = b.toNat := by
  have htop : c.toNat < 0x110000 := by
    have h : c.toNat.isValidChar := c.valid
    rcases h with h | h <;> omega
  rw [utf8EncodeChar_eq] at hb
  rcases List.mem_cons.mp hb with rfl | hb
  · rw [UInt8.toNat_ofNat'] at small ⊢
    unfold tailCount at small ⊢
    split_ifs at small ⊢ <;> simp only [mark] at small ⊢ <;> omega
  · have := toNat_tails _ _ b hb
    omega

theorem slash_mem_encode {s : String} (h : Path.slash ∈ encode s) : '/' ∈ s.toList := by
  obtain ⟨c, hc, hb⟩ := List.mem_flatMap.mp h
  have hcode := toNat_of_mem_utf8EncodeChar hb (by decide)
  have : c = '/' := by
    rw [← Char.ofNat_toNat c, hcode]
    rfl
  exact this ▸ hc

/-- Replacing undecodable bytes makes no slash. -/
theorem slash_mem_of_lossy {bytes : Bytes} (h : '/' ∈ (lossy bytes).toList) : Path.slash ∈ bytes := by
  rw [lossy, String.toList_ofList] at h
  obtain ⟨p, hp, hchar⟩ := List.mem_map.mp h
  cases p with
  | invalid run =>
    have hne : replacement ≠ '/' := by decide
    exact absurd hchar hne
  | scalar c =>
    obtain rfl : c = '/' := hchar
    rw [← flatMap_pieces bytes]
    exact List.mem_flatMap.mpr ⟨_, hp, by decide⟩

theorem encode_append (s t : String) : encode (s ++ t) = encode s ++ encode t := by
  simp [encode]

theorem encode_injective {s t : String} (h : encode s = encode t) : s = t := by
  have hs := decode?_encode s
  rw [h, decode?_encode] at hs
  exact (Option.some.inj hs).symm

end Text

namespace Path

theorem not_mem_of_mem_splitOn {a : UInt8} {xs part : Bytes} (h : part ∈ xs.splitOn a) : a ∉ part := by
  induction xs generalizing part with
  | nil =>
    rw [List.splitOn_nil, List.mem_singleton] at h
    simp [h]
  | cons x xs ih =>
    rw [List.splitOn_cons_eq_if_modifyHead] at h
    split at h
    · rcases List.mem_cons.mp h with rfl | h
      · simp
      · exact ih h
    · next hx =>
      cases hsplit : xs.splitOn a with
      | nil => simp [hsplit] at h
      | cons first more =>
        rw [hsplit] at ih
        rw [hsplit, List.modifyHead_cons] at h
        rcases List.mem_cons.mp h with rfl | h
        · have hfirst := ih (List.mem_cons_self (a := first))
          have hne : ¬ a = x := fun e => hx (by simp [e])
          simp [hne, hfirst]
        · exact ih (List.mem_cons_of_mem _ h)

/-- Bytes without slash in front belong to the first segment. -/
theorem splitOn_append {a : UInt8} {xs : Bytes} (h : a ∉ xs) (ys : Bytes) :
    (xs ++ ys).splitOn a = (ys.splitOn a).modifyHead (xs ++ ·) := by
  induction xs with
  | nil =>
    rw [List.nil_append]
    cases ys.splitOn a <;> rfl
  | cons x xs ih =>
    have hx : (x == a) = false := beq_false_of_ne fun e => h (by simp [e])
    rw [List.cons_append, List.splitOn_cons_eq_if_modifyHead, hx, ih fun hm => h (List.mem_cons_of_mem x hm)]
    cases ys.splitOn a <;> rfl

theorem mem_segments_of_mem_components {p : Path} {name : Bytes} (h : .name name ∈ p.components) :
    name ∈ p.segments := by
  have hinner : .name name ∈ p.segments.filterMap componentOf := by
    unfold components at h
    split_ifs at h <;> simpa using h
  obtain ⟨segment, hsegment, hname⟩ := List.mem_filterMap.mp hinner
  unfold componentOf at hname
  split_ifs at hname
  · simp at hname
  · obtain rfl := Component.name.inj (Option.some.inj hname)
    exact hsegment

theorem slash_not_mem_stemOfName {name : Bytes} (h : slash ∉ name) : slash ∉ stemOfName name := by
  intro hmem
  apply h
  unfold stemOfName at hmem
  split at hmem
  · exact hmem
  · have hrest := List.mem_of_mem_tail (List.mem_reverse.mp hmem)
    exact List.mem_reverse.mp ((List.dropWhile_sublist _).subset hrest)

/-- A stem is one component of a path. -/
theorem slash_not_mem_stem (m : Path) : '/' ∉ m.stem.toList := by
  unfold stem fileStem
  cases hname : m.fileName with
  | none => simp
  | some name =>
    have hlast : m.components.getLast? = some (.name name) := by
      unfold fileName at hname
      split at hname
      · next n hn =>
        obtain rfl := Option.some.inj hname
        exact hn
      · simp at hname
    have hsegment := mem_segments_of_mem_components (List.mem_of_getLast? hlast)
    exact fun hmem => slash_not_mem_stemOfName (not_mem_of_mem_splitOn hsegment) (Text.slash_mem_of_lossy hmem)

/-- Behind a path and a slash stand the components of what follows, whatever that is. -/
theorem components_append (r : Bytes) : ∃ front, ∀ bytes : Bytes,
    (Path.mk (r ++ slash :: bytes)).components = front ++ (Path.mk bytes).segments.filterMap componentOf := by
  have hsegments (bytes : Bytes) : (Path.mk (r ++ slash :: bytes)).segments =
      r.splitOn slash ++ (Path.mk bytes).segments := List.splitOn_append_cons_self r bytes
  have habsolute (bytes : Bytes) : (Path.mk (r ++ slash :: bytes)).isAbsolute = (Path.mk (r ++ [slash])).isAbsolute := by
    cases r <;> rfl
  let inner := (r.splitOn slash).filterMap componentOf
  refine ⟨if (Path.mk (r ++ [slash])).isAbsolute then .root :: inner
    else if (r.splitOn slash).head? = some [dot] then .here :: inner else inner, fun bytes => ?_⟩
  unfold components
  rw [habsolute, hsegments, List.filterMap_append, List.head?_append_of_ne_nil _ (List.splitOn_ne_nil slash r)]
  dsimp only
  split_ifs <;> rfl

/-- Joined to a path, a relative path that begins with no dot keeps its components behind those of the path. -/
theorem components_join (p : Path) : ∃ front, ∀ q : Path, q.isAbsolute = false → q.segments.head? ≠ some [dot] →
    (p / q).components = front ++ q.segments.filterMap componentOf := by
  cases hlast : p.bytes.getLast? with
  | none =>
    refine ⟨[], fun q hq hfirst => ?_⟩
    have hjoin : p / q = q := by
      change join p q = q
      simp [join, hq, hlast]
    rw [hjoin]
    simp [components, hq, hfirst]
  | some b =>
    obtain ⟨r, hr⟩ := List.getLast?_eq_some_iff.mp hlast
    have hjoin (q : Path) (hq : q.isAbsolute = false) :
        p / q = if b = slash then ⟨p.bytes ++ q.bytes⟩ else ⟨p.bytes ++ slash :: q.bytes⟩ := by
      change join p q = _
      simp [join, hq, hlast]
    by_cases hb : b = slash
    · obtain ⟨front, hfront⟩ := components_append r
      refine ⟨front, fun q hq _ => ?_⟩
      rw [hjoin q hq, if_pos hb]
      simp only [hb, hr, List.append_assoc, List.singleton_append]
      exact hfront q.bytes
    · obtain ⟨front, hfront⟩ := components_append p.bytes
      refine ⟨front, fun q hq _ => ?_⟩
      rw [hjoin q hq, if_neg hb]
      exact hfront q.bytes

end Path

def artifactLabel (stem : String) (mode : Mode) : String := stem ++ "_" ++ mode.name ++ "."

/-- The name of one mode ends in that of the other, but the letter before that is no underscore. -/
theorem artifactLabel_inj {s t : String} {M N : Mode} : artifactLabel s M = artifactLabel t N ↔ s = t ∧ M = N := by
  constructor
  · intro h
    have hchars : s.toList ++ '_' :: M.name.toList = t.toList ++ '_' :: N.name.toList := by
      have hlabels := congrArg String.toList h
      simp only [artifactLabel, String.toList_append] at hlabels
      simpa using List.append_cancel_right hlabels
    have hsame (hmode : M = N) : s = t ∧ M = N := by
      subst hmode
      exact ⟨String.toList_inj.mp (List.append_cancel_right hchars), rfl⟩
    -- the shorter name is cut off, which leaves two last letters that differ
    have hdiffer (u v : List Char) (hmodes : u ++ ['_', 'u', 'n'] ++ Mode.optimized.name.toList =
        v ++ ['_'] ++ Mode.optimized.name.toList) : False := by
      have hfront := congrArg List.getLast? (List.append_cancel_right hmodes)
      simp at hfront
    cases M <;> cases N
    · exact hsame rfl
    · exact (hdiffer _ _ (by simpa [Mode.name] using hchars)).elim
    · exact (hdiffer _ _ (by simpa [Mode.name] using hchars.symm)).elim
    · exact hsame rfl
  · rintro ⟨rfl, rfl⟩
    rfl

section Names
variable {s t : String} (M N : Mode)

theorem underscore_mem_encode_label : (0x5F : UInt8) ∈ Text.encode (artifactLabel s M) := by
  refine List.mem_flatMap.mpr ⟨'_', ?_, by decide⟩
  simp [artifactLabel]

theorem slash_not_mem_encode_label (hs : '/' ∉ s.toList) : Path.slash ∉ Text.encode (artifactLabel s M) := by
  intro hmem
  have hslash := Text.slash_mem_encode hmem
  cases M <;> simp [artifactLabel, Mode.name, hs] at hslash

theorem ofString_artifactName (extension : String) : Path.ofString (artifactName s M extension) =
    ⟨Text.encode (artifactLabel s M) ++ Text.encode extension⟩ := by
  rw [← Text.encode_append]
  rfl

theorem isAbsolute_artifactName (extension : String) (hs : '/' ∉ s.toList) :
    (Path.ofString (artifactName s M extension)).isAbsolute = false := by
  rw [ofString_artifactName]
  have hmem := underscore_mem_encode_label (s := s) M
  have hslash := slash_not_mem_encode_label M hs
  cases hlabel : Text.encode (artifactLabel s M) with
  | nil => simp [hlabel] at hmem
  | cons b rest =>
    have hb : b ≠ Path.slash := fun e => hslash (by simp [hlabel, e])
    simp [Path.isAbsolute, hb]

theorem componentOf_underscore {segment : Bytes} (h : (0x5F : UInt8) ∈ segment) :
    Path.componentOf segment = some (.name segment) := by
  unfold Path.componentOf
  split_ifs with h₁ h₂ h₃
  · simp [h₁] at h
  · rw [h₂] at h
    exact absurd h (by decide)
  · rw [h₃] at h
    exact absurd h (by decide)
  · rfl

/-- Below one directory and with one extension, only what stands before the extension tells artifacts apart. -/
theorem components_artifactPath (dir : Path) (extension : String) : ∃ front first more, ∀ (s : String) (M : Mode),
    '/' ∉ s.toList → (artifactPath dir s M extension).components =
      front ++ .name (Text.encode (artifactLabel s M) ++ first) :: more := by
  obtain ⟨front, hfront⟩ := dir.components_join
  obtain ⟨first, more, hsplit⟩ := List.exists_cons_of_ne_nil (List.splitOn_ne_nil Path.slash (Text.encode extension))
  refine ⟨front, first, more.filterMap Path.componentOf, fun s M hs => ?_⟩
  have hsegments : (Path.ofString (artifactName s M extension)).segments =
      (Text.encode (artifactLabel s M) ++ first) :: more := by
    rw [ofString_artifactName, Path.segments, Path.splitOn_append (slash_not_mem_encode_label M hs), hsplit,
      List.modifyHead_cons]
  have hmem : (0x5F : UInt8) ∈ Text.encode (artifactLabel s M) ++ first :=
    List.mem_append_left _ (underscore_mem_encode_label M)
  have hname : (Path.ofString (artifactName s M extension)).segments.head? ≠ some [Path.dot] := by
    rw [hsegments, List.head?_cons]
    intro hdot
    rw [Option.some.inj hdot] at hmem
    exact absurd hmem (by decide)
  rw [artifactPath, hfront _ (isAbsolute_artifactName M extension hs) hname, hsegments,
    List.filterMap_cons_some (componentOf_underscore hmem)]

/-- Artifacts below one directory share a path, in whatever spelling, only if they share stem and mode. -/
theorem artifactPath_same_iff (dir : Path) (extension : String) (hs : '/' ∉ s.toList) (ht : '/' ∉ t.toList) :
    (artifactPath dir s M extension).same (artifactPath dir t N extension) = true ↔ s = t ∧ M = N := by
  constructor
  · intro hsame
    obtain ⟨front, first, more, hcomponents⟩ := components_artifactPath dir extension
    have heq := of_decide_eq_true hsame
    rw [hcomponents s M hs, hcomponents t N ht] at heq
    have hhead := Component.name.inj (List.cons_eq_cons.mp (List.append_cancel_left heq)).1
    exact artifactLabel_inj.mp (Text.encode_injective (List.append_cancel_right hhead))
  · rintro ⟨rfl, rfl⟩
    exact decide_eq_true rfl

theorem artifactPath_inj (dir : Path) (extension : String) (hs : '/' ∉ s.toList) (ht : '/' ∉ t.toList) :
    artifactPath dir s M extension = artifactPath dir t N extension ↔ s = t ∧ M = N := by
  constructor
  · intro h
    exact (artifactPath_same_iff M N dir extension hs ht).mp (h ▸ decide_eq_true rfl)
  · rintro ⟨rfl, rfl⟩
    rfl

end Names

end PassDelta
