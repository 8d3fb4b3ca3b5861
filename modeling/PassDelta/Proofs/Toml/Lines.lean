import PassDelta.Proofs.Toml.Values
/-!
# Lines among other lines

A line changes one member of a table, or none. Which one, and whether it can, depends on the shape of what was read
before. So lines about one class of names read alike wherever there are members of other names besides.
-/

namespace PassDelta.Toml

def scanLine (fuel : Nat) (p : Progress) (line : List Char) : Scan Progress :=
  match line with
  | '[' :: _ => scanHeader p line
  | [] => some (p, line)
  | c :: _ => if c = '\n' ∨ c = '\r' ∨ c = '#' then some (p, line) else scanEntry fuel p line

theorem scanLine_other {c : Char} (hbracket : c ≠ '[') (fuel : Nat) (p : Progress) (rest : List Char) :
    scanLine fuel p (c :: rest) =
      if c = '\n' ∨ c = '\r' ∨ c = '#' then some (p, c :: rest) else scanEntry fuel p (c :: rest) := by
  unfold scanLine
  split
  · next heq => exact absurd (List.cons.inj heq).1 hbracket
  · contradiction
  · next heq =>
    obtain ⟨rfl, rfl⟩ := List.cons.inj heq
    rfl

theorem scanLines_succ (fuel : Nat) (p : Progress) (cs : List Char) :
    scanLines (fuel + 1) p cs = (scanLine fuel p (skipBlank cs)).bind fun found =>
      (finishLine found.2).bind fun next => if next = [] then some found.1.root else scanLines fuel found.1 next := by
  rw [scanLines]
  split
  · next hline =>
    have hline : scanLine fuel p (skipBlank cs) = none := hline
    rw [hline]
    rfl
  · next p' rest hline =>
    have hline : scanLine fuel p (skipBlank cs) = some (p', rest) := hline
    rw [hline, Option.bind_some]
    dsimp only
    cases finishLine rest with
    | none => rfl
    | some next => cases next <;> rfl

theorem scanEntry_eq (fuel : Nat) (p : Progress) (cs : List Char) :
    scanEntry fuel p cs = (scanMember (fun rest => some (skipBlank rest)) fuel maxDepth cs).bind fun (member, rest) =>
      (within false (assign member.1.1 member.1.2 member.2) p.path rootOrigin p.root).map fun root =>
        (⟨root, p.path⟩, rest) := by
  rw [scanEntry, scanMember]
  cases scanAssigned (fun rest => some (skipBlank rest)) cs with
  | none => rfl
  | some found =>
    obtain ⟨⟨path, key⟩, value⟩ := found
    rw [Option.bind_some]
    dsimp only
    cases scanValue fuel maxDepth value <;> rfl

/-- What a line does with some fuel and with more, whatever the members before it. -/
inductive Scanned (fuel more : Nat) (path : List Key) (line : List Char) : Prop
  | refused (h : ∀ root, scanLine fuel ⟨root, path⟩ line = none)
  | passed (h : ∀ fuel root, scanLine fuel ⟨root, path⟩ line = some (⟨root, path⟩, line))
  | changed {change change' : Members → Option Members} (halike : Alike change change') (path' : List Key)
      (rest : List Char)
      (h : ∀ root, scanLine fuel ⟨root, path⟩ line = (change root).map fun root => (⟨root, path'⟩, rest))
      (h' : ∀ root, scanLine more ⟨root, path⟩ line = (change' root).map fun root => (⟨root, path'⟩, rest))

theorem SameMember.alike {member member' : (List Key × Key) × Item} (h : SameMember member member') (path : List Key)
    (origin : Origin) : Alike (within false (assign member.1.1 member.1.2 member.2) path origin)
      (within false (assign member'.1.1 member'.1.2 member'.2) path origin) where
  one := ⟨_, oneMember_within false path origin fun _ => oneMember_assign member.1.1 member.1.2 member.2 origin⟩
  one' := ⟨_, oneMember_within false path origin fun _ => oneMember_assign member'.1.1 member'.1.2 member'.2 origin⟩
  same := fun hshapes => within_congr false (assign_congr h.1.1 h.1.2 h.2) rfl _ _ _ _ rfl hshapes

theorem scanned_entry {fuel more : Nat} (hmore : fuel ≤ more) (path : List Key) {line : List Char}
    (h : ∀ fuel p, scanLine fuel p line = scanEntry fuel p line) : Scanned fuel more path line := by
  cases hscan : scanMember (fun rest => some (skipBlank rest)) fuel maxDepth line with
  | none => exact .refused fun root => by rw [h, scanEntry_eq, hscan, Option.bind_none]
  | some found =>
    have hmember := (stableValues fuel).member hmore stableSkip_skipBlank maxDepth (show Joins line [] from .inl rfl)
    obtain ⟨-, member', hscan', hsame⟩ := hmember found.1 found.2 hscan
    rw [List.append_nil, List.append_nil] at hscan'
    exact .changed (hsame.alike path rootOrigin) path found.2 (fun root => by rw [h, scanEntry_eq, hscan]; rfl)
      fun root => by rw [h, scanEntry_eq, hscan']; rfl

def headerEnd : Bool → List Char → Option (List Char)
  | true, ']' :: ']' :: rest => some rest
  | false, ']' :: rest => some rest
  | _, _ => none

def headerChange (double : Bool) (key : Key) (span : Span) : Members → Option Members :=
  if double then openEntry key span else openTable key span

theorem scanHeader_eq (p : Progress) (cs : List Char) : scanHeader p cs =
    (scanPath maxDepth (skipBlank (cs.drop (if startsWithTwo '[' cs then 2 else 1)))).bind fun found =>
      (headerEnd (startsWithTwo '[' cs) (skipBlank found.2)).bind fun rest =>
        (within false (fun _ => headerChange (startsWithTwo '[' cs) found.1.2 ⟨cs, rest⟩) found.1.1 rootOrigin
          p.root).map fun root => (⟨root, found.1.1 ++ [found.1.2]⟩, rest) := by
  rw [scanHeader]
  dsimp only
  cases scanPath maxDepth (skipBlank (cs.drop (if startsWithTwo '[' cs then 2 else 1))) with
  | none => rfl
  | some found =>
    dsimp only [Option.bind_some]
    split
    · next hend =>
      have hend : headerEnd (startsWithTwo '[' cs) (skipBlank found.2) = none := hend
      rw [hend]
      rfl
    · next rest hend =>
      have hend : headerEnd (startsWithTwo '[' cs) (skipBlank found.2) = some rest := hend
      rw [hend]
      rfl

theorem alike_headerChange (double : Bool) (key : Key) (span : Span) (path : List Key) (origin : Origin) :
    Alike (within false (fun _ => headerChange double key span) path origin)
      (within false (fun _ => headerChange double key span) path origin) := by
  have hone : OneMember key (headerChange double key span) := by
    cases double with
    | false => exact .move (opened span) (openTable_eq key span)
    | true => exact .set (prolonged span) (openEntry_eq key span)
  have hsame : SameChange (fun _ => headerChange double key span) fun _ => headerChange double key span := by
    cases double with
    | false => exact openTable_congr key span
    | true => exact openEntry_congr key span
  have hpath : OneMember (path.headD key) (within false (fun _ => headerChange double key span) path origin) :=
    oneMember_within false path origin fun _ => hone
  exact ⟨⟨_, hpath⟩, ⟨_, hpath⟩, fun hshapes => within_congr false hsame rfl _ _ _ _ rfl hshapes⟩

theorem scanned_header (fuel more : Nat) (path : List Key) {line : List Char}
    (h : ∀ fuel p, scanLine fuel p line = scanHeader p line) : Scanned fuel more path line := by
  cases hscan : scanPath maxDepth (skipBlank (line.drop (if startsWithTwo '[' line then 2 else 1))) with
  | none => exact .refused fun root => by rw [h, scanHeader_eq, hscan, Option.bind_none]
  | some found =>
    cases hend : headerEnd (startsWithTwo '[' line) (skipBlank found.2) with
    | none => exact .refused fun root => by rw [h, scanHeader_eq, hscan, Option.bind_some, hend, Option.bind_none]
    | some rest =>
      have heq (fuel : Nat) (root : Members) : scanLine fuel ⟨root, path⟩ line = _ :=
        (h fuel _).trans (scanHeader_eq _ line)
      simp only [hscan, hend, Option.bind_some] at heq
      exact .changed (alike_headerChange _ _ _ _ _) _ rest (heq fuel) (heq more)

theorem scanned {fuel more : Nat} (hmore : fuel ≤ more) (path : List Key) (line : List Char) :
    Scanned fuel more path line := by
  cases line with
  | nil => exact .passed fun _ _ => rfl
  | cons c rest =>
    by_cases hbracket : c = '['
    · subst hbracket
      exact scanned_header fuel more path fun _ _ => rfl
    by_cases hblank : c = '\n' ∨ c = '\r' ∨ c = '#'
    · exact .passed fun fuel root => by rw [scanLine_other hbracket, if_pos hblank]
    · exact scanned_entry hmore path fun fuel p => by rw [scanLine_other hbracket, if_neg hblank]

section Class
variable {fuel more : Nat} {path : List Key} {line rest : List Char} {next : Progress} {p : String → Bool}

theorem names_scanLine {root : Members} (h : scanLine fuel ⟨root, path⟩ line = some (next, rest)) :
    ∀ name ∈ root.names, name ∈ next.root.names := by
  cases scanned (Nat.le_refl fuel) path line with
  | refused hscan => cases (hscan root).symm.trans h
  | passed hscan =>
    cases (hscan fuel root).symm.trans h
    exact fun _ hname => hname
  | changed halike path' rest' hscan _ =>
    obtain ⟨all, hall, heq⟩ := Option.map_eq_some_iff.1 ((hscan root).symm.trans h)
    cases heq
    obtain ⟨key, hkey⟩ := halike.one
    exact (hkey.names hall).2

/-- A line that leaves names of a class only does the same to the members of that class among others. -/
theorem scanLine_part {inside root : Members} (hmore : fuel ≤ more) (hinside : shapes inside = shapes (part p root))
    (h : scanLine fuel ⟨inside, path⟩ line = some (next, rest)) (hclass : ∀ name ∈ next.root.names, p name = true) :
    ∃ all, scanLine more ⟨root, path⟩ line = some (⟨all, next.path⟩, rest) ∧
      shapes next.root = shapes (part p all) ∧ part (fun name => !p name) all = part (fun name => !p name) root := by
  cases scanned hmore path line with
  | refused hscan => cases (hscan inside).symm.trans h
  | passed hscan =>
    cases (hscan fuel inside).symm.trans h
    exact ⟨root, hscan more root, hinside, rfl⟩
  | changed halike path' rest' hscan hscan' =>
    obtain ⟨inside', hinside', heq⟩ := Option.map_eq_some_iff.1 ((hscan inside).symm.trans h)
    cases heq
    obtain ⟨all, hall, hshapes, hothers⟩ := halike.part hinside hinside' hclass
    exact ⟨all, by rw [hscan', hall, Option.map_some], hshapes, hothers⟩

theorem names_scanLines {root members : Members} {cs : List Char}
    (h : scanLines fuel ⟨root, path⟩ cs = some members) : ∀ name ∈ root.names, name ∈ members.names := by
  induction fuel generalizing root path cs with
  | zero => cases h
  | succ fuel ih =>
    rw [scanLines_succ] at h
    obtain ⟨⟨⟨root', path'⟩, rest⟩, hline, h⟩ := Option.bind_eq_some_iff.1 h
    obtain ⟨tail, -, h⟩ := Option.bind_eq_some_iff.1 h
    dsimp only at h
    have hnames := names_scanLine hline
    split at h
    · cases h
      exact hnames
    · exact fun name hname => ih h name (hnames name hname)

/-- Lines that are read by themselves and define names of a class only are read behind members of other names, which
stay as they are. -/
theorem scanLines_part {inside root members : Members} {cs : List Char} (hmore : fuel ≤ more)
    (hinside : shapes inside = shapes (part p root)) (h : scanLines fuel ⟨inside, path⟩ cs = some members)
    (hclass : ∀ name ∈ members.names, p name = true) :
    ∃ all, scanLines more ⟨root, path⟩ cs = some all ∧
      part (fun name => !p name) all = part (fun name => !p name) root := by
  induction fuel generalizing more inside root path cs with
  | zero => cases h
  | succ fuel ih =>
    obtain ⟨more, rfl⟩ : ∃ k, more = k + 1 := ⟨more - 1, by omega⟩
    have hmore : fuel ≤ more := Nat.le_of_succ_le_succ hmore
    rw [scanLines_succ] at h
    obtain ⟨⟨⟨inside', path'⟩, rest⟩, hline, h⟩ := Option.bind_eq_some_iff.1 h
    obtain ⟨tail, htail, h⟩ := Option.bind_eq_some_iff.1 h
    dsimp only at h htail
    -- no line leaves a name out, so the names at the end tell of which class those behind this line are
    have hnames : ∀ name ∈ inside'.names, p name = true := by
      split at h
      · cases h
        exact hclass
      · exact fun name hname => hclass name (names_scanLines h name hname)
    obtain ⟨root', hline', hinside', hothers⟩ := scanLine_part hmore hinside hline hnames
    rw [scanLines_succ, hline', Option.bind_some, htail, Option.bind_some]
    dsimp only
    split at h
    · next hend =>
      rw [if_pos hend]
      exact ⟨root', rfl, hothers⟩
    · next hend =>
      rw [if_neg hend]
      obtain ⟨all, hall, hpart⟩ := ih hmore hinside' h
      exact ⟨all, hall, hpart.trans hothers⟩

end Class

end PassDelta.Toml
