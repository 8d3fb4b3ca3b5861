import PassDelta.Proofs.Json.Prefixes
/-!
# Lists and objects that break off

However the text of a list or of an object is cut, its reader waits for more: an item or a member breaks off, or the
closing bracket is missing.
-/

namespace PassDelta.Json

section Lists
variable {α : Type} {r : Reader α}

theorem readList_singleton {n : Node} {problem : Option ReadError} (h : r n = .error .truncated) :
    readList r (.arr [n] problem) = .error .truncated := by
  simp [readList, h, bind, Except.bind]

theorem readList_cons {n : Node} {ns : List Node} {problem : Option ReadError} (hn : ∃ x, r n = .ok x)
    (hns : readList r (.arr ns problem) = .error .truncated) :
    readList r (.arr (n :: ns) problem) = .error .truncated := by
  obtain ⟨x, hx⟩ := hn
  simp only [readList, List.mapM_cons, hx] at hns ⊢
  cases hrest : ns.mapM r with
  | error e =>
    rw [hrest] at hns
    exact hns
  | ok xs =>
    rw [hrest] at hns
    cases hclosed : closed problem with
    | error e =>
      rw [hclosed] at hns
      simpa [bind, Except.bind, pure, Except.pure] using hns
    | ok u =>
      rw [hclosed] at hns
      cases hns

/-- The first item of a list breaks off. -/
theorem scanItems_of_brokenOff {fuel : Nat} {p : List Char} (h : BrokenOff r (scanValue fuel p)) :
    ∃ items problem, scanItems (fuel + 1) p = (items, problem, none) ∧
      readList r (.arr items problem) = .error .truncated := by
  rcases hscan : scanValue fuel p with ⟨n, rest⟩
  rw [hscan] at h
  rcases h with ⟨rfl, herror⟩ | ⟨rfl, x, hx⟩
  · exact ⟨[n], none, by simp only [scanItems, hscan], readList_singleton herror⟩
  · refine ⟨[n], some .truncated, by simp only [scanItems, hscan]; rfl, ?_⟩
    dsimp only at hx
    simp [readList, hx, closed, bind, Except.bind, pure, Except.pure]

/-- The text ends behind an item. -/
theorem scanItems_end {fuel : Nat} {p rest : List Char} {n : Node} (hscan : scanValue fuel p = (n, some rest))
    (hrest : skipSpace rest = []) (hn : ∃ x, r n = .ok x) :
    ∃ items problem, scanItems (fuel + 1) p = (items, problem, none) ∧
      readList r (.arr items problem) = .error .truncated := by
  obtain ⟨x, hx⟩ := hn
  refine ⟨[n], some .truncated, by simp only [scanItems, hscan, hrest], ?_⟩
  simp [readList, hx, closed, bind, Except.bind, pure, Except.pure]

theorem scanItems_cut {level : Nat} {v : Json} {vs : List Json} (hread : ∀ w ∈ v :: vs, ∃ x, r (node w) = .ok x)
    (hbreaks : ∀ w ∈ v :: vs, Breaks r w) {p : List Char} (hp : Cut p (spread (level + 1) v ++ spreadItems level vs))
    {fuel : Nat} (hfuel : 2 * p.length + 3 ≤ fuel) :
    ∃ items problem, scanItems fuel p = (items, problem, none) ∧
      readList r (.arr items problem) = .error .truncated := by
  induction vs generalizing v p fuel with
  | nil =>
    obtain ⟨fuel, rfl⟩ : ∃ f, fuel = f + 1 := ⟨fuel - 1, by omega⟩
    rcases cut_append.mp hp with hv | ⟨p', rfl, hp'⟩
    · exact scanItems_of_brokenOff (hbreaks v List.mem_cons_self (level + 1) p fuel hv (by omega))
    · rw [List.length_append] at hfuel
      have hended := hp'.ended (List.append_nil (spreadItems level []) ▸ ended_spreadItems level [] [])
      have hscan := scans (level + 1) v fuel p' (by omega) hended
      exact scanItems_end hscan (skipSpace_of_cut_close (by decide) hp') (hread v List.mem_cons_self)
  | cons w ws ih =>
    obtain ⟨fuel, rfl⟩ : ∃ f, fuel = f + 1 := ⟨fuel - 1, by omega⟩
    rcases cut_append.mp hp with hv | ⟨p', rfl, hp'⟩
    · exact scanItems_of_brokenOff (hbreaks v List.mem_cons_self (level + 1) p fuel hv (by omega))
    rw [List.length_append] at hfuel
    have hended := hp'.ended (List.append_nil (spreadItems level (w :: ws)) ▸ ended_spreadItems level (w :: ws) [])
    have hscan := scans (level + 1) v fuel p' (by omega) hended
    rw [spreadItems, List.append_assoc, List.cons_append] at hp'
    rcases cut_cons.mp hp' with rfl | ⟨next, rfl, hnext⟩
    · exact scanItems_end hscan rfl (hread v List.mem_cons_self)
    -- behind the comma another item breaks off, perhaps before it begins
    have hbegins := begins_spread (level + 1) w
    obtain ⟨c, cs, htext, hc, -⟩ := begins_append hbegins (spreadItems level ws)
    have hcut : Cut (skipSpace next) (spread (level + 1) w ++ spreadItems level ws) := by
      rw [htext] at hnext ⊢
      exact skipSpace_of_cut_indent hc hnext
    have hlength := length_skipSpace_le next
    rw [List.length_cons] at hfuel
    have hrest : 2 * (skipSpace next).length + 3 ≤ fuel := by omega
    obtain ⟨items, problem, hitems, herror⟩ := ih (fun x hx => hread x (List.mem_cons_of_mem v hx))
      (fun x hx => hbreaks x (List.mem_cons_of_mem v hx)) hcut hrest
    refine ⟨node v :: items, problem, ?_, readList_cons (hread v List.mem_cons_self) herror⟩
    rw [scanItems_more hscan (skipSpace_cons (by decide) next) (hcut.head?_ne hbegins), hitems]

/-- A list breaks off if its items do. -/
theorem breaks_list {vs : List Json} (hnothing : r (.broken .truncated .truncated) = .error .truncated)
    (hread : ∀ v ∈ vs, ∃ x, r (node v) = .ok x) (hbreaks : ∀ v ∈ vs, Breaks r v) : Breaks (readList r) (.arr vs) := by
  intro level p fuel hp hfuel
  obtain ⟨fuel, rfl⟩ : ∃ f, fuel = f + 1 := ⟨fuel - 1, by omega⟩
  cases vs with
  | nil =>
    rcases cut_cons.mp hp with rfl | ⟨p', rfl, hp'⟩
    · exact .inl ⟨rfl, rfl⟩
    rcases cut_cons.mp hp' with rfl | ⟨_, -, hnil⟩
    · obtain ⟨fuel, rfl⟩ : ∃ f, fuel = f + 2 := ⟨fuel - 2, by simp at hfuel; omega⟩
      exact .inl ⟨rfl, readList_singleton hnothing⟩
    · exact absurd hnil not_cut_nil
  | cons v vs =>
    have htext : spread level (.arr (v :: vs)) =
        '[' :: (indent (level + 1) ++ (spread (level + 1) v ++ spreadItems level vs)) := by
      simp [spread]
    rw [htext] at hp
    rcases cut_cons.mp hp with rfl | ⟨p', rfl, hp'⟩
    · exact .inl ⟨rfl, rfl⟩
    have hbegins := begins_spread (level + 1) v
    obtain ⟨c, cs, htext, hc, -⟩ := begins_append hbegins (spreadItems level vs)
    have hcut : Cut (skipSpace p') (spread (level + 1) v ++ spreadItems level vs) := by
      rw [htext] at hp' ⊢
      exact skipSpace_of_cut_indent hc hp'
    have hlength := length_skipSpace_le p'
    rw [List.length_cons] at hfuel
    have hrest : 2 * (skipSpace p').length + 3 ≤ fuel := by omega
    obtain ⟨items, problem, hitems, herror⟩ := scanItems_cut hread hbreaks hcut hrest
    rw [scanValue_list (hcut.head?_ne hbegins), hitems]
    exact .inl ⟨rfl, herror⟩

end Lists

section Derived
variable {α β : Type} {r : Reader α} {s : Scan Node} {v : Json}

theorem BrokenOff.check (h : BrokenOff r s) : BrokenOff (check r) s := by
  rcases h with ⟨hnone, herror⟩ | ⟨hsome, x, hx⟩
  · exact .inl ⟨hnone, by rw [Json.check, herror]; rfl⟩
  · exact .inr ⟨hsome, (), check_eq_ok.mpr ⟨x, hx⟩⟩

theorem Breaks.check (h : Breaks r v) : Breaks (check r) v :=
  fun level p fuel hp hfuel => (h level p fuel hp hfuel).check

theorem Breaks.map (f : α → β) (h : Breaks r v) : Breaks (fun n => f <$> r n) v := by
  intro level p fuel hp hfuel
  rcases h level p fuel hp hfuel with ⟨hnone, herror⟩ | ⟨hsome, x, hx⟩
  · exact .inl ⟨hnone, congrArg (f <$> ·) herror⟩
  · exact .inr ⟨hsome, f x, congrArg (f <$> ·) hx⟩

/-- A reader that does not take `null` is not given it by a text that breaks off. -/
theorem Breaks.option (hnull : r .null = .error .mismatch) (h : Breaks r v) : Breaks (readOption r) v := by
  intro level p fuel hp hfuel
  have hopen {n : Node} (hn : r n ≠ .error .mismatch) : readOption r n = some <$> r n := by
    rw [readOption]
    exact fun hsame => hn (hsame ▸ hnull)
  rcases h level p fuel hp hfuel with ⟨hnone, herror⟩ | ⟨hsome, x, hx⟩
  · exact .inl ⟨hnone, (hopen (by simp [herror])).trans (congrArg (some <$> ·) herror)⟩
  · exact .inr ⟨hsome, some x, (hopen (by simp [hx])).trans (congrArg (some <$> ·) hx)⟩

end Derived

section Objects
variable {fields : List (String × Reader Unit)} {found : List (String × Node)} {k : String} {c : Reader Unit}

/-- The members of a structure break off: at one of them its reader waits for more, or all are there and the object waits
for its end. -/
def Stuck (fields : List (String × Reader Unit)) (found : List (String × Node)) (members : List (Lexeme × Node))
    (problem : Option ReadError) : Prop :=
  collect fields found members = .error .truncated ∨
    (∃ all, collect fields found members = .ok all) ∧ problem = some .truncated

theorem collect_cons {n : Node} {rest : List (Lexeme × Node)} (hc : fields.lookup k = some c)
    (hnew : found.lookup k = none) : collect fields found ((lexemeOf k, n) :: rest) =
      c n >>= fun _ => collect fields (found ++ [(k, n)]) rest := by
  simp only [collect, text_lexemeOf]
  simp [bind, Except.bind, hc, hnew]

theorem stuck_name {l : Lexeme} (h : l.text = .error .truncated) (n : Node) (problem : Option ReadError) :
    Stuck fields found [(l, n)] problem := by
  refine .inl ?_
  rw [collect, h]
  rfl

theorem stuck_value {n : Node} (hc : fields.lookup k = some c) (hnew : found.lookup k = none)
    (h : c n = .error .truncated) (problem : Option ReadError) : Stuck fields found [(lexemeOf k, n)] problem := by
  refine .inl ?_
  rw [collect_cons hc hnew, h]
  rfl

theorem stuck_end {n : Node} (hc : fields.lookup k = some c) (hnew : found.lookup k = none) (h : c n = .ok ()) :
    Stuck fields found [(lexemeOf k, n)] (some .truncated) := by
  refine .inr ⟨⟨found ++ [(k, n)], ?_⟩, rfl⟩
  rw [collect_cons hc hnew, h]
  rfl

theorem Stuck.cons {n : Node} {members : List (Lexeme × Node)} {problem : Option ReadError}
    (hc : fields.lookup k = some c) (hnew : found.lookup k = none) (hn : c n = .ok ())
    (h : Stuck fields (found ++ [(k, n)]) members problem) :
    Stuck fields found ((lexemeOf k, n) :: members) problem := by
  unfold Stuck
  rw [collect_cons hc hnew, hn]
  exact h

/-- An object of which a needed member is cut off is refused for that. -/
theorem Stuck.read {α : Type} {shape : Shape α} {members : List (Lexeme × Node)} {problem : Option ReadError}
    (h : Stuck shape.fields [] members problem) : shape.read (.obj members problem) = .error .truncated := by
  rw [Shape.read]
  rcases h with herror | ⟨⟨all, hall⟩, rfl⟩
  · rw [herror]
    rfl
  · rw [hall]
    rfl

/-- A member with a field for it, which takes its value and finds it broken off where its text is cut. -/
def IsField (fields : List (String × Reader Unit)) (m : String × Json) : Prop :=
  ∃ c, fields.lookup m.1 = some c ∧ c (node m.2) = .ok () ∧ Breaks c m.2

section Scanning
variable {fuel : Nat} {text rest r r' : List Char} {l : Lexeme} {n : Node}

theorem scanMembers_name (hk : scanString text = (l, none)) :
    scanMembers (fuel + 1) text = ([(l, .broken .malformed .malformed)], none, none) := by
  simp only [scanMembers, hk]

theorem scanMembers_colon (hk : scanString text = (l, some rest)) (hend : skipSpace rest = []) :
    scanMembers (fuel + 1) text = ([(l, .broken .truncated .truncated)], none, none) := by
  simp only [scanMembers, hk, hend]

theorem scanMembers_value (hk : scanString text = (l, some rest)) (hcolon : skipSpace rest = ':' :: r)
    (hv : scanValue fuel r = (n, none)) : scanMembers (fuel + 1) text = ([(l, n)], none, none) := by
  simp only [scanMembers, hk, hcolon, hv]

theorem scanMembers_end (hk : scanString text = (l, some rest)) (hcolon : skipSpace rest = ':' :: r)
    (hv : scanValue fuel r = (n, some r')) (hend : skipSpace r' = []) :
    scanMembers (fuel + 1) text = ([(l, n)], some .truncated, none) := by
  simp only [scanMembers, hk, hcolon, hv, hend]

theorem scanMembers_comma (hk : scanString text = (l, some rest)) (hcolon : skipSpace rest = ':' :: r)
    (hv : scanValue fuel r = (n, some r')) {more : List Char} (hcomma : skipSpace r' = ',' :: more)
    (hend : skipSpace more = []) : scanMembers (fuel + 1) text = ([(l, n)], some .truncated, none) := by
  simp only [scanMembers, hk, hcolon, hv, hcomma, hend]

end Scanning

variable {level fuel : Nat} {v : Json} {p : List Char}

/-- A member is cut in its name, before its value, or in its value. -/
theorem scanMembers_of_cut_member (hfield : IsField fields (k, v)) (hnew : found.lookup k = none)
    (hp : Cut p (memberText level k v)) (hfuel : 2 * p.length + 2 ≤ fuel) :
    ∃ members problem, scanMembers (fuel + 1) p = (members, problem, none) ∧ Stuck fields found members problem := by
  obtain ⟨c, hc, -, hbreaks⟩ := hfield
  have htext : memberText level k v = k.toList.flatMap escape ++ ['"'] ++ ':' :: ' ' :: spread (level + 1) v := by
    simp [memberText]
  rw [htext] at hp
  rcases cut_append.mp hp with hname | ⟨p₁, rfl, hp₁⟩
  · obtain ⟨l, hscan, hl⟩ := scanString_cut k hname
    exact ⟨_, _, scanMembers_name hscan, stuck_name hl _ _⟩
  have hk : scanString (k.toList.flatMap escape ++ ['"'] ++ p₁) = (lexemeOf k, some p₁) := by
    rw [List.append_assoc]
    exact scanString_escape k p₁
  rcases cut_cons.mp hp₁ with rfl | ⟨p₂, rfl, hp₂⟩
  · exact ⟨_, _, scanMembers_colon hk rfl, stuck_value hc hnew hbreaks.error_nothing _⟩
  have hcolon : skipSpace (':' :: p₂) = ':' :: p₂ := skipSpace_cons (by decide) p₂
  simp only [List.length_append, List.length_cons] at hfuel
  rcases cut_cons.mp hp₂ with rfl | ⟨p₃, rfl, hp₃⟩
  · obtain ⟨fuel, rfl⟩ : ∃ f, fuel = f + 1 := ⟨fuel - 1, by omega⟩
    exact ⟨_, _, scanMembers_value hk hcolon rfl, stuck_value hc hnew hbreaks.error_nothing _⟩
  have hblank : scanValue fuel (' ' :: p₃) = scanValue fuel p₃ := scanValue_skipSpace (by simp [skipSpace, isSpace])
  rw [List.length_cons] at hfuel
  rcases hscan : scanValue fuel p₃ with ⟨n, rest⟩
  have hbroken := hbreaks (level + 1) p₃ fuel hp₃ (by omega)
  rw [hscan] at hbroken hblank
  rcases hbroken with ⟨rfl, herror⟩ | ⟨rfl, ⟨⟩, hread⟩
  · exact ⟨_, _, scanMembers_value hk hcolon hblank, stuck_value hc hnew herror _⟩
  · exact ⟨_, _, scanMembers_end hk hcolon hblank rfl, stuck_end hc hnew hread⟩

theorem scanMembers_cut {ms : List (String × Json)}
    (hnew : (found.map (·.1) ++ ((k, v) :: ms).map (·.1)).Nodup) (hfields : ∀ m ∈ (k, v) :: ms, IsField fields m)
    (hp : Cut p (memberText level k v ++ spreadMembers level ms)) (hfuel : 2 * p.length + 3 ≤ fuel) :
    ∃ members problem, scanMembers fuel p = (members, problem, none) ∧ Stuck fields found members problem := by
  induction ms generalizing k v found p fuel with
  | nil =>
    obtain ⟨fuel, rfl⟩ : ∃ f, fuel = f + 1 := ⟨fuel - 1, by omega⟩
    have hfield := hfields _ List.mem_cons_self
    have habsent : found.lookup k = none := lookup_eq_none_of_nodup hnew
    rcases cut_append.mp hp with hmember | ⟨p', rfl, hp'⟩
    · exact scanMembers_of_cut_member hfield habsent hmember (by omega)
    obtain ⟨c, hc, hread, -⟩ := hfield
    rw [List.length_append] at hfuel
    have hended := hp'.ended (List.append_nil (spreadMembers level []) ▸ ended_spreadMembers level [] [])
    have hmember : 2 * (memberText level k v).length ≤ fuel := by omega
    obtain ⟨behind, hk, hv⟩ := scan_memberText (scans (level + 1) v) k hmember hended
    have hend : skipSpace p' = [] := skipSpace_of_cut_close (by decide) hp'
    exact ⟨_, _, scanMembers_end hk (skipSpace_cons (by decide) _) hv hend, stuck_end hc habsent hread⟩
  | cons m ms ih =>
    obtain ⟨fuel, rfl⟩ : ∃ f, fuel = f + 1 := ⟨fuel - 1, by omega⟩
    have hfield := hfields _ List.mem_cons_self
    have habsent : found.lookup k = none := lookup_eq_none_of_nodup hnew
    rcases cut_append.mp hp with hmember | ⟨p', rfl, hp'⟩
    · exact scanMembers_of_cut_member hfield habsent hmember (by omega)
    obtain ⟨c, hc, hread, -⟩ := hfield
    obtain ⟨k', w⟩ := m
    rw [List.length_append] at hfuel
    have hended := hp'.ended (List.append_nil (spreadMembers level ((k', w) :: ms)) ▸
      ended_spreadMembers level ((k', w) :: ms) [])
    have hmember : 2 * (memberText level k v).length ≤ fuel := by omega
    obtain ⟨behind, hk, hv⟩ := scan_memberText (scans (level + 1) v) k hmember hended
    have hcolon : skipSpace (':' :: behind) = ':' :: behind := skipSpace_cons (by decide) _
    rw [spreadMembers_cons] at hp'
    rcases cut_cons.mp hp' with rfl | ⟨next, rfl, hnext⟩
    · exact ⟨_, _, scanMembers_end hk hcolon hv rfl, stuck_end hc habsent hread⟩
    have hcomma : skipSpace (',' :: next) = ',' :: next := skipSpace_cons (by decide) _
    have hlength := length_skipSpace_le next
    rw [List.length_cons] at hfuel
    rcases cut_cons.mp (skipSpace_of_cut_indent (by decide) hnext) with hnil | ⟨p'', hquote, hp''⟩
    · exact ⟨_, _, scanMembers_comma hk hcolon hv hcomma hnil, stuck_end hc habsent hread⟩
    rw [hquote, List.length_cons] at hlength
    have hnew' : ((found ++ [(k, node v)]).map (·.1) ++ ((k', w) :: ms).map (·.1)).Nodup := by simpa using hnew
    have hrest : 2 * p''.length + 3 ≤ fuel := by omega
    obtain ⟨members, problem, hscan, hstuck⟩ :=
      ih hnew' (fun m hm => hfields m (List.mem_cons_of_mem _ hm)) hp'' hrest
    refine ⟨(lexemeOf k, node v) :: members, problem, ?_, hstuck.cons hc habsent hread⟩
    rw [scanMembers_more hk hcolon hv hcomma hquote, hscan]

/-- A structure waits for more if it has different fields for all its members. -/
theorem waits_obj {α : Type} {shape : Shape α} {ms : List (String × Json)} (hne : ms ≠ [])
    (hnames : (ms.map (·.1)).Nodup) (hfields : ∀ m ∈ ms, IsField shape.fields m) : Waits shape.read (.obj ms) := by
  intro level p fuel hp hfuel
  obtain ⟨fuel, rfl⟩ : ∃ f, fuel = f + 1 := ⟨fuel - 1, by omega⟩
  obtain ⟨⟨k, v⟩, ms, rfl⟩ := List.exists_cons_of_ne_nil hne
  have htext : spread level (.obj ((k, v) :: ms)) =
      '\x7b' :: (indent (level + 1) ++ '"' :: (memberText level k v ++ spreadMembers level ms)) := by
    simp [spread, memberText, writeString]
  rw [htext] at hp
  rcases cut_cons.mp hp with rfl | ⟨p', rfl, hp'⟩
  · exact ⟨rfl, rfl⟩
  have hlength := length_skipSpace_le p'
  rw [List.length_cons] at hfuel
  rcases cut_cons.mp (skipSpace_of_cut_indent (by decide) hp') with hnil | ⟨p'', hquote, hp''⟩
  · rw [scanValue, skipSpace_cons (by decide)]
    simp only [Char.reduceEq, if_false, if_true, hnil]
    exact ⟨trivial, rfl⟩
  rw [hquote, List.length_cons] at hlength
  have hrest : 2 * p''.length + 3 ≤ fuel := by omega
  have hnew : (([] : List (String × Node)).map (·.1) ++ ((k, v) :: ms).map (·.1)).Nodup := by simpa using hnames
  obtain ⟨members, problem, hscan, hstuck⟩ := scanMembers_cut hnew hfields hp'' hrest
  rw [scanValue_object hquote, hscan]
  exact ⟨rfl, hstuck.read⟩

end Objects

/-- The text of a value that its reader waits for is not read before its end. -/
theorem Waits.readDocument {α : Type} {r : Reader α} {v : Json} (h : Waits r v) {p q : String} (hq : q ≠ "")
    (happend : p ++ q = v.pretty) : readDocument r p = .error .truncated := by
  have hcut : Cut p.toList (spread 0 v) := by
    refine ⟨q.toList, by simpa using hq, ?_⟩
    rw [← String.toList_append, happend, pretty, String.toList_ofList]
  obtain ⟨-, herror⟩ := h 0 p.toList _ hcut (Nat.le_refl _)
  rw [Json.readDocument, scan]
  dsimp only
  rw [herror]
  rfl

end PassDelta.Json
