import PassDelta.Proofs.Toml.Lines
import PassDelta.Proofs.Toml.Settings
/-!
# Settings among other entries

A text may hold entries of other names between its settings and behind them. When these are TOML by themselves, the
settings are read as if they were alone.
-/

namespace PassDelta.Toml

def isKeyStart (c : Char) : Bool := isBareKeyChar c || c = '"' || c = '\''

theorem scanKey_cons {cs rest : List Char} {key : Key} (h : scanKey cs = some (key, rest)) :
    ∃ c more, cs = c :: more ∧ isKeyStart c = true := by
  by_cases hquote : cs.head? = some '"' ∨ cs.head? = some '\''
  · rcases hquote with hhead | hhead
    · obtain ⟨more, rfl⟩ := List.head?_eq_some_iff.1 hhead
      exact ⟨'"', more, rfl, by decide⟩
    · obtain ⟨more, rfl⟩ := List.head?_eq_some_iff.1 hhead
      exact ⟨'\'', more, rfl, by decide⟩
  · rw [scanKey, if_neg hquote] at h
    cases cs with
    | nil => cases h
    | cons c more =>
      cases hc : isBareKeyChar c with
      | true => exact ⟨c, more, rfl, by simp [isKeyStart, hc]⟩
      | false => simp [hc] at h

theorem scanMember_cons {skip : List Char → Option (List Char)} {fuel depth : Nat} {cs rest : List Char}
    {member : (List Key × Key) × Item} (h : scanMember skip fuel depth cs = some (member, rest)) :
    ∃ c more, cs = c :: more ∧ isKeyStart c = true := by
  obtain ⟨⟨keys, value⟩, hkeys, -⟩ := Option.bind_eq_some_iff.1 h
  obtain ⟨after, more, hpath, -⟩ := scanAssigned_iff.1 hkeys
  rw [show maxDepth = 79 + 1 from rfl, scanPath_succ_iff] at hpath
  obtain ⟨key, after, hkey, -⟩ := hpath
  exact scanKey_cons hkey

def dropComment : List Char → List Char
  | '#' :: rest => rest.dropWhile isPlain
  | rest => rest

theorem dropComment_other {cs : List Char} (h : cs.head? ≠ some '#') : dropComment cs = cs := by
  unfold dropComment
  split
  · exact absurd rfl h
  · rfl

theorem EndsLine.dropComment_append {cs : List Char} (hcs : EndsLine cs) :
    EndsLine (dropComment cs) ∧ ∀ tail, dropComment (cs ++ tail) = dropComment cs ++ tail := by
  by_cases hhash : cs.head? = some '#'
  · obtain ⟨comment, rfl⟩ := List.head?_eq_some_iff.1 hhash
    obtain ⟨hends, hsame⟩ := (hcs.of_ne (by decide)).span_append (p := isPlain) (by decide)
    exact ⟨hends, fun tail => (hsame tail).2⟩
  · rw [dropComment_other hhash]
    exact ⟨hcs, fun tail => dropComment_other (by rwa [hcs.head?_append])⟩

theorem finishLine_eq {cs : List Char} (h : dropComment (skipBlank cs) ≠ []) :
    finishLine cs = lineEnd? (dropComment (skipBlank cs)) := by
  unfold finishLine
  dsimp only
  split
  · next hnil => exact absurd hnil h
  · rfl

/-- The end of a line is found before what stands behind it. -/
theorem finishLine_append {cs : List Char} (hcs : EndsLine cs) (h : finishLine cs = some []) (tail : List Char) :
    finishLine (cs ++ tail) = some tail := by
  obtain ⟨hends, hsame⟩ := hcs.skipBlank.dropComment_append
  have hboth : dropComment (skipBlank (cs ++ tail)) = dropComment (skipBlank cs) ++ tail := by
    rw [hcs.skipBlank_append, hsame]
  rw [finishLine_eq hends.ne_nil] at h
  rw [finishLine_eq (by simp [hboth, hends.ne_nil]), hboth, hends.lineEnd?_append, h]
  rfl

/-- A line, or several where a value runs over more than one, that holds an entry, perhaps with a comment behind. -/
structure IsEntry (line : List Char) : Prop where
  ended : EndsLine line
  entry : (scanEntry line.length ⟨[], []⟩ (skipBlank line)).bind (fun found => finishLine found.2) = some []

theorem IsEntry.scanned {line : List Char} (h : IsEntry line) : ∃ member rest,
    scanMember (fun rest => some (skipBlank rest)) line.length maxDepth (skipBlank line) = some (member, rest) ∧
      finishLine rest = some [] := by
  obtain ⟨found, hentry, hend⟩ := Option.bind_eq_some_iff.1 h.entry
  rw [scanEntry_eq] at hentry
  obtain ⟨⟨member, rest⟩, hmember, hentry⟩ := Option.bind_eq_some_iff.1 hentry
  obtain ⟨root, -, rfl⟩ := Option.map_eq_some_iff.1 hentry
  exact ⟨member, rest, hmember, hend⟩

theorem scanLines_member {more : Nat} {line cs rest tail : List Char} (hline : skipBlank line = cs)
    {member : (List Key × Key) × Item}
    (hmember : scanMember (fun rest => some (skipBlank rest)) (more + 1) maxDepth cs = some (member, rest))
    (hend : finishLine rest = some tail) (root : Members) :
    scanLines (more + 2) ⟨root, []⟩ line =
      (within false (assign member.1.1 member.1.2 member.2) [] rootOrigin root).bind fun root =>
        scanLines (more + 1) ⟨root, []⟩ tail := by
  obtain ⟨c, cs, rfl, hc⟩ := scanMember_cons hmember
  have hne (d : Char) (hd : isKeyStart d = false) : c ≠ d := fun h => by simp [h, hd] at hc
  have hstart : ¬ (c = '\n' ∨ c = '\r' ∨ c = '#') := by
    simp [hne '\n' (by decide), hne '\r' (by decide), hne '#' (by decide)]
  rw [scanLines_succ, hline, scanLine_other (hne '[' (by decide)), if_neg hstart, scanEntry_eq, hmember,
    Option.bind_some]
  dsimp only
  cases within false (assign member.1.1 member.1.2 member.2) [] rootOrigin root with
  | none => rfl
  | some root =>
    rw [Option.map_some, Option.bind_some, Option.bind_some]
    dsimp only
    rw [hend, Option.bind_some]
    split
    · next hnil => rw [hnil, scanLines_nil]
    · rfl

/-- An entry assigns one member, wherever it stands in a text. -/
theorem IsEntry.read {line : List Char} (h : IsEntry line) :
    ∃ member, ∀ {fuel : Nat}, line.length ≤ fuel + 1 → ∀ tail, ∃ member', SameMember member member' ∧
      ∀ root, scanLines (fuel + 2) ⟨root, []⟩ (line ++ tail) =
        (within false (assign member'.1.1 member'.1.2 member'.2) [] rootOrigin root).bind fun root =>
          scanLines (fuel + 1) ⟨root, []⟩ tail := by
  obtain ⟨member, after, hmember, hend⟩ := h.scanned
  refine ⟨member, fun {fuel} hfuel tail => ?_⟩
  have hstable := (stableValues line.length).member hfuel stableSkip_skipBlank maxDepth
    (show Joins (skipBlank line) tail from .inr h.ended.skipBlank)
  obtain ⟨hafter, member', hmember', hlike⟩ := hstable member after hmember
  refine ⟨member', hlike, scanLines_member (h.ended.skipBlank_append tail) hmember' ?_⟩
  rcases hafter with rfl | hafter
  · rw [List.append_nil, hend]
  · exact finishLine_append hafter hend tail

/-- What an entry does before one text and before another, whatever the members before it. -/
theorem IsEntry.alike {line : List Char} (h : IsEntry line) {fuel more : Nat} (hfuel : line.length ≤ fuel + 1)
    (hmore : line.length ≤ more + 1) (tail tail' : List Char) :
    ∃ change change', Alike change change' ∧
      (∀ root, scanLines (fuel + 2) ⟨root, []⟩ (line ++ tail) =
        (change root).bind fun root => scanLines (fuel + 1) ⟨root, []⟩ tail) ∧
      ∀ root, scanLines (more + 2) ⟨root, []⟩ (line ++ tail') =
        (change' root).bind fun root => scanLines (more + 1) ⟨root, []⟩ tail' := by
  obtain ⟨member, hscan⟩ := h.read
  obtain ⟨member₁, hlike₁, hscan₁⟩ := hscan hfuel tail
  obtain ⟨member₂, hlike₂, hscan₂⟩ := hscan hmore tail'
  have hsame : SameMember member₁ member₂ :=
    ⟨⟨hlike₁.1.1.symm.trans hlike₂.1.1, hlike₁.1.2.symm.trans hlike₂.1.2⟩, hlike₁.2.symm.trans hlike₂.2⟩
  exact ⟨_, _, hsame.alike [] rootOrigin, hscan₁, hscan₂⟩

/-- A setting on its line, or an entry of another name. -/
inductive Row where
  | setting (e : String × Datum)
  | foreign (text : List Char)

namespace Row

def text : Row → List Char
  | setting e => (writeEntries [e]).toList
  | foreign text => text

def setting? : Row → Option (String × Datum)
  | setting e => some e
  | foreign _ => none

def foreignText : Row → List Char
  | setting _ => []
  | foreign text => text

theorem text_setting (e : String × Datum) : text (.setting e) = settingLine e := by
  simp [text, writeEntries, settingLine]

end Row

section Documents
variable {p : String → Bool}

theorem part_concat {m : Key × Item} (hm : p m.1.name = false) (root : Members) :
    part p (root ++ [m]) = part p root ∧
      part (fun name => !p name) (root ++ [m]) = part (fun name => !p name) root ++ [m] := by
  simp [part, List.filter_append, hm]

theorem mem_names_part {name : String} (hname : p name = false) {root : Members} (h : name ∈ root.names) :
    name ∈ (part (fun name => !p name) root).names := by
  obtain ⟨m, hm, rfl⟩ := List.mem_map.1 h
  exact List.mem_map.2 ⟨m, List.mem_filter.2 ⟨hm, by simp [hname]⟩, rfl⟩

/-- The settings of a text are read among entries that define names of a class of their own. -/
theorem scanLines_document {doc : List Row} {tail : List Char}
    (hsettings : ∀ e, .setting e ∈ doc → IsBare e.1 ∧ e.2.IsReadable ∧ p e.1 = false)
    (hforeign : ∀ text, .foreign text ∈ doc → IsEntry text) {fuel more : Nat} {inside root others : Members}
    (hinside : shapes inside = shapes (part p root))
    (hnew : ((part (fun name => !p name) root).names ++ (doc.filterMap Row.setting?).map Prod.fst).Nodup)
    (hfuel : (doc.flatMap Row.foreignText ++ tail).length < fuel)
    (hmore : fuel + (doc.flatMap Row.text).length ≤ more + (doc.flatMap Row.foreignText).length)
    (halone : scanLines fuel ⟨inside, []⟩ (doc.flatMap Row.foreignText ++ tail) = some others)
    (hothers : ∀ name ∈ others.names, p name = true) :
    ∃ members added, scanLines more ⟨root, []⟩ (doc.flatMap Row.text ++ tail) = some members ∧
      part (fun name => !p name) members = part (fun name => !p name) root ++ added ∧
      List.Forall₂ Matches added (doc.filterMap Row.setting?) := by
  -- along the lines, what is read without the settings is the part of the class; a setting uses up fuel of the longer
  -- text only, but no more than it is long
  induction doc generalizing fuel more inside root with
  | nil =>
    rw [List.flatMap_nil, List.nil_append] at halone ⊢
    rw [List.flatMap_nil, List.flatMap_nil] at hmore
    obtain ⟨members, hmembers, hpart⟩ := scanLines_part (Nat.le_of_add_le_add_right hmore) hinside halone hothers
    exact ⟨members, [], hmembers, by rw [hpart, List.append_nil], .nil⟩
  | cons line doc ih =>
    have hsettings' := fun e he => hsettings e (List.mem_cons_of_mem line he)
    have hforeign' := fun text htext => hforeign text (List.mem_cons_of_mem line htext)
    rw [List.flatMap_cons, List.append_assoc] at halone ⊢
    simp only [List.flatMap_cons, List.length_append] at hfuel hmore
    cases line with
    | setting e =>
      obtain ⟨hbare, hread, hname⟩ := hsettings e List.mem_cons_self
      have hlength : 2 ≤ (settingLine e).length := by simp [settingLine]; omega
      simp only [Row.foreignText, Row.text_setting, List.nil_append, List.length_nil] at hfuel hmore halone ⊢
      obtain ⟨more, rfl⟩ : ∃ k, more = k + 2 := ⟨more - 2, by omega⟩
      have hfresh : e.1 ∉ root.names := fun hmem =>
        (List.nodup_append.1 hnew).2.2 e.1 (mem_names_part hname hmem) e.1 (by simp [Row.setting?]) rfl
      obtain ⟨m, hline, hm⟩ := scanLines_settingLine hbare hread (show (settingLine e).length ≤ more + 1 by omega)
        hfresh (doc.flatMap Row.text ++ tail)
      obtain ⟨hkept, hroot⟩ := part_concat (show p m.1.name = false by rw [hm.1, hname]) root
      have hnew' : ((part (fun name => !p name) (root ++ [m])).names ++
          (doc.filterMap Row.setting?).map Prod.fst).Nodup := by
        simpa [hroot, Members.names, hm.1, Row.setting?] using hnew
      have hfuel' : (doc.flatMap Row.foreignText ++ tail).length < fuel := by rw [List.length_append]; omega
      have hmore' : fuel + (doc.flatMap Row.text).length ≤ more + 1 + (doc.flatMap Row.foreignText).length := by omega
      obtain ⟨members, added, hmembers, hpart, hall⟩ :=
        ih hsettings' hforeign' (hinside.trans (congrArg shapes hkept.symm)) hnew' hfuel' hmore' halone
      refine ⟨members, m :: added, by rw [hline, hmembers], ?_, .cons hm hall⟩
      rw [hpart, hroot, List.append_assoc, List.singleton_append]
    | foreign text =>
      have hentry := hforeign text List.mem_cons_self
      have hlength : 0 < text.length := List.length_pos_iff.2 hentry.ended.ne_nil
      simp only [Row.foreignText, Row.text] at hfuel hmore halone ⊢
      obtain ⟨fuel, rfl⟩ : ∃ k, fuel = k + 2 := ⟨fuel - 2, by omega⟩
      obtain ⟨more, rfl⟩ : ∃ k, more = k + 2 := ⟨more - 2, by omega⟩
      obtain ⟨change, change', halike, hscan, hscan'⟩ := hentry.alike (show text.length ≤ fuel + 1 by omega)
        (show text.length ≤ more + 1 by omega) (doc.flatMap Row.foreignText ++ tail) (doc.flatMap Row.text ++ tail)
      rw [hscan] at halone
      obtain ⟨inside', hinside', halone⟩ := Option.bind_eq_some_iff.1 halone
      have hnames := fun name hname => hothers name (names_scanLines halone name hname)
      obtain ⟨root', hroot', hshapes, hpart⟩ := halike.part hinside hinside' hnames
      have hfuel' : (doc.flatMap Row.foreignText ++ tail).length < fuel + 1 := by rw [List.length_append]; omega
      have hmore' : fuel + 1 + (doc.flatMap Row.text).length ≤ more + 1 + (doc.flatMap Row.foreignText).length := by
        omega
      obtain ⟨members, added, hmembers, hadded, hall⟩ :=
        ih hsettings' hforeign' hshapes (by rw [hpart]; exact hnew) hfuel' hmore' halone
      exact ⟨members, added, by rw [hscan', hroot', Option.bind_some, hmembers], by rw [hadded, hpart], hall⟩

theorem IsEntry.skipMark {line : List Char} (h : IsEntry line) : skipMark line = line := by
  obtain ⟨member, rest, hmember, -⟩ := h.scanned
  obtain ⟨c, more, hhead, hc⟩ := scanMember_cons hmember
  cases line with
  | nil => rfl
  | cons d line =>
    cases hblank : isBlankOnLine d with
    | true => exact skipMark_of_class (p := isBlankOnLine) (by decide) hblank line
    | false =>
      have hsame : skipBlank (d :: line) = d :: line := List.dropWhile_cons_of_neg (by simp [hblank])
      obtain ⟨rfl, rfl⟩ := List.cons.inj (hsame.symm.trans hhead)
      exact skipMark_of_class (p := isKeyStart) (by decide) hc line

theorem skipMark_flatMap {f : Row → List Char} {doc : List Row} {tail : List Char}
    (h : ∀ row ∈ doc, skipMark (f row) = f row) (htail : skipMark tail = tail) :
    skipMark (doc.flatMap f ++ tail) = doc.flatMap f ++ tail := by
  induction doc with
  | nil => exact htail
  | cons line doc ih =>
    have hline := h line List.mem_cons_self
    rw [List.flatMap_cons, List.append_assoc]
    cases hf : f line with
    | nil => exact ih fun line hmem => h line (List.mem_cons_of_mem _ hmem)
    | cons c rest =>
      rw [hf] at hline
      have hmark : c.toNat ≠ 0xFEFF := fun hc => List.cons_ne_self c rest ((if_pos hc).symm.trans hline).symm
      exact if_neg hmark

/-- What is read of settings among entries of other names, in front of any text of other names: the settings, in order,
and nothing else under their names. -/
theorem read_document {doc : List Row} {tail : List Char}
    (hsettings : ∀ e, .setting e ∈ doc → IsBare e.1 ∧ e.2.IsReadable ∧ p e.1 = false)
    (hforeign : ∀ text, .foreign text ∈ doc → IsEntry text) (htail : skipMark tail = tail)
    (hnew : ((doc.filterMap Row.setting?).map Prod.fst).Nodup) {others : Members}
    (halone : read (doc.flatMap Row.foreignText ++ tail) = some others)
    (hothers : ∀ name ∈ others.names, p name = true) :
    ∃ members, read (doc.flatMap Row.text ++ tail) = some members ∧
      List.Forall₂ Matches (part (fun name => !p name) members) (doc.filterMap Row.setting?) := by
  have htext : skipMark (doc.flatMap Row.text ++ tail) = doc.flatMap Row.text ++ tail := by
    refine skipMark_flatMap (fun line hline => ?_) htail
    cases line with
    | setting e =>
      obtain ⟨c, cs, hhead, hc⟩ := settingLine_cons (hsettings e hline).1
      rw [Row.text_setting, hhead]
      exact skipMark_of_class (p := isBareKeyChar) (by decide) hc cs
    | foreign text => exact (hforeign text hline).skipMark
  have hforeignText : skipMark (doc.flatMap Row.foreignText ++ tail) = doc.flatMap Row.foreignText ++ tail := by
    refine skipMark_flatMap (fun line hline => ?_) htail
    cases line with
    | setting e => rfl
    | foreign text => exact (hforeign text hline).skipMark
  unfold read at halone ⊢
  rw [hforeignText] at halone
  rw [htext]
  have hmore : (doc.flatMap Row.foreignText ++ tail).length + 1 + (doc.flatMap Row.text).length ≤
      (doc.flatMap Row.text ++ tail).length + 1 + (doc.flatMap Row.foreignText).length := by
    rw [List.length_append, List.length_append]
    omega
  have hempty : shapes [] = shapes (part p []) := rfl
  obtain ⟨members, added, hmembers, hpart, hall⟩ := scanLines_document hsettings hforeign hempty hnew
    (Nat.lt_succ_self _) hmore halone hothers
  exact ⟨members, hmembers, by rw [hpart]; exact hall⟩

/-- Settings under different bare names are read from their lines as they were written. -/
theorem read_writeEntries {entries : List (String × Datum)} (hbare : ∀ e ∈ entries, IsBare e.1)
    (hread : ∀ e ∈ entries, e.2.IsReadable) (hnew : (entries.map Prod.fst).Nodup) :
    ∃ members, read (writeEntries entries).toList = some members ∧ List.Forall₂ Matches members entries := by
  have hrows : (entries.map Row.setting).filterMap Row.setting? = entries := by
    rw [List.filterMap_map]
    exact List.filterMap_some
  have htext : (entries.map Row.setting).flatMap Row.text ++ [] = (writeEntries entries).toList := by
    simp [List.flatMap_map, Row.text_setting, writeEntries, settingLine]
  have halone : read ((entries.map Row.setting).flatMap Row.foreignText ++ []) = some [] := by
    have hnone : (entries.map Row.setting).flatMap Row.foreignText = [] := by simp [List.flatMap_map, Row.foreignText]
    rw [hnone]
    rfl
  have hsettings (e : String × Datum) (he : .setting e ∈ entries.map Row.setting) :
      IsBare e.1 ∧ e.2.IsReadable ∧ (fun _ : String => false) e.1 = false := by
    obtain ⟨e', he', heq⟩ := List.mem_map.1 he
    obtain rfl := Row.setting.inj heq
    exact ⟨hbare e' he', hread e' he', rfl⟩
  have hforeign (text : List Char) (htext : .foreign text ∈ entries.map Row.setting) : IsEntry text := by simp at htext
  obtain ⟨members, hmembers, hall⟩ := read_document (p := fun _ => false) hsettings hforeign rfl (by rwa [hrows])
    halone (by simp [Members.names])
  rw [htext] at hmembers
  rw [hrows] at hall
  exact ⟨members, hmembers, by simpa [part] using hall⟩

end Documents

end PassDelta.Toml
