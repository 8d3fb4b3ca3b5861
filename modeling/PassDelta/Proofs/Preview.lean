import PassDelta.Proofs.Losses
/-!
# Previews

A preview is the text itself or its first characters with three dots behind them. It is cut at the byte where a
character begins, so no character is split, and the reports of a batch show captures shortened while their files hold
all bytes.
-/

namespace PassDelta

namespace Text

/-- The bytes at which the characters of a text begin that itself begins at byte `i`. -/
def starts : Nat → List Char → List Nat
  | _, [] => []
  | i, c :: cs => i :: starts (i + c.utf8Size) cs

theorem getElem?_starts (i : Nat) (cs : List Char) (n : Nat) :
    (starts i cs)[n]? = if n < cs.length then some (i + byteLength (cs.take n)) else none := by
  induction cs generalizing i n with
  | nil => rfl
  | cons c cs ih =>
    cases n with
    | zero => rfl
    | succ n =>
      rw [starts, List.getElem?_cons_succ, ih]
      simp only [List.length_cons, Nat.succ_lt_succ_iff, List.take_succ_cons, byteLength, List.foldr_cons,
        Nat.add_assoc]

theorem length_encode (s : String) : (encode s).length = byteLength s.toList := by
  unfold encode
  induction s.toList with
  | nil => rfl
  | cons c cs ih =>
    rw [List.flatMap_cons, List.length_append, String.length_utf8EncodeChar, ih]
    rfl

end Text

namespace Console

/-- The byte at which a preview is cut: where the character with number `limit` begins, if there is one. -/
def cut? (text : String) (limit : Nat) : Option Nat := (Text.starts 0 text.toList)[limit]?

def unmarked (text : String) (limit : Nat) : String :=
  let shown := preview text limit
  if limit < text.length then String.ofList (shown.toList.take (shown.length - 3)) else shown

theorem preview_of_le {text : String} {limit : Nat} (h : text.length ≤ limit) : preview text limit = text := by
  have hall : text.toList.take limit = text.toList := List.take_of_length_le (by rwa [String.length_toList])
  unfold preview
  dsimp only
  rw [hall, if_pos rfl]

theorem take_start (start rest : String) : (start ++ rest).toList.take start.length = start.toList := by
  rw [String.toList_append, List.take_left' String.length_toList]

theorem preview_append (start rest : String) (hrest : 0 < rest.length) :
    preview (start ++ rest) start.length = start ++ "..." := by
  have hcut : ¬ start.toList.length = (start ++ rest).toList.length := by
    simp only [String.length_toList, String.length_append]
    omega
  unfold preview
  dsimp only
  rw [take_start, if_neg hcut, String.ofList_append, String.ofList_toList]

theorem exists_cut {text : String} {limit : Nat} (h : limit < text.length) :
    ∃ start rest : String, text = start ++ rest ∧ start.length = limit ∧ 0 < rest.length := by
  rw [← String.length_toList] at h
  refine ⟨String.ofList (text.toList.take limit), String.ofList (text.toList.drop limit), ?_, ?_, ?_⟩
  · rw [← String.ofList_append, List.take_append_drop, String.ofList_toList]
  · rw [String.length_ofList, List.length_take_of_le (Nat.le_of_lt h)]
  · rw [String.length_ofList, List.length_drop]
    omega

theorem cut?_append (start rest : String) (hrest : 0 < rest.length) :
    cut? (start ++ rest) start.length = some (Text.encode start).length := by
  have hlength : start.length < (start ++ rest).toList.length := by
    simp only [String.length_toList, String.length_append]
    omega
  rw [cut?, Text.getElem?_starts, if_pos hlength, take_start, Text.length_encode, Nat.zero_add]

theorem cut?_eq_none {text : String} {limit : Nat} : cut? text limit = none ↔ text.length ≤ limit := by
  rw [cut?, Text.getElem?_starts, String.length_toList]
  split <;> simp <;> omega

/-- What a preview shows of a text, and how two previews of it are related. -/
structure Abridged (text : String) (limit : Nat) : Prop where
  whole : text.length ≤ limit → preview text limit = text
  cut : limit < text.length → ∃ start rest : String, text = start ++ rest ∧ start.length = limit ∧
    preview text limit = start ++ "..." ∧ ∃ i, cut? text limit = some i ∧
      (Text.encode text).take i = Text.encode start ∧ (Text.encode text).drop i = Text.encode rest
  uncut : cut? text limit = none ↔ text.length ≤ limit
  length_le : (preview text limit).length ≤ limit + 3
  again : preview (preview text limit) limit = preview text limit
  wider : ∀ limit' : Nat, limit ≤ limit' → ∃ more, preview text limit' = unmarked text limit ++ more

theorem unmarked_append (start rest : String) (hrest : 0 < rest.length) :
    unmarked (start ++ rest) start.length = start := by
  have hcut : start.length < (start ++ rest).length := by
    rw [String.length_append]
    omega
  have hdots : (start ++ "...").length - 3 = start.length := by
    rw [String.length_append]
    exact Nat.add_sub_cancel ..
  unfold unmarked
  dsimp only
  rw [if_pos hcut, preview_append start rest hrest, hdots, take_start, String.ofList_toList]

theorem wider_append (start rest : String) {limit' : Nat} (h : start.length ≤ limit') :
    ∃ more, preview (start ++ rest) limit' = start ++ more := by
  rcases Nat.lt_or_ge limit' (start ++ rest).length with hcut | hwhole
  · obtain ⟨start', rest', hsplit, rfl, hrest'⟩ := exists_cut hcut
    -- of two starts of one text the shorter one is a start of the longer one
    have hshort : start.toList <+: (start ++ rest).toList := by simp
    have hlong : start'.toList <+: (start ++ rest).toList := by simp [hsplit]
    have hstart : start.toList <+: start'.toList :=
      List.prefix_of_prefix_length_le hshort hlong (by rwa [String.length_toList, String.length_toList])
    obtain ⟨more, hmore⟩ := hstart
    refine ⟨String.ofList more ++ "...", ?_⟩
    rw [hsplit, preview_append start' rest' hrest', ← String.append_assoc]
    refine congrArg (· ++ "...") (String.toList_injective ?_)
    rw [String.toList_append, String.toList_ofList, hmore]
  · exact ⟨rest, preview_of_le hwhole⟩

theorem abridged (text : String) (limit : Nat) : Abridged text limit := by
  rcases Nat.lt_or_ge limit text.length with h | h
  · obtain ⟨start, rest, rfl, rfl, hrest⟩ := exists_cut h
    have hpreview := preview_append start rest hrest
    exact {
      whole := fun hwhole => absurd hwhole (Nat.not_le.mpr h)
      cut := by
        refine fun _ => ⟨start, rest, rfl, rfl, hpreview, _, cut?_append start rest hrest, ?_, ?_⟩
        · rw [Text.encode_append, List.take_left]
        · rw [Text.encode_append, List.drop_left]
      uncut := cut?_eq_none
      length_le := by
        rw [hpreview, String.length_append]
        exact Nat.le_refl _
      again := by rw [hpreview, preview_append start "..." (by decide)]
      wider := fun limit' hle => by
        rw [unmarked_append start rest hrest]
        exact wider_append start rest hle }
  · have hpreview := preview_of_le h
    exact {
      whole := fun _ => hpreview
      cut := fun hcut => absurd hcut (Nat.not_lt.mpr h)
      uncut := cut?_eq_none
      length_le := by
        rw [hpreview]
        exact Nat.le_add_right_of_le h
      again := by rw [hpreview, hpreview]
      wider := by
        intro limit' hle
        refine ⟨"", ?_⟩
        unfold unmarked
        dsimp only
        rw [if_neg (Nat.not_lt.mpr h), hpreview, preview_of_le (Nat.le_trans h hle), String.append_empty] }

end Console

namespace Batch

variable {σ : Type} {h : Host σ} {setup : Setup}

section Saves
variable {m : Path} {mode : Mode} {contents : Bytes} {w w' : σ}

theorem Saved.keep_eq {loss : Option ArtifactError} (hsaved : Saved h setup m mode contents w loss w') :
    h.keep setup.outputDir setup.extension m.stem mode contents w = (loss, w') := by
  cases hsaved with
  | noDirectory made => simp [Host.keep, made]
  | notWritten made written => simp [Host.keep, made, written]
  | stored made written => simp [Host.keep, made, written]

theorem Saved.content_stored (disk : Disk h) (hsaved : Saved h setup m mode contents w none w') :
    disk.content w' =
      disk.matching.overlay (disk.content w) [(artifactPath setup.outputDir m.stem mode setup.extension, contents)] := by
  have hkept := disk.content_keep setup m mode contents w
  rw [Host.kept, hsaved.keep_eq] at hkept
  exact hkept

theorem Saved.content_lost (disk : Disk h) {e : ArtifactError} (hsaved : Saved h setup m mode contents w (some e) w') :
    disk.content w' = disk.content w := by
  have hkept := disk.content_keep setup m mode contents w
  rw [Host.kept, hsaved.keep_eq] at hkept
  exact hkept

/-- Once both outputs of a module are saved, the file of each that was not lost holds all of it. -/
theorem SavesMarked.content {style : Style} (disk : Disk h) {found left : Session σ} {u o : Bytes}
    {l₁ l₂ : Option ArtifactError} {between : σ} (marked : SavesMarked h style setup found left m u o l₁ l₂ between) :
    (l₁ = none → disk.content left.world (artifactPath setup.outputDir m.stem .unoptimized setup.extension) = some u) ∧
    (l₂ = none → disk.content left.world (artifactPath setup.outputDir m.stem .optimized setup.extension) =
      some o) := by
  have hapart : disk.matching.alike (artifactPath setup.outputDir m.stem .unoptimized setup.extension)
      (artifactPath setup.outputDir m.stem .optimized setup.extension) = false := by
    rw [Bool.eq_false_iff, Ne, disk.matching.alike_artifact]
    simp
  constructor
  · rintro rfl
    have hfirst := marked.unoptimized.content_stored disk
    -- the second save goes to another file, if it comes to pass
    cases l₂ with
    | none =>
      simp [marked.optimized.content_stored disk, hfirst, Matching.overlay_singleton, hapart, Matching.alike_self]
    | some e =>
      simp [marked.optimized.content_lost disk, hfirst, Matching.overlay_singleton, Matching.alike_self]
  · rintro rfl
    simp [marked.optimized.content_stored disk, Matching.overlay_singleton, Matching.alike_self]

end Saves

/-- Previews show a text up to a limit of characters, and those in the report of a module show what its two runs have
printed, while the artifacts that are not lost hold all of that. -/
theorem run_shows_previews (disk : Disk h) (style : Style) (setup : Setup) (world : σ) (ms : List Path) :
    (∀ text limit, Console.Abridged text limit) ∧
    ∀ j m u o, j < visitCount ((run h style setup ms).run (.start world)).1 → ms[j]? = some m →
      h.isPresent (sessionAt h style setup world ms j).world m = true →
      (h.reply setup (sessionAt h style setup world ms j).world m .unoptimized).1.output? = some u →
      (h.reply setup (sessionAt h style setup world ms j).world m .optimized).1.output? = some o →
      ∃ l₁ l₂ between, SavesMarked h style setup (sessionAt h style setup world ms j)
          (sessionAt h style setup world ms (j + 1)) m u o l₁ l₂ between ∧
        (l₁ = none → disk.content (sessionAt h style setup world ms (j + 1)).world
          (artifactPath setup.outputDir m.stem .unoptimized setup.extension) = some u) ∧
        (l₂ = none → disk.content (sessionAt h style setup world ms (j + 1)).world
          (artifactPath setup.outputDir m.stem .optimized setup.extension) = some o) := by
  refine ⟨Console.abridged, ?_⟩
  intro j m u o hj hm hpresent hu ho
  obtain ⟨stop, -, rfl, hbefore, hafter, hvisit⟩ := exists_stop hj hm
  rw [← hbefore] at hpresent hu ho
  rw [← hbefore, ← hafter]
  obtain ⟨l₁, l₂, between, marked⟩ := hvisit.savesMarked hpresent hu ho
  exact ⟨l₁, l₂, between, marked, marked.content disk⟩

/-- A source in memory whose two runs print more than is shown of them, the second one undecodable bytes too. -/
def wordyWorld : Memory :=
  ⟨⟨[Path.ofString "a.c"], [], [], []⟩,
    [Text.encode "é\r\nü", [0xFF, 0x0D, 0x0A, 0x41]].map fun stdout => .ok ⟨.exited 0, stdout, [], ⟨0⟩⟩⟩

def briefSetup : Setup := { scriptedSetup with previewLimit := 2 }

/-- The preview is cut behind a carriage return, and a preview of it is the same; the files on disk have all bytes. -/
theorem run_shows_previews_wordy :
    Console.preview (Console.preview "é\r\nü" 2) 2 = "é\r..." ∧
    Memory.disk.content (sessionAt Memory.host ⟨false, false⟩ briefSetup wordyWorld [Path.ofString "a.c"] 1).world
      (Path.ofString ("out/a_" ++ Mode.unoptimized.name ++ ".ll")) = some (Text.encode "é\r\nü") ∧
    Memory.disk.content (sessionAt Memory.host ⟨false, false⟩ briefSetup wordyWorld [Path.ofString "a.c"] 1).world
      (Path.ofString ("out/a_" ++ Mode.optimized.name ++ ".ll")) = some [0xFF, 0x0D, 0x0A, 0x41] := by
  obtain ⟨habridged, hrun⟩ :=
    run_shows_previews Memory.disk ⟨false, false⟩ briefSetup wordyWorld [Path.ofString "a.c"]
  obtain ⟨l₁, l₂, between, marked, hfirst, hsecond⟩ := hrun 0 (Path.ofString "a.c") (Text.encode "é\r\nü")
    [0xFF, 0x0D, 0x0A, 0x41] (by decide +kernel) rfl (by decide +kernel) (by decide +kernel) (by decide +kernel)
  have hlosses : Memory.host.losses briefSetup
      (sessionAt Memory.host ⟨false, false⟩ briefSetup wordyWorld [Path.ofString "a.c"] 0).world
      (Path.ofString "a.c") = [] := by decide +kernel
  rw [marked.losses, List.append_eq_nil_iff, Option.toList_eq_nil_iff, Option.toList_eq_nil_iff] at hlosses
  have hpath (mode : Mode) : artifactPath briefSetup.outputDir (Path.ofString "a.c").stem mode briefSetup.extension =
      Path.ofString ("out/a_" ++ mode.name ++ ".ll") := by cases mode <;> decide +kernel
  rw [hpath, Nat.zero_add] at hfirst hsecond
  refine ⟨?_, hfirst hlosses.1, hsecond hlosses.2⟩
  rw [(habridged "é\r\nü" 2).again]
  decide +kernel

end Batch
end PassDelta
