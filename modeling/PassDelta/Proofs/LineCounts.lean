import PassDelta.Proofs.ArtifactPath
import PassDelta.Proofs.Reports
/-!
# Lines of a text and of its bytes

A line feed is one byte, and decoding neither makes nor loses one: no run that is replaced holds any, and no other
character is written with that byte. So the lines that a report counts in a text are those of the bytes it was decoded
from.
-/

namespace PassDelta
namespace Text

/-- How many parts a list has when `x` ends each of them: one for each `x`, and one for what stands behind the last. -/
def partCount {α : Type} [DecidableEq α] (x : α) (xs : List α) : Nat :=
  xs.count x + if xs ≠ [] ∧ xs.getLast? ≠ some x then 1 else 0

section PartCount
variable {α : Type} [DecidableEq α] {x y : α} {xs ys : List α}

@[simp] theorem partCount_nil : partCount x [] = 0 := rfl

theorem partCount_cons_self (x : α) (xs : List α) : partCount x (x :: xs) = partCount x xs + 1 := by
  cases xs with
  | nil => simp [partCount]
  | cons y ys => simp [partCount, List.getLast?_cons_cons, List.count_cons]; omega

/-- What holds no end goes with the part behind it, or is a part of its own. -/
theorem partCount_append (hne : ys ≠ []) (hys : x ∉ ys) (xs : List α) :
    partCount x (ys ++ xs) = if xs = [] then 1 else partCount x xs := by
  have hcount : ys.count x = 0 := List.count_eq_zero.mpr hys
  by_cases hxs : xs = []
  · have hlast : ys.getLast? ≠ some x := fun h => hys (List.mem_of_getLast? h)
    simp [partCount, hxs, hcount, hne, hlast]
  · simp [partCount, hxs, hcount, List.getLast?_append_of_ne_nil ys hxs]

theorem partCount_cons_of_ne (hy : x ≠ y) (xs : List α) :
    partCount x (y :: xs) = if xs = [] then 1 else partCount x xs :=
  partCount_append (List.cons_ne_nil y []) (by simpa using hy) xs

theorem partCount_eq_zero : partCount x xs = 0 ↔ xs = [] := by
  constructor
  · intro h
    by_contra hne
    obtain ⟨hcount, hlast⟩ : xs.count x = 0 ∧ xs.getLast? = some x := by simpa [partCount, hne] using h
    exact List.count_eq_zero.mp hcount (List.mem_of_getLast? hlast)
  · rintro rfl
    rfl

end PartCount

/-- The lines of a text are its parts ended by line feeds; a state knows whether its text begins with one. -/
theorem foldr_cons_lines (cs : List Char) :
    (cs.foldr LineState.cons ⟨[], false⟩).lines.length = partCount '\n' cs ∧
      ((cs.foldr LineState.cons ⟨[], false⟩).atBreak = true ↔ cs.head? = some '\n') := by
  induction cs with
  | nil => simp
  | cons c cs ih =>
    obtain ⟨hcount, hbreak⟩ := ih
    rw [List.foldr_cons]
    generalize cs.foldr LineState.cons ⟨[], false⟩ = s at hcount hbreak
    unfold LineState.cons
    split_ifs with hfeed hreturn
    · subst hfeed
      simp [partCount_cons_self, hcount]
    · -- the return goes with the line feed behind it, which is a line already
      obtain ⟨rfl, hatBreak⟩ := hreturn
      have hne : cs ≠ [] := by
        rintro rfl
        simp [hatBreak] at hbreak
      simp [partCount_cons_of_ne (by decide : '\n' ≠ '\r'), hne, hcount]
    · have hempty : s.lines = [] ↔ cs = [] := by rw [← List.length_eq_zero_iff, hcount, partCount_eq_zero]
      rw [partCount_cons_of_ne (Ne.symm hfeed)]
      cases hlines : s.lines with
      | nil => simp [hempty.mp hlines, hfeed]
      | cons l ls =>
        have hne : cs ≠ [] := fun h => by simp [hempty.mpr h] at hlines
        simp [hne, ← hcount, hlines, hfeed]

theorem countLines_eq (text : String) : countLines text = partCount '\n' text.toList :=
  (foldr_cons_lines text.toList).1

/-- A run of bytes that is replaced: it is not empty, and none of its bytes stands for a character by itself. -/
def IsUndecodable (run : Bytes) : Prop := run ≠ [] ∧ ∀ b ∈ run, 0x80 ≤ b.toNat

/-- What a splitter sets aside, and what it has under way, are such runs. -/
structure Splitter.Sorted (s : Splitter) : Prop where
  done : ∀ run, .invalid run ∈ s.done → IsUndecodable run
  open? : ∀ p ∈ s.open?, IsUndecodable p.seen.reverse

theorem isUndecodable_first {b : UInt8} {p : Partial} (h : lead b = .first p) : IsUndecodable p.seen.reverse := by
  have begins := lead_begins b
  rw [(lead_sound h).2]
  rw [h] at begins
  cases begins with
  | first hopen hb =>
    have hhigh : 0x80 ≤ b.toNat := by cases hopen <;> simp only [mark] at hb <;> omega
    simpa [IsUndecodable] using hhigh

theorem isUndecodable_bad {b : UInt8} (h : lead b = .bad) : IsUndecodable [b] := by
  have begins := lead_begins b
  rw [h] at begins
  cases begins with
  | bad hhigh => simpa [IsUndecodable] using hhigh

namespace Splitter

theorem sorted_begin {done : List Piece} (hdone : ∀ run, .invalid run ∈ done → IsUndecodable run) (b : UInt8) :
    (begin done b).Sorted := by
  unfold begin
  cases h : lead b with
  | whole c => exact ⟨by simpa using hdone, by simp⟩
  | first p =>
    refine ⟨hdone, fun q hq => ?_⟩
    obtain rfl : p = q := by simpa using hq
    exact isUndecodable_first h
  | bad =>
    refine ⟨fun run hrun => ?_, by simp⟩
    rcases List.mem_cons.mp hrun with heq | hrun
    · obtain rfl := Piece.invalid.inj heq
      exact isUndecodable_bad h
    · exact hdone run hrun

theorem step_sorted {s : Splitter} (hs : s.Sorted) (sound : s.Sound) (b : UInt8) : (s.step b).Sorted := by
  obtain ⟨done, _ | p⟩ := s
  · exact sorted_begin hs.done b
  · have hseen := hs.open? p rfl
    have hp : p.Sound := sound p rfl
    simp only [step]
    split_ifs with awaited hlast
    · exact ⟨by simpa using hs.done, by simp⟩
    · refine ⟨hs.done, fun q hq => ?_⟩
      obtain rfl : p.extend b = q := by simpa using hq
      have hhigh := UInt8.le_iff_toNat_le.mp (UInt8.le_trans hp.low awaited.1)
      refine ⟨by simp [Partial.extend], fun c hc => ?_⟩
      simp only [Partial.extend, List.reverse_cons, List.mem_append, List.mem_singleton] at hc
      rcases hc with hc | rfl
      · exact hseen.2 c hc
      · exact hhigh
    · refine sorted_begin (fun run hrun => ?_) b
      rcases List.mem_cons.mp hrun with heq | hrun
      · obtain rfl := Piece.invalid.inj heq
        exact hseen
      · exact hs.done run hrun

theorem foldl_step_sorted (bytes : Bytes) {s : Splitter} (hs : s.Sorted) (sound : s.Sound) :
    (bytes.foldl step s).Sorted := by
  induction bytes generalizing s with
  | nil => exact hs
  | cons b rest ih => exact ih (step_sorted hs sound b) (step_sound sound b).1

end Splitter

theorem isUndecodable_of_mem_pieces {bytes run : Bytes} (h : .invalid run ∈ pieces bytes) : IsUndecodable run := by
  have sorted := Splitter.foldl_step_sorted bytes (s := .start) ⟨by simp [Splitter.start], by simp [Splitter.start]⟩
    fun p hp => nomatch hp
  rw [pieces] at h
  generalize bytes.foldl Splitter.step .start = s at h sorted
  obtain ⟨done, _ | p⟩ := s
  · exact sorted.done run (by simpa [Splitter.finish] using h)
  · simp only [Splitter.finish, List.reverse_cons, List.mem_append, List.mem_reverse, List.mem_singleton] at h
    rcases h with h | h
    · exact sorted.done run h
    · obtain rfl := Piece.invalid.inj h
      exact sorted.open? p rfl

def lineFeed : UInt8 := 0x0A

/-- A piece is a line feed on both sides of the decoding or holds none on either. -/
theorem piece_lineFeed {bytes : Bytes} {p : Piece} (hp : p ∈ pieces bytes) :
    (p.toChar = '\n' ∧ p.bytes = [lineFeed]) ∨ (p.toChar ≠ '\n' ∧ p.bytes ≠ [] ∧ lineFeed ∉ p.bytes) := by
  cases p with
  | invalid run =>
    obtain ⟨hne, hhigh⟩ := isUndecodable_of_mem_pieces hp
    have hreplaced : replacement ≠ '\n' := by decide
    exact .inr ⟨hreplaced, hne, fun hmem => absurd (hhigh lineFeed hmem) (by decide)⟩
  | scalar c =>
    by_cases hc : c = '\n'
    · subst hc
      exact .inl ⟨rfl, by decide⟩
    · refine .inr ⟨hc, ?_, fun hmem => hc ?_⟩
      · obtain ⟨b, more, hbytes, -⟩ := utf8EncodeChar_first c
        simp [Piece.bytes, hbytes]
      · have hcode := toNat_of_mem_utf8EncodeChar hmem (by decide)
        rw [← Char.ofNat_toNat c, hcode]
        rfl

theorem partCount_pieces {ps : List Piece} (hps : ∀ p ∈ ps,
    (p.toChar = '\n' ∧ p.bytes = [lineFeed]) ∨ (p.toChar ≠ '\n' ∧ p.bytes ≠ [] ∧ lineFeed ∉ p.bytes)) :
    partCount '\n' (ps.map Piece.toChar) = partCount lineFeed (ps.flatMap Piece.bytes) ∧
      (ps = [] ↔ ps.flatMap Piece.bytes = []) := by
  induction ps with
  | nil => simp
  | cons p ps ih =>
    obtain ⟨hcount, hnil⟩ := ih fun q hq => hps q (List.mem_cons_of_mem p hq)
    rw [List.map_cons, List.flatMap_cons]
    rcases hps p List.mem_cons_self with ⟨hchar, hbytes⟩ | ⟨hchar, hne, hfree⟩
    · rw [hchar, hbytes, List.singleton_append, partCount_cons_self, partCount_cons_self, hcount]
      simp
    · rw [partCount_cons_of_ne (Ne.symm hchar), partCount_append hne hfree, hcount]
      simp [← hnil, hne]

/-- The lines of a decoded text are those of its bytes. -/
theorem countLines_lossy_eq (bytes : Bytes) : countLines (lossy bytes) = partCount lineFeed bytes := by
  have hsplit (p : Piece) (hp : p ∈ pieces bytes) := piece_lineFeed hp
  have hpieces := (partCount_pieces hsplit).1
  rw [countLines_eq, lossy, String.toList_ofList, hpieces, flatMap_pieces]

/-- A carriage return in front of a line feed makes no difference. -/
theorem partCount_return (front back : Bytes) :
    partCount lineFeed (front ++ 0x0D :: lineFeed :: back) = partCount lineFeed (front ++ lineFeed :: back) := by
  simp [partCount, lineFeed, List.getLast?_append, List.getLast?_cons_cons]

end Text

variable {σ : Type}

namespace Batch
variable {h : Host σ} {style : Style} {setup : Setup}

/-- The counts of a report are those of the bytes that the two runs have printed, and a save that comes to pass leaves
just these bytes. -/
structure CountsBytes (disk : Disk h) (setup : Setup) (found left : Session σ) (m : Path) (r : Report) : Prop where
  module : r.module = m
  output (mode : Mode) : ∃ bytes, (h.reply setup found.world m mode).1.output? = some bytes ∧
    r.lines.get mode = Text.partCount Text.lineFeed bytes ∧
    ∀ saved, (r.artifacts.get mode, saved) ∈ h.saves setup found.world m →
      saved = bytes ∧ disk.content left.world (r.artifacts.get mode) = some bytes

theorem report_artifacts_get (c : Comparison) (mode : Mode) : (c.report setup).artifacts.get mode =
    artifactPath setup.outputDir c.module.stem mode setup.extension := by cases mode <;> rfl

theorem report_lines_get (c : Comparison) (mode : Mode) : (c.report setup).lines.get mode =
    Text.partCount Text.lineFeed (c.captures.get mode).stdout := by
  cases mode <;> exact Text.countLines_lossy_eq _

theorem Visited.countsBytes (disk : Disk h) {stems : List String} {m : Path} {s t : Session σ} {v : Visit}
    (hv : Visited h style setup stems m s v t) {r : Report} (hr : v.report? setup = some r) :
    CountsBytes disk setup s t m r := by
  have hcontents := hv.contents disk
  cases hv with
  | skipped absent => simp [Visit.report?] at hr
  | failedFirst present first => simp [Visit.report?] at hr
  | failedSecond present first second => simp [Visit.report?] at hr
  | @compared c₁ c₂ l₁ l₂ w₁ w₂ present first second kept₁ kept₂ =>
    obtain rfl := Option.some.inj hr
    have hsaves : h.saves setup s.world m =
        h.kept setup m .unoptimized c₁.stdout (h.reply setup s.world m .optimized).2 ++
          h.kept setup m .optimized c₂.stdout w₁ := by
      simp only [Host.saves, present, setup.judge_output first, setup.judge_output second, kept₁]
    have halike (mode mode' : Mode) := disk.matching.alike_artifact setup.outputDir setup.extension m m mode mode'
    have hapart : artifactPath setup.outputDir m.stem .unoptimized setup.extension ≠
        artifactPath setup.outputDir m.stem .optimized setup.extension := by
      intro heq
      have hmodes := (halike .unoptimized .optimized).mp (heq ▸ disk.matching.alike_self _)
      cases hmodes.2
    refine ⟨rfl, fun mode => ⟨_, ?_, report_lines_get _ mode, fun saved hsaved => ?_⟩⟩
    · cases mode with
      | unoptimized => exact setup.judge_output first
      | optimized => exact setup.judge_output second
    · rw [report_artifacts_get] at hsaved ⊢
      rw [hcontents, hsaves]
      rw [hsaves] at hsaved
      -- the path tells which of the two saves an entry belongs to
      cases mode with
      | unoptimized =>
        rcases List.mem_append.mp hsaved with hmem | hmem
        · obtain ⟨heq, hkept⟩ := Host.mem_kept hmem
          obtain ⟨-, rfl⟩ := Prod.mk.inj heq
          have hother : ∀ save ∈ h.kept setup m .optimized c₂.stdout w₁,
              disk.matching.alike (artifactPath setup.outputDir m.stem .unoptimized setup.extension) save.1 = false := by
            intro save hs
            rw [(Host.mem_kept hs).1, Bool.eq_false_iff, Ne, halike]
            simp
          rw [hkept]
          exact ⟨rfl, Matching.overlay_last _ _ [] _ (disk.matching.alike_self _) hother⟩
        · exact absurd (Prod.mk.inj (Host.mem_kept hmem).1).1 hapart
      | optimized =>
        rcases List.mem_append.mp hsaved with hmem | hmem
        · exact absurd (Prod.mk.inj (Host.mem_kept hmem).1).1 (Ne.symm hapart)
        · obtain ⟨heq, hkept⟩ := Host.mem_kept hmem
          obtain ⟨-, rfl⟩ := Prod.mk.inj heq
          rw [hkept]
          exact ⟨rfl, Matching.overlay_last _ _ _ [] (disk.matching.alike_self _) (by simp)⟩

/-- The lines of any captured output are its line feeds, and one more for a last line without one, whatever the bytes are.
So the counts of every report of a batch are those of the bytes printed at its position and left in its artifacts. -/
theorem run_counts_bytes (disk : Disk h) (style : Style) (setup : Setup) (world : σ) (ms : List Path) :
    (∀ bytes : Bytes, Text.countLines (Text.lossy bytes) = bytes.count Text.lineFeed +
      if bytes ≠ [] ∧ bytes.getLast? ≠ some Text.lineFeed then 1 else 0) ∧
    (∀ front back : Bytes, Text.countLines (Text.lossy (front ++ 0x0D :: Text.lineFeed :: back)) =
      Text.countLines (Text.lossy (front ++ Text.lineFeed :: back))) ∧
    ∀ r ∈ ((run h style setup ms).run (.start world)).1.reports, ∃ i m, ms[i]? = some m ∧
      CountsBytes disk setup (sessionAt h style setup world ms i) (sessionAt h style setup world ms (i + 1)) m r := by
  refine ⟨Text.countLines_lossy_eq, fun front back => ?_, fun r hr => ?_⟩
  · rw [Text.countLines_lossy_eq, Text.countLines_lossy_eq, Text.partCount_return]
  · rw [run_run, Summary.reports_ofVisits] at hr
    obtain ⟨v, hv, hreport⟩ := List.mem_filterMap.mp hr
    obtain ⟨stop, hstop, rfl⟩ := List.mem_map.mp hv
    obtain ⟨i, hi⟩ := List.getElem?_of_mem hstop
    obtain ⟨hm, hfound, hleft⟩ := course_sessions h style setup [] ms (.start world) hi
    have hcounts := (course_visited h style setup [] ms (.start world) stop hstop).countsBytes disk hreport
    rw [hfound, hleft] at hcounts
    exact ⟨i, stop.module, hm, hcounts⟩

/-- A line feed behind a character that broke off, one behind a carriage return, and a last line without one; and the
second report of two that share their artifacts, the first output of which is no text. -/
theorem run_counts_bytes_undecodable :
    Text.countLines (Text.lossy [0xE2, 0x82, 0x0A, 0xFF, 0x0D, 0x0A, 0x61]) = 3 ∧
    ∃ r ∈ ((run Memory.host ⟨false, false⟩ scriptedSetup [Path.ofString "x/a.c", Path.ofString "y/a.c"]).run
        (.start sharedStemWorld)).1.reports, r.module = Path.ofString "y/a.c" ∧ r.lines = ⟨1, 0⟩ ∧
      ∃ i m, [Path.ofString "x/a.c", Path.ofString "y/a.c"][i]? = some m ∧
        CountsBytes Memory.disk scriptedSetup
          (sessionAt Memory.host ⟨false, false⟩ scriptedSetup sharedStemWorld
            [Path.ofString "x/a.c", Path.ofString "y/a.c"] i)
          (sessionAt Memory.host ⟨false, false⟩ scriptedSetup sharedStemWorld
            [Path.ofString "x/a.c", Path.ofString "y/a.c"] (i + 1)) m r := by
  obtain ⟨hcount, -, hreports⟩ := run_counts_bytes Memory.disk ⟨false, false⟩ scriptedSetup sharedStemWorld
    [Path.ofString "x/a.c", Path.ofString "y/a.c"]
  have hmember : (⟨"a", Path.ofString "y/a.c", ⟨1, 0⟩,
      ⟨Path.ofString "out/a_unoptimized.ll", Path.ofString "out/a_optimized.ll"⟩⟩ : Report) ∈
      ((run Memory.host ⟨false, false⟩ scriptedSetup [Path.ofString "x/a.c", Path.ofString "y/a.c"]).run
        (.start sharedStemWorld)).1.reports := by decide +kernel
  exact ⟨(hcount _).trans (by decide), _, hmember, rfl, rfl, hreports _ hmember⟩

end Batch
end PassDelta
