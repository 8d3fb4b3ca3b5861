import PassDelta.Proofs.ArtifactPath
import PassDelta.Proofs.Document
import PassDelta.Proofs.Script
/-!
# What a document has to tell of a batch

The paths in the document of a batch are those of the modules that it came to and, once a module is compared, paths in
and below the output directory. Its counts are bounded by the list of modules and by the captured outputs.
-/

namespace PassDelta

variable {σ : Type}

namespace Text

theorem isSome_decode? {bytes : Bytes} :
    (decode? bytes).isSome = true ↔ ∀ p ∈ pieces bytes, p.toChar?.isSome = true := by
  rw [decode?, Option.isSome_map, Document.isSome_mapM]

/-- A text behind a byte string changes nothing about whether that is text. -/
theorem isSome_decode?_append (bytes : Bytes) (s : String) :
    (decode? (bytes ++ encode s)).isSome = true ↔ (decode? bytes).isSome = true := by
  rw [isSome_decode?, isSome_decode?, pieces_append_encode, List.forall_mem_append]
  have hscalars : ∀ p ∈ s.toList.map Piece.scalar, p.toChar?.isSome = true := by
    intro p hp
    obtain ⟨c, -, rfl⟩ := List.mem_map.mp hp
    rfl
  exact and_iff_left hscalars

end Text

/-- A relative text joined to a path is a text behind it. -/
theorem Path.exists_join_text (dir : Path) {name : String} (hrelative : (ofString name).isAbsolute = false) :
    ∃ t, (dir / ofString name).bytes = dir.bytes ++ Text.encode t := by
  have hjoin : dir / ofString name = dir.join (ofString name) := rfl
  rw [hjoin, join, hrelative]
  cases hlast : dir.bytes.getLast? with
  | none =>
    refine ⟨name, ?_⟩
    rw [List.getLast?_eq_none_iff.mp hlast]
    rfl
  | some b =>
    by_cases hb : b = slash
    · refine ⟨name, ?_⟩
      simp only [hb, Bool.false_eq_true, ↓reduceIte]
      rfl
    · refine ⟨"/" ++ name, ?_⟩
      rw [Text.encode_append]
      simp only [hb, Bool.false_eq_true, ↓reduceIte]
      rfl

/-- The path of an artifact is text exactly if that of the output directory is. -/
theorem isSome_text?_artifactPath (dir : Path) {stem : String} (M : Mode) (extension : String)
    (hstem : '/' ∉ stem.toList) :
    (artifactPath dir stem M extension).text?.isSome = true ↔ dir.text?.isSome = true := by
  obtain ⟨t, ht⟩ := dir.exists_join_text (isAbsolute_artifactName M extension hstem)
  rw [Path.text?, artifactPath, ht, Text.isSome_decode?_append]
  rfl

def Visit.paths (setup : Setup) : Visit → List Path
  | .skipped m => [m]
  | .compared c => [c.module, (c.report setup).artifacts.unoptimized, (c.report setup).artifacts.optimized] ++
      c.failures.flatMap fun f => [f.module, f.error.path]
  | .aborted e => [e.module]

section Paths
variable (h : Host σ) (setup : Setup)

theorem mem_paths_ofVisits_cons {v : Visit} (hv : v.isAborted = false) (vs : List Visit) (p : Path) :
    p ∈ (Summary.ofVisits setup (v :: vs)).paths ↔
      p ∈ v.paths setup ∨ p ∈ (Summary.ofVisits setup vs).paths := by
  cases v with
  | aborted e => cases hv
  | skipped m =>
    simp only [Summary.paths, Summary.ofVisits_eq, Visit.paths, List.filterMap_cons, List.flatMap_cons,
      Visit.report?, Visit.skipped?, Visit.failures, Visit.failure?, List.mem_append,
      List.mem_cons, List.nil_append, List.not_mem_nil, or_false, or_assoc, or_left_comm]
  | compared c =>
    have hmodule : (c.report setup).module = c.module := rfl
    simp only [Summary.paths, Summary.ofVisits_eq, Visit.paths, List.filterMap_cons, List.flatMap_cons,
      Visit.report?, Visit.skipped?, Visit.failures, Visit.failure?, List.mem_append,
      List.mem_cons, List.flatMap_append, List.not_mem_nil, hmodule, or_false, or_assoc, or_left_comm]

theorem mem_paths_iff (w : σ) (ms : List Path) (p : Path) : p ∈ (h.summary setup w ms).paths ↔
    ∃ st ∈ h.stations setup w ms, p ∈ (h.attend setup st.2 st.1).1.paths setup := by
  induction ms generalizing w with
  | nil => simp [Host.summary, Host.visits, Host.stations, Summary.ofVisits, Summary.initial, Summary.paths]
  | cons m rest ih =>
    rw [Host.summary, Host.visits_cons, Host.stations, List.exists_mem_cons_iff]
    by_cases ha : (h.attend setup w m).1.isAborted = true
    · obtain ⟨e, he⟩ := Batch.aborted_of_isAborted ha
      rw [if_pos ha, if_pos ha, he]
      simp [Summary.ofVisits_eq, Summary.paths, Visit.paths, Visit.report?, Visit.skipped?, Visit.failures,
        Visit.failure?]
    · rw [if_neg ha, if_neg ha, mem_paths_ofVisits_cons setup (Bool.eq_false_iff.mpr ha)]
      exact or_congr Iff.rfl (ih _)

theorem keep_path {dir : Path} {extension stem : String} {M : Mode} {contents : Bytes} {w : σ} {e : ArtifactError}
    (he : (h.keep dir extension stem M contents w).1 = some e) :
    e.path = dir ∨ e.path = artifactPath dir stem M extension := by
  unfold Host.keep at he
  split at he
  · obtain rfl := Option.some.inj he
    exact .inl rfl
  · split at he
    · obtain rfl := Option.some.inj he
      exact .inr rfl
    · cases he

inductive Attended (m : Path) : Visit → Prop
  | skipped : Attended m (.skipped m)
  | aborted {e : InvocationError} (module : e.module = m) : Attended m (.aborted e)
  | compared {c : Comparison} (module : c.module = m) (lost : ∀ f ∈ c.failures, f.module = m ∧
      (f.error.path = setup.outputDir ∨ ∃ M, f.error.path = artifactPath setup.outputDir m.stem M setup.extension)) :
    Attended m (.compared c)

theorem attend_attended (w : σ) (m : Path) : Attended setup m (h.attend setup w m).1 := by
  unfold Host.attend
  cases h.isPresent w m with
  | false => exact .skipped
  | true =>
    rw [if_pos rfl]
    cases hfirst : setup.judge m .unoptimized (h.reply setup w m .unoptimized).1 with
    | error e => exact .aborted (setup.judge_error hfirst).2.2.1
    | ok c₁ =>
      cases hsecond : setup.judge m .optimized (h.reply setup w m .optimized).1 with
      | error e => exact .aborted (setup.judge_error hsecond).2.2.1
      | ok c₂ =>
        refine .compared rfl fun f hf => ?_
        obtain ⟨loss, hloss, hf⟩ := List.mem_filterMap.mp hf
        obtain ⟨e, rfl, rfl⟩ := Option.map_eq_some_iff.mp hf
        refine ⟨rfl, ?_⟩
        simp only [PerMode.toList, List.mem_cons, List.not_mem_nil, or_false] at hloss
        rcases hloss with hloss | hloss
        · exact (keep_path h hloss.symm).imp_right fun hpath => ⟨_, hpath⟩
        · exact (keep_path h hloss.symm).imp_right fun hpath => ⟨_, hpath⟩

variable {setup} in
/-- The paths told of a visit are text if the module's is, and the output directory's where it matters. -/
theorem Attended.isText_iff {m : Path} {v : Visit} (hv : Attended setup m v) :
    (∀ p ∈ v.paths setup, p.text?.isSome = true) ↔
      m.text?.isSome = true ∧ ((v.report? setup).isSome = true → setup.outputDir.text?.isSome = true) := by
  cases hv with
  | skipped => simp [Visit.paths, Visit.report?]
  | aborted module => simp [Visit.paths, Visit.report?, module]
  | @compared c module lost =>
    have hartifact (M : Mode) := isSome_text?_artifactPath setup.outputDir M setup.extension m.slash_not_mem_stem
    constructor
    · intro htext
      have hmodule := htext c.module (by simp [Visit.paths])
      have hdir := htext (c.report setup).artifacts.unoptimized (by simp [Visit.paths])
      rw [← module] at hartifact ⊢
      exact ⟨hmodule, fun _ => (hartifact .unoptimized).mp hdir⟩
    · rintro ⟨hmodule, hdir⟩ p hp
      replace hdir := hdir rfl
      have hpath : p = m ∨ p = setup.outputDir ∨ ∃ M, p = artifactPath setup.outputDir m.stem M setup.extension := by
        simp only [Visit.paths, List.mem_append, List.mem_cons, List.not_mem_nil, or_false, List.mem_flatMap] at hp
        rcases hp with (rfl | rfl | rfl) | ⟨f, hf, rfl | rfl⟩
        · exact .inl module
        · exact .inr (.inr ⟨.unoptimized, by rw [← module]; rfl⟩)
        · exact .inr (.inr ⟨.optimized, by rw [← module]; rfl⟩)
        · exact .inl (lost f hf).1
        · exact .inr (lost f hf).2
      rcases hpath with rfl | rfl | ⟨M, rfl⟩
      · exact hmodule
      · exact hdir
      · exact (hartifact M).mpr hdir

/-- The modules that a batch comes to are the first of its list, as many as its summary counts. -/
theorem stations_modules (w : σ) (ms : List Path) :
    (h.stations setup w ms).map Prod.fst = ms.take (Batch.visitCount (h.summary setup w ms)) := by
  rw [← Batch.visitedPositions_eq h ⟨false, false⟩, Batch.visitedPositions, Batch.run_gives, Batch.positions,
    List.map_map]
  have hfst : Prod.fst ∘ (fun p : Path × Nat =>
      (p.1, (Batch.sessionAt h ⟨false, false⟩ setup w ms p.2).world)) = Prod.fst := rfl
  rw [hfst, List.map_take, List.zipIdx_map_fst]

theorem reports_ne_nil_iff (w : σ) (ms : List Path) : (h.summary setup w ms).reports ≠ [] ↔
    ∃ st ∈ h.stations setup w ms, ((h.attend setup st.2 st.1).1.report? setup).isSome = true := by
  have hreports : (h.summary setup w ms).reports =
      (h.stations setup w ms).filterMap fun st => (h.attend setup st.2 st.1).1.report? setup := by
    rw [Host.summary, Summary.ofVisits_eq, Host.visits, List.filterMap_map]
    rfl
  rw [hreports, ne_eq, List.filterMap_eq_nil_iff]
  simp only [not_forall, Option.ne_none_iff_isSome, ← ne_eq, exists_prop]

/-- All that the document of a batch over `ms` has to tell is text: the modules that the batch comes to, and the output
directory if a module is compared. -/
structure Describable (ms : List Path) (summary : Summary) : Prop where
  modules : ∀ m ∈ ms.take (Batch.visitCount summary), m.text?.isSome = true
  outputDir : summary.reports ≠ [] → setup.outputDir.text?.isSome = true

theorem describable_iff (w : σ) (ms : List Path) : Describable setup ms (h.summary setup w ms) ↔
    ∀ p ∈ (h.summary setup w ms).paths, p.text?.isSome = true := by
  have hstation (st : Path × σ) := (attend_attended h setup st.2 st.1).isText_iff
  constructor
  · rintro ⟨modules, outputDir⟩ p hp
    obtain ⟨st, hst, hp⟩ := (mem_paths_iff h setup w ms p).mp hp
    rw [← stations_modules] at modules
    exact (hstation st).mpr ⟨modules st.1 (List.mem_map_of_mem hst),
      fun hreport => outputDir ((reports_ne_nil_iff h setup w ms).mpr ⟨st, hst, hreport⟩)⟩ p hp
  · intro htext
    have hall (st : Path × σ) (hst : st ∈ h.stations setup w ms) :=
      (hstation st).mp fun p hp => htext p ((mem_paths_iff h setup w ms p).mpr ⟨st, hst, hp⟩)
    constructor
    · rw [← stations_modules]
      intro m hm
      obtain ⟨st, hst, rfl⟩ := List.mem_map.mp hm
      exact (hall st hst).1
    · intro hne
      obtain ⟨st, hst, hreport⟩ := (reports_ne_nil_iff h setup w ms).mp hne
      exact (hall st hst).2 hreport

end Paths

namespace Text

theorem LineState.length_cons_le (c : Char) (s : LineState) : (s.cons c).lines.length ≤ s.lines.length + 1 := by
  unfold cons
  split_ifs
  · exact Nat.le_refl _
  · exact Nat.le_succ _
  · cases s.lines with
    | nil => exact Nat.le_refl _
    | cons l ls => exact Nat.le_succ _

theorem countLines_le (text : String) : countLines text ≤ text.toList.length := by
  unfold countLines lines
  induction text.toList with
  | nil => exact Nat.le_refl _
  | cons c cs ih => exact Nat.le_trans (LineState.length_cons_le c _) (Nat.succ_le_succ ih)

end Text

theorem Capture.countLines_le (c : Capture) : Text.countLines c.text ≤ c.stdout.length := by
  have hchars : c.text.toList.length = (Text.pieces c.stdout).length := by
    rw [text, Text.lossy, String.toList_ofList, List.length_map]
  calc Text.countLines c.text ≤ c.text.toList.length := Text.countLines_le c.text
    _ = (Text.pieces c.stdout).length := hchars
    _ ≤ c.stdout.length := Text.length_pieces_le c.stdout

section Counts
variable (h : Host σ) (setup : Setup)

theorem visits_length_le (w : σ) (ms : List Path) : (h.visits setup w ms).length ≤ ms.length := by
  induction ms generalizing w with
  | nil => exact Nat.le_refl _
  | cons m rest ih =>
    rw [Host.visits_cons, List.length_cons, List.length_cons]
    split
    · exact Nat.succ_le_succ (Nat.zero_le _)
    · exact Nat.succ_le_succ (ih _)

/-- With a list of modules and captured outputs whose lengths are machine words, all counts of a batch are. -/
theorem summary_hasWords {w : σ} {ms : List Path} (listed : ms.length < twoTo 64)
    (captured : ∀ c, .compared c ∈ h.visits setup w ms → ∀ M, (c.captures.get M).stdout.length < twoTo 64) :
    (h.summary setup w ms).HasWords := by
  have hlength : (h.visits setup w ms).length < twoTo 64 := Nat.lt_of_le_of_lt (visits_length_le h setup w ms) listed
  have hreport {r : Report} (hr : r ∈ (h.summary setup w ms).reports) :
      ∃ c, .compared c ∈ h.visits setup w ms ∧ r = c.report setup := by
    rw [Host.summary, Summary.reports_ofVisits] at hr
    obtain ⟨v, hv, hr⟩ := List.mem_filterMap.mp hr
    cases v with
    | compared c => exact ⟨c, hv, (Option.some.inj hr).symm⟩
    | skipped m => cases hr
    | aborted e => cases hr
  exact {
    reports := by
      rw [Host.summary, Summary.reports_ofVisits]
      exact Nat.lt_of_le_of_lt (List.length_filterMap_le ..) hlength
    skipped := by
      rw [Host.summary, Summary.skipped_ofVisits]
      exact Nat.lt_of_le_of_lt (List.length_filterMap_le ..) hlength
    unoptimized := by
      intro r hr
      obtain ⟨c, hc, rfl⟩ := hreport hr
      exact Nat.lt_of_le_of_lt c.captures.unoptimized.countLines_le (captured c hc .unoptimized)
    optimized := by
      intro r hr
      obtain ⟨c, hc, rfl⟩ := hreport hr
      exact Nat.lt_of_le_of_lt c.captures.optimized.countLines_le (captured c hc .optimized) }

end Counts
end PassDelta
