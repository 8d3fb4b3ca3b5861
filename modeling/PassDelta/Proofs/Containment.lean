import PassDelta.Config
import PassDelta.Proofs.Abort
import PassDelta.Proofs.Components
/-!
# Containment of writes

A stem is the text of a part of a name, and an accepted extension has no slash in it, so the name of an artifact is one
component whatever the module's path looks like. A batch creates the output directory alone and writes files directly
below it.
-/

namespace PassDelta

theorem Text.lossy_ne_empty {bytes : Bytes} (h : bytes ≠ []) : lossy bytes ≠ "" := by
  intro hempty
  have hchars : (pieces bytes).map Piece.toChar = [] := by
    have htext := congrArg String.toList hempty
    rwa [lossy, String.toList_ofList, String.toList_empty] at htext
  apply h
  rw [← flatMap_pieces bytes, List.map_eq_nil_iff.mp hchars, List.flatMap_nil]

namespace Path

theorem fileName_ne_nil {p : Path} {name : Bytes} (h : p.fileName = some name) : name ≠ [] := by
  have hmem : .name name ∈ p.components := by
    unfold fileName at h
    split at h
    · next n hlast =>
      obtain rfl := Option.some.inj h
      exact List.mem_of_getLast? hlast
    · cases h
  rintro rfl
  have hsegment : .name [] ∈ p.segments.filterMap componentOf := by
    unfold components at hmem
    split_ifs at hmem <;> simpa using hmem
  exact absurd (isInner_of_mem_segments hsegment).1 (by decide)

theorem stemOfName_ne_nil {name : Bytes} (h : name ≠ []) : stemOfName name ≠ [] := by
  unfold stemOfName
  split
  · exact h
  · next hne => exact hne

theorem stem_ne_empty (m : Path) : m.stem ≠ "" := by
  unfold stem fileStem
  cases hname : m.fileName with
  | none => simp
  | some name => exact Text.lossy_ne_empty (stemOfName_ne_nil (fileName_ne_nil hname))

end Path

theorem Config.slash_not_mem_extension {c : Config} (h : c.validate = .ok ()) : '/' ∉ c.extension.toList := by
  intro hmem
  have hslash : (c.extension.toList.any fun ch => ch = '/' || ch = '\\') = true :=
    List.any_eq_true.mpr ⟨'/', hmem, by decide⟩
  unfold validate fault? at h
  simp only [hslash, if_true] at h
  split_ifs at h

section Artifacts
variable {stem extension : String} (M : Mode)

theorem encode_artifactName : Text.encode (artifactName stem M extension) =
    Text.encode (artifactLabel stem M) ++ Text.encode extension :=
  congrArg Path.bytes (ofString_artifactName M extension)

theorem slash_not_mem_artifactName (hstem : '/' ∉ stem.toList) (hextension : '/' ∉ extension.toList) :
    Path.slash ∉ Text.encode (artifactName stem M extension) := by
  rw [encode_artifactName, List.mem_append]
  rintro (h | h)
  · exact slash_not_mem_encode_label M hstem h
  · exact hextension (Text.slash_mem_encode h)

theorem componentOf_artifactName : Path.componentOf (Text.encode (artifactName stem M extension)) =
    some (.name (Text.encode (artifactName stem M extension))) := by
  rw [encode_artifactName]
  exact componentOf_underscore (List.mem_append_left _ (underscore_mem_encode_label M))

/-- Without slash in stem and extension, an artifact stands directly below its directory. -/
theorem components_artifactPath_name (dir : Path) (hstem : '/' ∉ stem.toList)
    (hextension : '/' ∉ extension.toList) : (artifactPath dir stem M extension).components =
      dir.components ++ [.name (Text.encode (artifactName stem M extension))] :=
  Path.components_join_name (componentOf_artifactName M) (slash_not_mem_artifactName M hstem hextension) dir

end Artifacts

namespace Batch

/-- The path `p` is that of the artifact of the module `m` in a mode, a file of its own name directly in the output
directory. -/
structure Beneath (c : Config) (m : Path) (M : Mode) (p : Path) : Prop where
  path : p = artifactPath c.outputDir m.stem M c.extension
  parent : ∃ q, p.parent = some q ∧ q.same c.outputDir = true
  fileName : p.fileName = some (Text.encode (m.stem ++ "_" ++ M.name ++ "." ++ c.extension))
  components : p.components =
    c.outputDir.components ++ [.name (Text.encode (m.stem ++ "_" ++ M.name ++ "." ++ c.extension))]
  single : Path.slash ∉ Text.encode (m.stem ++ "_" ++ M.name ++ "." ++ c.extension)
  stem_ne_empty : m.stem ≠ ""
  slash_not_mem_stem : '/' ∉ m.stem.toList

theorem artifactPath_beneath {c : Config} (hvalid : c.validate = .ok ()) (m : Path) (M : Mode) :
    Beneath c m M (artifactPath c.outputDir m.stem M c.extension) := by
  have hstem := m.slash_not_mem_stem
  have hextension := Config.slash_not_mem_extension hvalid
  have hcomponents := components_artifactPath_name M c.outputDir hstem hextension
  exact {
    path := rfl
    parent := Path.parent_of_components hcomponents
    fileName := Path.fileName_of_components hcomponents
    components := hcomponents
    single := slash_not_mem_artifactName M hstem hextension
    stem_ne_empty := m.stem_ne_empty
    slash_not_mem_stem := hstem }

/-- With accepted settings, every artifact stands directly in the output directory under a name of its own, and a batch
creates that directory alone and writes artifacts of its modules alone. -/
theorem run_contained {σ : Type} (h : Host σ) (style : Style) {c : Config} (hvalid : c.validate = .ok ()) (world : σ)
    (ms : List Path) : (∀ m M, Beneath c m M (artifactPath c.outputDir m.stem M c.extension)) ∧
      ∀ a ∈ ((run h style c.setup ms).run (.start world)).2.trace,
        (∀ p, a = .madeDir p → p = c.outputDir) ∧ ∀ p n, a = .wrote p n → ∃ m ∈ ms, ∃ M, Beneath c m M p := by
  refine ⟨artifactPath_beneath hvalid, ?_⟩
  intro a ha
  obtain ⟨done, rest, htrace⟩ := List.append_of_mem ha
  constructor
  · rintro p rfl
    obtain ⟨i, m, -, hbacked⟩ := change_of_run htrace rfl
    rcases hbacked.target with hdir | ⟨M, n, hwrote⟩
    · exact Action.madeDir.inj hdir
    · cases hwrote
  · rintro p n rfl
    obtain ⟨i, m, hm, hbacked⟩ := change_of_run htrace rfl
    rcases hbacked.target with hdir | ⟨M, size, hwrote⟩
    · cases hdir
    · obtain ⟨rfl, -⟩ := Action.wrote.inj hwrote
      exact ⟨m, List.mem_of_getElem? hm, M, artifactPath_beneath hvalid m M⟩

/-- Settings with an oddly spelled output directory and an extension of many parts. -/
def oddConfig : Config := { Config.initial with outputDir := Path.ofString "/tmp/./out//", extension := "v..~" }

/-- Modules that end in no name, in a name that begins with a dot, and in bytes that are no text. -/
def oddModules : List Path :=
  [Path.ofString "/", Path.ofString "../..", Path.ofString "", Path.ofString "src/.e/",
    ⟨[0x61, 0x2F, 0xFF, 0x2E, 0x63]⟩]

/-- A world in memory where these modules are there and every run gives nothing. -/
def oddWorld : Memory := ⟨⟨oddModules, [], [], []⟩, List.replicate 10 (.ok ⟨.exited 0, [], [], ⟨0⟩⟩)⟩

/-- An output directory with an odd spelling and an extension of dots: the artifact is in that directory all the same. -/
theorem run_contained_odd_paths : oddConfig.validate = .ok () ∧ ∃ m ∈ oddModules, ∃ M,
    Beneath oddConfig m M (Path.ofString "/tmp/./out//\uFFFD_optimized.v..~") := by
  have hvalid : oddConfig.validate = .ok () := by decide +kernel
  have hwrote : .wrote (Path.ofString "/tmp/./out//\uFFFD_optimized.v..~") 0 ∈
      ((run Memory.host ⟨false, false⟩ oddConfig.setup oddModules).run (.start oddWorld)).2.trace := by
    decide +kernel
  exact ⟨hvalid, ((run_contained Memory.host ⟨false, false⟩ hvalid oddWorld oddModules).2 _ hwrote).2 _ 0 rfl⟩

end Batch
end PassDelta
