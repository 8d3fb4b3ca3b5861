import PassDelta.Proofs.Json.Members
import PassDelta.Proofs.Reencoding
import Mathlib.Logic.Relation
/-!
# Documents with other members

A document is read from its known members. Whatever else stands in its text, and in which order, the same document is
read; without one that is required, or with one of them twice, none is.
-/

namespace PassDelta
open Json

namespace Document

def scalars (names : List String) : List (String × Kind) := names.map fun name => (name, .scalar)

def entryFields : List (String × Kind) :=
  scalars ["name", "path", "unoptimized_lines", "optimized_lines", "line_delta", "reduction_percent",
    "unoptimized_artifact", "optimized_artifact"]

def lossFields : List (String × Kind) := scalars ["module", "path", "message"]

def errorFields : List (String × Kind) := scalars ["kind", "module", "mode", "message"]

def errorKind : Kind := .struct errorFields (scalars ["stderr"])

def fields : List (String × Kind) :=
  scalars ["success", "status", "analyzed", "skipped", "failed"] ++
    [("modules", .list (.struct entryFields [])), ("skipped_modules", .list .scalar),
      ("artifact_failures", .list (.struct lossFields []))]

def kind : Kind := .struct fields [("error", errorKind)]

section Steps
variable {α β : Type} {name : String} {names : List String}

theorem then_required (get : String → Option Node) (r : Reader α) (h : name ∈ names) (f : Except ReadError β) :
    (fieldStep names get (name, check r) >>= fun _ => f) = required get name r >>= fun _ => f := by
  unfold fieldStep required
  cases get name with
  | none => simp [h, bind, Except.bind]
  | some v =>
    dsimp only [check]
    cases r v <;> rfl

theorem then_optional (get : String → Option Node) (r : Reader α) (h : name ∉ names) (f : Except ReadError β) :
    (fieldStep names get (name, check (readOption r)) >>= fun _ => f) = Json.optional get name r >>= fun _ => f := by
  unfold fieldStep Json.optional
  cases get name with
  | none => simp [h, bind, Except.bind]
  | some v =>
    dsimp only [check]
    cases readOption r v <;> rfl

end Steps

theorem eq_scalar {names names' : List String} {name : String} {k : Kind}
    (h : (scalars names ++ scalars names').lookup name = some k) : k = .scalar := by
  obtain ⟨before, after, happend, -⟩ := List.lookup_eq_some_iff.mp h
  have hmem : (name, k) ∈ scalars names ++ scalars names' := by
    rw [happend]
    simp
  simp only [scalars, List.mem_append, List.mem_map, Prod.mk.injEq] at hmem
  obtain ⟨_, _, _, hk⟩ | ⟨_, _, _, hk⟩ := hmem <;> exact hk.symm

theorem describes_scalars {α : Type} {shape : Shape α} {required optional : List String}
    (hnames : shape.fields.map (·.1) = required ++ optional)
    (hbuilds : ∀ get, (fun _ => ()) <$> shape.build get = forM shape.fields (fieldStep required get)) :
    shape.Describes (scalars required) (scalars optional) where
  fields := by
    have hkinds : scalars required ++ scalars optional = shape.fields.map fun f => (f.1, .scalar) := by
      rw [scalars, scalars, ← List.map_append, ← hnames, List.map_map]
      rfl
    rw [hkinds, List.forall₂_map_right_iff]
    exact List.forall₂_same.mpr fun f _ => ⟨rfl, minds_scalar f.2⟩
  builds get := by
    rw [hbuilds, scalars, List.map_map]
    exact congrArg (fun names => forM shape.fields (fieldStep names get)) (List.map_id _).symm
  kept h _ := by
    obtain ⟨kind, v, v', hkind, -, -, hchange⟩ := h.value
    exact absurd (eq_scalar hkind ▸ hchange) not_within_scalar

theorem describes_entry : entryShape.Describes entryFields [] := by
  change entryShape.Describes (scalars _) (scalars [])
  refine describes_scalars rfl fun get => ?_
  simp only [entryShape, List.forM_cons, List.forM_nil]
  simp (disch := decide) only [then_required, map_bind, map_pure]

theorem describes_loss : lossShape.Describes lossFields [] := by
  change lossShape.Describes (scalars _) (scalars [])
  refine describes_scalars rfl fun get => ?_
  simp only [lossShape, List.forM_cons, List.forM_nil]
  simp (disch := decide) only [then_required, map_bind, map_pure]

theorem describes_error : errorShape.Describes errorFields (scalars ["stderr"]) := by
  refine describes_scalars rfl fun get => ?_
  simp only [errorShape, List.forM_cons, List.forM_nil]
  simp (disch := decide) only [then_required, then_optional, map_bind, map_pure]

theorem describes_document : shape.Describes fields [("error", errorKind)] where
  fields := by
    have hentries := describes_entry.minds.list.check
    have hlosses := describes_loss.minds.list.check
    have herror := describes_error.minds.option.check
    simp only [shape, fields, scalars, List.map_cons, List.map_nil, List.cons_append, List.nil_append,
      List.forall₂_cons, minds_scalar, true_and]
    exact ⟨hentries, (minds_scalar readPath).list.check, hlosses, herror, .nil⟩
  builds get := by
    simp only [shape, List.forM_cons, List.forM_nil]
    simp (disch := decide) only [then_required, then_optional, map_bind, map_pure]
  kept h hbuild := by
    rw [build_eq_ok] at hbuild ⊢
    obtain ⟨hsuccess, hstatus, hanalyzed, hskipped, hfailed, hmodules, hmissing, hlosses, herror⟩ := hbuild
    refine ⟨?_, ?_, ?_, ?_, ?_, ?_, ?_, ?_, ?_⟩
    · exact h.required rfl (minds_scalar _) hsuccess
    · exact h.required rfl (minds_scalar _) hstatus
    · exact h.required rfl (minds_scalar _) hanalyzed
    · exact h.required rfl (minds_scalar _) hskipped
    · exact h.required rfl (minds_scalar _) hfailed
    · exact h.required rfl describes_entry.minds.list hmodules
    · exact h.required rfl (minds_scalar _).list hmissing
    · exact h.required rfl describes_loss.minds.list hlosses
    · exact h.optional rfl describes_error.minds herror

section Missing
variable {name n : String} {get get' : String → Option Node} {ms ms' rest inner inner' : List Member} {k : Lexeme}
  {d : Document} {e : ErrorEntry}

theorem required_of_agreeBut {α : Type} {r : Reader α} (h : AgreeBut name get get') (hn : n ≠ name) :
    required get' n r = required get n r := by
  rw [required, required, h n hn]

theorem optional_of_none {α : Type} {r : Reader α} (h : get name = none) : Json.optional get name r = .ok none := by
  rw [Json.optional, h]

theorem build_other_error {o : Option ErrorEntry} (hsame : AgreeBut "error" get get') (hbuild : shape.build get = .ok d)
    (herror : Json.optional get' "error" errorShape.read = .ok o) : shape.build get' = .ok { d with error := o } := by
  rw [build_eq_ok] at hbuild ⊢
  obtain ⟨hsuccess, hstatus, hanalyzed, hskipped, hfailed, hmodules, hmissing, hlosses, -⟩ := hbuild
  simp (disch := decide) only [required_of_agreeBut hsame]
  exact ⟨hsuccess, hstatus, hanalyzed, hskipped, hfailed, hmodules, hmissing, hlosses, herror⟩

theorem read_without_error (h : shape.read (.obj ms none) = .ok d) (hremoves : Removes "error" ms ms') :
    shape.read (.obj ms' none) = .ok { d with error := none } := by
  obtain ⟨hname⟩ := hremoves
  obtain ⟨get, get', hsame, hnone, hbuild, hread⟩ := Shape.read_removed hname rfl h
  rw [hread]
  exact build_other_error hsame hbuild (optional_of_none hnone)

theorem error_without_stderr (h : errorShape.read (.obj ms none) = .ok e) (hremoves : Removes "stderr" ms ms') :
    errorShape.read (.obj ms' none) = .ok { e with stderr := none } := by
  obtain ⟨hname⟩ := hremoves
  obtain ⟨get, get', hsame, hnone, hbuild, hread⟩ := Shape.read_removed hname rfl h
  rw [hread]
  rw [error_build_eq_ok] at hbuild ⊢
  obtain ⟨hkind, hmodule, hmode, hmessage, -⟩ := hbuild
  simp (disch := decide) only [required_of_agreeBut hsame]
  exact ⟨hkind, hmodule, hmode, hmessage, optional_of_none hnone⟩

theorem readOption_obj (ms : List Member) :
    readOption errorShape.read (.obj ms none) = some <$> errorShape.read (.obj ms none) :=
  readOption_eq Node.noConfusion

/-- A document whose `error` has no `stderr` tells of it without that. -/
theorem read_without_stderr (hk : k.text = .ok "error")
    (h : shape.read (.obj (ms ++ (k, .obj inner none) :: rest) none) = .ok d)
    (hremoves : Removes "stderr" inner inner') :
    shape.read (.obj (ms ++ (k, .obj inner' none) :: rest) none) =
      .ok { d with error := d.error.map fun e => { e with stderr := none } } := by
  have hcheck : check (readOption errorShape.read) (.obj inner none) = .ok () :=
    (passes_field hk rfl).mp ((Shape.read_eq_ok.mp h).1 (k, .obj inner none) (by simp))
  obtain ⟨o, ho⟩ := check_eq_ok.mp hcheck
  obtain ⟨e, he, rfl⟩ := map_eq_ok.mp ((readOption_obj inner).symm.trans ho)
  have ho' : readOption errorShape.read (.obj inner' none) = .ok (some { e with stderr := none }) := by
    rw [readOption_obj, error_without_stderr he hremoves]
    rfl
  obtain ⟨get, get', hsame, hget, hget', hbuild, hread⟩ := Shape.read_replaced hk rfl h (check_eq_ok.mpr ⟨_, ho'⟩)
  have herror : d.error = some e := by
    obtain ⟨-, -, -, -, -, -, -, -, hoptional⟩ := build_eq_ok.mp hbuild
    rw [Json.optional, hget] at hoptional
    exact Except.ok.inj (hoptional.symm.trans ho)
  rw [hread, herror]
  refine build_other_error hsame hbuild ?_
  rw [Json.optional, hget']
  exact ho'

end Missing

def IsText (v : Node) (t : String) : Prop := SpellsPadded v t.toList

theorem read_of_isText {v : Node} {t : String} (h : IsText v t) : Document.read t = shape.read v :=
  h.readDocument shape.read

/-- However the members of a text that is read are rearranged, at whatever depth, and whatever unknown ones come in
between, the same document is read. If moreover a required member is missing, or a known one is there twice, the text is
refused for not being a document. Without `error`, or without the `stderr` of its `error`, the document tells of none. -/
theorem read_minds_known_members (t : String) (d : Document) (h : Document.read t = .ok d) :
    ∃ v, IsText v t ∧ ∀ v', Relation.ReflTransGen (Within Rearranges kind) v v' →
      (∀ t', IsText v' t' → Document.read t' = .ok d) ∧
      (∀ v'' t', Within Spoils kind v' v'' → IsText v'' t' → Document.read t' = .error .mismatch) ∧
      (∀ ms ms' t', v' = .obj ms none → Removes "error" ms ms' → IsText (.obj ms' none) t' →
        Document.read t' = .ok { d with error := none }) ∧
      ∀ ms k inner inner' rest t', v' = .obj (ms ++ (k, .obj inner none) :: rest) none → k.text = .ok "error" →
        Removes "stderr" inner inner' → IsText (.obj (ms ++ (k, .obj inner' none) :: rest) none) t' →
        Document.read t' = .ok { d with error := d.error.map fun e => { e with stderr := none } } := by
  obtain ⟨v, hv, hread⟩ := exists_spells_of_readDocument h
  have hminds := describes_document.minds
  refine ⟨v, hv, fun v' hchain => ?_⟩
  -- no step of a rearrangement changes what is read
  have hv' : shape.read v' = .ok d := by
    induction hchain with
    | refl => exact hread
    | tail _ hstep ih => exact hminds.keeps ih hstep
  refine ⟨fun t' ht' => ?_, fun v'' t' hspoils ht' => ?_, fun ms ms' t' hms hremoves ht' => ?_,
    fun ms k inner inner' rest t' hms hk hremoves ht' => ?_⟩
  · rw [read_of_isText ht', hv']
  · rw [read_of_isText ht', hminds.refuses hv' hspoils]
  · subst hms
    rw [read_of_isText ht', read_without_error hv' hremoves]
  · subst hms
    rw [read_of_isText ht', read_without_stderr hk hv' hremoves]

theorem isText_pretty (w : Json) : IsText (node w) w.pretty := scan_iff_spells.mp ⟨[], scan_pretty w, rfl⟩

theorem IsText.unique {v v' : Node} {t : String} (h : IsText v t) (h' : IsText v' t) : v = v' := by
  obtain ⟨_, hscan, -⟩ := scan_iff_spells.mpr h
  obtain ⟨_, hscan', -⟩ := scan_iff_spells.mpr h'
  exact congrArg Prod.fst (hscan.symm.trans hscan')

def emptyMembers : List (String × Json) :=
  [("success", .bool true), ("status", .str "completed"), ("analyzed", .int 0), ("skipped", .int 0), ("failed", .int 0),
    ("modules", .arr []), ("skipped_modules", .arr []), ("artifact_failures", .arr [])]

/-- A document is read when it tells in front that it is one, and not when it does not tell whether it is a success. -/
theorem read_minds_known_members_note :
    ∃ d, Document.read (Json.obj emptyMembers).pretty = .ok d ∧
      Document.read (Json.obj (("note", .arr [.null]) :: emptyMembers)).pretty = .ok d ∧
      Document.read (Json.obj emptyMembers.tail).pretty = .error .mismatch := by
  have hread : Document.read (Json.obj emptyMembers).pretty =
      .ok ⟨true, "completed", 0, 0, 0, [], [], [], none⟩ := by
    rw [Document.read, readDocument_pretty]
    decide +kernel
  obtain ⟨v, hv, hall⟩ := read_minds_known_members _ _ hread
  obtain rfl := hv.unique (isText_pretty _)
  have hnote : kind.Skips (lexemeOf "note") := .unknown (text_lexemeOf "note") rfl
  have hlist : Spells (node (.arr [.null])) _ := .list (.last (.mk blank_nil .null blank_nil))
  have hinsert : Within Rearranges kind (node (.obj emptyMembers))
      (node (.obj (("note", .arr [.null]) :: emptyMembers))) :=
    .here trivial (@Rearranges.insert kind [] _ _ _ _ hnote hlist)
  have hremove : Within Spoils kind (node (.obj emptyMembers)) (node (.obj emptyMembers.tail)) :=
    .here trivial (.remove (by decide) (@Removes.mk "success" [] _ _ _ (text_lexemeOf "success")))
  refine ⟨_, hread, ?_, ?_⟩
  · exact (hall _ (.single hinsert)).1 _ (isText_pretty _)
  · exact (hall _ .refl).2.1 _ _ hremove (isText_pretty _)

end Document
end PassDelta
