import PassDelta.Options
import PassDelta.Proofs.Session
/-!
# Resolving settings

A comparison takes its settings from one file and puts its options over them. What comes of it is a matter of the
answer to reading that file. Of all that may be wrong the first thing decides, and the code of its failure is the exit
code under any contexts.
-/

namespace PassDelta

theorem Trouble.exitCode_foldl_context (t : Trouble) (contexts : List String) :
    (contexts.foldl Trouble.context t).exitCode = t.exitCode := by
  induction contexts generalizing t with
  | nil => rfl
  | cons words rest ih => exact ih (t.context words)

namespace Options

def source (o : Options) (root : Path) : Path := o.config.getD (Config.fileIn root)

def origin (o : Options) : Path := o.config.getD (Path.ofString Config.fileName)

/-- The settings that an answer stands for: those of a usable text, and the defaults where a project has no file. -/
inductive Loaded (o : Options) : Except IoError String → Config → Prop
  | stored {text : String} {c : Config} (read : Config.read text = .ok c) (valid : c.validate = .ok ()) :
    Loaded o (.ok text) c
  | absent {e : IoError} (unnamed : o.config = .none) (missing : e.kind = .notFound) : Loaded o (.error e) .initial

def readContexts (o : Options) : List String :=
  match o.config with
  | some _ => []
  | .none => ["Failed to read " ++ Config.fileName]

/-- The result of resolving, by the answer to reading the file. -/
inductive Resolved (wording : String → String) (o : Options) (root : Path) :
    Except IoError String → Except Trouble Config → Prop
  | notFound {path : Path} {e : IoError} (named : o.config = some path) (missing : e.kind = .notFound) :
    Resolved wording o root (.error e) (.error (.ofFailure (.configNotFound path e)))
  | unreadable {e : IoError} (there : e.kind ≠ .notFound) :
    Resolved wording o root (.error e) (.error ⟨o.readContexts, .failure (.io (o.source root).display e)⟩)
  | undecodable {text : String} {complaint : Toml.Complaint} (read : Config.read text = .error complaint) :
    Resolved wording o root (.ok text) (.error ⟨["Failed to parse " ++ (o.source root).display],
      .failure (.invalidConfig (o.source root) (complaint.render wording text))⟩)
  | unusable {text : String} {c : Config} {fault : Config.Invalid} (read : Config.read text = .ok c)
      (invalid : c.validate = .error fault) :
    Resolved wording o root (.ok text) (.error (.ofFailure (.invalidConfig (o.source root) fault.message)))
  | overridden {found : Except IoError String} {c : Config} {fault : Config.Invalid} (loaded : Loaded o found c)
      (invalid : (o.apply c).validate = .error fault) :
    Resolved wording o root found (.error (.ofFailure (.invalidConfig o.origin fault.message)))
  | idle {found : Except IoError String} {c : Config} (loaded : Loaded o found c)
      (valid : (o.apply c).validate = .ok ()) (empty : (o.apply c).modules = []) :
    Resolved wording o root found (.error (.ofFailure .noModules))
  | settled {found : Except IoError String} {c : Config} (loaded : Loaded o found c)
      (valid : (o.apply c).validate = .ok ()) (listed : (o.apply c).modules ≠ []) :
    Resolved wording o root found (.ok (o.apply c))

def loaded (wording : String → String) (o : Options) (root : Path) : Except IoError String → Except Trouble Config
  | .ok contents => Config.parse wording (o.source root) contents
  | .error e =>
    match o.config with
    | some path =>
      if e.kind = .notFound then .error (.ofFailure (.configNotFound path e))
      else .error (.ofFailure (.io path.display e))
    | .none =>
      if e.kind = .notFound then .ok .initial
      else
        let t := Trouble.ofFailure (.io (Config.fileIn root).display e)
        .error (t.context ("Failed to read " ++ Config.fileName))

/-- The result of resolving, computed from the answer to reading the file. -/
def verdict (wording : String → String) (o : Options) (root : Path) (found : Except IoError String) :
    Except Trouble Config :=
  match o.loaded wording root found with
  | .error t => .error t
  | .ok c => o.merge c o.origin

def readTrace (o : Options) (root : Path) (found : Except IoError String) : List Action :=
  .fetched (o.source root) :: match o.config, found with
    | .none, .error e =>
      if e.kind = .notFound then [.logged .debug ((Config.fileIn root).display ++ " not found, using defaults")] else []
    | _, _ => []

variable {σ : Type} (h : Host σ) (o : Options) (root : Path)

/-- Resolving reads one file and changes nothing. -/
theorem resolve_run (s : Session σ) :
    (o.resolve h root).run s = (o.verdict h.wording root (h.read s.world (o.source root)),
      s.after s.world (o.readTrace root (h.read s.world (o.source root))) 0) := by
  unfold resolve verdict loaded readTrace source origin
  cases o.config with
  | some path =>
    simp only [Config.loadFile, Work.bind_run, Work.read_run, Option.getD_some]
    cases h.read s.world path with
    | ok contents =>
      cases hparse : Config.parse h.wording path contents <;> simp only [hparse, Work.pure_run]
    | error e =>
      by_cases hkind : e.kind = .notFound
      · simp only [hkind, ↓reduceIte, Work.pure_run]
      · simp only [hkind, ↓reduceIte, Work.pure_run]
  | none =>
    simp only [Config.load, Work.bind_run, Work.read_run, Option.getD_none]
    cases h.read s.world (Config.fileIn root) with
    | ok contents =>
      cases hparse : Config.parse h.wording (Config.fileIn root) contents <;> simp only [hparse, Work.pure_run]
    | error e =>
      by_cases hkind : e.kind = .notFound
      · simp only [hkind, ↓reduceIte, Work.bind_run, Work.log_run, Work.pure_run, Session.after_world,
          Session.after_after]
        rfl
      · simp only [hkind, ↓reduceIte, Work.pure_run]

variable {wording : String → String} {o root} {found : Except IoError String} {r : Except Trouble Config} {c : Config}

theorem merge_invalid {fault : Config.Invalid} (invalid : (o.apply c).validate = .error fault) (origin : Path) :
    o.merge c origin = .error (.ofFailure (.invalidConfig origin fault.message)) := by
  simp only [merge, invalid]

theorem merge_valid (valid : (o.apply c).validate = .ok ()) (origin : Path) :
    o.merge c origin = if (o.apply c).modules = [] then .error (.ofFailure .noModules) else .ok (o.apply c) := by
  simp only [merge, valid, List.isEmpty_iff]

/-- Where an answer stands for settings, the options decide about the rest. -/
theorem Loaded.verdict_eq (hc : Loaded o found c) : o.verdict wording root found = o.merge c o.origin := by
  cases hc with
  | stored read valid => simp only [verdict, loaded, Config.parse, read, valid]
  | absent unnamed missing => simp only [verdict, loaded, unnamed, missing, ↓reduceIte]

theorem Resolved.verdict_eq (hr : Resolved wording o root found r) : o.verdict wording root found = r := by
  cases hr with
  | notFound named missing => simp only [verdict, loaded, named, missing, ↓reduceIte]
  | unreadable there =>
    unfold readContexts source
    cases hnamed : o.config with
    | some path => simp only [verdict, loaded, hnamed, there, ↓reduceIte, Option.getD_some, Trouble.ofFailure]
    | none =>
      simp only [verdict, loaded, hnamed, there, ↓reduceIte, Option.getD_none, Trouble.ofFailure, Trouble.context]
  | undecodable read => simp only [verdict, loaded, Config.parse, read, Trouble.ofFailure, Trouble.context]
  | unusable read invalid => simp only [verdict, loaded, Config.parse, read, invalid]
  | overridden hc invalid => rw [hc.verdict_eq, merge_invalid invalid]
  | idle hc valid empty => rw [hc.verdict_eq, merge_valid valid, if_pos empty]
  | settled hc valid listed => rw [hc.verdict_eq, merge_valid valid, if_neg listed]

theorem Loaded.exists_resolved (hc : Loaded o found c) (wording : String → String) (root : Path) :
    ∃ r, Resolved wording o root found r := by
  cases hvalid : (o.apply c).validate with
  | error fault => exact ⟨_, .overridden hc hvalid⟩
  | ok u =>
    by_cases hempty : (o.apply c).modules = []
    · exact ⟨_, .idle hc hvalid hempty⟩
    · exact ⟨_, .settled hc hvalid hempty⟩

theorem exists_resolved (wording : String → String) (o : Options) (root : Path) (found : Except IoError String) :
    ∃ r, Resolved wording o root found r := by
  cases found with
  | ok text =>
    cases hread : Config.read text with
    | error complaint => exact ⟨_, .undecodable hread⟩
    | ok c =>
      cases hvalid : c.validate with
      | error fault => exact ⟨_, .unusable hread hvalid⟩
      | ok u => exact (Loaded.stored hread hvalid).exists_resolved wording root
  | error e =>
    by_cases hkind : e.kind = .notFound
    · cases hnamed : o.config with
      | some path => exact ⟨_, .notFound hnamed hkind⟩
      | none => exact (Loaded.absent hnamed hkind).exists_resolved wording root
    · exact ⟨_, .unreadable hkind⟩

/-- The answer to reading the file leads to one result, and that is what resolving gives. -/
theorem resolved_iff : Resolved wording o root found r ↔ o.verdict wording root found = r := by
  constructor
  · exact Resolved.verdict_eq
  · rintro rfl
    obtain ⟨r, hr⟩ := exists_resolved wording o root found
    rwa [hr.verdict_eq]

/-- The settings `f` are those of `c` with the options over them. -/
structure Overrides (o : Options) (c f : Config) : Prop where
  compiler : f.compiler = o.compiler.getD c.compiler
  outputDir : f.outputDir = o.outputDir.getD c.outputDir
  timeoutSecs : f.timeoutSecs = o.timeoutSecs.or c.timeoutSecs
  previewLimit : f.previewLimit = o.previewLimit.getD c.previewLimit
  modules : f.modules = if o.modules = [] then c.modules else o.modules
  baseArgs : f.baseArgs = c.baseArgs
  flags : f.flags = c.flags
  extension : f.extension = c.extension

theorem overrides_iff {f : Config} : Overrides o c f ↔ f = o.apply c := by
  constructor
  · rintro ⟨compiler, outputDir, timeoutSecs, previewLimit, modules, baseArgs, flags, extension⟩
    obtain ⟨_, _, _, _, _, _, _, _⟩ := f
    simp_all [apply]
  · rintro rfl
    exact ⟨rfl, rfl, rfl, rfl, by simp [apply], rfl, rfl, rfl⟩

/-- A result is an error with the failure `f` at its bottom, and its exit code is `code` under any further contexts. -/
def EndsIn (r : Except Trouble Config) (f : Failure) (code : Nat) : Prop :=
  ∃ t, r = .error t ∧ t.failure? = some f ∧
    ∀ contexts : List String, (contexts.foldl Trouble.context t).exitCode = code

theorem endsIn_failure {contexts : List String} {f g : Failure} {code : Nat} :
    EndsIn (.error ⟨contexts, .failure f⟩) g code ↔ f = g ∧ f.exitCode = code := by
  constructor
  · rintro ⟨t, ht, hf, hcode⟩
    obtain rfl := Except.error.inj ht
    exact ⟨Option.some.inj hf, hcode []⟩
  · rintro ⟨rfl, hcode⟩
    exact ⟨_, rfl, rfl, fun more => (Trouble.exitCode_foldl_context _ more).trans hcode⟩

def Useless (wording : String → String) (text reason : String) : Prop :=
  (∃ complaint, Config.read text = .error complaint ∧ reason = complaint.render wording text) ∨
    ∃ c fault, Config.read text = .ok c ∧ c.validate = .error fault ∧ reason = fault.message

/-- What resolving comes to when reading the file has given `found`: of all that may be wrong the first thing decides,
and where nothing is wrong the result is usable, lists modules, and is what the file and the options say. -/
structure Decides (wording : String → String) (o : Options) (root : Path) (found : Except IoError String)
    (r : Except Trouble Config) : Prop where
  notFound : ∀ path e, EndsIn r (.configNotFound path e) 66 ↔
    o.config = some path ∧ found = .error e ∧ e.kind = .notFound
  unreadable : ∀ words e, EndsIn r (.io words e) 74 ↔
    found = .error e ∧ e.kind ≠ .notFound ∧ words = (o.source root).display
  invalid : ∀ path reason, EndsIn r (.invalidConfig path reason) 65 ↔
    (∃ text, found = .ok text ∧ Useless wording text reason ∧ path = o.source root) ∨
    ∃ c f fault, Loaded o found c ∧ Overrides o c f ∧ f.validate = .error fault ∧ reason = fault.message ∧
      path = o.origin
  noModules : EndsIn r .noModules 64 ↔
    ∃ c f, Loaded o found c ∧ Overrides o c f ∧ f.validate = .ok () ∧ f.modules = []
  settled : ∀ f, r = .ok f ↔
    ∃ c, Loaded o found c ∧ Overrides o c f ∧ f.validate = .ok () ∧ f.modules ≠ []
  failed : ∀ t, r = .error t →
    (∃ path e, EndsIn r (.configNotFound path e) 66) ∨ (∃ words e, EndsIn r (.io words e) 74) ∨
      (∃ path reason, EndsIn r (.invalidConfig path reason) 65) ∨ EndsIn r .noModules 64

section Failures
variable {t : Trouble}

theorem Resolved.of_notFound {path : Path} {e : IoError} (hr : Resolved wording o root found (.error t))
    (hf : t.failure? = some (.configNotFound path e)) :
    o.config = some path ∧ found = .error e ∧ e.kind = .notFound := by
  cases hr with
  | notFound named missing =>
    cases hf
    exact ⟨named, rfl, missing⟩
  | _ => cases hf

theorem Resolved.of_unreadable {words : String} {e : IoError} (hr : Resolved wording o root found (.error t))
    (hf : t.failure? = some (.io words e)) :
    found = .error e ∧ e.kind ≠ .notFound ∧ words = (o.source root).display := by
  cases hr with
  | unreadable there =>
    cases hf
    exact ⟨rfl, there, rfl⟩
  | _ => cases hf

theorem Resolved.of_invalid {path : Path} {reason : String} (hr : Resolved wording o root found (.error t))
    (hf : t.failure? = some (.invalidConfig path reason)) :
    (∃ text, found = .ok text ∧ Useless wording text reason ∧ path = o.source root) ∨
      ∃ c f fault, Loaded o found c ∧ Overrides o c f ∧ f.validate = .error fault ∧ reason = fault.message ∧
        path = o.origin := by
  cases hr with
  | undecodable read =>
    cases hf
    exact .inl ⟨_, rfl, .inl ⟨_, read, rfl⟩, rfl⟩
  | unusable read invalid =>
    cases hf
    exact .inl ⟨_, rfl, .inr ⟨_, _, read, invalid, rfl⟩, rfl⟩
  | overridden hc invalid =>
    cases hf
    exact .inr ⟨_, _, _, hc, overrides_iff.2 rfl, invalid, rfl, rfl⟩
  | _ => cases hf

theorem Resolved.of_noModules (hr : Resolved wording o root found (.error t)) (hf : t.failure? = some .noModules) :
    ∃ c f, Loaded o found c ∧ Overrides o c f ∧ f.validate = .ok () ∧ f.modules = [] := by
  cases hr with
  | idle hc valid empty => exact ⟨_, _, hc, overrides_iff.2 rfl, valid, empty⟩
  | _ => cases hf

theorem Resolved.useless (o : Options) (root : Path) {text reason : String} (hu : Useless wording text reason) :
    ∃ contexts, Resolved wording o root (.ok text)
      (.error ⟨contexts, .failure (.invalidConfig (o.source root) reason)⟩) := by
  rcases hu with ⟨complaint, hread, rfl⟩ | ⟨c, fault, hread, hinvalid, rfl⟩
  · exact ⟨_, .undecodable hread⟩
  · exact ⟨_, .unusable hread hinvalid⟩

end Failures

/-- Resolving decides by the answer to reading one file, in the order of what may be wrong. -/
theorem resolve_decides {σ : Type} (h : Host σ) (root : Path) (o : Options) (s : Session σ) :
    Decides h.wording o root (h.read s.world (o.source root)) ((o.resolve h root).run s).1 := by
  obtain ⟨found, hfound⟩ : ∃ found, h.read s.world (o.source root) = found := ⟨_, rfl⟩
  obtain ⟨r, hr⟩ : ∃ r, o.verdict h.wording root found = r := ⟨_, rfl⟩
  have hresolved : Resolved h.wording o root found r := resolved_iff.2 hr
  rw [resolve_run, hfound, hr]
  -- an answer that is the right one for some result is so for this one alone
  have hends {contexts : List String} {f : Failure}
      (hf : Resolved h.wording o root found (.error ⟨contexts, .failure f⟩)) :
      EndsIn r f f.exitCode := by
    obtain rfl := hr.symm.trans hf.verdict_eq
    exact endsIn_failure.2 ⟨rfl, rfl⟩
  exact {
    notFound := by
      intro path e
      constructor
      · rintro ⟨t, rfl, hf, -⟩
        exact hresolved.of_notFound hf
      · rintro ⟨named, rfl, missing⟩
        exact hends (.notFound named missing)
    unreadable := by
      intro words e
      constructor
      · rintro ⟨t, rfl, hf, -⟩
        exact hresolved.of_unreadable hf
      · rintro ⟨rfl, there, rfl⟩
        exact hends (.unreadable there)
    invalid := by
      intro path reason
      constructor
      · rintro ⟨t, rfl, hf, -⟩
        exact hresolved.of_invalid hf
      · rintro (⟨text, rfl, useless, rfl⟩ | ⟨c, f, fault, hc, hover, invalid, rfl, rfl⟩)
        · obtain ⟨contexts, hr⟩ := Resolved.useless o root useless
          exact hends hr
        · obtain rfl := overrides_iff.1 hover
          exact hends (.overridden hc invalid)
    noModules := by
      constructor
      · rintro ⟨t, rfl, hf, -⟩
        exact hresolved.of_noModules hf
      · rintro ⟨c, f, hc, hover, valid, empty⟩
        obtain rfl := overrides_iff.1 hover
        exact hends (.idle hc valid empty)
    settled := by
      intro f
      constructor
      · rintro rfl
        cases hresolved with
        | settled hc valid listed => exact ⟨_, hc, overrides_iff.2 rfl, valid, listed⟩
      · rintro ⟨c, hc, hover, valid, listed⟩
        obtain rfl := overrides_iff.1 hover
        exact hr.symm.trans (Resolved.settled hc valid listed).verdict_eq
    failed := by
      rintro t rfl
      cases hresolved with
      | notFound named missing => exact .inl ⟨_, _, endsIn_failure.2 ⟨rfl, rfl⟩⟩
      | unreadable there => exact .inr (.inl ⟨_, _, endsIn_failure.2 ⟨rfl, rfl⟩⟩)
      | undecodable read => exact .inr (.inr (.inl ⟨_, _, endsIn_failure.2 ⟨rfl, rfl⟩⟩))
      | unusable read invalid => exact .inr (.inr (.inl ⟨_, _, endsIn_failure.2 ⟨rfl, rfl⟩⟩))
      | overridden hc invalid => exact .inr (.inr (.inl ⟨_, _, endsIn_failure.2 ⟨rfl, rfl⟩⟩))
      | idle hc valid empty => exact .inr (.inr (.inr (endsIn_failure.2 ⟨rfl, rfl⟩))) }

end Options
end PassDelta
