import PassDelta.Proofs.ConfigFile
import PassDelta.Proofs.FaultyDisk
/-!
# Creation of a configuration file

A configuration file is created whole or not at all. What stands in a project is replaced by force only; whatever goes
wrong leaves every file as it was; and what is written in the end is read back as the configuration it was made of.
-/

namespace PassDelta.Config

variable {σ : Type} {h : Host σ} {disk : FaultyDisk h} {c : Config} {root : Path} {force : Bool}

variable (h root force) in
/-- Something stands where the file would go, and it is not to be replaced. -/
def Guarded (s : Session σ) : Prop := h.isPresent s.world (fileIn root) = true ∧ force = false

variable (h root) in
def lookAround (s : Session σ) : List Action :=
  .asked (fileIn root) ::
    if h.isPresent s.world (fileIn root) then [.logged .warn ("overwriting " ++ (fileIn root).display)] else []

def existsAlready (root : Path) : Trouble := .ofFailure (.configExists (fileIn root))

def writeFailed (root : Path) (source : IoError) : Trouble :=
  (Trouble.ofFailure (.io (fileIn root).display source)).context ("Failed to write " ++ fileName)

variable (disk c root force) (s : Session σ) in
/-- How the creation of a file ends: its answer and the session it leaves. -/
inductive Ends : Except Trouble Path → Session σ → Prop where
  | refused (guarded : Guarded h root force s) :
    Ends (.error (existsAlready root)) (s.after s.world [.asked (fileIn root)] 0)
  | unwritable (allowed : ¬ Guarded h root force s) (problem : Unwritable) (text : c.write = .error problem) :
    Ends (.error ⟨["Failed to serialize config"], .words problem.message⟩) (s.after s.world (lookAround h root s) 0)
  | failed (allowed : ¬ Guarded h root force s) (text : String) (written : c.write = .ok text) (source : IoError)
      (fault : disk.fault s.world .write (fileIn root) = some source) :
    Ends (.error (writeFailed root source))
      (s.after s.world (lookAround h root s ++ [.wrote (fileIn root) (Text.encode text).length]) 0)
  | stored (allowed : ¬ Guarded h root force s) (text : String) (written : c.write = .ok text)
      (free : disk.fault s.world .write (fileIn root) = none) (world : σ)
      (content : disk.content world = disk.matching.overlay (disk.content s.world) [(fileIn root, Text.encode text)])
      (directories : disk.directories world = disk.directories s.world)
      (fault : disk.fault world = disk.fault s.world) :
    Ends (.ok (fileIn root))
      (s.after world (lookAround h root s ++ [.wrote (fileIn root) (Text.encode text).length]) 0)

theorem save_failed {text : String} (hc : c.write = .ok text) {s : Session σ} {source : IoError} {w : σ}
    (hw : h.write s.world (fileIn root) (Text.encode text) = (.error source, w)) :
    (save h c root).run s =
      (.error (writeFailed root source), s.after w [.wrote (fileIn root) (Text.encode text).length] 0) := by
  unfold save
  simp only [hc]
  rw [Work.bind_run, Work.write_run, hw]
  rfl

theorem create_refused {s : Session σ} (guarded : Guarded h root force s) :
    (create h c root force).run s = (.error (existsAlready root), s.after s.world [.asked (fileIn root)] 0) := by
  obtain ⟨present, rfl⟩ := guarded
  unfold create isStored
  rw [Work.bind_run, Work.isPresent_run, present]
  rfl

/-- Where nothing is guarded, what is left is a save. -/
theorem create_allowed {s : Session σ} (allowed : ¬ Guarded h root force s) :
    (create h c root force).run s =
      (((save h c root).run (s.after s.world (lookAround h root s) 0)).1.map fun _ => fileIn root,
        ((save h c root).run (s.after s.world (lookAround h root s) 0)).2) := by
  have hgate : (h.isPresent s.world (fileIn root) && !force) = false := by
    by_contra hne
    have hboth := Bool.and_eq_true_iff.1 (Bool.not_eq_false _ ▸ hne)
    exact allowed ⟨hboth.1, by simpa using hboth.2⟩
  have hanswer (t : Session σ) {next : Except Trouble Unit → Work σ (Except Trouble Path)}
      (hnext : ∀ r t, (next r).run t = (r.map fun _ => fileIn root, t)) : (save h c root >>= next).run t =
        (((save h c root).run t).1.map fun _ => fileIn root, ((save h c root).run t).2) := by
    rw [Work.bind_run, hnext]
  unfold create isStored
  rw [Work.bind_run, Work.isPresent_run]
  dsimp only
  rw [hgate, if_neg Bool.false_ne_true]
  cases present : h.isPresent s.world (fileIn root) with
  | false =>
    have hlook : lookAround h root s = [.asked (fileIn root)] := by simp [lookAround, present]
    rw [if_neg Bool.false_ne_true, hlook]
    exact hanswer _ fun r t => by cases r <;> rfl
  | true =>
    have hlook : lookAround h root s =
        [.asked (fileIn root), .logged .warn ("overwriting " ++ (fileIn root).display)] := by simp [lookAround, present]
    rw [if_pos rfl, Work.bind_run, Work.log_run, Session.after_after, hlook]
    exact hanswer _ fun r t => by cases r <;> rfl

theorem create_ends (disk : FaultyDisk h) (c : Config) (root : Path) (force : Bool) (s : Session σ) :
    Ends disk c root force s ((create h c root force).run s).1 ((create h c root force).run s).2 := by
  obtain guarded | allowed := Classical.em (Guarded h root force s)
  · rw [create_refused guarded]
    exact .refused guarded
  · rw [create_allowed allowed]
    cases hc : c.write with
    | error problem =>
      rw [save_unwritable h root hc]
      exact .unwritable allowed problem hc
    | ok text =>
      cases hfault : disk.fault s.world .write (fileIn root) with
      | some source =>
        rw [save_failed hc (s := s.after s.world (lookAround h root s) 0) (disk.write_failed _ hfault),
          Session.after_after]
        exact .failed allowed text hc source hfault
      | none =>
        obtain ⟨world, hw, hcontent, hdirectories, hsame⟩ := disk.write_done (Text.encode text) hfault
        rw [save_written h root hc (s := s.after s.world (lookAround h root s) 0) hw, Session.after_after]
        exact .stored allowed text hc hfault world hcontent hdirectories hsame

variable (disk c root force) in
/-- What is promised of a creation that starts in `s`, answers `answer` and leaves `t`. -/
structure Created (s : Session σ) (answer : Except Trouble Path) (t : Session σ) : Prop where
  unchanged : ∀ e, answer = .error e → t.world = s.world
  refused_iff : (∃ e path, answer = .error e ∧ e.failure? = some (.configExists path)) ↔ Guarded h root force s
  refused : Guarded h root force s → ∃ e, answer = .error e ∧ e.failure? = some (.configExists (fileIn root)) ∧
    e.exitCode = 73 ∧ changes t.trace = changes s.trace
  unwritable : ∀ problem, c.write = .error problem → (∃ e, answer = .error e) ∧ changes t.trace = changes s.trace
  failed : ∀ source text, ¬ Guarded h root force s → c.write = .ok text →
    disk.fault s.world .write (fileIn root) = some source →
    ∃ e, answer = .error e ∧ e.failure? = some (.io (fileIn root).display source) ∧ e.exitCode = 74
  attempted : ∀ e, answer = .error e → changes t.trace ≠ changes s.trace →
    ∃ source, disk.fault s.world .write (fileIn root) = some source ∧
      e.failure? = some (.io (fileIn root).display source)
  succeeds_iff : (∃ path, answer = .ok path) ↔ ¬ Guarded h root force s ∧ (∃ text, c.write = .ok text) ∧
    disk.fault s.world .write (fileIn root) = none
  stored : ∀ path, answer = .ok path → path = fileIn root ∧ ∃ text, c.write = .ok text ∧
    disk.content t.world path = some (Text.encode text) ∧
    (∀ other, disk.matching.alike other path = false → disk.content t.world other = disk.content s.world other) ∧
    disk.directories t.world = disk.directories s.world
  loads : ∀ path, answer = .ok path → c.validate = .ok () → disk.fault s.world .read path = none →
    ((load h root).run t).1 = .ok c

theorem changes_lookAround (s : Session σ) : changes (lookAround h root s) = [] := by
  unfold lookAround
  split <;> rfl

namespace Ends
variable {s t : Session σ} {answer : Except Trouble Path}

theorem unchanged (ends : Ends disk c root force s answer t) {e : Trouble} (he : answer = .error e) :
    t.world = s.world := by
  cases ends with
  | refused | unwritable | failed => rfl
  | stored => cases he

theorem guarded_iff (ends : Ends disk c root force s answer t) :
    (∃ e path, answer = .error e ∧ e.failure? = some (.configExists path)) ↔ Guarded h root force s := by
  cases ends with
  | refused guarded => exact ⟨fun _ => guarded, fun _ => ⟨_, _, rfl, rfl⟩⟩
  | unwritable allowed | failed allowed =>
    refine ⟨?_, fun guarded => absurd guarded allowed⟩
    rintro ⟨e, path, he, hfailure⟩
    cases he
    cases hfailure
  | stored allowed =>
    refine ⟨?_, fun guarded => absurd guarded allowed⟩
    rintro ⟨e, path, he, -⟩
    cases he

theorem of_guarded (ends : Ends disk c root force s answer t) (guarded : Guarded h root force s) :
    answer = .error (existsAlready root) ∧ changes t.trace = changes s.trace := by
  cases ends with
  | refused => exact ⟨rfl, by simp [Action.changesFiles]⟩
  | unwritable allowed | failed allowed | stored allowed => exact absurd guarded allowed

theorem of_unwritable (ends : Ends disk c root force s answer t) {problem : Unwritable}
    (hc : c.write = .error problem) : (∃ e, answer = .error e) ∧ changes t.trace = changes s.trace := by
  cases ends with
  | refused => exact ⟨⟨_, rfl⟩, by simp [Action.changesFiles]⟩
  | unwritable => exact ⟨⟨_, rfl⟩, by simp [changes_lookAround]⟩
  | failed _ text written | stored _ text written => cases hc.symm.trans written

theorem of_fault (ends : Ends disk c root force s answer t) {source : IoError} {text : String}
    (allowed : ¬ Guarded h root force s) (hc : c.write = .ok text)
    (hfault : disk.fault s.world .write (fileIn root) = some source) : answer = .error (writeFailed root source) := by
  cases ends with
  | refused guarded => exact absurd guarded allowed
  | unwritable _ problem unwritten => cases hc.symm.trans unwritten
  | failed _ text written source' fault =>
    obtain rfl := Option.some.inj (hfault.symm.trans fault)
    rfl
  | stored _ text written free => cases hfault.symm.trans free

theorem of_attempt (ends : Ends disk c root force s answer t) {e : Trouble} (he : answer = .error e)
    (attempt : changes t.trace ≠ changes s.trace) :
    ∃ source, disk.fault s.world .write (fileIn root) = some source ∧ e = writeFailed root source := by
  cases ends with
  | refused => exact absurd (by simp [Action.changesFiles]) attempt
  | unwritable => exact absurd (by simp [changes_lookAround]) attempt
  | failed _ text written source fault => exact ⟨source, fault, (Except.error.inj he).symm⟩
  | stored => cases he

theorem succeeds_iff (ends : Ends disk c root force s answer t) : (∃ path, answer = .ok path) ↔
    ¬ Guarded h root force s ∧ (∃ text, c.write = .ok text) ∧ disk.fault s.world .write (fileIn root) = none := by
  constructor
  · rintro ⟨path, rfl⟩
    cases ends with
    | stored allowed text written free => exact ⟨allowed, ⟨text, written⟩, free⟩
  · rintro ⟨allowed, ⟨text, written⟩, free⟩
    cases ends with
    | refused guarded => exact absurd guarded allowed
    | unwritable _ problem unwritten => cases written.symm.trans unwritten
    | failed _ text _ source fault => cases free.symm.trans fault
    | stored => exact ⟨_, rfl⟩

theorem of_ok {path : Path} (ends : Ends disk c root force s (.ok path) t) : path = fileIn root ∧
    ∃ text, c.write = .ok text ∧
      disk.content t.world = disk.matching.overlay (disk.content s.world) [(fileIn root, Text.encode text)] ∧
      disk.directories t.world = disk.directories s.world ∧ disk.fault t.world = disk.fault s.world := by
  cases ends with
  | stored allowed text written free world content directories fault =>
    exact ⟨rfl, text, written, content, directories, fault⟩

end Ends

/-- A file is created whole or nothing is changed; nothing is replaced unasked; what is created is loaded again. -/
theorem create_all_or_nothing (disk : FaultyDisk h) (c : Config) (root : Path) (force : Bool) (s : Session σ) :
    Created disk c root force s ((create h c root force).run s).1 ((create h c root force).run s).2 := by
  have hends := create_ends disk c root force s
  generalize ((create h c root force).run s).1 = answer at hends ⊢
  generalize ((create h c root force).run s).2 = t at hends ⊢
  exact {
    unchanged := fun e he => hends.unchanged he
    refused_iff := hends.guarded_iff
    refused := by
      intro guarded
      obtain ⟨rfl, hchanges⟩ := hends.of_guarded guarded
      exact ⟨_, rfl, rfl, rfl, hchanges⟩
    unwritable := fun problem hc => hends.of_unwritable hc
    failed := by
      intro source text allowed hc hfault
      obtain rfl := hends.of_fault allowed hc hfault
      exact ⟨_, rfl, rfl, rfl⟩
    attempted := by
      intro e he attempt
      obtain ⟨source, hfault, rfl⟩ := hends.of_attempt he attempt
      exact ⟨source, hfault, rfl⟩
    succeeds_iff := hends.succeeds_iff
    stored := by
      rintro path rfl
      obtain ⟨rfl, text, hc, hcontent, hdirectories, -⟩ := hends.of_ok
      rw [hcontent, Matching.overlay_singleton]
      refine ⟨rfl, text, hc, if_pos (disk.matching.alike_self _), fun other hother => ?_, hdirectories⟩
      exact if_neg (Bool.eq_false_iff.mp hother)
    loads := by
      rintro path rfl hvalid hfree
      obtain ⟨rfl, text, hc, hcontent, -, hfault⟩ := hends.of_ok
      have hstored : disk.content t.world (fileIn root) = some (Text.encode text) := by
        rw [hcontent, Matching.overlay_singleton]
        exact if_pos (disk.matching.alike_self _)
      have hread : h.read t.world (fileIn root) = .ok text := disk.read_done (by rw [hfault, hfree]) hstored
      rw [load_stored h root hread, parse_of_write hc hvalid] }

/-- Created once, the settings are loaded as they are, and the second attempt is refused before any write. -/
theorem create_all_or_nothing_unusual :
    ∃ created : Session Memory,
      (create Memory.host unusual (Path.ofString "p") false).run (.start blankWorld) =
        (.ok (fileIn (Path.ofString "p")), created) ∧
      ((load Memory.host (Path.ofString "p")).run created).1 = .ok unusual ∧
      ∃ e, (create Memory.host unusual (Path.ofString "p") false).run created = (.error e, created.after created.world
        [.asked (fileIn (Path.ofString "p"))] 0) ∧ e.exitCode = 73 := by
  refine ⟨_, rfl, ?_, _, rfl, rfl⟩
  exact (create_all_or_nothing Memory.faultyDisk unusual (Path.ofString "p") false (.start blankWorld)).loads _ rfl
    (by decide +kernel) rfl

/-- The defaults as they are written, in a project whose files cannot be read. -/
def unreadWorld : Memory where
  store := { Store.empty with
    files := [(fileIn (Path.ofString "p"), Text.encode (Toml.writeEntries (initial.settings.map Setting.entry)))]
    faults := [⟨.read, none, .os 13⟩] }
  answers := []

/-- A file that is replaced by its own text does not differ from before, and what cannot be read is not loaded. -/
theorem create_unread :
    ∃ created : Session Memory,
      (create Memory.host initial (Path.ofString "p") true).run (.start unreadWorld) =
        (.ok (fileIn (Path.ofString "p")), created) ∧
      initial.validate = .ok () ∧
      (∀ path, created.world.store.content? path = unreadWorld.store.content? path) ∧
      ∀ c, ((load Memory.host (Path.ofString "p")).run created).1 ≠ .ok c := by
  have hwritable : initial.IsWritable := ⟨by simp [initial], rfl, fun _ hn => (nomatch hn), by decide⟩
  have hends := create_ends Memory.faultyDisk initial (Path.ofString "p") true (.start unreadWorld)
  obtain ⟨path, hanswer⟩ := hends.succeeds_iff.2
    ⟨fun guarded => Bool.noConfusion guarded.2, ⟨_, write_of_isWritable hwritable⟩, rfl⟩
  rw [hanswer] at hends
  obtain ⟨rfl, text, htext, hcontent, -, hfault⟩ := hends.of_ok
  obtain rfl := Except.ok.inj ((write_of_isWritable hwritable).symm.trans htext)
  generalize hcreated : ((create Memory.host initial (Path.ofString "p") true).run (.start unreadWorld)).2 = created
    at *
  refine ⟨created, Prod.ext hanswer hcreated, rfl, fun path => (congrFun hcontent path).trans ?_, fun c hc => ?_⟩
  · rw [Matching.overlay_singleton]
    dsimp only
    split
    · next hpath =>
      obtain rfl := of_decide_eq_true hpath
      rfl
    · rfl
  · have hunread : Memory.faultyDisk.fault created.world .read (fileIn (Path.ofString "p")) = some (.os 13) := by
      rw [hfault]
      rfl
    rw [load, Work.bind_run, Work.read_run, Memory.faultyDisk.read_failed hunread] at hc
    cases hc

end PassDelta.Config
