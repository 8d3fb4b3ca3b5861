import PassDelta.Proofs.Script
/-!
# Missing modules

A module that is not there is passed over without a question to the compiler, without a change to files, and without
its stem being kept in mind. A list from which such modules are taken out is therefore worked through in the same worlds,
and the script of the batch loses the notices of what was taken out and nothing else.
-/

namespace PassDelta

variable {σ α β : Type}

def without (gone : Nat → Bool) (xs : List α) : List α := (xs.zipIdx.filter fun p => !gone p.2).map Prod.fst

@[simp] theorem without_nil (gone : Nat → Bool) : without gone ([] : List α) = [] := rfl

theorem without_cons (gone : Nat → Bool) (x : α) (xs : List α) : without gone (x :: xs) =
    if gone 0 then without (fun i => gone (i + 1)) xs else x :: without (fun i => gone (i + 1)) xs := by
  unfold without
  rw [List.zipIdx_cons, List.zipIdx_succ, List.filter_cons, List.filter_map]
  cases gone 0 <;> simp [Function.comp_def]

theorem without_map (gone : Nat → Bool) (f : α → β) (xs : List α) :
    (without gone xs).map f = without gone (xs.map f) := by
  induction xs generalizing gone with
  | nil => rfl
  | cons x xs ih =>
    rw [without_cons, List.map_cons, without_cons]
    split
    · exact ih _
    · rw [List.map_cons, ih]

theorem without_sublist (gone : Nat → Bool) (xs : List α) : List.Sublist (without gone xs) xs := by
  have hkept := (List.filter_sublist (p := fun p : α × Nat => !gone p.2) (l := xs.zipIdx)).map Prod.fst
  rwa [List.zipIdx_map_fst] at hkept

theorem without_perm (gone : Nat → Bool) (xs : List α) :
    List.Perm (without (fun i => !gone i) xs ++ without gone xs) xs := by
  have hparts := (List.filter_append_perm (fun p : α × Nat => gone p.2) xs.zipIdx).map Prod.fst
  rw [List.map_append, List.zipIdx_map_fst] at hparts
  simpa only [without, Bool.not_not] using hparts

theorem mem_without {gone : Nat → Bool} {xs : List α} {x : α} :
    x ∈ without gone xs ↔ ∃ i, gone i = false ∧ xs[i]? = some x := by
  simp only [without, List.mem_map, List.mem_filter, Bool.not_eq_true', Prod.exists, List.mem_zipIdx_iff_getElem?]
  constructor
  · rintro ⟨y, i, ⟨hy, hi⟩, rfl⟩
    exact ⟨i, hi, hy⟩
  · rintro ⟨i, hi, hx⟩
    exact ⟨x, i, ⟨hx, hi⟩, rfl⟩

theorem flatMap_without {gone : Nat → Bool} {xs : List α} (f : α → List β)
    (hgone : ∀ i x, gone i = true → xs[i]? = some x → f x = []) : (without gone xs).flatMap f = xs.flatMap f := by
  induction xs generalizing gone with
  | nil => rfl
  | cons x xs ih =>
    have hrest := ih fun i y hi hy => hgone (i + 1) y hi hy
    rw [without_cons, List.flatMap_cons]
    split
    · next hfirst => rw [hrest, hgone 0 x hfirst rfl, List.nil_append]
    · rw [List.flatMap_cons, hrest]

theorem filterMap_without {gone : Nat → Bool} {xs : List α} (f : α → Option β)
    (hgone : ∀ i x, gone i = true → xs[i]? = some x → f x = none) :
    (without gone xs).filterMap f = xs.filterMap f := by
  rw [List.filterMap_eq_flatMap_toList, List.filterMap_eq_flatMap_toList]
  exact flatMap_without _ fun i x hi hx => by rw [hgone i x hi hx]; rfl

namespace Host
variable {h : Host σ} {setup : Setup}

theorem stations_without {gone : Nat → Bool} {w : σ} {ms : List Path}
    (missing : ∀ i p, gone i = true → (h.stations setup w ms)[i]? = some p → h.isPresent p.2 p.1 = false) :
    h.stations setup w (without gone ms) = without gone (h.stations setup w ms) ∧
      h.left setup w (without gone ms) = h.left setup w ms := by
  induction ms generalizing gone w with
  | nil => exact ⟨rfl, rfl⟩
  | cons m rest ih =>
    by_cases hfirst : gone 0 = true
    · -- the world after a module that is missing is the world before it
      have hskip := h.attend_absent setup (missing 0 (m, w) hfirst rfl)
      have hafter : h.stations setup w (m :: rest) = (m, w) :: h.stations setup w rest := by
        rw [stations, hskip]
        rfl
      rw [hafter] at missing ⊢
      obtain ⟨hstations, hleft⟩ := ih fun i p hi hp => missing (i + 1) p hi hp
      rw [without_cons, without_cons, if_pos hfirst, if_pos hfirst, left, hskip]
      exact ⟨hstations, hleft⟩
    · rw [without_cons, if_neg hfirst, stations, stations, left, left, without_cons, if_neg hfirst]
      by_cases ha : (h.attend setup w m).1.isAborted = true
      · simp [ha]
      · rw [Bool.not_eq_true] at ha
        have hlater (i : Nat) (p : Path × σ) (hi : gone (i + 1) = true)
            (hp : (h.stations setup (h.attend setup w m).2 rest)[i]? = some p) : h.isPresent p.2 p.1 = false := by
          refine missing (i + 1) p hi ?_
          simpa [stations, ha] using hp
        obtain ⟨hstations, hleft⟩ := ih hlater
        simp [ha, hstations, hleft]

end Host

namespace Batch

def tellsOfClash (text : String) : Bool :=
  "' with an earlier module, overwriting its artifacts".toList.isSuffixOf text.toList

theorem tellsOfClash_clashWarning (m : Path) : tellsOfClash (clashWarning m) = true := by
  unfold tellsOfClash clashWarning
  rw [List.isSuffixOf_iff_suffix, String.toList_append]
  exact List.suffix_append _ _

/-- The two warnings do not end in the same letter. -/
theorem tellsOfClash_missingWarning (m : Path) : tellsOfClash (missingWarning m) = false := by
  unfold tellsOfClash missingWarning
  rw [Bool.eq_false_iff, ne_eq, List.isSuffixOf_iff_suffix, String.toList_append]
  rintro ⟨front, heq⟩
  have hlast := congrArg List.getLast? heq
  simp at hlast

def clashWarnings (t : List Action) : List String := (warnings t).filter tellsOfClash

variable (style : Style) in
/-- A script with the notices of some missing modules taken out. -/
inductive Trimmed : List Path → List Line → List Line → Prop
  | nil : Trimmed [] [] []
  | keep (line : Line) {ms : List Path} {t t' : List Line} (rest : Trimmed ms t t') :
    Trimmed ms (line :: t) (line :: t')
  | drop (m : Path) {ms : List Path} {t t' : List Line} (rest : Trimmed ms t t') :
    Trimmed (m :: ms) (skipScript style m ++ t) t'

section Trimmed
variable {style : Style} {ms : List Path} {t t' : List Line}

theorem Trimmed.append_left (u : List Line) (rest : Trimmed style ms t t') : Trimmed style ms (u ++ t) (u ++ t') := by
  induction u with
  | nil => exact rest
  | cons line u ih => exact .keep line ih

theorem Trimmed.changes_eq (ht : Trimmed style ms t t') :
    changes (Line.acts t') = changes (Line.acts t) := by
  induction ht with
  | nil => rfl
  | keep line rest ih => cases line <;> simp [ih]
  | drop m rest ih =>
    rw [ih, Line.acts_append, changes_append]
    rfl

theorem Trimmed.clashWarnings_eq (ht : Trimmed style ms t t') :
    clashWarnings (Line.acts t') = clashWarnings (Line.acts t) := by
  induction ht with
  | nil => rfl
  | keep line rest ih =>
    cases line with
    | act a => simpa [clashWarnings] using ih
    | block text => exact ih
  | drop m rest ih =>
    have hnotice : clashWarnings (Line.acts (skipScript style m)) = [] := by
      simp [clashWarnings, skipScript, Action.warning?, tellsOfClash_missingWarning]
    rw [ih, Line.acts_append, clashWarnings, clashWarnings, warnings_append, List.filter_append]
    rw [clashWarnings] at hnotice
    rw [hnotice, List.nil_append]

end Trimmed

variable {h : Host σ} {style : Style} {setup : Setup}

theorem walkScript_without {gone : Nat → Bool} (stems : List String) {found : List (Path × σ)}
    (missing : ∀ i p, gone i = true → found[i]? = some p → h.isPresent p.2 p.1 = false) :
    Trimmed style ((without (fun i => !gone i) found).map Prod.fst) (walkScript h style setup stems found)
      (walkScript h style setup stems (without gone found)) := by
  induction found generalizing gone stems with
  | nil => exact .nil
  | cons p rest ih =>
    obtain ⟨m, w⟩ := p
    have hlater (i : Nat) (p : Path × σ) (hi : gone (i + 1) = true) (hp : rest[i]? = some p) :
        h.isPresent p.2 p.1 = false := missing (i + 1) p hi hp
    have hrest (stems : List String) := ih stems hlater
    rw [without_cons, without_cons]
    by_cases hfirst : gone 0 = true
    · have habsent : h.isPresent w m = false := missing 0 (m, w) hfirst rfl
      have hskip : visitScript h style setup w stems m = skipScript style m := by simp [visitScript, habsent]
      simp only [hfirst, Bool.not_true, Bool.false_eq_true, ↓reduceIte, List.map_cons, walkScript, hskip,
        h.attend_absent setup habsent, stemsAfter]
      exact .drop m (hrest stems)
    · rw [Bool.not_eq_true] at hfirst
      simp only [hfirst, Bool.not_false, Bool.false_eq_true, ↓reduceIte, walkScript]
      exact (hrest _).append_left _

variable (h style setup) in
/-- The batch `shortened` is the batch `whole` over `ms` from `world` without some missing modules in its list: it visits
the other positions in the same worlds, with the same calls and answers and the same saves, and it differs in what is
told of skipped modules. -/
structure NoFootprint (world : σ) (ms : List Path) (gone : Nat → Bool) (whole shortened : Summary × Session σ) : Prop where
  found : visitedPositions h style setup world (without gone ms) = without gone (visitedPositions h style setup world ms)
  reports : shortened.1.reports = whole.1.reports
  artifactFailures : shortened.1.artifactFailures = whole.1.artifactFailures
  failure : shortened.1.failure = whole.1.failure
  status : shortened.1.status = whole.1.status
  calls : callsAt h setup (visitedPositions h style setup world (without gone ms)) =
    callsAt h setup (visitedPositions h style setup world ms)
  commands : commands shortened.2.trace = commands whole.2.trace
  changes : changes shortened.2.trace = changes whole.2.trace
  saves : savesOf h style setup world (without gone ms) = savesOf h style setup world ms
  clashes : clashWarnings shortened.2.trace = clashWarnings whole.2.trace
  skipped : List.Sublist shortened.1.skipped whole.1.skipped ∧ List.Perm whole.1.skipped
    ((without (fun i => !gone i) (visitedPositions h style setup world ms)).map Prod.fst ++ shortened.1.skipped)
  trace : ∃ t t', Trimmed style ((without (fun i => !gone i) (visitedPositions h style setup world ms)).map Prod.fst)
      t t' ∧
    whole.2.trace = h.tell 0 (t ++ closingScript style setup whole.1) ∧
    shortened.2.trace = h.tell 0 (t' ++ closingScript style setup shortened.1)
  world : shortened.2.world = whole.2.world

/-- Missing modules have no part in what a batch gives but the list of skipped ones. -/
theorem ofVisits_without {gone : Nat → Bool} {visits : List Visit}
    (missing : ∀ i v, gone i = true → visits[i]? = some v → ∃ m, v = .skipped m) :
    Summary.ofVisits setup (without gone visits) =
      { Summary.ofVisits setup visits with skipped := (without gone visits).filterMap Visit.skipped? } := by
  have hreports := filterMap_without (Visit.report? setup) fun i v hi hv => by
    obtain ⟨m, rfl⟩ := missing i v hi hv
    rfl
  have hfailures := flatMap_without Visit.failures fun i v hi hv => by
    obtain ⟨m, rfl⟩ := missing i v hi hv
    rfl
  have hfailure := filterMap_without Visit.failure? fun i v hi hv => by
    obtain ⟨m, rfl⟩ := missing i v hi hv
    rfl
  simp only [Summary.ofVisits_eq, hreports, hfailures, hfailure]

theorem changes_closingScript (summary : Summary) : changes (Line.acts (closingScript style setup summary)) = [] := by
  unfold closingScript
  split <;> rfl

theorem warnings_closingScript (summary : Summary) : warnings (Line.acts (closingScript style setup summary)) = [] := by
  unfold closingScript
  split <;> rfl

section Without
variable {gone : Nat → Bool} {w : σ} {ms : List Path}
  (missing : ∀ i p, gone i = true → (h.stations setup w ms)[i]? = some p → h.isPresent p.2 p.1 = false)
include missing

theorem summary_without : h.summary setup w (without gone ms) = { h.summary setup w ms with
    skipped := (without gone (h.visits setup w ms)).filterMap Visit.skipped? } := by
  have hvisits : h.visits setup w (without gone ms) = without gone (h.visits setup w ms) := by
    rw [Host.visits, (Host.stations_without missing).1, without_map]
    rfl
  rw [Host.summary, hvisits]
  refine ofVisits_without fun i v hi hv => ?_
  rw [Host.visits, List.getElem?_map] at hv
  obtain ⟨p, hp, rfl⟩ := Option.map_eq_some_iff.mp hv
  exact ⟨p.1, by rw [h.attend_absent setup (missing i p hi hp)]⟩

theorem skipped_sublist :
    List.Sublist (h.summary setup w (without gone ms)).skipped (h.summary setup w ms).skipped := by
  rw [summary_without missing, Host.summary, Summary.skipped_ofVisits]
  exact (without_sublist gone (h.visits setup w ms)).filterMap _

/-- The skipped modules are those taken out and those left. -/
theorem skipped_perm : List.Perm (h.summary setup w ms).skipped
    ((without (fun i => !gone i) (h.stations setup w ms)).map Prod.fst ++
      (h.summary setup w (without gone ms)).skipped) := by
  let skipped? : Path × σ → Option Path := fun p => (h.attend setup p.2 p.1).1.skipped?
  have hskipped (ms : List Path) : (h.summary setup w ms).skipped = (h.stations setup w ms).filterMap skipped? := by
    simp only [Host.summary, Summary.ofVisits_eq, Host.visits, List.filterMap_map]
    rfl
  have hgone : (without (fun i => !gone i) (h.stations setup w ms)).filterMap skipped? =
      (without (fun i => !gone i) (h.stations setup w ms)).map Prod.fst := by
    rw [← List.filterMap_eq_map]
    refine List.filterMap_congr fun p hp => ?_
    obtain ⟨i, hi, hp⟩ := mem_without.mp hp
    simp only [skipped?, h.attend_absent setup (missing i p (by simpa using hi) hp)]
    rfl
  rw [hskipped, hskipped, (Host.stations_without missing).1, ← hgone, ← List.filterMap_append]
  exact ((without_perm gone (h.stations setup w ms)).filterMap skipped?).symm

theorem calls_without :
    callsAt h setup (h.stations setup w (without gone ms)) = callsAt h setup (h.stations setup w ms) := by
  rw [(Host.stations_without missing).1]
  exact flatMap_without _ fun i p hi hp => by simp [Host.runs, missing i p hi hp]

theorem saves_without : savesOf h style setup w (without gone ms) = savesOf h style setup w ms := by
  rw [savesOf, savesOf, visitedPositions_eq, visitedPositions_eq, (Host.stations_without missing).1]
  exact flatMap_without _ fun i p hi hp => by simp [Host.saves, missing i p hi hp]

end Without

/-- A batch over a list from which missing modules are taken out. The positions that the batch does not come to may be
taken out as well. -/
theorem run_without_missing (h : Host σ) (style : Style) (setup : Setup) (world : σ) (ms : List Path)
    (gone : Nat → Bool) (missing : ∀ i m w, gone i = true →
      (visitedPositions h style setup world ms)[i]? = some (m, w) → h.isPresent w m = false) :
    NoFootprint h style setup world ms gone ((run h style setup ms).run (.start world))
      ((run h style setup (without gone ms)).run (.start world)) := by
  rw [visitedPositions_eq] at missing
  have habsent (i : Nat) (p : Path × σ) (hi : gone i = true) (hp : (h.stations setup world ms)[i]? = some p) :
      h.isPresent p.2 p.1 = false := missing i p.1 p.2 hi hp
  obtain ⟨hstations, hleft⟩ := Host.stations_without habsent
  have hsummary := summary_without habsent
  have hcalls := calls_without habsent
  have htrimmed : Trimmed style ((without (fun i => !gone i) (h.stations setup world ms)).map Prod.fst)
      (walkScript h style setup [] (h.stations setup world ms))
      (walkScript h style setup [] (h.stations setup world (without gone ms))) := by
    rw [hstations]
    exact walkScript_without [] habsent
  exact {
    found := by rw [visitedPositions_eq, visitedPositions_eq, hstations]
    reports := by rw [run_gives, run_gives, hsummary]
    artifactFailures := by rw [run_gives, run_gives, hsummary]
    failure := by rw [run_gives, run_gives, hsummary]
    status := by rw [run_gives, run_gives, hsummary]
    calls := by rw [visitedPositions_eq, visitedPositions_eq, hcalls]
    commands := by rw [run_commands, run_commands, visitedPositions_eq, visitedPositions_eq, hcalls]
    changes := by
      rw [run_tells, run_tells, Host.changes_tell, Host.changes_tell, runScript, runScript, Line.acts_append,
        Line.acts_append, changes_append, changes_append, changes_closingScript, changes_closingScript,
        htrimmed.changes_eq]
    saves := saves_without habsent
    clashes := by
      have hclashes := htrimmed.clashWarnings_eq
      simp only [clashWarnings] at hclashes
      simp only [clashWarnings, run_tells, Host.warnings_tell, runScript, Line.acts_append, warnings_append,
        warnings_closingScript, List.append_nil, hclashes]
    skipped := by
      rw [visitedPositions_eq, run_gives, run_gives]
      exact ⟨skipped_sublist habsent, skipped_perm habsent⟩
    trace := by
      rw [visitedPositions_eq, run_tells, run_tells, run_gives, run_gives]
      exact ⟨_, _, htrimmed, rfl, rfl⟩
    world := by rw [run_leaves, run_leaves, hleft] }

/-- Two modules are missing, and one of them has the stem of a module that is there. -/
def gappedModules : List Path := ["gone/a.c", "a.c", "gone.c", "b.c"].map Path.ofString

/-- The skipped modules stand between two of one stem, and before a run that fails. -/
theorem run_without_missing_shared_stem :
    NoFootprint Memory.host ⟨false, false⟩ scriptedSetup (scriptedWorld [0, 0, 0, 1]) gappedModules (· % 2 == 0)
      ((run Memory.host ⟨false, false⟩ scriptedSetup gappedModules).run (.start (scriptedWorld [0, 0, 0, 1])))
      ((run Memory.host ⟨false, false⟩ scriptedSetup (without (· % 2 == 0) gappedModules)).run
        (.start (scriptedWorld [0, 0, 0, 1]))) ∧
    without (· % 2 == 0) gappedModules = ["a.c", "b.c"].map Path.ofString ∧
    ((run Memory.host ⟨false, false⟩ scriptedSetup gappedModules).run
      (.start (scriptedWorld [0, 0, 0, 1]))).1.status = .aborted := by
  have hlength : (visitedPositions Memory.host ⟨false, false⟩ scriptedSetup (scriptedWorld [0, 0, 0, 1])
      gappedModules).length = 4 := by decide +kernel
  have hall : ∀ i < 4, (i % 2 == 0) = true →
      ((visitedPositions Memory.host ⟨false, false⟩ scriptedSetup (scriptedWorld [0, 0, 0, 1]) gappedModules)[i]?.all
        fun p => !Memory.host.isPresent p.2 p.1) = true := by decide +kernel
  have hmissing (i : Nat) (m : Path) (w : Memory) (hi : (i % 2 == 0) = true)
      (hp : (visitedPositions Memory.host ⟨false, false⟩ scriptedSetup (scriptedWorld [0, 0, 0, 1])
        gappedModules)[i]? = some (m, w)) : Memory.host.isPresent w m = false := by
    have hlt := (List.getElem?_eq_some_iff.mp hp).1
    have habsent := hall i (hlength ▸ hlt) hi
    rw [hp] at habsent
    simpa using habsent
  exact ⟨run_without_missing Memory.host ⟨false, false⟩ scriptedSetup (scriptedWorld [0, 0, 0, 1]) gappedModules
    (· % 2 == 0) hmissing, by decide +kernel, by decide +kernel⟩

end Batch
end PassDelta
