import Mathlib.Data.List.Nodup
import Mathlib.Data.List.Perm.Basic
import PassDelta.Proofs.ConfigFile
import PassDelta.Proofs.Toml.Documents
/-!
# Partial configuration files

A file may hold some of the settings only, in any order, and entries of other programs besides. Every setting that is
there is taken over, every other one has its default, and the result is checked as a whole.
-/

namespace PassDelta.Config

open Toml

def keys : List String :=
  ["compiler", "base-args", "unoptimized-flags", "optimized-flags", "modules", "output-dir", "extension",
    "timeout-secs", "preview-limit"]

def isForeign (name : String) : Bool := !keys.contains name

theorem isForeign_entry (setting : Setting) : isForeign setting.entry.1 = false := by cases setting <;> rfl

theorem absorb_foreign {key : Key} (hkey : isForeign key.name = true) (c : Config) (item : Item) :
    c.absorb key item = .ok c := by
  unfold absorb
  split
  all_goals first | rfl | (next h => rw [h] at hkey; exact absurd hkey (by decide))

/-- Members that are no settings are passed over. -/
theorem ofMembers_part (members : Members) :
    ofMembers members = ofMembers (part (fun name => !isForeign name) members) := by
  unfold ofMembers
  generalize initial = c
  induction members generalizing c with
  | nil => rfl
  | cons m rest ih =>
    cases hm : isForeign m.1.name with
    | true =>
      rw [List.foldlM_cons, absorb_foreign hm, part, List.filter_cons_of_neg (by simp [hm])]
      exact ih c
    | false =>
      rw [List.foldlM_cons, part, List.filter_cons_of_pos (by simp [hm]), List.foldlM_cons]
      cases c.absorb m.1 m.2 with
      | error e => rfl
      | ok next => exact ih next

theorem put_comm {s t : Setting} (h : s.entry.1 ≠ t.entry.1) (c : Config) :
    Setting.put (Setting.put c s) t = Setting.put (Setting.put c t) s := by
  cases s <;> cases t <;> first | rfl | exact absurd rfl h

theorem foldl_put_perm {settings settings' : List Setting} (hperm : settings.Perm settings')
    (hnew : ((settings.map Setting.entry).map Prod.fst).Nodup) (c : Config) :
    settings.foldl Setting.put c = settings'.foldl Setting.put c := by
  refine hperm.foldl_eq' (fun s hs t ht c => ?_) c
  by_cases hname : s.entry.1 = t.entry.1
  · rw [List.map_map] at hnew
    rw [List.inj_on_of_nodup_map hnew hs ht hname]
  · exact put_comm hname c

/-- The chosen settings of a configuration, the others at their defaults. -/
def keeping (chosen : String → Bool) (c : Config) : Config where
  compiler := if chosen "compiler" then c.compiler else initial.compiler
  baseArgs := if chosen "base-args" then c.baseArgs else initial.baseArgs
  flags := {
    unoptimized := if chosen "unoptimized-flags" then c.flags.unoptimized else initial.flags.unoptimized
    optimized := if chosen "optimized-flags" then c.flags.optimized else initial.flags.optimized }
  modules := if chosen "modules" then c.modules else initial.modules
  outputDir := if chosen "output-dir" then c.outputDir else initial.outputDir
  extension := if chosen "extension" then c.extension else initial.extension
  timeoutSecs := if chosen "timeout-secs" then c.timeoutSecs else initial.timeoutSecs
  previewLimit := if chosen "preview-limit" then c.previewLimit else initial.previewLimit

/-- A setting that may be taken over or not changes one field, or not. -/
theorem ite_put (b : Bool) (c : Config) (s : Setting) : (if b = true then Setting.put c s else c) =
    match s with
    | .compiler t => { c with compiler := if b then t else c.compiler }
    | .baseArgs ts => { c with baseArgs := if b then ts else c.baseArgs }
    | .unoptimizedFlags ts =>
      { c with flags := { c.flags with unoptimized := if b then ts else c.flags.unoptimized } }
    | .optimizedFlags ts => { c with flags := { c.flags with optimized := if b then ts else c.flags.optimized } }
    | .modules ts => { c with modules := if b then ts.map Path.ofString else c.modules }
    | .outputDir t => { c with outputDir := if b then Path.ofString t else c.outputDir }
    | .extension t => { c with extension := if b then t else c.extension }
    | .timeoutSecs n => { c with timeoutSecs := if b then some n else c.timeoutSecs }
    | .previewLimit n => { c with previewLimit := if b then n else c.previewLimit } := by
  cases b <;> cases s <;> rfl

theorem foldl_put_chosen {c : Config} (h : c.IsWritable) (chosen : String → Bool) :
    (c.settings.filter fun s => chosen s.entry.1).foldl Setting.put initial = c.keeping chosen := by
  have hmodules := map_ofString_display h.modules
  have hout := ofString_display h.outputDir
  -- a time limit that is not set has no entry, and the default has none either
  have hnone : (if chosen "timeout-secs" then none else initial.timeoutSecs) = initial.timeoutSecs := ite_self _
  rw [List.foldl_filter]
  simp only [ite_put]
  obtain ⟨compiler, baseArgs, ⟨unoptimized, optimized⟩, modules, outputDir, extension, timeout, limit⟩ := c
  dsimp only at hout hmodules
  cases timeout with
  | none =>
    simp only [settings, Option.map_none, Option.toList_none, List.append_nil, List.cons_append, List.nil_append,
      List.foldl_cons, List.foldl_nil, Setting.entry, hout, hmodules, keeping, hnone]
    rfl
  | some n =>
    simp only [settings, Option.map_some, Option.toList_some, List.cons_append, List.nil_append, List.foldl_cons,
      List.foldl_nil, Setting.entry, hout, hmodules, keeping]
    rfl

/-- A file with the settings among `all` that are `chosen`, each as it is written and in any order, with entries between
them and a text behind them that by themselves are TOML and define no settings. -/
structure IsPartial (all : List (String × Datum)) (chosen : String → Bool) (doc : List Row) (tail : List Char) :
    Prop where
  settings : (doc.filterMap Row.setting?).Perm (all.filter fun e => chosen e.1)
  entries : ∀ text, .foreign text ∈ doc → IsEntry text
  bare : skipMark tail = tail
  alone : ∃ others, Toml.read (doc.flatMap Row.foreignText ++ tail) = some others ∧ ∀ name ∈ others.names, name ∉ keys

theorem read_partial {c : Config} (h : c.IsWritable) {chosen : String → Bool} {doc : List Row} {tail : List Char}
    (hdoc : IsPartial (c.settings.map Setting.entry) chosen doc tail) :
    read (String.ofList (doc.flatMap Row.text ++ tail)) = .ok (c.keeping chosen) := by
  have hfilter : (c.settings.map Setting.entry).filter (fun e => chosen e.1) =
      (c.settings.filter fun s => chosen s.entry.1).map Setting.entry := List.filter_map
  have hcomp : Relation.Comp (· = List.map Setting.entry ·) List.Perm (doc.filterMap Row.setting?)
      (c.settings.filter fun s => chosen s.entry.1) := by
    rw [List.eq_map_comp_perm]
    exact hdoc.settings.trans (.of_eq hfilter)
  obtain ⟨settings, hsettings, hperm⟩ := hcomp
  have hmem : ∀ e, .setting e ∈ doc → ∃ s ∈ c.settings, s.entry = e := by
    intro e he
    have hentry : e ∈ settings.map Setting.entry := by
      rw [← hsettings]
      exact List.mem_filterMap.2 ⟨_, he, rfl⟩
    obtain ⟨s, hs, rfl⟩ := List.mem_map.1 hentry
    exact ⟨s, (List.mem_filter.1 (hperm.subset hs)).1, rfl⟩
  have hreadable : ∀ e, .setting e ∈ doc → IsBare e.1 ∧ e.2.IsReadable ∧ isForeign e.1 = false := by
    intro e he
    obtain ⟨s, hs, rfl⟩ := hmem e he
    exact ⟨s.isBare_entry, isReadable_settings h s hs, isForeign_entry s⟩
  have hnew : ((settings.map Setting.entry).map Prod.fst).Nodup := by
    refine ((hperm.map Setting.entry).map Prod.fst).nodup_iff.2 ?_
    exact (nodup_settings c).sublist ((List.filter_sublist.map _).map _)
  obtain ⟨others, halone, hothers⟩ := hdoc.alone
  obtain ⟨members, hmembers, hall⟩ := read_document hreadable hdoc.entries hdoc.bare (by rw [hsettings]; exact hnew)
    halone fun name hname => by simp [isForeign, hothers name hname]
  rw [hsettings] at hall
  rw [Config.read, String.toList_ofList, hmembers]
  dsimp only
  rw [ofMembers_part, ofMembers_settings hall, foldl_put_perm hperm hnew, foldl_put_chosen h]

/-- Chosen settings of a configuration that can be written, in any order and among any other entries, are loaded with
the defaults of the others, or refused for what these make of them. -/
theorem parse_partial {c : Config} {all : List (String × Datum)} (hall : c.entries = .ok all) {chosen : String → Bool}
    {doc : List Row} {tail : List Char} (hdoc : IsPartial all chosen doc tail) (wording : String → String) (path : Path) :
    parse wording path (String.ofList (doc.flatMap Row.text ++ tail)) =
      match (c.keeping chosen).validate with
      | .ok () => .ok (c.keeping chosen)
      | .error fault => .error (.ofFailure (.invalidConfig path fault.message)) := by
  have hwrite : c.write = .ok (writeEntries all) := by
    rw [write, hall]
    rfl
  have hwritable := isWritable_of_write hwrite
  rw [entries_of_isWritable hwritable] at hall
  obtain rfl := Except.ok.inj hall
  rw [parse, read_partial hwritable hdoc]
  dsimp only
  cases (c.keeping chosen).validate <;> rfl

def solc (timeout : Nat) : Config := { initial with compiler := "solc", extension := "", timeoutSecs := some timeout }

/-- Its settings out of order, among entries of other programs: under a dotted key, under a key in quotes, with what is
a setting by its name alone inside, and over several lines with comments. -/
def solcLines (timeout : Nat) : List Row :=
  [.foreign "tool.debug = \x7b level = 3, extension = [] \x7d # of another program\n".toList,
    .setting ("timeout-secs", .number timeout), .foreign "  'a b' = [ # of lists\n  [1.5,], [\"\"\"\n\"\"\"]]\n".toList,
    .setting ("compiler", .text "solc")]

def otherTables : List Char := "\n[[tasks]]\ncompiler = \"cc\"\n[tasks.'preview-limit']\n[[tasks]]".toList

def solcNames (name : String) : Bool := name = "compiler" || name = "timeout-secs"

theorem isPartial_solc (timeout : Nat) :
    IsPartial ((solc timeout).settings.map Setting.entry) solcNames (solcLines timeout) otherTables where
  settings := List.Perm.swap _ _ _
  entries := by
    intro text htext
    simp only [solcLines, List.mem_cons, Row.foreign.injEq, reduceCtorEq, List.not_mem_nil, or_false,
      false_or] at htext
    rcases htext with rfl | rfl
    · exact ⟨List.getLast?_eq_some_iff.1 (by decide +kernel), by decide +kernel⟩
    · exact ⟨List.getLast?_eq_some_iff.1 (by decide +kernel), by decide +kernel⟩
  bare := rfl
  alone := by
    have hnames : (Toml.read ((solcLines timeout).flatMap Row.foreignText ++ otherTables)).map Members.names =
        some ["tool", "a b", "tasks"] := by
      change (Toml.read ((solcLines 0).flatMap Row.foreignText ++ otherTables)).map Members.names = _
      decide +kernel
    obtain ⟨others, hothers, heq⟩ := Option.map_eq_some_iff.1 hnames
    exact ⟨others, hothers, by rw [heq]; decide⟩

/-- A time limit of five seconds is taken over, one of zero refused. -/
theorem parse_partial_solc :
    parse id (Path.ofString "p") (String.ofList ((solcLines 5).flatMap Row.text ++ otherTables)) =
        .ok { initial with compiler := "solc", timeoutSecs := some 5 } ∧
      parse id (Path.ofString "p") (String.ofList ((solcLines 0).flatMap Row.text ++ otherTables)) =
        .error (.ofFailure (.invalidConfig (Path.ofString "p") Invalid.zeroTimeout.message)) := by
  have hwritable (timeout : Nat) (h : timeout < twoTo 63) : (solc timeout).IsWritable :=
    ⟨by simp [solc, initial], rfl, fun n hn => Option.some.inj hn ▸ h, show 1000 < twoTo 63 by decide⟩
  have hfive := parse_partial (entries_of_isWritable (hwritable 5 (by decide))) (isPartial_solc 5) id (Path.ofString "p")
  have hzero := parse_partial (entries_of_isWritable (hwritable 0 (by decide))) (isPartial_solc 0) id (Path.ofString "p")
  have hvalid : ((solc 5).keeping solcNames).validate = .ok () := by decide +kernel
  have hinvalid : ((solc 0).keeping solcNames).validate = .error .zeroTimeout := by decide +kernel
  rw [hvalid] at hfive
  rw [hinvalid] at hzero
  exact ⟨hfive, hzero⟩

end PassDelta.Config
