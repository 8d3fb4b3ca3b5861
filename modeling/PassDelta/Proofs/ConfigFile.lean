import PassDelta.Config.Store
import PassDelta.Proofs.Contents
import PassDelta.Proofs.Toml.Documents
import PassDelta.Proofs.Utf8
/-!
# Configuration files read back

What is saved is what is loaded. A configuration that can be written is a list of settings, each under a key of its
own; reading a list of settings takes them over one by one, in whatever order they stand.
-/

namespace PassDelta
namespace Toml

theorem readText_text (wanted : Wanted) (key : Key) {item : Item} {s : String} (h : Holds item (.text s)) :
    readText wanted key item = .ok s := by
  cases h
  rfl

theorem readPath_text (key : Key) {item : Item} {s : String} (h : Holds item (.text s)) :
    readPath key item = .ok (Path.ofString s) := by
  rw [readPath, readText_text _ key h]
  rfl

theorem readNatural_number (wanted : Wanted) (key : Key) {item : Item} {n : Nat} (h : Holds item (.number n)) :
    readNatural wanted key item = .ok n := by
  cases h
  simp [readNatural]

theorem readList_texts {α : Type} {read : Key → Item → Except Mismatch α} {f : String → α} {key : Key}
    (hread : ∀ {item s}, Holds item (.text s) → read key item = .ok (f s)) {item : Item} {ss : List String}
    (h : Holds item (.texts ss)) : readList read key item = .ok (ss.map f) := by
  cases h with
  | texts span hall =>
    rw [readList]
    induction hall with
    | nil => rfl
    | cons hfirst _ ih =>
      obtain ⟨place, rfl⟩ := hfirst
      rw [List.mapM_cons, hread (.text place _), ih]
      rfl

end Toml

namespace Config

open Toml

inductive Setting where
  | compiler (s : String)
  | baseArgs (ss : List String)
  | unoptimizedFlags (ss : List String)
  | optimizedFlags (ss : List String)
  | modules (ss : List String)
  | outputDir (s : String)
  | extension (s : String)
  | timeoutSecs (n : Nat)
  | previewLimit (n : Nat)

namespace Setting

def entry : Setting → String × Datum
  | compiler s => ("compiler", .text s)
  | baseArgs ss => ("base-args", .texts ss)
  | unoptimizedFlags ss => ("unoptimized-flags", .texts ss)
  | optimizedFlags ss => ("optimized-flags", .texts ss)
  | modules ss => ("modules", .texts ss)
  | outputDir s => ("output-dir", .text s)
  | extension s => ("extension", .text s)
  | timeoutSecs n => ("timeout-secs", .number n)
  | previewLimit n => ("preview-limit", .number n)

def put (c : Config) : Setting → Config
  | compiler s => { c with compiler := s }
  | baseArgs ss => { c with baseArgs := ss }
  | unoptimizedFlags ss => { c with flags := { c.flags with unoptimized := ss } }
  | optimizedFlags ss => { c with flags := { c.flags with optimized := ss } }
  | modules ss => { c with modules := ss.map Path.ofString }
  | outputDir s => { c with outputDir := Path.ofString s }
  | extension s => { c with extension := s }
  | timeoutSecs n => { c with timeoutSecs := some n }
  | previewLimit n => { c with previewLimit := n }

theorem absorb_entry (setting : Setting) {m : Key × Item} (h : Matches m setting.entry) (c : Config) :
    c.absorb m.1 m.2 = .ok (put c setting) := by
  obtain ⟨key, item⟩ := m
  obtain ⟨hname, hitem⟩ := h
  have hname : key.name = setting.entry.1 := hname
  unfold absorb
  rw [hname]
  cases setting with
  | compiler s | extension s =>
    simp only [entry, readText_text .text key hitem]
    rfl
  | baseArgs ss | unoptimizedFlags ss | optimizedFlags ss =>
    simp only [entry, readList_texts (readText_text .text key) hitem, List.map_id']
    rfl
  | modules ss =>
    simp only [entry, readList_texts (readPath_text key) hitem]
    rfl
  | outputDir s =>
    simp only [entry, readPath_text key hitem]
    rfl
  | timeoutSecs n =>
    simp only [entry, readNatural_number .word key hitem]
    rfl
  | previewLimit n =>
    simp only [entry, readNatural_number .size key hitem]
    rfl

theorem isBare_entry (setting : Setting) : IsBare setting.entry.1 := by
  cases setting <;> (dsimp only [entry]; exact ⟨by decide, List.all_eq_true.1 (by decide)⟩)

end Setting

theorem ofMembers_settings {members : Members} {settings : List Setting}
    (h : List.Forall₂ Matches members (settings.map Setting.entry)) :
    ofMembers members = .ok (settings.foldl Setting.put initial) := by
  unfold ofMembers
  generalize initial = c
  induction settings generalizing members c with
  | nil =>
    cases h
    rfl
  | cons setting settings ih =>
    cases h with
    | cons hm hall =>
      rw [List.foldlM_cons, setting.absorb_entry hm]
      exact ih hall (Setting.put c setting)

/-- Settings under different keys, with numbers of at most 63 bits, are read as they were written. -/
theorem read_settings {settings : List Setting} (hread : ∀ s ∈ settings, s.entry.2.IsReadable)
    (hnew : ((settings.map Setting.entry).map Prod.fst).Nodup) :
    read (writeEntries (settings.map Setting.entry)) = .ok (settings.foldl Setting.put initial) := by
  have hbare : ∀ e ∈ settings.map Setting.entry, IsBare e.1 := by simp [Setting.isBare_entry]
  have hreadable : ∀ e ∈ settings.map Setting.entry, e.2.IsReadable := by simpa using hread
  obtain ⟨members, hmembers, hall⟩ := read_writeEntries hbare hreadable hnew
  rw [Config.read, hmembers]
  dsimp only
  rw [ofMembers_settings hall]

def settings (c : Config) : List Setting :=
  [.compiler c.compiler, .baseArgs c.baseArgs, .unoptimizedFlags c.flags.unoptimized,
    .optimizedFlags c.flags.optimized, .modules (c.modules.map Path.display), .outputDir c.outputDir.display,
    .extension c.extension] ++ (c.timeoutSecs.map Setting.timeoutSecs).toList ++ [.previewLimit c.previewLimit]

/-- Paths are text and numbers have at most 63 bits. -/
structure IsWritable (c : Config) : Prop where
  modules : ∀ p ∈ c.modules, p.text?.isSome
  outputDir : c.outputDir.text?.isSome
  timeoutSecs : ∀ n ∈ c.timeoutSecs, n < twoTo 63
  previewLimit : c.previewLimit < twoTo 63

theorem pathText_eq_ok {p : Path} {s : String} : pathText p = .ok s ↔ p.text? = some s := by
  unfold pathText
  cases p.text? <;> simp

theorem writable_eq_ok {n : Nat} {d : Datum} : writable n = .ok d ↔ n < twoTo 63 ∧ d = .number n := by
  unfold writable
  split_ifs with h
  · simp [h, eq_comm]
  · simp [h]

theorem mapM_pathText {ps : List Path} (h : ∀ p ∈ ps, p.text?.isSome) :
    ps.mapM pathText = .ok (ps.map Path.display) := by
  induction ps with
  | nil => rfl
  | cons p ps ih =>
    obtain ⟨s, hs⟩ := Option.isSome_iff_exists.1 (h p List.mem_cons_self)
    rw [List.mapM_cons, pathText_eq_ok.2 hs, ih fun q hq => h q (List.mem_cons_of_mem p hq)]
    rw [List.map_cons, Path.display_of_text? hs]
    rfl

theorem isSome_of_mapM_pathText {ps : List Path} {ss : List String} (h : ps.mapM pathText = .ok ss) :
    ∀ p ∈ ps, p.text?.isSome := by
  induction ps generalizing ss with
  | nil => simp
  | cons p ps ih =>
    rw [List.mapM_cons] at h
    obtain ⟨s, hs, h⟩ := bind_eq_ok.mp h
    obtain ⟨rest, hrest, -⟩ := bind_eq_ok.mp h
    simpa [pathText_eq_ok.1 hs] using ih hrest

theorem isWritable_of_write {c : Config} {text : String} (h : c.write = .ok text) : c.IsWritable := by
  unfold Config.write entries at h
  rw [map_eq_pure_bind] at h
  obtain ⟨lines, h, -⟩ := bind_eq_ok.mp h
  obtain ⟨modules, hmodules, h⟩ := bind_eq_ok.mp h
  obtain ⟨outputDir, hdir, h⟩ := bind_eq_ok.mp h
  obtain ⟨timeout, htimeout, h⟩ := bind_eq_ok.mp h
  obtain ⟨limit, hlimit, -⟩ := bind_eq_ok.mp h
  refine ⟨isSome_of_mapM_pathText hmodules, ?_, ?_, (writable_eq_ok.1 hlimit).1⟩
  · rw [pathText_eq_ok.1 hdir]
    rfl
  · intro n hn
    rw [Option.mem_def.1 hn] at htimeout
    obtain ⟨d, hd, -⟩ := bind_eq_ok.mp htimeout
    exact (writable_eq_ok.1 hd).1

theorem entries_of_isWritable {c : Config} (h : c.IsWritable) : c.entries = .ok (c.settings.map Setting.entry) := by
  obtain ⟨dir, hdir⟩ := Option.isSome_iff_exists.1 h.outputDir
  have htimeout : c.timeoutSecs.mapM writable = .ok (c.timeoutSecs.map Datum.number) := by
    cases ht : c.timeoutSecs with
    | none => rfl
    | some n =>
      have hn := writable_eq_ok.2 ⟨h.timeoutSecs n (by rw [ht]; rfl), rfl⟩
      rw [Option.mapM_some, hn]
      rfl
  unfold entries
  rw [mapM_pathText h.modules, pathText_eq_ok.2 hdir, htimeout, writable_eq_ok.2 ⟨h.previewLimit, rfl⟩]
  simp only [settings, Path.display_of_text? hdir, List.map_append]
  cases c.timeoutSecs <;> rfl

theorem write_of_isWritable {c : Config} (h : c.IsWritable) :
    c.write = .ok (writeEntries (c.settings.map Setting.entry)) := by
  rw [Config.write, entries_of_isWritable h]
  rfl

theorem ofString_display {p : Path} (h : p.text?.isSome) : Path.ofString p.display = p := by
  obtain ⟨s, hs⟩ := Option.isSome_iff_exists.1 h
  rw [Path.display_of_text? hs, Path.text?_eq_some.1 hs]

theorem map_ofString_display {ps : List Path} (h : ∀ p ∈ ps, p.text?.isSome) :
    (ps.map Path.display).map Path.ofString = ps := by
  rw [List.map_map]
  exact (List.map_congr_left fun p hp => ofString_display (h p hp)).trans (List.map_id ps)

/-- The settings of a configuration are all there is to it; a time limit without line is the default, none. -/
theorem foldl_put_settings {c : Config} (h : c.IsWritable) : c.settings.foldl Setting.put initial = c := by
  have hfold : c.settings.foldl Setting.put initial =
      { c with modules := (c.modules.map Path.display).map Path.ofString
               outputDir := Path.ofString c.outputDir.display } := by
    obtain ⟨compiler, baseArgs, flags, modules, outputDir, extension, timeout, limit⟩ := c
    cases timeout <;> rfl
  rw [hfold, map_ofString_display h.modules, ofString_display h.outputDir]

theorem isReadable_settings {c : Config} (h : c.IsWritable) : ∀ s ∈ c.settings, s.entry.2.IsReadable := by
  obtain ⟨compiler, baseArgs, flags, modules, outputDir, extension, timeout, limit⟩ := c
  have hlimit : limit < twoTo 63 := h.previewLimit
  cases timeout with
  | none => simp [settings, Setting.entry, Datum.IsReadable, hlimit]
  | some n =>
    have hn : n < twoTo 63 := h.timeoutSecs n rfl
    simp [settings, Setting.entry, Datum.IsReadable, hlimit, hn]

theorem nodup_settings (c : Config) : ((c.settings.map Setting.entry).map Prod.fst).Nodup := by
  obtain ⟨compiler, baseArgs, flags, modules, outputDir, extension, timeout, limit⟩ := c
  cases timeout <;> simp [settings, Setting.entry]

theorem read_of_write {c : Config} {text : String} (h : c.write = .ok text) : read text = .ok c := by
  have hwritable := isWritable_of_write h
  obtain rfl := Except.ok.inj (h.symm.trans (write_of_isWritable hwritable))
  rw [read_settings (isReadable_settings hwritable) (nodup_settings c), foldl_put_settings hwritable]

theorem parse_of_write {c : Config} {text : String} (h : c.write = .ok text) (hvalid : c.validate = .ok ())
    (wording : String → String) (path : Path) : parse wording path text = .ok c := by
  simp only [parse, read_of_write h, hvalid]

variable {σ : Type} (h : Host σ) (root : Path)

theorem save_written {c : Config} {text : String} (hc : c.write = .ok text) {s : Session σ} {w : σ}
    (hw : h.write s.world (fileIn root) (Text.encode text) = (.ok (), w)) :
    (save h c root).run s = (.ok (), s.after w [.wrote (fileIn root) (Text.encode text).length] 0) := by
  unfold save
  simp only [hc]
  rw [Work.bind_run, Work.write_run, hw]
  rfl

/-- What cannot be written is not saved: nothing is done at all. -/
theorem save_unwritable {c : Config} {problem : Unwritable} (hc : c.write = .error problem) (s : Session σ) :
    (save h c root).run s = (.error ⟨["Failed to serialize config"], .words problem.message⟩, s) := by
  unfold save
  simp only [hc]
  rfl

theorem load_stored {s : Session σ} {text : String} (hr : h.read s.world (fileIn root) = .ok text) :
    ((load h root).run s).1 = parse h.wording (fileIn root) text := by
  unfold load
  rw [Work.bind_run, Work.read_run, hr]
  rfl

theorem loadFile_stored {path : Path} {s : Session σ} {text : String} (hr : h.read s.world path = .ok text) :
    ((loadFile h path).run s).1 = parse h.wording path text := by
  unfold loadFile
  rw [Work.bind_run, Work.read_run, hr]
  rfl

end Config

def Host.Stores {σ : Type} (h : Host σ) (w : σ) (path : Path) : Prop :=
  ∀ text w', h.write w path (Text.encode text) = (.ok (), w') → h.read w' path = .ok text

/-- Files in memory store what is written where no fault of reading is in the way. -/
theorem Memory.stores {m : Memory} {path : Path} (hread : m.store.fault? .read path = none) :
    Memory.host.Stores m path := by
  intro text w' hw
  cases hfault : m.store.fault? .write path with
  | some e => simp [host, Store.write, hfault] at hw
  | none =>
    obtain rfl : _ = w' := by simpa [host, Store.write, hfault] using hw
    have hcontent : (Store.put m.store.files path (Text.encode text)).lookup path = some (Text.encode text) := by
      rw [lookup_put, if_pos rfl]
    have hstill : Store.fault? { m.store with files := Store.put m.store.files path (Text.encode text) } .read path =
        none := hread
    simp only [host, Store.read, hstill, Store.content?, hcontent, Text.decode?_encode]

namespace Config

/-- A saved configuration is loaded as it was, from its project and from its path, and one that cannot be written
leaves the session as it was. -/
theorem save_load {σ : Type} (h : Host σ) (root : Path) (c : Config) (s : Session σ) :
    (c.validate = .ok () → c.IsWritable → h.Stores s.world (fileIn root) →
      ∃ text, c.write = .ok text ∧ ∀ w, h.write s.world (fileIn root) (Text.encode text) = (.ok (), w) →
        let saved := (save h c root).run s
        saved = (.ok (), s.after w [.wrote (fileIn root) (Text.encode text).length] 0) ∧
          ((load h root).run saved.2).1 = .ok c ∧ ((loadFile h (fileIn root)).run saved.2).1 = .ok c) ∧
    (¬ c.IsWritable → ∃ problem : Unwritable,
      (save h c root).run s = (.error ⟨["Failed to serialize config"], .words problem.message⟩, s)) := by
  constructor
  · intro hvalid hwritable stores
    obtain ⟨text, htext⟩ : ∃ text, c.write = .ok text := ⟨_, write_of_isWritable hwritable⟩
    refine ⟨text, htext, fun w hw => ?_⟩
    have hread : h.read w (fileIn root) = .ok text := stores text w hw
    dsimp only
    rw [save_written h root htext hw]
    exact ⟨rfl, by rw [load_stored h root hread, parse_of_write htext hvalid],
      by rw [loadFile_stored h hread, parse_of_write htext hvalid]⟩
  · intro hwritable
    cases hc : c.write with
    | ok text => exact absurd (isWritable_of_write hc) hwritable
    | error problem => exact ⟨problem, save_unwritable h root hc s⟩

/-- Settings that no two texts of which are written alike: empty, with quotes of both kinds and runs of them, with
backslashes, line ends, controls and characters beyond ASCII. -/
def unusual : Config where
  compiler := "c\\\"'c"
  baseArgs := ["", "\na'b\n", "''' \"\"\"", "\t\x00\x1f\x7f\r\n"]
  flags := ⟨["-O\\0"], []⟩
  modules := [Path.ofString "été/😀.c", Path.ofString "a\"\"\"b''"]
  outputDir := Path.ofString ""
  extension := "#=[ ]"
  timeoutSecs := some (twoTo 63 - 1)
  previewLimit := 0

def blankWorld : Memory := ⟨.empty, []⟩

/-- Settings with quotes, control characters and an odd directory come back; a number of 64 bits is not written. -/
theorem save_load_unusual :
    (∃ saved : Session Memory,
      (save Memory.host unusual (Path.ofString "p")).run (.start blankWorld) = (.ok (), saved) ∧
        ((load Memory.host (Path.ofString "p")).run saved).1 = .ok unusual ∧
        ((loadFile Memory.host (fileIn (Path.ofString "p"))).run saved).1 = .ok unusual) ∧
    ∃ problem : Unwritable,
      (save Memory.host { unusual with previewLimit := twoTo 63 } (Path.ofString "p")).run (.start blankWorld) =
        (.error ⟨["Failed to serialize config"], .words problem.message⟩, .start blankWorld) := by
  have hwritable : unusual.IsWritable := ⟨by decide +kernel, by decide +kernel, by decide +kernel, by decide⟩
  obtain ⟨text, -, hsaved⟩ := (save_load Memory.host (Path.ofString "p") unusual (.start blankWorld)).1
    (by decide +kernel) hwritable (Memory.stores rfl)
  obtain ⟨hsave, hload, hloadFile⟩ := hsaved _ rfl
  rw [hsave] at hload hloadFile
  refine ⟨⟨_, hsave, hload, hloadFile⟩, ?_⟩
  exact (save_load Memory.host (Path.ofString "p") { unusual with previewLimit := twoTo 63 } (.start blankWorld)).2
    fun h => Nat.lt_irrefl _ h.previewLimit

end Config
end PassDelta
