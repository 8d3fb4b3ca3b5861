import Mathlib.Data.List.DropRight
import PassDelta.Failure
/-!
# Errors as they are shown

An error is shown with the contexts around it and with everything that led to it, each a step further in. What stands
below, the words of a compiler and the advice, is a matter of the failure alone, however deep in contexts it is.
-/

namespace PassDelta

namespace Text

/-- A text cut into lines, each of which but the last ends with LF or CR LF. -/
inductive Splits : List Char → List (List Char) → Prop where
  | nil : Splits [] []
  | last {line : List Char} (some : line ≠ []) (whole : '\n' ∉ line) : Splits line [line]
  | feed {line rest : List Char} {more : List (List Char)} (whole : '\n' ∉ line) (bare : line.getLast? ≠ some '\r')
      (splits : Splits rest more) : Splits (line ++ '\n' :: rest) (line :: more)
  | crlf {line rest : List Char} {more : List (List Char)} (whole : '\n' ∉ line) (splits : Splits rest more) :
      Splits (line ++ '\r' :: '\n' :: rest) (line :: more)

/-- No line has a line end in it. -/
theorem Splits.whole {text : List Char} {ls : List (List Char)} (splits : Splits text ls) :
    ∀ line ∈ ls, '\n' ∉ line := by
  induction splits with
  | nil => simp
  | last _ whole => simpa using whole
  | feed whole _ _ ih | crlf whole _ ih => exact List.forall_mem_cons.2 ⟨whole, ih⟩

theorem Splits.of_feed {rest : List Char} {ls : List (List Char)} (splits : Splits ('\n' :: rest) ls) :
    ∃ more, ls = [] :: more ∧ Splits rest more := by
  generalize htext : '\n' :: rest = text at splits
  cases splits with
  | nil => cases htext
  | last _ whole =>
    subst htext
    exact absurd List.mem_cons_self whole
  | @feed line _ more whole _ splits =>
    cases line with
    | nil =>
      cases htext
      exact ⟨more, rfl, splits⟩
    | cons c line =>
      cases htext
      exact absurd List.mem_cons_self whole
  | @crlf line _ _ whole =>
    cases line with
    | nil => cases htext
    | cons c line =>
      cases htext
      exact absurd List.mem_cons_self whole

theorem atBreak_foldr (cs : List Char) :
    (cs.foldr LineState.cons ⟨[], false⟩).atBreak = true ↔ ∃ rest, cs = '\n' :: rest := by
  cases cs with
  | nil => simp
  | cons c rest =>
    rw [List.foldr_cons, LineState.cons]
    by_cases hfeed : c = '\n'
    · simp [hfeed]
    · rw [if_neg hfeed]
      split
      · simp [hfeed]
      · split <;> simp [hfeed]

theorem splits_lines (cs : List Char) : Splits cs (lines cs) := by
  induction cs with
  | nil => exact .nil
  | cons c cs ih =>
    have hbreak := atBreak_foldr cs
    unfold lines at ih ⊢
    rw [List.foldr_cons]
    generalize cs.foldr LineState.cons ⟨[], false⟩ = state at ih hbreak ⊢
    unfold LineState.cons
    split_ifs with hfeed hreturn
    · subst hfeed
      exact show Splits ([] ++ '\n' :: cs) _ from .feed (by simp) (by simp) ih
    · -- a carriage return in front of the line feed that ends an empty line
      obtain ⟨rfl, hat⟩ := hreturn
      obtain ⟨rest, rfl⟩ := hbreak.1 hat
      obtain ⟨more, hmore, splits⟩ := ih.of_feed
      dsimp only
      rw [hmore]
      exact show Splits ([] ++ '\r' :: '\n' :: rest) _ from .crlf (by simp) splits
    · have hfront {line : List Char} (whole : '\n' ∉ line) : '\n' ∉ c :: line := by simp [whole, Ne.symm hfeed]
      generalize state.lines = ls at ih ⊢
      cases ih with
      | nil => exact .last (by simp) (hfront (by simp))
      | last _ whole => exact .last (by simp) (hfront whole)
      | @feed line rest more whole bare splits =>
        refine show Splits (c :: line ++ '\n' :: rest) _ from .feed (hfront whole) ?_ splits
        cases line with
        | nil =>
          intro hc
          exact hreturn ⟨Option.some.inj hc, hbreak.2 ⟨rest, rfl⟩⟩
        | cons d line => rwa [List.getLast?_cons_cons]
      | crlf whole splits => exact .crlf (hfront whole) splits

theorem trimEnd_eq (cs : List Char) : trimEnd cs = cs.rdropWhile isBlank := rfl

theorem isBlank_getLast_trimEnd {cs : List Char} {c : Char} (hc : (trimEnd cs).getLast? = some c) :
    isBlank c = false := by
  rw [trimEnd_eq] at hc
  have hne : cs.rdropWhile isBlank ≠ [] := by
    intro hnil
    rw [hnil] at hc
    cases hc
  have hlast := List.rdropWhile_last_not isBlank cs hne
  rw [List.getLast?_eq_some_getLast hne] at hc
  rw [Option.some.inj hc] at hlast
  exact Bool.eq_false_iff.2 hlast

/-- Lines that are each ended by a line feed are told apart again. -/
theorem splitOn_feeds {ls : List (List Char)} (whole : ∀ line ∈ ls, '\n' ∉ line) :
    (ls.flatMap (· ++ ['\n'])).splitOn '\n' = ls ++ [[]] := by
  induction ls with
  | nil => rfl
  | cons line ls ih =>
    obtain ⟨hline, hrest⟩ := List.forall_mem_cons.1 whole
    rw [List.flatMap_cons, List.append_assoc, List.singleton_append, List.splitOn_append_cons_self,
      List.splitOn_eq_singleton hline, ih hrest]
    rfl

end Text

/-- An error as a link of a chain: words around another error, an error at the bottom, or one of the system. -/
inductive Cause where
  | around (words : String) (inner : Cause)
  | root (r : Root)
  | system (e : IoError)

namespace Cause

def message : Cause → String
  | around words _ => words
  | root (.failure f) => f.message
  | root (.invocation e) => e.message
  | root (.artifact e) => e.message
  | root (.words text) => text
  | system e => e.message

def source? : Cause → Option Cause
  | around _ inner => some inner
  | root (.failure (.batchAborted _ e)) => some (root (.invocation e))
  | root (.failure (.configNotFound _ source)) => some (system source)
  | root (.failure (.io _ source)) => some (system source)
  | root (.invocation e) => e.source.map system
  | root (.artifact e) => some (system e.source)
  | _ => none

inductive Leads : Option Cause → List String → Prop where
  | nothing : Leads none []
  | next {c : Cause} {more : List String} (sources : Leads c.source? more) : Leads (some c) (c.message :: more)

theorem leads_invocation (e : InvocationError) : Leads (some (root (.invocation e))) e.chain := by
  refine .next (c := root (.invocation e)) ?_
  show Leads (e.source.map system) _
  cases e.source with
  | none => exact .nothing
  | some source => exact .next (c := system source) .nothing

theorem leads_root (r : Root) : Leads (some (root r)) r.chain := by
  cases r with
  | failure f =>
    refine .next (c := root (.failure f)) ?_
    cases f with
    | batchAborted m e => exact leads_invocation e
    | configNotFound path source | io context source => exact .next (c := system source) .nothing
    | invalidConfig | configExists | noModules => exact .nothing
  | invocation e => exact leads_invocation e
  | artifact e => exact .next (c := root (.artifact e)) (.next (c := system e.source) .nothing)
  | words text => exact .next (c := root (.words text)) .nothing

def under (contexts : List String) (r : Root) : Cause := contexts.foldl (fun c words => around words c) (root r)

theorem under_concat (contexts : List String) (words : String) (r : Root) :
    under (contexts ++ [words]) r = around words (under contexts r) := List.foldl_concat ..

end Cause

namespace Trouble

def under (contexts : List String) (r : Root) : Trouble := contexts.foldl context ⟨[], r⟩

theorem under_concat (contexts : List String) (words : String) (r : Root) :
    under (contexts ++ [words]) r = (under contexts r).context words := List.foldl_concat ..

theorem root_under (contexts : List String) (r : Root) : (under contexts r).root = r := by
  induction contexts using List.reverseRecOn with
  | nil => rfl
  | append_singleton contexts words ih =>
    rw [under_concat]
    exact ih

theorem leads_under (contexts : List String) (r : Root) :
    Cause.Leads (some (Cause.under contexts r)) (under contexts r).chain := by
  induction contexts using List.reverseRecOn with
  | nil => exact Cause.leads_root r
  | append_singleton contexts words ih =>
    rw [under_concat, Cause.under_concat]
    exact .next (c := .around words _) ih

def causedBy (style : Style) (depth : Nat) (text : String) : String :=
  String.ofList (List.replicate (2 * depth) ' ') ++ style.tint .yellow "caused by:" ++ " " ++ text ++ "\n"

theorem causes_eq (style : Style) (depth : Nat) (texts : List String) :
    causes style depth texts = String.join (texts.mapIdx fun i text => causedBy style (depth + i) text) := by
  induction texts generalizing depth with
  | nil => rfl
  | cons text rest ih =>
    have hshift : (fun i text => causedBy style (depth + 1 + i) text) =
        fun i text => causedBy style (depth + (i + 1)) text := by
      funext i text
      rw [Nat.add_assoc, Nat.add_comm 1 i]
    rw [causes, ih, hshift, List.mapIdx_cons, String.join_cons]
    rfl

/-- The entries of an error: its outermost message, then each of what led to it two columns further in. -/
def Lists (style : Style) (c : Cause) (tail text : String) : Prop :=
  ∃ first rest, Cause.Leads (some c) (first :: rest) ∧
    text = style.bold .red "error:" ++ " " ++ first ++ "\n" ++
      String.join (rest.mapIdx fun i cause => causedBy style (i + 1) cause) ++ tail

def helpLine (style : Style) (f : Failure) : String :=
  "\n" ++ style.bold .cyan "help:" ++ " " ++ f.advice ++ "\n"

/-- A failed compiler is what the failure is about, and `text` is what it said, not all of it white space. -/
def Quotes (f : Failure) (text : String) : Prop :=
  ∃ m program module mode code, f = .batchAborted m ⟨program, module, mode, .unsuccessful code text⟩ ∧
    ∃ c ∈ text.toList, Text.isBlank c = false

/-- What stands below the entries: the words of a failed compiler, if it said anything, without the white space at
their end and line by line two columns in, then the advice. -/
inductive Tail (style : Style) (f : Failure) : String → Prop where
  | plain (silent : ∀ text, ¬ Quotes f text) : Tail style f (helpLine style f)
  | quoting {text : String} {body blanks shown : List Char} {ls : List (List Char)} (quotes : Quotes f text)
      (cut : text.toList = body ++ blanks) (blank : ∀ c ∈ blanks, Text.isBlank c = true)
      (solid : ∀ c ∈ body.getLast?, Text.isBlank c = false) (splits : Text.Splits body ls)
      (indented : shown.splitOn '\n' = ls.map (fun line => ' ' :: ' ' :: line) ++ [[]]) :
      Tail style f ("\n" ++ style.faint "stderr:" ++ "\n" ++ String.ofList shown ++ helpLine style f)

theorem stderr_eq_some {f : Failure} {text : String} :
    f.invocation?.bind InvocationError.stderr = some text ↔ Quotes f text := by
  constructor
  · intro h
    obtain ⟨⟨program, module, mode, cause⟩, hf, hcause⟩ := Option.bind_eq_some_iff.1 h
    clear h
    cases f with
    | batchAborted m e =>
      cases hf
      cases cause with
      | notStarted | timedOut => cases hcause
      | unsuccessful code stderr =>
        cases hblank : Text.isAllBlank stderr with
        | true => simp [InvocationError.stderr, hblank] at hcause
        | false =>
          obtain rfl : stderr = text := by simpa [InvocationError.stderr, hblank] using hcause
          exact ⟨m, program, module, mode, code, rfl, by simpa [Text.isAllBlank] using hblank⟩
    | configNotFound | invalidConfig | configExists | noModules | io => cases hf
  · rintro ⟨m, program, module, mode, code, rfl, c, hc, hsolid⟩
    have hsome : Text.isAllBlank text = false := by
      rw [Text.isAllBlank, List.all_eq_false]
      exact ⟨c, hc, by simp [hsolid]⟩
    simp [Failure.invocation?, InvocationError.stderr, hsome]

theorem join_indented (ls : List (List Char)) :
    String.join (ls.map fun l => "  " ++ String.ofList l ++ "\n") =
      String.ofList ((ls.map fun l => ' ' :: ' ' :: l).flatMap (· ++ ['\n'])) := by
  induction ls with
  | nil => rfl
  | cons l ls ih =>
    rw [List.map_cons, String.join_cons, ih, List.map_cons, List.flatMap_cons, String.ofList_append]
    refine congrArg (· ++ _) (String.toList_injective ?_)
    simp

theorem tail_diagnostics (style : Style) {f : Failure} {text : String} (quotes : Quotes f text) :
    Tail style f (diagnostics style text ++ helpLine style f) := by
  have hsplits := Text.splits_lines (Text.trimEnd text.toList)
  rw [diagnostics, join_indented]
  refine .quoting quotes (List.rdropWhile_append_rtakeWhile ..).symm ?_ ?_ hsplits ?_
  · exact fun c hc => List.mem_rtakeWhile_imp hc
  · exact fun c hc => Text.isBlank_getLast_trimEnd hc
  · refine Text.splitOn_feeds fun line hline => ?_
    obtain ⟨l, hl, rfl⟩ := List.mem_map.1 hline
    simpa using hsplits.whole l hl

def tail (style : Style) (f : Failure) : String :=
  ((f.invocation?.bind InvocationError.stderr).map (diagnostics style)).getD "" ++ helpLine style f

theorem tail_eq (style : Style) (f : Failure) : Tail style f (tail style f) := by
  unfold tail
  cases h : f.invocation?.bind InvocationError.stderr with
  | none =>
    have hsilent (text : String) : ¬ Quotes f text := by
      intro quotes
      cases h.symm.trans (stderr_eq_some.2 quotes)
    rw [Option.map_none, Option.getD_none, String.empty_append]
    exact .plain hsilent
  | some text => exact tail_diagnostics style (stderr_eq_some.1 h)

theorem render_eq (style : Style) (t : Trouble) : t.render style =
    style.bold .red "error:" ++ " " ++ t.message ++ "\n" ++ causes style 1 t.chain.tail ++
      (t.failure?.map (tail style)).getD "" := by
  unfold render
  cases t.failure? with
  | none => rfl
  | some f => simp only [tail, helpLine, Option.map_some, Option.getD_some, String.append_assoc]

theorem render_lists (style : Style) (t : Trouble) {c : Cause} (leads : Cause.Leads (some c) t.chain) :
    Lists style c ((t.failure?.map (tail style)).getD "") (t.render style) := by
  generalize hchain : t.chain = chain at leads
  cases leads with
  | @next _ more sources =>
    refine ⟨c.message, more, .next sources, ?_⟩
    have hfirst : (fun i cause => causedBy style (1 + i) cause) = fun i cause => causedBy style (i + 1) cause := by
      funext i cause
      rw [Nat.add_comm]
    rw [render_eq, message, hchain, causes_eq, hfirst]
    rfl

/-- However many contexts are around an error, its exit code is that of the error at the bottom, and it is shown as a
list of its contexts and causes with what belongs to the failure below it. -/
theorem render_under_contexts (style : Style) :
    (∀ f, ∃ below, Tail style f below ∧ ∀ contexts, (under contexts (.failure f)).exitCode = f.exitCode ∧
      Lists style (.under contexts (.failure f)) below ((under contexts (.failure f)).render style)) ∧
    ∀ r, (∀ f, r ≠ .failure f) → ∀ contexts, (under contexts r).exitCode = 1 ∧
      Lists style (.under contexts r) "" ((under contexts r).render style) := by
  constructor
  · intro f
    refine ⟨tail style f, tail_eq style f, fun contexts => ?_⟩
    have hfailure : (under contexts (.failure f)).failure? = some f := by rw [failure?, root_under]
    have hlists := render_lists style _ (leads_under contexts (.failure f))
    rw [hfailure] at hlists
    exact ⟨by rw [exitCode, hfailure]; rfl, hlists⟩
  · intro r other contexts
    have hfailure : (under contexts r).failure? = none := by
      rw [failure?, root_under]
      cases r with
      | failure f => exact absurd rfl (other f)
      | invocation | artifact | words => rfl
    have hlists := render_lists style _ (leads_under contexts r)
    rw [hfailure] at hlists
    exact ⟨by rw [exitCode, hfailure]; rfl, hlists⟩

example :
    (under ["While comparing", "Failed to compare"] (.failure (.ofInvocation ⟨"vyper", Path.ofString "a.vy", .optimized,
      .unsuccessful (some 1) "\nbad type\r\n\n  here \r\n\u2003\n"⟩))).render ⟨false, false⟩ =
    "error: Failed to compare\n  caused by: While comparing\n    caused by: Comparison aborted at a.vy\n" ++
      "      caused by: \x60vyper\x60 failed on a.vy (optimized) with exit status 1\n" ++
      "\nstderr:\n  \n  bad type\n  \n    here\n" ++
      "\nhelp: Fix the compiler errors shown above, or remove the module from the list\n" := by decide +kernel

end Trouble
end PassDelta
