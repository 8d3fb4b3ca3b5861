import PassDelta.Machine.Host
import PassDelta.Proofs.Calls
import PassDelta.Proofs.Contents
import PassDelta.Proofs.Machine.Tree
/-!
# Laws of worlds as hosts

What the operations of a world do, seen by its paths. Links may lead many paths to one place, so it is places that a
write keeps apart. A run may do anything to files, so of runs it is told that they keep to their limits, and what is
left of one that never began.
-/

namespace PassDelta.Machine.World

theorem isPresent_eq (w : World) (q : Path) : host.isPresent w q = w.tree.isPresent w.here q := rfl

theorem read_eq (w : World) (q : Path) : host.read w q = w.tree.readText w.here q := rfl

theorem isPresent_extends {w v : World} (hhere : v.here = w.here) (hextends : w.tree.Extends v.tree) (q : Path)
    (hq : host.isPresent w q = true) : host.isPresent v q = true := by
  rw [isPresent_eq, hhere]
  exact Tree.isPresent_extends hextends hq

/-- What is left of making a directory in the world `w`: directories were added and nothing else was done, even where
the last step failed. -/
structure MadeDir (w : World) (p : Path) (left : Except IoError Unit × World) : Prop where
  rest : left.2 = { w with tree := left.2.tree }
  grows : w.tree.Grows left.2.tree
  present : ∀ q, host.isPresent w q = true → host.isPresent left.2 q = true
  read : ∀ q text, host.read w q = .ok text → host.read left.2 q = .ok text
  done : left.1 = .ok () → p.bytes ≠ [] → left.2.tree.leadsToDir w.here p = true

/-- Making a directory adds directories and does nothing else, whatever it comes to. -/
theorem createDir_madeDir (w : World) (p : Path) : MadeDir w p (host.createDir w p) := by
  obtain ⟨hgrows, hdone⟩ : w.tree.Grows (host.createDir w p).2.tree ∧ ((host.createDir w p).1 = .ok () →
      p.bytes ≠ [] → (host.createDir w p).2.tree.leadsToDir w.here p = true) :=
    Tree.makeDirs_grows w.here Entry.dirMode (p.components.length + 1) w.tree p
  exact {
    rest := rfl
    grows := hgrows
    present := isPresent_extends rfl hgrows.extends
    read := fun _ _ hq => Tree.readText_grows hgrows hq
    done := hdone }

/-- What is left of writing a file in the world `w`: nothing is done where this fails. Else it was one place that was
written to, a device there or a file that holds the contents now. -/
structure Wrote (w : World) (p : Path) (contents : Bytes) (left : Except IoError Unit × World) : Prop where
  failed : ∀ e, left.1 = .error e → left.2 = w
  rest : left.2 = { w with tree := left.2.tree }
  grows : w.tree.Extends left.2.tree
  present : ∀ q, host.isPresent w q = true → host.isPresent left.2 q = true
  done : left.1 = .ok () → ∃ place, w.tree.target w.here p = .ok place ∧
    (∀ q other, w.tree.find w.here q = .ok other → other ≠ place → host.read left.2 q = host.read w q) ∧
    ((∀ d, w.tree.entry? place ≠ some (.device d)) → (∃ mode, Tree.entry? left.2.tree place = some (.file contents mode)) ∧
      ∀ text, contents = Text.encode text → host.read left.2 p = .ok text ∨ host.read left.2 p = .error .eloop)

/-- A write that fails does nothing, and one that succeeds is to the one place where its path leads. -/
theorem write_wrote (w : World) (p : Path) (contents : Bytes) : Wrote w p contents (host.write w p contents) := by
  cases hfile : w.tree.writeFile w.here p contents Entry.fileMode with
  | error e =>
    have hwrite : host.write w p contents = (.error e, w) := by simp only [host, hfile]
    rw [hwrite]
    exact {
      failed := fun _ _ => rfl
      rest := rfl
      grows := .refl _
      present := fun _ hq => hq
      done := by rintro ⟨⟩ }
  | ok t =>
    have hwrite : host.write w p contents = (.ok (), { w with tree := t }) := by simp only [host, hfile]
    rw [hwrite]
    have hextends := Tree.writeFile_extends hfile
    obtain ⟨place, htarget, hroot, -, hresult⟩ := Tree.writeFile_ok hfile
    exact {
      failed := by rintro e ⟨⟩
      rest := rfl
      grows := hextends
      present := isPresent_extends rfl hextends
      done := by
        refine fun _ => ⟨place, htarget, ?_, ?_⟩
        · intro q other hfind hother
          refine Tree.readText_extends hextends hfind ?_
          rcases hresult with ⟨rfl, -⟩ | ⟨mode, rfl⟩
          · rfl
          · rw [Tree.entry?_put _ hroot, if_neg hother]
        · intro hdevice
          rcases hresult with ⟨-, d, hd⟩ | ⟨mode, rfl⟩
          · exact absurd hd (hdevice d)
          have hthere : Tree.entry? (w.tree.put place (.file contents mode)) place = some (.file contents mode) := by
            rw [Tree.entry?_put _ hroot, if_pos rfl]
          refine ⟨⟨mode, hthere⟩, ?_⟩
          rintro text rfl
          rcases Tree.find_target htarget hextends hthere rfl with hfind | hfind
          · exact .inl (Tree.readText_file hfind hthere)
          · exact .inr (Tree.readText_lost hfind) }

theorem spawn_refused {w : World} {call : Call} {e : IoError} (hfind : findProgram w.tree call = .error e)
    (depth : Nat) : spawn (depth + 1) w call = (.error e, w) := by rw [spawn, hfind]

theorem closed_opened (w : World) (limit : Option Duration) : (w.opened limit).closed.tree = w.tree ∧
    (w.opened limit).closed.here = w.here ∧ (w.opened limit).closed.clock = w.clock := by
  simp only [closed, opened, dropChannels, addChannel, List.foldl_cons, List.foldl_nil, and_self]

/-- A run that completes has taken less than its limit. -/
theorem completion_ok {w after : World} {limit : Option Duration} {ending : Ending} {done : Completion}
    (h : w.completion limit ending after = .ok done) : statusWord ending = some done.status ∧
      done.elapsed.nanos = after.clock - w.clock ∧
      ∀ deadline, limit = some deadline → done.elapsed.nanos + leastDuration.nanos < deadline.nanos := by
  unfold completion at h
  dsimp only at h
  split at h
  · next status hstatus hmet =>
    obtain rfl := Except.ok.inj h
    refine ⟨hstatus, rfl, ?_⟩
    rintro deadline rfl
    simpa using hmet
  · cases h

/-- What is left of running a command in the world `w`: one that completes does so within its limit, one that cannot be
started fails with the reason and leaves time and files as they were, and no limit, signal or channel of a run outlasts
it. -/
structure Ran (w : World) (c : PassDelta.Command) (left : Except IoError Completion × World) : Prop where
  inTime : ∀ done, left.1 = .ok done → done.elapsed.nanos = left.2.clock - w.clock ∧
    ∀ deadline, c.limit = .within (some deadline) → done.elapsed.nanos + leastDuration.nanos < deadline.nanos
  ended : left.2.deadline = none ∧ left.2.signals = [] ∧ ∀ channel ∈ left.2.channels, channel.1 < firstNumber
  unstarted : ∀ e, findProgram w.tree (w.call c) = .error e → left.1 = .error e ∧ left.2.clock = w.clock ∧
    (∀ q, host.isPresent left.2 q = host.isPresent w q) ∧ ∀ q, host.read left.2 q = host.read w q

theorem execute_ran (w : World) (c : PassDelta.Command) : Ran w c (host.execute w c) := by
  rcases hspawn : spawn maxSpawnDepth (w.opened c.limit.span) (w.call c) with ⟨answer, after⟩
  have hrun : host.execute w c =
      (answer.bind fun ending => w.completion c.limit.span ending after, after.closed) := by
    change execute w c = _
    rw [execute, hspawn]
  rw [hrun]
  exact {
    inTime := by
      intro done hdone
      obtain ⟨ending, -, hcompletion⟩ := bind_eq_ok.mp hdone
      obtain ⟨-, helapsed, hlimit⟩ := completion_ok hcompletion
      refine ⟨helapsed, fun deadline hc => hlimit deadline ?_⟩
      rw [hc, Limit.span]
    ended := by
      refine ⟨rfl, rfl, fun channel hchannel => ?_⟩
      exact of_decide_eq_true (List.mem_filter.mp hchannel).2
    unstarted := by
      intro e hfind
      have hopened : findProgram (w.opened c.limit.span).tree (w.call c) = .error e := hfind
      rw [maxSpawnDepth, spawn_refused hopened] at hspawn
      cases hspawn
      have hsame := closed_opened w c.limit.span
      refine ⟨rfl, hsame.2.2, fun q => ?_, fun q => ?_⟩
      · rw [isPresent_eq, isPresent_eq, hsame.1, hsame.2.1]
      · rw [read_eq, read_eq, hsame.1, hsame.2.1] }

/-- Every run of a batch that completes takes less than the time limit of the batch. -/
theorem run_inTime (style : Style) (setup : Setup) (w : World) (ms : List Path) {deadline : Duration}
    (hlimit : setup.timeout = some deadline) :
    ∀ call ∈ Batch.callsAt host setup (Batch.visitedPositions host style setup w ms), ∀ done, call.2 = .ok done →
      done.elapsed.nanos + leastDuration.nanos < deadline.nanos := by
  intro call hcall done hdone
  obtain ⟨⟨m, v⟩, -, hruns⟩ := List.mem_flatMap.mp hcall
  obtain ⟨mode, u, rfl⟩ := Host.mem_runs hruns
  have hran := execute_ran u (host.command setup m mode)
  dsimp only at hdone
  exact (hran.inTime done hdone).2 deadline (congrArg Limit.within hlimit)

def hostWith (execute : World → PassDelta.Command → PassDelta.Answer × World) : Host World :=
  { host with execute := execute }

section Runs
variable {execute : World → PassDelta.Command → PassDelta.Answer × World}

@[simp] theorem hostWith_execute : (hostWith execute).execute = execute := rfl

@[simp] theorem hostWith_createDir : (hostWith execute).createDir = host.createDir := rfl

@[simp] theorem hostWith_write : (hostWith execute).write = host.write := rfl

/-- A batch takes nothing away from the directory that it works in where its runs do not: what was there before is
there when it has ended. -/
theorem run_extends (here : ∀ w c, (execute w c).2.here = w.here)
    (adds : ∀ (w : World) c, w.tree.Extends (execute w c).2.tree) (style : Style) (setup : Setup)
    (ms : List Path) (w : World) :
    let left := ((Batch.run (hostWith execute) style setup ms).run (.start w)).2.world
    w.tree.Extends left.tree ∧ ∀ q, host.isPresent w q = true → host.isPresent left q = true := by
  intro left
  have hpreserved : Batch.Preserved (hostWith execute) setup ms fun v => v.here = w.here ∧ w.tree.Extends v.tree := {
    execute := by
      rintro v c ⟨hhere, hv⟩
      rw [hostWith_execute]
      exact ⟨(here v c).trans hhere, hv.trans (adds v c)⟩
    createDir := by
      rintro v ⟨hhere, hv⟩
      rw [hostWith_createDir]
      have hmade := createDir_madeDir v setup.outputDir
      exact ⟨(congrArg World.here hmade.rest).trans hhere, hv.trans hmade.grows.extends⟩
    write := by
      rintro v m - mode contents ⟨hhere, hv⟩
      rw [hostWith_write]
      have hwrote := write_wrote v (artifactPath setup.outputDir m.stem mode setup.extension) contents
      exact ⟨(congrArg World.here hwrote.rest).trans hhere, hv.trans hwrote.grows⟩ }
  obtain ⟨hhere, hextends⟩ : left.here = w.here ∧ w.tree.Extends left.tree := hpreserved.run ⟨rfl, .refl w.tree⟩
  exact ⟨hextends, isPresent_extends hhere hextends⟩

end Runs
end PassDelta.Machine.World
