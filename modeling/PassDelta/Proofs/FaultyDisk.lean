import PassDelta.Proofs.Contents
import PassDelta.Proofs.Utf8
/-!
# Disks under faults

On a disk with a set of faults an operation fails if a fault is set for it on its path, and only then. What fails
changes nothing. What succeeds stores its bytes or makes its directory and leaves the rest, the faults included, as
it was.
-/

namespace PassDelta

variable {σ : Type}

structure FaultyDisk (h : Host σ) where
  matching : Matching
  content : σ → Path → Option Bytes
  directories : σ → Path → Bool
  fault : σ → FileOp → Path → Option IoError
  -- a disk may make the directories on the way together with the last one
  made : Path → Path → Bool
  createDir_failed {w : σ} {p : Path} {e : IoError} (failed : fault w .createDir p = some e) :
    h.createDir w p = (.error e, w)
  createDir_done {w : σ} {p : Path} (free : fault w .createDir p = none) : ∃ w', h.createDir w p = (.ok (), w') ∧
    content w' = content w ∧ directories w' = (fun q => directories w q || made p q) ∧ fault w' = fault w
  write_failed {w : σ} {p : Path} {e : IoError} (contents : Bytes) (failed : fault w .write p = some e) :
    h.write w p contents = (.error e, w)
  write_done {w : σ} {p : Path} (contents : Bytes) (free : fault w .write p = none) :
    ∃ w', h.write w p contents = (.ok (), w') ∧ content w' = matching.overlay (content w) [(p, contents)] ∧
      directories w' = directories w ∧ fault w' = fault w
  read_failed {w : σ} {p : Path} {e : IoError} (failed : fault w .read p = some e) : h.read w p = .error e
  read_done {w : σ} {p : Path} {text : String} (free : fault w .read p = none)
    (stored : content w p = some (Text.encode text)) : h.read w p = .ok text

namespace Memory

def faultyDisk : FaultyDisk host where
  matching := .exact
  content m := m.store.content?
  directories m q := m.store.dirs.contains q
  fault m := m.store.fault?
  made p q := decide (q = p)
  createDir_failed {m p e} failed := by simp [host, Store.createDir, failed]
  createDir_done {m p} free := by
    refine ⟨{ m with store := (m.store.createDir p).2 }, ?_, ?_, ?_, ?_⟩
    all_goals simp only [host, Store.createDir, free]
    · rfl
    · funext q
      split <;> by_cases hq : q = p <;> simp_all
    · rfl
  write_failed {m p e} contents failed := by simp [host, Store.write, failed]
  write_done {m p} contents free := by
    refine ⟨{ m with store := (m.store.write p contents).2 }, ?_, ?_, ?_, ?_⟩
    all_goals simp only [host, Store.write, free]
    · funext q
      simp only [Matching.overlay_singleton, Matching.exact, decide_eq_true_eq]
      exact lookup_put m.store.files p contents q
    · rfl
  read_failed {m p e} failed := by simp [host, Store.read, failed]
  read_done {m p text} free stored := by simp [host, Store.read, free, stored, Text.decode?_encode]

end Memory

namespace Drive

/-- A drive under its faults. Directories on the way to one are made with it. -/
def faultyDisk (compile : Command → Answer) : FaultyDisk (host compile) where
  matching := .spelled
  content := content
  directories := hasDir
  fault := faultAt
  made p q := q.leadsTo p
  createDir_failed := createDir_failed
  createDir_done {d p} free := by
    have hdirs := hasDir_createDir d p
    have hcontent := content_createDir d p
    have hfault := faultAt_createDir d p
    rw [createDir_done free] at hdirs hcontent hfault
    exact ⟨_, createDir_done free, hcontent, hdirs, hfault⟩
  write_failed := write_failed
  write_done {d p} contents free := by
    have hdirs := hasDir_write d p contents
    have hcontent := content_write d p contents
    have hfault := faultAt_write d p contents
    rw [write_done contents free] at hdirs hcontent hfault
    refine ⟨_, write_done contents free, ?_, hdirs, hfault⟩
    rw [hcontent, Matching.overlay_singleton]
    rfl
  read_failed {d p e} failed := by simp [host, read, failed]
  read_done {d p text} free stored := by simp [host, read, free, stored, Text.decode?_encode]

end Drive
end PassDelta
