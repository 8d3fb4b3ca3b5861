import PassDelta.Memory
/-!
# Drives

Files and directories by the components of their paths, however these are spelled. A directory is made together with
those above it that are missing. Faults are set by operation and path, and the compiler answers by the call.
-/

namespace PassDelta

def Path.leadsTo (p q : Path) : Bool := !p.components.isEmpty && p.components.isPrefixOf q.components

structure Drive where
  files : List Component → Option Bytes
  dirs : List Component → Bool
  fault : FileOp → List Component → Option IoError

namespace Drive

def content (d : Drive) (p : Path) : Option Bytes := d.files p.components

def hasDir (d : Drive) (p : Path) : Bool := d.dirs p.components

def faultAt (d : Drive) (op : FileOp) (p : Path) : Option IoError := d.fault op p.components

def createDir (d : Drive) (p : Path) : Except IoError Unit × Drive :=
  match d.faultAt .createDir p with
  | some e => (.error e, d)
  | none => (.ok (), { d with dirs := fun q => d.dirs q || (!q.isEmpty && q.isPrefixOf p.components) })

def write (d : Drive) (p : Path) (contents : Bytes) : Except IoError Unit × Drive :=
  match d.faultAt .write p with
  | some e => (.error e, d)
  | none => (.ok (), { d with files := fun q => if q = p.components then some contents else d.files q })

def read (d : Drive) (p : Path) : Except IoError String :=
  match d.faultAt .read p, d.content p with
  | some e, _ => .error e
  | none, none => .error (.custom .notFound "file not found")
  | none, some bytes => (Text.decode? bytes).elim (.error (.custom .invalidData "not text")) .ok

variable (compile : Command → Answer)

def host : Host Drive where
  isPresent d p := (d.content p).isSome || d.hasDir p
  createDir := createDir
  read := read
  write := write
  execute d c := (compile c, d)
  locate _ _ := none
  enforcesDeadlines := true
  console _ := .shown
  wording _ := "<toml syntax error>"

section Operations
variable {d : Drive} {p : Path}

theorem createDir_failed {e : IoError} (hfault : d.faultAt .createDir p = some e) :
    d.createDir p = (.error e, d) := by rw [createDir, hfault]

theorem createDir_done (hfree : d.faultAt .createDir p = none) : d.createDir p =
    (.ok (), { d with dirs := fun q => d.dirs q || (!q.isEmpty && q.isPrefixOf p.components) }) := by
  rw [createDir, hfree]

theorem write_failed {e : IoError} (contents : Bytes) (hfault : d.faultAt .write p = some e) :
    d.write p contents = (.error e, d) := by rw [write, hfault]

theorem write_done (contents : Bytes) (hfree : d.faultAt .write p = none) : d.write p contents =
    (.ok (), { d with files := fun q => if q = p.components then some contents else d.files q }) := by
  rw [write, hfree]

variable (d p) in
theorem content_createDir : (d.createDir p).2.content = d.content := by
  cases hfault : d.faultAt .createDir p with
  | some e => rw [createDir_failed hfault]
  | none => rw [createDir_done hfault]; rfl

variable (d p) in
theorem content_write (contents : Bytes) : (d.write p contents).2.content =
    match (d.write p contents).1 with
    | .ok () => fun q => if q.same p then some contents else d.content q
    | .error _ => d.content := by
  cases hfault : d.faultAt .write p with
  | some e => rw [write_failed contents hfault]
  | none =>
    rw [write_done contents hfault]
    funext q
    simp [content, Path.same]

variable (d p) in
/-- The directories that are made are the last one and those on the way to it. -/
theorem hasDir_createDir : (d.createDir p).2.hasDir =
    match (d.createDir p).1 with
    | .ok () => fun q => d.hasDir q || q.leadsTo p
    | .error _ => d.hasDir := by
  cases hfault : d.faultAt .createDir p with
  | some e => rw [createDir_failed hfault]
  | none => rw [createDir_done hfault]; rfl

variable (d p) in
theorem hasDir_write (contents : Bytes) : (d.write p contents).2.hasDir = d.hasDir := by
  cases hfault : d.faultAt .write p with
  | some e => rw [write_failed contents hfault]
  | none => rw [write_done contents hfault]; rfl

variable (d p) in
theorem faultAt_createDir : (d.createDir p).2.faultAt = d.faultAt := by
  cases hfault : d.faultAt .createDir p with
  | some e => rw [createDir_failed hfault]
  | none => rw [createDir_done hfault]; rfl

variable (d p) in
theorem faultAt_write (contents : Bytes) : (d.write p contents).2.faultAt = d.faultAt := by
  cases hfault : d.faultAt .write p with
  | some e => rw [write_failed contents hfault]
  | none => rw [write_done contents hfault]; rfl

/-- A run leaves the drive to itself. -/
theorem host_execute (d : Drive) (c : Command) : (host compile).execute d c = (compile c, d) := rfl

theorem hasDir_execute (d : Drive) (c : Command) : ((host compile).execute d c).2.hasDir = d.hasDir := by
  rw [host_execute]

end Operations

def echo (refused : Path) (c : Command) : Answer :=
  if c.arguments.contains refused.bytes then .ok ⟨.exited 1, [], [], ⟨0⟩⟩
  else .ok ⟨.exited 0, c.arguments.flatten, [], ⟨0⟩⟩

def faultless : FileOp → List Component → Option IoError := fun _ _ => none

def holding (ms : List Path) (fault : FileOp → List Component → Option IoError) : Drive :=
  ⟨fun q => if ms.any (·.components = q) then some [] else none, fun _ => false, fault⟩

end Drive
end PassDelta
