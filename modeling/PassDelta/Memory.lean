import PassDelta.Session
/-!
# Memory

A world kept in memory: named files, created directories, faults chosen by operation and path, and a list of
answers for the compiler. Paths are compared byte for byte.
-/

namespace PassDelta

inductive FileOp where
  | createDir
  | write
  | read
  deriving DecidableEq, Repr

structure Fault where
  on : FileOp
  path : Option Path
  error : IoError
  deriving DecidableEq, Repr

/-- Files and directories in memory. `existing` lists paths that are there without content. -/
structure Store where
  existing : List Path
  files : List (Path × Bytes)
  dirs : List Path
  faults : List Fault
  deriving DecidableEq, Repr

namespace Store

def empty : Store := ⟨[], [], [], []⟩

def content? (s : Store) (p : Path) : Option Bytes := s.files.lookup p

def isPresent (s : Store) (p : Path) : Bool :=
  s.existing.contains p || (s.content? p).isSome || s.dirs.contains p

def fault? (s : Store) (op : FileOp) (p : Path) : Option IoError :=
  (s.faults.find? fun f => f.on = op && f.path.all (· = p)).map Fault.error

/-- The files with the content of one path replaced, or the path added. -/
def put (files : List (Path × Bytes)) (p : Path) (contents : Bytes) : List (Path × Bytes) :=
  match files with
  | [] => [(p, contents)]
  | f :: rest => if f.1 = p then (p, contents) :: rest else f :: put rest p contents

def createDir (s : Store) (p : Path) : Except IoError Unit × Store :=
  match s.fault? .createDir p with
  | some e => (.error e, s)
  | none => (.ok (), { s with dirs := if s.dirs.contains p then s.dirs else s.dirs ++ [p] })

def write (s : Store) (p : Path) (contents : Bytes) : Except IoError Unit × Store :=
  match s.fault? .write p with
  | some e => (.error e, s)
  | none => (.ok (), { s with files := put s.files p contents })

def read (s : Store) (p : Path) : Except IoError String :=
  match s.fault? .read p with
  | some e => .error e
  | none =>
    match s.content? p with
    | none => .error (.custom .notFound "file not found")
    | some bytes =>
      match Text.decode? bytes with
      | some text => .ok text
      | none => .error (.custom .invalidData "stream did not contain valid UTF-8")

def remove (s : Store) (p : Path) : Store :=
  { s with existing := s.existing.filter (· ≠ p), files := s.files.filter fun f => f.1 ≠ p
           dirs := s.dirs.filter (· ≠ p) }

end Store

abbrev Answer := Except IoError Completion

/-- Files in memory, and the answers still to be given to runs. -/
structure Memory where
  store : Store
  answers : List Answer

namespace Memory

def execute (m : Memory) (_ : Command) : Answer × Memory :=
  match m.answers with
  | [] => (.error (.custom .other "no scripted response"), m)
  | a :: rest => (a, { m with answers := rest })

def host : Host Memory where
  isPresent m p := m.store.isPresent p
  createDir m p := let (r, s) := m.store.createDir p; (r, { m with store := s })
  read m p := m.store.read p
  write m p contents := let (r, s) := m.store.write p contents; (r, { m with store := s })
  execute := execute
  locate _ _ := none
  enforcesDeadlines := true
  console _ := .shown
  wording _ := "<toml syntax error>"

end Memory
end PassDelta
