import PassDelta.Config.Text
import PassDelta.Failure
import PassDelta.Session
/-!
# Configuration files

Loading, saving and creating the configuration file of a project. A project without file has the defaults; a file
that is asked for by name must be there. What is read must describe a usable comparison.
-/

namespace PassDelta.Config

variable {σ : Type}

def fileIn (root : Path) : Path := root / Path.ofString fileName

def parse (wording : String → String) (path : Path) (contents : String) : Except Trouble Config :=
  match read contents with
  | .error complaint =>
    let t := Trouble.ofFailure (.invalidConfig path (complaint.render wording contents))
    .error (t.context ("Failed to parse " ++ path.display))
  | .ok c =>
    match c.validate with
    | .error fault => .error (.ofFailure (.invalidConfig path fault.message))
    | .ok () => .ok c

def load (h : Host σ) (root : Path) : Work σ (Except Trouble Config) := do
  let path := fileIn root
  match ← Work.read h path with
  | .ok contents => return parse h.wording path contents
  | .error source =>
    if source.kind = .notFound then
      Work.log .debug (path.display ++ " not found, using defaults")
      return .ok initial
    else
      let t := Trouble.ofFailure (.io path.display source)
      return .error (t.context ("Failed to read " ++ fileName))

def loadFile (h : Host σ) (path : Path) : Work σ (Except Trouble Config) := do
  match ← Work.read h path with
  | .ok contents => return parse h.wording path contents
  | .error source =>
    if source.kind = .notFound then return .error (.ofFailure (.configNotFound path source))
    else return .error (.ofFailure (.io path.display source))

def save (h : Host σ) (c : Config) (root : Path) : Work σ (Except Trouble Unit) := do
  match c.write with
  | .error problem => return .error ⟨["Failed to serialize config"], .words problem.message⟩
  | .ok contents =>
    let path := fileIn root
    match ← Work.write h path (Text.encode contents) with
    | .ok () => return .ok ()
    | .error source =>
      let t := Trouble.ofFailure (.io path.display source)
      return .error (t.context ("Failed to write " ++ fileName))

def isStored (h : Host σ) (root : Path) : Work σ Bool := Work.isPresent h (fileIn root)

/-- Writes settings into a project, over existing ones only by force. -/
def create (h : Host σ) (c : Config) (root : Path) (force : Bool) : Work σ (Except Trouble Path) := do
  let path := fileIn root
  let present ← isStored h root
  if present && !force then
    return .error (.ofFailure (.configExists path))
  else
    if present then Work.log .warn ("overwriting " ++ path.display)
    match ← save h c root with
    | .ok () => return .ok path
    | .error t => return .error t

end PassDelta.Config
