import PassDelta.IoError
import PassDelta.Mode
import PassDelta.Path
/-!
# Artifacts

A capture is kept in a file whose name is made of the module's stem, the mode and the configured extension, so
every run of a module overwrites the same two files.
-/

namespace PassDelta

/-- The name of a module in file names and reports: its file name up to the last dot, or a fixed word if the
path ends in no name. -/
def Path.stem (module : Path) : String :=
  match module.fileStem with
  | some bytes => Text.lossy bytes
  | none => "module"

def artifactName (stem : String) (mode : Mode) (extension : String) : String :=
  stem ++ "_" ++ mode.name ++ "." ++ extension

def artifactPath (outputDir : Path) (stem : String) (mode : Mode) (extension : String) : Path :=
  outputDir / Path.ofString (artifactName stem mode extension)

inductive ArtifactStep where
  | createDir
  | write
  deriving DecidableEq, Repr

structure ArtifactError where
  step : ArtifactStep
  path : Path
  source : IoError
  deriving DecidableEq, Repr

namespace ArtifactError

def kind (e : ArtifactError) : String :=
  match e.step with
  | .createDir => "create_dir"
  | .write => "write"

def message (e : ArtifactError) : String :=
  let what := match e.step with
    | .createDir => "create output directory "
    | .write => "write artifact "
  "failed to " ++ what ++ e.path.display ++ ": " ++ e.source.message

end ArtifactError
end PassDelta
