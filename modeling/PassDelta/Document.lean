import PassDelta.Json.Reader
import PassDelta.Json.Value
import PassDelta.Report
/-!
# Documents

The outcome of a batch as a JSON document: written for scripts, and read back. A path that is not text cannot be
written. Members may come in any order and unknown ones are passed over; `error` and `stderr` may be left out.
-/

namespace PassDelta

structure ModuleEntry where
  name : String
  path : Path
  lines : PerMode Nat
  lineDelta : Int
  reduction : Binary64
  artifacts : PerMode Path
  deriving DecidableEq, Repr

structure LossEntry where
  module : Path
  path : Path
  message : String
  deriving DecidableEq, Repr

structure ErrorEntry where
  kind : String
  module : Path
  mode : String
  message : String
  stderr : Option String
  deriving DecidableEq, Repr

structure Document where
  success : Bool
  status : String
  analyzed : Nat
  skipped : Nat
  failed : Nat
  modules : List ModuleEntry
  skippedModules : List Path
  artifactFailures : List LossEntry
  error : Option ErrorEntry
  deriving DecidableEq, Repr

namespace ModuleEntry

def ofReport (r : Report) : ModuleEntry where
  name := r.name
  path := r.module
  lines := r.lines
  lineDelta := Report.lineDelta r.lines
  reduction := Report.reduction r.lines
  artifacts := r.artifacts

end ModuleEntry

def LossEntry.ofFailure (f : ArtifactFailure) : LossEntry := ⟨f.module, f.error.path, f.error.message⟩

def ErrorEntry.ofError (e : InvocationError) : ErrorEntry := ⟨e.kind, e.module, e.mode.name, e.message, e.stderr⟩

namespace Document

def ofSummary (s : Summary) : Document where
  success := s.isSuccess
  status := s.status.name
  analyzed := s.reports.length
  skipped := s.skipped.length
  failed := s.failedCount
  modules := s.reports.map ModuleEntry.ofReport
  skippedModules := s.skipped
  artifactFailures := s.artifactFailures.map LossEntry.ofFailure
  error := s.failure.map ErrorEntry.ofError

def pathJson? (p : Path) : Option Json := p.text?.map Json.str

def entryJson? (m : ModuleEntry) : Option Json := do
  return .obj [("name", .str m.name), ("path", ← pathJson? m.path),
    ("unoptimized_lines", .int m.lines.unoptimized), ("optimized_lines", .int m.lines.optimized),
    ("line_delta", .int m.lineDelta), ("reduction_percent", .num m.reduction),
    ("unoptimized_artifact", ← pathJson? m.artifacts.unoptimized),
    ("optimized_artifact", ← pathJson? m.artifacts.optimized)]

def lossJson? (l : LossEntry) : Option Json := do
  return .obj [("module", ← pathJson? l.module), ("path", ← pathJson? l.path), ("message", .str l.message)]

def errorJson? (e : ErrorEntry) : Option Json := do
  return .obj ([("kind", .str e.kind), ("module", ← pathJson? e.module), ("mode", .str e.mode),
    ("message", .str e.message)] ++ (e.stderr.map fun text => ("stderr", Json.str text)).toList)

def json? (d : Document) : Option Json := do
  return .obj ([("success", .bool d.success), ("status", .str d.status), ("analyzed", .int d.analyzed),
    ("skipped", .int d.skipped), ("failed", .int d.failed),
    ("modules", .arr (← d.modules.mapM entryJson?)),
    ("skipped_modules", .arr (← d.skippedModules.mapM pathJson?)),
    ("artifact_failures", .arr (← d.artifactFailures.mapM lossJson?))] ++
    ((← d.error.mapM errorJson?).map fun e => ("error", e)).toList)

def pathProblem : String := "path contains invalid UTF-8 characters"

def writeProblem : String := "Failed to serialize JSON output: " ++ pathProblem

def write (d : Document) : Except String String :=
  match d.json? with
  | some v => .ok v.pretty
  | none => .error writeProblem

def reportLine (r : Report) : Except String String :=
  let value : Option Json := do
    return .obj [("module_name", .str r.name), ("module_path", ← pathJson? r.module),
      ("metrics", .obj [("unoptimized_lines", .int r.lines.unoptimized),
        ("optimized_lines", .int r.lines.optimized)]),
      ("reduction_percent", .num (Report.reduction r.lines)),
      ("unoptimized_artifact", ← pathJson? r.artifacts.unoptimized),
      ("optimized_artifact", ← pathJson? r.artifacts.optimized)]
  match value with
  | some v => .ok (String.ofList v.compact)
  | none => .error pathProblem

open Json in
def readPath : Reader Path := fun v => Path.ofString <$> readText v

open Json in
def entryShape : Shape ModuleEntry where
  fields := [("name", check readText), ("path", check readPath), ("unoptimized_lines", check readWord),
    ("optimized_lines", check readWord), ("line_delta", check readInt), ("reduction_percent", check readFloat),
    ("unoptimized_artifact", check readPath), ("optimized_artifact", check readPath)]
  build get := do
    return { name := ← required get "name" readText
             path := ← required get "path" readPath
             lines := ⟨← required get "unoptimized_lines" readWord, ← required get "optimized_lines" readWord⟩
             lineDelta := ← required get "line_delta" readInt
             reduction := ← required get "reduction_percent" readFloat
             artifacts := ⟨← required get "unoptimized_artifact" readPath,
               ← required get "optimized_artifact" readPath⟩ }

open Json in
def lossShape : Shape LossEntry where
  fields := [("module", check readPath), ("path", check readPath), ("message", check readText)]
  build get := do
    return { module := ← required get "module" readPath
             path := ← required get "path" readPath
             message := ← required get "message" readText }

open Json in
def errorShape : Shape ErrorEntry where
  fields := [("kind", check readText), ("module", check readPath), ("mode", check readText),
    ("message", check readText), ("stderr", check (readOption readText))]
  build get := do
    return { kind := ← required get "kind" readText
             module := ← required get "module" readPath
             mode := ← required get "mode" readText
             message := ← required get "message" readText
             stderr := ← optional get "stderr" readText }

open Json in
def shape : Shape Document where
  fields := [("success", check readBool), ("status", check readText), ("analyzed", check readWord),
    ("skipped", check readWord), ("failed", check readWord), ("modules", check (readList entryShape.read)),
    ("skipped_modules", check (readList readPath)), ("artifact_failures", check (readList lossShape.read)),
    ("error", check (readOption errorShape.read))]
  build get := do
    return { success := ← required get "success" readBool
             status := ← required get "status" readText
             analyzed := ← required get "analyzed" readWord
             skipped := ← required get "skipped" readWord
             failed := ← required get "failed" readWord
             modules := ← required get "modules" (readList entryShape.read)
             skippedModules := ← required get "skipped_modules" (readList readPath)
             artifactFailures := ← required get "artifact_failures" (readList lossShape.read)
             error := ← optional get "error" errorShape.read }

def read (text : String) : Except Json.ReadError Document := Json.readDocument shape.read text

end Document
end PassDelta
