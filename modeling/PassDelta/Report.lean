import PassDelta.Artifact
import PassDelta.Invocation
import PassDelta.Number.Binary64
/-!
# Reports

The comparison of one module's two captures: line counts, their difference, and the share of lines the
optimizer removed. A batch is summed up by its reports in list order and by what went wrong.
-/

namespace PassDelta

structure Report where
  name : String
  module : Path
  lines : PerMode Nat
  artifacts : PerMode Path
  deriving DecidableEq, Repr

namespace Report

def lineDelta (lines : PerMode Nat) : Int := ((lines.unoptimized : Int) - lines.optimized).bmod (twoTo 64)

/-- The removed share of the unoptimized lines in percent; zero when there are none. -/
def reduction (lines : PerMode Nat) : Binary64 :=
  if lines.unoptimized = 0 then .zero
  else Binary64.ofInt (lineDelta lines) / Binary64.ofNat lines.unoptimized * Binary64.ofNat 100

def percentText (x : Binary64) : String := x.oneDecimal ++ "%"

/-- A count of removed lines as a change of the total, always with its sign. -/
def deltaText (removed : Int) : String :=
  if removed = 0 then "±0 lines"
  else (if 0 < removed then "-" else "+") ++ toString removed.natAbs ++ " lines"

end Report

inductive BatchStatus where
  | completed
  | aborted
  deriving DecidableEq, Repr

def BatchStatus.name : BatchStatus → String
  | completed => "completed"
  | aborted => "aborted"

structure ArtifactFailure where
  module : Path
  error : ArtifactError
  deriving DecidableEq, Repr

structure Summary where
  reports : List Report
  skipped : List Path
  artifactFailures : List ArtifactFailure
  failure : Option InvocationError
  status : BatchStatus
  deriving DecidableEq, Repr

namespace Summary

def failedCount (s : Summary) : Nat := if s.failure.isSome then 1 else 0

def isSuccess (s : Summary) : Bool := s.status = .completed

def exitCode (s : Summary) : Nat :=
  match s.status with
  | .completed => 0
  | .aborted => 1

end Summary
end PassDelta
