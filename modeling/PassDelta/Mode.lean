/-!
# Modes

The two sides of a comparison, and values that come in one copy for each side.
-/

namespace PassDelta

/-- Which side of the comparison a compiler run belongs to. -/
inductive Mode where
  | unoptimized
  | optimized
  deriving DecidableEq, Repr

namespace Mode

def name : Mode → String
  | unoptimized => "unoptimized"
  | optimized => "optimized"

def upperName : Mode → String
  | unoptimized => "UNOPTIMIZED"
  | optimized => "OPTIMIZED"

def step : Mode → Nat
  | unoptimized => 1
  | optimized => 2

end Mode

structure PerMode (α : Type) where
  unoptimized : α
  optimized : α
  deriving DecidableEq, Repr

namespace PerMode

variable {α β : Type}

def get (p : PerMode α) : Mode → α
  | .unoptimized => p.unoptimized
  | .optimized => p.optimized

def map (f : α → β) (p : PerMode α) : PerMode β := ⟨f p.unoptimized, f p.optimized⟩

def ofFn (f : Mode → α) : PerMode α := ⟨f .unoptimized, f .optimized⟩

def toList (p : PerMode α) : List α := [p.unoptimized, p.optimized]

end PerMode
end PassDelta
