import PassDelta.Config
import PassDelta.Toml.Mismatch
import PassDelta.Toml.Reader
import PassDelta.Toml.Writer
/-!
# Configurations as text

A configuration file is a TOML table of nine settings, each of which may be left out. Other keys are passed over,
whatever they hold; of several values of the wrong kind the first in the order of the table is named. Paths that
are not text and numbers beyond 63 bits cannot be written.
-/

namespace PassDelta

namespace Toml

def refuse {α : Type} (key : Key) (item : Item) (wanted : Wanted) : Except Mismatch α :=
  .error ⟨item.span?.getD key.span, item.describe, false, wanted⟩

def readText (wanted : Wanted) (key : Key) : Item → Except Mismatch String
  | .scalar _ (.text s) => .ok s
  | item => refuse key item wanted

def readPath (key : Key) (item : Item) : Except Mismatch Path := Path.ofString <$> readText .path key item

/-- A list of values. The tables under a repeated header are such a list. -/
def readList {α : Type} (read : Key → Item → Except Mismatch α) (key : Key) : Item → Except Mismatch (List α)
  | .list _ items => items.mapM (read key)
  | .tables entries => entries.mapM fun e => read key (.table (.header e.1) e.2)
  | item => refuse key item .sequence

def readNatural (wanted : Wanted) (key : Key) : Item → Except Mismatch Nat
  | .scalar span (.integer n) =>
    if 0 ≤ n then .ok n.toNat else .error ⟨span, (Scalar.integer n).describe, true, wanted⟩
  | item => refuse key item wanted

end Toml

namespace Config

open Toml

def absorb (c : Config) (key : Key) (item : Item) : Except Mismatch Config := do
  match key.name with
  | "compiler" => return { c with compiler := ← readText .text key item }
  | "base-args" => return { c with baseArgs := ← readList (readText .text) key item }
  | "unoptimized-flags" =>
    return { c with flags := { c.flags with unoptimized := ← readList (readText .text) key item } }
  | "optimized-flags" =>
    return { c with flags := { c.flags with optimized := ← readList (readText .text) key item } }
  | "modules" => return { c with modules := ← readList readPath key item }
  | "output-dir" => return { c with outputDir := ← readPath key item }
  | "extension" => return { c with extension := ← readText .text key item }
  | "timeout-secs" => return { c with timeoutSecs := some (← readNatural .word key item) }
  | "preview-limit" => return { c with previewLimit := ← readNatural .size key item }
  | _ => return c

def ofMembers (members : Members) : Except Mismatch Config :=
  members.foldlM (fun c m => c.absorb m.1 m.2) initial

def read (text : String) : Except Complaint Config :=
  match Toml.read text.toList with
  | none => .error .malformed
  | some members =>
    match ofMembers members with
    | .ok c => .ok c
    | .error m => .error (.mismatch m)

inductive Unwritable where
  | undecodablePath
  | numberTooLarge
  deriving DecidableEq, Repr

def Unwritable.message : Unwritable → String
  | undecodablePath => "path contains invalid UTF-8 characters"
  | numberTooLarge => "out-of-range value for u64 type"

def pathText (p : Path) : Except Unwritable String :=
  match p.text? with
  | some s => .ok s
  | none => .error .undecodablePath

def writable (n : Nat) : Except Unwritable Datum :=
  if n < twoTo 63 then .ok (.number n) else .error .numberTooLarge

/-- The settings as lines of a file. A time limit that is not set has no line. -/
def entries (c : Config) : Except Unwritable (List (String × Datum)) := do
  let modules ← c.modules.mapM pathText
  let outputDir ← pathText c.outputDir
  let timeout ← c.timeoutSecs.mapM writable
  let limit ← writable c.previewLimit
  return [("compiler", .text c.compiler), ("base-args", .texts c.baseArgs),
    ("unoptimized-flags", .texts c.flags.unoptimized), ("optimized-flags", .texts c.flags.optimized),
    ("modules", .texts modules), ("output-dir", .text outputDir), ("extension", .text c.extension)] ++
    (timeout.map fun d => ("timeout-secs", d)).toList ++ [("preview-limit", limit)]

def write (c : Config) : Except Unwritable String := writeEntries <$> c.entries

end Config
end PassDelta
