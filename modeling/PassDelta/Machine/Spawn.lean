import PassDelta.Machine.Records.Start
import PassDelta.Machine.Shell.StartRich
import PassDelta.Machine.Utility.Launch
/-!
# Starting programs

What the system does to start a program: it looks for it on the search path, reads the first line of a script, and
refuses what cannot be started.
-/

namespace PassDelta.Machine

/-- The first line of a script: its program, and one argument if there is one. Only the first octets of the file are
looked at, so a line that is longer loses its end, and must not lose the end of the name. -/
def interpreterLine (contents : Octets) : Except IoError (Octets × List Octets) :=
  let seen := 256
  let blank (c : Char) : Bool := c = ' ' || c = '\t'
  match contents with
  | '#' :: '!' :: rest =>
    let raw := (rest.take (seen - 2)).takeWhile fun c => c ≠ '\n' && c ≠ Char.ofNat 0
    let ended := (rest.drop raw.length).head? = some '\n' ∧ raw.length < seen - 2
    let cut := raw.length = seen - 2
    let line := (if cut then raw.dropLast else raw).dropWhile blank
    let program := line.takeWhile fun c => !blank c
    let argument := (((line.drop program.length).dropWhile blank).reverse.dropWhile blank).reverse
    if cut ∧ ((raw.dropWhile blank).dropWhile fun c => !blank c).isEmpty then .error .enoexec
    else if program.isEmpty then .error (if ended then .enoexec else .enoent)
    else .ok (program, if argument.isEmpty then [] else [argument])
  | _ => .error .enoexec

def maxScripts : Nat := 5

/-- Follows the first lines of scripts from a path to a program of the machine. -/
def resolveProgram (t : Tree) : Nat → Call → Octets → Except IoError (String × Call)
  | fuel, call, path => do
    let place ← t.find call.here ⟨bytesOf path⟩
    match t.entry? place with
    | some (.program name) => return (name, call)
    | some (.file contents mode) =>
      if !Entry.startable mode then throw .eacces
      let (program, arguments) ← interpreterLine (octets contents)
      let next : Call := { call with name := program, args := arguments ++ path :: call.args }
      match fuel with
      | 0 => do
        let place ← t.find call.here ⟨bytesOf program⟩
        if (t.entry? place).any Entry.isProgram then throw .eloop else throw .eacces
      | fuel + 1 => resolveProgram t fuel next program
    | _ => throw .eacces

def maxArgument : Nat := 131072

def maxArguments : Nat := 2097152

def checkCall (call : Call) : Except IoError Unit := do
  let given := call.name :: call.args
  let environment := call.environment.map fun v => v.1.toList ++ '=' :: v.2
  if given.any fun a => a.contains (Char.ofNat 0) then
    throw (.custom .invalidInput "nul byte found in provided data")
  let sizes := (given ++ environment).map fun a => a.length + 1 + 8
  if (given.any fun a => maxArgument ≤ a.length) ∨ maxArguments < sizes.foldl (· + ·) call.name.length then
    throw .e2big

/-- Tries the directories of the search path. One in which the program may not be started does not end the search. -/
def searchProgram (t : Tree) (call : Call) : List Octets → Bool → Except IoError (String × Call)
  | [], denied => .error (if denied then .eacces else .enoent)
  | dir :: dirs, denied =>
    match resolveProgram t maxScripts call (if dir.isEmpty then call.name else dir ++ ['/'] ++ call.name) with
    | .ok found => .ok found
    | .error e =>
      if e = .eacces then searchProgram t call dirs true
      else if e = .enoent ∨ e = .enotdir then searchProgram t call dirs denied
      else .error e

def searchDirs (environment : List (String × Octets)) : List Octets :=
  ((environment.lookup "PATH").getD "/bin:/usr/bin".toList).splitOn ':'

def findProgram (t : Tree) (call : Call) : Except IoError (String × Call) := do
  checkCall call
  if call.name.isEmpty then throw .enoent
  if call.name.contains '/' then resolveProgram t maxScripts call call.name
  else if Tree.maxName < call.name.length then throw .enametoolong
  else searchProgram t call (searchDirs call.environment) false

def launchers : List (String × (Spawn → World → Call → Ending × World)) := [
  ("sh", Shell.run), ("dash", Shell.run), ("bash", Shell.runRich), ("env", Utility.env),
  ("timeout", Utility.timeout), ("xargs", Utility.xargs), ("nohup", Utility.prefixed []), ("nice", Utility.prefixed ['n']), ("setsid", Utility.prefixed []),
  ("stdbuf", Utility.prefixed ['i', 'o', 'e']), ("awk", Records.run), ("mawk", Records.run)]

def programNames : List String := launchers.map Prod.fst ++ Utility.programs.map Prod.fst

/-- Starts a program and runs it. `depth` bounds how many programs may start one another; more never come to an
end. -/
def spawn : Nat → Spawn
  | 0, w, _ => (.ok .late, w)
  | depth + 1, w, call =>
    match findProgram w.tree call with
    | .error e => (.error e, w)
    | .ok (name, call) =>
      let (e, w) := match launchers.lookup name, Utility.programs.lookup name with
        | some run, _ => run (spawn depth) w call
        | none, some act => Act.run (Utility.runProgram name act) w call
        | none, none => (.exited 0, w)
      (.ok (if w.isLate then .late else e), w)

end PassDelta.Machine
