import PassDelta.CommandLine.Perform
import PassDelta.Machine.Host
/-!
# The program

The command line on a real directory. The working directory is taken into a world, the request is performed
there, and what it changed is written back; every decision is made in between. Programs that a comparison runs
are scripts of the directory or come with the machine.
-/

namespace PassDelta.Program

def isScript (contents : Bytes) : Bool := contents.take 2 = Text.encode "#!"

def takeIn : IO Machine.World := do
  let here ← IO.currentDir
  let place : Machine.Place := (Path.ofString here.toString).segments.filter (· ≠ [])
  let mut world := Machine.World.fresh place
  let mut given := []
  for name in ["HOME", "LANG", "PATH"] do
    if let some value ← IO.getEnv name then given := given ++ [(name, Machine.octetsOfText value)]
  world := { world with environment := given }
  let mut unread := [(here, Path.ofString "")]
  repeat
    match unread with
    | [] => break
    | (dir, path) :: rest =>
      unread := rest
      for e in ← dir.readDir do
        let below := path / Path.ofString e.fileName
        if ← e.path.isDir then
          world := world.install below (.dir Machine.Entry.dirMode)
          unread := (e.path, below) :: unread
        else
          let contents := (← IO.FS.readBinFile e.path).toList
          world := world.install below (.file contents (if isScript contents then Machine.Entry.scriptMode else Machine.Entry.fileMode))
  return world

def putBack (before after : Machine.World) : IO Unit := do
  for dir in after.dirs do
    IO.FS.createDirAll dir.display
  for (path, contents) in before.changes after do
    IO.FS.writeBinFile path.display ⟨contents.toArray⟩
  for path in before.losses after do
    IO.FS.removeFile path.display

def tell (trace : List Action) : IO Unit := do
  for action in trace do
    match action with
    | .printed text => IO.print text
    | .complained text => IO.eprint text
    | _ => pure ()

end PassDelta.Program

open PassDelta in
def main (args : List String) : IO UInt32 := do
  let style := Style.ofLocale ((← IO.getEnv "LANG").getD "") ((← IO.getEnv "CLICOLOR_FORCE").any (· ≠ "0"))
  let before ← Program.takeIn
  let request := CommandLine.read (args.map Text.encode)
  let (code, s) := (CommandLine.perform Machine.World.host style before.root request).run (.start before)
  Program.putBack before s.world
  Program.tell s.trace
  return code.toUInt32
