import PassDelta.Machine.Permission
import PassDelta.Machine.Utility.Line
/-!
# Programs on files

Programs that make, move, copy and take away files, directories and links, and change their permissions.
-/

namespace PassDelta.Machine

/-- The place that a path names in a directory, whether or not something is there. -/
def Tree.slotPlace (t : Tree) (here : Place) (p : Path) : Except IoError Place := do
  Tree.checkPath p
  let (dir, name?) ← t.slot here p (p.segments.filter (· ≠ []))
  match name? with
  | some name => return dir ++ [name]
  | none => return dir

namespace Utility

open Act

def pathOf (file : Octets) : Path := ⟨bytesOf file⟩

def changeTree (f : Tree → Tree) : Act Unit := do
  let w ← getWorld
  setWorld { w with tree := f w.tree }

def withWords (e : IoError) (text : Octets) : Octets := text ++ ": ".toList ++ octetsOfText e.words

def located (file : Octets) : Act (Except IoError Place) := do
  return (← getWorld).tree.find (← place) (pathOf file)

def locatedLink (file : Octets) : Act (Except IoError Place) := do
  return (← getWorld).tree.findLink (← place) (pathOf file)

def isDirectory (file : Octets) : Act Bool := do
  match ← located file with
  | .ok found => return (← getWorld).tree.isDir found
  | .error _ => return false

def newMode (bits : Nat) : Act Nat := do return granted (← read).mask bits

def withoutSlashes (cs : Octets) : Octets :=
  match (cs.reverse.dropWhile (· = '/')).reverse with
  | [] => if cs.isEmpty then [] else ['/']
  | body => body

def lastName (cs : Octets) : Octets :=
  match withoutSlashes cs with
  | ['/'] => ['/']
  | body => (body.reverse.takeWhile (· ≠ '/')).reverse

def within (dir name : Octets) : Octets := if dir.getLast? = some '/' then dir ++ name else dir ++ ['/'] ++ name

def withParents : Nat → Octets → List Octets
  | 0, path => [path]
  | fuel + 1, path =>
    let above := withoutSlashes ((withoutSlashes path).reverse.dropWhile (· ≠ '/')).reverse
    if above.isEmpty ∨ above = ['/'] then [path] else path :: withParents fuel above

def mkdir : Act Unit := withOptions 1 "pvZ" "m" [("parents", 'p'), ("verbose", 'v'), ("mode", 'm')] fun c => do
  if c.operands.isEmpty then return ← misuse 1 "missing operand".toList
  let mask := (← read).mask
  let plain := granted mask 0o777
  let wanted := match c.value? 'm' with
    | some text => changedMode? mask true text 0o777
    | none => some plain
  match wanted with
  | none => reject 1 ("invalid mode ".toList ++ (← cited ((c.value? 'm').getD [])))
  | some mode =>
    for file in c.operands do
      let here ← place
      let steps := if c.has 'p' then (withParents file.length file).reverse else [file]
      let mut going := true
      for step in steps do
        let tree := (← getWorld).tree
        let isLast := step = file
        if going then
          match tree.makeDir here (pathOf step) (if isLast then mode else Nat.lor plain 0o300) with
          | .ok t =>
            changeTree fun _ => t
            if c.has 'v' then print ((← read).name ++ ": created directory ".toList ++ quoted step ++ ['\n'])
          | .error e =>
            if !(c.has 'p' && e = .eexist && (isLast → tree.leadsToDir here (pathOf step))) then
              let told := if c.has 'p' && e = .enotdir then (steps.find? fun x => !tree.leadsToDir here (pathOf x)).getD step
                else step
              reject 1 (withWords e ("cannot create directory ".toList ++ quoted told))
              going := false

def rmdir : Act Unit := do
  let long := [("parents", 'p'), ("verbose", 'v'), ("ignore-fail-on-non-empty", 'i')]
  withOptions 1 "pv" "" long fun c => do
    if c.operands.isEmpty then return ← misuse 1 "missing operand".toList
    for file in c.operands do
      let mut going := true
      for step in if c.has 'p' then withParents file.length file else [file] do
        if going then
          let tree := (← getWorld).tree
          let here ← place
          let outcome : Except IoError Place := do
            let found ← tree.findLink here (pathOf step)
            if !tree.isDir found then throw .enotdir
            if tree.children found ≠ [] then throw .enotempty
            return found
          if c.has 'v' then print ("rmdir: removing directory, ".toList ++ quoted step ++ ['\n'])
          match outcome with
          | .ok found => changeTree (·.remove found)
          | .error e =>
            going := false
            if !(c.has 'i' && e = .enotempty) then
              reject 1 (withWords e ("failed to remove ".toList ++
                (if step = file then [] else "directory ".toList) ++ quoted step))

def contentsFirst (tree : Tree) : Nat → Octets → Place → List (Octets × Bool)
  | 0, path, _ => [(path, false)]
  | fuel + 1, path, at_ =>
    match tree.isDir at_ with
    | false => [(path, false)]
    | true => (tree.children at_).flatMap (fun name => contentsFirst tree fuel (within path (octets name)) (at_ ++ [name]))
        ++ [(path, true)]

def rm : Act Unit := do
  let long := [("recursive", 'r'), ("force", 'f'), ("verbose", 'v'), ("dir", 'd'), ("interactive", 'N'),
    ("one-file-system", 'X'), ("preserve-root", 'P'), ("no-preserve-root", 'Q')]
  withOptions 1 "rRfvidINP" "NP" long fun c => do
    if c.operands.isEmpty ∧ !c.has 'f' then return ← misuse 1 "missing operand".toList
    let deep := c.has 'r' || c.has 'R'
    let quiet := c.has 'f'
    let asks := ((c.options.filter fun o => o.1 = 'i' || o.1 = 'f').getLast?).any (·.1 = 'i')
    for file in c.operands do
      let tree := (← getWorld).tree
      let cannot (e : IoError) : Act Unit := reject 1 (withWords e ("cannot remove ".toList ++ quoted file))
      match tree.findLink (← place) (pathOf file) with
      | .error e => if !(quiet && (e = .enoent || e = .enotdir)) then cannot e
      | .ok found =>
        let dir := tree.isDir found
        let last := lastName file
        if dir && !deep && !c.has 'd' then cannot .eisdir
        else if dir && deep && (last = ['.'] || last = ['.', '.']) then
          reject 1 ("refusing to remove '.' or '..' directory: skipping ".toList ++ quoted (withoutSlashes file))
        else if dir && deep && found.isEmpty then
          grumble "it is dangerous to operate recursively on '/'".toList
          reject 1 "use --no-preserve-root to override this failsafe".toList
        else if dir && !deep && !(tree.children found).isEmpty then cannot .enotempty
        else if asks then
          let kind := match tree.entry? found with
            | some (.dir _) => "directory".toList
            | some (.link _) => "symbolic link".toList
            | some (.file [] _) => "regular empty file".toList
            | _ => "regular file".toList
          put 2 ("rm: remove ".toList ++ kind ++ [' '] ++ quoted file ++ "? ".toList)
          let w ← getWorld
          let (answer, w) := match (← read).streams.lookup 0 with
            | some n => w.readLine n
            | none => ([], w)
          setWorld w
          if answer.head? = some 'y' ∨ answer.head? = some 'Y' then changeTree (·.remove found)
        else
          changeTree (·.remove found)
          if c.has 'v' then
            for (path, isDir) in contentsFirst tree Tree.maxPath (withoutSlashes file) found do
              print ("removed ".toList ++ (if isDir then "directory ".toList else []) ++ quoted path ++ ['\n'])

def unlink : Act Unit := withOptions 1 "" "" [] fun c => do
  match c.operands with
  | [] => misuse 1 "missing operand".toList
  | [file] =>
    match ← locatedLink file with
    | .error e => reject 1 (withWords e ("cannot unlink ".toList ++ quoted file))
    | .ok found =>
      if (← getWorld).tree.isDir found then reject 1 (withWords .eisdir ("cannot unlink ".toList ++ quoted file))
      else changeTree (·.remove found)
  | _ :: extra :: _ => misuse 1 ("extra operand ".toList ++ (← cited extra))

structure Directions where
  sources : List Octets
  target : Octets
  isDir : Bool

def directions (c : Chosen) : Act (Option Directions) := do
  let cannot (e : IoError) (text : String) (target : Octets) : Act (Option Directions) := do
    reject 1 (withWords e (text.toList ++ quoted target))
    return none
  match c.value? 't' with
  | some dir =>
    if c.operands.isEmpty then
      misuse 1 "missing file operand".toList
      return none
    match ← located dir with
    | .error e => cannot e "target directory " dir
    | .ok found =>
      if !(← getWorld).tree.isDir found then cannot .enotdir "target directory " dir
      else return some ⟨c.operands, dir, true⟩
  | none =>
    match c.operands with
    | [] =>
      misuse 1 "missing file operand".toList
      return none
    | [file] =>
      misuse 1 ("missing destination file operand after ".toList ++ quoted file)
      return none
    | files =>
      let target := files.getLastD []
      let isDir ← isDirectory target
      if c.has 'T' then
        if 2 < files.length then
          misuse 1 ("extra operand ".toList ++ quoted ((files[2]?).getD []))
          return none
        return some ⟨files.dropLast, target, false⟩
      if 2 < files.length ∧ !isDir then
        match ← located target with
        | .error e => return ← cannot e "target " target
        | .ok _ => return ← cannot .enotdir "target " target
      return some ⟨files.dropLast, target, isDir⟩

def Directions.pathFor (d : Directions) (source : Octets) : Octets :=
  if d.isDir then within d.target (lastName source) else d.target

/-- Refuses to put a directory in the place of something else, or the other way round. -/
def clash? (tree : Tree) (old new : Place) (source target : Octets) : Option Octets :=
  match tree.entry? new with
  | none => none
  | some e =>
    if tree.isDir old ∧ !e.isDir then
      some ("cannot overwrite non-directory ".toList ++ quoted target ++ " with directory ".toList ++ quoted source)
    else if e.isDir ∧ !tree.isDir old then
      some ("cannot overwrite directory ".toList ++ quoted target ++ " with non-directory".toList)
    else none

def areSame (source target : Octets) : Octets :=
  quoted source ++ " and ".toList ++ quoted target ++ " are the same file".toList

def justCreated (source target : Octets) : Octets :=
  "will not overwrite just-created ".toList ++ quoted target ++ " with ".toList ++ quoted source

def moveLong : List (String × Char) := [("force", 'f'), ("verbose", 'v'), ("interactive", 'i'), ("no-clobber", 'n'),
  ("target-directory", 't'), ("no-target-directory", 'T'), ("update", 'u'), ("backup", 'b'), ("suffix", 'S'),
  ("strip-trailing-slashes", 's'), ("debug", 'D'), ("context", 'Z'), ("no-copy", 'N')]

def mv : Act Unit := withOptions 1 "bfinuvTZ" "tSub" moveLong fun c => do
  let some d ← directions c | return ()
  let mut created := []
  let keeps := ((c.options.filter fun o => o.1 = 'n' || o.1 = 'f' || o.1 = 'i').getLast?).any (·.1 = 'n')
  for source in d.sources do
    let tree := (← getWorld).tree
    let here ← place
    let target := d.pathFor source
    match tree.findLink here (pathOf source) with
    | .error e => reject 1 (withWords e ("cannot stat ".toList ++ quoted source))
    | .ok old =>
      let cannot (e : IoError) : Act Unit :=
        reject 1 (withWords e ("cannot move ".toList ++ quoted source ++ " to ".toList ++ quoted target))
      let slash := target.getLast? = some '/'
      let strange := match tree.findLink here (pathOf target) with
        | .error e => if e = .enoent then none else some e
        | .ok _ => none
      match tree.slotPlace here (pathOf target) with
      | .error e =>
        if strange = some e then reject 1 (withWords e ("cannot stat ".toList ++ quoted target)) else cannot e
      | .ok new =>
        let linked := (tree.findLink here (pathOf target)).toOption.getD new
        if let some e := strange then reject 1 (withWords e ("cannot stat ".toList ++ quoted target))
        else if old = linked then reject 1 (areSame source target)
        else if (tree.entry? new).isSome ∧ keeps then reject 1 ("not replacing ".toList ++ quoted target)
        else if slash ∧ !tree.isDir old ∧ !tree.isDir new then cannot .enotdir
        else if created.contains new then reject 1 (justCreated source target)
        else match clash? tree old new source target with
          | some text => reject 1 text
          | none =>
            if old.isPrefixOf new then
              reject 1 ("cannot move ".toList ++ quoted source ++ " to a subdirectory of itself, ".toList ++ quoted target)
            else if tree.isDir new ∧ !(tree.children new).isEmpty then
              reject 1 (withWords .enotempty ("cannot overwrite ".toList ++ quoted target))
            else
              changeTree (·.move old new)
              created := new :: created
              if c.has 'v' then print ("renamed ".toList ++ quoted source ++ " -> ".toList ++ quoted target ++ ['\n'])

structure Copying where
  deep : Bool
  keepsLinks : Bool
  keepsModes : Bool
  keepsOld : Bool
  tells : Bool

def copyEntry (c : Copying) (top : Place) : Nat → Octets → Place → Octets → Act Unit
  | 0, _, _, _ => pure ()
  | fuel + 1, source, old, target => do
    let tree := (← getWorld).tree
    let here ← place
    let mask := (← read).mask
    let entry := tree.entry? old
    let tell : Act Unit := if c.tells then print (quoted source ++ " -> ".toList ++ quoted target ++ ['\n']) else pure ()
    let cannot (kind : String) (e : IoError) : Act Unit :=
      reject 1 (withWords e (("cannot create " ++ kind ++ " ").toList ++ quoted target))
    match entry with
    | some (.dir mode) =>
      let made : Except IoError Tree :=
        if tree.leadsToDir here (pathOf target) then .ok tree
        else tree.makeDir here (pathOf target) (if c.keepsModes then mode else granted mask mode)
      match made with
      | .error e => cannot "directory" e
      | .ok t =>
        let isNew := !tree.leadsToDir here (pathOf target)
        changeTree fun _ => t
        if isNew then tell
        for name in tree.children old do
          if old ++ [name] ≠ top then
            let inner := within source (octets name)
            copyEntry c top fuel inner (old ++ [name]) (within target (octets name))
    | some (.link goal) =>
      match tree.slotPlace here (pathOf target) with
      | .error e => cannot "symbolic link" e
      | .ok new =>
        changeTree fun t => t.put new (.link goal)
        tell
    | entry =>
      match tree.findLink here (pathOf target), tree.find here (pathOf target) with
      | .ok _, .error .enoent => reject 1 ("not writing through dangling symlink ".toList ++ quoted target)
      | _, found =>
        let text? ← match entry with
          | some (.device (.stream 0)) => do pure (.ok (← input))
          | some (.file contents _) => pure (.ok (octets contents))
          | _ => fetch source
        let mode := match entry with
          | some (.file _ m) => granted mask m
          | some (.program _) => 0o755
          | _ => granted mask 0o666
        match text? with
        | .error e => reject 1 (withWords e ("cannot open ".toList ++ quoted source ++ " for reading".toList))
        | .ok text =>
          if target.getLast? = some '/' ∧ !found.isOk then cannot "regular file" .enotdir
          else match ← store target false text with
            | .error e => cannot "regular file" e
            | .ok () =>
              if let .ok new := (← getWorld).tree.find here (pathOf target) then
                if let some (.file contents _) := (← getWorld).tree.entry? new then
                  if !found.isOk ∨ c.keepsModes then changeTree fun t => t.put new (.file contents mode)
              tell

def cp : Act Unit := do
  let long := [("recursive", 'r'), ("archive", 'a'), ("dereference", 'L'), ("no-dereference", 'P'), ("parents", 'Y'),
    ("preserve", 'p'), ("no-preserve", 'O'), ("link", 'l'), ("symbolic-link", 's'), ("remove-destination", 'F'),
    ("one-file-system", 'x'), ("attributes-only", 'A'), ("sparse", 'E'), ("reflink", 'G')] ++
    moveLong.filter fun l => l.2 ≠ 's' && l.2 ≠ 'N'
  withOptions 1 "abdfHilLnprsuvxPRTZDYFAG" "tSupbOEG" long fun c => do
    let some d ← directions c | return ()
    let deep := c.has 'r' || c.has 'R' || c.has 'a'
    let linkLetters := c.options.filter fun o => "PLdaH".toList.contains o.1
    let keepsLinks := match linkLetters.getLast? with
      | some (letter, _) => letter = 'P' || letter = 'd' || letter = 'a'
      | none => deep
    let style : Copying := ⟨deep, keepsLinks, c.has 'p' || c.has 'a', c.has 'n', c.has 'v'⟩
    if c.has 'n' then
      grumble "warning: behavior of -n is non-portable and may change in future; use --update=none instead".toList
    let mut created := []
    let mut seen := []
    for source in d.sources do
      let tree := (← getWorld).tree
      let here ← place
      let target := if c.has 'Y' then within d.target source
        else if (lastName source = ['.', '.'] ∨ lastName source = ['.']) ∧ d.isDir then d.target
        else d.pathFor source
      match if keepsLinks then tree.findLink here (pathOf source) else tree.find here (pathOf source) with
      | .error e => reject 1 (withWords e ("cannot stat ".toList ++ quoted source))
      | .ok old =>
        let new := (tree.find here (pathOf target)).toOption
        let slot := (tree.slotPlace here (pathOf target)).toOption
        let realOld := (tree.find here (pathOf source)).toOption
        let strange := match tree.find here (pathOf target) with
          | .error e => if e = .enoent then none else some e
          | .ok _ => none
        if tree.isDir old ∧ !deep then reject 1 ("-r not specified; omitting directory ".toList ++ quoted source)
        else if seen.contains old then
          put 2 ("cp: warning: source file ".toList ++ quoted source ++ " specified more than once\n".toList)
        else
          seen := old :: seen
          if new = some old ∨ (new.isSome ∧ new = realOld ∧ !tree.isDir old) then reject 1 (areSame source target)
          else if let some e := strange then reject 1 (withWords e ("cannot stat ".toList ++ quoted target))
          else if new.isSome ∧ c.has 'n' then pure ()
          else if new.isSome ∧ c.has 'i' ∧ !c.has 'f' then put 2 ("cp: overwrite ".toList ++ quoted target ++ "? ".toList)
          else if slot.any created.contains then reject 1 (justCreated source target)
          else match new.bind fun new => clash? tree old new source target with
            | some text => reject 1 text
            | none =>
              created := slot.toList ++ created
              if c.has 's' then
                match slot with
                | some at_ => changeTree fun t => t.put at_ (.link (pathOf source))
                | none => reject 1 (withWords .enoent ("cannot create symbolic link ".toList ++ quoted target ++ " to ".toList ++
                    quoted source))
              else
                if c.has 'F' ∨ c.has 'f' then
                  if let some at_ := slot then
                    if c.has 'F' ∧ !tree.isDir at_ then changeTree (·.remove at_)
                let top := slot.getD []
                copyEntry style top Tree.maxPath source old target
                if tree.isDir old ∧ old.isPrefixOf top ∧ slot.isSome then
                  reject 1 ("cannot copy a directory, ".toList ++ quoted source ++ ", into itself, ".toList ++ quoted target)

def wayTo (origin target : Place) : Octets :=
  let common := (origin.zip target).takeWhile fun x => x.1 = x.2
  let up := List.replicate (origin.length - common.length) ['.', '.']
  let steps := up ++ (target.drop common.length).map octets
  if steps.isEmpty then ['.'] else ['/'].intercalate steps

def ln : Act Unit := do
  let long := [("symbolic", 's'), ("force", 'f'), ("verbose", 'v'), ("no-dereference", 'n'), ("relative", 'r'),
    ("no-target-directory", 'T'), ("target-directory", 't'), ("interactive", 'i'), ("logical", 'L'), ("physical", 'P'),
    ("directory", 'd'), ("backup", 'b'), ("suffix", 'S')]
  withOptions 1 "bdfFinrsvLPT" "tSb" long fun c => do
    let isSoft := c.has 's'
    let kind := if isSoft then "symbolic link ".toList else "hard link ".toList
    let targetIsLink (target : Octets) : Act Bool := do
      match ← locatedLink target with
      | .ok found => return match (← getWorld).tree.entry? found with
        | some (.link _) => true
        | _ => false
      | .error _ => return false
    let d? ← match c.operands, c.value? 't' with
      | [file], none => pure (some (⟨[file], ['.'], true⟩ : Directions))
      | [_, target], none =>
        if c.has 'n' ∧ (← targetIsLink target) then pure (some (⟨c.operands.take 1, target, false⟩ : Directions))
        else directions c
      | _, _ => directions c
    let some d := d? | return ()
    for source in d.sources do
      let tree := (← getWorld).tree
      let here ← place
      let target := d.pathFor source
      let failed (e : IoError) : Act Unit := reject 1 (withWords e ("failed to create ".toList ++ kind ++ quoted target ++
        if isSoft ∨ e = .eexist then [] else " => ".toList ++ quoted source))
      match tree.findLink here (pathOf source), isSoft with
      | .error e, false => reject 1 (withWords e ("failed to access ".toList ++ quoted source))
      | found, _ =>
        let old := found.toOption
        if !isSoft ∧ old.any tree.isDir then reject 1 (source ++ ": hard link not allowed for directory".toList)
        else match tree.slotPlace here (pathOf target) with
          | .error e => failed e
          | .ok new =>
            let there := tree.entry? new
            if there.isSome ∧ !c.has 'f' then failed .eexist
            else if there.any Entry.isDir then reject 1 (quoted target ++ ": cannot overwrite directory".toList)
            else if there.isSome ∧ old = some new then reject 1 (areSame source target)
            else
              let made : Entry :=
                if !isSoft then (old.bind tree.entry?).getD (.file [] Entry.fileMode)
                else if c.has 'r' then
                  .link (pathOf (wayTo new.dropLast ((tree.slotPlace here (pathOf source)).toOption.getD [])))
                else .link (pathOf source)
              changeTree fun t => t.put new made
              if c.has 'v' then
                print (quoted target ++ (if isSoft then " -> ".toList else " => ".toList) ++ quoted source ++ ['\n'])

def link : Act Unit := withOptions 1 "" "" [] fun c => do
  match c.operands with
  | [] => misuse 1 "missing operand".toList
  | [file] => misuse 1 ("missing operand after ".toList ++ (← cited file))
  | [file, target] =>
    let tree := (← getWorld).tree
    let cannot (e : IoError) : Act Unit :=
      reject 1 (withWords e ("cannot create link ".toList ++ quoted target ++ " to ".toList ++ quoted file))
    match tree.findLink (← place) (pathOf file), tree.slotPlace (← place) (pathOf target) with
    | .error e, _ => cannot e
    | _, .error e => cannot e
    | .ok old, .ok new =>
      if (tree.entry? new).isSome then cannot .eexist
      else changeTree fun t => t.put new ((t.entry? old).getD (.file [] Entry.fileMode))
  | _ :: _ :: extra :: _ => misuse 1 ("extra operand ".toList ++ (← cited extra))

def touch : Act Unit := do
  let long := [("no-create", 'c'), ("date", 'd'), ("reference", 'r'), ("time", 'x'), ("no-dereference", 'h')]
  withOptions 1 "acfmh" "drtx" long fun c => do
    if c.operands.isEmpty then return ← misuse 1 "missing file operand".toList
    for file in c.operands do
      let w ← getWorld
      match w.tree.find (← place) (pathOf file) with
      | .ok _ => pure ()
      | .error found =>
        let slash := 1 < file.length ∧ file.getLast? = some '/'
        let setting : Octets := "setting times of ".toList
        if slash ∨ (c.has 'c' ∧ found ≠ .enoent) then reject 1 (withWords found (setting ++ quoted file))
        else if !c.has 'c' then
          match w.tree.writeFile (← place) (pathOf file) [] (← newMode 0o666) with
          | .ok t => setWorld { w with tree := t }
          | .error e => reject 1 (withWords e ("cannot touch ".toList ++ quoted file))

def isModeWord (word : Octets) : Bool :=
  match word with
  | '-' :: c :: _ => "rwxXstugoa,+=0123456789".toList.contains c
  | _ => false

def setMode (e : Entry) (mode : Nat) : Entry :=
  match e with
  | .dir _ => .dir mode
  | .file contents _ => .file contents mode
  | e => e

def modeOf : Entry → Nat
  | .dir mode => mode
  | .file _ mode => mode
  | .link _ => 0o777
  | .program _ => 0o755
  | .device _ => 0o666

def chmod : Act Unit := do
  let args := (← read).args
  let dashed := args.find? isModeWord
  let args := args.filter fun w => !isModeWord w
  let long := [("recursive", 'R'), ("changes", 'c'), ("verbose", 'v'), ("silent", 'f'), ("quiet", 'f'), ("reference", 'z'),
    ("preserve-root", 'P'), ("no-preserve-root", 'Q')]
  withReader (fun call => { call with args := args }) <| withOptions 1 "RcfvPQ" "z" long fun c => do
    let mask := (← read).mask
    let given := if dashed.isSome ∨ (c.value? 'z').isSome then c.operands else c.operands.tail
    let word := dashed.getD (c.operands.headD [])
    if given.isEmpty then
      let last ← cited (c.operands.getLastD [])
      return ← misuse 1 ("missing operand".toList ++ if c.operands.isEmpty then [] else " after ".toList ++ last)
    let tree := (← getWorld).tree
    let model ← match c.value? 'z' with
      | some file => pure ((tree.find (← place) (pathOf file)).toOption.bind tree.entry?)
      | none => pure none
    if let (some file, none) := (c.value? 'z', model) then
      return ← reject 1 (withWords .enoent ("failed to get attributes of ".toList ++ quoted file))
    if model.isNone ∧ (changedMode? mask false word 0).isNone then
      return ← misuse 1 ("invalid mode: ".toList ++ (← cited word))
    for file in given do
      let tree := (← getWorld).tree
      match tree.find (← place) (pathOf file) with
      | .error e =>
        let dangling := (tree.findLink (← place) (pathOf file)).isOk
        if !c.has 'f' then
          reject 1 (if dangling then "cannot operate on dangling symlink ".toList ++ quoted file
            else withWords e ("cannot access ".toList ++ quoted file))
        else fail 1
        if c.has 'v' then print (quoted file ++ " could not be accessed\n".toList)
      | .ok found =>
        let places := if c.has 'R' then (contentsFirst tree Tree.maxPath file found).map Prod.fst else [file]
        let ordered := if c.has 'R' then places.getLast?.toList ++ places.dropLast else places
        for path in ordered do
          let tree := (← getWorld).tree
          if let .ok p := tree.findLink (← place) (pathOf path) then
            let p := if path = file then found else p
            if let some e := tree.entry? p then
              let isLink := match e with
                | .link _ => true
                | _ => false
              if !isLink then
                let old := modeOf e
                let wanted (mask : Nat) : Nat := match model with
                  | some m => modeOf m
                  | none => (changedMode? mask e.isDir word old).getD old
                let new := wanted mask
                changeTree fun t => t.put p (setMode e new)
                let described (m : Nat) : Octets := octalText 4 m ++ " (".toList ++ modeText m ++ [')']
                if c.has 'v' ∨ (c.has 'c' ∧ new ≠ old) then
                  print ("mode of ".toList ++ quoted path ++ (if new = old then " retained as ".toList ++ described old
                    else " changed from ".toList ++ described old ++ " to ".toList ++ described new) ++ ['\n'])
                if dashed.isSome ∧ wanted 0 ≠ new ∧ Nat.land new (withoutBits 0o7777 (wanted 0)) ≠ 0 then
                  reject 1 (path ++ ": new permissions are ".toList ++ modeText new ++ ", not ".toList ++
                    modeText (wanted 0))

def mktemp : Act Unit := do
  let long := [("directory", 'd'), ("dry-run", 'u'), ("quiet", 'q'), ("tmpdir", 'p'), ("suffix", 'S')]
  withOptions 1 "duqt" "pS" long fun c => do
    let template := c.operands.headD "tmp.XXXXXXXXXX".toList
    let stem := (template.reverse.dropWhile (· ≠ 'X')).reverse
    let suffix := template.drop stem.length ++ (c.value? 'S').getD []
    let marks := stem.length - ((stem.reverse.dropWhile (· = 'X'))).length
    if marks < 3 then return ← reject 1 ("too few X's in template ".toList ++ (← cited template))
    let w ← getWorld
    let letters := "abcdefghijklmnopqrstuvwxyzABCDEFGHIJKLMNOPQRSTUVWXYZ0123456789".toList
    let serial := (List.range marks).map fun i => (letters[(w.next * 7919 + 104729 * i + w.next / (i + 1)) % 62]?).getD 'x'
    let name := stem.take (stem.length - marks) ++ serial ++ suffix
    let usual := (((← read).environment.lookup "TMPDIR").filter (· ≠ [])).getD "/tmp".toList
    let dir := if (c.value? 'p').isSome then c.value? 'p'
      else if c.operands.isEmpty ∨ c.has 't' then some usual else none
    let path := match dir with
      | some d => within (if d.isEmpty then usual else d) name
      | none => name
    setWorld { w with next := w.next + 1 }
    let kind := if c.has 'd' then "directory".toList else "file".toList
    let here ← place
    let made : Except IoError Tree :=
      if c.has 'u' then .ok w.tree
      else if c.has 'd' then w.tree.makeDir here (pathOf path) 0o700
      else w.tree.writeFile here (pathOf path) [] 0o600
    match made with
    | .ok t =>
      changeTree fun _ => t
      print (path ++ ['\n'])
    | .error e =>
      let shownPath := path.take (path.length - suffix.length - marks) ++ List.replicate marks 'X' ++ suffix
      reject 1 (withWords e ("failed to create ".toList ++ kind ++ " via template ".toList ++ (← cited shownPath)))

def resized (old : Nat) (word : Octets) : Option Nat :=
  match word with
  | '+' :: rest => (amount? rest).map (old + ·)
  | '-' :: rest => (amount? rest).map (old - ·)
  | '<' :: rest => (amount? rest).map (min old)
  | '>' :: rest => (amount? rest).map (max old)
  | rest => amount? rest

def truncate : Act Unit := do
  withOptions 1 "co" "sr" [("size", 's'), ("reference", 'r'), ("no-create", 'c'), ("io-blocks", 'o')] fun c => do
    match c.value? 's' with
    | none => misuse 1 "you must specify either '--size' or '--reference'".toList
    | some word =>
      if (resized 0 word).isNone then return ← reject 1 ("Invalid number: ".toList ++ (← cited word))
      if c.operands.isEmpty then return ← misuse 1 "missing file operand".toList
      for file in c.operands do
        let old := match ← entry file with
          | .ok (.file contents _) => contents
          | _ => []
        let exists_ := (← entry file).isOk
        let size := (resized old.length word).getD 0
        if exists_ ∨ !c.has 'c' then
          let text := octets (old.take size) ++ List.replicate (size - old.length) (Char.ofNat 0)
          if let .error e ← store file false text then
            reject 1 (withWords e ("cannot open ".toList ++ quoted file ++ " for writing".toList))

def install : Act Unit := do
  let long := [("directory", 'd'), ("mode", 'm'), ("target-directory", 't'), ("verbose", 'v'), ("owner", 'o'),
    ("group", 'g'), ("no-target-directory", 'T'), ("compare", 'C'), ("preserve-timestamps", 'p'), ("strip", 's')]
  withOptions 1 "bcCdDpsTvZ" "gmotS" long fun c => do
    let mode := (changedMode? 0 false ((c.value? 'm').getD "755".toList) 0).getD 0o755
    let here ← place
    if c.has 'd' then
      if c.operands.isEmpty then return ← misuse 1 "missing file operand".toList
      for dir in c.operands do
        let tree := (← getWorld).tree
        let (made, t) := tree.createDir here (pathOf dir) 0o755
        changeTree fun _ => t
        match made with
        | .ok () =>
          if let .ok p := t.find here (pathOf dir) then changeTree fun t => t.put p (.dir mode)
        | .error e => reject 1 (withWords e ("cannot create directory ".toList ++ quoted dir))
    else
      if c.has 'D' then
        if let [_, target] := c.operands then
          if let some above := (pathOf target).parent then
            let (_, t) := (← getWorld).tree.createDir here above 0o755
            changeTree fun _ => t
      let some d ← directions c | return ()
      for source in d.sources do
        let tree := (← getWorld).tree
        let target := d.pathFor source
        match tree.find here (pathOf source) with
        | .error e => reject 1 (withWords e ("cannot stat ".toList ++ quoted source))
        | .ok old =>
          if tree.isDir old then reject 1 ("omitting directory ".toList ++ quoted source)
          else if (tree.find here (pathOf target)).toOption = some old then reject 1 (areSame source target)
          else
            copyEntry ⟨false, false, false, false, c.has 'v'⟩ [] 1 source old target
            if let .ok p := (← getWorld).tree.find here (pathOf target) then
              changeTree fun t => match t.entry? p with
                | some (.file contents _) => t.put p (.file contents mode)
                | _ => t

end Utility
end PassDelta.Machine
