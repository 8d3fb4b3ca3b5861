import PassDelta.Machine.Utility.Name
/-!
# Programs that list files

What is in directories, and what is known of single files: their kind, size, permissions and owner.
-/

namespace PassDelta.Machine.Utility

open Act

def blocksOf : Entry → Nat
  | .file contents _ => (contents.length + 4095) / 4096 * 4
  | .dir _ => 4
  | .program _ => 40
  | _ => 0

def sizeOf : Entry → Nat
  | .file contents _ => contents.length
  | .dir _ => 4096
  | .link target => target.bytes.length
  | .program _ => 40000
  | .device _ => 0

def kindLetter : Entry → Char
  | .dir _ => 'd'
  | .link _ => 'l'
  | .device _ => 'c'
  | _ => '-'

/-- How many names an entry has: a directory has one in each directory below it. -/
def linkCount (tree : Tree) (at_ : Place) (e : Entry) : Nat :=
  if e.isDir then 2 + (tree.children at_).countP fun name => match tree.entry? (at_ ++ [name]) with
    | some e => e.isDir
    | none => false
  else 1

/-- A number of octets in the largest unit in which it is at least one, rounded up. -/
def humanSize (base n : Nat) : Octets :=
  let rec go : Nat → Nat → List Char → Octets
    | 0, _, _ => digitsOf n
    | _ + 1, _, [] => digitsOf n
    | fuel + 1, unit, letter :: more =>
      if n < unit * base ∨ more.isEmpty then
        let tenths := (n * 10 + unit - 1) / unit
        if tenths < 100 then digitsOf (tenths / 10) ++ ['.'] ++ digitsOf (tenths % 10) ++ [letter]
        else digitsOf ((n + unit - 1) / unit) ++ [letter]
      else go fuel (unit * base) more
  if n < base then digitsOf n else go 8 base "KMGTPE".toList

structure Listed where
  name : Octets
  place : Place
  entry : Entry

def kindMark (c : Chosen) (e : Entry) : Octets :=
  if c.has 'F' ∨ c.has 'p' ∨ c.has 'e' then
    match e with
    | .dir _ => ['/']
    | .link _ => if c.has 'p' ∧ !c.has 'F' ∧ !c.has 'e' then [] else ['@']
    | e => if c.has 'F' && e.isProgram then ['*'] else []
  else []

def extensionOf (name : Octets) : Octets :=
  if name.contains '.' then '.' :: (name.reverse.takeWhile (· ≠ '.')).reverse else []

def inListOrder (c : Chosen) (files : List Listed) : List Listed :=
  let byName := files.mergeSort fun a b => octetsLe a.name b.name
  let sorted :=
    if c.has 'U' ∨ c.has 'f' then files
    else if c.has 'S' then byName.mergeSort fun a b => sizeOf b.entry ≤ sizeOf a.entry
    else if c.has 'X' then byName.mergeSort fun a b => octetsLe (extensionOf a.name) (extensionOf b.name)
    else byName
  let turned := if c.has 'r' ∧ !c.has 'U' then sorted.reverse else sorted
  if c.has 'J' then turned.filter (·.entry.isDir) ++ turned.filter fun l => !l.entry.isDir
  else turned

def Listed.shown (c : Chosen) (l : Listed) : Octets :=
  let body :=
    if c.has 'Q' then ['"'] ++ l.name.flatMap (fun x => if x = '"' ∨ x = '\\' then ['\\', x] else [x]) ++ ['"']
    else if c.has 'b' then l.name.flatMap fun x => if x = ' ' ∨ x = '\\' then ['\\', x]
      else if x.toNat < 32 then escapedControl x else [x]
    else l.name
  body ++ kindMark c l.entry

/-- The columns of a list, each as wide as its widest entry; the letters say which side is filled. -/
def columns (rows : List (List Octets)) (left : Nat → Bool) : List Octets :=
  let width (i : Nat) : Nat := rows.foldl (fun n row => max n ((row[i]?).getD []).length) 0
  rows.map fun row => [' '].intercalate (row.zipIdx.map fun (cell, i) =>
    if left i then cell ++ List.replicate (width i - cell.length) ' ' else leftFill (width i) ' ' cell)

def sizeText (c : Chosen) (n : Nat) : Octets := if c.has 'h' then humanSize 1024 n else digitsOf n

def rowsOf (c : Chosen) (tree : Tree) (files : List Listed) : List Octets :=
  let long := c.has 'l' || c.has 'g' || c.has 'o' || c.has 'n'
  let person := if c.has 'n' then ['0'] else "root".toList
  let blocks (l : Listed) : Octets := if c.has 'h' then humanSize 1024 (blocksOf l.entry * 1024) else digitsOf (blocksOf l.entry)
  let lead (l : Listed) : List Octets := (if c.has 'i' then [digitsOf (1000 + l.place.length)] else []) ++
    (if c.has 's' then [blocks l] else [])
  let details (l : Listed) : List Octets :=
    if !long then []
    else [kindLetter l.entry :: modeText (modeOf l.entry), digitsOf (linkCount tree l.place l.entry)] ++
      (if c.has 'g' then [] else [person]) ++ (if c.has 'o' ∨ c.has 'G' then [] else [person]) ++
      [sizeText c (sizeOf l.entry), "Jan  1 00:00".toList]
  let skipped := (if c.has 'i' then 1 else 0) + (if c.has 's' then 1 else 0)
  let owners := (if c.has 'g' then 0 else 1) + (if c.has 'o' ∨ c.has 'G' then 0 else 1)
  let left (i : Nat) : Bool := i = skipped || (skipped + 2 ≤ i && i < skipped + 2 + owners)
  let heads := columns (files.map fun l => lead l ++ details l) left
  (heads.zip files).map fun (head, l) =>
    let arrow := match l.entry, long with
      | .link target, true =>
        let mark := match (tree.find l.place.dropLast target).toOption.bind tree.entry? with
          | some e => kindMark c e
          | none => []
        l.name ++ " -> ".toList ++ octets target.bytes ++ mark
      | _, _ => l.shown c
    if head.isEmpty then arrow else head ++ [' '] ++ arrow

def listText (c : Chosen) (rows : List Octets) : Octets :=
  if c.has 'm' then if rows.isEmpty then [] else ", ".toList.intercalate rows ++ ['\n'] else unlinesOctets rows

def listDir (c : Chosen) (tree : Tree) (dir : Place) : List Listed :=
  let entryAt (place : Place) : Entry := (tree.entry? place).getD (.dir Entry.dirMode)
  let names := tree.children dir
  let visibleNames := names.filter fun n =>
    (c.has 'a' || c.has 'A' || c.has 'f' || n.head? ≠ some Path.dot) && !(c.has 'B' && n.getLast? = some 126)
  let special := if c.has 'a' ∨ c.has 'f' then
      [⟨['.'], dir, entryAt dir⟩, ⟨['.', '.'], dir.dropLast, entryAt dir.dropLast⟩] else []
  inListOrder c (special ++ visibleNames.map fun n => ⟨octets n, dir ++ [n], entryAt (dir ++ [n])⟩)

/-- The list of a directory, with a line about its blocks where one is asked for. -/
def dirText (c : Chosen) (tree : Tree) (dir : Place) : Octets :=
  let files := listDir c tree dir
  let total := files.foldl (fun n l => n + blocksOf l.entry) 0
  let long := c.has 'l' || c.has 'g' || c.has 'o' || c.has 'n' || c.has 's'
  let sum := if c.has 'h' then humanSize 1024 (total * 1024) else digitsOf total
  (if long then "total ".toList ++ sum ++ ['\n'] else []) ++ listText c (rowsOf c tree files)

/-- A directory with all directories below it, each with the path that is shown. -/
def deepDirs (c : Chosen) (tree : Tree) : Nat → Octets → Place → List (Octets × Place)
  | 0, path, dir => [(path, dir)]
  | fuel + 1, path, dir =>
    let below := (listDir c tree dir).filter fun l => l.entry.isDir && l.name ≠ ['.'] && l.name ≠ ['.', '.']
    (path, dir) :: below.flatMap fun l => deepDirs c tree fuel (within path l.name) l.place

def ls : Act Unit := do
  let long := [("all", 'a'), ("almost-all", 'A'), ("reverse", 'r'), ("recursive", 'R'), ("classify", 'F'),
    ("file-type", 'e'), ("directory", 'd'), ("human-readable", 'h'), ("inode", 'i'), ("size", 's'), ("color", 'Y'),
    ("numeric-uid-gid", 'n'), ("no-group", 'G'), ("quote-name", 'Q'), ("escape", 'b'), ("dereference", 'L'),
    ("ignore-backups", 'B'), ("group-directories-first", 'J'), ("sort", 'O'), ("full-time", 'l'), ("format", 'K'),
    ("indicator-style", 'V'), ("literal", 'N'), ("time-style", 'T'), ("width", 'w'), ("zero", 'z'), ("ignore", 'I')]
  withOptions 2 "aA1rFpdCUtSlhRisgonGQbLBNxXfmkHcuYqvFD" "YOKVTwI" long fun chosen => do
    let byWord := match (chosen.value? 'O').map String.ofList with
      | some "size" => [('S', [])]
      | some "none" => [('U', [])]
      | some "extension" => [('X', [])]
      | _ => []
    let c := { chosen with options := chosen.options ++ byWord }
    let tree := (← getWorld).tree
    let mut files : List Listed := []
    let mut dirs : List Listed := []
    for file in if c.operands.isEmpty then [['.']] else c.operands do
      let keepsLink := (c.has 'l' || c.has 'F' || c.has 'd') && !c.has 'L' && !c.has 'H'
      let followed := tree.find (← place) (pathOf file)
      let itself := tree.findLink (← place) (pathOf file)
      let found := if keepsLink then itself
        else match followed, c.has 'L' || c.has 'H' with
          | .error _, false => itself
          | found, _ => found
      match found with
      | .error e => reject 2 (withWords e ("cannot access ".toList ++ quoted file))
      | .ok found =>
        let l : Listed := ⟨file, found, (tree.entry? found).getD (.dir Entry.dirMode)⟩
        if l.entry.isDir ∧ !c.has 'd' then dirs := dirs ++ [l] else files := files ++ [l]
    print (listText c (rowsOf c tree (inListOrder c files)))
    let headed := 1 < c.operands.length || c.has 'R'
    let wanted := (inListOrder c dirs).flatMap fun l =>
      if c.has 'R' then deepDirs c tree Tree.maxPath l.name l.place else [(l.name, l.place)]
    let blocks := wanted.map fun (name, dir) => (if headed then name ++ [':', '\n'] else []) ++ dirText c tree dir
    if files ≠ [] ∧ dirs ≠ [] then print ['\n']
    print (['\n'].intercalate blocks)

def kindName : Entry → String
  | .dir _ => "directory"
  | .link _ => "symbolic link"
  | .device _ => "character special file"
  | .file [] _ => "regular empty file"
  | _ => "regular file"

def fileDetail (tree : Tree) (l : Listed) : Char → Octets
  | 'n' => l.name
  | 'N' => quoted l.name ++ match l.entry with
    | .link target => " -> ".toList ++ quoted (octets target.bytes)
    | _ => []
  | 's' => digitsOf (sizeOf l.entry)
  | 'a' => octalText 1 (modeOf l.entry)
  | 'A' => kindLetter l.entry :: modeText (modeOf l.entry)
  | 'f' =>
    let kind := match l.entry with
      | .dir _ => 0o040000
      | .link _ => 0o120000
      | .device _ => 0o020000
      | _ => 0o100000
    Nat.toDigits 16 (kind + modeOf l.entry)
  | 'F' => (kindName l.entry).toList
  | 'h' => digitsOf (linkCount tree l.place l.entry)
  | 'u' => ['0']
  | 'g' => ['0']
  | 'U' => "root".toList
  | 'G' => "root".toList
  | 'b' => digitsOf (2 * blocksOf l.entry)
  | 'B' => "512".toList
  | 'o' => "4096".toList
  | 'i' => digitsOf (1000 + l.place.length)
  | 'm' => ['/']
  | 't' => ['0']
  | 'T' => ['0']
  | 'w' => ['-']
  | 'W' => ['0']
  | 'X' => ['0']
  | 'Y' => ['0']
  | 'Z' => ['0']
  | 'd' => ['1']
  | 'D' => ['1']
  | _ => ['?']

/-- A format with all that it asks for in its place; a number before a letter is the least width. -/
def filledFormat (tree : Tree) (l : Listed) : Nat → Octets → Octets
  | 0, _ => []
  | _ + 1, [] => []
  | fuel + 1, '%' :: rest =>
    let flags := rest.takeWhile fun c => c = '-' || c = '0' || c = '#' || c = '+' || c = ' '
    let ds := (rest.drop flags.length).takeWhile Char.isDigit
    match rest.drop (flags.length + ds.length) with
    | [] => ['%']
    | '%' :: more => '%' :: filledFormat tree l fuel more
    | letter :: more =>
      let text := fileDetail tree l letter
      let width := valueIn 10 ds
      (if flags.contains '-' then text ++ List.replicate (width - text.length) ' '
        else leftFill width (if flags.contains '0' then '0' else ' ') text) ++ filledFormat tree l fuel more
  | fuel + 1, c :: rest => c :: filledFormat tree l fuel rest

def unescapedFormat : Octets → Octets
  | '\\' :: 'n' :: rest => '\n' :: unescapedFormat rest
  | '\\' :: 't' :: rest => '\t' :: unescapedFormat rest
  | '\\' :: '\\' :: rest => '\\' :: unescapedFormat rest
  | '\\' :: '"' :: rest => '"' :: unescapedFormat rest
  | '\\' :: '0' :: rest => Char.ofNat 0 :: unescapedFormat rest
  | c :: rest => c :: unescapedFormat rest
  | [] => []

def stat : Act Unit := do
  let long := [("format", 'c'), ("printf", 'p'), ("dereference", 'L'), ("file-system", 'f'), ("terse", 't')]
  withOptions 1 "Lft" "cp" long fun c => do
    if c.operands.isEmpty then return ← misuse 1 "missing operand".toList
    for file in c.operands do
      let tree := (← getWorld).tree
      let here ← place
      match if c.has 'L' then tree.find here (pathOf file) else tree.findLink here (pathOf file) with
      | .error e => reject 1 (withWords e ("cannot statx ".toList ++ quoted file))
      | .ok found =>
        let l : Listed := ⟨file, found, (tree.entry? found).getD (.dir Entry.dirMode)⟩
        match c.value? 'p', c.value? 'c' with
        | some format, _ =>
          let text := unescapedFormat format
          print (filledFormat tree l (text.length + 1) text)
        | none, some format => print (filledFormat tree l (format.length + 1) format ++ ['\n'])
        | none, none =>
          let head := ("  File: ".toList ++ file ++ "\n  Size: %-10s\tBlocks: %-10b IO Block: %-6o %F\n".toList)
          print (filledFormat tree l (head.length + 1) head)

def du : Act Unit := do
  let long := [("all", 'a'), ("summarize", 's'), ("bytes", 'b'), ("human-readable", 'h'), ("total", 'c'), ("max-depth", 'd'),
    ("apparent-size", 'A'), ("block-size", 'B'), ("separate-dirs", 'S')]
  withOptions 1 "asbhckmASxlLDH0" "dBt" long fun c => do
    let tree := (← getWorld).tree
    let exact := c.has 'b' || c.has 'A'
    let amount (e : Entry) : Nat := if exact then (if e.isDir then 0 else sizeOf e) else blocksOf e * 1024
    let told (n : Nat) : Octets :=
      if c.has 'h' then humanSize 1024 n
      else if c.has 'b' then digitsOf n
      else if c.has 'm' then digitsOf ((n + 1048575) / 1048576)
      else digitsOf ((n + 1023) / 1024)
    let depthLimit := if c.has 's' then some 0 else (c.value? 'd').map (valueIn 10)
    let mut sum := 0
    for file in if c.operands.isEmpty then [['.']] else c.operands do
      match tree.findLink (← place) (pathOf file) with
      | .error e => reject 1 (withWords e ("cannot access ".toList ++ quoted file))
      | .ok found =>
        let amountBelow (at_ : Place) : Nat := tree.entries.foldl (fun n x =>
          if at_.isPrefixOf x.1 then n + amount x.2 else n) 0
        let rec show_ : Nat → Octets → Place → List (Octets × Nat × Nat × Bool)
          | 0, _, _ => []
          | fuel + 1, path, at_ =>
            (tree.children at_).flatMap (fun name => show_ fuel (within path (octets name)) (at_ ++ [name])) ++
              [(path, at_.length - found.length, amountBelow at_, tree.isDir at_)]
        for (path, depth, n, isDir) in show_ Tree.maxPath file found do
          if (isDir || c.has 'a' || depth = 0) && (depthLimit.all fun limit => depth ≤ limit) then
            print (told n ++ ['\t'] ++ path ++ ['\n'])
        sum := sum + amountBelow found
    if c.has 'c' then print (told sum ++ "\ttotal\n".toList)

end PassDelta.Machine.Utility
