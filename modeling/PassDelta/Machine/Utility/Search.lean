import PassDelta.Machine.Regex
import PassDelta.Machine.Utility.Line
/-!
# Searching lines

The lines of files that match an expression, or all others, as they are, counted or only their matching parts.
-/

namespace PassDelta.Machine.Utility

open Act

structure Searched where
  pattern : Regex
  fold : Bool
  inverse : Bool

def Searched.holds (s : Searched) (line : Octets) : Bool := (s.pattern.search s.fold none line).isSome != s.inverse

def searchedPattern (c : Chosen) (texts : List Octets) : Except String Regex := do
  let one (text : Octets) : Except String Regex :=
    if c.has 'F' then .ok (.literal text) else Regex.read (c.has 'E' || c.has 'P') text
  let patterns ← (texts.flatMap fun t => t.splitOn '\n').mapM one
  let any := match patterns with
    | [] => Regex.empty
    | p :: ps => ps.foldl Regex.either p
  if c.has 'x' then return .sequence .start (.sequence any .finish)
  else if c.has 'w' then return .sequence (.edge .unled) (.sequence any (.edge .unfollowed))
  else return any

/-- How a line is shown: its number, its text, and whether it is one of those looked for. -/
structure Shown where
  number : Nat
  line : Octets
  selected : Bool

/-- The lines with those around them that are asked for; a gap comes between lines that do not follow one another. -/
def withContext (before after : Nat) (lines : List Shown) : List (Option Shown) :=
  let wanted := lines.filter fun l => lines.any fun m =>
    m.selected && l.number ≤ m.number + after && m.number ≤ l.number + before
  (wanted.foldl (fun (acc : List (Option Shown) × Nat) l =>
    (acc.1 ++ (if 0 < acc.2 ∧ acc.2 + 1 < l.number ∧ 0 < before + after then [none, some l] else [some l]), l.number))
    ([], 0)).1

def numberOption (c : Chosen) (letter : Char) : Nat := (((c.value? letter).bind readInteger?).getD 0).toNat

/-- Searches one text and prints what is asked for. Returns whether a line was selected. -/
def searchText (c : Chosen) (s : Searched) (name : Octets) (named : Bool) (text : Octets) : Act Bool := do
  let marked := (plainLines text).zipIdx.map fun (line, i) => (⟨i + 1, line, s.holds line⟩ : Shown)
  let limit := if (c.value? 'm').isSome then numberOption c 'm' else marked.length
  let last := ((marked.filter Shown.selected).take limit).getLast?.map Shown.number
  let selected := if limit = 0 then [] else match last with
    | some n => if limit ≤ (marked.countP Shown.selected) then marked.take n else marked
    | none => []
  let count := selected.countP Shown.selected
  let binary := text.contains (Char.ofNat 0) && !c.has 'a'
  let label (mark : Char) : Octets := if named then name ++ [mark] else []
  if c.has 'q' then pure ()
  else if c.has 'c' then print (label ':' ++ digitsOf count ++ ['\n'])
  else if c.has 'l' then print (if 0 < count then name ++ ['\n'] else [])
  else if c.has 'L' then print (if 0 < count then [] else name ++ ['\n'])
  else if binary && 0 < count then put 2 ("grep: ".toList ++ name ++ ": binary file matches\n".toList)
  else
    let head (mark : Char) (l : Shown) : Octets :=
      label mark ++ if c.has 'n' then digitsOf l.number ++ [mark] else []
    if c.has 'o' then
      for l in selected do
        if l.selected && !s.inverse then
          for f in s.pattern.searchAll s.fold (l.line.length + 2) none true l.line do
            if f.text ≠ [] then print (head ':' l ++ f.text ++ ['\n'])
    else
      let around := numberOption c 'C'
      let before := if (c.value? 'B').isSome then numberOption c 'B' else around
      let after := if (c.value? 'A').isSome then numberOption c 'A' else around
      for l in withContext before after selected do
        match l with
        | none => print "--\n".toList
        | some l => print (head (if l.selected then ':' else '-') l ++ l.line ++ ['\n'])
  return 0 < count

def filesUnder (w : World) (dir : Place) : List (Octets × Octets) :=
  let found := (w.tree.filesBelow dir).map fun f => (['/'].intercalate (f.1.map octets), octets f.2)
  found.mergeSort fun a b => octetsLe a.1 b.1

def grep : Act Unit := do
  let name := (← read).name
  let usage : Octets := "Usage: grep [OPTION]... PATTERNS [FILE]...\nTry 'grep --help' for more information.\n".toList
  let long := [("ignore-case", 'i'), ("invert-match", 'v'), ("count", 'c'), ("quiet", 'q'), ("silent", 'q'),
    ("only-matching", 'o'), ("line-number", 'n'), ("extended-regexp", 'E'), ("fixed-strings", 'F'), ("regexp", 'e'),
    ("word-regexp", 'w'), ("line-regexp", 'x'), ("files-with-matches", 'l'), ("no-messages", 's'), ("recursive", 'r'),
    ("max-count", 'm'), ("color", 'U'), ("no-filename", 'h'), ("with-filename", 'H'), ("after-context", 'A'),
    ("before-context", 'B'), ("context", 'C')]
  match Options.read ⟨"EFGPvicLlnqoxwhHsrRaUyz".toList, "emABC".toList, long⟩ (← read).args with
  | .error e =>
    reject 2 e.message
    put 2 usage
  | .ok chosen =>
    let c := if chosen.has 'y' then chosen.addOption 'i' [] else chosen
    let c := if "egrep".toList.isSuffixOf name then c.addOption 'E' [] else c
    let c := if "fgrep".toList.isSuffixOf name then c.addOption 'F' [] else c
    let given := c.values 'e'
    let chosen := if given.isEmpty then c.operands.head?.map fun p => ([p], c.operands.tail)
      else some (given, c.operands)
    match chosen with
    | none =>
      put 2 usage
      fail 2
    | some (texts, files) =>
      match searchedPattern c texts with
      | .error e => reject 2 e.toList
      | .ok pattern =>
        let s : Searched := ⟨pattern, c.has 'i', c.has 'v'⟩
        let deep := c.has 'r' || c.has 'R'
        let files := if files.isEmpty then (if deep then [[]] else [['-']]) else files
        let named := (1 < files.length || deep || c.has 'H') && !c.has 'h'
        let mut any := false
        let mut trouble := false
        for file in files do
          let w ← getWorld
          let found := w.tree.find (← place) ⟨bytesOf (if file.isEmpty then ['.'] else file)⟩
          let dir := match found with
            | .ok p => if w.tree.isDir p && file ≠ ['-'] then some p else none
            | .error _ => none
          match dir with
          | some p =>
            if deep then
              for (path, text) in filesUnder w p do
                if ← searchText c s (if file.isEmpty then path else file ++ ['/'] ++ path) named text then any := true
            else
              trouble := true
              if !c.has 's' then grumble (file ++ ": Is a directory".toList)
          | none =>
            match ← fetch file with
            | .ok text =>
              if ← searchText c s (if file = ['-'] then "(standard input)".toList else file) named text then any := true
            | .error e =>
              trouble := true
              if !c.has 's' then grumble (file ++ ": ".toList ++ octetsOfText e.words)
        if any ∧ (c.has 'q' ∨ !trouble) then fail 0
        else fail (if trouble then 2 else 1)

end PassDelta.Machine.Utility
