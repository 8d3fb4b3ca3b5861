import PassDelta.Machine.Utility.Charset
import PassDelta.Machine.Utility.Column
import PassDelta.Machine.Utility.Condition
import PassDelta.Machine.Utility.Count
import PassDelta.Machine.Utility.Digest
import PassDelta.Machine.Utility.Dump
import PassDelta.Machine.Utility.Edit
import PassDelta.Machine.Utility.Expression
import PassDelta.Machine.Utility.Format
import PassDelta.Machine.Utility.Listing
import PassDelta.Machine.Utility.Pairing
import PassDelta.Machine.Utility.Search
import PassDelta.Machine.Utility.Whole
/-!
# Programs that come with the machine

The programs that say something, wait, or tell what is known of the machine, and the table of all programs that
start no others.
-/

namespace PassDelta.Machine.Utility

open Act

def echo : Act Unit := do print (echoPlain .alone (← read).args)

def printFormatted : Act Unit := do
  match (match (← read).args with
    | ['-', '-'] :: rest => rest
    | args => args) with
  | [] => misuse 1 "missing operand".toList
  | format :: words =>
    let (said, status) := printf .alone 0 format words
    for (stream, text) in said do if stream = 1 then print text else grumble text
    if words ≠ [] ∧ !format.contains '%' then
      grumble ("warning: ignoring excess arguments, starting with ".toList ++ (← cited (words.headD [])))
    fail status

def duration? (word : Octets) : Option Nat :=
  if word = "infinity".toList ∨ word = "inf".toList then some World.never else
  let whole := word.takeWhile Char.isDigit
  let rest := word.drop whole.length
  let (fraction, unit) := match rest with
    | '.' :: more => more.span Char.isDigit
    | more => ([], more)
  let scale := match String.ofList unit with
    | "" => some 1
    | "s" => some 1
    | "m" => some 60
    | "h" => some 3600
    | "d" => some 86400
    | _ => none
  if whole.isEmpty ∧ fraction.isEmpty then none
  else scale.map fun s =>
    (valueIn 10 whole * tenTo 9 + valueIn 10 (fraction.take 9) * tenTo (9 - (fraction.take 9).length)) * s

def sleep : Act Unit := withOptions 1 "" "" [] fun c => do
  if c.operands.isEmpty then return ← misuse 1 "missing operand".toList
  match c.operands.find? fun w => (duration? w).isNone with
  | some w => misuse 1 ("invalid time interval ".toList ++ (← cited w))
  | none => setWorld ((← getWorld).wait ((c.operands.filterMap duration?).foldl (· + ·) 0))

def condition (words : List Octets) : Act Unit := do
  match test ⟨(← getWorld).tree, ← place⟩ words with
  | .ok b => fail (if b then 0 else 1)
  | .error e =>
    match e with
    | .illegalNumber w => reject 2 ("invalid integer ".toList ++ (← cited w))
    | .unclosed => reject 2 ("missing argument after ".toList ++ (← cited (words.getLastD [])))
    | .argumentExpected w => reject 2 ("missing argument after ".toList ++ (← cited w))
    | .unexpectedOperator _ =>
      match words with
      | [_, w, _] => reject 2 ((← cited w) ++ ": binary operator expected".toList)
      | [_, w] => reject 2 ("missing argument after ".toList ++ (← cited w))
      | _ => reject 2 ("extra argument ".toList ++ (← cited (words.getLastD [])))

def bracketed : Act Unit := do
  let args := (← read).args
  if args.getLast? = some [']'] then condition args.dropLast
  else reject 2 ("missing ".toList ++ (← cited [']']))

def environmentLines : Act Octets := do
  return (← read).environment.flatMap fun v => v.1.toList ++ ['='] ++ v.2 ++ ['\n']

def printenv : Act Unit := do
  let call ← read
  if call.args.isEmpty then print (← environmentLines)
  else
    for name in call.args do
      match call.environment.lookup (String.ofList name) with
      | some value => print (value ++ ['\n'])
      | none => fail 1

def uname : Act Unit := do print "Linux\n".toList

def whoami : Act Unit := do print "root\n".toList

def userId : Act Unit := withOptions 1 "ugnGr" "" [] fun c => do
  if c.has 'n' then print "root\n".toList
  else if c.options.isEmpty then print "uid=0(root) gid=0(root) groups=0(root)\n".toList
  else print "0\n".toList

def tty : Act Unit := do
  print "not a tty\n".toList
  fail 1

def which : Act Unit := do
  let call ← read
  let tree := (← getWorld).tree
  let dirs := ((call.environment.lookup "PATH").getD []).splitOn ':'
  for name in call.args do
    let isProgram (path : Octets) : Bool :=
      ((tree.find call.here (pathOf path)).toOption.bind tree.entry?).any Entry.isProgram
    let candidates := if name.contains '/' then [name] else dirs.map fun dir => dir ++ ['/'] ++ name
    match candidates.find? isProgram with
    | some path => print (path ++ ['\n'])
    | none => fail 1

def programs : List (String × Act Unit) := [
  ("true", pure ()), ("false", fail 1), ("echo", echo), ("printf", printFormatted), ("sleep", sleep),
  ("test", do condition (← read).args), ("[", bracketed), ("printenv", printenv), ("uname", uname), ("whoami", whoami),
  ("id", userId), ("tty", tty), ("which", which), ("realpath", realpath), ("readlink", readlink), ("sync", pure ()),
  ("cat", cat), ("head", head), ("tail", tail), ("tac", tac), ("rev", rev), ("nl", nl), ("tee", tee), ("yes", yes),
  ("wc", wc), ("sort", sort), ("uniq", uniq), ("cut", cut), ("tr", tr), ("seq", seq), ("paste", paste), ("fold", fold),
  ("expand", expand), ("unexpand", unexpand), ("comm", comm), ("join", join),
  ("od", od), ("base64", lettered base64), ("base32", lettered base32), ("cksum", cksum), ("sum", sum),
  ("md5sum", digestProgram "md5"), ("sha1sum", digestProgram "sha1"), ("sha224sum", digestProgram "sha224"),
  ("sha256sum", digestProgram "sha256"), ("sha384sum", digestProgram "sha384"), ("sha512sum", digestProgram "sha512"),
  ("grep", grep), ("egrep", grep), ("fgrep", grep), ("sed", sed), ("expr", expr),
  ("mkdir", mkdir), ("rmdir", rmdir), ("rm", rm), ("mv", mv), ("cp", cp), ("ln", ln), ("link", link),
  ("unlink", unlink), ("touch", touch), ("chmod", chmod), ("mktemp", mktemp), ("truncate", truncate), ("install", install),
  ("ls", ls), ("dir", ls), ("du", du), ("basename", basename), ("dirname", dirname), ("pwd", pwd), ("stat", stat)]

def tellsVersion (name : String) : Bool := !(["grep", "egrep", "fgrep", "sed", "rev", "which"].contains name)

def runProgram (name : String) (act : Act Unit) : Act Unit := do
  if (← read).args = ["--version".toList] ∧ tellsVersion name then
    print (name.toList ++ " (GNU coreutils) 9.4\n".toList)
  else act

end PassDelta.Machine.Utility
