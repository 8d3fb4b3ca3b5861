import PassDelta.Machine.Utility.File
/-!
# Programs on names

Programs that take paths apart, or tell where they lead.
-/

namespace PassDelta.Machine.Utility

open Act

def lineMark (c : Chosen) : Octets := if c.has 'z' then [Char.ofNat 0] else ['\n']

def basename : Act Unit := do
  withOptions 1 "az" "s" [("multiple", 'a'), ("suffix", 's'), ("zero", 'z')] fun c => do
    let cutEnd (suffix name : Octets) : Octets :=
      if suffix.isSuffixOf name ∧ suffix.length < name.length then name.take (name.length - suffix.length) else name
    if c.operands.isEmpty then return ← misuse 1 "missing operand".toList
    if c.has 'a' ∨ c.has 's' then
      for name in c.operands do print (cutEnd ((c.value? 's').getD []) (lastName name) ++ lineMark c)
    else match c.operands with
      | _ :: _ :: extra :: _ =>
        misuse 1 ("extra operand ".toList ++ (← cited extra))
      | [name, suffix] => print (cutEnd suffix (lastName name) ++ lineMark c)
      | _ => print (lastName (c.operands.headD []) ++ lineMark c)

def dirOf (name : Octets) : Octets :=
  let body := withoutSlashes name
  let above := (body.reverse.dropWhile (· ≠ '/')).reverse
  if above.isEmpty then (if body = ['/'] then body else ['.']) else withoutSlashes above

def dirname : Act Unit := withOptions 1 "z" "" [("zero", 'z')] fun c => do
  if c.operands.isEmpty then return ← misuse 1 "missing operand".toList
  for name in c.operands do print (dirOf name ++ lineMark c)

def absolute (here : Place) : Octets := if here.isEmpty then ['/'] else octets (here.flatMap (Path.slash :: ·))

def pwd : Act Unit := do
  let given := (← read).environment.lookup "PWD"
  let logical := (← read).args.contains "-L".toList || (← read).args.contains "--logical".toList
  match given, logical with
  | some path, true => print (path ++ ['\n'])
  | _, _ => print (absolute (← place) ++ ['\n'])

/-- What must be there for a path to be resolved: all of it, all but its last name, or nothing. -/
inductive Required where
  | all
  | dirs
  | none
  deriving DecidableEq, Repr

def wanderTo (t : Tree) (place : Place) (names : List Bytes) : Place :=
  names.foldl (fun place name =>
    if name = [Path.dot] then place
    else if name = [Path.dot, Path.dot] then place.dropLast
    else match t.follow place [name] with
      | .ok p => p
      | .error _ => place ++ [name]) place

def resolved (t : Tree) (here : Place) (required : Required) (file : Octets) : Except IoError Place :=
  let p := pathOf file
  let bare := pathOf (withoutSlashes file)
  if file.isEmpty then .error .enoent
  else match required with
    | .none => .ok (wanderTo t (Tree.origin here p) (Tree.names bare))
    | .all => t.find here p
    | .dirs =>
      match t.find here p with
      | .ok found => .ok found
      | .error e =>
        if e ≠ .enoent then .error e
        else match t.target here bare with
          | .ok place => .ok place
          | .error _ => .error e

def requiredBy (c : Chosen) (usual : Required) : Required :=
  match (c.options.filter fun o => o.1 = 'f' || o.1 = 'e' || o.1 = 'm').getLast? with
  | some ('e', _) => .all
  | some ('m', _) => .none
  | some _ => .dirs
  | none => usual

def realpath : Act Unit := do
  let long := [("canonicalize-existing", 'e'), ("canonicalize-missing", 'm'), ("logical", 'L'), ("physical", 'P'),
    ("quiet", 'q'), ("relative-to", 'r'), ("relative-base", 'b'), ("strip", 's'), ("no-symlinks", 's'), ("zero", 'z')]
  withOptions 1 "emLPqsz" "rb" long fun c => do
    if c.operands.isEmpty then return ← misuse 1 "missing operand".toList
    let tree := (← getWorld).tree
    let here ← place
    let base := ((c.value? 'r').orElse fun _ => c.value? 'b').bind fun dir => (resolved tree here .dirs dir).toOption
    for file in c.operands do
      let outcome := if c.has 's' ∧ !file.isEmpty then
          .ok (wanderTo ⟨[]⟩ (Tree.origin here (pathOf file)) (Tree.names (pathOf (withoutSlashes file))))
        else resolved tree here (requiredBy c .dirs) file
      match outcome with
      | .error e => if c.has 'q' then fail 1 else reject 1 (withWords e (if file.isEmpty then "''".toList else shown file))
      | .ok found =>
        let told := match base with
          | some dir => if (c.value? 'r').isSome ∨ dir.isPrefixOf found then wayTo dir found else absolute found
          | none => absolute found
        print (told ++ lineMark c)

def readlink : Act Unit := do
  let long := [("canonicalize", 'f'), ("canonicalize-existing", 'e'), ("canonicalize-missing", 'm'), ("no-newline", 'n'),
    ("quiet", 'q'), ("silent", 's'), ("verbose", 'v'), ("zero", 'z')]
  withOptions 1 "femnqsvz" "" long fun c => do
    if c.operands.isEmpty then return ← misuse 1 "missing operand".toList
    let several := 1 < c.operands.length
    if c.has 'n' ∧ several then grumble "ignoring --no-newline with multiple arguments".toList
    let close := if c.has 'n' ∧ !several then [] else lineMark c
    let follows := c.has 'f' || c.has 'e' || c.has 'm'
    let here ← place
    for file in c.operands do
      let tree := (← getWorld).tree
      let outcome : Except IoError Octets :=
        if follows then (resolved tree here (requiredBy c .dirs) file).map absolute
        else (tree.findLink here (pathOf file)).bind fun found =>
          match tree.entry? found with
          | some (.link target) => .ok (octets target.bytes)
          | _ => .error .einval
      match outcome with
      | .ok text => print (text ++ close)
      | .error e => if c.has 'v' then reject 1 (withWords e (shown file)) else fail 1

end PassDelta.Machine.Utility
