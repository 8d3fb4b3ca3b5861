import PassDelta.Machine.Shell.Expansion
/-!
# Settings

What the rich shell gives to variables: texts, texts at their ends, elements, and whole tables.
-/

namespace PassDelta.Machine.Shell

/-- What a variable is given: a text, or the elements of a table, of which some have keys. -/
inductive Content where
  | text (t : Octets)
  | row (written : Octets) (items : List (Option Octets × Octets))
  deriving DecidableEq, Repr

structure Setting where
  name : String
  key : Option Octets
  appends : Bool
  content : Content
  deriving DecidableEq, Repr

namespace Setting

def title (x : Setting) : Octets := x.name.toList ++ (x.key.map fun k => ['['] ++ k ++ [']']).getD []

def ofAssignment (within : Within) : Assignment → Expand Setting
  | .mk name index appends value => do
    let key ← match index with
      | some w => do pure (some (wholeText (← expandPieces within false w)))
      | none => pure none
    let content ← match value with
      | [.elements written items] => do
        let found ← items.mapM fun (index, w) => do
          match index with
          | some i =>
            let key := wholeText (← expandPieces within false i)
            pure [(some key, ← valueOf within w)]
          | none => pure ((← fieldsOf within w).map fun field => (none, field))
        pure (Content.row written found.flatten)
      | w => do pure (Content.text (← valueOf within w))
    return ⟨name, key, appends, content⟩

def ofText? (word : Octets) : Option Setting :=
  let name := word.takeWhile isNameChar
  if !isName name then none
  else
    let rest := word.drop name.length
    let (key, rest) : Option Octets × Octets := match rest with
      | '[' :: more =>
        match Reckoning.untilBracket 0 more with
        | some (key, after) => (some key, after)
        | none => (none, rest)
      | _ => (none, rest)
    match rest with
    | '=' :: text => some ⟨String.ofList name, key, false, .text text⟩
    | '+' :: '=' :: text => some ⟨String.ofList name, key, true, .text text⟩
    | _ => none

def traced (x : Setting) : Octets :=
  x.title ++ (if x.appends then ['+'] else []) ++ ['='] ++ match x.content with
    | .text t => if t.isEmpty then [] else tracedWord t
    | .row written _ => ['('] ++ written ++ [')']

/-- What a variable has after it is given a text: the text, behind what it had, or a sum. -/
def combined (v : Variable) (old : Option Octets) (appends : Bool) (text : Octets) : Expand Octets := do
  if v.kinds.contains 'i' then
    let m ← if appends then reckoned (old.getD []) else pure 0
    return (toString (wrap (m + (← reckoned text)))).toList
  else return if appends then old.getD [] ++ text else text

/-- Items without keys of a table of names, each of which is the key of the one behind it. -/
def paired : List (Option Octets × Octets) → List (Option Octets × Octets)
  | (none, key) :: (none, value) :: rest => (some key, value) :: paired rest
  | (none, key) :: rest => (some key, []) :: paired rest
  | item :: rest => item :: paired rest
  | [] => []

/-- Puts elements into a table one after another; those without a key come behind the last one. -/
def fill (v : Variable) : List (Option Octets × Octets) → Nat → Row → Expand Row
  | [], _, r => return r
  | (key?, value) :: rest, next, r => do
    let key ← match key? with
      | none => pure (digits next)
      | some key =>
        if r.named then pure key
        else do
          let n ← reckoned key
          if 0 ≤ n then pure (digits n.toNat)
          else if 0 ≤ (r.next : Int) + n then pure (digits ((r.next : Int) + n).toNat)
          else throw (.told (['['] ++ key ++ "]=".toList ++ value ++ ": bad array subscript".toList))
    let text ← combined v none false value
    fill v rest (valueIn 10 key + 1) (r.put key (v.recased text))

def apply (x : Setting) : Expand Unit := do
  let s ← get
  let name := meant s maxMeanings x.name
  if s.isReadonly name then throw (.readonly name)
  let v := (s.binding? name).getD (.plain none (s.has 'a') false)
  match x.content, x.key with
  | .text t, none =>
    let text ← combined v v.value x.appends t
    modify fun s => s.assign name text
  | .text t, some index =>
    if index.all isBlankOctet ∧ !isNamed s name then
      throw (.told (x.title ++ ": bad array subscript".toList))
    let key ← keyFor name index
    let text ← combined v (element? (← get) name key) x.appends t
    modify fun s => assignElement s name key text
  | .row .., some _ => throw (.told (x.title ++ ": cannot assign list to array member".toList))
  | .row _ items, none =>
    let old : Row := v.row.getD ⟨false, (v.value.map fun t => (['0'], t)).toList⟩
    let start : Row := if x.appends then old else .empty old.named
    let r ← fill v (if start.named then paired items else items) start.next start
    let marks := ((← get).binding? name).getD v
    modify fun s => s.putVariable name (marks.withRow r)

end Setting

inductive Given where
  | word (text : Octets)
  | setting (x : Setting)
  deriving DecidableEq, Repr

def Given.traced : Given → Octets
  | .word text => tracedWord text
  | .setting x => match x.content with
    | .text t => tracedWord (x.title ++ (if x.appends then ['+', '='] else ['=']) ++ t)
    | .row .. => x.title

def Given.text : Given → Octets
  | .word text => text
  | .setting x => x.title ++ (if x.appends then ['+', '='] else ['=']) ++ match x.content with
    | .text t => t
    | .row written _ => ['('] ++ written ++ [')']

def givenWords (within : Within) : List Word → Expand (List Given)
  | [] => return []
  | [.assigning a] :: rest => do
    let x ← Setting.ofAssignment within a
    return .setting x :: (← givenWords within rest)
  | w :: rest => do
    let fields ← fieldsOf within w
    return fields.map Given.word ++ (← givenWords within rest)

end PassDelta.Machine.Shell
