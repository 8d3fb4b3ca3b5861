import PassDelta.Machine.Shell.Word
/-!
# Reading scripts

A script is read one complete command at a time, so that what stands before a fault is run before the fault is
met.
-/

namespace PassDelta.Machine.Shell

/-- What comes next in a script. Of a word only the octets up to a blank or an operator are told, and the keyword that
they are where a command can begin. -/
inductive Token where
  | finish
  | newline
  | sign (text : String)
  | redirect (stream : Option Nat) (arrow : String)
  | word (front : Octets) (keyword : Option String)
  deriving DecidableEq, Repr

def Dialect.signs : Dialect → List String
  | .plain => [";;", "&&", "||", "|", ";", "&", "(", ")"]
  | .rich => [";;&", ";;", ";&", "&&", "||", "|&", "|", ";", "&", "(", ")"]

def Dialect.arrows : Dialect → List String
  | .plain => ["<<-", "<<", "<&", "<>", "<", ">>", ">&", ">|", ">"]
  | .rich => ["<<<", "<<-", "<<", "<&", "<>", "<", ">>", ">&", ">|", ">", "&>>", "&>"]

def keywords : List String :=
  ["!", "case", "do", "done", "elif", "else", "esac", "fi", "for", "if", "in", "then", "until", "while", "\x7b", "\x7d"]

def richKeywords : List String := ["[[", "function", "select", "time"]

def Dialect.keywords : Dialect → List String
  | .plain => Shell.keywords
  | .rich => Shell.keywords ++ richKeywords

def closers : List String := ["do", "done", "elif", "else", "esac", "fi", "then", "\x7d"]

def Token.keyword? : Token → Option String
  | .word _ keyword => keyword
  | _ => none

def Token.closes : Token → Bool
  | .finish => true
  | .sign s => s = ")" || s = ";;" || s = ";&" || s = ";;&"
  | t => t.keyword?.any closers.contains

def Token.name (t : Token) : String :=
  match t with
  | .finish => "end of file"
  | .newline => "newline"
  | .sign s => "\"" ++ s ++ "\""
  | .redirect .. => "redirection"
  | .word .. => (t.keyword?.map fun k => "\"" ++ k ++ "\"").getD "word"

namespace Parse

def skipBlanks (fuel : Nat) : Parse Unit :=
  match fuel with
  | 0 => pure ()
  | fuel + 1 => do
    if ← sees "#" then
      let _ ← takeWhile (· ≠ '\n')
    else if ← took "\\\n" then skipBlanks fuel
    else if (← peek).any fun c => c = ' ' || c = '\t' then
      let _ ← take 1
      skipBlanks fuel

def front (d : Dialect) (cs : Octets) : Token × Nat :=
  let arrow? (cs : Octets) : Option String := d.arrows.find? fun a => a.toList.isPrefixOf cs
  let isStream (cs : Octets) : Bool := d = .rich && ("<(".toList.isPrefixOf cs || ">(".toList.isPrefixOf cs)
  let word : Token × Nat :=
    let front := cs.takeWhile fun d => !endsWord d
    (.word front (d.keywords.find? fun k => k.toList = front), front.length)
  match cs with
  | [] => (.finish, 0)
  | '\n' :: _ => (.newline, 1)
  | c :: _ =>
    match (if c = '&' then arrow? cs else none), d.signs.find? fun s => s.toList.isPrefixOf cs with
    | some a, _ => (.redirect none a, a.length)
    | none, some s => (.sign s, s.length)
    | none, none =>
      if isStream cs then word
      else
        let ds := if d = Dialect.rich then cs.takeWhile Char.isDigit else (cs.take 1).filter Char.isDigit
        match arrow? cs, (if ds.isEmpty then none else (arrow? (cs.drop ds.length)).filter fun a => !a.startsWith "&") with
        | some a, _ => (.redirect none a, a.length)
        | none, some a => (.redirect (some (valueIn 10 ds)) a, a.length + ds.length)
        | none, none => word

def upcoming : Parse Token := do
  skipBlanks ((← get).rest.length + 1)
  let s ← get
  return (front s.dialect s.rest).1

/-- Puts the texts of names in their places, as long as a name comes next whose text is not being read. -/
def expandNames (fuel : Nat) : Parse Unit :=
  match fuel with
  | 0 => pure ()
  | fuel + 1 => do
    match ← upcoming with
    | .word name _ =>
      let s ← get
      let isBusy := s.busy.any fun b => b.1 = name && b.2 < s.rest.length
      match if isBusy then none else s.manner.aliases.lookup name with
      | none => pure ()
      | some text =>
        let behind := s.rest.drop name.length
        let opens := text.getLast?.any fun c => c = ' ' || c = '\t'
        set { s with
          rest := text ++ behind, busy := (name, behind.length) :: s.busy
          checks := if opens then some behind.length else s.checks }
        expandNames fuel
    | _ => pure ()

/-- Puts the text of the next word in its place if the text before it asks for that. -/
def expandNext : Parse Unit := do
  let s ← get
  match s.checks with
  | some n =>
    if s.rest.length ≤ n then
      set { s with checks := none }
      expandNames (s.manner.aliases.length + 1)
  | none => pure ()

def pass : Parse Unit := do
  let s ← get
  let _ ← take (front s.dialect s.rest).2

def written (inside : Inside) : Parse (Octets × Scan) := do
  let t ← upcoming
  let before ← get
  match t with
  | .word .. => let _ ← scanWord inside
  | _ => pass
  let after ← get
  set before
  let text := before.rest.take (before.rest.length - after.rest.length)
  return (if t = .newline then "newline".toList else text, after)

def unexpected {α : Type} (inside : Inside) (expecting : Option String) : Parse α := do
  let t ← upcoming
  let before ← get
  let (text, after) ← written inside
  if ← isRich then
    if t = .finish then throw ⟨before.line + 1, ["syntax error: unexpected end of file".toList], false⟩
    else throw ⟨before.line, ["syntax error near unexpected token `".toList ++ text ++ ['\'']], true⟩
  else
    set after
    fail (t.name ++ " unexpected" ++ (expecting.map fun e => " (expecting " ++ e ++ ")").getD "")

def unfitting {α : Type} (inside : Inside) (reason : Octets → Option Octets) : Parse α := do
  let line := (← get).line
  let (text, _) ← written inside
  throw ⟨line, (reason text).toList ++ ["syntax error near `".toList ++ text ++ ['\'']], true⟩

def expect (inside : Inside) (keyword : String) : Parse Unit := do
  if (← upcoming).keyword? = some keyword then pass else unexpected inside (some ("\"" ++ keyword ++ "\""))

def expectSign (inside : Inside) (sign : String) : Parse Unit := do
  if (← upcoming) = .sign sign then pass else unexpected inside (some ("\"" ++ sign ++ "\""))

def skipNewlines (fuel : Nat) : Parse Unit :=
  match fuel with
  | 0 => pure ()
  | fuel + 1 => do
    if (← upcoming) = .newline then
      pass
      skipNewlines fuel

/-- The lines of a text up to one that is the delimiter, how many they are, and what follows. -/
def textLines (tabless : Bool) (delimiter : Octets) : Nat → Octets → List Octets × Nat × Octets
  | 0, cs => ([], 0, cs)
  | _ + 1, [] => ([], 0, [])
  | fuel + 1, cs =>
    let raw := cs.takeWhile (· ≠ '\n')
    let line := if tabless then raw.dropWhile (· = '\t') else raw
    let rest := cs.drop (raw.length + 1)
    if line = delimiter then ([], 1, rest)
    else
      let (lines, count, rest') := textLines tabless delimiter fuel rest
      ((if raw.length < cs.length then line ++ ['\n'] else line) :: lines, count + 1, rest')

def scanText (inside : Inside) (tabless : Bool) (delimiter : Word) : Parse Word := do
  let s ← get
  let current := s.rest.takeWhile (· ≠ '\n')
  let behind := s.rest.drop (current.length + 1)
  let (lines, count, rest) := textLines tabless (unquoted delimiter) (behind.length + 1) behind
  let warning := "warning: here-document at line ".toList ++ Nat.toDigits 10 s.line ++
    " delimited by end-of-file (wanted `".toList ++ unquoted delimiter ++ "')".toList
  let isOpen := lines.length = count
  set { s with
    rest := current ++ (if current.length < s.rest.length then '\n' :: rest else []), owed := s.owed + count
    warnings := if isOpen ∧ s.dialect = Dialect.rich then (s.line + count, warning) :: s.warnings else s.warnings }
  let body := lines.flatten
  if isQuoted delimiter then return [.text true body]
  else match (scanLoose inside (body.length + 1)).run { s with rest := body, line := s.line + 1, owed := 0 } with
    | .ok (w, _) => return w
    | .error e => throw e

def scanTarget (inside : Inside) (arrow : String) : Parse Target := do
  match ← upcoming with
  | .word .. =>
    let w ← scanWord inside
    match arrow with
    | "<" => return .file .read w
    | ">" => return .file .write w
    | ">|" => return .file .replace w
    | ">>" => return .file .append w
    | "<>" => return .file .both w
    | "<<" => return .text (← scanText inside false w)
    | "<<-" => return .text (← scanText inside true w)
    | "<<<" => return .text (w ++ [.text true ['\n']])
    | "&>" => return .all false w
    | "&>>" => return .all true w
    | _ => return .copy w
  | _ => unexpected inside none

def scanRedirect (inside : Inside) (stream : Option Nat) (arrow : String) : Parse Redirect := do
  pass
  let usual := if arrow.startsWith "<" then 0 else 1
  return (stream.getD usual, ← scanTarget inside arrow)

def scanRedirects (inside : Inside) (fuel : Nat) : Parse (List Redirect) :=
  match fuel with
  | 0 => return []
  | fuel + 1 => do
    match ← upcoming with
    | .redirect stream arrow =>
      let r ← scanRedirect inside stream arrow
      return r :: (← scanRedirects inside fuel)
    | _ => return []

def scanWords (inside : Inside) (fuel : Nat) : Parse (List Word) :=
  match fuel with
  | 0 => return []
  | fuel + 1 => do
    match ← upcoming with
    | .word .. =>
      let w ← scanWord inside
      return w :: (← scanWords inside fuel)
    | _ => return []

def scanPatterns (inside : Inside) (fuel : Nat) : Parse (List Word) :=
  match fuel with
  | 0 => return []
  | fuel + 1 => do
    match ← upcoming with
    | .word .. =>
      let w ← scanWord inside
      if (← upcoming) = .sign "|" then
        pass
        return w :: (← scanPatterns inside fuel)
      else
        expectSign inside ")"
        return [w]
    | _ => unexpected inside (some "\")\"")

def declaring : List String := ["declare", "typeset", "local", "export", "readonly"]

def unaryChecks : List String := ["-a", "-b", "-c", "-d", "-e", "-f", "-g", "-h", "-k", "-n", "-o", "-p", "-r", "-s", "-t", "-u",
  "-v", "-w", "-x", "-z", "-G", "-L", "-N", "-O", "-R", "-S"]

def binaryChecks : List String := ["=", "==", "!=", "=~", "<", ">", "-eq", "-ne", "-lt", "-le", "-gt", "-ge", "-nt", "-ot", "-ef"]

mutual

/-- Commands inside a word: up to the bracket that closes them, or all of a text. -/
def nested (fuel : Nat) (isBracketed : Bool) : Parse (List Command) :=
  match fuel with
  | 0 => fail "too deep"
  | fuel + 1 => do
    let body ← list fuel true
    if isBracketed then expectSign ⟨nested fuel true, nested fuel false⟩ ")"
    return body

def scanElements (fuel : Nat) : Parse (List (Option Word × Word)) :=
  match fuel with
  | 0 => fail "too deep"
  | fuel + 1 => do
    let inside : Inside := ⟨nested fuel true, nested fuel false⟩
    skipNewlines ((← get).rest.length + 1)
    match ← upcoming with
    | .sign ")" =>
      pass
      return []
    | .word .. =>
      let before ← get
      if ← took "[" then
        let index ← scanPart inside ((← get).rest.length + 2) false [']'] ('[', ']') 0
        if ← took "]=" then
          let value ← scanWord inside
          return (some index, value) :: (← scanElements fuel)
        else set before
      let w ← scanWord inside
      return (none, w) :: (← scanElements fuel)
    | _ => unexpected inside none

/-- An assignment that comes next, if one does. Only the rich shell has tables, and additions to what a variable
holds. -/
def scanAssignment (fuel : Nat) : Parse (Option Assignment) :=
  match fuel with
  | 0 => fail "too deep"
  | fuel + 1 => do
    let inside : Inside := ⟨nested fuel true, nested fuel false⟩
    let before ← get
    let name ← takeWhile isNameChar
    if !isName name then
      set before
      return none
    let index ← if (before.dialect = .rich) && (← sees "[") then
        let _ ← take 1
        let index ← scanIndex inside ((← get).rest.length + 2)
        pure (some index)
      else pure none
    let appends ← if before.dialect = .rich then took "+=" else pure false
    if !appends then
      if !(← took "=") then
        set before
        return none
    let value ← if before.dialect = .rich ∧ index.isNone ∧ (← sees "(") then
        let _ ← take 1
        let start ← get
        let items ← scanElements fuel
        let after ← get
        pure [Piece.elements (start.rest.take (start.rest.length - after.rest.length - 1)) items]
      else scanWord inside
    return some (.mk (String.ofList name) index appends value)
where
  scanIndex (inside : Inside) (fuel : Nat) : Parse Word := do
    let s ← get
    match (scanPart inside fuel false [']'] ('[', ']') 0).run s with
    | .ok (index, after) =>
      if "]=".toList.isPrefixOf after.rest ∨ "]+=".toList.isPrefixOf after.rest then
        set after
        let _ ← take 1
        return index
      else return []
    | .error _ => return []

/-- A simple command, or the definition of a function. The line of a command is where its first word ends, and in the
rich shell where the second one does, if the first is no assignment. -/
def simple (fuel line : Nat) (assignments : List Assignment) (words : List Word) (redirects : List Redirect) :
    Parse Command :=
  match fuel with
  | 0 => fail "too deep"
  | fuel + 1 => do
    let inside : Inside := ⟨nested fuel true, nested fuel false⟩
    if words.isEmpty && !assignments.isEmpty then expandNames ((← get).manner.aliases.length + 1)
    else if (← get).checks.isSome then
      skipBlanks ((← get).rest.length + 1)
      expandNext
    match ← upcoming with
    | .word .. =>
      let begins := assignments.isEmpty && words.isEmpty && redirects.isEmpty
      let declares := (← isRich) && (words.head?.bind Shell.bare?).any declaring.contains
      match ← (if words.isEmpty || declares then scanAssignment fuel else pure none) with
      | some a =>
        let now := (← get).line
        let line := if begins then now else line
        if words.isEmpty then simple fuel line (assignments ++ [a]) words redirects
        else simple fuel line assignments (words ++ [[.assigning a]]) redirects
      | none =>
        let w ← scanWord inside
        let now := (← get).line
        let second := (← isRich) && assignments.isEmpty && redirects.isEmpty && words.length = 1
        let line := if begins || second then now else line
        simple fuel line assignments (words ++ [w]) redirects
    | .redirect stream arrow =>
      simple fuel line assignments words (redirects ++ [← scanRedirect inside stream arrow])
    | .sign "(" =>
      match assignments, words, redirects with
      | [], [w], [] =>
        if ← isRich then
          let before ← get
          pass
          if (← upcoming) ≠ .sign ")" then
            set before
            unexpected inside none
          pass
        else
          pass
          expectSign inside ")"
        let isRich ← isRich
        match (Shell.bare? w).filter fun name => isRich || isName name.toList with
        | none => fail "Bad function name"
        | some name =>
          skipNewlines ((← get).rest.length + 1)
          return .define name (← command fuel)
      | _, _, _ => if ← isRich then unexpected inside none else return .simple line assignments words redirects
    | _ => return .simple line assignments words redirects

def command (fuel : Nat) : Parse Command :=
  match fuel with
  | 0 => fail "too deep"
  | fuel + 1 => do
    let inside : Inside := ⟨nested fuel true, nested fuel false⟩
    expandNames ((← get).manner.aliases.length + 1)
    let t ← upcoming
    let line := (← get).line
    let compound (c : Parse Command) : Parse Command := do
      pass
      let c ← c
      match ← scanRedirects inside ((← get).rest.length + 1) with
      | [] => return c
      | rs => return .redirected line c rs
    match t.keyword? with
    | some "[[" => compound do
      let c ← checkEither fuel
      skipNewlines ((← get).rest.length + 1)
      if (← upcoming) ≠ .word "]]".toList none then unfitting inside fun _ => none
      pass
      return .check line c
    | some "function" =>
      pass
      let w ← match ← upcoming with
        | .word .. => scanWord inside
        | _ => unexpected inside none
      if (← upcoming) = .sign "(" then
        pass
        expectSign inside ")"
      skipNewlines ((← get).rest.length + 1)
      return .define (String.ofList (unquoted w)) (← command fuel)
    | some "if" => compound (choice fuel)
    | some "while" => compound (loop fuel false)
    | some "until" => compound (loop fuel true)
    | some "for" => compound (each fuel line false)
    | some "select" => compound (each fuel line true)
    | some "case" => compound (select fuel line)
    | some "\x7b" => compound do
      let body ← list fuel false
      expect inside "\x7d"
      return .list body
    | some _ => unexpected inside none
    | none =>
      match t with
      | .sign "(" =>
        match ← (if ← isRich then computed fuel else pure none) with
        | some body =>
          match ← scanRedirects inside ((← get).rest.length + 1) with
          | [] => return .compute line body
          | rs => return .redirected line (.compute line body) rs
        | none => compound do
          let body ← list fuel false
          expectSign inside ")"
          return .subshell line body
      | .word .. => simple fuel line [] [] []
      | .redirect .. => simple fuel line [] [] []
      | _ => unexpected inside none

def computed (fuel : Nat) : Parse (Option Word) :=
  match fuel with
  | 0 => fail "too deep"
  | fuel + 1 => do
    let s ← get
    let body : Parse Word := do
      let _ ← take 2
      scanSum ⟨nested fuel true, nested fuel false⟩ ((← get).rest.length + 2) 0
    if !"((".toList.isPrefixOf s.rest then return none
    else match body.run s with
      | .ok (w, after) =>
        set after
        return some w
      | .error _ => return none

def checkEither (fuel : Nat) : Parse Check :=
  match fuel with
  | 0 => fail "too deep"
  | fuel + 1 => do
    let a ← checkBoth fuel
    skipNewlines ((← get).rest.length + 1)
    if (← upcoming) = .sign "||" then
      pass
      return .either a (← checkEither fuel)
    else return a

def checkBoth (fuel : Nat) : Parse Check :=
  match fuel with
  | 0 => fail "too deep"
  | fuel + 1 => do
    let a ← checkOne fuel
    skipNewlines ((← get).rest.length + 1)
    if (← upcoming) = .sign "&&" then
      pass
      return .both a (← checkBoth fuel)
    else return a

def checkOne (fuel : Nat) : Parse Check :=
  match fuel with
  | 0 => fail "too deep"
  | fuel + 1 => do
    let inside : Inside := ⟨nested fuel true, nested fuel false⟩
    let missing := "unexpected token `newline', conditional binary operator expected"
    let operand (kind : String) : Parse Word := do
      let refused {α : Type} : Parse α := unfitting inside fun text =>
        some ("unexpected argument `".toList ++ text ++ ("' to conditional " ++ kind ++ " operator").toList)
      match ← upcoming with
      | .word front _ =>
        if front = "]]".toList then refused
        let old := (← get).manner
        modify fun s => { s with manner := { old with grouping := true } }
        let w ← scanWord inside
        modify fun s => { s with manner := old }
        return w
      | _ => refused
    skipNewlines ((← get).rest.length + 1)
    match ← upcoming with
    | .sign "(" =>
      pass
      let c ← checkEither fuel
      skipNewlines ((← get).rest.length + 1)
      if (← upcoming) ≠ .sign ")" then
        unfitting inside fun text => some ("unexpected token `".toList ++ text ++ "', expected `)'".toList)
      pass
      return c
    | .word front _ =>
      if front = ['!'] then
        pass
        return .inverse (← checkOne fuel)
      if front = "]]".toList then unfitting inside fun _ => none
      let w ← operand "unary"
      let unary := (Shell.bare? w).any unaryChecks.contains
      match ← upcoming with
      | .redirect none arrow =>
        if arrow = "<" ∨ arrow = ">" then
          pass
          return .two arrow w (← operand "binary")
        else unfitting inside fun _ => some "conditional binary operator expected".toList
      | .word next _ =>
        if next = "]]".toList then
          if unary then
            unfitting inside fun _ => some "unexpected argument `]]' to conditional unary operator".toList
          return .holds w
        let operator := String.ofList next
        if binaryChecks.contains operator then
          let _ ← scanWord inside
          if operator = "=~" then
            skipBlanks ((← get).rest.length + 1)
            return .two operator w (← scanPart inside ((← get).rest.length + 2) false [' ', '\t', '\n'] ('(', ')') 0)
          else return .two operator w (← operand "binary")
        else if unary then return .one ((Shell.bare? w).getD "") (← operand "unary")
        else unfitting inside fun _ => some "conditional binary operator expected".toList
      | .newline => unfitting inside fun _ => some missing.toList
      | .finish => unfitting inside fun _ => some missing.toList
      | _ => return .holds w
    | _ => unfitting inside fun _ => none

def piped (fuel : Nat) : Parse (List Command) :=
  match fuel with
  | 0 => fail "too deep"
  | fuel + 1 => do
    let c ← command fuel
    match ← upcoming with
    | .sign "|" =>
      pass
      skipNewlines ((← get).rest.length + 1)
      return c :: (← piped fuel)
    | .sign "|&" =>
      let line := (← get).line
      pass
      skipNewlines ((← get).rest.length + 1)
      return .redirected line c [(2, .copy [.text true ['1']])] :: (← piped fuel)
    | _ => return [c]

def pipeline (fuel : Nat) : Parse Command :=
  match fuel with
  | 0 => fail "too deep"
  | fuel + 1 => do
    if (← upcoming).keyword? = some "time" then
      pass
      if (← upcoming) = .word ['-', 'p'] none then pass
      return .timed (← pipeline fuel)
    let negated := (← upcoming).keyword? = some "!"
    if negated then pass
    if negated ∧ (← upcoming).keyword? = some "!" ∧ (← isRich) then return .inverse (← pipeline fuel)
    let c ← match ← piped fuel with
      | [c] => pure c
      | cs => pure (.pipeline cs)
    return if negated then .inverse c else c

def connected (fuel : Nat) (first : Command) : Parse Command :=
  match fuel with
  | 0 => fail "too deep"
  | fuel + 1 => do
    match ← upcoming with
    | .sign "&&" =>
      pass
      skipNewlines ((← get).rest.length + 1)
      connected fuel (.both first (← pipeline fuel))
    | .sign "||" =>
      pass
      skipNewlines ((← get).rest.length + 1)
      connected fuel (.either first (← pipeline fuel))
    | _ => return first

def list (fuel : Nat) (mayBeEmpty : Bool) : Parse (List Command) :=
  match fuel with
  | 0 => fail "too deep"
  | fuel + 1 => do
    skipNewlines ((← get).rest.length + 1)
    let t ← upcoming
    if (mayBeEmpty && t.closes) || t = .finish then return []
    let c ← connected fuel (← pipeline fuel)
    match ← upcoming with
    | .sign ";" =>
      pass
      return c :: (← list fuel true)
    | .newline => return c :: (← list fuel true)
    | .sign "&" =>
      pass
      return .background c :: (← list fuel true)
    | _ => return [c]

def choice (fuel : Nat) : Parse Command :=
  match fuel with
  | 0 => fail "too deep"
  | fuel + 1 => do
    let inside : Inside := ⟨nested fuel true, nested fuel false⟩
    let condition ← list fuel false
    expect inside "then"
    let yes ← list fuel false
    match (← upcoming).keyword? with
    | some "elif" =>
      pass
      return .choice condition yes [← choice fuel]
    | some "else" =>
      pass
      let no ← list fuel false
      expect inside "fi"
      return .choice condition yes no
    | _ =>
      expect inside "fi"
      return .choice condition yes []

def loop (fuel : Nat) (negated : Bool) : Parse Command :=
  match fuel with
  | 0 => fail "too deep"
  | fuel + 1 => do
    let inside : Inside := ⟨nested fuel true, nested fuel false⟩
    let condition ← list fuel false
    expect inside "do"
    let body ← list fuel false
    expect inside "done"
    return .loop negated condition body

def turns (fuel : Nat) : Parse (List Command) :=
  match fuel with
  | 0 => fail "too deep"
  | fuel + 1 => do
    let inside : Inside := ⟨nested fuel true, nested fuel false⟩
    skipNewlines ((← get).rest.length + 1)
    let isBraced := (← isRich) && (← upcoming).keyword? = some "\x7b"
    if isBraced then pass else expect inside "do"
    let body ← list fuel false
    expect inside (if isBraced then "\x7d" else "done")
    return body

def count (fuel line : Nat) : Parse Command :=
  match fuel with
  | 0 => fail "too deep"
  | fuel + 1 => do
    let inside : Inside := ⟨nested fuel true, nested fuel false⟩
    let part : Parse Word := do
      let w ← scanPart inside ((← get).rest.length + 2) true [';'] ('(', ')') 0
      let _ ← take 1
      return w
    let _ ← take 2
    let first ← part
    let condition ← part
    let step ← scanSum inside ((← get).rest.length + 2) 0
    if (← upcoming) = .sign ";" then pass
    return .count line first condition step (← turns fuel)

def each (fuel line : Nat) (chooses : Bool) : Parse Command :=
  match fuel with
  | 0 => fail "too deep"
  | fuel + 1 => do
    let inside : Inside := ⟨nested fuel true, nested fuel false⟩
    let t ← upcoming
    if (← isRich) && !chooses && "((".toList.isPrefixOf (← get).rest then return ← count fuel line
    if (← isRich) && t matches .newline then unexpected inside none
    let name ← match t with
      | .word front _ =>
        let _ ← scanWord inside
        pure front
      | _ => pass; pure []
    if !isName name ∧ !(← isRich) then fail "Bad for loop variable"
    skipNewlines ((← get).rest.length + 1)
    let (words, written) ← if (← upcoming).keyword? = some "in" then
        pass
        let start ← get
        let ws ← scanWords inside (start.rest.length + 1)
        let after ← get
        let written := (start.rest.take (start.rest.length - after.rest.length)).dropWhile isBlankOctet
        match ← upcoming with
        | .newline => pure ()
        | .sign ";" => pass
        | _ => unexpected inside none
        pure (some ws, written)
      else
        if (← upcoming) = .sign ";" then pass
        pure (none, "\"$@\"".toList)
    let body ← turns fuel
    if chooses then return .menu line (String.ofList name) words written body
    else return .each line (String.ofList name) words written body

def select (fuel line : Nat) : Parse Command :=
  match fuel with
  | 0 => fail "too deep"
  | fuel + 1 => do
    let inside : Inside := ⟨nested fuel true, nested fuel false⟩
    match ← upcoming with
    | .word .. =>
      let start ← get
      let subject ← scanWord inside
      let after ← get
      skipNewlines (after.rest.length + 1)
      expect inside "in"
      return .select line subject (start.rest.take (start.rest.length - after.rest.length)) (← arms fuel)
    | _ => unexpected inside none

def arms (fuel : Nat) : Parse (List Arm) :=
  match fuel with
  | 0 => fail "too deep"
  | fuel + 1 => do
    let inside : Inside := ⟨nested fuel true, nested fuel false⟩
    skipNewlines ((← get).rest.length + 1)
    let t ← upcoming
    if t.keyword? = some "esac" then
      pass
      return []
    if t = .sign "(" then pass
    let patterns ← scanPatterns inside ((← get).rest.length + 1)
    let body ← list fuel true
    let t ← upcoming
    match t with
    | .sign ";;" =>
      pass
      return .mk patterns body .stop :: (← arms fuel)
    | .sign ";&" =>
      pass
      return .mk patterns body .next :: (← arms fuel)
    | .sign ";;&" =>
      pass
      return .mk patterns body .search :: (← arms fuel)
    | t =>
      if t.keyword? = some "esac" then
        pass
        return [.mk patterns body .stop]
      else unexpected inside (some "\";;\"")

end

def lineRest (fuel : Nat) (c : Command) : Parse (List Command) :=
  match fuel with
  | 0 => fail "too deep"
  | fuel + 1 => do
    let more (c : Command) : Parse (List Command) := do
      pass
      let t ← upcoming
      if t = .newline ∨ t = .finish then return [c]
      else return c :: (← lineRest fuel (← connected fuel (← pipeline fuel)))
    match ← upcoming with
    | .newline =>
      pass
      return [c]
    | .finish => return [c]
    | .sign ";" => more c
    | .sign "&" => more (.background c)
    | _ => unexpected ⟨nested fuel true, nested fuel false⟩ none

def complete : Parse (Option (List Command)) := do
  let fuel := 8 * (← get).rest.length + 16
  skipNewlines fuel
  if (← upcoming) = .finish then return none
  else return some (← lineRest fuel (← connected fuel (← pipeline fuel)))

end Parse

end PassDelta.Machine.Shell
