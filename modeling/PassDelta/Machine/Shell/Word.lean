import PassDelta.Machine.Shell.Command
import PassDelta.Machine.Shell.Pattern
/-!
# Scanning words

Words are taken from what is left of a script, and the lines are counted. Commands inside a word are read by a
function that is given.
-/

namespace PassDelta.Machine.Shell

/-- How a script is read: in which language, whether patterns may hold groups of patterns, whether octets are parts of
longer characters, and the texts that names of commands stand for. -/
structure Manner where
  dialect : Dialect
  grouping : Bool
  wide : Bool
  aliases : List (Octets × Octets)
  deriving DecidableEq, Repr

/-- What is left of a script, the line it is on, and how many lines were taken out behind the end of this one. The
names whose texts are being read stand with what is left behind those texts, and so does a place from which the next
word may be such a name too. Warnings are kept with their lines, latest first. -/
structure Scan where
  rest : Octets
  line : Nat
  owed : Nat
  manner : Manner
  busy : List (Octets × Nat)
  checks : Option Nat
  warnings : List (Nat × Octets)
  deriving DecidableEq, Repr

def Scan.ofText (manner : Manner) (line : Nat) (text : Octets) : Scan := ⟨text, line, 0, manner, [], none, []⟩

def Scan.dialect (s : Scan) : Dialect := s.manner.dialect

/-- Why a script cannot be read, and where; `quotes` when the messages go on with that line of the script. -/
structure Fault where
  line : Nat
  texts : List Octets
  quotes : Bool
  deriving DecidableEq, Repr

abbrev Parse := StateT Scan (Except Fault)

namespace Parse

def isRich : Parse Bool := do return (← get).dialect = .rich

def fail {α : Type} (text : String) : Parse α := do throw ⟨(← get).line, [("Syntax error: " ++ text).toList], false⟩

/-- Refuses a script that ends where something is still open, begun on a line. -/
def unclosed {α : Type} (line : Nat) (close : Char) (text : String) : Parse α := do
  if ← isRich then
    throw ⟨line, ["unexpected EOF while looking for matching `".toList ++ [close, '\'']], false⟩
  else fail text

def peek : Parse (Option Char) := do return (← get).rest.head?

def Scan.past (s : Scan) (taken : Octets) : Scan :=
  let ends := taken.count '\n'
  { s with
    rest := s.rest.drop taken.length
    line := s.line + ends + (if ends = 0 then 0 else s.owed)
    owed := if ends = 0 then s.owed else 0 }

def take (n : Nat) : Parse Octets := do
  let s ← get
  set (Scan.past s (s.rest.take n))
  return s.rest.take n

def takeWhile (p : Char → Bool) : Parse Octets := do take ((← get).rest.takeWhile p).length

def sees (text : String) : Parse Bool := do return text.toList.isPrefixOf (← get).rest

def took (text : String) : Parse Bool := do
  if ← sees text then
    let _ ← take text.length
    return true
  else return false

end Parse

def endsWord (c : Char) : Bool :=
  c = ' ' || c = '\t' || c = '\n' || c = ';' || c = '&' || c = '|' || c = '<' || c = '>' || c = '(' || c = ')'

def isSpecialName (c : Char) : Bool :=
  c = '@' || c = '*' || c = '#' || c = '?' || c = '$' || c = '!' || c = '-' || c.isDigit

/-- A command between backquotes: its text, in which a backslash may protect a few octets, and what follows. -/
def backquoted (quoted : Bool) : Octets → Option (Octets × Octets)
  | [] => none
  | '`' :: rest => some ([], rest)
  | '\\' :: c :: rest =>
    (backquoted quoted rest).map fun (cs, r) =>
      (if c = '$' ∨ c = '`' ∨ c = '\\' ∨ (quoted ∧ c = '"') then (c :: cs, r) else ('\\' :: c :: cs, r))
  | c :: rest => (backquoted quoted rest).map fun (cs, r) => (c :: cs, r)

namespace Parse

/-- How the commands inside a word are read: through the bracket that closes them, or a script of their own. -/
structure Inside where
  bracketed : Parse (List Command)
  whole : Parse (List Command)

/-- The output of commands in backquotes, after the first. Their lines are counted from one, or from that on which they
end. -/
def scanBackquoted (inside : Inside) (quoted : Bool) : Parse Piece := do
  let s ← get
  match backquoted quoted s.rest with
  | some (script, rest) =>
    let _ ← take (s.rest.length - rest.length)
    let after ← get
    let line := if s.dialect = .rich then after.line else 1
    match inside.whole.run (.ofText s.manner line script) with
    | .ok (body, _) => return .output quoted body
    | .error e => throw e
  | none =>
    let _ ← take s.rest.length
    unclosed s.line '`' "EOF in backquote substitution"

def scanName : Parse String := do
  match ← peek with
  | none => return ""
  | some c =>
    if isNameStart c then return String.ofList (← takeWhile isNameChar)
    else if c.isDigit then return String.ofList (← takeWhile Char.isDigit)
    else if isSpecialName c then return String.ofList (← take 1)
    else return ""

def scanForm : Parse Form := do
  if ← sees "\x7d" then return .value
  if ← took "%%" then return .trimEnd true
  if ← took "%" then return .trimEnd false
  if ← took "##" then return .trimStart true
  if ← took "#" then return .trimStart false
  let loose ← took ":"
  if ← took "-" then return .default loose
  if ← took "=" then return .assign loose
  if ← took "?" then return .require loose
  if ← took "+" then return .replace loose
  return .bad []

def Form.isTrim : Form → Bool
  | .trimStart _ => true
  | .trimEnd _ => true
  | _ => false

def scanSingle : Parse Piece := do
  let line := (← get).line
  let run ← takeWhile fun d => d ≠ '\''
  if ← took "'" then return .text true run
  else unclosed line '\'' "Unterminated quoted string"

/-- The octets that an escape between dollared quotes means, and what follows; a backslash before anything else stands
for itself. -/
def resolveEscape (wide : Bool) : Octets → Octets × Octets
  | [] => (['\\'], [])
  | c :: rest =>
    let coded (most : Nat) : Octets × Octets :=
      let ds := (rest.take most).takeWhile fun d => (digitValue? d).isSome
      if ds.isEmpty then (['\\', c], rest) else (codedOctets wide (valueIn 16 ds), rest.drop ds.length)
    if isOctal c then
      let (code, rest') := readOctal 3 (c :: rest)
      ([Char.ofNat (code % 256)], rest')
    else match c with
      | 'x' =>
        let (out, rest') := coded 2
        let ds := rest.take (rest.length - rest'.length)
        (if ds.isEmpty then out else [Char.ofNat (valueIn 16 ds)], rest')
      | 'u' => coded 4
      | 'U' => coded 8
      | 'c' => match rest with
        | d :: more => ([Char.ofNat (d.toUpper.toNat % 32)], more)
        | [] => (['\\', 'c'], [])
      | 'E' => ([Char.ofNat 27], rest)
      | '?' => (['?'], rest)
      | '"' => (['"'], rest)
      | '\'' => (['\''], rest)
      | c => match letterEscapes.lookup c with
        | some d => ([d], rest)
        | none => (['\\', c], rest)
where
  letterEscapes : List (Char × Char) := [('\\', '\\'), ('a', Char.ofNat 7), ('b', Char.ofNat 8), ('e', Char.ofNat 27),
    ('f', Char.ofNat 12), ('n', '\n'), ('r', '\r'), ('t', '\t'), ('v', Char.ofNat 11)]

def scanEscaped (fuel : Nat) : Parse Octets :=
  match fuel with
  | 0 => fail "too deep"
  | fuel + 1 => do
    match ← peek with
    | none => unclosed (← get).line '\'' "Unterminated quoted string"
    | some c =>
      let _ ← take 1
      if c = '\'' then return []
      else if c = '\\' then
        let s ← get
        let (out, rest) := resolveEscape s.manner.wide s.rest
        let _ ← take (s.rest.length - rest.length)
        return out ++ (← scanEscaped fuel)
      else return c :: (← scanEscaped fuel)

/-- The operator of a parameter of the rich shell, after the name. None before the closing brace. -/
def scanRichForm : Parse (Option Form) := do
  if ← took "//" then return some (.substitute .anywhere true)
  if ← took "/#" then return some (.substitute .start false)
  if ← took "/%" then return some (.substitute .finish false)
  if ← took "/" then return some (.substitute .anywhere false)
  if ← took "^^" then return some (.recase .upper true)
  if ← took "^" then return some (.recase .upper false)
  if ← took ",," then return some (.recase .lower true)
  if ← took "," then return some (.recase .lower false)
  if ← took "~~" then return some (.recase .other true)
  if ← took "~" then return some (.recase .other false)
  match (← get).rest with
  | '@' :: letter :: '\x7d' :: _ =>
    if letter.isAlpha then
      let _ ← take 2
      return some (.shown letter)
    else return none
  | ':' :: c :: _ =>
    if c = '-' ∨ c = '=' ∨ c = '?' ∨ c = '+' then return none
    else
      let _ ← take 1
      return some (.slice false)
  | _ => return none

mutual

def scanDollar (inside : Inside) (fuel : Nat) (quoted : Bool) : Parse Piece :=
  match fuel with
  | 0 => fail "too deep"
  | fuel + 1 => do
    if ← took "((" then return .sum quoted (← scanSum inside fuel 0)
    if ← took "(" then return .output quoted (← inside.bracketed)
    if ← took "\x7b" then
      if ← isRich then return ← scanRich inside fuel quoted else return ← scanBraced inside fuel quoted
    if (← isRich) && !quoted then
      if ← took "'" then return .text true (← scanEscaped (2 * (← get).rest.length + 2))
    match ← peek with
    | none => return .text quoted ['$']
    | some c =>
      if isNameStart c then return .parameter quoted (.name (String.ofList (← takeWhile isNameChar))) .value [] []
      else if isSpecialName c then return .parameter quoted (.name (String.ofList (← take 1))) .value [] []
      else return .text quoted ['$']

def scanBraced (inside : Inside) (fuel : Nat) (quoted : Bool) : Parse Piece :=
  match fuel with
  | 0 => fail "too deep"
  | fuel + 1 => do
    let s ← get
    if ← took "#" then
      let name ← scanName
      if name ≠ "" then
        if ← took "\x7d" then return .parameter quoted (.name name) .length [] []
      set s
    let name ← scanName
    let form ← scanForm
    let argument ← scanArgument inside fuel (quoted && !Form.isTrim form)
    return .parameter quoted (.name name) (if name = "" then .bad [] else form) argument []

def scanSubject (inside : Inside) (fuel : Nat) : Parse (Option Subject) :=
  match fuel with
  | 0 => fail "too deep"
  | fuel + 1 => do
    let name ← scanName
    if name = "" then return none
    if name.toList.head?.any isNameStart then
      if ← took "[@]" then return some (.all name false)
      if ← took "[*]" then return some (.all name true)
      if ← took "[" then
        let index ← scanPart inside fuel false [']'] ('[', ']') 0
        let _ ← take 1
        return some (.element name index)
    return some (.name name)

def scanRich (inside : Inside) (fuel : Nat) (quoted : Bool) : Parse Piece :=
  match fuel with
  | 0 => fail "too deep"
  | fuel + 1 => do
    let start ← get
    if ← took "#" then
      match ← scanSubject inside fuel with
      | some subject => if ← took "\x7d" then return .parameter quoted subject .length [] []
      | none => pure ()
      set start
    let goesOn : Bool := match start.rest with
      | '!' :: c :: _ => isNameStart c || isSpecialName c && c ≠ '-'
      | _ => false
    if goesOn then
      let _ ← take 1
    let found ← scanSubject inside fuel
    match found with
    | some (.all x joined) =>
      if goesOn then
        if ← took "\x7d" then return .parameter quoted (.all x joined) .keys [] []
    | some (.name x) =>
      if goesOn then
        if ← took "@\x7d" then return .parameter quoted (.all x false) .names [] []
        if ← took "*\x7d" then return .parameter quoted (.all x true) .names [] []
    | _ => pure ()
    let subject : Subject := match found with
      | some s => if goesOn then .indirect s else s
      | none => .name ""
    let form? : Option Form ← if found.isNone then pure none else scanRichForm
    match form? with
    | some (.substitute anchor all) =>
      let pattern ← scanPart inside fuel false ['/', '\x7d'] ('\x00', '\x00') 0
      let slash ← took "/"
      let by_ ← scanArgument inside fuel false
      return .parameter quoted subject (.substitute anchor all) pattern (if slash then by_ else [])
    | some (.slice _) =>
      let place ← scanPart inside fuel true [':', '\x7d'] ('?', ':') 0
      let bounded ← took ":"
      let length ← scanArgument inside fuel true
      return .parameter quoted subject (.slice bounded) place length
    | some form => return .parameter quoted subject form (← scanArgument inside fuel false) []
    | none =>
      let form ← scanForm
      let argument ← scanArgument inside fuel (quoted && !Form.isTrim form)
      let now ← get
      let isBad : Bool := match form with
        | .bad _ => true
        | _ => found.isNone
      let written := "$\x7b".toList ++ start.rest.take (start.rest.length - now.rest.length)
      return .parameter quoted subject (if isBad then .bad written else form) argument []

/-- A part of a parameter up to one of some octets, which stays. What stands between a pair of octets belongs to it. -/
def scanPart (inside : Inside) (fuel : Nat) (quoted : Bool) (stops : List Char) (pair : Char × Char) (depth : Nat) :
    Parse Word :=
  match fuel with
  | 0 => fail "too deep"
  | fuel + 1 => do
    let more (depth : Nat) : Parse Word := scanPart inside fuel quoted stops pair depth
    match ← peek with
    | none => unclosed (← get).line (stops.getLastD '\x7d') "Missing '\x7d'"
    | some c =>
      if depth = 0 ∧ stops.contains c then return []
      let _ ← take 1
      if c = '$' then return (← scanDollar inside fuel quoted) :: (← more depth)
      else if c = '`' then return (← scanBackquoted inside quoted) :: (← more depth)
      else if c = '"' then return .text true [] :: (← scanQuoted inside fuel) ++ (← more depth)
      else if c = '\'' ∧ !quoted then return (← scanSingle) :: (← more depth)
      else if c = '\\' then
        let escaped ← take 1
        if escaped = ['\n'] then more depth else return .text true escaped :: (← more depth)
      else
        let depth := if c = pair.1 then depth + 1 else if c = pair.2 then depth - 1 else depth
        return .text quoted [c] :: (← more depth)

def scanArgument (inside : Inside) (fuel : Nat) (quoted : Bool) : Parse Word :=
  match fuel with
  | 0 => fail "too deep"
  | fuel + 1 => do
    match ← peek with
    | none => unclosed (← get).line '\x7d' (if quoted then "Unterminated quoted string" else "Missing '\x7d'")
    | some c =>
      let _ ← take 1
      if c = '\x7d' then return []
      else if c = '$' then return (← scanDollar inside fuel quoted) :: (← scanArgument inside fuel quoted)
      else if c = '`' then return (← scanBackquoted inside quoted) :: (← scanArgument inside fuel quoted)
      else if c = '"' then return .text true [] :: (← scanQuoted inside fuel) ++ (← scanArgument inside fuel quoted)
      else if c = '\'' ∧ !quoted then return (← scanSingle) :: (← scanArgument inside fuel quoted)
      else if c = '\\' then
        let escaped ← take 1
        if escaped = ['\n'] then scanArgument inside fuel quoted
        else
          let kept := quoted && !(escaped.all fun d => d = '"' || d = '\\' || d = '$' || d = '`' || d = '\x7d')
          return .text true (if kept then '\\' :: escaped else escaped) :: (← scanArgument inside fuel quoted)
      else return .text quoted [c] :: (← scanArgument inside fuel quoted)

def scanSum (inside : Inside) (fuel depth : Nat) : Parse Word :=
  match fuel with
  | 0 => fail "too deep"
  | fuel + 1 => do
    if depth = 0 then
      if ← took "))" then return []
    match ← peek with
    | none => unclosed (← get).line ')' "Missing '))'"
    | some c =>
      let _ ← take 1
      if c = '$' then return (← scanDollar inside fuel true) :: (← scanSum inside fuel depth)
      else if c = '"' ∧ (← isRich) then scanSum inside fuel depth
      else if c = '`' then return (← scanBackquoted inside true) :: (← scanSum inside fuel depth)
      else
        let depth := if c = '(' then depth + 1 else if c = ')' then depth - 1 else depth
        return .text true [c] :: (← scanSum inside fuel depth)

def scanQuoted (inside : Inside) (fuel : Nat) : Parse Word :=
  match fuel with
  | 0 => fail "too deep"
  | fuel + 1 => do
    match ← peek with
    | none => unclosed (← get).line '"' "Unterminated quoted string"
    | some c =>
      if c = '"' ∨ c = '$' ∨ c = '`' ∨ c = '\\' then
        let _ ← take 1
        if c = '"' then return []
        else if c = '$' then return (← scanDollar inside fuel true) :: (← scanQuoted inside fuel)
        else if c = '`' then return (← scanBackquoted inside true) :: (← scanQuoted inside fuel)
        else
          let escaped ← take 1
          if escaped = ['\n'] then scanQuoted inside fuel
          else
            let plain := escaped.all fun d => d = '"' || d = '\\' || d = '$' || d = '`'
            return .text true (if plain then escaped else '\\' :: escaped) :: (← scanQuoted inside fuel)
      else
        let run ← takeWhile fun d => d ≠ '"' && d ≠ '$' && d ≠ '`' && d ≠ '\\'
        return .text true run :: (← scanQuoted inside fuel)

end

def scanPieces (inside : Inside) (fuel : Nat) : Parse Word :=
  match fuel with
  | 0 => fail "too deep"
  | fuel + 1 => do
    let s ← get
    match s.rest with
    | [] => return []
    | c :: rest =>
      if endsWord c then
        if s.dialect = .rich ∧ (c = '<' ∨ c = '>') ∧ rest.head? = some '(' then
          let _ ← take 2
          return .stream (c = '<') (← inside.bracketed) :: (← scanPieces inside fuel)
        else return []
      else if c = '\'' ∨ c = '"' ∨ c = '$' ∨ c = '`' ∨ c = '\\' then
        let _ ← take 1
        if c = '\'' then return .text true [] :: (← scanSingle) :: (← scanPieces inside fuel)
        else if c = '"' then return .text true [] :: (← scanQuoted inside fuel) ++ (← scanPieces inside fuel)
        else if c = '$' then
          if s.dialect = .rich ∧ rest.head? = some '"' then scanPieces inside fuel
          else
            let piece ← scanDollar inside fuel false
            let mark : Word := if s.dialect = .rich ∧ rest.head? = some '\'' then [.text true []] else []
            return mark ++ piece :: (← scanPieces inside fuel)
        else if c = '`' then return (← scanBackquoted inside false) :: (← scanPieces inside fuel)
        else
          let escaped ← take 1
          if escaped = ['\n'] then scanPieces inside fuel
          else return .text true (if escaped.isEmpty then ['\\'] else escaped) :: (← scanPieces inside fuel)
      else
        let run ← takeWhile fun d =>
          !endsWord d && d ≠ '\'' && d ≠ '"' && d ≠ '$' && d ≠ '`' && d ≠ '\\'
        if s.manner.grouping ∧ run.getLast?.any beginsGroup ∧ (← sees "(") then
          let _ ← take 1
          let group ← scanPart inside fuel false [')'] ('(', ')') 0
          let _ ← take 1
          return .text false (run ++ ['(']) :: group ++ .text false [')'] :: (← scanPieces inside fuel)
        else return .text false run :: (← scanPieces inside fuel)

def scanWord (inside : Inside) : Parse Word := do scanPieces inside ((← get).rest.length + 2)

/-- The lines of a text as in double quotes, but with quotes that are only themselves. -/
def scanLoose (inside : Inside) (fuel : Nat) : Parse Word :=
  match fuel with
  | 0 => fail "too deep"
  | fuel + 1 => do
    match ← peek with
    | none => return []
    | some c =>
      if c = '$' ∨ c = '`' ∨ c = '\\' then
        let _ ← take 1
        if c = '$' then return (← scanDollar inside fuel true) :: (← scanLoose inside fuel)
        else if c = '`' then return (← scanBackquoted inside true) :: (← scanLoose inside fuel)
        else
          let escaped ← take 1
          if escaped = ['\n'] then scanLoose inside fuel
          else
            let plain := !escaped.isEmpty && escaped.all fun d => d = '\\' || d = '$' || d = '`'
            return .text true (if plain then escaped else '\\' :: escaped) :: (← scanLoose inside fuel)
      else
        let run ← takeWhile fun d => d ≠ '$' && d ≠ '`' && d ≠ '\\'
        return .text true run :: (← scanLoose inside fuel)

end Parse

end PassDelta.Machine.Shell
