import PassDelta.Machine.Records.Pattern
import PassDelta.Machine.Records.Value
/-!
# Tokens of programs over records

What a program is made of, each token with its line. A slash begins a pattern where no operand stands before it,
and lines that end where more must follow are joined.
-/

namespace PassDelta.Machine.Records

inductive Token where
  | number (x : Binary64) (written : Octets)
  | text (cs : Octets)
  | pattern (cs : Octets)
  | name (x : String) (called : Bool)
  | word (x : String)
  | sign (s : String)
  | newline
  | finish
  deriving DecidableEq, Repr

inductive Fault where
  | near (text : Octets)
  | missing (mark : Char) (text : Octets)
  | extra (mark : Char)
  | unexpected (c : Char)
  | runaway (what : String) (text : Octets)
  | pattern (reason : String) (text : Octets)
  | overflow (number : Octets)
  | underflow (number : Octets)
  | illegal (isTable isLocal : Bool) (name : String)
  /-- An argument is a table where the function has a value, or a value where it has a table. -/
  | argument (place : Nat) (callee : String) (isTable : Bool)
  | noArguments (name : String)
  | argumentCount (name : String)
  | undefined (name : String)
  | surplus (name : String)
  | redefined (name : String)
  | duplicated (name : String)
  | misplaced (word : String)
  | outsideFunction
  | outsideLoop (word : String)
  deriving DecidableEq, Repr

def Fault.message : Fault → Octets
  | .near text => "syntax error at or near ".toList ++ text
  | .missing mark text => "missing ".toList ++ [mark] ++ " near ".toList ++ text
  | .extra mark => "extra '".toList ++ [mark, '\'']
  | .unexpected c => "unexpected character '".toList ++ [c, '\'']
  | .runaway what text => ("runaway " ++ what ++ " ").toList ++ text ++ " ...".toList
  | .pattern reason text => ("regular expression compile failed (" ++ reason ++ ")\n").toList ++ text
  | .overflow number => number ++ " : decimal overflow".toList
  | .underflow number => number ++ " : decimal underflow".toList
  | .illegal isTable isLocal name =>
    ("illegal reference to " ++ kind isTable isLocal ++ " " ++ name).toList
  | .argument place callee isTable =>
    ("type error in arg(" ++ toString place ++ ") in call to " ++ callee ++ " (actual " ++ kind isTable true ++ " vs " ++
      kind (!isTable) true ++ ")").toList
  | .noArguments name => ("no arguments in call to " ++ name).toList
  | .argumentCount name => ("wrong number of arguments in call to " ++ name).toList
  | .undefined name => ("function " ++ name ++ " never defined").toList
  | .surplus name => ("too many arguments in call to " ++ name).toList
  | .redefined name => ("redefinition of " ++ name).toList
  | .duplicated name => (name ++ " is duplicated in argument list").toList
  | .misplaced word => ("improper use of " ++ word).toList
  | .outsideFunction => "return outside function body".toList
  | .outsideLoop word => (word ++ " statement outside of loop").toList
where
  kind (isTable isLocal : Bool) : String := (if isLocal then "local " else "") ++ if isTable then "array" else "variable"

def Token.shown : Token → Octets
  | .number _ written => written
  | .text cs => cs
  | .pattern cs => ['/'] ++ cs ++ ['/']
  | .name x _ => if x = "NF" then ['$'] else x.toList
  | .word x => x.toList
  | .sign s => s.toList
  | .newline => "end of line".toList
  | .finish => "end of file".toList

structure Marked where
  token : Token
  line : Nat
  parens : Nat
  deriving DecidableEq, Repr

structure Located where
  line : Nat
  fault : Fault
  deriving DecidableEq, Repr

def statementWords : List String := ["BEGIN", "END", "func", "function", "if", "else", "while", "for", "do", "break", "continue",
  "next", "nextfile", "exit", "return", "delete", "in", "getline", "print", "printf"]

/-- The functions that every program has, with the least and most arguments they take. -/
def builtinArity : List (String × Nat × Nat) := [
  ("length", 0, 1), ("substr", 2, 3), ("index", 2, 2), ("split", 2, 3), ("sub", 2, 3), ("gsub", 2, 3), ("match", 2, 2),
  ("sprintf", 1, 255), ("sin", 1, 1), ("cos", 1, 1), ("atan2", 2, 2), ("exp", 1, 1), ("log", 1, 1), ("sqrt", 1, 1),
  ("int", 1, 1), ("rand", 0, 0), ("srand", 0, 1), ("tolower", 1, 1), ("toupper", 1, 1), ("system", 1, 1), ("close", 1, 1),
  ("fflush", 0, 1), ("systime", 0, 0), ("mktime", 1, 1), ("strftime", 0, 3)]

def isBuiltin (x : String) : Bool := builtinArity.any (·.1 = x)

def tokenSigns : List String := [
  "&&", "||", "++", "--", "+=", "-=", "*=", "/=", "%=", "^=", "==", "!=", "<=", ">=", ">>", "!~",
  "+", "-", "*", "/", "%", "^", "!", ">", "<", "|", "?", ":", "~", "$", "=", "(", ")", "[", "]", ",", ";", "\x7b", "\x7d"]

def Token.endsOperand : Token → Bool
  | .number .. => true
  | .text _ => true
  | .pattern _ => true
  | .name .. => true
  | .word x => isBuiltin x
  | .sign s => s = ")" || s = "]" || s = "++" || s = "--"
  | _ => false

def Token.joinsLines : Token → Bool
  | .newline => true
  | .word x => x = "else" || x = "do"
  | .sign s => s = "\x7b" || s = "&&" || s = "||" || s = "," || s = ";" || s = "\x7d"
  | _ => false

/-- The inside of a text between double quotes with its escapes resolved, and what follows it. -/
def scanText : Nat → Octets → Option (Octets × Octets)
  | 0, _ => none
  | _ + 1, [] => none
  | fuel + 1, c :: rest =>
    if c = '"' then some ([], rest)
    else if c = '\n' then none
    else if c ≠ '\\' then (scanText fuel rest).map fun (cs, r) => (c :: cs, r)
    else match rest with
      | '\n' :: more => scanText fuel more
      | '/' :: more => (scanText fuel more).map fun (cs, r) => ('\\' :: '/' :: cs, r)
      | rest =>
        match escape? rest, rest with
        | some (d, more), _ => (scanText fuel more).map fun (cs, r) => (d :: cs, r)
        | none, d :: more => (scanText fuel more).map fun (cs, r) => ('\\' :: d :: cs, r)
        | none, [] => none

/-- The inside of a pattern up to the slash that ends it, which is in no set, and what follows it. -/
def scanPattern : Nat → Bool → Octets → Option (Octets × Octets)
  | 0, _, _ => none
  | fuel + 1, inSet, cs =>
    match cs with
    | [] => none
    | '\n' :: _ => none
    | '/' :: rest => if inSet then (scanPattern fuel inSet rest).map fun (p, r) => ('/' :: p, r) else some ([], rest)
    | '\\' :: '/' :: rest => (scanPattern fuel inSet rest).map fun (p, r) => ('/' :: p, r)
    | '\\' :: c :: rest => if c = '\n' then none else (scanPattern fuel inSet rest).map fun (p, r) => ('\\' :: c :: p, r)
    | '[' :: rest =>
      if inSet then (scanPattern fuel true rest).map fun (p, r) => ('[' :: p, r)
      else
        let front := if rest.head? = some '^' then rest.take 1 else []
        let rest := rest.drop front.length
        let first := if rest.head? = some ']' then rest.take 1 else []
        (scanPattern fuel true (rest.drop first.length)).map fun (p, r) => ('[' :: front ++ first ++ p, r)
    | c :: rest => (scanPattern fuel (inSet && c ≠ ']') rest).map fun (p, r) => (c :: p, r)

def scanNumber (cs : Octets) : Octets × Octets :=
  let whole := cs.takeWhile Char.isDigit
  let point := match cs.drop whole.length with
    | '.' :: more => '.' :: more.takeWhile Char.isDigit
    | _ => []
  let mantissa := whole ++ point
  let power := match cs.drop mantissa.length with
    | e :: more =>
      if e = 'e' ∨ e = 'E' then
        let sign := more.take 1 |>.filter fun c => c = '+' || c = '-'
        let ds := (more.drop sign.length).takeWhile Char.isDigit
        if ds.isEmpty then [] else e :: sign ++ ds
      else []
    | [] => []
  (mantissa ++ power, cs.drop (mantissa.length + power.length))

def isNameStart (c : Char) : Bool := c.isAlpha || c = '_'

def isNameChar (c : Char) : Bool := c.isAlphanum || c = '_'

/-- The tokens of a program from a line on, behind another token; `parens` and `braces` are the brackets that are
open. What was read before a fault is kept. -/
def tokens : Nat → Nat → Nat → Nat → Token → Octets → List Marked × List Located
  | 0, line, parens, _, _, _ => ([⟨.finish, line, parens⟩], [])
  | fuel + 1, line, parens, braces, last, cs =>
    let depth := parens
    let emit (t : Token) (rest : Octets) (parens braces : Nat) : List Marked × List Located :=
      let (more, fault) := tokens fuel line parens braces t rest
      (⟨t, line, depth⟩ :: more, fault)
    match cs with
    | [] => ([⟨.finish, line, parens⟩], [])
    | c :: rest =>
      if c = ' ' ∨ c = '\t' ∨ c = '\r' ∨ c.toNat = 12 ∨ c.toNat = 11 then tokens fuel line parens braces last rest
      else if c = '#' then tokens fuel line parens braces last (rest.dropWhile (· ≠ '\n'))
      else if c = '\\' ∧ rest.head? = some '\n' then tokens fuel (line + 1) parens braces last rest.tail
      else if c = '\n' then
        if last.joinsLines then tokens fuel (line + 1) parens braces last rest
        else
          let (more, fault) := tokens fuel (line + 1) parens braces .newline rest
          (⟨.newline, line, parens⟩ :: more, fault)
      else if c = '"' then
        match scanText (rest.length + 1) rest with
        | some (text, after) =>
          let used := rest.take (rest.length - after.length)
          let (more, fault) := tokens fuel (line + used.count '\n') parens braces (.text []) after
          (⟨.text text, line, parens⟩ :: more, fault)
        | none => ([], [⟨line, .runaway "string constant" (c :: (rest.takeWhile (· ≠ '\n')).take 9)⟩])
      else if c.isDigit ∨ (c = '.' ∧ rest.head?.any Char.isDigit) then
        let (written, after) := scanNumber cs
        let x := numberAt written
        let (more, faults) := emit (.number x written) after parens braces
        let isZero := (written.takeWhile fun c => c ≠ 'e' ∧ c ≠ 'E').all fun c => c = '0' ∨ c = '.'
        if x.isInfinite ∨ (x.word < twoTo 52 ∧ !isZero) then
          (more, ⟨line, if x.isZero then .underflow written else .overflow written⟩ :: faults)
        else (more, faults)
      else if isNameStart c then
        let x := String.ofList (c :: rest.takeWhile isNameChar)
        let after := rest.dropWhile isNameChar
        if statementWords.contains x ∨ isBuiltin x then emit (.word (if x = "func" then "function" else x)) after parens braces
        else emit (.name x (after.head? = some '(')) after parens braces
      else if c = '/' ∧ !last.endsOperand then
        match scanPattern (rest.length + 1) false rest with
        | some (text, after) => emit (.pattern text) after parens braces
        | none => ([], [⟨line, .runaway "regular expression" (c :: (rest.takeWhile (· ≠ '\n')).take 9)⟩])
      else match tokenSigns.find? fun s => s.toList.isPrefixOf cs with
        | none => ([], [⟨line, .unexpected c⟩])
        | some s =>
          let after := cs.drop s.length
          match s with
          | "(" => emit (.sign s) after (parens + 1) braces
          | ")" => if parens = 0 then ([], [⟨line, .extra ')'⟩]) else emit (.sign s) after (parens - 1) braces
          | "\x7b" => emit (.sign s) after parens (braces + 1)
          | "\x7d" => if braces = 0 then ([], [⟨line, .extra '\x7d'⟩]) else emit (.sign s) after parens (braces - 1)
          | s => emit (.sign s) after parens braces

def openBraces (ts : List Marked) : Nat :=
  ts.foldl (fun n t => if t.token = .sign "\x7b" then n + 1 else if t.token = .sign "\x7d" then n - 1 else n) 0

end PassDelta.Machine.Records
