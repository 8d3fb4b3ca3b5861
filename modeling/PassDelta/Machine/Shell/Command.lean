import PassDelta.Machine.Numeral
/-!
# Commands and words of the shells

The tree of a script. Words and commands stand inside each other: a command is made of words, and a word may hold
the output of commands. There are two shells: a plain one, and one with a richer language.
-/

namespace PassDelta.Machine.Shell

/-- The language of a script. The rich one has tables of values, conditions and sums as commands, and more forms of
words. -/
inductive Dialect where
  | plain
  | rich
  deriving DecidableEq, Repr

inductive Anchor where
  | anywhere
  | start
  | finish
  deriving DecidableEq, Repr

inductive Recase where
  | upper
  | lower
  | other
  deriving DecidableEq, Repr

/-- What is asked of a parameter. The forms with a word of their own treat an empty value like none when `loose`;
trimming takes away the longest or shortest part that a pattern covers. Only the rich shell has those after it. -/
inductive Form where
  | value
  | length
  | default (loose : Bool)
  | assign (loose : Bool)
  | require (loose : Bool)
  | replace (loose : Bool)
  | trimStart (longest : Bool)
  | trimEnd (longest : Bool)
  | slice (bounded : Bool)
  | substitute (anchor : Anchor) (all : Bool)
  | recase (how : Recase) (all : Bool)
  | keys
  | names
  | shown (letter : Char)
  | bad (written : Octets)
  deriving DecidableEq, Repr

/-- How a file is opened. Only `replace` empties one that must not be clobbered. -/
inductive Mode where
  | read
  | write
  | replace
  | append
  | both
  deriving DecidableEq, Repr

/-- What is run after an arm of a selection: nothing, the next arm, or the next one that fits. -/
inductive After where
  | stop
  | next
  | search
  deriving DecidableEq, Repr

mutual

/-- A part of a word: text, a parameter, a sum, or the output of commands, each in quotes or not; a path that leads
to commands; and, in words that assign, an assignment or the elements of a table. What is shown before it is run is kept as it is
written. -/
inductive Piece where
  | text (quoted : Bool) (cs : Octets)
  | parameter (quoted : Bool) (subject : Subject) (form : Form) (argument extra : List Piece)
  | sum (quoted : Bool) (body : List Piece)
  | output (quoted : Bool) (body : List Command)
  | stream (reads : Bool) (body : List Command)
  | assigning (a : Assignment)
  | elements (written : Octets) (items : List (Option (List Piece) × List Piece))

/-- What a parameter names: a variable, an element of a table, all elements, or what another one's value names. -/
inductive Subject where
  | name (x : String)
  | element (x : String) (index : List Piece)
  | all (x : String) (joined : Bool)
  | indirect (s : Subject)

inductive Assignment where
  | mk (name : String) (index : Option (List Piece)) (appends : Bool) (value : List Piece)

/-- What a stream is led to: a file, another stream, or a text of the script. `all` leads both the output and the
errors to a file. -/
inductive Target where
  | file (mode : Mode) (path : List Piece)
  | copy (source : List Piece)
  | text (body : List Piece)
  | all (appends : Bool) (path : List Piece)

inductive Check where
  | holds (w : List Piece)
  | one (operator : String) (w : List Piece)
  | two (operator : String) (a b : List Piece)
  | inverse (c : Check)
  | both (a b : Check)
  | either (a b : Check)

inductive Arm where
  | mk (patterns : List (List Piece)) (body : List Command) (after : After)

inductive Command where
  | simple (line : Nat) (assignments : List Assignment) (words : List (List Piece)) (redirects : List (Nat × Target))
  | pipeline (parts : List Command)
  | both (first second : Command)
  | either (first second : Command)
  | inverse (c : Command)
  | background (c : Command)
  | list (body : List Command)
  | subshell (line : Nat) (body : List Command)
  | redirected (line : Nat) (c : Command) (redirects : List (Nat × Target))
  | choice (condition yes no : List Command)
  | loop (negated : Bool) (condition body : List Command)
  | each (line : Nat) (name : String) (words : Option (List (List Piece))) (written : Octets) (body : List Command)
  | select (line : Nat) (subject : List Piece) (written : Octets) (arms : List Arm)
  | menu (line : Nat) (name : String) (words : Option (List (List Piece))) (written : Octets) (body : List Command)
  | define (name : String) (body : Command)
  | check (line : Nat) (c : Check)
  | compute (line : Nat) (body : List Piece)
  | count (line : Nat) (first condition step : List Piece) (body : List Command)
  | timed (c : Command)

end

abbrev Word := List Piece

abbrev Redirect := Nat × Target

def isNameStart (c : Char) : Bool := c.isAlpha || c = '_'

def isNameChar (c : Char) : Bool := c.isAlphanum || c = '_'

def isName (cs : List Char) : Bool := cs.head?.any isNameStart && cs.all isNameChar

def Piece.bare? : Piece → Option Octets
  | .text false cs => some cs
  | _ => none

def bare? (w : Word) : Option String := (w.mapM Piece.bare?).map fun parts => String.ofList parts.flatten

def assignment? : Word → Option (String × Word)
  | .text false cs :: rest =>
    match cs.span (fun c => c ≠ '=') with
    | (name, _ :: value) => if isName name then some (String.ofList name, .text false value :: rest) else none
    | _ => none
  | _ => none

def unquoted (w : Word) : Octets :=
  (w.map fun p => match p with
    | .text _ cs => cs
    | .parameter _ (.name x) _ _ _ => '$' :: x.toList
    | _ => []).flatten

def isQuoted (w : Word) : Bool :=
  w.any fun p => match p with
    | .text quoted _ => quoted
    | _ => false

def Target.word : Target → Word
  | .file _ w => w
  | .copy w => w
  | .text w => w
  | .all _ w => w

end PassDelta.Machine.Shell
