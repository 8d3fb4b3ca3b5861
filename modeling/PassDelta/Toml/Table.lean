import PassDelta.Toml.Item
/-!
# Building tables

A table is defined once. Headers may add to tables that only lie on the way to another header, dotted keys only to
tables that dotted keys made, and nothing adds to a table between braces. Members keep the order of their
definition; a table that gets its header after its parts moves to the end.
-/

namespace PassDelta.Toml

namespace Members

def find (name : String) (members : Members) : Option Item :=
  (members.find? fun m => m.1.name = name).map Prod.snd

def replace (name : String) (item : Item) (members : Members) : Members :=
  members.map fun m => if m.1.name = name then (m.1, item) else m

def add (key : Key) (item : Item) (members : Members) : Option Members :=
  match members.find key.name with
  | none => some (members ++ [(key, item)])
  | some _ => none

end Members

/-- Whether a path of keys may lead through a table; `dotted` tells a dotted key from a header. -/
def Origin.isOpen (dotted : Bool) : Origin → Bool
  | .header _ => !dotted
  | .implied => true
  | .dotted => true
  | .braces _ => false

/-- Follows a path of keys, making tables where there is nothing, and changes the table at its end. A path leads
into the latest of a list of tables. -/
def within (dotted : Bool) (change : Origin → Members → Option Members) :
    List Key → Origin → Members → Option Members
  | [], origin, members => change origin members
  | k :: path, _, members =>
    match members.find k.name with
    | none => do
      let origin := if dotted then .dotted else .implied
      return members ++ [(k, .table origin (← within dotted change path origin []))]
    | some (.table origin inner) =>
      if origin.isOpen dotted then do
        return members.replace k.name (.table origin (← within dotted change path origin inner))
      else none
    | some (.tables entries) => do
      let (span, inner) ← entries.getLast?
      return members.replace k.name
        (.tables (entries.dropLast ++ [(span, ← within dotted change path (.header span) inner)]))
    | some _ => none

/-- Adds a value under a dotted path and a last key. A table at the end of a path must be one that dotted keys
made. -/
def assign (path : List Key) (key : Key) (item : Item) (origin : Origin) (members : Members) :
    Option Members :=
  within true (fun reached inner => if path.isEmpty || reached = .dotted then inner.add key item else none)
    path origin members

def openTable (key : Key) (span : Span) (members : Members) : Option Members :=
  match members.find key.name with
  | none => some (members ++ [(key, .table (.header span) [])])
  | some (.table .implied inner) =>
    some (members.filter (fun m => m.1.name ≠ key.name) ++ [(key, .table (.header span) inner)])
  | some _ => none

def openEntry (key : Key) (span : Span) (members : Members) : Option Members :=
  match members.find key.name with
  | none => some (members ++ [(key, .tables [(span, [])])])
  | some (.tables entries) => some (members.replace key.name (.tables (entries ++ [(span, [])])))
  | some _ => none

end PassDelta.Toml
