import PassDelta.Number.Binary64
/-!
# TOML items

What a TOML text holds: values, and tables in the ways a table comes about. Every item remembers where it was
written, so that a reader can point at it.
-/

namespace PassDelta.Toml

/-- A stretch of text, by what is left of the text at its start and at its end. -/
structure Span where
  start : List Char
  stop : List Char
  deriving DecidableEq, Repr

structure Key where
  name : String
  span : Span
  deriving DecidableEq, Repr

inductive Scalar where
  | text (s : String)
  | integer (n : Int)
  | float (x : Binary64)
  | boolean (b : Bool)
  | moment (written : List Char)
  deriving DecidableEq, Repr

/-- How a table came about: by a header of its own, on the way to the table of another header, by a dotted key,
or between braces. -/
inductive Origin where
  | header (span : Span)
  | implied
  | dotted
  | braces (span : Span)
  deriving DecidableEq, Repr

/-- A value, a table, or the list of tables that repeated headers in double brackets build. -/
inductive Item where
  | scalar (span : Span) (value : Scalar)
  | list (span : Span) (items : List Item)
  | table (origin : Origin) (members : List (Key × Item))
  | tables (entries : List (Span × List (Key × Item)))
  deriving Repr

abbrev Members := List (Key × Item)

/-- Where the item stands, unless it is a table that is written nowhere as a whole. -/
def Item.span? : Item → Option Span
  | .scalar span _ => some span
  | .list span _ => some span
  | .table (.header span) _ => some span
  | .table (.braces span) _ => some span
  | .table .implied _ => none
  | .table .dotted _ => none
  | .tables entries => do
    let first ← entries.head?
    let last ← entries.getLast?
    return ⟨first.1.start, last.1.stop⟩

end PassDelta.Toml
