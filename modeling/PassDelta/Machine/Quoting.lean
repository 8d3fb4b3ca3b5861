import PassDelta.Machine.Octets
/-!
# Quoted texts

Texts as they can be written in a script of the rich shell: between quotes of some kind, or with backslashes.
-/

namespace PassDelta.Machine

def hasControl (text : Octets) : Bool := text.any fun c => c.toNat < 32 || c.toNat = 127 || 128 ≤ c.toNat

def octalDigits (n : Nat) : Octets :=
  let ds := Nat.toDigits 8 n
  List.replicate (3 - ds.length) '0' ++ ds

def dollarQuoted (text : Octets) : Octets :=
  let written (c : Char) : Octets :=
    match [('\x07', 'a'), ('\x08', 'b'), ('\x1b', 'E'), ('\x0c', 'f'), ('\n', 'n'), ('\r', 'r'), ('\t', 't'),
      ('\x0b', 'v'), ('\\', '\\'), ('\'', '\'')].lookup c with
    | some d => ['\\', d]
    | none => if c.toNat < 32 ∨ c.toNat = 127 ∨ 128 ≤ c.toNat then '\\' :: octalDigits c.toNat else [c]
  "$'".toList ++ text.flatMap written ++ ['\'']

/-- A text between single quotes; those in it are written apart, with a backslash. -/
def apostrophed (text : Octets) : Octets :=
  ['\''] ++ text.flatMap (fun c => if c = '\'' then "'\\''".toList else [c]) ++ ['\'']

def quotedValue (text : Octets) : Octets := if hasControl text then dollarQuoted text else apostrophed text

def declaredValue (text : Octets) : Octets :=
  if hasControl text then dollarQuoted text
  else ['"'] ++ text.flatMap (fun c =>
    if c = '"' ∨ c = '\\' ∨ c = '$' ∨ c = '`' then ['\\', c] else [c]) ++ ['"']

def isMeta (c : Char) : Bool := " \t\n'\"\\|&;()<>!\x7b\x7d*[]?^$`".toList.contains c

def escapedValue (text : Octets) : Octets :=
  if text.isEmpty then ['\'', '\'']
  else if hasControl text then dollarQuoted text
  else text.zipIdx.flatMap fun (c, i) =>
    if isMeta c ∨ c = ',' ∨ (i = 0 ∧ (c = '#' ∨ c = '~')) then ['\\', c] else [c]

def tracedWord (text : Octets) : Octets :=
  if text.isEmpty then ['\'', '\'']
  else if hasControl text then dollarQuoted text
  else if text.any isMeta ∨ text.head? = some '#' ∨ text.head? = some '~' then apostrophed text
  else text

def tracedPattern (text : Octets) : Octets := text.flatMap fun c => ['\\', c]

end PassDelta.Machine
