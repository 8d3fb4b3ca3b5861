import PassDelta.Text.Utf8
/-!
# Bytes by their characters

Programs of the machine work on bytes. To speak of single ones, each byte stands as the character of the same
code, so every text below has only characters up to U+00FF.
-/

namespace PassDelta.Machine

abbrev Octets := List Char

def octets (bytes : Bytes) : Octets := bytes.map fun b => Char.ofNat b.toNat

def bytesOf (cs : Octets) : Bytes := cs.map fun c => UInt8.ofNat c.toNat

def octetsOfText (s : String) : Octets := octets (Text.encode s)

/-- Whether a text does not come after another one in the order of their octets. -/
def octetsLe (a b : Octets) : Bool := !decide (b < a)

end PassDelta.Machine
