import QueryPipe.Text.Utf8

/-!
Byte strings written with characters: each byte stands as the character with its
number.  Programs that take their input byte by byte, whatever its encoding, are
described on such texts.
-/

namespace QueryPipe.Text

/-- A text of characters below 256, one for each byte. -/
abbrev Octets := List Char

namespace Octets

def ofBytes (bytes : List UInt8) : Octets :=
  bytes.map fun byte => Char.ofNat byte.toNat

def toBytes (octets : Octets) : List UInt8 :=
  octets.map fun char => UInt8.ofNat char.toNat

/-- The bytes of a text. -/
def ofString (text : String) : Octets :=
  ofBytes (Utf8.encode text)

/-- The text that the bytes encode, with faulty pieces replaced. -/
def toText (octets : Octets) : String :=
  Utf8.decodeLossy (toBytes octets)

end Octets

end QueryPipe.Text
