/-!
UTF-8 as a list of bytes.  A byte string is read piece by piece: each piece is
one character, or a maximal run of bytes that begins like a character and is
none.  Exact decoding accepts only the first kind; lossy decoding writes one
replacement character for each piece of the second kind.
-/

namespace QueryPipe.Text.Utf8

/-- The bytes of a text. -/
def encode (text : String) : List UInt8 :=
  text.toUTF8.data.toList

/-- The number of bytes that a text takes. -/
def byteLength (text : List Char) : Nat :=
  text.foldl (fun total char => total + char.utf8Size) 0

/-- Moves characters that take `count` bytes onto a list, in reverse. -/
def splitInto (taken : List Char) : Nat → List Char → List Char × List Char
  | _ + 1, [] => (taken, [])
  | 0, text => (taken, text)
  | count + 1, char :: rest => splitInto (char :: taken) (count + 1 - char.utf8Size) rest

/-- Cuts a text after `count` bytes. -/
def splitAt (count : Nat) (text : List Char) : List Char × List Char :=
  let (taken, rest) := splitInto [] count text
  (taken.reverse, rest)

/-- What stands at the front of a byte string. -/
inductive Piece where
  | scalar (char : Char) (width : Nat)
  | fault (width : Nat)
deriving DecidableEq, Repr

namespace Piece

/-- The number of bytes that a piece covers. -/
def width : Piece → Nat
  | scalar _ width => width
  | fault width => width

end Piece

def isContinuation (byte : UInt8) : Bool :=
  0x80 ≤ byte && byte ≤ 0xBF

/-- The value of the six low bits of a continuation byte. -/
def payload (byte : UInt8) : Nat :=
  byte.toNat % 64

/-- How many bytes follow a leading byte, which values the first of them may
have, and the leading byte's share of the code point.  The narrowed ranges
leave out overlong forms, surrogates and code points above U+10FFFF. -/
def leading? (byte : UInt8) : Option (Nat × UInt8 × UInt8 × Nat) :=
  if byte < 0xC2 then none
  else if byte < 0xE0 then some (1, 0x80, 0xBF, byte.toNat % 32)
  else if byte == 0xE0 then some (2, 0xA0, 0xBF, 0)
  else if byte == 0xED then some (2, 0x80, 0x9F, 13)
  else if byte < 0xF0 then some (2, 0x80, 0xBF, byte.toNat % 16)
  else if byte == 0xF0 then some (3, 0x90, 0xBF, 0)
  else if byte < 0xF4 then some (3, 0x80, 0xBF, byte.toNat % 8)
  else if byte == 0xF4 then some (3, 0x80, 0x8F, 4)
  else none

/-- Reads the remaining continuation bytes of a character; `width` counts the
bytes read so far and `code` holds their value. -/
def readRest : Nat → Nat → Nat → List UInt8 → Piece
  | 0, width, code, _ => .scalar (Char.ofNat code) width
  | missing + 1, width, code, byte :: rest =>
    if isContinuation byte then readRest missing (width + 1) (code * 64 + payload byte) rest
    else .fault width
  | _ + 1, width, _, [] => .fault width

/-- The piece that begins with `byte`. -/
def next (byte : UInt8) (rest : List UInt8) : Piece :=
  if byte < 0x80 then .scalar (Char.ofNat byte.toNat) 1
  else
    match leading? byte with
    | none => .fault 1
    | some (missing, low, high, code) =>
      match rest with
      | [] => .fault 1
      | second :: rest =>
        if low ≤ second && second ≤ high then
          readRest (missing - 1) 2 (code * 64 + payload second) rest
        else .fault 1

/-- Collects the pieces of a byte string in reverse; `skip` bytes belong to the
piece that was read last. -/
def piecesInto (found : List Piece) : Nat → List UInt8 → List Piece
  | _, [] => found
  | skip + 1, _ :: rest => piecesInto found skip rest
  | 0, byte :: rest =>
    let piece := next byte rest
    piecesInto (piece :: found) (piece.width - 1) rest

/-- The pieces of a byte string, in order. -/
def pieces (bytes : List UInt8) : List Piece :=
  (piecesInto [] 0 bytes).reverse

/-- Decodes a byte string; on failure, the offset of the first piece that is no
character. -/
def decodePieces (offset : Nat) (decoded : List Char) : List Piece → Except Nat (List Char)
  | [] => .ok decoded.reverse
  | .scalar char width :: rest => decodePieces (offset + width) (char :: decoded) rest
  | .fault _ :: _ => .error offset

/-- The text that a byte string encodes, or how many bytes of it are valid. -/
def decode (bytes : List UInt8) : Except Nat String :=
  (decodePieces 0 [] (pieces bytes)).map String.ofList

/-- U+FFFD, which stands for what could not be decoded. -/
def replacement : Char := '\uFFFD'

/-- The text of a byte string with each faulty piece replaced. -/
def decodeLossy (bytes : List UInt8) : String :=
  String.ofList <| (pieces bytes).map fun
    | .scalar char _ => char
    | .fault _ => replacement

end QueryPipe.Text.Utf8
