import QueryPipe.Text.Utf8
import QueryPipe.Yaml.Token

/-!
Reading names: directives, anchors and tags.
-/

namespace QueryPipe.Yaml

/-- Characters of a tag beside its handle. -/
def isTagChar (char : Char) : Bool :=
  isNameChar char
    || [';', '/', '?', ':', '@', '&', '=', '+', '$', '.', '!', '~', '*', '\'', '(', ')'].contains
      char

/-- Characters of a tag that is written in full. -/
def isUriChar (char : Char) : Bool :=
  isTagChar char || [',', '[', ']'].contains char

/-- The bytes of percent escapes that follow each other. -/
def readPercent : (fuel : Nat) → List UInt8 → Cursor → Option (List UInt8 × Cursor)
  | 0, bytes, cursor => some (bytes, cursor)
  | fuel + 1, bytes, cursor =>
    match cursor.rest with
    | '%' :: rest =>
      match rest with
      | high :: low :: _ =>
        match hexValue? high, hexValue? low with
        | some high, some low =>
          readPercent fuel (bytes ++ [UInt8.ofNat (16 * high + low)]) (cursor.advance 3)
        | _, _ => none
      | _ => none
    | _ => some (bytes, cursor)

/-- Reads the characters of a tag, in reverse. -/
def readUri (test : Char → Bool) : (fuel : Nat) → List Char → Cursor → Option (List Char × Cursor)
  | 0, text, cursor => some (text, cursor)
  | fuel + 1, text, cursor =>
    match cursor.at? 0 with
    | none => some (text, cursor)
    | some char =>
      if char == '%' then
        match readPercent cursor.rest.length [] cursor with
        | none => none
        | some (bytes, cursor) =>
          match Text.Utf8.decode bytes with
          | .ok decoded => readUri test fuel (decoded.toList.reverse ++ text) cursor
          | .error _ => none
      else if test char then readUri test fuel (char :: text) (cursor.advance 1)
      else some (text, cursor)

/-- The text that a reader of reversed characters gives. -/
def uri (test : Char → Bool) (cursor : Cursor) : Option (String × Cursor) :=
  (readUri test (cursor.rest.length + 1) [] cursor).map fun (text, cursor) =>
    (String.ofList text.reverse, cursor)

/-- Reads a tag in full, after its opening bracket. -/
def readFullTag (cursor : Cursor) : Option (RawTag × Cursor) :=
  match uri isUriChar cursor with
  | some (text, cursor) =>
    if !text.isEmpty && cursor.sees 0 '>' then some (⟨"", text⟩, cursor.advance 1) else none
  | none => none

/-- Reads a tag with a handle. -/
def readShortTag (cursor : Cursor) : Option (RawTag × Cursor) :=
  let name := (cursor.rest.drop 1).takeWhile isNameChar
  if cursor.sees (name.length + 1) '!' then
    match uri isTagChar (cursor.advance (name.length + 2)) with
    | some (text, cursor) =>
      if text.isEmpty then none else some (⟨"!" ++ String.ofList name ++ "!", text⟩, cursor)
    | none => none
  else
    match uri isTagChar (cursor.advance (name.length + 1)) with
    | some (text, cursor) =>
      let ending := String.ofList name ++ text
      some (if ending.isEmpty then ⟨"", "!"⟩ else ⟨"!", ending⟩, cursor)
    | none => none

/-- Reads a tag.  A gap must follow it, or a comma in a flow collection. -/
def readTag (isFlow : Bool) (cursor : Cursor) : Option (RawTag × Cursor) :=
  let read := if cursor.sees 1 '<' then readFullTag (cursor.advance 2) else readShortTag cursor
  match read with
  | some (tag, cursor) =>
    if cursor.seesGap 0 || (isFlow && cursor.sees 0 ',') then some (tag, cursor) else none
  | none => none

/-- Characters that may follow the name of an anchor at once. -/
def endsName (cursor : Cursor) : Bool :=
  cursor.seesGap 0
    || (cursor.at? 0).any fun char => ['?', ':', ',', ']', '\x7d', '%', '@', '`'].contains char

/-- Reads the name of an anchor or an alias. -/
def readName (cursor : Cursor) : Option (String × Cursor) :=
  let name := cursor.rest.takeWhile isNameChar
  let after := cursor.advance name.length
  if !name.isEmpty && endsName after then some (String.ofList name, after) else none

/-- The longest number that a version may have, in digits. -/
def versionDigits : Nat := 9

/-- Reads a number of a version. -/
def readVersionNumber (cursor : Cursor) : Option (Nat × Cursor) :=
  let digits := cursor.rest.takeWhile Char.isDigit
  if digits.isEmpty || digits.length > versionDigits then none
  else
    some (digits.foldl (fun value digit => 10 * value + (digit.toNat - '0'.toNat)) 0,
      cursor.advance digits.length)

/-- Reads the handle of a tag directive. -/
def readHandle (cursor : Cursor) : Option (String × Cursor) :=
  if cursor.sees 0 '!' then
    let name := (cursor.rest.drop 1).takeWhile isNameChar
    let after := cursor.advance (name.length + 1)
    if after.sees 0 '!' then some ("!" ++ String.ofList name ++ "!", after.advance 1)
    else if name.isEmpty then some ("!", after)
    else none
  else none

/-- Reads what a directive with a name says. -/
def readDirectiveBody (name : String) (cursor : Cursor) : Option (Token × Cursor) :=
  let start := cursor.skipWhile isBlank
  match name with
  | "YAML" => do
    let (major, cursor) ← readVersionNumber start
    if !cursor.sees 0 '.' then none
    else
      let (minor, cursor) ← readVersionNumber (cursor.advance 1)
      some (.versionDirective major minor, cursor)
  | "TAG" => do
    let (handle, cursor) ← readHandle start
    if !cursor.seesBlank then none
    else
      let (replacement, cursor) ← uri isUriChar (cursor.skipWhile isBlank)
      if replacement.isEmpty || !cursor.seesGap 0 then none
      else some (.tagDirective handle replacement, cursor)
  | _ => none

/-- Reads a directive after its percent sign, to the end of its line. -/
def readDirective (cursor : Cursor) : Option (Token × Cursor) := do
  let name := cursor.rest.takeWhile isNameChar
  let after := cursor.advance name.length
  if name.isEmpty || !after.seesGap 0 then none
  else
    let (token, cursor) ← readDirectiveBody (String.ofList name) after
    let cursor := cursor.skipWhile isBlank
    let cursor := if cursor.sees 0 '#' then cursor.skipLine else cursor
    if cursor.isAtEnd || cursor.seesBreak then some (token, cursor.readBreak.2) else none

end QueryPipe.Yaml
