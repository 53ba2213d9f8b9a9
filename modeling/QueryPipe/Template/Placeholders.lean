import QueryPipe.Template.Sentinel

/-!
Filling the verbs of a template, and putting them back into a text that kept
its sentinels.
-/

namespace QueryPipe.Template

/-- A sentinel of a filled template: either a verb was there, or the template
already held the sentinel's text. -/
structure Mark where
  verb : Verb
  isFilled : Bool
deriving DecidableEq, Repr

/-- What is needed to put the verbs back. -/
structure Placeholders where
  /-- The sentinels of the filled template, from left to right. -/
  marks : List Mark
  /-- How many verbs were filled. -/
  filled : Nat
deriving DecidableEq, Repr

/-- The byte offsets in the filled template where verbs were, for pieces that
begin at a byte offset of it. -/
def filledOffsets : (offset : Nat) → List Piece → List Nat
  | _, [] => []
  | offset, piece :: rest =>
    let after := filledOffsets (offset + Text.Utf8.byteLength piece.filled) rest
    match piece with
    | .verb _ => offset :: after
    | _ => after

/-- A template with its verbs filled in. -/
def fill (template : List Char) : List Char :=
  (pieces template).flatMap Piece.filled

/-- The record of a filled template. -/
def placeholders (template : List Char) : Placeholders :=
  let offsets := filledOffsets 0 (pieces template)
  let marks := (occurrences (fill template)).map fun occurrence =>
    ⟨occurrence.verb, offsets.contains occurrence.offset⟩
  ⟨marks, offsets.length⟩

namespace Placeholders

/-- Whether no verb was filled. -/
def isEmpty (record : Placeholders) : Bool := record.filled == 0

/-- Whether each filled sentinel can be told from the text around it. -/
def isComplete (record : Placeholders) : Bool :=
  record.marks.countP (·.isFilled) == record.filled

/-- Puts verbs back: mark by mark, at the sentinels of a text. -/
def putBack : List Mark → List Chunk → List Char
  | _, [] => []
  | marks, .plain char :: rest => char :: putBack marks rest
  | [], .sentinel verb :: rest => verb.sentinel ++ putBack [] rest
  | mark :: marks, .sentinel verb :: rest =>
    (if mark.isFilled then [marker, mark.verb.letter] else verb.sentinel) ++ putBack marks rest

/-- Puts the verbs back into a text that holds the same sentinels in the same
order as the filled template.  Any other text is refused, since nothing tells
which sentinel came from which verb. -/
def restore? (record : Placeholders) (output : List Char) : Option (List Char) :=
  if record.isEmpty then some output
  else if !record.isComplete then none
  else if (chunks output).filterMap Chunk.verb? == record.marks.map (·.verb) then
    some (putBack record.marks (chunks output))
  else none

end Placeholders

end QueryPipe.Template
