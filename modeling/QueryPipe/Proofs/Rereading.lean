import QueryPipe.Proofs.Meaning
import QueryPipe.Proofs.Unchanged

/-! What a run reads in a literal that the run before it has quoted. The style of the
literal may be another one than that of the text it was made from, and the text comes
back all the same. -/

namespace QueryPipe.Text

open Utf8 (encode)

/-! ## Line ends among bytes -/

/-- No byte of another character is that of a line end. -/
theorem isNewlineByte_of_mem_utf8EncodeChar {char : Char} (other : isNewlineChar char = false)
    {byte : UInt8} (member : byte ∈ String.utf8EncodeChar char) : isNewlineByte byte = false := by
  rw [isNewlineChar, Bool.or_eq_false_iff, beq_eq_false_iff_ne, beq_eq_false_iff_ne, ne_eq, ne_eq,
    Char.ext_iff, Char.ext_iff, ← UInt32.toNat_inj, ← UInt32.toNat_inj] at other
  rw [isNewlineByte, Bool.or_eq_false_iff, beq_eq_false_iff_ne, beq_eq_false_iff_ne, ne_eq, ne_eq,
    ← UInt8.toNat_inj, ← UInt8.toNat_inj]
  by_cases ascii : char.val.toNat < 128
  · rw [Utf8.utf8EncodeChar_of_lt ascii, List.mem_singleton] at member
    rw [member, UInt8.toNat_ofNat', Nat.mod_eq_of_lt (by omega)]
    exact other
  · have large := Utf8.le_of_mem_utf8EncodeChar (Nat.le_of_not_lt ascii) member
    have lineFeed : (10 : UInt8).toNat = 10 := rfl
    have carriageReturn : (13 : UInt8).toNat = 13 := rfl
    omega

private theorem exists_mem_of_head?_encoded {text : List Char} {byte : UInt8}
    (first : byte ∈ (text.flatMap String.utf8EncodeChar).head?) :
    ∃ char ∈ text.head?, byte ∈ String.utf8EncodeChar char := by
  cases text with
  | nil => cases first
  | cons char rest =>
      refine ⟨char, rfl, ?_⟩
      rw [List.flatMap_cons, List.head?_append_of_ne_nil _ String.utf8EncodeChar_ne_nil] at first
      exact List.mem_of_head? first

private theorem exists_mem_of_getLast?_encoded {text : List Char} {byte : UInt8}
    (last : byte ∈ (text.flatMap String.utf8EncodeChar).getLast?) :
    ∃ char ∈ text.getLast?, byte ∈ String.utf8EncodeChar char := by
  rcases List.eq_nil_or_concat text with rfl | ⟨front, char, rfl⟩
  · cases last
  · refine ⟨char, by simp, ?_⟩
    rw [List.concat_eq_append, List.flatMap_append, List.flatMap_singleton,
      List.getLast?_append_of_ne_nil _ String.utf8EncodeChar_ne_nil] at last
    exact List.mem_of_getLast? last

/-- Line ends are stripped from the bytes of a text as they are from its characters. -/
theorem stripNewlines_encode (text : List Char) :
    stripNewlines (encode (String.ofList text)) =
      encode (String.ofList (trimBoth isNewlineChar text)) := by
  rcases exists_trimBoth isNewlineChar text with ⟨front, back, allFront, allBack, cut⟩
  rcases ends_trimBoth isNewlineChar text with ⟨first, last⟩
  rw [Utf8.encode_ofList, Utf8.encode_ofList]
  generalize trimBoth isNewlineChar text = kept at cut first last ⊢
  rw [cut, List.flatMap_append, List.flatMap_append, Go.stripNewlines_frame allFront allBack]
  apply trimBoth_eq_self
  · intro byte isFirst
    rcases exists_mem_of_head?_encoded isFirst with ⟨char, isChar, member⟩
    exact isNewlineByte_of_mem_utf8EncodeChar (first char isChar) member
  · intro byte isLast
    rcases exists_mem_of_getLast?_encoded isLast with ⟨char, isChar, member⟩
    exact isNewlineByte_of_mem_utf8EncodeChar (last char isChar) member

end QueryPipe.Text

namespace QueryPipe.Literal

open Text (stripNewlines)
open Text.Utf8 (encode)

/-! ## Texts that come back -/

/-- A text with each of its line ends written as an escape. -/
def spelledLineEnds (text : List Char) : List Char :=
  text.flatMap fun char =>
    if char = '\n' then ['\\', 'n'] else if char = '\r' then ['\\', 'r'] else [char]

theorem flatMap_joinLine (text : List Char) : text.flatMap joinLine = spelledLineEnds text := by
  have each (char : Char) : joinLine char =
      if char = '\n' then ['\\', 'n'] else if char = '\r' then ['\\', 'r'] else [char] := by
    unfold joinLine
    split
    · rfl
    · rfl
    · rename_i noLineFeed noReturn
      rw [if_neg noLineFeed, if_neg noReturn]
  rw [spelledLineEnds, funext each]

/-- The body of a settled literal, without the line ends around it, is its text. -/
theorem Settled.stripNewlines_template {literal text : List Char} (settled : Settled literal text) :
    stripNewlines (encode (String.ofList (template literal))) = encode (String.ofList text) := by
  rw [Text.stripNewlines_encode, settled.trimBoth_template]

/-- What a command prints is quoted the same way when it prints it again, whatever style the
first quoting has left. And it is what stands in the literal, without delimiters and the
line ends around it; only escaped text of several lines has its line ends spelled out. -/
theorem requote_reread {text : List Char} (noBackquote : backquote ∉ text)
    (borders : Unbordered '\n' text ∧ Unbordered '\r' text) (style : Style) :
    let literal := requote text style
    let reread := stripNewlines (encode (String.ofList (dropBackquotes (stripDelimiters literal))))
    let joined := style = .interpreted ∧ '\n' ∈ text ∧ '\\' ∈ text
    requote text (.of literal) = literal ∧
    (¬ joined → reread = encode (String.ofList text)) ∧
    (joined → reread = encode (String.ofList (spelledLineEnds text))) := by
  intro literal reread joined
  have trimmed := (trimBoth_newlines_iff text).mpr borders
  by_cases isJoined : joined
  · rcases isJoined with ⟨rfl, several, escaped⟩
    have settled := settled_requote_joined noBackquote several escaped
    rw [flatMap_joinLine] at settled
    refine ⟨?_, fun kept => absurd ⟨rfl, several, escaped⟩ kept,
      fun _ => settled.stripNewlines_template⟩
    have quoted : literal = between doubleQuote (text.flatMap joinLine) :=
      requote_interpreted_joined several (.inl escaped)
    rw [quoted, of_between_doubleQuote, requote_interpreted_joined several (.inl escaped)]
  · have settled := settled_requote_kept noBackquote trimmed isJoined
    exact ⟨settled.quoted, fun _ => settled.stripNewlines_template,
      fun escaped => absurd escaped isJoined⟩

/-- The lines of the output go between backquotes, so the style changes; the same lines with
a backslash stay between double quotes. -/
theorem requote_reread_lines :
    let plain := "SELECT 1\r\n;".toList
    let escaped := "SELECT\\t1\r\n;".toList
    (backquote ∉ plain ∧ Unbordered '\n' plain ∧ Unbordered '\r' plain) ∧
    Style.of (requote plain .interpreted) = .raw ∧
    requote plain .raw = requote plain .interpreted ∧
    stripNewlines (encode (String.ofList (dropBackquotes
      (stripDelimiters (requote escaped .interpreted))))) = encode "SELECT\\t1\\r\\n;" := by
  intro plain escaped
  have flipped : Style.of (requote plain .interpreted) = .raw := by
    decide +kernel
  have reread := @requote_reread plain (by decide +kernel) (by decide +kernel) .interpreted
  have spelled := @requote_reread escaped (by decide +kernel) (by decide +kernel) .interpreted
  refine ⟨by decide +kernel, flipped, ?_, ?_⟩
  · have again := reread.1
    rwa [flipped] at again
  · exact spelled.2.2 (by decide +kernel)

end QueryPipe.Literal
