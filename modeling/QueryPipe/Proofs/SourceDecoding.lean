import QueryPipe.Files.Source
import QueryPipe.Proofs.ByteReading
import Mathlib.Order.Bounds.Basic

/-! Sources as text. A source is decoded just if it is the encoding of a text and no NUL
stands among its first bytes, and then nothing is lost; what is reported of any other source
is how much of it is the encoding of a text. -/

namespace QueryPipe.Text.Utf8

open String (utf8EncodeChar)

/-- Whether the bytes are those of a text. -/
def IsEncoding (bytes : List UInt8) : Prop := ∃ text, encode text = bytes

theorem isEncoding_flatMap (text : List Char) : IsEncoding (text.flatMap utf8EncodeChar) :=
  ⟨String.ofList text, encode_ofList text⟩

/-! ## The text at the front -/

/-- A byte string begins with a text, and if that is not all of it, no character follows. -/
theorem exists_text (bytes : List UInt8) :
    ∃ (text : List Char) (rest : List UInt8), bytes = text.flatMap utf8EncodeChar ++ rest ∧
      (rest = [] ∨ ∃ part more, rest = part ++ more ∧ IsFault part more) := by
  have reading := reading_pieces bytes
  generalize pieces bytes = found at reading
  induction reading with
  | nil => exact ⟨[], [], rfl, .inl rfl⟩
  | scalar char _ induction =>
      rcases induction with ⟨text, rest, rfl, ended⟩
      exact ⟨char :: text, rest, (List.append_assoc ..).symm, ended⟩
  | @fault part rest _ fault _ _ => exact ⟨[], part ++ rest, rfl, .inr ⟨part, rest, rfl, fault⟩⟩

/-- A byte string begins with one character at most. -/
theorem eq_of_encoded {char other : Char} {rest more : List UInt8}
    (same : utf8EncodeChar char ++ rest = utf8EncodeChar other ++ more) : char = other := by
  have read := congrArg pieces same
  rw [pieces_encoded, pieces_encoded, List.cons.injEq, Piece.scalar.injEq] at read
  exact read.1.1

/-- Where a text is followed by bytes that no character begins, no longer text stands at the
front. -/
theorem prefix_of_stuck {text other : List Char} {rest more : List UInt8}
    (stuck : ∀ char, ¬ utf8EncodeChar char <+: rest)
    (same : text.flatMap utf8EncodeChar ++ rest = other.flatMap utf8EncodeChar ++ more) :
    other <+: text := by
  induction text generalizing other with
  | nil =>
      cases other with
      | nil => exact List.prefix_rfl
      | cons char other =>
          rw [List.flatMap_nil, List.nil_append, List.flatMap_cons, List.append_assoc] at same
          exact absurd ⟨_, same.symm⟩ (stuck char)
  | cons char text induction =>
      cases other with
      | nil => exact List.nil_prefix
      | cons first other =>
          rw [List.flatMap_cons, List.flatMap_cons, List.append_assoc, List.append_assoc] at same
          rcases eq_of_encoded same with rfl
          exact List.cons_prefix_cons.mpr ⟨rfl, induction (List.append_cancel_left same)⟩

/-! ## Decoding -/

private theorem decodePieces_text (offset : Nat) (decoded text : List Char) (found : List Piece) :
    decodePieces offset decoded
        (text.map (fun char => .scalar char char.utf8Size) ++ found) =
      decodePieces (offset + byteLength text) (text.reverse ++ decoded) found := by
  induction text generalizing offset decoded with
  | nil => rfl
  | cons char text induction =>
      rw [List.map_cons, List.cons_append, decodePieces, induction, byteLength_cons, Nat.add_assoc,
        List.reverse_cons, List.append_assoc, List.singleton_append]

theorem decode_encode (text : String) : decode (encode text) = .ok text := by
  have read := decodePieces_text 0 [] text.toList []
  rw [List.append_nil, List.append_nil] at read
  rw [decode, encode_eq, pieces_text, read, decodePieces, List.reverse_reverse, Except.map,
    String.ofList_toList]

/-- Where the text at the front is not all, its length is reported. -/
theorem decode_of_isFault (text : List Char) {part rest : List UInt8} (fault : IsFault part rest) :
    decode (text.flatMap utf8EncodeChar ++ (part ++ rest)) = .error (byteLength text) := by
  rw [decode, pieces_text_append, pieces_fault fault, decodePieces_text, Nat.zero_add]
  rfl

theorem decode_eq_ok_iff {bytes : List UInt8} {text : String} :
    decode bytes = .ok text ↔ encode text = bytes := by
  constructor
  · intro decoded
    rcases exists_text bytes with ⟨front, rest, rfl, rfl | ⟨part, more, rfl, fault⟩⟩
    · rw [List.append_nil, ← encode_ofList] at decoded ⊢
      rw [decode_encode, Except.ok.injEq] at decoded
      rw [decoded]
    · rw [decode_of_isFault front fault] at decoded
      cases decoded
  · rintro rfl
    exact decode_encode text

/-- What is reported of other bytes is how many of them, at most, encode a text. -/
theorem exists_decode_eq_error {bytes : List UInt8} (noText : ¬ IsEncoding bytes) :
    ∃ count, decode bytes = .error count ∧
      IsGreatest {count | count ≤ bytes.length ∧ IsEncoding (bytes.take count)} count := by
  rcases exists_text bytes with ⟨text, rest, rfl, rfl | ⟨part, more, rfl, fault⟩⟩
  · rw [List.append_nil] at noText
    exact absurd (isEncoding_flatMap text) noText
  · refine ⟨byteLength text, decode_of_isFault text fault, ?_, ?_⟩
    · rw [← length_flatMap_utf8EncodeChar]
      refine ⟨by simp, ?_⟩
      rw [List.take_left]
      exact isEncoding_flatMap text
    · rintro count ⟨within, other, encoded⟩
      have cut := List.take_append_drop count (text.flatMap utf8EncodeChar ++ (part ++ more))
      rw [← encoded, encode_eq] at cut
      rcases prefix_of_stuck fault.incomplete cut.symm with ⟨behind, rfl⟩
      have length := congrArg List.length encoded
      rw [encode_eq, length_flatMap_utf8EncodeChar, List.length_take_of_le within] at length
      rw [byteLength_append, ← length]
      exact Nat.le_add_right ..

end QueryPipe.Text.Utf8

namespace QueryPipe.Files

open Text.Utf8 (IsEncoding encode)

theorem isBinary_iff {content : List UInt8} :
    isBinary content = true ↔ ∃ index < 8192, content[index]? = some 0 := by
  rw [isBinary, List.contains_iff_mem, List.mem_iff_getElem?]
  constructor
  · rintro ⟨index, found⟩
    have bound := (List.getElem?_eq_some_iff.mp found).1
    rw [List.length_take, Nat.lt_min] at bound
    rw [List.getElem?_take_of_lt bound.1] at found
    exact ⟨index, bound.1, found⟩
  · rintro ⟨index, bound, found⟩
    exact ⟨index, (List.getElem?_take_of_lt bound).trans found⟩

/-- What is said of a source: it is binary if a NUL stands among its first bytes. If not, its
text is the one whose encoding it is; and if there is none, the length of its longest front
that is an encoding is reported. -/
theorem decode_exact (content : List UInt8) :
    (decode content = .error .binaryFile ↔ ∃ index < 8192, content[index]? = some 0) ∧
    ((∀ index < 8192, content[index]? ≠ some 0) →
      (∀ text, decode content = .ok text ↔ encode text = content) ∧
      (¬ IsEncoding content → ∃ count, decode content = .error (.invalidUtf8 count) ∧
        IsGreatest {count | count ≤ content.length ∧ IsEncoding (content.take count)} count)) ∧
    ∀ text, (∀ index < 8192, (encode text)[index]? ≠ some 0) →
      decode (encode text) = .ok text := by
  have textual {bytes : List UInt8} (noNul : ∀ index < 8192, bytes[index]? ≠ some 0) :
      decode bytes = (Text.Utf8.decode bytes).mapError .invalidUtf8 := by
    have notBinary : ¬ isBinary bytes = true := by
      rw [isBinary_iff]
      rintro ⟨index, bound, found⟩
      exact noNul index bound found
    rw [decode, if_neg notBinary]
  have decoded {bytes : List UInt8} {text : String}
      (noNul : ∀ index < 8192, bytes[index]? ≠ some 0) :
      decode bytes = .ok text ↔ encode text = bytes := by
    rw [textual noNul, ← Text.Utf8.decode_eq_ok_iff]
    cases Text.Utf8.decode bytes <;> simp [Except.mapError]
  refine ⟨?_, fun noNul => ⟨fun _ => decoded noNul, ?_⟩, fun text noNul => (decoded noNul).mpr rfl⟩
  · rw [← isBinary_iff, decode]
    cases isBinary content with
    | true => simp
    | false => cases Text.Utf8.decode content <;> simp [Except.mapError]
  · intro noText
    rcases Text.Utf8.exists_decode_eq_error noText with ⟨count, refused, greatest⟩
    refine ⟨count, ?_, greatest⟩
    rw [textual noNul, refused]
    rfl

/-- A surrogate is no character, however well its bytes look. -/
theorem decode_exact_surrogate :
    (∀ index < 8192, ([0x61, 0xC3, 0xA9, 0xED, 0xA0, 0x80] : List UInt8)[index]? ≠ some 0) ∧
    decode [0x61, 0xC3, 0xA9, 0xED, 0xA0, 0x80] = .error (.invalidUtf8 3) ∧
    ¬ IsEncoding [0x61, 0xC3, 0xA9, 0xED, 0xA0, 0x80] ∧
    IsGreatest {count | count ≤ 6 ∧
      IsEncoding (([0x61, 0xC3, 0xA9, 0xED, 0xA0, 0x80] : List UInt8).take count)} 3 := by
  have noNul : ∀ index < 8192,
      ([0x61, 0xC3, 0xA9, 0xED, 0xA0, 0x80] : List UInt8)[index]? ≠ some 0 := by
    intro index _ found
    exact absurd (List.mem_of_getElem? found) (by decide)
  have refused : decode [0x61, 0xC3, 0xA9, 0xED, 0xA0, 0x80] = .error (.invalidUtf8 3) := by
    decide +kernel
  rcases (decode_exact [0x61, 0xC3, 0xA9, 0xED, 0xA0, 0x80]).2.1 noNul with ⟨texts, reported⟩
  have noText : ¬ IsEncoding [0x61, 0xC3, 0xA9, 0xED, 0xA0, 0x80] := by
    rintro ⟨text, encoded⟩
    rw [(texts text).mpr encoded] at refused
    cases refused
  rcases reported noText with ⟨count, again, greatest⟩
  rw [refused, Except.error.injEq, Error.invalidUtf8.injEq] at again
  exact ⟨noNul, refused, noText, again ▸ greatest⟩

end QueryPipe.Files
