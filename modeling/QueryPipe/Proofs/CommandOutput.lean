import QueryPipe.Command.Runner
import QueryPipe.Proofs.Rereading
import QueryPipe.Proofs.SourceDecoding

/-! The output of a command. Line ends are taken off the bytes that were printed, before these
are decoded; it is as if they were taken off the text that all of the bytes are read as. -/

namespace QueryPipe.Text.Utf8

open String (utf8EncodeChar)

/-- The character that a piece of a byte string is shown as. -/
def Piece.shown : Piece → Char
  | scalar char _ => char
  | fault _ => '\uFFFD'

/-- What a byte string is shown as: its characters, and one replacement character for each
fault. -/
def Shows (bytes : List UInt8) (text : List Char) : Prop :=
  ∃ found, Reading bytes found ∧ text = found.map Piece.shown

theorem toList_decodeLossy (bytes : List UInt8) :
    (decodeLossy bytes).toList = (pieces bytes).map Piece.shown := by
  rw [decodeLossy, String.toList_ofList]
  apply List.map_congr_left
  intro piece _
  cases piece <;> rfl

theorem shows_iff {bytes : List UInt8} {text : List Char} :
    Shows bytes text ↔ text = (decodeLossy bytes).toList := by
  simp only [Shows, reading_iff, exists_eq_left, toList_decodeLossy]

@[simp] theorem map_shown_scalar (text : List Char) :
    (text.map fun char => Piece.scalar char char.utf8Size).map Piece.shown = text := by
  rw [List.map_map]
  exact List.map_id' text

theorem decodeLossy_encode (text : String) : decodeLossy (encode text) = text := by
  rw [← String.toList_inj, toList_decodeLossy, encode_eq, pieces_text, map_shown_scalar]

end QueryPipe.Text.Utf8

namespace QueryPipe.Text

open String (utf8EncodeChar)
open Utf8 (Piece Reading pieces decodeLossy)

/-! ## Line ends among bytes and among characters -/

private theorem exists_newlineByte {char : Char} (newline : isNewlineChar char = true) :
    ∃ byte, utf8EncodeChar char = [byte] ∧ isNewlineByte byte = true := by
  rw [isNewlineChar, Bool.or_eq_true, beq_iff_eq, beq_iff_eq] at newline
  rcases newline with rfl | rfl
  · exact ⟨10, by decide, rfl⟩
  · exact ⟨13, by decide, rfl⟩

private theorem exists_newlines {bytes : List UInt8}
    (all : ∀ byte ∈ bytes, isNewlineByte byte = true) :
    ∃ text : List Char, bytes = text.flatMap utf8EncodeChar ∧
      ∀ char ∈ text, isNewlineChar char = true := by
  induction bytes with
  | nil => exact ⟨[], rfl, by simp⟩
  | cons byte bytes induction =>
      rw [List.forall_mem_cons] at all
      rcases induction all.2 with ⟨text, rfl, newlines⟩
      have isByte := all.1
      rw [isNewlineByte, Bool.or_eq_true, beq_iff_eq, beq_iff_eq] at isByte
      rcases isByte with rfl | rfl
      · exact ⟨'\n' :: text, rfl, by simpa using ⟨rfl, newlines⟩⟩
      · exact ⟨'\r' :: text, rfl, by simpa using ⟨rfl, newlines⟩⟩

private theorem stops_of_newlines {bytes : List UInt8}
    (all : ∀ byte ∈ bytes, isNewlineByte byte = true) :
    ∀ byte ∈ bytes.head?, Utf8.isContinuation byte = false := by
  intro byte first
  have isByte := all byte (List.mem_of_head? first)
  rw [isNewlineByte, Bool.or_eq_true, beq_iff_eq, beq_iff_eq] at isByte
  rcases isByte with rfl | rfl <;> rfl

/-- What is shown begins with a line end only if the bytes do. -/
private theorem first_shown {bytes : List UInt8}
    (first : ∀ byte ∈ bytes.head?, isNewlineByte byte = false) :
    ∀ char ∈ (decodeLossy bytes).toList.head?, isNewlineChar char = false := by
  rw [Utf8.toList_decodeLossy]
  have reading := Utf8.reading_pieces bytes
  generalize pieces bytes = found at reading
  intro shown isFirst
  by_contra newline
  rw [Bool.not_eq_false] at newline
  cases reading with
  | nil => cases isFirst
  | scalar char _ =>
      rcases Option.some.inj isFirst with rfl
      rcases exists_newlineByte newline with ⟨byte, encoded, isByte⟩
      have starts := first byte (by rw [show utf8EncodeChar char = [byte] from encoded]; rfl)
      rw [isByte] at starts
      cases starts
  | fault _ _ =>
      rcases Option.some.inj isFirst with rfl
      exact absurd newline (show ¬ isNewlineChar '\uFFFD' = true by decide)

/-- What is shown ends with a line end only if the bytes do. -/
private theorem exists_of_shown_concat {bytes : List UInt8} {found : List Piece}
    (reading : Reading bytes found) {front : List Char} {char : Char}
    (newline : isNewlineChar char = true) (shown : found.map Piece.shown = front ++ [char]) :
    ∃ before byte, bytes = before ++ [byte] ∧ isNewlineByte byte = true := by
  induction reading generalizing front with
  | nil => simp at shown
  | @scalar rest found other reading induction =>
      cases front with
      | nil =>
          rw [List.map_cons, List.nil_append, List.cons.injEq, List.map_eq_nil_iff] at shown
          rcases shown with ⟨rfl, rfl⟩
          cases reading
          rcases exists_newlineByte newline with ⟨byte, encoded, isByte⟩
          exact ⟨[], byte, by rw [show utf8EncodeChar other = [byte] from encoded]; rfl, isByte⟩
      | cons _ front =>
          rcases induction (List.cons.inj shown).2 with ⟨before, byte, rfl, isByte⟩
          exact ⟨utf8EncodeChar other ++ before, byte, (List.append_assoc ..).symm, isByte⟩
  | @fault part rest found _ reading induction =>
      cases front with
      | nil =>
          rcases (List.cons.inj shown).1 with rfl
          exact absurd newline (show ¬ isNewlineChar '\uFFFD' = true by decide)
      | cons _ front =>
          rcases induction (List.cons.inj shown).2 with ⟨before, byte, rfl, isByte⟩
          exact ⟨part ++ before, byte, (List.append_assoc ..).symm, isByte⟩

private theorem last_shown {bytes : List UInt8}
    (last : ∀ byte ∈ bytes.getLast?, isNewlineByte byte = false) :
    ∀ char ∈ (decodeLossy bytes).toList.getLast?, isNewlineChar char = false := by
  intro char isLast
  by_contra newline
  rw [Bool.not_eq_false] at newline
  rcases List.getLast?_eq_some_iff.mp isLast with ⟨front, shown⟩
  rw [Utf8.toList_decodeLossy] at shown
  rcases exists_of_shown_concat (Utf8.reading_pieces bytes) newline shown with
    ⟨before, byte, rfl, isByte⟩
  have ends := last byte (by simp)
  rw [isByte] at ends
  cases ends

/-- Line ends can be taken off before or after the bytes are decoded. -/
theorem trims_decodeLossy (bytes : List UInt8) :
    Trims isNewlineChar (decodeLossy bytes).toList (decodeLossy (stripNewlines bytes)).toList := by
  have ends := ends_trimBoth isNewlineByte bytes
  refine ⟨?_, first_shown ends.1, last_shown ends.2⟩
  rcases exists_trimBoth isNewlineByte bytes with ⟨front, back, allFront, allBack, cut⟩
  rw [← stripNewlines] at cut
  have stops := stops_of_newlines allBack
  rcases exists_newlines allFront with ⟨frontText, rfl, newlinesFront⟩
  rcases exists_newlines allBack with ⟨backText, rfl, newlinesBack⟩
  refine ⟨frontText, backText, newlinesFront, newlinesBack, ?_⟩
  rw [Utf8.toList_decodeLossy, Utf8.toList_decodeLossy]
  generalize stripNewlines bytes = kept at cut
  rw [cut, Utf8.pieces_text_append, Utf8.pieces_append_of_stops stops, Utf8.pieces_text,
    List.map_append, List.map_append, Utf8.map_shown_scalar, Utf8.map_shown_scalar]

end QueryPipe.Text

namespace QueryPipe.Command

open Text (Trims isNewlineByte isNewlineChar stripNewlines)
open Text.Utf8 (IsEncoding Shows encode)

/-- How the output of a command comes from the bytes that it has printed. -/
structure Cleans (printed : List UInt8) (output : String) : Prop where
  /-- The bytes are shown as one text, and the output is this text without the line ends
  around it. -/
  trimmed : ∃ text, (∀ other, Shows printed other ↔ other = text) ∧
    Trims isNewlineChar text output.toList
  /-- The bytes without the line ends around them are shown as the output. -/
  stripped : Trims isNewlineByte printed (stripNewlines printed) ∧
    Shows (stripNewlines printed) output.toList
  /-- Nothing is replaced if the bytes are those of a text. -/
  exact : IsEncoding printed → encode output = stripNewlines printed

/-- What a command has printed is cleaned up without a character being cut or completed: for
all bytes, and so for those that a command line has printed when it is run. -/
theorem outputText_cleans [Files.WorkingDirectory] :
    (∀ printed, Cleans printed (outputText printed) ∧
      outputText printed = Text.stripNewlineChars (Text.Utf8.decodeLossy printed)) ∧
    ∀ (searchPath : List String) (shell command input : String) (tree after : Files.Node)
      (answer : Answer), withShell searchPath shell command input tree = (.ok answer, after) →
      ∃ outcome, Shell.launch searchPath shell (script command) input tree = .ok outcome ∧
        Cleans outcome.printed answer.output := by
  have cleans (printed : List UInt8) : Cleans printed (outputText printed) := by
    refine ⟨⟨_, fun _ => Text.Utf8.shows_iff, Text.trims_decodeLossy printed⟩,
      ⟨Text.trims_trimBoth .., Text.Utf8.shows_iff.mpr rfl⟩, ?_⟩
    rintro ⟨text, rfl⟩
    have left := Text.stripNewlines_encode text.toList
    rw [String.ofList_toList] at left
    rw [outputText, left, Text.Utf8.decodeLossy_encode]
  refine ⟨fun printed => ⟨cleans printed, ?_⟩, ?_⟩
  · rw [Text.stripNewlineChars, ← (Text.trims_decodeLossy printed).eq, String.ofList_toList]
    rfl
  · intro searchPath shell command input tree after answer ran
    rw [withShell] at ran
    split at ran
    · cases ran
    · split at ran
      · cases ran
      · rename_i outcome launched
        rcases Prod.mk.inj ran with ⟨answered, -⟩
        rcases Except.ok.inj answered with rfl
        exact ⟨outcome, launched, cleans outcome.printed⟩

/-- A character that breaks off before the last line end. -/
theorem outputText_cleans_truncated :
    ∃ outcome, Shell.launch [] "sh" (script "printf '\\n\\342\\202\\n'") "" (.directory []) =
        .ok outcome ∧
      outcome.printed = [10, 0xE2, 0x82, 10] ∧ Cleans outcome.printed "\uFFFD" := by
  have answered : (withShell [] "sh" "printf '\\n\\342\\202\\n'" "" (.directory [])).1 =
      .ok ⟨"\uFFFD", 0⟩ := by
    decide +kernel
  have printed : (Shell.launch [] "sh" (script "printf '\\n\\342\\202\\n'") ""
      (.directory [])).toOption.map (·.printed) = some [10, 0xE2, 0x82, 10] := by
    decide +kernel
  rcases outputText_cleans.2 _ _ _ _ _ _ _ (Prod.ext answered rfl) with
    ⟨outcome, launched, cleans⟩
  rw [launched] at printed
  exact ⟨outcome, launched, Option.some.inj printed, cleans⟩

end QueryPipe.Command
