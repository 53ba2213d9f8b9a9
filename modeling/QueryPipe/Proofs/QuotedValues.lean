import QueryPipe.Proofs.Meaning
import Mathlib.Data.List.Forall2

/-! The value of a quoted text. Text from a raw literal is what its literal means, and text
from an interpreted literal means what its lines mean; a frame of line ends is all that
quoting adds. -/

namespace QueryPipe.Go

open Literal (joinLine)

/-! ## Bodies of quoted texts -/

theorem Unescapes.append {first second : List Char} {firstValue secondValue : List UInt8}
    (unescapes : Unescapes first firstValue) (behind : Unescapes second secondValue) :
    Unescapes (first ++ second) (firstValue ++ secondValue) := by
  induction unescapes with
  | nil => exact behind
  | char noBackslash noQuote noLineEnd _ induction =>
      rw [List.append_assoc]
      exact .char noBackslash noQuote noLineEnd induction
  | escape known _ induction =>
      rw [List.append_assoc, List.cons_append, List.append_assoc]
      exact .escape known induction

private theorem unescapes_letter {letter : Char} {bytes : List UInt8}
    (known : escapeValue? [letter] = some bytes) : Unescapes ['\\', letter] bytes := by
  simpa using Unescapes.escape known .nil

/-- Escaped text means the text. -/
theorem unescapes_escape (text : List Char) :
    Unescapes (text.flatMap Literal.escape) (text.flatMap String.utf8EncodeChar) := by
  induction text with
  | nil => exact .nil
  | cons char text induction =>
      have single : Unescapes (Literal.escape char) (String.utf8EncodeChar char) := by
        unfold Literal.escape
        split
        · exact unescapes_letter rfl
        · exact unescapes_letter rfl
        · exact unescapes_letter rfl
        · exact unescapes_letter rfl
        · exact unescapes_letter rfl
        · rename_i noBackslash noQuote noLineEnd _ _
          simpa using Unescapes.char noBackslash noQuote noLineEnd .nil
      exact single.append induction

/-- Plain characters mean themselves. -/
theorem Unescapes.eq_of_noBackslash {body : List Char} {value : List UInt8}
    (unescapes : Unescapes body value) (noBackslash : '\\' ∉ body) :
    value = body.flatMap String.utf8EncodeChar := by
  have plain {body : List Char} {value : List UInt8} (unescapes : Unescapes body value)
      (noBackslash : '\\' ∉ body) : body.flatMap String.utf8EncodeChar = value := by
    induction unescapes with
    | nil => rfl
    | char _ _ _ _ induction =>
        rw [List.mem_cons, not_or] at noBackslash
        rw [List.flatMap_cons, induction noBackslash.2]
    | escape => simp at noBackslash
  exact (plain unescapes noBackslash).symm

/-! ## Lines -/

/-- What is written for every item is written for the items of lists and for what separates
them. -/
private theorem flatMap_intercalate (write : α → List β) (separator : List α)
    (lists : List (List α)) :
    (separator.intercalate lists).flatMap write =
      (separator.flatMap write).intercalate (lists.map (·.flatMap write)) := by
  induction lists with
  | nil => rfl
  | cons list lists induction =>
      cases lists with
      | nil => simp
      | cons next lists =>
          rw [List.intercalate_cons_cons, List.flatMap_append, List.flatMap_append, induction]
          simp only [List.map_cons, List.intercalate_cons_cons]

/-- Lines that are joined by escaped line ends mean their values, joined by line ends. -/
theorem unescapes_intercalate {lines : List (List Char)} {values : List (List UInt8)}
    (each : List.Forall₂ Unescapes lines values) :
    Unescapes (['\\', 'n'].intercalate lines) ([10].intercalate values) := by
  induction each with
  | nil => exact .nil
  | @cons line value lines values first each induction =>
      cases each with
      | nil => simpa using first
      | cons second rest =>
          rw [List.intercalate_cons_cons, List.intercalate_cons_cons]
          exact (first.append (unescapes_letter rfl)).append induction

private theorem mem_intercalate {item : α} {separator list : List α} {lists : List (List α)}
    (inside : item ∈ list) (member : list ∈ lists) : item ∈ separator.intercalate lists := by
  induction lists with
  | nil => cases member
  | cons first lists induction =>
      cases lists with
      | nil => simpa [← List.mem_singleton.mp member] using inside
      | cons second lists =>
          rw [List.intercalate_cons_cons, List.mem_append, List.mem_append]
          rcases List.mem_cons.mp member with rfl | member
          · exact .inl (.inl inside)
          · exact .inr (induction member)

section Lines

variable {text : List Char} {values : List (List UInt8)}

/-- What a text does not hold, its lines do not hold. -/
private theorem lines_without {char : Char} (absent : char ∉ text)
    (each : List.Forall₂ Unescapes (text.splitOn '\n') values) :
    List.Forall₂ (fun line value => char ∉ line ∧ Unescapes line value) (text.splitOn '\n')
      values := by
  have whole : ['\n'].intercalate (text.splitOn '\n') = text := List.intercalate_splitOn '\n'
  rw [List.forall₂_and_left]
  refine ⟨?_, each⟩
  intro line member inside
  apply absent
  rw [← whole]
  exact mem_intercalate inside member

private theorem map_joinLine {lines : List (List Char)}
    (each : List.Forall₂ (fun line value => '\r' ∉ line ∧ Unescapes line value) lines values) :
    lines.map (·.flatMap joinLine) = lines := by
  induction each with
  | nil => rfl
  | @cons line value lines values first _ induction =>
      have noNewline : ∀ char ∈ line, Text.isNewlineChar char = false := by
        intro char member
        rw [Text.isNewlineChar, Bool.or_eq_false_iff, beq_eq_false_iff_ne, beq_eq_false_iff_ne]
        constructor
        · rintro rfl
          exact first.2.noLineEnd member
        · rintro rfl
          exact first.1 member
      rw [List.map_cons, induction, Template.flatMap_joinLine_of_noNewline noNewline]

/-- Lines of bodies, with the line ends between them written as escapes. -/
theorem unescapes_joined (noReturn : '\r' ∉ text)
    (each : List.Forall₂ Unescapes (text.splitOn '\n') values) :
    Unescapes (text.flatMap joinLine) ([10].intercalate values) := by
  have joined := flatMap_intercalate joinLine ['\n'] (text.splitOn '\n')
  rw [List.intercalate_splitOn, map_joinLine (lines_without noReturn each)] at joined
  rw [joined]
  exact unescapes_intercalate each

/-- Lines of bodies without escapes mean the text. -/
theorem intercalate_of_noBackslash (noBackslash : '\\' ∉ text)
    (each : List.Forall₂ Unescapes (text.splitOn '\n') values) :
    [10].intercalate values = text.flatMap String.utf8EncodeChar := by
  have plain := (lines_without noBackslash each).imp
    fun _ _ line => (line.2.eq_of_noBackslash line.1).symm
  rw [← List.forall₂_map_left_iff, List.forall₂_eq_eq_eq] at plain
  have joined := flatMap_intercalate String.utf8EncodeChar ['\n'] (text.splitOn '\n')
  rw [List.intercalate_splitOn, plain] at joined
  exact joined.symm

end Lines

end QueryPipe.Go

namespace QueryPipe.Literal

open Go (stringValue? unescapeFrom?)
open Text.Utf8 (encode)

/-! ## Quoted texts -/

private theorem stringValue?_rawLines {text : List Char} (noReturn : '\r' ∉ text)
    (noBackquote : backquote ∉ text) :
    stringValue? (rawLines text) = some (encode (String.ofList (['\n'] ++ (text ++ ['\n'])))) := by
  have framedNoReturn : '\r' ∉ ['\n'] ++ (text ++ ['\n']) := by
    simpa using noReturn
  have framedNoBackquote : backquote ∉ ['\n'] ++ (text ++ ['\n']) := by
    simpa [backquote] using noBackquote
  rw [rawLines_eq, Go.stringValue?_between_backquote, if_neg framedNoBackquote,
    Go.verbatimBytes_of_noReturn framedNoReturn, Text.Utf8.encode_ofList]

private theorem stringValue?_requote_raw {text : List Char} (noReturn : '\r' ∉ text) :
    stringValue? (requote text .raw) = some (encode (String.ofList
      (if '\n' ∈ text ∧ backquote ∉ text then ['\n'] ++ (text ++ ['\n']) else text))) := by
  by_cases inside : backquote ∈ text
  · rw [if_neg (by simp [inside]), requote_raw_escaped inside,
      Go.stringValue?_between_doubleQuote, (Go.unescapes_escape text).unescapeFrom?,
      Text.Utf8.encode_ofList]
  by_cases several : '\n' ∈ text
  · rw [if_pos ⟨several, inside⟩, requote_raw_lines inside several,
      stringValue?_rawLines noReturn inside]
  rw [if_neg (by simp [several]), Text.Utf8.encode_ofList]
  by_cases verbatim : doubleQuote ∈ text ∨ '\\' ∈ text
  · rw [requote_raw_verbatim inside several verbatim, Go.stringValue?_between_backquote,
      if_neg inside, Go.verbatimBytes_of_noReturn noReturn]
  · rw [not_or] at verbatim
    have unescapes := Go.Unescapes.nil.behind verbatim.2 verbatim.1 several
    rw [List.append_nil, List.append_nil] at unescapes
    rw [requote_raw_line inside several verbatim.1 verbatim.2,
      Go.stringValue?_between_doubleQuote, unescapes.unescapeFrom?]

private theorem stringValue?_requote_lines {text : List Char} {values : List (List UInt8)}
    (noReturn : '\r' ∉ text)
    (each : List.Forall₂ Go.Unescapes (text.splitOn '\n') values) :
    stringValue? (requote text .interpreted) = some
      (if '\n' ∈ text ∧ '\\' ∉ text ∧ backquote ∉ text then
        [10] ++ ([10].intercalate values ++ [10])
      else [10].intercalate values) := by
  by_cases several : '\n' ∈ text
  · by_cases escaped : '\\' ∈ text ∨ backquote ∈ text
    · have notFramed : ¬ ('\n' ∈ text ∧ '\\' ∉ text ∧ backquote ∉ text) := by
        tauto
      rw [if_neg notFramed, requote_interpreted_joined several escaped,
        Go.stringValue?_between_doubleQuote, (Go.unescapes_joined noReturn each).unescapeFrom?]
    · rw [not_or] at escaped
      rw [if_pos ⟨several, escaped⟩, requote_interpreted_lines several escaped.1 escaped.2,
        stringValue?_rawLines noReturn escaped.2, Go.intercalate_of_noBackslash escaped.1 each,
        Text.Utf8.encode_ofList]
      simp [String.utf8EncodeChar]
  · rw [if_neg (by simp [several])]
    rw [List.splitOn_eq_singleton several] at each
    cases each with
    | cons unescapes rest =>
        cases rest
        rw [stringValue?_requote_interpreted unescapes, List.intercalate_singleton]

/-- Quoting keeps the value of a text without carriage returns: the text itself where it
comes from a raw literal, and its lines' values where it comes from an interpreted one.
Text of several lines that needs no escapes gets line ends before and behind it. -/
theorem stringValue?_requote {text : List Char} (noReturn : '\r' ∉ text) :
    stringValue? (requote text .raw) = some (encode (String.ofList
      (if '\n' ∈ text ∧ backquote ∉ text then ['\n'] ++ (text ++ ['\n']) else text))) ∧
    ∀ values, List.Forall₂ (fun line value => unescapeFrom? 0 line = some value)
        (text.splitOn '\n') values →
      stringValue? (requote text .interpreted) = some
        (if '\n' ∈ text ∧ '\\' ∉ text ∧ backquote ∉ text then
          [10] ++ ([10].intercalate values ++ [10])
        else [10].intercalate values) := by
  refine ⟨stringValue?_requote_raw noReturn, ?_⟩
  intro values each
  exact stringValue?_requote_lines noReturn
    (each.imp fun _ _ read => Go.unescapes_of_unescapeFrom? read)

theorem stringValue?_requote_mixed :
    '\r' ∉ "a\\\"\tb`\nc".toList ∧
    List.Forall₂ (fun line value => unescapeFrom? 0 line = some value)
      ("a\\\"\tb`\nc".toList.splitOn '\n') [[97, 34, 9, 98, 96], [99]] ∧
    stringValue? (requote "a\\\"\tb`\nc".toList .raw) = some (encode "a\\\"\tb`\nc") ∧
    stringValue? (requote "a\\\"\tb`\nc".toList .interpreted) =
      some [97, 34, 9, 98, 96, 10, 99] := by
  have noReturn : '\r' ∉ "a\\\"\tb`\nc".toList := by
    decide +kernel
  have each : List.Forall₂ (fun line value => unescapeFrom? 0 line = some value)
      ("a\\\"\tb`\nc".toList.splitOn '\n') [[97, 34, 9, 98, 96], [99]] := by
    have lines : "a\\\"\tb`\nc".toList.splitOn '\n' = ["a\\\"\tb`".toList, "c".toList] := by
      decide +kernel
    rw [lines]
    exact .cons (by decide +kernel) (.cons (by decide +kernel) .nil)
  have quoted := stringValue?_requote noReturn
  refine ⟨noReturn, each, ?_, ?_⟩
  · rw [quoted.1, if_neg (by decide +kernel), String.ofList_toList]
  · rw [quoted.2 _ each, if_neg (by decide +kernel)]
    rfl

end QueryPipe.Literal
