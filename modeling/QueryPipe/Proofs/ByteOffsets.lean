import QueryPipe.Text.Utf8
import Mathlib.Data.List.Basic

/-! Byte offsets of a text. Every place that the program cuts a text at is the
byte length of some characters at its front, and there the cut is exact. -/

namespace QueryPipe.Text.Utf8

private theorem foldl_utf8Size (text : List Char) (total : Nat) :
    text.foldl (fun total char => total + char.utf8Size) total = total + byteLength text := by
  induction text generalizing total with
  | nil => rfl
  | cons char rest induction =>
      simp only [byteLength, List.foldl_cons, Nat.zero_add]
      rw [induction, induction char.utf8Size, Nat.add_assoc]

@[simp] theorem byteLength_nil : byteLength [] = 0 := rfl

@[simp] theorem byteLength_cons (char : Char) (rest : List Char) :
    byteLength (char :: rest) = char.utf8Size + byteLength rest := by
  rw [byteLength, List.foldl_cons, foldl_utf8Size, Nat.zero_add]

@[simp] theorem byteLength_append (left right : List Char) :
    byteLength (left ++ right) = byteLength left + byteLength right := by
  induction left with
  | nil => simp
  | cons char rest induction =>
      simp only [List.cons_append, byteLength_cons, induction, Nat.add_assoc]

theorem length_flatMap_utf8EncodeChar (text : List Char) :
    (text.flatMap String.utf8EncodeChar).length = byteLength text := by
  induction text with
  | nil => rfl
  | cons char rest induction =>
      rw [List.flatMap_cons, List.length_append, String.length_utf8EncodeChar, induction,
        byteLength_cons]

theorem encode_ofList (text : List Char) :
    encode (String.ofList text) = text.flatMap String.utf8EncodeChar := by
  rw [encode, String.toUTF8_eq_toByteArray, String.toByteArray_ofList, List.utf8Encode,
    List.data_toByteArray]

theorem encode_eq (text : String) : encode text = text.toList.flatMap String.utf8EncodeChar := by
  rw [← encode_ofList, String.ofList_toList]

/-- An ASCII character is one byte. -/
theorem utf8EncodeChar_of_lt {char : Char} (ascii : char.val.toNat < 128) :
    String.utf8EncodeChar char = [UInt8.ofNat char.val.toNat] := by
  unfold String.utf8EncodeChar
  exact if_pos (by omega)

/-- No byte of another character is ASCII. -/
theorem le_of_mem_utf8EncodeChar {char : Char} (large : 128 ≤ char.val.toNat) {byte : UInt8}
    (member : byte ∈ String.utf8EncodeChar char) : 128 ≤ byte.toNat := by
  have notOne : ¬ char.val.toNat ≤ 127 := by omega
  simp only [String.utf8EncodeChar, if_neg notOne] at member
  split_ifs at member <;>
  · simp only [List.mem_cons, List.not_mem_nil, or_false] at member
    rcases member with rfl | rfl | rfl | rfl <;> simp only [UInt8.toNat_ofNat'] <;> omega

theorem byteLength_pos {text : List Char} (nonempty : text ≠ []) : 0 < byteLength text := by
  cases text with
  | nil => exact absurd rfl nonempty
  | cons char rest =>
      rw [byteLength_cons]
      exact Nat.add_pos_left char.utf8Size_pos _

theorem byteLength_eq_zero {text : List Char} (empty : byteLength text = 0) : text = [] := by
  by_contra nonempty
  have positive := byteLength_pos nonempty
  omega

/-- Two ways to begin one text: the one with fewer bytes begins the other. -/
theorem append_eq_append_of_byteLength_le {first second firstRest secondRest : List Char}
    (equal : first ++ firstRest = second ++ secondRest)
    (shorter : byteLength first ≤ byteLength second) :
    ∃ between, second = first ++ between ∧ firstRest = between ++ secondRest := by
  rcases List.append_eq_append_iff.mp equal with ⟨between, secondEq, firstEq⟩ | ⟨between, firstEq, secondEq⟩
  · exact ⟨between, secondEq, firstEq⟩
  · subst firstEq
    rw [byteLength_append] at shorter
    have empty : between = [] := byteLength_eq_zero (by omega)
    subst empty
    exact ⟨[], by simp, by simpa using secondEq.symm⟩

theorem append_inj_of_byteLength {first second firstRest secondRest : List Char}
    (equal : first ++ firstRest = second ++ secondRest)
    (sameLength : byteLength first = byteLength second) :
    first = second ∧ firstRest = secondRest := by
  rcases append_eq_append_of_byteLength_le equal (Nat.le_of_eq sameLength) with
    ⟨between, rfl, rfl⟩
  rw [byteLength_append] at sameLength
  have empty : between = [] := byteLength_eq_zero (by omega)
  subst empty
  exact ⟨(List.append_nil _).symm, rfl⟩

/-- A character takes a byte at least, and leaves the bytes of the characters behind it. -/
theorem exists_byteLength_cons (char : Char) (rest : List Char) :
    ∃ count, byteLength (char :: rest) = count + 1 ∧ char.utf8Size ≤ count + 1 ∧
      count + 1 - char.utf8Size = byteLength rest := by
  have positive := char.utf8Size_pos
  have counted := byteLength_cons char rest
  refine ⟨byteLength (char :: rest) - 1, ?_, ?_, ?_⟩ <;> omega

private theorem splitInto_append (taken front rest : List Char) :
    splitInto taken (byteLength front) (front ++ rest) = (front.reverse ++ taken, rest) := by
  induction front generalizing taken with
  | nil => cases rest <;> rfl
  | cons char front induction =>
      rcases exists_byteLength_cons char front with ⟨count, counted, -, left⟩
      rw [counted, List.cons_append, splitInto, left, induction]
      simp

/-- A cut at the byte length of the front gives the front. -/
@[simp] theorem splitAt_append (front rest : List Char) :
    splitAt (byteLength front) (front ++ rest) = (front, rest) := by
  simp [splitAt, splitInto_append]

@[simp] theorem splitAt_zero (text : List Char) : splitAt 0 text = ([], text) :=
  splitAt_append [] text

end QueryPipe.Text.Utf8
