import QueryPipe.Proofs.Sentinels

/-! The scan of the bytes of a text. Looking for sentinels at every byte finds what the
scan of the characters finds: sentinels are ASCII, and a character that is not has no
ASCII byte, so every sentinel begins and ends between characters. -/

namespace QueryPipe.Template

open Text.Utf8 (byteLength le_of_mem_utf8EncodeChar utf8EncodeChar_of_lt)

/-! ## Bytes of characters -/

private theorem beq_of_lt {char other : Char} (ascii : char.val.toNat < 128)
    (otherAscii : other.val.toNat < 128) :
    (UInt8.ofNat char.val.toNat == UInt8.ofNat other.val.toNat) = (char == other) := by
  rw [Bool.eq_iff_iff, beq_iff_eq, beq_iff_eq, ← UInt8.toNat_inj, UInt8.toNat_ofNat',
    UInt8.toNat_ofNat', Char.ext_iff, ← UInt32.toNat_inj]
  omega

private theorem isPrefixOf_utf8EncodeChar_of_le {byte : UInt8} (small : byte.toNat < 128)
    {char : Char} (large : 128 ≤ char.val.toNat) (front rest : List UInt8) :
    (byte :: front).isPrefixOf (String.utf8EncodeChar char ++ rest) = false := by
  cases bytes : String.utf8EncodeChar char with
  | nil => exact absurd bytes String.utf8EncodeChar_ne_nil
  | cons lead others =>
      have leadLarge : 128 ≤ lead.toNat := le_of_mem_utf8EncodeChar large (by simp [bytes])
      have differ : (byte == lead) = false := by
        rw [beq_eq_false_iff_ne]
        rintro rfl
        omega
      rw [List.cons_append, List.isPrefixOf_cons_cons, differ, Bool.false_and]

/-- The bytes of a text begin with the bytes of an ASCII text just if the text begins
with it. -/
theorem isPrefixOf_flatMap_utf8EncodeChar {front : List Char}
    (ascii : ∀ char ∈ front, char.val.toNat < 128) (text : List Char) :
    (front.flatMap String.utf8EncodeChar).isPrefixOf (text.flatMap String.utf8EncodeChar) =
      front.isPrefixOf text := by
  induction front generalizing text with
  | nil => simp
  | cons char front induction =>
      have charAscii := ascii char (List.mem_cons_self ..)
      have rest := induction fun other member => ascii other (List.mem_cons_of_mem _ member)
      rw [List.flatMap_cons, utf8EncodeChar_of_lt charAscii, List.singleton_append]
      cases text with
      | nil => rfl
      | cons other text =>
          rw [List.flatMap_cons, List.isPrefixOf_cons_cons]
          by_cases otherAscii : other.val.toNat < 128
          · rw [utf8EncodeChar_of_lt otherAscii, List.singleton_append, List.isPrefixOf_cons_cons,
              rest, beq_of_lt charAscii otherAscii]
          · have differ : (char == other) = false := by
              rw [beq_eq_false_iff_ne]
              rintro rfl
              exact otherAscii charAscii
            rw [differ, Bool.false_and]
            refine isPrefixOf_utf8EncodeChar_of_le ?_ (Nat.le_of_not_lt otherAscii) _ _
            rw [UInt8.toNat_ofNat']
            omega

/-! ## Sentinels among bytes -/

/-- The verb whose sentinel a byte string begins with. -/
def sentinelAmong? (bytes : List UInt8) : Option Verb :=
  Verb.all.find? fun verb => (verb.sentinel.flatMap String.utf8EncodeChar).isPrefixOf bytes

/-- The sentinels of a byte string that begins at an offset, looked for at every byte; the
first `skip` bytes belong to the sentinel before them. -/
def byteOccurrencesFrom : (skip offset : Nat) → List UInt8 → List Occurrence
  | _, _, [] => []
  | skip + 1, offset, _ :: rest => byteOccurrencesFrom skip (offset + 1) rest
  | 0, offset, byte :: rest =>
    match sentinelAmong? (byte :: rest) with
    | some verb =>
      ⟨offset, verb⟩ :: byteOccurrencesFrom (byteLength verb.sentinel - 1) (offset + 1) rest
    | none => byteOccurrencesFrom 0 (offset + 1) rest

/-- The sentinels of a byte string, from left to right. -/
def byteOccurrences (bytes : List UInt8) : List Occurrence := byteOccurrencesFrom 0 0 bytes

theorem lt_of_mem_sentinel {verb : Verb} {char : Char} (member : char ∈ verb.sentinel) :
    char.val.toNat < 128 := by
  have all : (verb.sentinel.all fun char => decide (char.val.toNat < 128)) = true := by
    cases verb <;> rfl
  simpa using List.all_eq_true.mp all char member

theorem sentinelAmong?_flatMap_utf8EncodeChar (text : List Char) :
    sentinelAmong? (text.flatMap String.utf8EncodeChar) = sentinelAt? text := by
  rw [sentinelAmong?, sentinelAt?]
  congr 1
  funext verb
  exact isPrefixOf_flatMap_utf8EncodeChar (fun _ => lt_of_mem_sentinel) text

/-- No sentinel begins at a byte that is not ASCII. -/
theorem sentinelAmong?_cons_of_le {byte : UInt8} (large : 128 ≤ byte.toNat) (rest : List UInt8) :
    sentinelAmong? (byte :: rest) = none := by
  rw [Option.eq_none_iff_forall_ne_some]
  intro verb found
  have begins := List.find?_some found
  rw [List.isPrefixOf_iff_prefix] at begins
  have small : ∀ other ∈ verb.sentinel.flatMap String.utf8EncodeChar, other.toNat < 128 := by
    intro other member
    rcases List.mem_flatMap.mp member with ⟨char, charMember, inside⟩
    have ascii := lt_of_mem_sentinel charMember
    rw [utf8EncodeChar_of_lt ascii, List.mem_singleton] at inside
    rw [inside, UInt8.toNat_ofNat']
    omega
  have nonempty : verb.sentinel.flatMap String.utf8EncodeChar ≠ [] := by
    have positive := Text.Utf8.byteLength_pos verb.sentinel_ne_nil
    rw [← Text.Utf8.length_flatMap_utf8EncodeChar] at positive
    exact List.ne_nil_of_length_pos positive
  rcases begins with ⟨more, equal⟩
  cases bytes : verb.sentinel.flatMap String.utf8EncodeChar with
  | nil => exact nonempty bytes
  | cons lead others =>
      rw [bytes] at equal small
      rcases List.cons.inj equal with ⟨rfl, -⟩
      exact absurd (small lead (List.mem_cons_self ..)) (Nat.not_lt.mpr large)

/-- Bytes that are known to belong to a sentinel are passed over. -/
private theorem byteOccurrencesFrom_skip (skipped rest : List UInt8) (offset : Nat) :
    byteOccurrencesFrom skipped.length offset (skipped ++ rest) =
      byteOccurrencesFrom 0 (offset + skipped.length) rest := by
  induction skipped generalizing offset with
  | nil => rfl
  | cons byte skipped induction =>
      rw [List.length_cons, List.cons_append, byteOccurrencesFrom, induction]
      congr 1
      omega

/-- So are bytes that are not ASCII. -/
private theorem byteOccurrencesFrom_large {bytes : List UInt8}
    (large : ∀ byte ∈ bytes, 128 ≤ byte.toNat) (rest : List UInt8) (offset : Nat) :
    byteOccurrencesFrom 0 offset (bytes ++ rest) =
      byteOccurrencesFrom 0 (offset + bytes.length) rest := by
  induction bytes generalizing offset with
  | nil => rfl
  | cons byte bytes induction =>
      have missed := sentinelAmong?_cons_of_le (large byte (List.mem_cons_self ..)) (bytes ++ rest)
      have after := induction fun other member => large other (List.mem_cons_of_mem _ member)
      rw [List.cons_append, byteOccurrencesFrom, missed]
      simp only [after, List.length_cons]
      congr 1
      omega

private theorem byteOccurrencesFrom_char {char : Char} {rest : List Char}
    (missed : sentinelAt? (char :: rest) = none) (offset : Nat) :
    byteOccurrencesFrom 0 offset ((char :: rest).flatMap String.utf8EncodeChar) =
      byteOccurrencesFrom 0 (offset + char.utf8Size) (rest.flatMap String.utf8EncodeChar) := by
  by_cases ascii : char.val.toNat < 128
  · rw [← sentinelAmong?_flatMap_utf8EncodeChar] at missed
    have size := String.length_utf8EncodeChar char
    rw [List.flatMap_cons, utf8EncodeChar_of_lt ascii, List.singleton_append] at missed ⊢
    rw [utf8EncodeChar_of_lt ascii] at size
    rw [byteOccurrencesFrom, missed, ← size]
    rfl
  · have large : ∀ byte ∈ String.utf8EncodeChar char, 128 ≤ byte.toNat :=
      fun _ => le_of_mem_utf8EncodeChar (Nat.le_of_not_lt ascii)
    rw [List.flatMap_cons, byteOccurrencesFrom_large large, String.length_utf8EncodeChar]

private theorem byteOccurrencesFrom_sentinel (verb : Verb) (rest : List Char) (offset : Nat) :
    byteOccurrencesFrom 0 offset ((verb.sentinel ++ rest).flatMap String.utf8EncodeChar) =
      ⟨offset, verb⟩ ::
        byteOccurrencesFrom 0 (offset + byteLength verb.sentinel)
          (rest.flatMap String.utf8EncodeChar) := by
  have found := sentinelAmong?_flatMap_utf8EncodeChar (verb.sentinel ++ rest)
  have size := Text.Utf8.length_flatMap_utf8EncodeChar verb.sentinel
  rw [sentinelAt?_sentinel_append, List.flatMap_append] at found
  rw [List.flatMap_append]
  cases bytes : verb.sentinel.flatMap String.utf8EncodeChar with
  | nil =>
      have positive := Text.Utf8.byteLength_pos verb.sentinel_ne_nil
      rw [← size, bytes] at positive
      cases positive
  | cons lead others =>
      rw [bytes, List.cons_append] at found
      rw [bytes, List.length_cons] at size
      rw [List.cons_append, byteOccurrencesFrom, found]
      simp only [← size, Nat.add_sub_cancel, byteOccurrencesFrom_skip]
      congr 2
      omega

private theorem byteOccurrencesFrom_text (text : List Char) (offset : Nat) :
    byteOccurrencesFrom 0 offset (text.flatMap String.utf8EncodeChar) =
      occurrencesFrom offset (chunks text) := by
  induction text using scan_induction generalizing offset with
  | nil => rfl
  | plain char rest missed induction =>
      rw [byteOccurrencesFrom_char missed, chunks_cons_of_none missed, occurrencesFrom, induction]
  | sentinel verb rest induction =>
      rw [byteOccurrencesFrom_sentinel, chunks_sentinel_append, occurrencesFrom, induction]

/-- The scan of the bytes of a text finds what the scan of its characters finds. -/
theorem byteOccurrences_encode (text : List Char) :
    byteOccurrences (Text.Utf8.encode (String.ofList text)) = occurrences text := by
  rw [Text.Utf8.encode_ofList]
  exact byteOccurrencesFrom_text text 0

end QueryPipe.Template
