import QueryPipe.Proofs.ByteOffsets

/-! Reading the bytes of one character. What is read as a character are the bytes that the
character is encoded with, and bytes that are read as a fault go on like a character for as
long as they can. -/

namespace QueryPipe.Text.Utf8

open String (utf8EncodeChar)

theorem isContinuation_iff {byte : UInt8} :
    isContinuation byte = true ↔ 128 ≤ byte.toNat ∧ byte.toNat ≤ 191 := by
  simp [isContinuation, UInt8.le_iff_toNat_le]

/-! ## Characters of several bytes -/

/-- A leading byte, and a byte that may follow it: how many bytes follow it in all, and its
share of the code point. -/
def Leads (lead second : UInt8) (missing share : Nat) : Prop :=
  ∃ low high, leading? lead = some (missing, low, high, share) ∧ low ≤ second ∧ second ≤ high

theorem leads_iff {lead second : UInt8} {missing share : Nat} :
    Leads lead second missing share ↔
      (128 ≤ second.toNat ∧ second.toNat ≤ 191) ∧
      ((missing = 1 ∧ share = lead.toNat % 32 ∧ 194 ≤ lead.toNat ∧ lead.toNat ≤ 223) ∨
       (missing = 2 ∧ share = lead.toNat % 16 ∧ 224 ≤ lead.toNat ∧ lead.toNat ≤ 239 ∧
          (lead.toNat = 224 → 160 ≤ second.toNat) ∧ (lead.toNat = 237 → second.toNat ≤ 159)) ∨
       (missing = 3 ∧ share = lead.toNat % 8 ∧ 240 ≤ lead.toNat ∧ lead.toNat ≤ 244 ∧
          (lead.toNat = 240 → 144 ≤ second.toNat) ∧ (lead.toNat = 244 → second.toNat ≤ 143))) := by
  simp only [Leads, leading?, beq_iff_eq, UInt8.lt_iff_toNat_lt, UInt8.le_iff_toNat_le,
    ← UInt8.toNat_inj, UInt8.reduceToNat]
  have small := lead.toNat_lt
  generalize second.toNat = next
  generalize lead.toNat = first at small ⊢
  -- One case for each range of leading bytes.
  repeat' split
  all_goals
    simp
    omega

/-- The code point that is complete with some continuation bytes. -/
def codeOf (code : Nat) (tail : List UInt8) : Nat :=
  tail.foldl (fun code byte => code * 64 + payload byte) code

private theorem utf8EncodeChar_ofNat {code : Nat} (valid : code.isValidChar) :
    utf8EncodeChar (Char.ofNat code) =
      if code ≤ 127 then [UInt8.ofNat code]
      else if code ≤ 2047 then [UInt8.ofNat (code / 64 % 32 + 192), UInt8.ofNat (code % 64 + 128)]
      else if code ≤ 65535 then
        [UInt8.ofNat (code / 4096 % 16 + 224), UInt8.ofNat (code / 64 % 64 + 128),
          UInt8.ofNat (code % 64 + 128)]
      else
        [UInt8.ofNat (code / 262144 % 8 + 240), UInt8.ofNat (code / 4096 % 64 + 128),
          UInt8.ofNat (code / 64 % 64 + 128), UInt8.ofNat (code % 64 + 128)] := by
  have same : (Char.ofNat code).val.toNat = code := by
    rw [Char.ofNat, dif_pos valid]
    rfl
  rw [utf8EncodeChar, same]

/-- A leading byte with all bytes that follow it is the encoding of a character. -/
theorem utf8EncodeChar_of_leads {lead second : UInt8} {tail : List UInt8} {share : Nat}
    (leads : Leads lead second (tail.length + 1) share)
    (continues : ∀ byte ∈ tail, isContinuation byte = true) :
    utf8EncodeChar (Char.ofNat (codeOf (share * 64 + payload second) tail)) =
      lead :: second :: tail := by
  simp only [isContinuation_iff] at continues
  rcases leads_iff.mp leads with ⟨bounds, ⟨length, rfl, low, high⟩ |
    ⟨length, rfl, low, high, first, last⟩ | ⟨length, rfl, low, high, first, last⟩⟩
  · rcases List.length_eq_zero_iff.mp (Nat.succ.inj length) with rfl
    simp only [codeOf, List.foldl_nil, payload]
    rw [utf8EncodeChar_ofNat (by unfold Nat.isValidChar; omega), if_neg (by omega),
      if_pos (by omega)]
    simp only [List.cons.injEq, ← UInt8.toNat_inj, UInt8.toNat_ofNat', and_true]
    omega
  · rcases List.length_eq_one_iff.mp (Nat.succ.inj length) with ⟨third, rfl⟩
    have thirdBounds := continues third (by simp)
    simp only [codeOf, List.foldl_cons, List.foldl_nil, payload]
    rw [utf8EncodeChar_ofNat (by unfold Nat.isValidChar; omega), if_neg (by omega),
      if_neg (by omega), if_pos (by omega)]
    simp only [List.cons.injEq, ← UInt8.toNat_inj, UInt8.toNat_ofNat', and_true]
    omega
  · rcases List.length_eq_two.mp (Nat.succ.inj length) with ⟨third, fourth, rfl⟩
    have thirdBounds := continues third (by simp)
    have fourthBounds := continues fourth (by simp)
    simp only [codeOf, List.foldl_cons, List.foldl_nil, payload]
    rw [utf8EncodeChar_ofNat (by unfold Nat.isValidChar; omega), if_neg (by omega),
      if_neg (by omega), if_neg (by omega)]
    simp only [List.cons.injEq, ← UInt8.toNat_inj, UInt8.toNat_ofNat', and_true]
    omega

/-- A character that is not ASCII is encoded with a leading byte and all that follow it. -/
theorem exists_leads {char : Char} (large : 128 ≤ char.val.toNat) :
    ∃ lead second tail share, utf8EncodeChar char = lead :: second :: tail ∧
      Leads lead second (tail.length + 1) share ∧ (∀ byte ∈ tail, isContinuation byte = true) ∧
      Char.ofNat (codeOf (share * 64 + payload second) tail) = char := by
  have valid : char.val.toNat.isValidChar := char.valid
  have isChar : Char.ofNat char.val.toNat = char := Char.ofNat_toNat char
  have encoded := utf8EncodeChar_ofNat valid
  rw [isChar] at encoded
  rw [encoded]
  generalize char.val.toNat = code at large valid isChar
  have ranges : code < 0xD800 ∨ 0xDFFF < code ∧ code < 0x110000 := valid
  rw [if_neg (by omega)]
  split_ifs with two three
  · refine ⟨_, _, [], code / 64, rfl, ?_, by simp, ?_⟩
    · refine leads_iff.mpr ⟨?_, .inl ⟨rfl, ?_⟩⟩ <;> simp only [UInt8.toNat_ofNat'] <;> omega
    · refine Eq.trans (congrArg Char.ofNat ?_) isChar
      simp only [codeOf, List.foldl_nil, payload, UInt8.toNat_ofNat']
      omega
  · refine ⟨_, _, [_], code / 4096, rfl, ?_, ?_, ?_⟩
    · refine leads_iff.mpr ⟨?_, .inr (.inl ⟨rfl, ?_⟩)⟩ <;> simp only [UInt8.toNat_ofNat'] <;> omega
    · simp [isContinuation_iff]
      omega
    · refine Eq.trans (congrArg Char.ofNat ?_) isChar
      simp only [codeOf, List.foldl_cons, List.foldl_nil, payload, UInt8.toNat_ofNat']
      omega
  · refine ⟨_, _, [_, _], code / 262144, rfl, ?_, ?_, ?_⟩
    · refine leads_iff.mpr ⟨?_, .inr (.inr ⟨rfl, ?_⟩)⟩ <;> simp only [UInt8.toNat_ofNat'] <;> omega
    · simp [isContinuation_iff]
      omega
    · refine Eq.trans (congrArg Char.ofNat ?_) isChar
      simp only [codeOf, List.foldl_cons, List.foldl_nil, payload, UInt8.toNat_ofNat']
      omega

/-- All bytes of a character but the first are continuation bytes. -/
theorem isContinuation_of_mem_tail {char : Char} {lead : UInt8} {others : List UInt8}
    (encoded : utf8EncodeChar char = lead :: others) {byte : UInt8} (member : byte ∈ others) :
    isContinuation byte = true := by
  by_cases ascii : char.val.toNat < 128
  · rw [utf8EncodeChar_of_lt ascii, List.cons.injEq] at encoded
    rw [← encoded.2] at member
    cases member
  · rcases exists_leads (Nat.le_of_not_lt ascii) with ⟨_, second, tail, _, spelled, leads, continues, -⟩
    rw [spelled, List.cons.injEq] at encoded
    rw [← encoded.2] at member
    rcases List.mem_cons.mp member with rfl | member
    · exact isContinuation_iff.mpr (leads_iff.mp leads).1
    · exact continues byte member

/-- How the encoding of a character may begin, beyond the leading byte. -/
theorem exists_prefix_iff {lead second : UInt8} {more : List UInt8} :
    (∃ char, lead :: second :: more <+: utf8EncodeChar char) ↔
      ∃ missing share, Leads lead second missing share ∧ more.length < missing ∧
        ∀ byte ∈ more, isContinuation byte = true := by
  constructor
  · rintro ⟨char, begins⟩
    by_cases ascii : char.val.toNat < 128
    · have short := begins.length_le
      rw [utf8EncodeChar_of_lt ascii] at short
      simp at short
    · rcases exists_leads (Nat.le_of_not_lt ascii) with
        ⟨_, _, tail, share, spelled, leads, continues, -⟩
      rw [spelled, List.cons_prefix_cons, List.cons_prefix_cons] at begins
      rcases begins with ⟨rfl, rfl, begins⟩
      refine ⟨tail.length + 1, share, leads, Nat.lt_succ_of_le begins.length_le, ?_⟩
      intro byte member
      exact continues byte (begins.subset member)
  · rintro ⟨missing, share, leads, short, continues⟩
    -- The smallest continuation byte completes every beginning.
    let tail := more ++ List.replicate (missing - 1 - more.length) 0x80
    have length : tail.length + 1 = missing := by
      simp only [tail, List.length_append, List.length_replicate]
      omega
    have allContinue : ∀ byte ∈ tail, isContinuation byte = true := by
      intro byte member
      rcases List.mem_append.mp member with inside | padding
      · exact continues byte inside
      · rw [List.eq_of_mem_replicate padding]
        rfl
    rw [← length] at leads
    have encoded := utf8EncodeChar_of_leads leads allContinue
    refine ⟨Char.ofNat (codeOf (share * 64 + payload second) tail), ?_⟩
    rw [encoded, List.cons_prefix_cons, List.cons_prefix_cons]
    exact ⟨rfl, rfl, List.prefix_append ..⟩

/-! ## The bytes at the front -/

theorem next_of_lt {byte : UInt8} (small : byte.toNat < 128) (rest : List UInt8) :
    next byte rest = .scalar (Char.ofNat byte.toNat) 1 := by
  rw [next, if_pos (UInt8.lt_iff_toNat_lt.mpr small)]

theorem next_of_leads {lead second : UInt8} {missing share : Nat}
    (leads : Leads lead second missing share) (rest : List UInt8) :
    next lead (second :: rest) = readRest (missing - 1) 2 (share * 64 + payload second) rest := by
  have large : ¬ lead < 0x80 := by
    have bounds := leads_iff.mp leads
    rw [UInt8.lt_iff_toNat_lt]
    simp only [UInt8.reduceToNat]
    omega
  rcases leads with ⟨low, high, read, atLeast, atMost⟩
  simp [next, large, read, atLeast, atMost]

/-- A byte that no character begins with, or that is not followed as it should be. -/
theorem next_of_stuck {lead : UInt8} (large : 128 ≤ lead.toNat) {rest : List UInt8}
    (stuck : ∀ second ∈ rest.head?, ∀ missing share, ¬ Leads lead second missing share) :
    next lead rest = .fault 1 := by
  have notAscii : ¬ lead < 0x80 := by
    rw [UInt8.lt_iff_toNat_lt]
    exact Nat.not_lt.mpr large
  rw [next, if_neg notAscii]
  cases read : leading? lead with
  | none => rfl
  | some found =>
      rcases found with ⟨missing, low, high, share⟩
      cases rest with
      | nil => rfl
      | cons second rest =>
          have outside : ¬ (low ≤ second ∧ second ≤ high) := fun inside =>
            stuck second rfl missing share ⟨low, high, read, inside⟩
          simp only [Bool.and_eq_true, decide_eq_true_eq, if_neg outside]

theorem readRest_append {tail : List UInt8} (continues : ∀ byte ∈ tail, isContinuation byte = true)
    (width code : Nat) (rest : List UInt8) :
    readRest tail.length width code (tail ++ rest) =
      .scalar (Char.ofNat (codeOf code tail)) (width + tail.length) := by
  induction tail generalizing width code with
  | nil => rfl
  | cons byte tail induction =>
      have later := induction fun other member => continues other (List.mem_cons_of_mem _ member)
      rw [List.length_cons, List.cons_append, readRest, if_pos (continues byte (by simp)), later,
        codeOf, codeOf, List.foldl_cons]
      congr 1
      omega

/-- The continuation bytes that are read, and the fault that they end in if there are too
few of them. -/
theorem readRest_cases (missing width code : Nat) (bytes : List UInt8) :
    ∃ tail rest, bytes = tail ++ rest ∧ (∀ byte ∈ tail, isContinuation byte = true) ∧
      (tail.length = missing ∨ tail.length < missing ∧
        (∀ byte ∈ rest.head?, isContinuation byte = false) ∧
        readRest missing width code bytes = .fault (width + tail.length)) := by
  induction missing generalizing width code bytes with
  | zero => exact ⟨[], bytes, rfl, by simp, .inl rfl⟩
  | succ missing induction =>
      cases bytes with
      | nil => exact ⟨[], [], rfl, by simp, .inr ⟨by simp, by simp, rfl⟩⟩
      | cons byte bytes =>
          rw [readRest]
          cases continues : isContinuation byte with
          | false => exact ⟨[], byte :: bytes, rfl, by simp, .inr ⟨by simp, by simpa using continues, rfl⟩⟩
          | true =>
              rcases induction (width + 1) (code * 64 + payload byte) bytes with
                ⟨tail, rest, rfl, allContinue, ended⟩
              refine ⟨byte :: tail, rest, rfl, by simpa [continues] using allContinue, ?_⟩
              rw [if_pos rfl, List.length_cons, Nat.add_right_cancel_iff]
              refine ended.imp id fun ⟨short, stops, broken⟩ => ⟨by omega, stops, ?_⟩
              rw [broken]
              congr 1
              omega

/-- The encoding of a character is read as that character. -/
theorem next_of_encoded {char : Char} {lead : UInt8} {rest more : List UInt8}
    (encoded : lead :: rest = utf8EncodeChar char ++ more) :
    next lead rest = .scalar char char.utf8Size := by
  rw [← String.length_utf8EncodeChar char]
  by_cases ascii : char.val.toNat < 128
  · rw [utf8EncodeChar_of_lt ascii] at encoded ⊢
    rcases List.cons.inj encoded with ⟨rfl, -⟩
    have same : (UInt8.ofNat char.val.toNat).toNat = char.val.toNat := by
      rw [UInt8.toNat_ofNat']
      omega
    rw [next_of_lt (by omega), same]
    exact congrArg (Piece.scalar · 1) (Char.ofNat_toNat char)
  · rcases exists_leads (Nat.le_of_not_lt ascii) with
      ⟨first, second, tail, share, spelled, leads, continues, isChar⟩
    rw [spelled, List.cons_append, List.cons_append] at encoded
    rcases List.cons.inj encoded with ⟨rfl, rfl⟩
    rw [spelled, next_of_leads leads, Nat.add_sub_cancel, readRest_append continues, isChar]
    congr 1
    simp only [List.length_cons]
    omega

/-! ## Faults -/

/-- Bytes that begin a character and do not complete it, as far as they go; a byte that no
character begins with stands by itself. -/
structure IsFault (part rest : List UInt8) : Prop where
  nonempty : part ≠ []
  begins : part.length = 1 ∨ ∃ char, part <+: utf8EncodeChar char
  longest : ∀ longer char, part <+: longer → longer <+: part ++ rest →
    longer <+: utf8EncodeChar char → longer = part
  incomplete : ∀ char, ¬ utf8EncodeChar char <+: part ++ rest

private theorem incomplete_of_fault {lead : UInt8} {rest : List UInt8} {width : Nat}
    (fault : next lead rest = .fault width) (char : Char) :
    ¬ utf8EncodeChar char <+: lead :: rest := by
  rintro ⟨more, encoded⟩
  rw [next_of_encoded encoded.symm] at fault
  cases fault

/-- A byte by itself is a fault if no character goes on behind it as the bytes do. -/
private theorem isFault_singleton {lead : UInt8} {rest : List UInt8}
    (fault : next lead rest = .fault 1)
    (stuck : ∀ second ∈ rest.head?, ∀ missing share, ¬ Leads lead second missing share) :
    IsFault [lead] rest := by
  refine ⟨by simp, .inl rfl, ?_, incomplete_of_fault fault⟩
  rintro longer char ⟨more, rfl⟩ inside begins
  cases more with
  | nil => rfl
  | cons second more =>
      rcases exists_prefix_iff.mp ⟨char, begins⟩ with ⟨missing, share, leads, -⟩
      rw [List.singleton_append, List.singleton_append, List.cons_prefix_cons] at inside
      rcases inside.2 with ⟨after, rfl⟩
      exact absurd leads (stuck second rfl missing share)

/-- A character that breaks off where no continuation byte follows. -/
private theorem isFault_of_leads {lead second : UInt8} {missing share : Nat}
    {tail rest : List UInt8} (leads : Leads lead second missing share)
    (continues : ∀ byte ∈ tail, isContinuation byte = true) (short : tail.length + 1 < missing)
    (stops : ∀ byte ∈ rest.head?, isContinuation byte = false)
    (fault : next lead (second :: (tail ++ rest)) = .fault (2 + tail.length)) :
    IsFault (lead :: second :: tail) rest := by
  refine ⟨by simp, .inr ?_, ?_, incomplete_of_fault fault⟩
  · exact exists_prefix_iff.mpr ⟨missing, share, leads, by omega, continues⟩
  · rintro longer char ⟨more, rfl⟩ inside begins
    cases more with
    | nil => exact List.append_nil _
    | cons byte more =>
        rcases exists_prefix_iff.mp ⟨char, begins⟩ with ⟨_, _, -, -, allContinue⟩
        rw [List.prefix_append_right_inj] at inside
        rcases inside with ⟨after, rfl⟩
        have another := allContinue byte (by simp)
        rw [stops byte rfl] at another
        cases another

/-- A byte string begins with a character or with a fault, and is read so. -/
theorem next_cases (lead : UInt8) (rest : List UInt8) :
    (∃ char more, lead :: rest = utf8EncodeChar char ++ more ∧
      next lead rest = .scalar char char.utf8Size) ∨
    ∃ part more, lead :: rest = part ++ more ∧ IsFault part more ∧
      next lead rest = .fault part.length := by
  -- A byte below 128 is a character. Any other one leads to a character of several bytes,
  -- unless no byte that may follow it does, or continuation bytes are missing.
  by_cases small : lead.toNat < 128
  · have encoded : utf8EncodeChar (Char.ofNat lead.toNat) = [lead] := by
      rw [utf8EncodeChar_ofNat (by unfold Nat.isValidChar; omega), if_pos (by omega),
        UInt8.ofNat_toNat]
    have split : lead :: rest = utf8EncodeChar (Char.ofNat lead.toNat) ++ rest := by
      rw [encoded, List.singleton_append]
    exact .inl ⟨_, rest, split, next_of_encoded split⟩
  by_cases stuck : ∀ second ∈ rest.head?, ∀ missing share, ¬ Leads lead second missing share
  · have fault := next_of_stuck (Nat.le_of_not_lt small) stuck
    exact .inr ⟨[lead], rest, rfl, isFault_singleton fault stuck, fault⟩
  · push Not at stuck
    rcases stuck with ⟨second, isNext, missing, share, leads⟩
    rcases List.head?_eq_some_iff.mp isNext with ⟨others, rfl⟩
    rcases readRest_cases (missing - 1) 2 (share * 64 + payload second) others with
      ⟨tail, more, rfl, continues, complete | ⟨short, stops, broken⟩⟩
    · have positive : 0 < missing := by
        have := leads_iff.mp leads
        omega
      rw [show missing = tail.length + 1 by omega] at leads
      have split : lead :: second :: (tail ++ more) =
          utf8EncodeChar (Char.ofNat (codeOf (share * 64 + payload second) tail)) ++ more := by
        rw [utf8EncodeChar_of_leads leads continues]
        rfl
      exact .inl ⟨_, more, split, next_of_encoded split⟩
    · rw [← next_of_leads leads] at broken
      refine .inr ⟨lead :: second :: tail, more, rfl, ?_, ?_⟩
      · exact isFault_of_leads leads continues (by omega) stops broken
      · rw [broken]
        congr 1
        simp only [List.length_cons]
        omega

/-- One byte string begins with one fault. -/
theorem IsFault.unique {part other rest otherRest : List UInt8} (fault : IsFault part rest)
    (again : IsFault other otherRest) (same : part ++ rest = other ++ otherRest) :
    part = other := by
  have shorter {part other rest otherRest : List UInt8} (fault : IsFault part rest)
      (again : IsFault other otherRest) (same : part ++ rest = other ++ otherRest)
      (within : part <+: other) : part = other := by
    rcases again.begins with single | ⟨char, begins⟩
    · have positive := List.length_pos_iff.mpr fault.nonempty
      exact within.eq_of_length_le (by omega)
    · exact (fault.longest other char within ⟨otherRest, same.symm⟩ begins).symm
  rcases List.prefix_or_prefix_of_prefix ⟨rest, rfl⟩ ⟨otherRest, same.symm⟩ with within | within
  · exact shorter fault again same within
  · exact (shorter again fault same.symm within).symm

theorem next_of_isFault {part rest others : List UInt8} {lead : UInt8} (fault : IsFault part rest)
    (split : lead :: others = part ++ rest) : next lead others = .fault part.length := by
  rcases next_cases lead others with ⟨char, more, encoded, -⟩ | ⟨other, more, again, otherFault, read⟩
  · exact absurd ⟨more, by rw [← split, encoded]⟩ (fault.incomplete char)
  · rw [read, fault.unique otherFault (split.symm.trans again)]

/-- Whether bytes are a fault does not depend on what stands behind a byte that continues no
character. -/
theorem IsFault.append {part rest back : List UInt8} (fault : IsFault part rest)
    (stops : ∀ byte ∈ back.head?, isContinuation byte = false) : IsFault part (rest ++ back) := by
  -- The beginning of a character that holds the bytes of the fault does not reach the back.
  have within : ∀ longer char, part <+: longer → longer <+: part ++ (rest ++ back) →
      longer <+: utf8EncodeChar char → longer <+: part ++ rest := by
    intro longer char holds inside begins
    rw [← List.append_assoc] at inside
    rcases List.prefix_or_prefix_of_prefix inside ⟨back, rfl⟩ with shorter | reaches
    · exact shorter
    · rcases reaches with ⟨more, rfl⟩
      cases more with
      | nil => exact ⟨[], by simp⟩
      | cons byte more =>
          rw [List.prefix_append_right_inj] at inside
          rcases inside with ⟨after, rfl⟩
          rcases List.exists_cons_of_ne_nil fault.nonempty with ⟨lead, others, rfl⟩
          rcases begins with ⟨missing, encoded⟩
          have continues := isContinuation_of_mem_tail (encoded.symm.trans rfl)
            (show byte ∈ _ by simp)
          rw [stops byte rfl] at continues
          cases continues
  refine ⟨fault.nonempty, fault.begins, ?_, ?_⟩
  · intro longer char holds inside begins
    exact fault.longest longer char holds (within longer char holds inside begins) begins
  · intro char encoded
    rcases List.prefix_or_prefix_of_prefix ⟨rest ++ back, rfl⟩ encoded with holds | inside
    · exact fault.incomplete char (within _ char holds encoded List.prefix_rfl)
    · exact fault.incomplete char (inside.trans (List.prefix_append ..))

end QueryPipe.Text.Utf8
