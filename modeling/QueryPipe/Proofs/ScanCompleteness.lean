import QueryPipe.Proofs.ScannedBytes

/-! What the scan for sentinels finds, and what it leaves out. The scan is told as a run over
the bytes of a text: at each place it looks for a sentinel, and it goes on behind what it finds.
A sentinel that it does not report shares the last byte of one that it does. -/

namespace QueryPipe.Text.Utf8

open String (utf8EncodeChar)

/-- A byte offset between two characters of a text, or at one of its ends. -/
def IsBoundary (text : List Char) (place : Nat) : Prop :=
  ∃ front rest, text = front ++ rest ∧ byteLength front = place

/-- An ASCII byte begins a character. -/
theorem isBoundary_of_drop {text : List Char} {place : Nat} {byte : UInt8} {more : List UInt8}
    (stands : (text.flatMap utf8EncodeChar).drop place = byte :: more)
    (small : byte.toNat < 128) : IsBoundary text place := by
  induction text generalizing place with
  | nil => simp at stands
  | cons char rest induction =>
      have size := String.length_utf8EncodeChar char
      rw [List.flatMap_cons, List.drop_append] at stands
      by_cases behind : char.utf8Size ≤ place
      · rw [List.drop_eq_nil_of_le (by omega), List.nil_append] at stands
        rcases induction stands with ⟨front, rest, rfl, length⟩
        refine ⟨char :: front, rest, rfl, ?_⟩
        rw [byteLength_cons]
        omega
      · by_cases atFront : place = 0
        · exact ⟨[], char :: rest, rfl, atFront.symm⟩
        · -- The byte is one of several bytes of a character.
          have inside : byte ∈ utf8EncodeChar char := by
            cases left : (utf8EncodeChar char).drop place with
            | nil =>
                have length := congrArg List.length left
                rw [List.length_drop, List.length_nil] at length
                omega
            | cons lead others =>
                rw [left, List.cons_append, List.cons.injEq] at stands
                refine List.mem_of_mem_drop (i := place) ?_
                rw [left, stands.1]
                exact List.mem_cons_self ..
          have large : 128 ≤ char.val.toNat := by
            by_contra ascii
            rw [utf8EncodeChar_of_lt (Nat.lt_of_not_le ascii), List.length_singleton] at size
            omega
          exact absurd (le_of_mem_utf8EncodeChar large inside) (Nat.not_le.mpr small)

end QueryPipe.Text.Utf8

namespace QueryPipe.Template

open Text.Utf8 (IsBoundary byteLength)

/-! ## Sentinels among bytes -/

def Verb.bytes (verb : Verb) : List UInt8 := Text.Utf8.encode (String.ofList verb.sentinel)

/-- A sentinel begins at a byte offset, whether it is reported there or not. -/
def StandsAt (bytes : List UInt8) (place : Nat) (verb : Verb) : Prop :=
  verb.bytes <+: bytes.drop place

instance (bytes : List UInt8) (place : Nat) (verb : Verb) : Decidable (StandsAt bytes place verb) :=
  inferInstanceAs (Decidable (verb.bytes <+: bytes.drop place))

theorem Verb.bytes_eq (verb : Verb) : verb.bytes = verb.sentinel.flatMap String.utf8EncodeChar :=
  Text.Utf8.encode_ofList verb.sentinel

theorem Verb.length_bytes (verb : Verb) :
    verb.bytes.length = byteLength verb.sentinel := by
  rw [verb.bytes_eq, Text.Utf8.length_flatMap_utf8EncodeChar]

theorem Verb.length_bytes_pos (verb : Verb) : 0 < verb.bytes.length := by
  rw [verb.length_bytes]
  exact Text.Utf8.byteLength_pos verb.sentinel_ne_nil

theorem Verb.lt_of_mem_bytes (verb : Verb) {byte : UInt8} (member : byte ∈ verb.bytes) :
    byte.toNat < 128 := by
  have all : ∀ byte ∈ verb.bytes, byte.toNat < 128 := by
    cases verb <;> decide +kernel
  exact all byte member

private theorem verb_eq_of_bytes_begin {left right : Verb}
    (nested : left.bytes <+: right.bytes) : left = right := by
  revert nested
  cases left <;> cases right <;> decide +kernel

/-- Where the end of a sentinel begins another one, or another one is in it, it is an
underscore. -/
private theorem border (verb inner : Verb) : ∀ count < verb.bytes.length, 0 < count →
    (verb.bytes.drop count <+: inner.bytes ∨ inner.bytes <+: verb.bytes.drop count) →
    verb.bytes.drop count = ['_'.toUInt8] := by
  cases verb <;> cases inner <;> decide +kernel

namespace StandsAt

variable {bytes front back : List UInt8} {place : Nat} {verb : Verb}

theorem stop_le (stands : StandsAt bytes place verb) :
    place + verb.bytes.length ≤ bytes.length := by
  have bound := stands.length_le
  have positive := verb.length_bytes_pos
  rw [List.length_drop] at bound
  omega

theorem lt_length (stands : StandsAt bytes place verb) : place < bytes.length :=
  Nat.lt_of_lt_of_le (Nat.lt_add_of_pos_right verb.length_bytes_pos) stands.stop_le

theorem verb_eq {other : Verb} (stands : StandsAt bytes place verb)
    (others : StandsAt bytes place other) : verb = other := by
  rcases List.prefix_or_prefix_of_prefix stands others with nested | nested
  · exact verb_eq_of_bytes_begin nested
  · exact (verb_eq_of_bytes_begin nested).symm

/-- A sentinel that begins strictly inside of another one begins at its last byte. -/
theorem overlap {inner : Verb} {within : Nat} (stands : StandsAt bytes place verb)
    (inside : StandsAt bytes within inner) (later : place < within)
    (sooner : within < place + verb.bytes.length) :
    within + 1 = place + verb.bytes.length ∧ bytes[within]? = some '_'.toUInt8 := by
  obtain ⟨count, rfl⟩ := Nat.exists_eq_add_of_lt later
  have tail : verb.bytes.drop (count + 1) <+: bytes.drop (place + (count + 1)) := by
    have dropped := stands.drop (count + 1)
    rwa [List.drop_drop] at dropped
  have last := border verb inner (count + 1) (by omega) (by omega)
    (List.prefix_or_prefix_of_prefix tail inside)
  have length := congrArg List.length last
  rw [List.length_drop, List.length_singleton] at length
  refine ⟨by omega, ?_⟩
  rw [last] at tail
  rcases tail with ⟨rest, split⟩
  have first : (bytes.drop (place + (count + 1)))[0]? = some '_'.toUInt8 := by
    rw [← split]
    rfl
  rw [List.getElem?_drop] at first
  exact first

theorem append_iff (within : place + verb.bytes.length ≤ front.length) :
    StandsAt (front ++ back) place verb ↔ StandsAt front place verb := by
  rw [StandsAt, List.drop_append_of_le_length (by omega)]
  refine ⟨fun stands => ?_, List.prefix_append_of_prefix⟩
  refine List.prefix_of_prefix_length_le stands (List.prefix_append ..) ?_
  rw [List.length_drop]
  omega

theorem append_right_iff :
    StandsAt (front ++ back) (front.length + place) verb ↔ StandsAt back place verb := by
  rw [StandsAt, List.drop_length_add_append, StandsAt]

/-- A sentinel in the bytes of a text is one in the text. -/
theorem exists_append {text : List Char}
    (stands : StandsAt (Text.Utf8.encode (String.ofList text)) place verb) :
    ∃ front rest, text = front ++ (verb.sentinel ++ rest) ∧ byteLength front = place := by
  rw [StandsAt, Text.Utf8.encode_ofList] at stands
  have begins : IsBoundary text place := by
    rcases stands with ⟨more, split⟩
    cases spelled : verb.bytes with
    | nil => exact absurd verb.length_bytes_pos (by simp [spelled])
    | cons lead others =>
        have ascii : lead.toNat < 128 := verb.lt_of_mem_bytes (by simp [spelled])
        rw [spelled, List.cons_append] at split
        exact Text.Utf8.isBoundary_of_drop split.symm ascii
  rcases begins with ⟨front, behind, rfl, length⟩
  rw [List.flatMap_append, ← length, ← Text.Utf8.length_flatMap_utf8EncodeChar, List.drop_left,
    verb.bytes_eq, ← List.isPrefixOf_iff_prefix,
    isPrefixOf_flatMap_utf8EncodeChar (fun _ => lt_of_mem_sentinel),
    List.isPrefixOf_iff_prefix] at stands
  rcases stands with ⟨rest, rfl⟩
  exact ⟨front, rest, rfl, length⟩

theorem isBoundary {text : List Char}
    (stands : StandsAt (Text.Utf8.encode (String.ofList text)) place verb) :
    IsBoundary text place ∧ IsBoundary text (place + verb.bytes.length) := by
  rcases stands.exists_append with ⟨front, rest, rfl, rfl⟩
  refine ⟨⟨front, _, rfl, rfl⟩, front ++ verb.sentinel, rest, by rw [List.append_assoc], ?_⟩
  rw [Text.Utf8.byteLength_append, verb.length_bytes]

end StandsAt

/-! ## Runs of the scan -/

/-- The byte offset behind an occurrence. -/
def Occurrence.stop (occurrence : Occurrence) : Nat :=
  occurrence.offset + occurrence.verb.bytes.length

/-- An occurrence in a text that stands behind some bytes. -/
def Occurrence.shift (count : Nat) (occurrence : Occurrence) : Occurrence :=
  { occurrence with offset := count + occurrence.offset }

/-- A run of the scan from a place up to the end of the bytes, with what it reports. -/
inductive Scans (bytes : List UInt8) : (place : Nat) → List Occurrence → Prop
  | done {place : Nat} : bytes.length ≤ place → Scans bytes place []
  | found {place : Nat} {verb : Verb} {rest : List Occurrence} : StandsAt bytes place verb →
      Scans bytes (place + verb.bytes.length) rest → Scans bytes place (⟨place, verb⟩ :: rest)
  | missed {place : Nat} {rest : List Occurrence} : place < bytes.length →
      (∀ verb, ¬ StandsAt bytes place verb) → Scans bytes (place + 1) rest → Scans bytes place rest

theorem sentinelAmong?_eq_some {bytes : List UInt8} {verb : Verb}
    (found : sentinelAmong? bytes = some verb) : verb.bytes <+: bytes := by
  have begins := List.find?_some found
  rwa [List.isPrefixOf_iff_prefix, ← verb.bytes_eq] at begins

theorem sentinelAmong?_eq_none {bytes : List UInt8} (missed : sentinelAmong? bytes = none)
    (verb : Verb) : ¬ verb.bytes <+: bytes := by
  have member : verb ∈ Verb.all := by cases verb <;> decide
  have absent := List.find?_eq_none.mp missed verb member
  rwa [List.isPrefixOf_iff_prefix, ← verb.bytes_eq] at absent

private theorem scans_byteOccurrencesFrom (front rest : List UInt8) (skip : Nat) :
    Scans (front ++ rest) (front.length + skip) (byteOccurrencesFrom skip front.length rest) := by
  induction rest generalizing front skip with
  | nil => exact .done (by simp)
  | cons byte rest induction =>
      have after (skip : Nat) : Scans (front ++ byte :: rest) (front.length + 1 + skip)
          (byteOccurrencesFrom skip (front.length + 1) rest) := by
        simpa using induction (front ++ [byte]) skip
      cases skip with
      | succ skip =>
          rw [Nat.add_comm skip, ← Nat.add_assoc, Nat.add_comm 1, byteOccurrencesFrom]
          exact after skip
      | zero =>
          cases found : sentinelAmong? (byte :: rest) with
          | some verb =>
              have positive := verb.length_bytes_pos
              have behind := after (verb.bytes.length - 1)
              rw [Nat.add_assoc, Nat.add_sub_cancel' positive] at behind
              simp only [byteOccurrencesFrom, found, ← verb.length_bytes]
              refine .found ?_ behind
              rw [StandsAt, Nat.add_zero, List.drop_left]
              exact sentinelAmong?_eq_some found
          | none =>
              rw [byteOccurrencesFrom, found]
              refine .missed (by simp) (fun verb => ?_) (after 0)
              rw [StandsAt, Nat.add_zero, List.drop_left]
              exact sentinelAmong?_eq_none found verb

/-- The scan of a byte string ends, and reports what it finds. -/
theorem scans_byteOccurrences (bytes : List UInt8) : Scans bytes 0 (byteOccurrences bytes) :=
  scans_byteOccurrencesFrom [] bytes 0

namespace Scans

variable {bytes front back : List UInt8} {place : Nat} {found other more : List Occurrence}

theorem unique (run : Scans bytes place found) (again : Scans bytes place other) :
    found = other := by
  induction run generalizing other with
  | done atEnd =>
      cases again with
      | done => rfl
      | found stands _ => exact absurd stands.lt_length (Nat.not_lt.mpr atEnd)
      | missed before _ _ => exact absurd before (Nat.not_lt.mpr atEnd)
  | found stands _ induction =>
      cases again with
      | done atEnd => exact absurd stands.lt_length (Nat.not_lt.mpr atEnd)
      | found others run =>
          cases stands.verb_eq others
          rw [induction run]
      | missed _ nothing _ => exact absurd stands (nothing _)
  | missed before nothing _ induction =>
      cases again with
      | done atEnd => exact absurd before (Nat.not_lt.mpr atEnd)
      | found stands _ => exact absurd stands (nothing _)
      | missed _ _ run => exact induction run

theorem stands (run : Scans bytes place found) :
    ∀ occurrence ∈ found, place ≤ occurrence.offset ∧
      StandsAt bytes occurrence.offset occurrence.verb := by
  induction run with
  | done => simp
  | found stands _ induction =>
      intro occurrence member
      rcases List.mem_cons.mp member with rfl | member
      · exact ⟨Nat.le_refl _, stands⟩
      · have later := induction occurrence member
        exact ⟨Nat.le_trans (Nat.le_add_right ..) later.1, later.2⟩
  | missed _ _ _ induction =>
      intro occurrence member
      have later := induction occurrence member
      exact ⟨Nat.le_of_succ_le later.1, later.2⟩

theorem apart (run : Scans bytes place found) :
    found.Pairwise fun earlier later => earlier.stop ≤ later.offset := by
  induction run with
  | done => exact .nil
  | found _ run induction =>
      exact .cons (fun occurrence member => (run.stands occurrence member).1) induction
  | missed _ _ _ induction => exact induction

/-- A sentinel that is not reported begins at the last byte of one that is. -/
theorem covers (run : Scans bytes place found) {within : Nat} {inner : Verb}
    (inside : StandsAt bytes within inner) (later : place ≤ within) :
    ⟨within, inner⟩ ∈ found ∨ ∃ occurrence ∈ found, occurrence.offset < within ∧
      within + 1 = occurrence.stop ∧ bytes[within]? = some '_'.toUInt8 := by
  -- What stands where a report is made either begins there, ends up shared, or lies behind it.
  induction run with
  | done atEnd => exact absurd inside.lt_length (Nat.not_lt.mpr (Nat.le_trans atEnd later))
  | @found place verb rest stands _ induction =>
      by_cases behind : place + verb.bytes.length ≤ within
      · rcases induction behind with member | ⟨occurrence, member, shared⟩
        · exact .inl (List.mem_cons_of_mem _ member)
        · exact .inr ⟨occurrence, List.mem_cons_of_mem _ member, shared⟩
      · by_cases atFront : place = within
        · subst atFront
          cases stands.verb_eq inside
          exact .inl (List.mem_cons_self ..)
        · have strictly : place < within := by omega
          exact .inr ⟨_, List.mem_cons_self .., strictly,
            stands.overlap inside strictly (by omega)⟩
  | @missed place rest _ nothing _ induction =>
      refine induction (Nat.lt_of_le_of_ne later ?_)
      rintro rfl
      exact nothing inner inside

/-- A run over bytes is a run over the same bytes behind others. -/
theorem shift (run : Scans back place found) :
    Scans (front ++ back) (front.length + place) (found.map (.shift front.length)) := by
  induction run with
  | done atEnd => exact .done (by simpa using atEnd)
  | found stands _ induction =>
      exact .found (StandsAt.append_right_iff.mpr stands) (by rwa [Nat.add_assoc])
  | missed before nothing _ induction =>
      refine .missed (by simpa using before) (fun verb stands => ?_) induction
      exact nothing verb (StandsAt.append_right_iff.mp stands)

/-- Where no sentinel lies across a junction, a run up to it goes on behind it. -/
theorem append (run : Scans front place found) (within : place ≤ front.length)
    (clear : ∀ place < front.length, ∀ verb, StandsAt (front ++ back) place verb →
      place + verb.bytes.length ≤ front.length)
    (behind : Scans (front ++ back) front.length more) :
    Scans (front ++ back) place (found ++ more) := by
  induction run with
  | done atEnd =>
      rw [Nat.le_antisymm within atEnd]
      exact behind
  | found stands _ induction =>
      exact .found ((StandsAt.append_iff stands.stop_le).mpr stands) (induction stands.stop_le)
  | @missed place rest before nothing _ induction =>
      refine .missed ?_ (fun verb stands => ?_) (induction before)
      · rw [List.length_append]
        omega
      · exact nothing verb ((StandsAt.append_iff (clear place before verb stands)).mp stands)

end Scans

/-! ## The sentinels of a text -/

theorem scans_iff {text : List Char} {found : List Occurrence} :
    Scans (Text.Utf8.encode (String.ofList text)) 0 found ↔ found = occurrences text := by
  have run := scans_byteOccurrences (Text.Utf8.encode (String.ofList text))
  rw [byteOccurrences_encode] at run
  exact ⟨fun again => again.unique run, fun equal => equal ▸ run⟩

theorem occurrences_append {text more : List Char}
    (clear : ∀ place < (Text.Utf8.encode (String.ofList text)).length, ∀ verb,
      StandsAt (Text.Utf8.encode (String.ofList (text ++ more))) place verb →
        place + verb.bytes.length ≤ (Text.Utf8.encode (String.ofList text)).length) :
    occurrences (text ++ more) = occurrences text ++
      (occurrences more).map (.shift (Text.Utf8.encode (String.ofList text)).length) := by
  have bytes : Text.Utf8.encode (String.ofList (text ++ more)) =
      Text.Utf8.encode (String.ofList text) ++ Text.Utf8.encode (String.ofList more) := by
    simp only [Text.Utf8.encode_ofList, List.flatMap_append]
  rw [bytes] at clear
  have front := scans_iff.mpr (Eq.refl (occurrences text))
  have back := scans_iff.mpr (Eq.refl (occurrences more))
  have whole := front.append (Nat.zero_le _) clear back.shift
  rw [← bytes] at whole
  exact (scans_iff.mp whole).symm

/-- The scan of a text has one run, which ends. What it reports is in order, apart, between
characters and unmistakable, and nothing else is a sentinel but what begins with the underscore
that a reported one ends with. Texts are scanned one by one, unless a sentinel lies across
their junction. -/
theorem occurrences_exhaust (text : List Char) :
    (∀ found, Scans (Text.Utf8.encode (String.ofList text)) 0 found ↔
      found = occurrences text) ∧
    (occurrences text).Pairwise (fun earlier later =>
      earlier.offset < later.offset ∧ earlier.stop ≤ later.offset) ∧
    (∀ occurrence ∈ occurrences text, ∀ verb,
      StandsAt (Text.Utf8.encode (String.ofList text)) occurrence.offset verb ↔
        verb = occurrence.verb) ∧
    (∀ place verb, StandsAt (Text.Utf8.encode (String.ofList text)) place verb →
      ⟨place, verb⟩ ∈ occurrences text ∨
      ∃ occurrence ∈ occurrences text, occurrence.offset < place ∧
        place + 1 = occurrence.stop ∧
        (Text.Utf8.encode (String.ofList text))[place]? = some '_'.toUInt8) ∧
    (∀ occurrence ∈ occurrences text,
      IsBoundary text occurrence.offset ∧ IsBoundary text occurrence.stop) ∧
    ∀ more, (∀ place < (Text.Utf8.encode (String.ofList text)).length, ∀ verb,
      StandsAt (Text.Utf8.encode (String.ofList (text ++ more))) place verb →
        place + verb.bytes.length ≤ (Text.Utf8.encode (String.ofList text)).length) →
      occurrences (text ++ more) = occurrences text ++
        (occurrences more).map (.shift (Text.Utf8.encode (String.ofList text)).length) := by
  have run := scans_iff.mpr (Eq.refl (occurrences text))
  refine ⟨fun _ => scans_iff, run.apart.imp ?_, ?_, ?_, ?_, fun _ => occurrences_append⟩
  · intro earlier later apart
    have positive := earlier.verb.length_bytes_pos
    exact ⟨Nat.lt_of_lt_of_le (Nat.lt_add_of_pos_right positive) apart, apart⟩
  · intro occurrence member verb
    have stands := (run.stands occurrence member).2
    exact ⟨fun others => others.verb_eq stands, fun equal => equal ▸ stands⟩
  · intro place verb stands
    exact run.covers stands (Nat.zero_le place)
  · intro occurrence member
    exact (run.stands occurrence member).2.isBoundary

/-- Two sentinels that share an underscore, behind a character of two bytes. -/
theorem occurrences_exhaust_shared :
    StandsAt (Text.Utf8.encode "é_DUMMY_VALUE_DUMMY_STRING_") 14 .string ∧
    (∃ occurrence ∈ occurrences "é_DUMMY_VALUE_DUMMY_STRING_".toList,
      occurrence.offset < 14 ∧ 15 = occurrence.stop) ∧
    occurrences ("é_DUMMY_VALUE_DUMMY_STRING_".toList ++ "-999".toList) =
      occurrences "é_DUMMY_VALUE_DUMMY_STRING_".toList ++ [⟨28, .decimal⟩] := by
  have stands : StandsAt (Text.Utf8.encode "é_DUMMY_VALUE_DUMMY_STRING_") 14 .string := by
    decide +kernel
  have unreported : ⟨14, .string⟩ ∉ occurrences "é_DUMMY_VALUE_DUMMY_STRING_".toList := by
    decide +kernel
  have size : (Text.Utf8.encode "é_DUMMY_VALUE_DUMMY_STRING_").length = 28 := by
    decide +kernel
  have clear : ∀ place < 28, ∀ verb : Verb,
      StandsAt (Text.Utf8.encode
        (String.ofList ("é_DUMMY_VALUE_DUMMY_STRING_".toList ++ "-999".toList))) place verb →
        place + verb.bytes.length ≤ 28 := by
    intro place bound verb
    revert place
    cases verb <;> decide +kernel
  have number : (occurrences "-999".toList).map (Occurrence.shift 28) = [⟨28, .decimal⟩] := by
    decide +kernel
  rcases occurrences_exhaust "é_DUMMY_VALUE_DUMMY_STRING_".toList with
    ⟨-, -, -, covered, -, joined⟩
  rw [String.ofList_toList] at covered joined
  rw [size] at joined
  rcases covered 14 .string stands with reported | ⟨occurrence, member, before, last, -⟩
  · exact absurd reported unreported
  · exact ⟨stands, ⟨occurrence, member, before, last⟩, number ▸ joined "-999".toList clear⟩

end QueryPipe.Template
