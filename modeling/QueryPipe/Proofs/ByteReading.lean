import QueryPipe.Proofs.CharacterBytes

/-! Reading a whole byte string: it is cut into characters and faults in one way only, and
a cut before a byte that continues no character makes no difference. -/

namespace QueryPipe.Text.Utf8

open String (utf8EncodeChar)

/-- A byte string that is cut into characters and faults. -/
inductive Reading : List UInt8 → List Piece → Prop
  | nil : Reading [] []
  | scalar (char : Char) : Reading rest found →
      Reading (utf8EncodeChar char ++ rest) (.scalar char char.utf8Size :: found)
  | fault : IsFault part rest → Reading rest found →
      Reading (part ++ rest) (.fault part.length :: found)

/-! ## What is read -/

@[simp] theorem pieces_nil : pieces [] = [] := rfl

private theorem piecesInto_eq (found : List Piece) (skip : Nat) (bytes : List UInt8) :
    piecesInto found skip bytes = (pieces (bytes.drop skip)).reverse ++ found := by
  induction bytes generalizing found skip with
  | nil => cases skip <;> rfl
  | cons byte rest induction =>
      cases skip with
      | succ skip => exact induction found skip
      | zero =>
          rw [List.drop_zero, pieces, List.reverse_reverse, piecesInto, piecesInto, induction,
            induction [_], List.append_assoc, List.singleton_append]

theorem pieces_cons (lead : UInt8) (rest : List UInt8) :
    pieces (lead :: rest) =
      next lead rest :: pieces (rest.drop ((next lead rest).width - 1)) := by
  rw [pieces, piecesInto, piecesInto_eq, List.reverse_append, List.reverse_reverse]
  rfl

/-- What is read at the front of a byte string covers the bytes that it is read from. -/
private theorem pieces_append {front : List UInt8} (nonempty : front ≠ []) (rest : List UInt8)
    {piece : Piece} (covers : piece.width = front.length)
    (read : ∀ lead others, lead :: others = front ++ rest → next lead others = piece) :
    pieces (front ++ rest) = piece :: pieces rest := by
  rcases List.exists_cons_of_ne_nil nonempty with ⟨lead, others, rfl⟩
  rw [List.cons_append, pieces_cons, read lead (others ++ rest) rfl, covers, List.length_cons,
    Nat.add_sub_cancel, List.drop_left]

theorem pieces_encoded (char : Char) (rest : List UInt8) :
    pieces (utf8EncodeChar char ++ rest) = .scalar char char.utf8Size :: pieces rest := by
  refine pieces_append String.utf8EncodeChar_ne_nil rest ?_ ?_
  · exact (String.length_utf8EncodeChar char).symm
  · intro lead others split
    exact next_of_encoded split

theorem pieces_fault {part rest : List UInt8} (fault : IsFault part rest) :
    pieces (part ++ rest) = .fault part.length :: pieces rest := by
  refine pieces_append fault.nonempty rest rfl ?_
  intro lead others split
  exact next_of_isFault fault split

/-! ## There is one reading -/

theorem Reading.eq_pieces {bytes : List UInt8} {found : List Piece}
    (reading : Reading bytes found) : found = pieces bytes := by
  induction reading with
  | nil => rfl
  | scalar char _ induction => rw [pieces_encoded, ← induction]
  | fault fault _ induction => rw [pieces_fault fault, ← induction]

theorem reading_pieces (bytes : List UInt8) : Reading bytes (pieces bytes) := by
  induction bytes using (measure List.length).wf.induction with
  | h bytes induction =>
      cases bytes with
      | nil => exact .nil
      | cons lead rest =>
          rcases next_cases lead rest with ⟨char, more, split, -⟩ | ⟨part, more, split, fault, -⟩
          · have nonempty := List.length_pos_iff.mpr (@String.utf8EncodeChar_ne_nil char)
            have lengths := congrArg List.length split
            rw [List.length_append] at lengths
            rw [split, pieces_encoded]
            exact .scalar char (induction more (show more.length < (lead :: rest).length by omega))
          · have nonempty := List.length_pos_iff.mpr fault.nonempty
            have lengths := congrArg List.length split
            rw [List.length_append] at lengths
            rw [split, pieces_fault fault]
            exact .fault fault (induction more (show more.length < (lead :: rest).length by omega))

theorem reading_iff {bytes : List UInt8} {found : List Piece} :
    Reading bytes found ↔ found = pieces bytes :=
  ⟨Reading.eq_pieces, fun same => same ▸ reading_pieces bytes⟩

/-! ## Cuts -/

/-- The bytes of a text are read as its characters, whatever stands behind them. -/
theorem pieces_text_append (text : List Char) (rest : List UInt8) :
    pieces (text.flatMap utf8EncodeChar ++ rest) =
      text.map (fun char => .scalar char char.utf8Size) ++ pieces rest := by
  induction text with
  | nil => rfl
  | cons char text induction =>
      rw [List.flatMap_cons, List.append_assoc, pieces_encoded, induction, List.map_cons,
        List.cons_append]

theorem pieces_text (text : List Char) :
    pieces (text.flatMap utf8EncodeChar) =
      text.map fun char => .scalar char char.utf8Size := by
  have read := pieces_text_append text []
  rwa [List.append_nil, pieces_nil, List.append_nil] at read

/-- No character and no fault reaches over a byte that continues no character. -/
theorem pieces_append_of_stops {back : List UInt8}
    (stops : ∀ byte ∈ back.head?, isContinuation byte = false) (bytes : List UInt8) :
    pieces (bytes ++ back) = pieces bytes ++ pieces back := by
  have reading := reading_pieces bytes
  generalize pieces bytes = found at reading
  induction reading with
  | nil => rfl
  | scalar char _ induction => rw [List.append_assoc, pieces_encoded, induction, List.cons_append]
  | fault fault _ induction =>
      rw [List.append_assoc, pieces_fault (fault.append stops), induction, List.cons_append]

end QueryPipe.Text.Utf8
