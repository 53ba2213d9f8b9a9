import QueryPipe.Go.Lexer
import QueryPipe.Proofs.RoundTrip

/-! The value of a string literal as the Go language defines it: a row of bytes.
Between double quotes escapes stand for bytes or for code points, and between
backquotes everything stands for itself, save carriage returns, which are dropped.

The lexer accepts more than these literals, since it does not look at what escapes
mean. -/

namespace QueryPipe.Go

open Text (trimBoth isNewlineChar isNewlineByte stripNewlines)

/-! ## Escapes -/

def digitValue (digit : Char) : Nat :=
  if digit.isDigit then digit.toNat - '0'.toNat
  else if 'a' ≤ digit then digit.toNat - 'a'.toNat + 10
  else digit.toNat - 'A'.toNat + 10

/-- The number that digits write in a base. -/
def numeral (base : Nat) (digits : List Char) : Nat :=
  digits.foldl (fun total digit => base * total + digitValue digit) 0

/-- Escapes of a single character. -/
def simpleEscapes : List (Char × UInt8) :=
  [('a', 7), ('b', 8), ('t', 9), ('n', 10), ('v', 11), ('f', 12), ('r', 13), ('"', 34), ('\\', 92)]

/-- The bytes of a code point in hexadecimal digits; surrogates are no code points. -/
def codePoint? (digits : List Char) : Option (List UInt8) :=
  if digits.all isHexDigit && decide (numeral 16 digits).isValidChar then
    some (String.utf8EncodeChar (Char.ofNat (numeral 16 digits)))
  else none

/-- How many characters an escape has that begins with a character. -/
def escapeWidth (lead : Char) : Nat :=
  if lead == 'x' then 3
  else if lead == 'u' then 5
  else if lead == 'U' then 9
  else if isOctalDigit lead then 3
  else 1

/-- The bytes that an escape stands for, given without its backslash. -/
def escapeValue? : List Char → Option (List UInt8)
  | [] => none
  | lead :: digits =>
    if digits.length + 1 != escapeWidth lead then none
    else if lead == 'x' then
      if digits.all isHexDigit then some [UInt8.ofNat (numeral 16 digits)] else none
    else if lead == 'u' || lead == 'U' then codePoint? digits
    else if isOctalDigit lead then
      if digits.all isOctalDigit && numeral 8 (lead :: digits) < 256 then
        some [UInt8.ofNat (numeral 8 (lead :: digits))]
      else none
    else (simpleEscapes.find? (·.1 == lead)).map ([·.2])

/-- Reads the body of an interpreted literal; the first `skip` characters belong to the
escape before them. -/
def unescapeFrom? : (skip : Nat) → List Char → Option (List UInt8)
  | 0, [] => some []
  | _ + 1, [] => none
  | skip + 1, _ :: rest => unescapeFrom? skip rest
  | 0, char :: rest =>
    if char == '\\' then
      let width := rest.head?.elim 0 escapeWidth
      (escapeValue? (rest.take width)).bind fun bytes =>
        (unescapeFrom? width rest).map (bytes ++ ·)
    else if char == '"' || char == '\n' then none
    else (unescapeFrom? 0 rest).map (String.utf8EncodeChar char ++ ·)

/-- The bytes of the body of a raw literal. -/
def verbatimBytes (body : List Char) : List UInt8 :=
  (body.filter (· != '\r')).flatMap String.utf8EncodeChar

/-- The value of a string literal, if it is a well-formed one. -/
def stringValue? (literal : List Char) : Option (List UInt8) :=
  match literal with
  | '"' :: rest => if rest.getLast? == some '"' then unescapeFrom? 0 rest.dropLast else none
  | '`' :: rest =>
    if rest.getLast? == some '`' && !rest.dropLast.contains '`' then
      some (verbatimBytes rest.dropLast)
    else none
  | _ => none

example : stringValue? "\"\\u00e9\\xff\\101\\n\"".toList = some [0xC3, 0xA9, 0xFF, 65, 10] := by
  decide +kernel

example : stringValue? "\"\\ud800\"".toList = none := by decide +kernel

example : stringValue? "\"\\400\"".toList = none := by decide +kernel

example : stringValue? "\"a\\\"".toList = none := by decide +kernel

/-! ## Bodies of interpreted literals -/

/-- A body is made of characters that stand for themselves and of escapes. -/
inductive Unescapes : List Char → List UInt8 → Prop
  | nil : Unescapes [] []
  | char {char : Char} {rest : List Char} {value : List UInt8} (noBackslash : char ≠ '\\')
      (noQuote : char ≠ '"') (noLineEnd : char ≠ '\n') :
      Unescapes rest value → Unescapes (char :: rest) (String.utf8EncodeChar char ++ value)
  | escape {sequence : List Char} {bytes : List UInt8} {rest : List Char} {value : List UInt8}
      (known : escapeValue? sequence = some bytes) :
      Unescapes rest value → Unescapes ('\\' :: (sequence ++ rest)) (bytes ++ value)

theorem length_of_escapeValue? {lead : Char} {digits : List Char} {bytes : List UInt8}
    (known : escapeValue? (lead :: digits) = some bytes) :
    (lead :: digits).length = escapeWidth lead := by
  rw [escapeValue?] at known
  split at known
  · cases known
  · rename_i width
    simpa using width

private theorem escapeWidth_pos (lead : Char) : 0 < escapeWidth lead := by
  unfold escapeWidth
  split_ifs <;> decide

private theorem unescapeFrom?_skip (skipped rest : List Char) :
    unescapeFrom? skipped.length (skipped ++ rest) = unescapeFrom? 0 rest := by
  induction skipped with
  | nil => rfl
  | cons char skipped induction => exact induction

theorem Unescapes.unescapeFrom? {body : List Char} {value : List UInt8}
    (unescapes : Unescapes body value) : Go.unescapeFrom? 0 body = some value := by
  induction unescapes with
  | nil => rfl
  | char noBackslash noQuote noLineEnd _ induction =>
      simp [Go.unescapeFrom?, noBackslash, noQuote, noLineEnd, induction]
  | @escape sequence bytes rest value known _ induction =>
      cases sequence with
      | nil => cases known
      | cons lead digits =>
          have width := length_of_escapeValue? known
          have taken : (lead :: digits ++ rest).take (escapeWidth lead) = lead :: digits := by
            rw [← width, List.take_left]
          have after := unescapeFrom?_skip (lead :: digits) rest
          rw [width, induction] at after
          rw [Go.unescapeFrom?, if_pos (by rfl)]
          simp only [List.cons_append, List.head?_cons, Option.elim_some] at taken after ⊢
          rw [taken, known, after]
          rfl

theorem unescapes_of_unescapeFrom? {body : List Char} {value : List UInt8}
    (read : Go.unescapeFrom? 0 body = some value) : Unescapes body value := by
  induction counted : body.length using Nat.strong_induction_on generalizing body value with
  | _ count induction =>
      cases body with
      | nil =>
          rcases Option.some.inj read with rfl
          exact .nil
      | cons char rest =>
          rw [Go.unescapeFrom?] at read
          split at read
          · rename_i isBackslash
            rcases beq_iff_eq.mp isBackslash with rfl
            rcases Option.bind_eq_some_iff.mp read with ⟨bytes, known, readRest⟩
            rcases Option.map_eq_some_iff.mp readRest with ⟨after, readAfter, rfl⟩
            have width : (rest.take (rest.head?.elim 0 escapeWidth)).length =
                rest.head?.elim 0 escapeWidth := by
              cases rest with
              | nil => rfl
              | cons lead more =>
                  rcases Nat.exists_eq_add_one_of_ne_zero (escapeWidth_pos lead).ne' with
                    ⟨count, counted⟩
                  rw [List.head?_cons, Option.elim_some, counted, List.take_succ_cons] at known ⊢
                  rw [length_of_escapeValue? known, counted]
            have divided := List.take_append_drop (rest.head?.elim 0 escapeWidth) rest
            generalize rest.head?.elim 0 escapeWidth = count at known readAfter width divided
            have skipped := unescapeFrom?_skip (rest.take count) (rest.drop count)
            rw [width, divided, readAfter] at skipped
            rw [← divided]
            refine .escape known (induction _ ?_ skipped.symm rfl)
            rw [← counted, List.length_cons, List.length_drop]
            omega
          · rename_i noBackslash
            split at read
            · cases read
            · rename_i other
              rcases Option.map_eq_some_iff.mp read with ⟨after, readAfter, rfl⟩
              rw [Bool.or_eq_true, beq_iff_eq, beq_iff_eq, not_or] at other
              exact .char (by simpa using noBackslash) other.1 other.2
                (induction rest.length (by simp [← counted]) readAfter rfl)

/-! ## Literals -/

open Literal (between doubleQuote backquote)

@[simp] theorem stringValue?_between_doubleQuote (body : List Char) :
    stringValue? (between doubleQuote body) = unescapeFrom? 0 body := by
  simp [stringValue?, between, doubleQuote]

theorem stringValue?_between_backquote (body : List Char) :
    stringValue? (between backquote body) =
      if backquote ∈ body then none else some (verbatimBytes body) := by
  by_cases inside : '`' ∈ body <;> simp [stringValue?, between, backquote, inside]

private theorem eq_between {quote : Char} {rest : List Char} (last : rest.getLast? = some quote) :
    quote :: rest = between quote rest.dropLast := by
  rcases List.getLast?_eq_some_iff.mp last with ⟨body, rfl⟩
  simp [between]

/-- The two kinds of well-formed literals. -/
theorem exists_body_of_stringValue? {literal : List Char} {value : List UInt8}
    (read : stringValue? literal = some value) :
    (∃ body, literal = between doubleQuote body ∧ Unescapes body value) ∨
      ∃ body, literal = between backquote body ∧ backquote ∉ body ∧
        value = verbatimBytes body := by
  unfold stringValue? at read
  split at read
  · rename_i rest
    split at read
    · rename_i closed
      exact .inl ⟨rest.dropLast, eq_between (beq_iff_eq.mp closed), unescapes_of_unescapeFrom? read⟩
    · cases read
  · rename_i rest
    split at read
    · rename_i closed
      rw [Bool.and_eq_true, beq_iff_eq, Bool.not_eq_true', List.contains_eq_mem,
        decide_eq_false_iff_not] at closed
      exact .inr ⟨rest.dropLast, eq_between closed.1, closed.2, (Option.some.inj read).symm⟩
    · cases read
  · cases read

end QueryPipe.Go
