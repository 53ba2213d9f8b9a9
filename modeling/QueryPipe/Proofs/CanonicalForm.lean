import QueryPipe.Proofs.Rewriting
import QueryPipe.Run.Canonical
import Mathlib.Data.List.DropRight

/-! The canonical form of a source. Only line ends at its very end are added or taken away;
one of them ends whatever the end of the source may end, and the others are dropped, so the
canonical form parses as the source does and is its own canonical form. -/

namespace QueryPipe.Text

/-! ## One line end -/

/-- A text that ends in one `\n`, and is another one but for the `\n`s at the ends of both. -/
structure Closes (source text : String) : Prop where
  once : ∃ body, text.toList = body ++ ['\n'] ∧ body.getLast? ≠ some '\n'
  same : text.toList.rdropWhile (· == '\n') = source.toList.rdropWhile (· == '\n')

private theorem rdropWhile_newline_eq_self {body : List Char} (ends : body.getLast? ≠ some '\n') :
    body.rdropWhile (· == '\n') = body := by
  rw [List.rdropWhile_eq_self_iff]
  intro nonempty isNewline
  rw [List.getLast?_eq_some_getLast nonempty, beq_iff_eq.mp isNewline] at ends
  exact ends rfl

private theorem getLast?_rdropWhile_newline (text : List Char) :
    (text.rdropWhile (· == '\n')).getLast? ≠ some '\n' := by
  intro last
  have nonempty : text.rdropWhile (· == '\n') ≠ [] := by
    intro empty
    rw [empty] at last
    cases last
  rw [List.getLast?_eq_some_getLast nonempty, Option.some.injEq] at last
  exact List.rdropWhile_last_not _ _ nonempty (beq_iff_eq.mpr last)

/-- There is one such text. -/
theorem closes_iff {source text : String} : Closes source text ↔ text = endWithNewline source := by
  constructor
  · rintro ⟨⟨body, spelled, ends⟩, same⟩
    rw [spelled, List.rdropWhile_concat_pos _ _ _ rfl, rdropWhile_newline_eq_self ends] at same
    rw [← String.toList_inj, spelled, same]
    exact String.toList_ofList.symm
  · rintro rfl
    have spelled : (endWithNewline source).toList =
        source.toList.rdropWhile (· == '\n') ++ ['\n'] := String.toList_ofList
    refine ⟨⟨_, spelled, getLast?_rdropWhile_newline _⟩, ?_⟩
    rw [spelled, List.rdropWhile_concat_pos _ _ _ rfl, List.rdropWhile_idempotent]

theorem closes_endWithNewline (source : String) : Closes source (endWithNewline source) :=
  closes_iff.mpr rfl

@[simp] theorem endWithNewline_endWithNewline (source : String) :
    endWithNewline (endWithNewline source) = endWithNewline source := by
  have closes := closes_endWithNewline source
  exact (closes_iff.mp ⟨closes.once, rfl⟩).symm

end QueryPipe.Text

namespace QueryPipe.Run

open Text (Closes endWithNewline)

/-- A source still parses when it ends in one line end. -/
theorem isSome_parse?_endWithNewline {source : String}
    (parsed : (Go.parse? source.toList).isSome) :
    (Go.parse? (endWithNewline source).toList).isSome := by
  rcases Option.isSome_iff_exists.mp parsed with ⟨tree, parsed⟩
  -- Any shape will do: what the literals are is of no interest here.
  rcases Site.exists_found_of_parse? parsed {} with ⟨lexemes, spelled, found⟩
  rcases found.exists_endWithNewline (Go.leadingMark_eq _) with ⟨ended, spells, endedFound⟩
  rw [← spelled, String.ofList_toList] at spells
  rcases endedFound.exists_parse? (Go.leadingMark_eq _) with ⟨newTree, newParsed, -⟩
  rw [spells, newParsed]
  rfl

example : (Go.parse? "s := p.Statement\x7bSQL: \"q\"\x7d".toList).isSome := by decide +kernel

example : (Go.parse? "p.Statement\x7bSQL: \"q\"\x7d".toList).isNone := by decide +kernel

example : (Go.parse? "p.Statement\x7bSQL: \"q\"\x7d\n".toList).isSome := by decide +kernel

/-! ## Without a formatter -/

section

variable {run : Command.Runner World} {path source : String} {world : World}

theorem canonicalize_of_none {formatter : Option String}
    (unparsed : Go.parse? source.toList = none) :
    canonicalize run formatter path source world =
      (.error (.format path (Go.SourceError.message ⟨{ path }⟩)), world) := by
  rw [canonicalize, unparsed]
  rfl

theorem canonicalize_of_blank {formatter : Option String}
    (blank : ∀ command ∈ formatter, Text.isBlank command = true)
    (parsed : (Go.parse? source.toList).isSome) :
    canonicalize run formatter path source world = (.ok (endWithNewline source), world) := by
  rcases Option.isSome_iff_exists.mp parsed with ⟨tree, parsed⟩
  rw [canonicalize, parsed]
  cases formatter with
  | none => rfl
  | some command => simp only [if_pos (blank command rfl)]

/-! ## With a formatter -/

theorem canonicalize_of_command {command : String} (notBlank : Text.isBlank command = false)
    (parsed : (Go.parse? source.toList).isSome) :
    canonicalize run (some command) path source world =
      (match (run command (endWithNewline source) world).1 with
        | .error cause => .error (.command cause)
        | .ok answer => formatted path answer,
        (run command (endWithNewline source) world).2) := by
  rcases Option.isSome_iff_exists.mp parsed with ⟨tree, parsed⟩
  rw [canonicalize, parsed]
  simp only [notBlank, Bool.false_eq_true, if_false]
  rcases run command (endWithNewline source) world with ⟨answered, after⟩
  cases answered <;> rfl

end

/-- Command lines are run as they are, and what they are given is written down. -/
def noting (run : Command.Runner World) : Command.Runner (World × List (String × String)) :=
  fun command input (world, given) =>
    ((run command input world).1, (run command input world).2, given ++ [(command, input)])

/-- The canonical form of a source exists just if the source parses. Without a formatter it
is the source with one line end, it parses, and it is its own canonical form. A formatter is
given this text, once, and its answer decides. -/
theorem canonicalize_settles (run : Command.Runner World) (path source : String) :
    (∀ formatter : Option String, (∀ command ∈ formatter, Text.isBlank command = true) →
      ∀ world,
      (Go.parse? source.toList = none →
        canonicalize run formatter path source world =
          (.error (.format path (Go.SourceError.message ⟨{ path }⟩)), world)) ∧
      ((Go.parse? source.toList).isSome → ∃ text,
        canonicalize run formatter path source world = (.ok text, world) ∧
        Closes source text ∧ (Go.parse? text.toList).isSome ∧
        canonicalize run formatter path text world = (.ok text, world))) ∧
    ∀ command, Text.isBlank command = false → ∀ world given,
      (Go.parse? source.toList = none →
        canonicalize (noting run) (some command) path source (world, given) =
          (.error (.format path (Go.SourceError.message ⟨{ path }⟩)), world, given)) ∧
      ((Go.parse? source.toList).isSome → ∃ text result, Closes source text ∧
        canonicalize (noting run) (some command) path source (world, given) =
          (result, (run command text world).2, given ++ [(command, text)]) ∧
        (∀ cause, (run command text world).1 = .error cause →
          result = .error (.command cause)) ∧
        ∀ answer, (run command text world).1 = .ok answer →
          (answer.exitCode ≠ 0 → result = .error (.format path answer.output)) ∧
          (answer.exitCode = 0 →
            ∃ final, result = .ok final ∧ Closes answer.output final)) := by
  constructor
  · intro formatter blank world
    refine ⟨canonicalize_of_none, ?_⟩
    intro parsed
    have endedParsed := isSome_parse?_endWithNewline parsed
    refine ⟨endWithNewline source, canonicalize_of_blank blank parsed,
      Text.closes_endWithNewline source, endedParsed, ?_⟩
    rw [canonicalize_of_blank blank endedParsed, Text.endWithNewline_endWithNewline]
  · intro command notBlank world given
    refine ⟨canonicalize_of_none, ?_⟩
    intro parsed
    refine ⟨endWithNewline source, _, Text.closes_endWithNewline source,
      canonicalize_of_command notBlank parsed, ?_, ?_⟩
    · intro cause failed
      simp only [noting, failed]
    · intro answer answered
      simp only [noting, answered, formatted, Command.Answer.isSuccess, beq_iff_eq]
      refine ⟨fun refused => if_neg refused, fun accepted => ?_⟩
      exact ⟨_, if_pos accepted, Text.closes_endWithNewline _⟩

/-- A call is refused where no line end follows it, before a formatter is asked, and stands
with one. A value may stand without one, and the comment behind it too; a formatter that refuses
what it is given has been given the line end. -/
theorem canonicalize_settles_comment :
    canonicalize (fun _ _ world => (.ok ⟨"no", 1⟩, world)) (some " ") "a.go" "f() // b" () =
        (.error (.format "a.go" "Parse error: a.go: syntax error"), ()) ∧
    canonicalize (noting fun _ _ world => (.ok ⟨"no", 1⟩, world)) (some "fmt") "a.go" "f() // b"
        ((), []) = (.error (.format "a.go" "Parse error: a.go: syntax error"), (), []) ∧
    (∃ text, canonicalize (fun _ _ world => (.ok ⟨"no", 1⟩, world)) (some " ") "a.go"
        "f() // b\n\n" () = (.ok text, ()) ∧ Closes "f() // b\n\n" text ∧
        (Go.parse? text.toList).isSome) ∧
    ∃ text, Closes "x := f() // b" text ∧
      canonicalize (noting fun _ _ world => (.ok ⟨"no", 1⟩, world)) (some "fmt") "a.go"
        "x := f() // b" ((), []) = (.error (.format "a.go" "no"), (), [("fmt", text)]) := by
  have unparsed : Go.parse? "f() // b".toList = none := by
    rw [← Option.isNone_iff_eq_none]
    decide +kernel
  have ended : (Go.parse? "f() // b\n\n".toList).isSome := by
    decide +kernel
  have valued : (Go.parse? "x := f() // b".toList).isSome := by
    decide +kernel
  rcases canonicalize_settles (fun _ _ world => (.ok ⟨"no", 1⟩, world)) "a.go" "f() // b"
    with ⟨unformatted, formatting⟩
  refine ⟨(unformatted (some " ") (by decide) ()).1 unparsed,
    (formatting "fmt" (by decide) () []).1 unparsed, ?_, ?_⟩
  · rcases canonicalize_settles (fun _ _ world => (.ok ⟨"no", 1⟩, world)) "a.go" "f() // b\n\n"
      with ⟨unformatted, -⟩
    rcases (unformatted (some " ") (by decide) ()).2 ended with
      ⟨text, canonical, closes, parsed, -⟩
    exact ⟨text, canonical, closes, parsed⟩
  · rcases canonicalize_settles (fun _ _ world => (.ok ⟨"no", 1⟩, world)) "a.go" "x := f() // b"
      with ⟨-, formatting⟩
    rcases (formatting "fmt" (by decide) () []).2 valued with
      ⟨text, result, closes, canonical, -, answered⟩
    rw [(answered ⟨"no", 1⟩ rfl).1 (by decide)] at canonical
    exact ⟨text, closes, canonical⟩

end QueryPipe.Run
