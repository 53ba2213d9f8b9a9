import QueryPipe.Proofs.Processing
import QueryPipe.Proofs.Rewriting

/-! The sites of a rewritten file. The command decides what its new literals are; the
check that the file still parses does not make each of them one literal. -/

namespace QueryPipe.Run

private theorem map_fst_literalsAfter {sites : List Site} {answers : List Command.Answer}
    (sameLength : answers.length = sites.length) :
    (literalsAfter sites answers).map Prod.fst = sites := by
  unfold literalsAfter
  induction sites generalizing answers with
  | nil => rfl
  | cons site sites induction =>
      cases answers with
      | nil => cases sameLength
      | cons answer answers =>
          rw [List.zipWith_cons_cons, List.map_cons, induction (Nat.succ.inj sameLength)]

private theorem literalAfter_of_fails {site : Site} {answer : Command.Answer}
    (fails : ¬ Succeeds true site answer) : literalAfter site answer = site.raw.toList := by
  rw [succeeds_iff] at fails
  rw [literalAfter]
  cases replaced : replacement? site answer.output with
  | none => rfl
  | some text =>
      have refused : answer.exitCode ≠ 0 := by simpa [replaced] using fails
      simp only [if_neg refused]

/-- Sites that fail keep their literals, which fit. -/
private theorem fits_iff {shape : Site.Shape} {source : List Char} {tree : Go.Tree}
    (parsed : Go.parse? source = some tree) {sites : List Site} {answers : List Command.Answer}
    (located : sites ⊆ Site.locate shape source tree) :
    (∀ pair ∈ literalsAfter sites answers, Fits source pair.1.start pair.2) ↔
      ∀ pair ∈ sites.zip answers, Succeeds true pair.1 pair.2 →
        Fits source pair.1.start (literalAfter pair.1 pair.2) := by
  rw [literalsAfter, ← List.map_uncurry_zip_eq_zipWith, List.forall_mem_map]
  constructor
  · intro fits pair member _
    exact fits pair member
  · intro fits pair member
    by_cases succeeds : Succeeds true pair.1 pair.2
    · exact fits pair member succeeds
    · have isSite := located (List.of_mem_zip member).1
      have own := Site.fits_raw parsed isSite
      rw [← literalAfter_of_fails succeeds] at own
      exact own

/-- The sites of a rewritten file, with no formatter. The new content parses. The
new literals are found in the places of the old ones just if each of them that comes
from an answer is one string literal, and ends no comment that is open before it;
and then there are as many sites, in the same order and of the same kinds. -/
theorem locate_rewritten {config : Config} {run : Command.Runner World}
    {command path source output : String} {tree : Go.Tree} {world after : World}
    {answers : List Command.Answer} {result : FileResult}
    (parsed : Go.parse? source.toList = some tree) (noFormatter : config.formatter = none)
    (answered : Answered run command (Site.locate config.shape source.toList tree) world
      answers after)
    (processed : (process config run command path source true world).1 = .ok result)
    (changed : result.output = some output) :
    let sites := Site.locate config.shape source.toList tree
    let fitting := ∀ pair ∈ sites.zip answers, Succeeds true pair.1 pair.2 →
      Fits source.toList pair.1.start (literalAfter pair.1 pair.2)
    ∃ newTree, Go.parse? output.toList = some newTree ∧
      (fitting ↔ (Site.locate config.shape output.toList newTree).map Site.place =
        relocated 0 0 (literalsAfter sites answers)) ∧
      (fitting → (Site.locate config.shape output.toList newTree).map
          (fun site => (site.raw.toList, site.kind)) =
        List.zipWith (fun site answer => (literalAfter site answer, site.kind)) sites answers) := by
  intro sites fitting
  have content : (contentAfter source sites answers).toList =
      weave source.toList 0 (literalsAfter sites answers) := String.toList_ofList
  rw [process_eq parsed noFormatter rfl answered] at processed
  split at processed
  case isFalse =>
      rcases Except.ok.inj processed with rfl
      cases changed
  split at processed
  case h_1 => cases processed
  rename_i contentTree reparsed
  rcases Except.ok.inj processed with rfl
  rcases Option.some.inj changed with rfl
  rcases Site.exists_found_of_parse? reparsed config.shape with ⟨lexemes, spelled, found⟩
  rcases found.exists_endWithNewline (Go.leadingMark_eq _) with ⟨ended, spells, endedFound⟩
  rw [← spelled, String.ofList_toList] at spells
  rcases endedFound.exists_parse? (Go.leadingMark_eq _) with ⟨newTree, newParsed, same⟩
  rw [← spells] at newParsed
  have places : fitting ↔ (Site.locate config.shape
      (Text.endWithNewline (contentAfter source sites answers)).toList newTree).map Site.place =
      relocated 0 0 (literalsAfter sites answers) := by
    rw [Site.map_place_locate, same]
    rw [content] at reparsed
    have woven := Site.places_weave_iff parsed (map_fst_literalsAfter answered.length) reparsed
    rw [← woven]
    exact (fits_iff parsed (List.Subset.refl _)).symm
  refine ⟨newTree, newParsed, places, ?_⟩
  intro fits
  have kinds := congrArg (List.map Prod.snd) (places.mp fits)
  rw [map_snd_relocated, List.map_map, literalsAfter, List.map_zipWith] at kinds
  exact kinds

/-- A longer literal in the place of the first moves the others, which keep their own. -/
theorem locate_rewritten_rejecting :
    let output := "p.Statement\x7bSQL:\"xyz\",SQL:fmt.Sprintf(\"%d\"),SQL:`r`\x7d\n"
    ∃ newTree, Go.parse? output.toList = some newTree ∧
      (Site.locate {} output.toList newTree).map Site.place =
        [(16, "\"xyz\"".toList, .plain), (38, "\"%d\"".toList, .template),
          (48, "`r`".toList, .plain)] := by
  intro output
  rcases exists_located_threeQueries with ⟨tree, parsed, located⟩
  have answered : Answered (rejecting "r" "xyz") "c" (Site.locate {} threeQueries.toList tree) ()
      [⟨"xyz", 0⟩, ⟨"xyz", 0⟩, ⟨"no", 1⟩] () := by
    rw [located]
    exact answered_of_ask (by decide +kernel)
  have processed : (process {} (rejecting "r" "xyz") "c" "q.go" threeQueries true ()).1 =
      .ok ⟨"q.go", some output,
        [⟨placeholdersChanged, ⟨1, 37⟩, "-999"⟩, ⟨"no", ⟨1, 47⟩, "r"⟩], true⟩ := by
    rw [process_eq parsed rfl located (located ▸ answered)]
    decide +kernel
  have spec := @locate_rewritten Unit {} (rejecting "r" "xyz") "c" "q.go" _ _ tree () () _ _ parsed
    rfl answered processed rfl
  rw [located] at spec
  rcases spec with ⟨newTree, newParsed, places, -⟩
  refine ⟨newTree, newParsed, (places.mp ?_).trans (by decide +kernel)⟩
  intro pair member succeeds
  simp only [List.zip_cons_cons, List.zip_nil_right, List.mem_cons, List.not_mem_nil,
    or_false] at member
  rcases member with rfl | rfl | rfl
  · exact ⟨by decide, fun _ => by decide⟩
  · exact absurd succeeds (by decide +kernel)
  · exact absurd succeeds (by decide +kernel)

/-- The numbers of sites of a source, and of what it becomes where a command prints
the same on every query. -/
def siteCounts (output source : String) : Option (Nat × Nat) := do
  let tree ← Go.parse? source.toList
  let result ← (process {} (printing output) "c" "q.go" source true ()).1.toOption
  let content ← result.output
  let newTree ← Go.parse? content.toList
  return ((Site.locate {} source.toList tree).length,
    (Site.locate {} content.toList newTree).length)

/-- An answer may end the literal and begin another one, or end a comment that was
none before; the site is lost, and what is left still parses. -/
theorem locate_rewritten_lost :
    siteCounts "x\"+\"y" "p.Statement\x7bSQL:\"q\"\x7d\n" = some (1, 0) ∧
      siteCounts "*/+" "x=a/*b\ny=p.Statement\x7bSQL:\"q\"\x7d//\"\n" = some (1, 0) := by
  decide +kernel

end QueryPipe.Run
