import Mathlib.Data.List.Nodup
import Mathlib.Data.List.TakeWhile
import QueryPipe.Proofs.FileWrites
import QueryPipe.Proofs.PathOrder

/-! Discovery finds each file that is wanted once, in the order of paths, and nothing else. -/

namespace QueryPipe.Files

/-! ## Trees -/

namespace Node

mutual

/-- Names in a directory are those of entries, and distinct. -/
def isProper : Node → Bool
  | file .. => true
  | link _ => true
  | directory entries => areProper entries

def areProper : List (String × Node) → Bool
  | [] => true
  | (name, node) :: rest =>
    Path.isName name && !(rest.map Prod.fst).contains name && node.isProper && areProper rest

end

section Proper

variable {name : String} {node : Node} {entries : List (String × Node)}

theorem areProper_cons (proper : areProper ((name, node) :: entries)) :
    Path.isName name ∧ name ∉ entries.map Prod.fst ∧ node.isProper ∧ areProper entries := by
  rw [areProper, Bool.and_eq_true, Bool.and_eq_true, Bool.and_eq_true, Bool.not_eq_true',
    List.contains_eq_mem, decide_eq_false_iff_not] at proper
  exact ⟨proper.1.1.1, proper.1.1.2, proper.1.2, proper.2⟩

theorem isProper_of_mem (proper : areProper entries) (member : (name, node) ∈ entries) :
    Path.isName name ∧ node.isProper := by
  induction entries with
  | nil => cases member
  | cons entry rest induction =>
      rcases entry with ⟨key, child⟩
      rcases areProper_cons proper with ⟨named, -, properChild, properRest⟩
      rcases List.mem_cons.mp member with isEntry | member
      · cases isEntry
        exact ⟨named, properChild⟩
      · exact induction properRest member

/-- In a directory without double names an entry is what its name leads to. -/
theorem lookup_eq_some_iff (proper : areProper entries) :
    entries.lookup name = some node ↔ (name, node) ∈ entries := by
  induction entries with
  | nil => simp
  | cons entry rest induction =>
      rcases entry with ⟨key, child⟩
      rcases areProper_cons proper with ⟨-, fresh, -, properRest⟩
      rw [List.lookup_cons, List.mem_cons, Prod.mk.injEq]
      by_cases isKey : name = key
      · subst isKey
        have notBelow : (name, node) ∉ rest := fun member => fresh (List.mem_map_of_mem member)
        simp [notBelow, eq_comm]
      · rw [beq_eq_false_iff_ne.mpr isKey, induction properRest]
        simp [isKey]

end Proper

theorem isProper_of_get? {tree node : Node} {location : Location} (proper : tree.isProper)
    (found : tree.get? location = some node) :
    node.isProper ∧ ∀ name ∈ location, Path.isName name := by
  induction location generalizing tree with
  | nil =>
      cases found
      exact ⟨proper, by simp⟩
  | cons name rest induction =>
      rcases Option.bind_eq_some_iff.mp found with ⟨child, isChild, foundBelow⟩
      cases tree with
      | file | link => cases isChild
      | directory entries =>
          rcases isProper_of_mem proper ((lookup_eq_some_iff proper).mp isChild) with
            ⟨named, properChild⟩
          rcases induction properChild foundBelow with ⟨properNode, othersNamed⟩
          exact ⟨properNode, List.forall_mem_cons.mpr ⟨named, othersNamed⟩⟩

end Node

/-! ## Which files are wanted -/

/-- What follows the last dot of a name; a dot at the front begins no extension. -/
def HasExtension (name extension : String) : Prop :=
  ∃ stem, stem ≠ "" ∧ '.' ∉ extension.toList ∧ name = stem ++ "." ++ extension

theorem extension?_eq_some_iff (name extension : String) :
    Path.extension? name = some extension ↔ HasExtension name extension := by
  rw [Path.extension?, HasExtension]
  constructor
  · intro found
    have whole := @List.takeWhile_append_dropWhile _ (· != '.') name.toList.reverse
    have noDot : '.' ∉ name.toList.reverse.takeWhile (· != '.') :=
      fun member => by simpa using List.mem_takeWhile_imp member
    have dropped := List.head?_dropWhile_not (· != '.') name.toList.reverse
    simp only at found
    split at found
    · rename_i dot last stem isRest
      cases found
      generalize name.toList.reverse.takeWhile (· != '.') = back at whole noDot ⊢
      rw [isRest] at whole dropped
      have isDot : dot = '.' := by
        simpa using dropped
      refine ⟨String.ofList (last :: stem).reverse, by simp, by simpa using noDot, ?_⟩
      apply String.toList_injective
      rw [← List.reverse_inj, ← whole, isDot]
      simp
    · cases found
  · rintro ⟨stem, hasStem, noDot, rfl⟩
    have reversed : (stem ++ "." ++ extension).toList.reverse =
        extension.toList.reverse ++ '.' :: stem.toList.reverse := by
      simp
    have others : ∀ char ∈ extension.toList.reverse, (char != '.') = true := by
      intro char member
      rw [bne_iff_ne]
      rintro rfl
      exact noDot (List.mem_reverse.mp member)
    rcases List.exists_cons_of_ne_nil (l := stem.toList.reverse) (by simpa using hasStem) with
      ⟨last, front, isStem⟩
    simp only [reversed, isStem, List.takeWhile_append_of_pos others,
      List.dropWhile_append_of_pos others]
    simp

namespace Filter

/-- A name has a wanted extension, up to the dots before it and the case of its letters. -/
def Wants (filter : Filter) (name : String) : Prop :=
  ∃ extension, HasExtension name extension ∧ ∃ wanted ∈ filter.extensions,
    (wanted.toList.dropWhile (· == '.')).map Char.toLower = extension.toList.map Char.toLower

theorem wants_iff (filter : Filter) (name : String) :
    filter.wants name = true ↔ filter.Wants name := by
  rw [wants, Wants]
  cases found : Path.extension? name with
  | none =>
      refine ⟨nofun, ?_⟩
      rintro ⟨extension, has, -⟩
      rw [(extension?_eq_some_iff name extension).mpr has] at found
      cases found
  | some extension =>
      simp only [List.any_eq_true, lowerAscii, beq_iff_eq, String.ofList_inj, String.toList_ofList]
      constructor
      · intro wanted
        exact ⟨extension, (extension?_eq_some_iff name extension).mp found, wanted⟩
      · rintro ⟨other, has, wanted⟩
        rw [(extension?_eq_some_iff name other).mpr has] at found
        cases found
        exact wanted

/-- A location below a directory where a file stands that is wanted, with no name on the way
to it that is passed over. Links lead nowhere. -/
structure Finds (filter : Filter) (node : Node) (location : Location) : Prop where
  isFile : ∃ content isExecutable, node.get? location = some (.file content isExecutable)
  isWanted : ∃ name, location.getLast? = some name ∧ filter.Wants name
  isShown : filter.skipHidden → ∀ name ∈ location, name.toList.head? ≠ some '.'
  isEntered : ∀ name ∈ location.dropLast, name ∉ filter.skippedDirectories

variable {filter : Filter} {node : Node} {name : String} {rest : Location}

theorem prunes_eq_false_iff : filter.prunes name node = false ↔
    (filter.skipHidden → name.toList.head? ≠ some '.') ∧
      (node.isDirectory → name ∉ filter.skippedDirectories) := by
  rw [prunes]
  cases filter.skipHidden <;> cases node.isDirectory <;> simp

theorem not_finds_nil : ¬filter.Finds node [] := by
  intro finds
  rcases finds.isWanted with ⟨last, isLast, -⟩
  cases isLast

theorem finds_singleton : filter.Finds node [name] ↔
    ∃ child, node.child? name = some child ∧ filter.prunes name child = false ∧
      filter.Wants name ∧ ∃ content mode, child = .file content mode := by
  constructor
  · intro finds
    rcases finds.isFile with ⟨content, mode, isFile⟩
    rcases Option.bind_eq_some_iff.mp isFile with ⟨child, isChild, isFile⟩
    cases isFile
    rcases finds.isWanted with ⟨last, isLast, wanted⟩
    cases isLast
    have shown := fun skips => finds.isShown skips name List.mem_cons_self
    exact ⟨_, isChild, prunes_eq_false_iff.mpr ⟨shown, nofun⟩, wanted, content, mode, rfl⟩
  · rintro ⟨child, isChild, unpruned, wanted, content, mode, rfl⟩
    have shown := (prunes_eq_false_iff.mp unpruned).1
    refine ⟨⟨content, mode, ?_⟩, ⟨name, rfl, wanted⟩, ?_, nofun⟩
    · rw [Node.get?, isChild]
      rfl
    · intro skips other member
      rw [List.mem_singleton.mp member]
      exact shown skips

theorem finds_cons_cons {next : String} : filter.Finds node (name :: next :: rest) ↔
    ∃ child, node.child? name = some child ∧ filter.prunes name child = false ∧
      filter.Finds child (next :: rest) := by
  constructor
  · intro finds
    rcases finds.isFile with ⟨content, mode, isFile⟩
    rcases Option.bind_eq_some_iff.mp isFile with ⟨child, isChild, isFile⟩
    have shown := fun skips => List.forall_mem_cons.mp (finds.isShown skips)
    have entered := List.forall_mem_cons.mp finds.isEntered
    refine ⟨child, isChild, prunes_eq_false_iff.mpr ⟨fun skips => (shown skips).1, fun _ =>
      entered.1⟩, ?_⟩
    exact ⟨⟨content, mode, isFile⟩, finds.isWanted, fun skips => (shown skips).2, entered.2⟩
  · rintro ⟨child, isChild, unpruned, finds⟩
    rcases prunes_eq_false_iff.mp unpruned with ⟨shown, entered⟩
    rcases finds.isFile with ⟨content, mode, isFile⟩
    have isDirectory : child.isDirectory := by
      cases child with
      | file | link => cases isFile
      | directory entries => rfl
    refine ⟨⟨content, mode, ?_⟩, finds.isWanted, ?_, ?_⟩
    · rw [Node.get?, isChild, Option.bind_some, isFile]
    · exact fun skips => List.forall_mem_cons.mpr ⟨shown skips, finds.isShown skips⟩
    · exact List.forall_mem_cons.mpr ⟨entered isDirectory, finds.isEntered⟩

theorem finds_cons : filter.Finds node (name :: rest) ↔
    ∃ child, node.child? name = some child ∧ filter.prunes name child = false ∧
      (rest = [] ∧ filter.Wants name ∧ (∃ content mode, child = .file content mode) ∨
        filter.Finds child rest) := by
  cases rest with
  | nil => simp only [finds_singleton, not_finds_nil, true_and, or_false]
  | cons next rest => simp [finds_cons_cons]

/-! ## The walk -/

/-- What is found at or below one entry of a directory. -/
def under (filter : Filter) (name : String) (node : Node) : List Location :=
  if filter.prunes name node then []
  else
    match node with
    | .file .. => if filter.wants name then [[name]] else []
    | other => (filter.below other).map (name :: ·)

theorem among_cons (name : String) (node : Node) (entries : List (String × Node)) :
    filter.among ((name, node) :: entries) = filter.under name node ++ filter.among entries := by
  cases node <;> rfl

theorem mem_under {location : Location} : location ∈ filter.under name node ↔
    ∃ rest, location = name :: rest ∧ filter.prunes name node = false ∧
      (rest = [] ∧ filter.Wants name ∧ (∃ content mode, node = .file content mode) ∨
        rest ∈ filter.below node) := by
  rw [under.eq_def]
  cases filter.prunes name node with
  | true => simp
  | false =>
      cases node with
      | file content isExecutable =>
          simp only [Bool.false_eq_true, if_false, below, ← wants_iff]
          cases filter.wants name <;> simp
      | link target => simp [below]
      | directory entries => simp [eq_comm, and_comm]

theorem among_eq_flatMap (entries : List (String × Node)) :
    filter.among entries = entries.flatMap fun entry => filter.under entry.1 entry.2 := by
  induction entries with
  | nil => rfl
  | cons entry entries induction => rw [among_cons, induction, List.flatMap_cons]

theorem mem_among {location : Location} {entries : List (String × Node)} :
    location ∈ filter.among entries ↔
      ∃ name node, (name, node) ∈ entries ∧ location ∈ filter.under name node := by
  rw [among_eq_flatMap, List.mem_flatMap, Prod.exists]

theorem mem_below (proper : node.isProper) {location : Location} :
    location ∈ filter.below node ↔ filter.Finds node location := by
  -- a name of the location is one step down, so the induction need not follow the tree
  induction location generalizing node with
  | nil =>
      refine ⟨?_, ?_⟩
      · intro member
        cases node with
        | file | link => cases member
        | directory entries =>
            rcases mem_among.mp member with ⟨name, child, -, found⟩
            rcases mem_under.mp found with ⟨rest, isCons, -⟩
            cases isCons
      · intro finds
        exact absurd finds not_finds_nil
  | cons name rest induction =>
      rw [finds_cons]
      cases node with
      | file | link => exact ⟨nofun, nofun⟩
      | directory entries =>
          rw [below, mem_among]
          constructor
          · rintro ⟨_, child, member, found⟩
            rcases mem_under.mp found with ⟨_, isCons, unpruned, found⟩
            cases isCons
            refine ⟨child, (Node.lookup_eq_some_iff proper).mpr member, unpruned, ?_⟩
            exact found.imp_right (induction (Node.isProper_of_mem proper member).2).mp
          · rintro ⟨child, isChild, unpruned, finds⟩
            have member := (Node.lookup_eq_some_iff proper).mp isChild
            refine ⟨name, child, member, mem_under.mpr ⟨rest, rfl, unpruned, ?_⟩⟩
            exact finds.imp_right (induction (Node.isProper_of_mem proper member).2).mpr

theorem nodup_under (nodup : (filter.below node).Nodup) : (filter.under name node).Nodup := by
  rw [under.eq_def]
  split
  · exact .nil
  · split
    · split
      · exact List.nodup_singleton _
      · exact .nil
    · exact nodup.map List.cons_injective

mutual

theorem nodup_below : ∀ {node : Node}, node.isProper → (filter.below node).Nodup
  | .file .., _ => .nil
  | .link _, _ => .nil
  | .directory _, proper => nodup_among proper

theorem nodup_among : ∀ {entries : List (String × Node)}, Node.areProper entries →
    (filter.among entries).Nodup
  | [], _ => .nil
  | (name, node) :: entries, proper => by
      rcases Node.areProper_cons proper with ⟨-, fresh, properNode, properRest⟩
      rw [among_cons, List.nodup_append]
      refine ⟨nodup_under (nodup_below properNode), nodup_among properRest, ?_⟩
      -- a location in both parts would begin with the same name twice
      rintro location inNode other inRest rfl
      rcases mem_under.mp inNode with ⟨_, rfl, -⟩
      rcases mem_among.mp inRest with ⟨_, child, member, found⟩
      rcases mem_under.mp found with ⟨_, isCons, -⟩
      cases isCons
      exact fresh (List.mem_map_of_mem member)

end

end Filter

/-! ## Roots -/

namespace Resolve

variable {tree : Node}

/-- Whether a link at the end is followed matters only to a walk that ends at one. -/
theorem descend_unfollowed (location : Location) (names : List String) :
    (∃ place target, descend tree false location names = .arrived ⟨place, some (.link target)⟩) ∨
      descend tree true location names = descend tree false location names := by
  induction names generalizing location with
  | nil => exact .inr rfl
  | cons name rest induction =>
      rw [descend_cons, descend_cons]
      cases tree.standsAt? location with
      | none => exact .inr rfl
      | some entry =>
          cases entry with
          | file | link => exact .inr rfl
          | directory =>
              simp only
              split
              · exact induction location
              · split
                · exact induction _
                · split
                  · exact .inr rfl
                  · rw [enter, enter]
                    cases tree.standsAt? (location ++ [name]) with
                    | none => exact .inr rfl
                    | some entry =>
                        cases entry with
                        | file | directory => exact induction _
                        | link target =>
                            cases rest with
                            | nil => exact .inl ⟨_, target, rfl⟩
                            | cons next rest => exact .inr rfl

theorem follow_unfollowed {links : Nat} {location : Location} {names : List String} {spot : Spot}
    (found : follow tree false links location names = .ok spot)
    (notLink : ∀ target, spot.node? ≠ some (.link target)) :
    follow tree true links location names = .ok spot := by
  have same := @descend_unfollowed tree location names
  fun_induction follow tree false links location names with
  | case1 links location names arrived stop =>
      cases found
      rcases same with ⟨place, target, ends⟩ | same
      · rw [stop] at ends
        cases ends
        exact absurd rfl (notLink target)
      · rw [follow, same, stop]
  | case2 | case3 | case4 => cases found
  | case5 location names base target rest stop links accepted induction =>
      rcases same with ⟨place, other, ends⟩ | same
      · rw [stop] at ends
        cases ends
      · have further : follow tree true (links + 1) location names =
            follow tree true links (start target base) (steps target ++ rest) := by
          rw [follow, same, stop]
          exact if_neg accepted
        rw [Nat.succ_eq_add_one, further]
        exact induction found (descend_unfollowed _ _)

end Resolve

section Roots

variable [WorkingDirectory]

theorem lookup_of_resolve_file {tree : Node} {root : String} {location : Location}
    {content : List UInt8} {isExecutable : Bool}
    (found : resolve tree root false = .ok ⟨location, some (.file content isExecutable)⟩) :
    lookup tree root = .ok (location, .file content isExecutable) := by
  have followed : resolve tree root true = .ok ⟨location, some (.file content isExecutable)⟩ := by
    rw [resolve] at found ⊢
    split at found
    · cases found
    · rename_i noNul
      split at found
      · cases found
      · rename_i nonempty
        rw [if_neg noNul, if_neg nonempty]
        apply Resolve.follow_unfollowed found
        intro target isLink
        cases isLink
  rw [lookup, followed]

theorem get?_of_lookup {tree node : Node} {root : String} {location : Location}
    (found : lookup tree root = .ok (location, node)) : tree.get? location = some node := by
  rw [lookup] at found
  split at found
  · cases found
  · rename_i resolved
    cases found
    exact (sound_resolve resolved).1.symm
  · cases found

end Roots

namespace Filter

variable {filter : Filter} {node : Node}

theorem mem_locations (proper : node.isProper) {location : Location} :
    location ∈ filter.locations node ↔ filter.Finds node location := by
  rw [locations, List.mem_mergeSort, mem_below proper]

theorem increasing_below (filter : Filter) (root : String) (proper : node.isProper) :
    ((filter.locations node).map (Files.below root)).Pairwise fun left right =>
      Path.names left < Path.names right := by
  have named : ∀ location ∈ filter.locations node, ∀ name ∈ location, Path.isName name := by
    intro location member
    rcases ((mem_locations proper).mp member).isFile with ⟨content, isExecutable, isFile⟩
    exact (Node.isProper_of_get? proper isFile).2
  rw [List.pairwise_map]
  refine (Path.increasing_mergeSort (nodup_below proper)).imp_of_mem ?_
  intro left right isLeft isRight before
  -- both paths have the names of the root in front, so those of the locations decide
  rw [Path.names_below root (named left isLeft), Path.names_below root (named right isRight)]
  exact List.append_left_lt before

end Filter

/-- Discovery below a root that leads to a directory gives a path for each file that is found
below it, once, and paths that increase name by name; a root that is a file itself stands for
itself if its extension is wanted, whatever it is called otherwise; and a root that leads
nowhere is not found. -/
theorem discover_exact [WorkingDirectory] {tree : Node} (proper : tree.isProper) (root : String)
    (filter : Filter) :
    (∀ location entries, lookup tree root = .ok (location, .directory entries) →
      tree.get? location = some (.directory entries) ∧
      ∃ paths, discover tree root filter = .ok paths ∧
        (∀ path, path ∈ paths ↔
          ∃ inside, filter.Finds (.directory entries) inside ∧ path = below root inside) ∧
        paths.Nodup ∧ paths.Pairwise fun left right => Path.names left < Path.names right) ∧
    (∀ location content isExecutable,
      resolve tree root false = .ok ⟨location, some (.file content isExecutable)⟩ →
      let wanted := ∃ name, (Path.names root).getLast? = some name ∧ filter.Wants name
      (wanted → discover tree root filter = .ok [root]) ∧
        (¬wanted → discover tree root filter = .ok [])) ∧
    (∀ fault, lookup tree root = .error fault →
      discover tree root filter = .error (.notFound root)) := by
  refine ⟨?_, ?_, ?_⟩
  · intro location entries found
    have stands := get?_of_lookup found
    have properHere := (Node.isProper_of_get? proper stands).1
    have increasing := filter.increasing_below root properHere
    have distinct := increasing.imp fun before => ne_of_apply_ne Path.names (ne_of_lt before)
    refine ⟨stands, (filter.locations (.directory entries)).map (below root), ?_, ?_, distinct,
      increasing⟩
    · rw [discover, found]
    · intro path
      rw [List.mem_map]
      simp only [Filter.mem_locations properHere, eq_comm]
  · intro location content isExecutable found wanted
    have isWanted : wanted ↔ ((Path.names root).getLast?.map filter.wants).getD false := by
      simp only [wanted, ← Filter.wants_iff]
      cases (Path.names root).getLast? <;> simp
    rw [isWanted, discover, lookup_of_resolve_file found]
    simp only [found]
    exact ⟨fun isWanted => by rw [if_pos isWanted], fun unwanted => by rw [if_neg unwanted]⟩
  · intro fault missing
    rw [discover, missing]

/-- A directory comes before a name that continues its own, though its paths as texts do
not. A root may start at the top or lead there by a link, wherever relative paths start. -/
theorem discover_exact_continued_name :
    let _ : WorkingDirectory := ⟨["home"]⟩
    let source : Node := .file [] false
    let entries : List (String × Node) :=
      [("a-b.go", source), (".c.go", source), ("d.go", .link "a-b.go"),
        ("testdata", .directory [("e.go", source)]),
        ("a", .directory [("testdata.GO", source), ("f", source)])]
    let tree : Node :=
      .directory [("src", .directory entries), ("home", .directory [("up", .link "/src")])]
    discover tree "/src" {} = .ok ["/src/a/testdata.GO", "/src/a-b.go"] ∧
      discover tree "up/.c.go" {} = .ok ["up/.c.go"] ∧
      discover tree "src" {} = .error (.notFound "src") := by
  intro _ source entries tree
  have proper : tree.isProper := by
    decide +kernel
  refine ⟨?_, ?_, ?_⟩
  · rcases (discover_exact proper "/src" {}).1 ["src"] entries rfl with
      ⟨-, paths, found, members, -, increasing⟩
    have properHere : (Node.directory entries).isProper := by
      decide +kernel
    have walked : Filter.below {} (.directory entries) = [["a-b.go"], ["a", "testdata.GO"]] := by
      decide +kernel
    have finds : ∀ location, Filter.Finds {} (.directory entries) location ↔
        location = ["a-b.go"] ∨ location = ["a", "testdata.GO"] := by
      intro location
      rw [← Filter.mem_below properHere, walked, List.mem_pair]
    have listed : ∀ path, path ∈ paths ↔ path ∈ ["/src/a/testdata.GO", "/src/a-b.go"] := by
      intro path
      rw [members, List.mem_pair]
      constructor
      · rintro ⟨location, isFound, rfl⟩
        rcases (finds location).mp isFound with rfl | rfl
        · exact .inr (by decide +kernel)
        · exact .inl (by decide +kernel)
      · rintro (rfl | rfl)
        · exact ⟨_, (finds _).mpr (.inr rfl), by decide +kernel⟩
        · exact ⟨_, (finds _).mpr (.inl rfl), by decide +kernel⟩
    rw [found, Path.eq_of_increasing increasing (by decide +kernel) listed]
  · have wanted : Filter.Wants {} ".c.go" := by
      rw [← Filter.wants_iff]
      decide +kernel
    exact ((discover_exact proper "up/.c.go" {}).2.1 ["src", ".c.go"] [] false rfl).1
      ⟨".c.go", by decide +kernel, wanted⟩
  · exact (discover_exact proper "src" {}).2.2 .missing rfl

end QueryPipe.Files
