import QueryPipe.Files.Source

/-! Writing a file of a tree leaves everything else of the tree as it was, and every other
path leads where it led before. -/

namespace QueryPipe.Files

/-! ## What stands at a location -/

/-- What stands at a location of a tree, without what is below it. -/
inductive Entry where
  | file (content : List UInt8) (isExecutable : Bool)
  | link (target : String)
  | directory
deriving DecidableEq, Repr

/-- A node without what is below it. -/
def Node.entry : Node → Entry
  | file content isExecutable => .file content isExecutable
  | link target => .link target
  | directory _ => .directory

/-- What stands at a location. -/
def Node.standsAt? (tree : Node) (location : Location) : Option Entry :=
  (tree.get? location).map Node.entry

namespace Node

theorem get?_append (tree : Node) (front back : Location) :
    tree.get? (front ++ back) = (tree.get? front).bind (·.get? back) := by
  induction front generalizing tree with
  | nil => rfl
  | cons name front induction =>
      rw [List.cons_append, get?, get?, Option.bind_assoc]
      exact Option.bind_congr fun child _ => induction child

theorem get?_append_name {tree : Node} {location : Location} {entries : List (String × Node)}
    (found : tree.get? location = some (.directory entries)) (name : String) :
    tree.get? (location ++ [name]) = entries.lookup name := by
  rw [get?_append, found, Option.bind_some, get?, child?]
  cases entries.lookup name <;> rfl

theorem get?_below_file (content : List UInt8) (isExecutable : Bool) (name : String)
    (rest : Location) : (file content isExecutable).get? (name :: rest) = none := rfl

private theorem lookup_cons_eq (key : String) (node : Node) (entries : List (String × Node))
    (name : String) :
    ((key, node) :: entries).lookup name =
      if name = key then some node else entries.lookup name := by
  rw [List.lookup_cons]
  by_cases equal : name = key
  · rw [if_pos equal, beq_iff_eq.mpr equal]
  · rw [if_neg equal, beq_eq_false_iff_ne.mpr equal]

theorem lookup_assign (name : String) (node : Node) (entries : List (String × Node))
    (other : String) :
    (assign name node entries).lookup other =
      if other = name then some node else entries.lookup other := by
  induction entries with
  | nil => exact lookup_cons_eq name node [] other
  | cons entry rest induction =>
      rcases entry with ⟨key, child⟩
      rw [assign, lookup_cons_eq key]
      by_cases same : key = name
      · subst same
        rw [if_pos (beq_self_eq_true key), lookup_cons_eq]
        by_cases isKey : other = key
        · rw [if_pos isKey, if_pos isKey]
        · rw [if_neg isKey, if_neg isKey, if_neg isKey]
      · rw [if_neg (by simpa using same), lookup_cons_eq, induction]
        by_cases isKey : other = key
        · rw [if_pos isKey, if_pos isKey, if_neg (isKey ▸ same)]
        · rw [if_neg isKey, if_neg isKey]

/-- A file can be put here: at a file, or under a new name in a directory. -/
inductive HasRoom : Node → Location → Prop
  | file (content : List UInt8) (isExecutable : Bool) : HasRoom (.file content isExecutable) []
  | new {entries : List (String × Node)} {name : String} (free : entries.lookup name = none) :
      HasRoom (.directory entries) [name]
  | inside {entries : List (String × Node)} {name : String} {child : Node} {rest : Location}
      (found : entries.lookup name = some child) :
      HasRoom child rest → HasRoom (.directory entries) (name :: rest)

theorem hasRoom_of_file {tree : Node} {location : Location} {content : List UInt8}
    {isExecutable : Bool} (found : tree.get? location = some (.file content isExecutable)) :
    tree.HasRoom location := by
  induction location generalizing tree with
  | nil =>
      rcases Option.some.inj found with rfl
      exact .file content isExecutable
  | cons name rest induction =>
      rcases Option.bind_eq_some_iff.mp found with ⟨child, isChild, foundBelow⟩
      cases tree with
      | file | link => cases isChild
      | directory entries => exact .inside isChild (induction foundBelow)

theorem hasRoom_of_directory {tree : Node} {location : Location}
    {entries : List (String × Node)} {name : String}
    (found : tree.get? location = some (.directory entries)) (free : entries.lookup name = none) :
    tree.HasRoom (location ++ [name]) := by
  induction location generalizing tree with
  | nil =>
      rcases Option.some.inj found with rfl
      exact .new free
  | cons step rest induction =>
      rcases Option.bind_eq_some_iff.mp found with ⟨child, isChild, foundBelow⟩
      cases tree with
      | file | link => cases isChild
      | directory others => exact .inside isChild (induction foundBelow)

/-- A file that is put somewhere stands there, and everything else stands where it stood. -/
theorem standsAt?_put {tree : Node} {location : Location} (room : tree.HasRoom location)
    (content : List UInt8) (isExecutable : Bool) (other : Location) :
    (tree.put (.file content isExecutable) location).standsAt? other =
      if other = location then some (.file content isExecutable) else tree.standsAt? other := by
  induction room generalizing other with
  | file =>
      cases other with
      | nil => rfl
      | cons name rest => simp [put, standsAt?, get?_below_file]
  | @new entries name free =>
      cases other with
      | nil => rfl
      | cons key rest =>
          rw [put, standsAt?, get?, child?, lookup_assign, free]
          by_cases equal : key = name
          · subst equal
            cases rest <;> simp [put, get?, child?, standsAt?, entry, free]
          · simp [equal, standsAt?, get?, child?]
  | @inside entries name child rest found room induction =>
      cases other with
      | nil => rfl
      | cons key others =>
          rw [put, standsAt?, get?, child?, lookup_assign, found, Option.getD_some]
          by_cases equal : key = name
          · subst equal
            rw [if_pos rfl, Option.bind_some, ← standsAt?, induction]
            simp [standsAt?, get?, child?, found]
          · simp [equal, standsAt?, get?, child?]

end Node

/-! ## Paths after a write -/

/-- The second tree is the first with a file put where a file or nothing stood. -/
structure Rewritten (tree : Node) (location : Location) (after : Node) : Prop where
  vacant : ∀ entry ∈ tree.standsAt? location, ∃ content isExecutable,
    entry = .file content isExecutable
  here : ∃ content isExecutable, after.standsAt? location = some (.file content isExecutable)
  elsewhere : ∀ other, other ≠ location → after.standsAt? other = tree.standsAt? other

theorem rewritten_put {tree : Node} {location : Location} (room : tree.HasRoom location)
    (vacant : ∀ entry ∈ tree.standsAt? location, ∃ content isExecutable,
      entry = .file content isExecutable) (content : List UInt8) (isExecutable : Bool) :
    Rewritten tree location (tree.put (.file content isExecutable) location) where
  vacant := vacant
  here := ⟨content, isExecutable, by rw [Node.standsAt?_put room, if_pos rfl]⟩
  elsewhere other different := by rw [Node.standsAt?_put room, if_neg different]

namespace Resolve

section Descending

variable {tree after : Node} {place : Location} {followLast : Bool}

/-- The walk goes on at what stands under a name in a directory. -/
def enter (tree : Node) (followLast : Bool) (location : Location) (name : String)
    (rest : List String) : Stop :=
  match tree.standsAt? (location ++ [name]) with
  | none => if rest.isEmpty then .arrived ⟨location ++ [name], none⟩ else .fault .missing
  | some (.link target) =>
    if rest.isEmpty && !followLast then .arrived ⟨location ++ [name], some (.link target)⟩
    else .link location target rest
  | some _ => descend tree followLast (location ++ [name]) rest

/-- A step down depends only on what stands here and under the next name. -/
theorem descend_cons (location : Location) (name : String) (rest : List String) :
    descend tree followLast location (name :: rest) =
      match tree.standsAt? location with
      | some .directory =>
        if name == "." then descend tree followLast location rest
        else if name == ".." then descend tree followLast location.dropLast rest
        else if name.utf8ByteSize > longestName then .fault .nameTooLong
        else enter tree followLast location name rest
      | some _ => .fault .notDirectory
      | none => .fault .missing := by
  rw [descend, Node.standsAt?]
  cases found : tree.get? location with
  | none => rfl
  | some node =>
      cases node with
      | file | link => rfl
      | directory entries =>
          rw [enter, Node.standsAt?, Node.get?_append_name found]
          simp only [Option.map_some, Node.entry]
          cases entries.lookup name with
          | none => rfl
          | some child => cases child <;> rfl

/-- What is known where a walk ends: what is found is what stands there, where nothing
stands there is room for it, and a link stands in a place that exists. -/
def Sound (tree : Node) : Stop → Prop
  | .arrived spot => spot.node? = tree.get? spot.location ∧
      (spot.node? = none → tree.HasRoom spot.location)
  | .link base _ _ => (tree.get? base).isSome
  | .fault _ => True

theorem isSome_get?_dropLast {location : Location} (present : (tree.get? location).isSome) :
    (tree.get? location.dropLast).isSome := by
  rcases List.eq_nil_or_concat location with rfl | ⟨front, last, rfl⟩
  · exact present
  · rcases Option.isSome_iff_exists.mp present with ⟨node, found⟩
    rw [List.concat_eq_append, Node.get?_append] at found
    rcases Option.bind_eq_some_iff.mp found with ⟨above, isAbove, -⟩
    rw [List.concat_eq_append, List.dropLast_concat, isAbove, Option.isSome_some]

/-- A place that does not exist is no matter as long as there is a step to take from it. -/
theorem sound_descend {location : Location} {names : List String}
    (present : names = [] → (tree.get? location).isSome) :
    Sound tree (descend tree followLast location names) := by
  induction names generalizing location with
  | nil =>
      refine ⟨rfl, ?_⟩
      intro absent
      exact absurd (present rfl) (Option.not_isSome_iff_eq_none.mpr absent)
  | cons name rest induction =>
      rw [descend]
      split
      · rename_i entries found
        have here : (tree.get? location).isSome := Option.isSome_of_eq_some found
        have under := Node.get?_append_name found name
        split
        · exact induction fun _ => here
        · split
          · exact induction fun _ => isSome_get?_dropLast here
          · split
            · trivial
            · split
              · rename_i free
                split
                · exact ⟨(under.trans free).symm, fun _ => Node.hasRoom_of_directory found free⟩
                · trivial
              · rename_i target isLink
                split
                · exact ⟨(under.trans isLink).symm, fun absent => nomatch absent⟩
                · exact here
              · rename_i child _ isChild
                refine induction fun _ => ?_
                rw [under, isChild, Option.isSome_some]
      · trivial
      · trivial

/-- How a walk ends once a file was written: where it arrived it still arrives, a link is
still followed, and a fault stays a fault. -/
def StillEnds : Stop → Stop → Prop
  | .arrived spot, stop => ∃ node?, stop = .arrived ⟨spot.location, node?⟩
  | .link base target rest, stop => stop = .link base target rest
  | .fault _, stop => ∃ fault, stop = .fault fault

theorem stillEnds_enter (rewritten : Rewritten tree place after) (location : Location)
    (name : String) {rest : List String}
    (further : ∀ location, StillEnds (descend tree followLast location rest)
      (descend after followLast location rest)) :
    StillEnds (enter tree followLast location name rest)
      (enter after followLast location name rest) := by
  rw [enter, enter]
  by_cases isPlace : location ++ [name] = place
  · rcases rewritten.here with ⟨content, isExecutable, here⟩
    rw [isPlace, here]
    cases found : tree.standsAt? place with
    | some entry =>
        rcases rewritten.vacant entry found with ⟨_, _, rfl⟩
        exact further place
    | none =>
        -- a name that was free is now that of a file, below which there is still nothing
        cases rest with
        | nil => exact ⟨_, rfl⟩
        | cons next rest =>
            have blocked : descend after followLast place (next :: rest) = .fault .notDirectory := by
              rw [descend_cons, here]
            exact ⟨_, blocked⟩
  · rw [rewritten.elsewhere _ isPlace]
    cases tree.standsAt? (location ++ [name]) with
    | none => cases rest <;> exact ⟨_, rfl⟩
    | some entry =>
        cases entry with
        | file | directory => exact further _
        | link target =>
            simp only
            split
            · exact ⟨_, rfl⟩
            · rfl

theorem stillEnds_descend (rewritten : Rewritten tree place after) (location : Location)
    (names : List String) :
    StillEnds (descend tree followLast location names)
      (descend after followLast location names) := by
  induction names generalizing location with
  | nil => exact ⟨_, rfl⟩
  | cons name rest induction =>
      rw [@descend_cons tree, @descend_cons after]
      by_cases isPlace : location = place
      · rcases rewritten.here with ⟨content, isExecutable, here⟩
        rw [isPlace, here]
        cases found : tree.standsAt? place with
        | none => exact ⟨_, rfl⟩
        | some entry =>
            rcases rewritten.vacant entry found with ⟨_, _, rfl⟩
            exact ⟨_, rfl⟩
      · rw [rewritten.elsewhere location isPlace]
        cases tree.standsAt? location with
        | none => exact ⟨_, rfl⟩
        | some entry =>
            cases entry with
            | file | link => exact ⟨_, rfl⟩
            | directory =>
                simp only
                split
                · exact induction location
                · split
                  · exact induction _
                  · split
                    · exact ⟨_, rfl⟩
                    · exact stillEnds_enter rewritten location name induction

end Descending

section Following

variable {tree after : Node} {place : Location} {followLast : Bool}

theorem exists_ne_nil_of_splitPieces {separator : Char} {piece : List Char}
    (started : piece ≠ []) (items : List Char) :
    ∃ found ∈ Text.splitPieces separator piece items, found ≠ [] := by
  induction items generalizing piece with
  | nil => exact ⟨piece.reverse, List.mem_singleton_self _, List.reverse_ne_nil_iff.mpr started⟩
  | cons item rest induction =>
      rw [Text.splitPieces]
      split
      · exact ⟨piece.reverse, List.mem_cons_self, List.reverse_ne_nil_iff.mpr started⟩
      · exact induction (List.cons_ne_nil item piece)

/-- A path that takes no step at all leads to the top of the tree. -/
theorem isAbsolute_of_steps {path : String} (nonempty : ¬path.isEmpty = true)
    (noSteps : steps path = []) : Path.isAbsolute path = true := by
  have noNames : Path.names path = [] := (List.append_eq_nil_iff.mp noSteps).1
  rw [Path.names, List.map_eq_nil_iff, List.filter_eq_nil_iff] at noNames
  rw [Path.isAbsolute]
  cases chars : path.toList with
  | nil =>
      rw [String.toList_eq_nil_iff] at chars
      exact absurd (by rw [chars]; rfl) nonempty
  | cons first rest =>
      by_cases isSeparator : first = Path.separator
      · rw [isSeparator]
        rfl
      · have split : Text.splitOn Path.separator (first :: rest) =
            Text.splitPieces Path.separator [first] rest := by
          rw [Text.splitOn, Text.splitPieces, if_neg (by simpa using isSeparator)]
        rcases exists_ne_nil_of_splitPieces (List.cons_ne_nil first []) rest
          with ⟨found, member, filled⟩
        rw [chars, split] at noNames
        exact absurd (by simpa using filled) (noNames found member)

theorem isSome_get?_start {location : Location} (present : (tree.get? location).isSome)
    (path : String) : (tree.get? (start path location)).isSome := by
  rw [start]
  split
  · rfl
  · exact present

theorem sound_follow {links : Nat} {location : Location} {names : List String} {spot : Spot}
    (present : names = [] → (tree.get? location).isSome)
    (found : follow tree followLast links location names = .ok spot) :
    Sound tree (.arrived spot) := by
  have ended := @sound_descend tree followLast location names present
  fun_induction follow tree followLast links location names with
  | case1 links location names spot stop =>
      cases found
      rwa [stop] at ended
  | case2 | case3 | case4 => cases found
  | case5 location names base target rest stop links _ induction =>
      rw [stop] at ended
      have reached := isSome_get?_start ended target
      exact induction (fun _ => reached) found (sound_descend fun _ => reached)

/-- What a path leads to once a file was written: the same place, and nowhere if it led
nowhere. -/
def StillLeads : Except Fault Spot → Except Fault Spot → Prop
  | .ok spot, result => ∃ node?, result = .ok ⟨spot.location, node?⟩
  | .error _, result => ∃ fault, result = .error fault

theorem stillLeads_follow (rewritten : Rewritten tree place after) (links : Nat)
    (location : Location) (names : List String) :
    StillLeads (follow tree followLast links location names)
      (follow after followLast links location names) := by
  have still := @stillEnds_descend tree after place followLast rewritten location names
  fun_induction follow tree followLast links location names with
  | case1 links location names spot stop =>
      rw [stop] at still
      rcases still with ⟨node?, stop⟩
      exact ⟨node?, by rw [follow, stop]⟩
  | case2 links location names fault stop =>
      rw [stop] at still
      rcases still with ⟨fault, stop⟩
      exact ⟨fault, by rw [follow, stop]⟩
  | case3 location names base target rest stop =>
      rw [stop] at still
      exact ⟨.tooManyLinks, by rw [follow, still]⟩
  | case4 location names base target rest stop links refused =>
      rw [stop] at still
      have refusedAfter : follow after followLast (links + 1) location names = .error .missing := by
        rw [follow, still]
        exact if_pos refused
      exact ⟨.missing, refusedAfter⟩
  | case5 location names base target rest stop links accepted induction =>
      rw [stop] at still
      have further : follow after followLast (links + 1) location names =
          follow after followLast links (start target base) (steps target ++ rest) := by
        rw [follow, still]
        exact if_neg accepted
      rw [Nat.succ_eq_add_one, further]
      exact induction (stillEnds_descend rewritten _ _)

end Following

end Resolve

section Opening

variable [WorkingDirectory] {tree after : Node} {place : Location}

theorem sound_resolve {path : String} {followLast : Bool} {spot : Spot}
    (found : resolve tree path followLast = .ok spot) :
    Resolve.Sound tree (.arrived spot) := by
  rw [resolve] at found
  split at found
  · cases found
  · split at found
    · cases found
    · rename_i nonempty
      refine Resolve.sound_follow ?_ found
      intro noSteps
      rw [Resolve.start, if_pos (Resolve.isAbsolute_of_steps nonempty noSteps)]
      rfl

theorem stillLeads_resolve (rewritten : Rewritten tree place after) (path : String)
    (followLast : Bool) :
    Resolve.StillLeads (resolve tree path followLast) (resolve after path followLast) := by
  rw [resolve, resolve]
  split
  · exact ⟨_, rfl⟩
  · split
    · exact ⟨_, rfl⟩
    · exact Resolve.stillLeads_follow rewritten _ _ _

/-! ## Writing by path -/

/-- Where a write to a path goes, and whether the file there can be executed; nothing if
the path cannot be written. -/
def opened? (tree : Node) (path : String) : Option (Location × Bool) :=
  if Path.endsInSeparator path then none
  else (writable tree path).toOption

theorem writable_eq (path : String) :
    (writable tree path).toOption =
      (resolve tree path true).toOption.bind fun spot =>
        match tree.standsAt? spot.location with
        | none => some (spot.location, false)
        | some (.file _ isExecutable) => some (spot.location, isExecutable)
        | some _ => none := by
  rw [writable]
  cases found : resolve tree path true with
  | error => rfl
  | ok spot =>
      rcases spot with ⟨location, node?⟩
      have standing : node? = tree.get? location := (sound_resolve found).1
      simp only [Except.toOption, Option.bind_some, Node.standsAt?, ← standing]
      cases node? with
      | none => rfl
      | some node => cases node <;> rfl

theorem writeBytes_eq (path : String) (content : List UInt8) :
    (writeBytes tree path content).toOption =
      (opened? tree path).map fun target => tree.put (.file content target.2) target.1 := by
  rw [writeBytes, refuseDirectoryPath, opened?]
  split
  · rename_i refused
    cases lookup tree (parentPath path) with
    | error => rfl
    | ok found =>
        rcases found with ⟨_, node⟩
        cases node <;> rfl
  · cases writable tree path <;> rfl

/-- A path that cannot be written refuses every write, and nothing comes of it. -/
theorem replaceText_of_closed {path : String} (closed : opened? tree path = none)
    (text : String) (fate : Fate) :
    ∃ error, replaceText tree path text fate = (some error, tree) := by
  have written := @writeBytes_eq _ tree path (fate.reaching (Text.Utf8.encode text))
  rw [closed, Option.map_none] at written
  rw [replaceText, overwrite]
  cases attempt : writeBytes tree path (fate.reaching (Text.Utf8.encode text)) with
  | error fault => exact ⟨.system fault, rfl⟩
  | ok next =>
      rw [attempt] at written
      cases written

/-- At a path that can be written the fate of the write decides. -/
theorem replaceText_of_opened {path : String} {target : Location × Bool}
    (opened : opened? tree path = some target) (text : String) (fate : Fate) :
    replaceText tree path text fate =
      (fate.fault?.map .system,
        if fate.opens then
          tree.put (.file (fate.reaching (Text.Utf8.encode text)) target.2) target.1
        else tree) := by
  have written := @writeBytes_eq _ tree path (fate.reaching (Text.Utf8.encode text))
  rw [opened, Option.map_some] at written
  rw [replaceText, overwrite]
  cases attempt : writeBytes tree path (fate.reaching (Text.Utf8.encode text)) with
  | error fault =>
      rw [attempt] at written
      cases written
  | ok next =>
      rw [attempt] at written
      cases written
      rfl

/-- A path that can be written leads to a file, or to a free name in a directory. -/
theorem exists_spot_of_opened? {path : String} {target : Location × Bool}
    (opened : opened? tree path = some target) :
    ∃ spot, resolve tree path true = .ok spot ∧ spot.location = target.1 ∧
      ∀ entry ∈ tree.standsAt? target.1, ∃ content, entry = .file content target.2 := by
  rw [opened?] at opened
  split at opened
  · cases opened
  · rw [writable_eq] at opened
    rcases Option.bind_eq_some_iff.mp opened with ⟨spot, resolved, opened⟩
    have found : resolve tree path true = .ok spot := by
      cases result : resolve tree path true with
      | error =>
          rw [result] at resolved
          cases resolved
      | ok other =>
          rw [result] at resolved
          exact congrArg Except.ok (Option.some.inj resolved)
    refine ⟨spot, found, ?_⟩
    cases standing : tree.standsAt? spot.location with
    | none =>
        rw [standing] at opened
        rcases Option.some.inj opened with rfl
        exact ⟨rfl, by simp [standing]⟩
    | some entry =>
        rw [standing] at opened
        cases entry with
        | link | directory => cases opened
        | file content isExecutable =>
            rcases Option.some.inj opened with rfl
            exact ⟨rfl, by simp [standing]⟩

theorem room_of_opened? {path : String} {target : Location × Bool}
    (opened : opened? tree path = some target) : tree.HasRoom target.1 := by
  rcases exists_spot_of_opened? opened with ⟨spot, found, isTarget, isFile⟩
  rcases sound_resolve found with ⟨node, room⟩
  rw [← isTarget] at isFile ⊢
  cases standing : tree.get? spot.location with
  | none => exact room (node.trans standing)
  | some stands =>
      rcases isFile stands.entry (by rw [Node.standsAt?, standing]; rfl) with ⟨content, isFile⟩
      cases stands with
      | link | directory => cases isFile
      | file => exact Node.hasRoom_of_file standing

theorem rewritten_of_opened? {path : String} {target : Location × Bool}
    (opened : opened? tree path = some target) (content : List UInt8) :
    Rewritten tree target.1 (tree.put (.file content target.2) target.1) := by
  apply rewritten_put (room_of_opened? opened)
  intro entry standing
  rcases exists_spot_of_opened? opened with ⟨-, -, -, isFile⟩
  rcases isFile entry standing with ⟨content, rfl⟩
  exact ⟨content, target.2, rfl⟩

/-- After a write to one place, a path can be written just if it could before and goes to
the same place, unless it goes to the place that was written. -/
theorem opened?_rewritten (rewritten : Rewritten tree place after) {path : String}
    (apart : ∀ isExecutable, opened? tree path ≠ some (place, isExecutable)) :
    opened? after path = opened? tree path := by
  rw [opened?] at apart ⊢
  rw [opened?]
  split
  · rfl
  · rename_i accepted
    rw [if_neg accepted, writable_eq] at apart
    have still := stillLeads_resolve rewritten path true
    rw [writable_eq, writable_eq]
    cases found : resolve tree path true with
    | error fault =>
        rw [found] at still
        rcases still with ⟨fault, foundAfter⟩
        rw [foundAfter]
        rfl
    | ok spot =>
        rw [found] at still apart
        rcases still with ⟨node?, foundAfter⟩
        rw [foundAfter]
        simp only [Except.toOption, Option.bind_some] at apart ⊢
        by_cases isPlace : spot.location = place
        · subst isPlace
          cases standing : tree.standsAt? spot.location with
          | none => exact absurd (by rw [standing]) (apart false)
          | some entry =>
              rcases rewritten.vacant entry standing with ⟨content, isExecutable, rfl⟩
              exact absurd (by rw [standing]) (apart isExecutable)
        · rw [rewritten.elsewhere _ isPlace]

/-- Two paths that do not lead to the same file. -/
def Apart (tree : Node) (left right : String) : Prop :=
  ∀ location leftMode rightMode, opened? tree left = some (location, leftMode) →
    opened? tree right ≠ some (location, rightMode)

theorem Apart.symm {left right : String} (apart : Apart tree left right) :
    Apart tree right left := by
  intro location leftMode rightMode openedRight openedLeft
  exact apart location rightMode leftMode openedLeft openedRight

/-- What reading a path gives is decided by what stands where it leads. -/
theorem readBytes_eq {path : String} {spot : Spot} (found : resolve tree path true = .ok spot) :
    readBytes tree path =
      match tree.standsAt? spot.location with
      | none => .error .missing
      | some (.file content _) => .ok content
      | some _ => .error .isDirectory := by
  have standing : tree.get? spot.location = spot.node? := (sound_resolve found).1.symm
  rw [readBytes, lookup, found, Node.standsAt?, standing]
  rcases spot with ⟨location, node?⟩
  cases node? with
  | none => rfl
  | some node => cases node <;> rfl

end Opening

end QueryPipe.Files
