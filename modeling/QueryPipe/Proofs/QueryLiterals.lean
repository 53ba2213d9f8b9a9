import QueryPipe.Proofs.Arity
import Mathlib.Data.List.Induction

/-! The located sites are the query literals of the tree: what a query literal is, is said
here by where it stands, without a walk through the tree. -/

namespace QueryPipe

open Text.Utf8 (byteLength)

/-! ## Positions -/

namespace Text

/-- What stands behind the last line end of a text. -/
def lastLine (text : List Char) : List Char :=
  (text.reverse.takeWhile (· != '\n')).reverse

theorem lastLine_append_singleton (text : List Char) (char : Char) :
    lastLine (text ++ [char]) = if char = '\n' then [] else lastLine text ++ [char] := by
  by_cases lineEnd : char = '\n' <;> simp [lastLine, lineEnd]

theorem Position.go_append (position : Position) (before after : List Char) :
    ofOffset.go position (byteLength before) (before ++ after) =
      before.foldl advance position := by
  induction before generalizing position with
  | nil => cases after <;> rfl
  | cons char before induction =>
      rcases Utf8.exists_byteLength_cons char before with ⟨count, counted, -, left⟩
      rw [counted, List.cons_append, ofOffset.go, left, induction, List.foldl_cons]

theorem Position.foldl_advance (text : List Char) :
    text.foldl advance origin = ⟨1 + text.count '\n', 1 + byteLength (lastLine text)⟩ := by
  induction text using List.reverseRecOn with
  | nil => rfl
  | append_singleton text char induction =>
      rw [List.foldl_append, induction, List.foldl_cons, List.foldl_nil, advance,
        lastLine_append_singleton, List.count_append]
      by_cases lineEnd : char = '\n'
      · simp [lineEnd, Nat.add_assoc]
      · simp [lineEnd, Nat.add_assoc]

/-- The position of an offset: the line ends before it, and the bytes since the last one. -/
theorem Position.ofOffset_append (before after : List Char) :
    ofOffset (before ++ after) (byteLength before) =
      ⟨1 + before.count '\n', 1 + byteLength (lastLine before)⟩ := by
  rw [ofOffset, go_append, foldl_advance]

end Text

/-! ## Parts of sized trees -/

namespace Go.Tree

theorem exists_children_of_hasKind {tree : Tree} {kind : NodeKind}
    (isKind : tree.hasKind kind = true) : ∃ children, tree = .node kind children := by
  cases tree with
  | leaf token => cases isKind
  | node actual children =>
      rcases beq_iff_eq.mp isKind with rfl
      exact ⟨children, rfl⟩

theorem Sized.part {tree part : Tree} (sized : tree.Sized) (member : part ∈ tree.parts) :
    part.Sized :=
  sized.within (.part member)

theorem Sized.length_parts {tree : Tree} (sized : tree.Sized) {kind : NodeKind} {arity : Nat}
    (isKind : tree.hasKind kind = true) (fixed : kind.arity? = some arity) :
    tree.parts.length = arity := by
  rcases exists_children_of_hasKind isKind with ⟨children, rfl⟩
  rw [← sized kind children .here arity fixed]
  exact (List.countP_eq_length_filter ..).symm

theorem stringLiteral?_eq_some_iff {tree : Tree} {token : Token} :
    tree.stringLiteral? = some token ↔ tree = .leaf token ∧ token.kind = .stringLiteral := by
  cases tree with
  | leaf other =>
      rw [stringLiteral?]
      split_ifs with isLiteral
      · rw [Option.some.injEq, Tree.leaf.injEq]
        constructor
        · rintro rfl
          exact ⟨rfl, beq_iff_eq.mp isLiteral⟩
        · rintro ⟨rfl, -⟩
          rfl
      · constructor
        · rintro ⟨⟩
        · rintro ⟨same, kind⟩
          rw [Tree.leaf.inj same, kind] at isLiteral
          exact absurd rfl isLiteral
  | node kind children => simp [stringLiteral?]

end Go.Tree

/-! ## Query literals -/

namespace Site

open Go (Tree Token Within)

/-- A composite literal of the type that a shape asks for gives a value to the field. -/
inductive Shape.Assigns (shape : Shape) : (literal value : Tree) → Prop
  | keyed {literal type name body element key value : Tree}
      (isLiteral : literal.hasKind .compositeLiteral = true)
      (hasType : literal.parts.head? = some type)
      (isQualified : type.hasKind .qualifiedType = true)
      (hasName : type.parts.getLast? = some name)
      (isTarget : name.text? = some shape.typeName.toList)
      (hasBody : literal.parts.getLast? = some body)
      (hasElement : element ∈ body.parts)
      (isKeyed : element.hasKind .keyedElement = true)
      (hasKey : element.parts.head? = some key)
      (isField : key.operandName? = some shape.fieldName.toList)
      (hasValue : element.parts.getLast? = some value) : shape.Assigns literal value

/-- A call of the format function has a first argument: the part behind its opening
parenthesis. -/
inductive Shape.Formats (shape : Shape) : (call argument : Tree) → Prop
  | call {call function operand field arguments argument : Tree}
      (isCall : call.hasKind .call = true)
      (hasFunction : call.parts.head? = some function)
      (isSelector : function.hasKind .selector = true)
      (hasOperand : function.parts.head? = some operand)
      (isPackage : operand.operandName? = some shape.formatPackage.toList)
      (hasField : function.parts.getLast? = some field)
      (isFunction : field.text? = some shape.formatFunction.toList)
      (hasArguments : call.parts.getLast? = some arguments)
      (areArguments : arguments.hasKind .arguments = true)
      (isFirst : arguments.parts[1]? = some argument) : shape.Formats call argument

/-- A value is a string literal, or a format call whose first argument is one. -/
inductive Shape.Holds (shape : Shape) : (value : Tree) → Token → Kind → Prop
  | plain {token : Token} (isLiteral : token.kind = .stringLiteral) :
      shape.Holds (.leaf token) token .plain
  | template {value : Tree} {token : Token} (isLiteral : token.kind = .stringLiteral)
      (formats : shape.Formats value (.leaf token)) : shape.Holds value token .template

/-- A string literal of a tree is a query, at any depth. -/
def Shape.Queries (shape : Shape) (tree : Tree) (token : Token) (kind : Kind) : Prop :=
  ∃ literal value, Within literal tree ∧ shape.Assigns literal value ∧
    shape.Holds value token kind

/-! ## What the walk looks at -/

section Sized

variable {shape : Shape}

theorem isTargetType_iff {type : Tree} (sized : type.Sized) :
    shape.isTargetType type = true ↔ type.hasKind .qualifiedType = true ∧
      ∃ name, type.parts.getLast? = some name ∧ name.text? = some shape.typeName.toList := by
  rw [Shape.isTargetType, Bool.and_eq_true]
  refine and_congr_right fun isQualified => ?_
  rcases List.length_eq_three.mp (sized.length_parts isQualified rfl) with
    ⟨package, dot, name, parts⟩
  simp [parts]

theorem isFormatFunction_iff {function : Tree} (sized : function.Sized) :
    shape.isFormatFunction function = true ↔ function.hasKind .selector = true ∧
      ∃ operand field, function.parts.head? = some operand ∧
        operand.operandName? = some shape.formatPackage.toList ∧
        function.parts.getLast? = some field ∧
        field.text? = some shape.formatFunction.toList := by
  rw [Shape.isFormatFunction, Bool.and_eq_true]
  refine and_congr_right fun isSelector => ?_
  rcases List.length_eq_three.mp (sized.length_parts isSelector rfl) with
    ⟨operand, dot, field, parts⟩
  simp [parts]

theorem firstArgument?_eq_some_iff {call argument : Tree} :
    firstArgument? call = some argument ↔ ∃ arguments, call.parts.getLast? = some arguments ∧
      arguments.hasKind .arguments = true ∧ arguments.parts[1]? = some argument := by
  rw [firstArgument?]
  cases call.parts.getLast? with
  | none => simp
  | some arguments => by_cases isKind : arguments.hasKind .arguments = true <;> simp [isKind]

theorem formats_iff {call argument : Tree} (sized : call.Sized) :
    shape.Formats call argument ↔
      (call.hasKind .call && call.parts.head?.any shape.isFormatFunction) = true ∧
        firstArgument? call = some argument := by
  rw [Bool.and_eq_true, firstArgument?_eq_some_iff]
  constructor
  · rintro ⟨isCall, hasFunction, isSelector, hasOperand, isPackage, hasField, isFunction,
      hasArguments, areArguments, isFirst⟩
    refine ⟨⟨isCall, ?_⟩, _, hasArguments, areArguments, isFirst⟩
    rw [hasFunction, Option.any_some,
      isFormatFunction_iff (sized.part (List.mem_of_head? hasFunction))]
    exact ⟨isSelector, _, _, hasOperand, isPackage, hasField, isFunction⟩
  · rintro ⟨⟨isCall, isFormat⟩, arguments, hasArguments, areArguments, isFirst⟩
    rcases (Option.any_eq_true ..).mp isFormat with ⟨function, hasFunction, isFormat⟩
    rcases (isFormatFunction_iff (sized.part (List.mem_of_head? hasFunction))).mp isFormat with
      ⟨isSelector, operand, field, hasOperand, isPackage, hasField, isFunction⟩
    exact .call isCall hasFunction isSelector hasOperand isPackage hasField isFunction hasArguments
      areArguments isFirst

theorem literalOfValue?_eq_some_iff {value : Tree} (sized : value.Sized) {token : Token}
    {kind : Kind} :
    shape.literalOfValue? value = some (token, kind) ↔ shape.Holds value token kind := by
  rw [Shape.literalOfValue?]
  cases found : value.stringLiteral? with
  | some literal =>
      rcases Go.Tree.stringLiteral?_eq_some_iff.mp found with ⟨rfl, isLiteral⟩
      constructor
      · rintro ⟨⟩
        exact .plain isLiteral
      · intro holds
        cases holds with
        | plain => rfl
        | template _ formats => cases ((formats_iff sized).mp formats).1
  | none =>
      constructor
      · intro held
        simp only at held
        split_ifs at held with isFormat
        rcases Option.bind_eq_some_iff.mp held with ⟨argument, isFirst, held⟩
        rcases Option.map_eq_some_iff.mp held with ⟨literal, read, same⟩
        rcases Prod.mk.inj same with ⟨rfl, rfl⟩
        rcases Go.Tree.stringLiteral?_eq_some_iff.mp read with ⟨rfl, isLiteral⟩
        exact .template isLiteral ((formats_iff sized).mpr ⟨isFormat, isFirst⟩)
      · intro holds
        cases holds with
        | plain isLiteral =>
            rw [Go.Tree.stringLiteral?_eq_some_iff.mpr ⟨rfl, isLiteral⟩] at found
            cases found
        | template isLiteral formats =>
            rcases (formats_iff sized).mp formats with ⟨isFormat, isFirst⟩
            simp only
            rw [if_pos isFormat, isFirst, Option.bind_some,
              Go.Tree.stringLiteral?_eq_some_iff.mpr ⟨rfl, isLiteral⟩, Option.map_some]

theorem literalOfElement?_eq_some_iff {element : Tree} (sized : element.Sized) {token : Token}
    {kind : Kind} :
    shape.literalOfElement? element = some (token, kind) ↔
      element.hasKind .keyedElement = true ∧ ∃ key value, element.parts.head? = some key ∧
        key.operandName? = some shape.fieldName.toList ∧
        element.parts.getLast? = some value ∧ shape.Holds value token kind := by
  rw [Shape.literalOfElement?]
  split_ifs with isKeyed
  · rcases List.length_eq_three.mp (sized.length_parts isKeyed rfl) with ⟨key, colon, value, parts⟩
    have valueSized := sized.part (show value ∈ element.parts by simp [parts])
    simp [parts, isKeyed, ← literalOfValue?_eq_some_iff valueSized]
  · simp [isKeyed]

theorem mem_literalsOf_iff {literal : Tree} (sized : literal.Sized) {token : Token} {kind : Kind} :
    (token, kind) ∈ shape.literalsOf literal ↔
      ∃ value, shape.Assigns literal value ∧ shape.Holds value token kind := by
  rw [Shape.literalsOf]
  split_ifs with isLiteral
  · rcases List.length_eq_two.mp (sized.length_parts isLiteral rfl) with ⟨type, body, parts⟩
    have typeSized := sized.part (show type ∈ literal.parts by simp [parts])
    have bodySized := sized.part (show body ∈ literal.parts by simp [parts])
    simp only [parts]
    constructor
    · intro found
      split_ifs at found with isTarget
      · rcases (isTargetType_iff typeSized).mp isTarget with
          ⟨isQualified, name, hasName, named⟩
        rcases List.mem_filterMap.mp found with ⟨element, hasElement, held⟩
        rcases (literalOfElement?_eq_some_iff (bodySized.part hasElement)).mp held with
          ⟨isKeyed, key, value, hasKey, isField, hasValue, holds⟩
        exact ⟨value, .keyed isLiteral (by simp [parts]) isQualified hasName named
          (by simp [parts]) hasElement isKeyed hasKey isField hasValue, holds⟩
      · cases found
    · rintro ⟨value, assigns, holds⟩
      cases assigns with
      | keyed _ hasType isQualified hasName named hasBody hasElement isKeyed hasKey isField
          hasValue =>
          simp only [parts, List.head?_cons, List.getLast?_cons_cons, List.getLast?_singleton,
            Option.some.injEq] at hasType hasBody
          subst hasType hasBody
          rw [if_pos ((isTargetType_iff typeSized).mpr ⟨isQualified, _, hasName, named⟩),
            List.mem_filterMap]
          exact ⟨_, hasElement, (literalOfElement?_eq_some_iff (bodySized.part hasElement)).mpr
            ⟨isKeyed, _, _, hasKey, isField, hasValue, holds⟩⟩
  · constructor
    · rintro ⟨⟩
    · rintro ⟨value, ⟨isKind⟩, -⟩
      exact absurd isKind isLiteral

end Sized

/-! ## The walk finds the query literals -/

mutual

theorem exists_within_of_mem_literals {shape : Shape} {found : Token × Kind} :
    ∀ {tree : Tree}, found ∈ shape.literals tree →
      ∃ literal, Within literal tree ∧ found ∈ shape.literalsOf literal
  | .leaf _, member => by cases member
  | .node kind children, member => by
      rw [Shape.literals] at member
      rcases List.mem_append.mp member with here | below
      · exact ⟨_, .here, here⟩
      · rcases exists_within_of_mem_forestLiterals below with
          ⟨child, literal, isChild, within, direct⟩
        exact ⟨literal, .under isChild within, direct⟩

theorem exists_within_of_mem_forestLiterals {shape : Shape} {found : Token × Kind} :
    ∀ {trees : List Tree}, found ∈ shape.forestLiterals trees →
      ∃ tree literal, tree ∈ trees ∧ Within literal tree ∧ found ∈ shape.literalsOf literal
  | [], member => by cases member
  | tree :: trees, member => by
      rw [Shape.forestLiterals] at member
      rcases List.mem_append.mp member with here | later
      · rcases exists_within_of_mem_literals here with ⟨literal, within, direct⟩
        exact ⟨tree, literal, List.mem_cons_self .., within, direct⟩
      · rcases exists_within_of_mem_forestLiterals later with
          ⟨other, literal, member, within, direct⟩
        exact ⟨other, literal, List.mem_cons_of_mem _ member, within, direct⟩

end

theorem literals_subset_forestLiterals {shape : Shape} {tree : Tree} {trees : List Tree}
    (member : tree ∈ trees) : shape.literals tree ⊆ shape.forestLiterals trees := by
  induction trees with
  | nil => cases member
  | cons first trees induction =>
      rw [Shape.forestLiterals]
      rcases List.mem_cons.mp member with rfl | later
      · exact List.subset_append_left ..
      · exact List.Subset.trans (induction later) (List.subset_append_right ..)

theorem mem_literals_of_within {shape : Shape} {found : Token × Kind} {literal tree : Tree}
    (within : Within literal tree) (direct : found ∈ shape.literalsOf literal) :
    found ∈ shape.literals tree := by
  induction within with
  | here =>
      cases literal with
      | leaf token => cases direct
      | node kind children =>
          rw [Shape.literals]
          exact List.mem_append_left _ direct
  | under member _ induction =>
      rw [Shape.literals]
      exact List.mem_append_right _ (literals_subset_forestLiterals member induction)

theorem mem_literals_iff {shape : Shape} {tree : Tree} (sized : tree.Sized) {token : Token}
    {kind : Kind} : (token, kind) ∈ shape.literals tree ↔ shape.Queries tree token kind := by
  constructor
  · intro found
    rcases exists_within_of_mem_literals found with ⟨literal, within, direct⟩
    rcases (mem_literalsOf_iff (sized.within within)).mp direct with ⟨value, assigns, holds⟩
    exact ⟨literal, value, within, assigns, holds⟩
  · rintro ⟨literal, value, within, assigns, holds⟩
    exact mem_literals_of_within within
      ((mem_literalsOf_iff (sized.within within)).mpr ⟨value, assigns, holds⟩)

/-! ## Each of them once -/

theorem Shape.Assigns.exists_element {shape : Shape} {literal value : Tree}
    (assigns : shape.Assigns literal value) :
    ∃ children, Within (.node .keyedElement children) literal ∧ value ∈ children := by
  cases assigns with
  | keyed _ _ _ _ _ hasBody hasElement isKeyed _ _ hasValue =>
      rcases Go.Tree.exists_children_of_hasKind isKeyed with ⟨children, rfl⟩
      have inBody := Within.part hasElement
      have bodyWithin := Within.part (List.mem_of_getLast? hasBody)
      exact ⟨children, inBody.trans bodyWithin,
        List.mem_of_mem_filter (List.mem_of_getLast? hasValue)⟩

theorem Shape.Formats.exists_arguments {shape : Shape} {call argument : Tree}
    (formats : shape.Formats call argument) :
    ∃ children, Within (.node .arguments children) call ∧ argument ∈ children := by
  cases formats with
  | call _ _ _ _ _ _ _ hasArguments areArguments isFirst =>
      rcases Go.Tree.exists_children_of_hasKind areArguments with ⟨children, rfl⟩
      exact ⟨children, .part (List.mem_of_getLast? hasArguments),
        List.mem_of_mem_filter (List.mem_of_getElem? isFirst)⟩

/-- The kind of node that a query literal of a kind stands in. -/
def Kind.parent : Kind → Go.NodeKind
  | .plain => .keyedElement
  | .template => .arguments

theorem Shape.Queries.exists_parent {shape : Shape} {tree : Tree} {token : Token} {kind : Kind}
    (queries : shape.Queries tree token kind) :
    ∃ children, Within (.node kind.parent children) tree ∧ .leaf token ∈ children := by
  rcases queries with ⟨literal, value, within, assigns, holds⟩
  rcases assigns.exists_element with ⟨children, inLiteral, valueMember⟩
  cases holds with
  | plain => exact ⟨children, inLiteral.trans within, valueMember⟩
  | template _ formats =>
      rcases formats.exists_arguments with ⟨arguments, inValue, isMember⟩
      have inElement : Within (.node .arguments arguments) (.node .keyedElement children) :=
        .under valueMember inValue
      exact ⟨arguments, inElement.trans (inLiteral.trans within), isMember⟩

theorem Shape.Queries.kind_unique {shape : Shape} {tree : Tree} (nodup : tree.tokens.Nodup)
    {token : Token} {kind other : Kind} (queries : shape.Queries tree token kind)
    (otherQueries : shape.Queries tree token other) : kind = other := by
  rcases queries.exists_parent with ⟨children, within, leaf⟩
  rcases otherQueries.exists_parent with ⟨others, otherWithin, otherLeaf⟩
  have same := Go.kind_eq_of_shared_leaf nodup within otherWithin leaf otherLeaf
  cases kind <;> cases other <;> first | rfl | cases same

/-- Literals that begin at one offset are one. -/
theorem literal_unique {shape : Shape} {tree : Tree} (sized : tree.Sized)
    (increasing : tree.tokens.Pairwise fun left right => left.start < right.start)
    {first second : Token × Kind} (firstFound : first ∈ shape.literals tree)
    (secondFound : second ∈ shape.literals tree) (same : first.1.start = second.1.start) :
    first = second := by
  have distinctStarts : (tree.tokens.map (·.start)).Nodup :=
    List.pairwise_map.mpr (increasing.imp Nat.ne_of_lt)
  rcases first with ⟨token, kind⟩
  rcases second with ⟨other, otherKind⟩
  have sameToken : token = other := List.inj_on_of_nodup_map distinctStarts
    (mem_tokens_of_mem_literals firstFound).1 (mem_tokens_of_mem_literals secondFound).1 same
  subst sameToken
  -- A literal that is both a value and an argument would have two parents.
  have sameKind : kind = otherKind := Shape.Queries.kind_unique distinctStarts.of_map
    ((mem_literals_iff sized).mp firstFound) ((mem_literals_iff sized).mp secondFound)
  rw [sameKind]

theorem ofLiteral_eq {source before after : List Char} {token : Token}
    (whole : source = before ++ (token.text ++ after)) (start : byteLength before = token.start)
    (kind : Kind) :
    ofLiteral source (token, kind) = {
      start := token.start
      stop := token.stop
      position := ⟨1 + before.count '\n', 1 + byteLength (Text.lastLine before)⟩
      raw := String.ofList token.text
      kind } := by
  rw [ofLiteral, whole, ← start, Text.Position.ofOffset_append]

/-- The located sites are the query literals, each once and in source order, with the line
and the column where it begins. -/
theorem locate_exact {source : List Char} {tree : Tree} (parsed : Go.parse? source = some tree)
    (shape : Shape) :
    (locate shape source tree).Pairwise (fun left right => left.start < right.start) ∧
    tree.tokens.Pairwise (fun left right => left.start < right.start) ∧
    ∀ site, site ∈ locate shape source tree ↔
      ∃ token kind before after, shape.Queries tree token kind ∧
        source = before ++ (token.text ++ after) ∧ byteLength before = token.start ∧
        site = {
          start := token.start
          stop := token.stop
          position := ⟨1 + before.count '\n', 1 + byteLength (Text.lastLine before)⟩
          raw := String.ofList token.text
          kind } := by
  have sized := Go.sized_of_parse? parsed
  have increasing := Go.tokens_increasing_of_parse? parsed
  have found : ∀ token kind, (token, kind) ∈ inOrder (shape.literals tree) ↔
      shape.Queries tree token kind := by
    intro token kind
    rw [mem_inOrder_iff, mem_literals_iff sized]
    intro first firstFound second secondFound
    exact literal_unique sized increasing firstFound secondFound
  rw [locate_eq]
  refine ⟨List.pairwise_map.mpr (inOrder_increasing _), increasing, ?_⟩
  intro site
  rw [List.mem_map]
  constructor
  · rintro ⟨⟨token, kind⟩, member, rfl⟩
    have inTree := (mem_tokens_of_mem_literals (inOrder_subset _ member)).1
    rcases Go.exists_lexemes_of_mem_tokens parsed inTree with
      ⟨front, back, -, whole, start, -⟩
    rw [← List.append_assoc] at whole
    refine ⟨token, kind, _, _, (found token kind).mp member, whole, start.symm, ?_⟩
    exact ofLiteral_eq whole start.symm kind
  · rintro ⟨token, kind, before, after, queries, whole, start, rfl⟩
    exact ⟨(token, kind), (found token kind).mpr queries, ofLiteral_eq whole start kind⟩

/-- A template inside a literal that has a query of its own: this one is found first and stands
behind the template. -/
theorem locate_exact_template :
    let source := "x\nq.Statement\x7bA:p.Statement\x7bSQL:fmt.Sprintf(/**/\"in\")\x7d,SQL:\"out\"\x7d\n".toList
    ∃ tree inner outer, Go.parse? source = some tree ∧
      Shape.Queries {} tree inner .template ∧ inner.text = "\"in\"".toList ∧
      Shape.Queries {} tree outer .plain ∧ outer.text = "\"out\"".toList ∧
      inner.start < outer.start := by
  intro source
  have found : (Go.parse? source).map
      (fun tree => (Shape.literals {} tree).map (ofLiteral source)) =
      some [⟨59, 64, ⟨2, 58⟩, "\"out\"", .plain⟩, ⟨48, 52, ⟨2, 47⟩, "\"in\"", .template⟩] := by
    decide +kernel
  rcases Option.map_eq_some_iff.mp found with ⟨tree, parsed, literals⟩
  have located := @locate_eq_of_perm {} source tree
    [⟨48, 52, ⟨2, 47⟩, "\"in\"", .template⟩, ⟨59, 64, ⟨2, 58⟩, "\"out\"", .plain⟩]
    (by rw [literals]; decide) (by decide)
  rcases locate_exact parsed {} with ⟨-, -, exactly⟩
  rw [located] at exactly
  rcases (exactly _).mp (List.mem_cons_self ..) with ⟨inner, _, _, _, innerQueries, -, -, innerSite⟩
  rcases (exactly _).mp (List.mem_cons_of_mem _ (List.mem_cons_self ..)) with
    ⟨outer, _, _, _, outerQueries, -, -, outerSite⟩
  rcases Site.mk.inj innerSite with ⟨innerStart, -, -, innerRaw, rfl⟩
  rcases Site.mk.inj outerSite with ⟨outerStart, -, -, outerRaw, rfl⟩
  refine ⟨tree, inner, outer, parsed, innerQueries, ?_, outerQueries, ?_, ?_⟩
  · rw [innerRaw, String.toList_ofList]
  · rw [outerRaw, String.toList_ofList]
  · omega

end Site

end QueryPipe
