import QueryPipe.Yaml.Stream

/-!
From the tokens of a document to its content.
-/

namespace QueryPipe.Yaml

/-- The content of a document. -/
inductive Node where
  | scalar (text : String) (style : Style) (tag? : Option String)
  | sequence (items : List Node)
  | mapping (entries : List (Node × Node))
  /-- An alias inside the node that it stands for. -/
  | unfinished
deriving Inhabited

namespace Node

/-- The scalar where nothing is written. -/
def empty (tag? : Option String) : Node := .scalar "" .plain tag?

end Node

/-- What is left to read. -/
structure Unread where
  tokens : List Token
  /-- Nodes by the names of their anchors, latest first. -/
  anchors : List (String × Node) := []
  /-- What the handles of tags stand for. -/
  handles : List (String × String) := []

/-- A reader of nodes. -/
abbrev Reader := StateT Unread Option

namespace Reader

def peek : Reader (Option Token) := do
  return (← get).tokens.head?

def skip : Reader Unit :=
  modify fun unread => { unread with tokens := unread.tokens.drop 1 }

/-- Whether one of some tokens comes next. -/
def isAt (tokens : List Token) : Reader Bool := do
  return (← peek).any tokens.contains

/-- Reads a token if it comes next. -/
def take (token : Token) : Reader Bool := do
  if ← isAt [token] then
    skip
    return true
  else return false

/-- Remembers a node by a name. -/
def remember (name : String) (node : Node) : Reader Unit :=
  modify fun unread => { unread with anchors := (name, node) :: unread.anchors }

end Reader

open Reader

/-- Handles that need not be declared. -/
def defaultHandles : List (String × String) := [("!", "!"), ("!!", "tag:yaml.org,2002:")]

/-- A tag in full. -/
def resolveTag (tag : RawTag) : Reader String := do
  if tag.handle.isEmpty then return tag.ending
  else
    match (← get).handles.lookup tag.handle with
    | some replacement => return replacement ++ tag.ending
    | none => failure

/-- The anchor and the tag of a node. -/
structure Properties where
  anchor? : Option String := none
  tag? : Option String := none

/-- Reads an anchor if one comes next. -/
def readAnchor : Reader (Option String) := do
  match ← peek with
  | some (.anchor name) =>
    skip
    return some name
  | _ => return none

/-- Reads a tag if one comes next. -/
def readNodeTag : Reader (Option String) := do
  match ← peek with
  | some (.tag tag) =>
    skip
    return some (← resolveTag tag)
  | _ => return none

/-- Reads an anchor and a tag, in either order. -/
def readProperties : Reader Properties := do
  match ← readAnchor with
  | some name => return ⟨some name, ← readNodeTag⟩
  | none =>
    let tag? ← readNodeTag
    match tag? with
    | some _ => return ⟨← readAnchor, tag?⟩
    | none => return {}

/-- Reads a node, unless one of some tokens comes next; then it is empty. -/
def readUnless (tokens : List Token) (readNode : Reader Node) : Reader Node := do
  if ← isAt tokens then return .empty none else readNode

/-- Reads the entries of a block sequence up to its end. -/
def readBlockSequence (readNode : Reader Node) : (fuel : Nat) → Reader (List Node)
  | 0 => failure
  | fuel + 1 => do
    if ← take .blockEnd then return []
    else if ← take .blockEntry then
      let item ← readUnless [.blockEntry, .blockEnd] readNode
      return item :: (← readBlockSequence readNode fuel)
    else failure

/-- Reads the entries of a sequence that is not indented. -/
def readIndentless (readNode : Reader Node) : (fuel : Nat) → Reader (List Node)
  | 0 => failure
  | fuel + 1 => do
    if ← take .blockEntry then
      let item ← readUnless [.blockEntry, .key, .value, .blockEnd] readNode
      return item :: (← readIndentless readNode fuel)
    else return []

/-- Reads the entries of a block mapping up to its end. -/
def readBlockMapping (readNode : Reader Node) : (fuel : Nat) → Reader (List (Node × Node))
  | 0 => failure
  | fuel + 1 => do
    if ← take .blockEnd then return []
    else if ← take .key then
      let stops := [Token.key, .value, .blockEnd]
      let key ← readUnless stops readNode
      let value ← if ← take .value then readUnless stops readNode else pure (Node.empty none)
      return (key, value) :: (← readBlockMapping readNode fuel)
    else failure

/-- Reads a key, which has been announced, and its value inside a flow collection
that ends with a token. -/
def readFlowPair (readNode : Reader Node) (stop : Token) : Reader (Node × Node) := do
  let key ← readUnless [.value, .flowEntry, stop] readNode
  let value ←
    if ← take .value then readUnless [.flowEntry, stop] readNode else pure (Node.empty none)
  return (key, value)

/-- Reads the comma before all but the first entry of a flow collection. -/
def readComma (isFirst : Bool) : Reader Unit := do
  if isFirst then return ()
  else if ← take .flowEntry then return ()
  else failure

/-- Reads the entries of a flow sequence up to its end. -/
def readFlowSequence (readNode : Reader Node) : (fuel : Nat) → (isFirst : Bool) → Reader (List Node)
  | 0, _ => failure
  | fuel + 1, isFirst => do
    if ← take .flowSequenceEnd then return []
    else
      readComma isFirst
      if ← take .flowSequenceEnd then return []
      else
        let item ←
          if ← take .key then do
            let pair ← readFlowPair readNode .flowSequenceEnd
            pure (Node.mapping [pair])
          else readNode
        return item :: (← readFlowSequence readNode fuel false)

/-- Reads the entries of a flow mapping up to its end. -/
def readFlowMapping (readNode : Reader Node) :
    (fuel : Nat) → (isFirst : Bool) → Reader (List (Node × Node))
  | 0, _ => failure
  | fuel + 1, isFirst => do
    if ← take .flowMappingEnd then return []
    else
      readComma isFirst
      if ← take .flowMappingEnd then return []
      else
        let pair ←
          if ← take .key then readFlowPair readNode .flowMappingEnd
          else pure (← readNode, Node.empty none)
        return pair :: (← readFlowMapping readNode fuel false)

/-- Where a node stands. -/
inductive Context where
  | block
  /-- In a block mapping, where a sequence need not be indented. -/
  | blockPair
  | flow
deriving DecidableEq, Repr

/-- Reads the content of a node with a tag; readers for nodes inside it are
given by their context. -/
def readContent (context : Context) (tag? : Option String) (isMarked : Bool)
    (readNode : Context → Reader Node) (fuel : Nat) : Reader Node := do
  match ← peek with
  | some .blockEntry =>
    if context == .blockPair then return .sequence (← readIndentless (readNode .block) fuel)
    else if isMarked then return .empty tag?
    else failure
  | some (.scalar text style) =>
    skip
    return .scalar text style (if tag? == some "!" then none else tag?)
  | some .flowSequenceStart =>
    skip
    return .sequence (← readFlowSequence (readNode .flow) fuel true)
  | some .flowMappingStart =>
    skip
    return .mapping (← readFlowMapping (readNode .flow) fuel true)
  | some .blockSequenceStart =>
    if context == .flow then (if isMarked then return .empty tag? else failure)
    else
      skip
      return .sequence (← readBlockSequence (readNode .block) fuel)
  | some .blockMappingStart =>
    if context == .flow then (if isMarked then return .empty tag? else failure)
    else
      skip
      return .mapping (← readBlockMapping (readNode .blockPair) fuel)
  | _ => if isMarked then return .empty tag? else failure

/-- Reads a node; `depth` bounds how deeply nodes are nested. -/
def readNode (fuel : Nat) : (depth : Nat) → Context → Reader Node
  | 0, _ => failure
  | depth + 1, context => do
    match ← peek with
    | some (.alias name) =>
      skip
      match (← get).anchors.lookup name with
      | some node => return node
      | none => failure
    | _ =>
      let properties ← readProperties
      let isMarked := properties.anchor?.isSome || properties.tag?.isSome
      let content := readContent context properties.tag? isMarked (readNode fuel depth) fuel
      match properties.anchor? with
      | none => content
      | some name =>
        remember name .unfinished
        let node ← content
        remember name node
        return node

/-- Reads directives: at most one version, and each handle once. -/
def readDirectives : (fuel : Nat) → (hasVersion : Bool) → Reader Bool
  | 0, hasAny => return hasAny
  | fuel + 1, hasVersion => do
    match ← peek with
    | some (.versionDirective major minor) =>
      if hasVersion || major != 1 || !(minor == 1 || minor == 2) then failure
      else
        skip
        let _ ← readDirectives fuel true
        return true
    | some (.tagDirective handle replacement) =>
      if (← get).handles.any (·.1 == handle) then failure
      else
        skip
        modify fun unread => { unread with handles := unread.handles ++ [(handle, replacement)] }
        let _ ← readDirectives fuel hasVersion
        return true
    | _ => return false

/-- Reads the only document of a stream; none if the stream is empty. -/
def readDocument (fuel : Nat) : Reader (Option Node) := do
  let hasDirectives ← readDirectives fuel false
  modify fun unread => { unread with handles := unread.handles ++ defaultHandles }
  let isExplicit ← take .documentStart
  if hasDirectives && !isExplicit then failure
  else if !isExplicit && (← peek).isNone then return none
  else
    let isEmpty := isExplicit && ((← peek).isNone || (← isAt [.documentStart, .documentEnd]))
    let node ← if isEmpty then pure (Node.empty none) else readNode fuel fuel .block
    modify fun unread => { unread with tokens := unread.tokens.dropWhile (· == .documentEnd) }
    if (← peek).isSome then failure else return some node

/-- The content of a text with one document or none. -/
def parse? (text : List Char) : Option (Option Node) :=
  match tokens? text with
  | none => none
  | some tokens =>
    ((readDocument (tokens.length + 1)).run { tokens }).map (·.1)

end QueryPipe.Yaml
