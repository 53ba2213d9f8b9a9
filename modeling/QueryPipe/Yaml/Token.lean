import QueryPipe.Yaml.Scalar

/-!
The tokens of a document.
-/

namespace QueryPipe.Yaml

/-- A tag as written: the handle is looked up among those declared, and an empty
one stands for nothing. -/
structure RawTag where
  handle : String
  ending : String
deriving DecidableEq, Repr

inductive Token where
  | versionDirective (major minor : Nat)
  | tagDirective (handle replacement : String)
  | documentStart
  | documentEnd
  | blockSequenceStart
  | blockMappingStart
  | blockEnd
  | flowSequenceStart
  | flowSequenceEnd
  | flowMappingStart
  | flowMappingEnd
  | blockEntry
  | flowEntry
  | key
  | value
  | alias (name : String)
  | anchor (name : String)
  | tag (tag : RawTag)
  | scalar (text : String) (style : Style)
deriving DecidableEq, Repr

end QueryPipe.Yaml
