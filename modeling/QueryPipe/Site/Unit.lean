import QueryPipe.Site.Locate

/-!
A source with its query sites.  A new text for a site is recorded beside the
site and put in its place when the unit is rendered, so that everything outside
the replaced literals stays as it was.
-/

namespace QueryPipe

/-- A site and the text that is to take its place. -/
structure Slot where
  site : Site
  replacement : Option String := none
deriving DecidableEq, Repr

/-- A parsed source and the sites located last. -/
structure SourceUnit where
  path : String
  source : String
  tree : Go.Tree
  slots : List Slot := []

namespace SourceUnit

/-- Parses a source. -/
def ofSource (path source : String) : Except Go.SourceError SourceUnit :=
  match Go.parse? source.toList with
  | some tree => .ok { path, source, tree }
  | none => .error (.ofSource path source.toList)

/-- Locates the sites of a shape anew; replacements recorded before are dropped. -/
def locate (unit : SourceUnit) (shape : Site.Shape) : SourceUnit :=
  { unit with slots := (Site.locate shape unit.source.toList unit.tree).map ({ site := · }) }

/-- The sites, in source order. -/
def sites (unit : SourceUnit) : List Site := unit.slots.map (·.site)

/-- The site with a handle: its index among the sites located last. -/
def site? (unit : SourceUnit) (handle : Nat) : Option Site :=
  unit.slots[handle]?.map (·.site)

/-- Records a text for a site.  There is no result for a handle beyond the
sites located last. -/
def overwrite? (unit : SourceUnit) (handle : Nat) (text : String) : Option SourceUnit :=
  unit.slots[handle]?.map fun slot =>
    { unit with slots := unit.slots.set handle { slot with replacement := some text } }

/-- Whether any site has a new text. -/
def isModified (unit : SourceUnit) : Bool :=
  unit.slots.any (·.replacement.isSome)

/-- Puts replacements into a text that begins at byte `offset` of the source. -/
def splice (offset : Nat) : List Slot → List Char → List Char
  | [], text => text
  | slot :: slots, text =>
    match slot.replacement with
    | none => splice offset slots text
    | some replacement =>
      let (before, rest) := Text.Utf8.splitAt (slot.site.start - offset) text
      let (_, after) := Text.Utf8.splitAt (slot.site.stop - slot.site.start) rest
      before ++ replacement.toList ++ splice slot.site.stop slots after

/-- The source with each replacement in the place of its site. -/
def render (unit : SourceUnit) : String :=
  String.ofList (splice 0 unit.slots unit.source.toList)

/-- A step in the life of a unit. -/
inductive Step where
  | locate (shape : Site.Shape)
  | overwrite (handle : Nat) (text : String)
deriving DecidableEq, Repr

/-- A unit after a step, if the step can be made. -/
def step? (unit : SourceUnit) : Step → Option SourceUnit
  | .locate shape => some (unit.locate shape)
  | .overwrite handle text => unit.overwrite? handle text

end SourceUnit

end QueryPipe
