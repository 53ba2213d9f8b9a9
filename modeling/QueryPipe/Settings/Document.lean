import QueryPipe.Settings.Basic
import QueryPipe.Yaml.Node

/-!
Settings written as a document.  A document that is not understood sets nothing.
-/

namespace QueryPipe.Settings

open Yaml (Node Style)

/-- Texts that stand for nothing unless they are quoted. -/
def isNull (text : String) : Bool := ["~", "null", "Null", "NULL"].contains text

/-- The tag of nothing. -/
def nullTag : String := "tag:yaml.org,2002:null"

/-- The tag of whole numbers. -/
def intTag : String := "tag:yaml.org,2002:int"

/-- A scalar. -/
structure Scalar where
  text : String
  style : Style
  tag? : Option String
deriving DecidableEq, Repr

/-- The scalar of a node that may set a field: nothing if it is unset, and no
result if the node cannot set it. -/
def scalar? : Node → Option (Option Scalar)
  | .scalar text style tag? =>
    let whole : Option (Option Scalar) := some (some ⟨text, style, tag?⟩)
    if style != .plain then whole
    else
      match tag? with
      | some tag =>
        if tag == nullTag then (if isNull text then some none else none) else whole
      | none => if text.isEmpty || isNull text then some none else whole
  | _ => none

/-- Reads a field whose value may be left out. -/
def optional (read : Scalar → Option α) (node : Node) : Option (Option α) :=
  match scalar? node with
  | none => none
  | some none => some none
  | some (some scalar) => (read scalar).map some

/-- Any scalar is a text. -/
def text? (scalar : Scalar) : Option String := some scalar.text

/-- A mode by its name, or by a tag on an empty scalar. -/
def mode? (scalar : Scalar) : Option Run.Mode :=
  match scalar.tag?.map String.toList with
  | some ('!' :: name) =>
    if scalar.style == .plain && (scalar.text.isEmpty || isNull scalar.text) then
      Run.Mode.ofName? (String.ofList name)
    else none
  | _ => Run.Mode.ofName? scalar.text

/-- The largest number that a setting can hold. -/
def maxNumber : Nat := 18446744073709551615

/-- The number that digits spell in a base. -/
def digits? (base : Nat) (text : List Char) : Option Nat :=
  if text.isEmpty then none
  else do
    let values ← text.mapM fun char => (Yaml.hexValue? char).filter (· < base)
    let number := values.foldl (fun number value => base * number + value) 0
    if number ≤ maxNumber then some number else none

/-- A whole number: decimal without zeros in front, or in another base after its
mark.  A plus may stand first. -/
def number? (text : String) : Option Nat :=
  let unsigned := match text.toList with
    | '+' :: rest => rest
    | chars => chars
  match unsigned with
  | '0' :: 'x' :: rest => digits? 16 rest
  | '0' :: 'o' :: rest => digits? 8 rest
  | '0' :: 'b' :: rest => digits? 2 rest
  | '0' :: _ :: _ => none
  | _ => digits? 10 unsigned

/-- A limit is a plain number. -/
def limit? (scalar : Scalar) : Option Nat :=
  if scalar.style == .plain || (scalar.style == .literal && scalar.tag? == some intTag) then
    number? scalar.text
  else none

/-- The value of a known key; none for a key that is not known, or that stands
twice. -/
def entry? (entries : List (String × Node)) (key : String) : Option (Option Node) :=
  match entries.filter (·.1 == key) with
  | [] => some none
  | [entry] => some (some entry.2)
  | _ => none

/-- Reads the field of a key. -/
def field (entries : List (String × Node)) (key : String) (read : Scalar → Option α) :
    Option (Option α) :=
  match entry? entries key with
  | none => none
  | some none => some none
  | some (some node) => optional read node

/-- The entries of a mapping by the texts of their keys, which are scalars.  An
empty scalar is an empty mapping. -/
def entries? : Node → Option (List (String × Node))
  | .mapping entries => entries.mapM fun
    | (.scalar text _ _, value) => some (text, value)
    | _ => none
  | .scalar text style _ => if text.isEmpty && style == .plain then some [] else none
  | _ => none

/-- Reads what literals are queries. -/
def target? (node : Node) : Option Target := do
  let entries ← entries? node
  return {
    typeName := ← field entries "type_name" text?
    fieldName := ← field entries "field_name" text?
    formatPackage := ← field entries "format_package" text?
    formatFunction := ← field entries "format_function" text? }

/-- Reads settings. -/
def ofNode? (node : Node) : Option Settings := do
  let entries ← entries? node
  return {
    command := ← field entries "command" text?
    mode := ← field entries "mode" mode?
    shell := ← field entries "shell" text?
    formatter := ← field entries "format_command" text?
    limit := ← field entries "max_file_size" limit?
    target := ← match entry? entries "target" with
      | none => none
      | some none => some {}
      | some (some node) => target? node }

/-- The settings of a document; empty if it is not understood. -/
def ofText (text : String) : Settings :=
  match Yaml.parse? text.toList with
  | some (some node) => (ofNode? node).getD {}
  | _ => {}

end QueryPipe.Settings
