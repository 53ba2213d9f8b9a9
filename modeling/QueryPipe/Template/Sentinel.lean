import QueryPipe.Template.Verb
import QueryPipe.Text.Utf8

/-!
Reading sentinels in a text: from the left, each as soon as it is complete, and
never two over one another.
-/

namespace QueryPipe.Template

/-- The verb whose sentinel a text begins with. -/
def sentinelAt? (text : List Char) : Option Verb :=
  Verb.all.find? (·.sentinel.isPrefixOf text)

/-- A text cut along its sentinels. -/
inductive Chunk where
  | plain (char : Char)
  | sentinel (verb : Verb)
deriving DecidableEq, Repr

namespace Chunk

/-- The characters of a chunk. -/
def text : Chunk → List Char
  | plain char => [char]
  | sentinel verb => verb.sentinel

/-- The verb of a chunk that is a sentinel. -/
def verb? : Chunk → Option Verb
  | plain _ => none
  | sentinel verb => some verb

end Chunk

/-- Cuts a text along its sentinels; the first `skip` characters belong to the
sentinel before them. -/
def chunksFrom : (skip : Nat) → List Char → List Chunk
  | _, [] => []
  | skip + 1, _ :: rest => chunksFrom skip rest
  | 0, char :: rest =>
    match sentinelAt? (char :: rest) with
    | some verb => .sentinel verb :: chunksFrom (verb.sentinel.length - 1) rest
    | none => .plain char :: chunksFrom 0 rest

/-- A text cut along its sentinels. -/
def chunks (text : List Char) : List Chunk := chunksFrom 0 text

/-- A sentinel and the byte offset where it begins. -/
structure Occurrence where
  offset : Nat
  verb : Verb
deriving DecidableEq, Repr

/-- The sentinels among chunks that begin at a byte offset. -/
def occurrencesFrom : (offset : Nat) → List Chunk → List Occurrence
  | _, [] => []
  | offset, .plain char :: rest => occurrencesFrom (offset + char.utf8Size) rest
  | offset, .sentinel verb :: rest =>
    ⟨offset, verb⟩ :: occurrencesFrom (offset + Text.Utf8.byteLength verb.sentinel) rest

/-- The sentinels of a text, from left to right. -/
def occurrences (text : List Char) : List Occurrence :=
  occurrencesFrom 0 (chunks text)

end QueryPipe.Template
