import QueryPipe.Text.Octets

/-!
Shell scripts as trees.
-/

namespace QueryPipe.Shell

open Text (Octets)

/-- A part of a word. -/
inductive Part where
  | text (content : Octets) (isQuoted : Bool)
  /-- The value of a variable or of a special parameter. -/
  | parameter (name : Octets) (isQuoted : Bool)
  /-- What a script prints; `line` is where it begins. -/
  | substitution (source : Octets) (line : Nat) (isQuoted : Bool)
deriving DecidableEq, Repr

/-- A word before expansion. -/
abbrev Word := List Part

/-- A change of the channels of a command. -/
inductive Redirection where
  | read (target : Word)
  | write (channel : Nat) (target : Word)
  | append (channel : Nat) (target : Word)
  /-- One channel goes where another one goes. -/
  | copy (channel : Nat) (source : Word)
  /-- The input is a text in the script. -/
  | document (body : Word)
deriving DecidableEq, Repr

/-- A command. -/
inductive Command where
  | simple (line : Nat) (assignments : List (Octets × Word)) (words : List Word)
      (redirections : List Redirection)
  | pipeline (commands : List Command)
  | negation (command : Command)
  /-- The second command runs if the first one succeeds. -/
  | both (first second : Command)
  /-- The second command runs if the first one fails. -/
  | either (first second : Command)
  | sequence (commands : List Command)
  | subshell (body : Command)
  /-- The first branch with a matching pattern runs. -/
  | selection (subject : Word) (branches : List (List Word × Command))
  | conditional (test body otherwise : Command)
  /-- The body runs as long as the test succeeds, or fails for `isUntil`. -/
  | loop (isUntil : Bool) (test body : Command)
  | redirected (command : Command) (redirections : List Redirection)
deriving Inhabited

/-- Why a script cannot be read. -/
structure Failure where
  line : Nat
  message : String
deriving DecidableEq, Repr

/-- A script, cut into the commands that are run one after the other.  What
stands before a failure is run. -/
structure Script where
  commands : List Command
  failure? : Option Failure

end QueryPipe.Shell
