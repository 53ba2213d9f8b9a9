/-!
Why the operating system refuses to touch a file.
-/

namespace QueryPipe.Files

/-- A refused file operation. -/
inductive Fault where
  | missing
  | notPermitted
  | notDirectory
  | isDirectory
  | nameTooLong
  | tooManyLinks
  | directoryNotEmpty
  | occupied
  | noSpace
  | nulInName
deriving DecidableEq, Repr

namespace Fault

/-- The system's number for a fault, if it has one. -/
def code? : Fault → Option Nat
  | missing => some 2
  | notPermitted => some 13
  | occupied => some 17
  | notDirectory => some 20
  | isDirectory => some 21
  | noSpace => some 28
  | nameTooLong => some 36
  | directoryNotEmpty => some 39
  | tooManyLinks => some 40
  | nulInName => none

/-- What a fault is called. -/
def description : Fault → String
  | missing => "No such file or directory"
  | notPermitted => "Permission denied"
  | occupied => "File exists"
  | notDirectory => "Not a directory"
  | isDirectory => "Is a directory"
  | noSpace => "No space left on device"
  | nameTooLong => "File name too long"
  | directoryNotEmpty => "Directory not empty"
  | tooManyLinks => "Too many levels of symbolic links"
  | nulInName => "file name contained an unexpected NUL byte"

/-- The description, followed by the system's number. -/
def message (fault : Fault) : String :=
  match fault.code? with
  | some code => fault.description ++ " (os error " ++ toString code ++ ")"
  | none => fault.description

end Fault

end QueryPipe.Files
