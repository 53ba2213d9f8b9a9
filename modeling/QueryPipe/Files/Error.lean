import QueryPipe.Files.Fault

/-!
Why a source file cannot be used.
-/

namespace QueryPipe.Files

/-- A file that could not be found, read, decoded or written. -/
inductive Error where
  | notFound (path : String)
  | tooLarge (size limit : Nat)
  | binaryFile
  | invalidUtf8 (offset : Nat)
  | system (fault : Fault)
deriving DecidableEq, Repr

namespace Error

def message : Error → String
  | notFound path => "File not found: " ++ path
  | tooLarge size limit =>
    "File too large: " ++ toString size ++ " bytes (limit: " ++ toString limit ++ ")"
  | binaryFile => "Binary file detected"
  | invalidUtf8 offset => "Invalid UTF-8 at byte " ++ toString offset
  | system fault => "IO error: " ++ fault.message

/-- The message and those of the causes below it. -/
def chain (error : Error) : List String :=
  match error with
  | system fault => [error.message, fault.message]
  | _ => [error.message]

end Error

end QueryPipe.Files
