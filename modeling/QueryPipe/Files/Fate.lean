import QueryPipe.Files.Fault

/-!
What may become of a write.  A file is opened, emptied and then filled, and the
system may refuse either step.
-/

namespace QueryPipe.Files

/-- What becomes of a write to a file. -/
inductive Fate where
  | done
  /-- The file is not opened and stays as it is. -/
  | refused (fault : Fault)
  /-- The file was emptied, and only the first `count` bytes came to stand in it. -/
  | brokenOff (count : Nat) (fault : Fault)
deriving DecidableEq, Repr

namespace Fate

/-- Why the write fails, if it does. -/
def fault? : Fate → Option Fault
  | done => none
  | refused fault => some fault
  | brokenOff _ fault => some fault

/-- Whether the file is opened. -/
def opens : Fate → Bool
  | refused _ => false
  | _ => true

/-- The bytes that come to stand in a file that is opened. -/
def reaching (content : List UInt8) : Fate → List UInt8
  | brokenOff count _ => content.take count
  | _ => content

end Fate

end QueryPipe.Files
