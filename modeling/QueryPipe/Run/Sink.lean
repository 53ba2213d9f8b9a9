/-!
Where a run reports to.  A sink may refuse a text, depending on all that was
written before; from then on it takes no more.
-/

namespace QueryPipe.Run

structure Sink where
  /-- The texts written so far, in order. -/
  written : List String := []
  /-- Why the sink takes no more. -/
  failure? : Option String := none
  /-- Why the last of some texts cannot be written after the others. -/
  refusal? : List String → Option String := fun _ => none

namespace Sink

/-- Writes a text; an empty one does not reach the sink. -/
def write (sink : Sink) (text : String) : Sink :=
  match sink.failure? with
  | some _ => sink
  | none =>
    if text.isEmpty then sink
    else
      let written := sink.written ++ [text]
      match sink.refusal? written with
      | some refusal => { sink with failure? := some refusal }
      | none => { sink with written }

/-- Writes texts one after the other. -/
def writeAll (sink : Sink) (texts : List String) : Sink :=
  texts.foldl write sink

/-- All that was written. -/
def text (sink : Sink) : String := String.join sink.written

/-- A sink that has room for a number of bytes. -/
def limited (limit : Nat) : Sink where
  refusal? texts := if limit < (String.join texts).utf8ByteSize then some "sink full" else none

end Sink

end QueryPipe.Run
