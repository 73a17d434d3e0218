import ShellCoverage.Text.Utf8

/-!
# Streams of lines

The output of a child is taken line by line, each line with its line feed; the last one may lack it.

* `Stream.lines` : the lines of some bytes;
* `Stream.queued`, `Stream.taken` : what the reader of a stream puts into a queue, and what is taken from it;
* `Stream.Sink` : what receives relayed output, bytes or text;
* `Stream.relay` : what a sink has received when the output ends.
-/

namespace ShellCoverage.Stream

/-- The lines of some bytes, each with its line feed. -/
def lines : Bytes → List Bytes
  | [] => []
  | b :: r =>
    if b = 10 then [b] :: lines r
    else
      match lines r with
      | [] => [[b]]
      | l :: ls => (b :: l) :: ls

/-- What the reader of some output puts into a queue: each line, and a mark when the output has ended. -/
def queued (output : Bytes) : List (Option Bytes) := (lines output).map some ++ [none]

/-- What is taken from a queue, up to the mark of the end. -/
def taken : List (Option Bytes) → List Bytes
  | some line :: queue => line :: taken queue
  | _ => []

@[simp] theorem taken_queued (output : Bytes) : taken (queued output) = lines output := by
  unfold queued
  induction lines output with
  | nil => rfl
  | cons line ls ih => rw [List.map_cons, List.cons_append, taken, ih]

/-- What receives relayed output. -/
inductive Sink where
  /-- A stream of bytes. -/
  | binary
  /-- A stream of text: a byte that belongs to no character is written as its surrogate. -/
  | text
  deriving DecidableEq, Repr

/-- What a sink has received, piece by piece. -/
inductive Received where
  | bytes (pieces : List Bytes)
  | text (pieces : List Text)

/-- What a sink receives of some output; a muted sink receives nothing. -/
def relay (output : Bytes) (sink : Sink) (mute : Bool) : Received :=
  let pieces := if mute then [] else lines output
  match sink with
  | .binary => .bytes pieces
  | .text => .text (pieces.map Text.ofBytes)

/-- Everything received, as bytes. -/
def Received.toBytes : Received → Bytes
  | bytes pieces => pieces.flatten
  | text pieces => (Text.toBytes? pieces.flatten).getD []

/-- Everything received, as text. -/
def Received.toText : Received → Text
  | bytes pieces => Text.ofBytes pieces.flatten
  | text pieces => pieces.flatten

end ShellCoverage.Stream
