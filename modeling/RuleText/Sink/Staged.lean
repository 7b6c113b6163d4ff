import RuleText.Sink.Basic

/-!
# Staged sinks

Writing to a sink in small pieces is slow, so bytes are held back until there are enough of them. A write
that fits the space left is only held back; one that does not passes on first what is there; and one that
would fill the whole space by itself goes to the sink directly. Nothing is lost when the sink fails: what it
did not take stays held back, and is offered once more when the stage is given up.

Main definitions:

- `Staged`: a sink with the bytes held back for it;
- `Staged.passOn`, `Staged.finish`, `Staged.abandon`.
-/

namespace RuleText

/-- A sink with the bytes held back for it. -/
structure Staged where
  held : Bytes := []
  sink : Sink
deriving Repr, DecidableEq

namespace Staged

/-- How many bytes may be held back. -/
def capacity : Nat := 8192

/-- Passes the bytes held back on to the sink. What it does not take stays. -/
def passOn (s : Staged) : Except WriteFault Unit × Staged :=
  match s.sink.offer s.held with
  | ([], sink) => (.ok (), { held := [], sink := sink })
  | (rest, sink) => (.error (sink.fault .nothingTakenLate), { held := rest, sink := sink })

/-- Writes bytes for which nothing else has to be passed on first: directly if they would fill the stage,
and else by holding them back. -/
def place (s : Staged) (bytes : Bytes) : Except WriteFault Unit × Staged :=
  if bytes.length < capacity then (.ok (), { s with held := s.held ++ bytes })
  else
    let (answer, sink) := Output.writeAll s.sink bytes
    (answer, { s with sink := sink })

instance : Output Staged where
  writeAll s bytes :=
    if bytes.length ≤ capacity - s.held.length then s.place bytes
    else
      -- if this fails, none of the new bytes has been taken
      match s.passOn with
      | (.ok (), s) => s.place bytes
      | (.error fault, s) => (.error fault, s)

/-- Passes everything on and flushes the sink. -/
def finish (s : Staged) : Except WriteFault Unit × Staged :=
  match s.passOn with
  | (.ok (), s) => (s.sink.flush, s)
  | (.error fault, s) => (.error fault, s)

/-- Gives the stage up: offers the sink what is held back, whether it takes it or not. -/
def abandon (s : Staged) : Sink :=
  s.passOn.2.sink

end Staged

end RuleText
