import RuleText.Text.Utf8

/-!
# Sinks

A sink takes bytes up to a limit. It takes what it has room for even when that is only a part, and gives an
error for the rest: either it refuses for a reason of its own, or it silently takes nothing, which the writer
has to notice. Its flush may fail as well.

Main definitions:

- `Sink`, `Sink.offer`, `Sink.flush`;
- `Output`: anything that all of a sequence of bytes can be written to;
- `WriteFault`: why a write failed.
-/

namespace RuleText

/-- Why a write failed. -/
inductive WriteFault where
  /-- The sink refuses more bytes. -/
  | full
  /-- The sink took nothing of what was written to it. -/
  | nothingTaken
  /-- The sink took nothing of what had been held back for it. -/
  | nothingTakenLate
  | flush
  /-- The system gave a reason of its own. -/
  | system (reason : String)
deriving Repr, DecidableEq

/-- The fault as a message. -/
def WriteFault.message : WriteFault → String
  | full => "sink full"
  | nothingTaken => "failed to write whole buffer"
  | nothingTakenLate => "failed to write the buffered data"
  | flush => "flush failed"
  | system reason => reason

/-- A sink with what it has taken so far. -/
structure Sink where
  /-- How many bytes it takes in all, if that is limited. -/
  limit : Option Nat := none
  /-- A full sink takes nothing silently instead of refusing. -/
  silent : Bool := false
  /-- The fault of a full sink that refuses. -/
  refusal : WriteFault := .full
  failsFlush : Bool := false
  taken : Bytes := []
deriving Repr, DecidableEq

namespace Sink

/-- How many of some bytes there is room for. -/
def room (s : Sink) (bytes : Bytes) : Nat :=
  match s.limit with
  | none => bytes.length
  | some limit => min bytes.length (limit - s.taken.length)

/-- Takes as many of some bytes as there is room for; the answer holds the others. -/
def offer (s : Sink) (bytes : Bytes) : Bytes × Sink :=
  (bytes.drop (s.room bytes), { s with taken := s.taken ++ bytes.take (s.room bytes) })

/-- The fault of a sink that has no room; a silent one is found out by whoever wrote to it. -/
def fault (s : Sink) (whenSilent : WriteFault) : WriteFault :=
  if s.silent then whenSilent else s.refusal

/-- Makes the sink pass on what it has taken. -/
def flush (s : Sink) : Except WriteFault Unit :=
  if s.failsFlush then .error .flush else .ok ()

end Sink

/-- What all of a sequence of bytes can be written to. -/
class Output (ω : Type) where
  /-- Writes bytes; the state in the answer holds what was taken even if the write failed. -/
  writeAll : ω → Bytes → Except WriteFault Unit × ω

/-- Writing to a sink fails when something is left over. -/
instance : Output Sink where
  writeAll s bytes :=
    match s.offer bytes with
    | ([], s) => (.ok (), s)
    | (_ :: _, s) => (.error (s.fault .nothingTaken), s)

end RuleText
