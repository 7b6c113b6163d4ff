import RuleText.Compile

/-!
# The system around a run

A run reads and writes through a host: the system that opens files and moves bytes. The host is a
parameter, so that the same run works on the real file system and on a directory that is just a value. A
host may refuse anything, and then gives its reason as text.
-/

namespace RuleText

/-- What a run needs of the system: it works in `m`, and `η` stands for what is open. -/
structure Host (m : Type → Type) (η : Type) where
  standardInput : η
  standardOutput : η
  /-- Opens an existing file for reading. -/
  openFile : String → m (Except String η)
  /-- Opens a file for writing, empty; it need not have existed. -/
  createFile : String → m (Except String η)
  /-- Reads everything up to the end, or up to a failure. -/
  readAll : η → m Source
  /-- Writes bytes behind what was written before. If not all of them are taken, the answer holds the number of
  those that are, and the reason why the others are not. -/
  write : η → Bytes → m (Except (Nat × String) Unit)

end RuleText
