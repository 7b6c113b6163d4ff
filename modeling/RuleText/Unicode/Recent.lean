import RuleText.Unicode.CodeTable

/-!
# Characters of the latest edition

The other tables describe edition 16.0 of the standard, which patterns follow. Names and quoted text
follow edition 17.0, and the tables here hold what that edition took up, sorted by what names and quoted
text ask. Nothing they ask changed for characters that were there before.
-/

namespace RuleText.Unicode.Recent

/-- New alphabetic characters. -/
def alphabetic : CodeTable := [
  ⟨0x88f, 0x88f, 1⟩, ⟨0xc5c, 0xc5c, 1⟩, ⟨0xcdc, 0xcdc, 1⟩, ⟨0xa7ce, 0xa7cf, 1⟩,
  ⟨0xa7d2, 0xa7d2, 1⟩, ⟨0xa7d4, 0xa7d4, 1⟩, ⟨0xa7f1, 0xa7f1, 1⟩, ⟨0x10940, 0x10959, 1⟩,
  ⟨0x10ec5, 0x10ec7, 1⟩, ⟨0x10efa, 0x10efb, 1⟩, ⟨0x11b60, 0x11b67, 1⟩, ⟨0x11db0, 0x11ddb, 1⟩,
  ⟨0x16ea0, 0x16eb8, 1⟩, ⟨0x16ebb, 0x16ed3, 1⟩, ⟨0x16ff2, 0x16ff6, 1⟩, ⟨0x187f8, 0x187ff, 1⟩,
  ⟨0x18d09, 0x18d1e, 1⟩, ⟨0x18d80, 0x18df2, 1⟩, ⟨0x1e6c0, 0x1e6de, 1⟩, ⟨0x1e6e0, 0x1e6f5, 1⟩,
  ⟨0x1e6fe, 0x1e6ff, 1⟩, ⟨0x2b73a, 0x2b73f, 1⟩, ⟨0x2cea2, 0x2cead, 1⟩, ⟨0x323b0, 0x33479, 1⟩]

/-- New numbers that are not alphabetic. -/
def number : CodeTable := [⟨0x11de0, 0x11de9, 1⟩]

/-- New characters that extend a grapheme. -/
def graphemeExtend : CodeTable := [
  ⟨0x1acf, 0x1add, 1⟩, ⟨0x1ae0, 0x1aeb, 1⟩, ⟨0x10efa, 0x10efb, 1⟩, ⟨0x11b60, 0x11b60, 1⟩,
  ⟨0x11b62, 0x11b64, 1⟩, ⟨0x11b66, 0x11b66, 1⟩, ⟨0x1e6e3, 0x1e6e3, 1⟩, ⟨0x1e6e6, 0x1e6e6, 1⟩,
  ⟨0x1e6ee, 0x1e6ef, 1⟩, ⟨0x1e6f5, 0x1e6f5, 1⟩]

/-- All characters that were new in edition 17.0. -/
def added : CodeTable := [
  ⟨0x88f, 0x88f, 1⟩, ⟨0xc5c, 0xc5c, 1⟩, ⟨0xcdc, 0xcdc, 1⟩, ⟨0x1acf, 0x1add, 1⟩,
  ⟨0x1ae0, 0x1aeb, 1⟩, ⟨0x20c1, 0x20c1, 1⟩, ⟨0x2b96, 0x2b96, 1⟩, ⟨0xa7ce, 0xa7cf, 1⟩,
  ⟨0xa7d2, 0xa7d2, 1⟩, ⟨0xa7d4, 0xa7d4, 1⟩, ⟨0xa7f1, 0xa7f1, 1⟩, ⟨0xfbc3, 0xfbd2, 1⟩,
  ⟨0xfd90, 0xfd91, 1⟩, ⟨0xfdc8, 0xfdce, 1⟩, ⟨0x10940, 0x10959, 1⟩, ⟨0x10ec5, 0x10ec7, 1⟩,
  ⟨0x10ed0, 0x10ed8, 1⟩, ⟨0x10efa, 0x10efb, 1⟩, ⟨0x11b60, 0x11b67, 1⟩, ⟨0x11db0, 0x11ddb, 1⟩,
  ⟨0x11de0, 0x11de9, 1⟩, ⟨0x16ea0, 0x16eb8, 1⟩, ⟨0x16ebb, 0x16ed3, 1⟩, ⟨0x16ff2, 0x16ff6, 1⟩,
  ⟨0x187f8, 0x187ff, 1⟩, ⟨0x18d09, 0x18d1e, 1⟩, ⟨0x18d80, 0x18df2, 1⟩, ⟨0x1ccfa, 0x1ccfc, 1⟩,
  ⟨0x1ceba, 0x1ced0, 1⟩, ⟨0x1cee0, 0x1cef0, 1⟩, ⟨0x1e6c0, 0x1e6de, 1⟩, ⟨0x1e6e0, 0x1e6f5, 1⟩,
  ⟨0x1e6fe, 0x1e6ff, 1⟩, ⟨0x1f6d8, 0x1f6d8, 1⟩, ⟨0x1f777, 0x1f77a, 1⟩, ⟨0x1f8d0, 0x1f8d8, 1⟩,
  ⟨0x1fa54, 0x1fa57, 1⟩, ⟨0x1fa8a, 0x1fa8a, 1⟩, ⟨0x1fa8e, 0x1fa8e, 1⟩, ⟨0x1fac8, 0x1fac8, 1⟩,
  ⟨0x1facd, 0x1facd, 1⟩, ⟨0x1faea, 0x1faea, 1⟩, ⟨0x1faef, 0x1faef, 1⟩, ⟨0x1fbfa, 0x1fbfa, 1⟩,
  ⟨0x2b73a, 0x2b73f, 1⟩, ⟨0x2cea2, 0x2cead, 1⟩, ⟨0x323b0, 0x33479, 1⟩]

end RuleText.Unicode.Recent
