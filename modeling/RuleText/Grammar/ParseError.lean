import RuleText.Text.Quoted

/-!
# Errors of parsers

What a parser missed, at which token, and within which constructs of the grammar. The constructs are
collected on the way out, so the innermost one comes first.
-/

namespace RuleText

/-- What is wrong with the input at a place. -/
inductive Fault where
  /-- The input ends where something was expected. -/
  | endOfInput (expected : String)
  | unexpected (expected found : String)
  | noAlternative
  /-- A parser refuses the place for a reason of its own. -/
  | failure (reason : String)
deriving Repr, DecidableEq

/-- A fault, the index of the token it concerns, and the constructs around it from the inside out. -/
structure ParseError where
  fault : Fault
  position : Nat
  contexts : List String := []
deriving Repr, DecidableEq

namespace ParseError

/-- The same error within one construct more. -/
def within (e : ParseError) (construct : String) : ParseError :=
  { e with contexts := e.contexts ++ [construct] }

/-- The constructs around the fault as one text, if there are any. -/
def context (e : ParseError) : Option String :=
  if e.contexts.isEmpty then none else some (" -> ".intercalate e.contexts)

/-- The error as a message. -/
def message (e : ParseError) : String :=
  let place := s!"at position {e.position}, context: {quotedOption e.context}"
  match e.fault with
  | .endOfInput expected => s!"Unexpected EOF: expected {expected} {place}"
  | .unexpected expected found => s!"Unexpected: expected {expected}, found {found} {place}"
  | .noAlternative => s!"No alternative matched {place}"
  | .failure reason => s!"Failure: {reason} {place}"

@[simp] theorem position_within (e : ParseError) (construct : String) :
    (e.within construct).position = e.position := rfl

@[simp] theorem fault_within (e : ParseError) (construct : String) :
    (e.within construct).fault = e.fault := rfl

end ParseError

end RuleText
