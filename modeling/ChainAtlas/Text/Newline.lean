/-!
# Line ends

A document file may end its lines in a line feed, in a carriage return or in both.  Reading it as
text makes every one of these a line feed, before anything else looks at the characters.
-/

namespace ChainAtlas
namespace Text

/-- A text with every line end written as a line feed. -/
def unifyLineEnds : List Char → List Char
  | [] => []
  | '\r' :: '\n' :: rest => '\n' :: unifyLineEnds rest
  | c :: rest => (if c = '\r' then '\n' else c) :: unifyLineEnds rest

@[simp] theorem unifyLineEnds_nil : unifyLineEnds [] = [] := rfl

/-- A character that is no carriage return stays, and what follows is treated as if it stood
alone. -/
theorem unifyLineEnds_cons_of_ne {c : Char} (h : c ≠ '\r') (rest : List Char) :
    unifyLineEnds (c :: rest) = c :: unifyLineEnds rest := by
  rw [unifyLineEnds.eq_def]
  split <;> simp_all

end Text
end ChainAtlas
