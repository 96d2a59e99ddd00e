/-!
# Runs of code points

A property of characters is kept as the list of the maximal runs of code points that have it, first
and last code point included.  The tables that follow in the modules beside this one are all of this
shape, so a proof about one of them is a proof about a short list of pairs of numbers and never about
a million characters.
-/

namespace ChainAtlas
namespace Text

/-- Runs of code points, each given by its first and its last member. -/
abbrev Ranges := List (Nat × Nat)

/-- Whether a code point lies in one of the runs. -/
def Ranges.contains (ranges : Ranges) (codePoint : Nat) : Bool :=
  ranges.any fun run => run.1 ≤ codePoint && codePoint ≤ run.2

end Text
end ChainAtlas
