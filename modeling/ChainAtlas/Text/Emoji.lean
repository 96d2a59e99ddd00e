import ChainAtlas.Text.Blank
import ChainAtlas.Text.Emoji.AToC
import ChainAtlas.Text.Emoji.DToL
import ChainAtlas.Text.Emoji.Flags
import ChainAtlas.Text.Emoji.MToR
import ChainAtlas.Text.Emoji.People
import ChainAtlas.Text.Emoji.SToZ
import ChainAtlas.Text.LowerCase

/-!
# Emoji codes

A name between two colons stands for an emoji.  The name is looked up in small letters, and it may end
in a word that chooses between the plain form and the coloured form of the emoji.

Colons are paired from the left: the text between two of them is a code unless it has a blank in it,
and then the second of them may still open a code of its own.  A code without an emoji stays as it is,
but its colons are used up.  So the text is divided at its colons, and the pieces are put together
again.
-/

namespace ChainAtlas
namespace Text
namespace Emoji

/-- The codes by the letters that they begin with. -/
def byLetter : List (Char × List (String × String)) :=
  [('a', codesA), ('b', codesB), ('c', codesC), ('d', codesD), ('e', codesE),
   ('f', codesF ++ flagCodes), ('g', codesG), ('h', codesH), ('i', codesI), ('j', codesJ),
   ('k', codesK), ('l', codesL), ('m', codesM ++ manCodes), ('n', codesN), ('o', codesO),
   ('p', codesP ++ personCodes), ('q', codesQ), ('r', codesR), ('s', codesS), ('t', codesT),
   ('u', codesU), ('v', codesV), ('w', codesW ++ womanCodes), ('x', codesX), ('y', codesY),
   ('z', codesZ)]

/-- The codes that begin like a name. -/
def codesLike : (name : List Char) → List (String × String)
  | [] => []
  | c :: _ => (byLetter.lookup c).getD otherCodes

/-- The emoji of a name in small letters. -/
def named? (name : List Char) : Option String := (codesLike name).lookup (String.ofList name)

/-- The words that choose a form at the end of a code, with the characters that choose it. -/
def forms : List (List Char × Char) :=
  [(['-', 't', 'e', 'x', 't'], '\ufe0e'), (['-', 'e', 'm', 'o', 'j', 'i'], '\ufe0f')]

/-- The name in a code, and the character for the form that the code chooses. -/
def splitForm (code : List Char) : List Char × List Char :=
  match forms.find? fun form => form.1.isSuffixOf code with
  | some (word, selector) => (code.take (code.length - word.length), [selector])
  | none => (code, [])

/-- What a code stands for. -/
def ofCode? (code : List Char) : Option (List Char) :=
  let (name, selector) := splitForm code
  (named? (lowerCase name)).map fun emoji => emoji.toList ++ selector

/-- Put pieces together that have a colon in front of each of them. -/
def joinPieces : List (List Char) → List Char
  | [] => []
  | [piece] => ':' :: piece
  | piece :: next :: rest =>
    if piece.any isBlank then ':' :: piece ++ joinPieces (next :: rest)
    else (ofCode? piece).getD (':' :: piece ++ [':']) ++ next ++ joinPieces rest

/-- A text with emoji for its codes. -/
def replaceCodes (text : List Char) : List Char :=
  match text.splitOn ':' with
  | [] => []
  | piece :: rest => piece ++ joinPieces rest

/-- A text without colons has no codes. -/
theorem replaceCodes_of_not_mem {text : List Char} (h : ':' ∉ text) : replaceCodes text = text := by
  rw [replaceCodes, List.splitOn_eq_singleton h]
  exact List.append_nil text

example : ofCode? "Rocket".toList = some ['🚀'] := by decide +kernel
example : ofCode? "x-text".toList = some ['❌', '\ufe0e'] := by decide +kernel
example : replaceCodes "a:x y:o:b".toList = "a:x y⭕b".toList := by decide +kernel

end Emoji
end Text
end ChainAtlas
