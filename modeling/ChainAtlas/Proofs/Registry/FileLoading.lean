import Mathlib
import ChainAtlas.Proofs.Json.LineEnds
import ChainAtlas.Proofs.Text.Encoding
import ChainAtlas.Registry.Load

/-!
# Loading from a file agrees with loading from memory

A document may be read from a JSON text in memory, or from a file that holds the bytes of that
text.  The file is decoded and its line ends are unified first, so two things might go wrong on the
way: the characters might come out differently, or a line end might be part of a value.  Neither
happens (`decode_toUTF8`, `read_unifyLineEnds_eq_ok_iff`), and both ways lead to the same registry
or to none (`ofFile_eq_ok_iff_of_text`).

Faults are not compared beyond that.  A complaint about a text gives a line and a column, and these
are counted after the line ends are unified.

The document that a text spells has U+FFFD for every half of a surrogate pair that is escaped alone
(`Json.unitChar`), both in memory and in a file.
-/

namespace ChainAtlas
namespace Registry

open Outcome

/-- A file with the bytes of a text. -/
def File.ofText (text : String) : File := .bytes text.toUTF8.data.toList

variable {path : String} {environment : Option String}

/-- The document in a file is the one that its text spells. -/
theorem readDocument_ofText_eq_ok_iff {text : String} {document : Json} :
    readDocument path (.ofText text) = .ok document ↔ Json.read text.toList = .ok document := by
  rw [File.ofText, readDocument, decodeDocument, Utf8.decode_toUTF8]
  simp only [mapError_eq_ok_iff, Json.read_unifyLineEnds_eq_ok_iff]

/-- A path without a null character is opened. -/
theorem ofFile_eq_bind (hpath : '\x00' ∉ path.toList) (file : File) :
    ofFile path file environment =
      readDocument (Catalog.tidyPath path) file >>= fun document =>
        ofDocument document environment := by
  have hcontains : ¬ path.toList.contains '\x00' = true := by rwa [List.contains_iff_mem]
  rw [ofFile, if_neg hcontains]

/-- **A file leads to the registry of the document that its text spells, and to none if there is no
such document or no such registry.** -/
theorem ofFile_eq_ok_iff_of_text (hpath : '\x00' ∉ path.toList) (text : String)
    (environment : Option String) :
    (∀ r, ofFile path (.ofText text) environment = .ok r ↔
      ∃ document, Json.read text.toList = .ok document ∧ ofDocument document environment = .ok r) ∧
    ((∃ fault, ofFile path (.ofText text) environment = .error fault) ↔
      (∃ fault, Json.read text.toList = .error fault) ∨
        ∃ document fault, Json.read text.toList = .ok document ∧
          ofDocument document environment = .error fault) := by
  have hread : ∀ document, readDocument (Catalog.tidyPath path) (.ofText text) = .ok document ↔
      Json.read text.toList = .ok document := fun _ => readDocument_ofText_eq_ok_iff
  constructor
  · intro r
    rw [ofFile_eq_bind hpath, bind_eq_ok_iff]
    simp only [hread]
  · rw [ofFile_eq_bind hpath]
    simp only [bind_eq_error_iff, exists_or, exists_eq_error_iff hread, hread]
    rw [exists_comm]

/-- A file in which all three kinds of line ends stand between the tokens. -/
theorem ofFile_of_mixed_line_ends :
    '\x00' ∉ "chains.json".toList ∧
      ∃ r, ofFile "chains.json" (.ofText
          "\x7b\r\n\"dev\":\r\x7b\"chainId\": 1,\r\r\n\"environment\": \"local\"\n\x7d\x7d")
          none = .ok r ∧ r.names = ["dev"] := by
  have hpath : '\x00' ∉ "chains.json".toList := by decide
  let document : Json :=
    .object [("dev", .object [("chainId", .int 1), ("environment", .text "local")])]
  have hread : Json.read
      "\x7b\r\n\"dev\":\r\x7b\"chainId\": 1,\r\r\n\"environment\": \"local\"\n\x7d\x7d".toList =
        .ok document := by
    cbv
  obtain ⟨r, hr, hnames⟩ : ∃ r, ofDocument document none = .ok r ∧ r.names = ["dev"] :=
    ⟨_, rfl, rfl⟩
  exact ⟨hpath, r, ((ofFile_eq_ok_iff_of_text hpath _ none).1 r).2 ⟨document, hread, hr⟩, hnames⟩

end Registry
end ChainAtlas
