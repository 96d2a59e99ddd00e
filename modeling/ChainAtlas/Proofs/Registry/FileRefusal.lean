import ChainAtlas.Proofs.Json.LongNumeral
import ChainAtlas.Proofs.Registry.FileLoading

/-!
# Files that hold no document

A file holds a document when its bytes are those of a text and the text, with its line ends unified,
is a JSON text.  Everything else is meant to be reported as a malformed document, so that whoever
loads a file has one kind of fault to handle before the document itself is looked at.

It is so for a missing file and for almost all bytes, and three things are reported otherwise:

* bytes that are no text;
* a JSON text that is refused for the length of a whole number in it, and for nothing else;
* a path that cannot be opened, be it for a null character in it or for a reason of its own.

`ofFile_of_contents` says that there is nothing else.

A half of a surrogate pair that is escaped alone is no reason to refuse a text.  It is read as U+FFFD
(`Json.unitChar`), so two members of an object may fall together whose names differ in such halves only.
-/

namespace ChainAtlas
namespace Registry

open Text Outcome

/-- The text that is read from the bytes of a file: they are the UTF-8 of some text, whose line ends
are unified. -/
def Holds (content : List UInt8) (text : List Char) : Prop :=
  ∃ raw : List Char, content = raw.flatMap String.utf8EncodeChar ∧ unifyLineEnds raw = text

namespace File

/-- Whether a file holds a document. -/
def Spells (document : Json) : File → Prop
  | .bytes content => ∃ text, Holds content text ∧ Json.read text = .ok document
  | _ => False

/-- Whether the bytes of a file are no text. -/
def IsUndecodable : File → Prop
  | .bytes content => ∀ text, ¬ Holds content text
  | _ => False

/-- Whether the text in a file is refused for the length of a number. -/
def StopsAtLongNumeral : File → Prop
  | .bytes content => ∃ text digits, Holds content text ∧ Json.StopsAtLongNumeral text digits
  | _ => False

/-- Whether a file is there and cannot be opened. -/
def IsUnreadable : File → Prop
  | .unreadable _ _ => True
  | _ => False

end File

variable {path : String} {content : List UInt8} {text : List Char}

/-! ## Decoding -/

/-- Bytes that hold a text are read as this text. -/
theorem decodeDocument_of_holds (h : Holds content text) (path : String) :
    decodeDocument path content = (Json.read text).mapError (fileFault path) := by
  obtain ⟨raw, hcontent, rfl⟩ := h
  rw [decodeDocument, Utf8.decode_eq_ok_iff.2 hcontent]

/-- Bytes that hold no text are not decoded. -/
theorem decodeDocument_of_not_holds (h : ∀ text, ¬ Holds content text) (path : String) :
    ∃ fault, decodeDocument path content = .error (.fileUndecodable fault) := by
  cases hdecode : Utf8.decode content with
  | ok raw => exact absurd ⟨raw, Utf8.decode_eq_ok_iff.1 hdecode, rfl⟩ (h _)
  | error fault => exact ⟨fault, by rw [decodeDocument, hdecode]⟩

/-- A text that spells no document is malformed or stops at a number that is too long. -/
theorem decodeDocument_of_no_value (h : Holds content text)
    (hread : ∀ document, Json.read text ≠ .ok document) (path : String) :
    (∃ digits, Json.StopsAtLongNumeral text digits ∧
        decodeDocument path content = .error (.longNumeral digits)) ∨
      (∀ digits, ¬ Json.StopsAtLongNumeral text digits) ∧
        ∃ fault, decodeDocument path content = .error (.fileMalformed path fault) := by
  rw [decodeDocument_of_holds h]
  simp only [← Json.read_eq_longNumeral_iff]
  cases hvalue : Json.read text with
  | ok document => exact absurd hvalue (hread document)
  | error fault =>
    cases fault with
    | malformed fault => exact Or.inr ⟨nofun, fault, rfl⟩
    | longNumeral digits => exact Or.inl ⟨digits, rfl, rfl⟩

/-- The bytes of a file hold one text at most. -/
theorem Holds.unique {text' : List Char} (h : Holds content text) (h' : Holds content text') :
    text = text' := by
  obtain ⟨raw, hraw, rfl⟩ := h
  obtain ⟨raw', hraw', rfl⟩ := h'
  have hsame : Except.ok raw = Except.ok raw' :=
    (Utf8.decode_eq_ok_iff.2 hraw).symm.trans (Utf8.decode_eq_ok_iff.2 hraw')
  rw [Except.ok.inj hsame]

/-- The kind of fault that a file without a document has. -/
theorem readDocument_of_no_document {file : File} (h : ∀ document, ¬ file.Spells document)
    (path : String) :
    ∃ fault, readDocument path file = .error fault ∧
      (fault.kind = .undecodable ↔ file.IsUndecodable) ∧
      (fault.kind = .value ↔ file.StopsAtLongNumeral) ∧
      (fault.kind = .malformedDocument ↔
        ¬ file.IsUnreadable ∧ ¬ file.IsUndecodable ∧ ¬ file.StopsAtLongNumeral) := by
  cases file with
  | missing =>
    exact ⟨_, rfl, iff_of_false nofun id, iff_of_false nofun id, iff_of_true rfl ⟨id, id, id⟩⟩
  | unreadable number reason =>
    exact ⟨_, rfl, iff_of_false nofun id, iff_of_false nofun id,
      iff_of_false nofun fun h => h.1 trivial⟩
  | bytes content =>
    by_cases hholds : ∃ text, Holds content text
    · obtain ⟨text, htext⟩ := hholds
      have hdecodable : ¬ (File.bytes content).IsUndecodable := fun hnone => hnone text htext
      have hread : ∀ document, Json.read text ≠ .ok document := fun document hdocument =>
        h document ⟨text, htext, hdocument⟩
      rcases decodeDocument_of_no_value htext hread path with
        ⟨digits, hlong, hfault⟩ | ⟨hshort, fault, hfault⟩
      · have hstops : (File.bytes content).StopsAtLongNumeral := ⟨text, digits, htext, hlong⟩
        exact ⟨_, hfault, iff_of_false nofun hdecodable, iff_of_true rfl hstops,
          iff_of_false nofun fun h => h.2.2 hstops⟩
      · have hstops : ¬ (File.bytes content).StopsAtLongNumeral := by
          rintro ⟨text', digits, htext', hlong⟩
          rw [htext'.unique htext] at hlong
          exact hshort digits hlong
        exact ⟨_, hfault, iff_of_false nofun hdecodable, iff_of_false nofun hstops,
          iff_of_true rfl ⟨id, hdecodable, hstops⟩⟩
    · have hnone : ∀ text, ¬ Holds content text := not_exists.1 hholds
      obtain ⟨fault, hfault⟩ := decodeDocument_of_not_holds hnone path
      exact ⟨_, hfault, iff_of_true rfl hnone,
        iff_of_false nofun fun ⟨text, _, htext, _⟩ => hnone text htext,
        iff_of_false nofun fun h => h.2.1 hnone⟩

/-! ## Loading -/

/-- A file that holds a document is read as this document. -/
theorem readDocument_of_spells {file : File} {document : Json} (h : file.Spells document)
    (path : String) : readDocument path file = .ok document := by
  cases file with
  | missing => cases h
  | unreadable number reason => cases h
  | bytes content =>
    obtain ⟨text, htext, hread⟩ := h
    rw [readDocument, decodeDocument_of_holds htext, hread]
    rfl

/-- **What is reported of a file, by what is in it.**  If it holds a document then loading it is
loading the document.  If it holds none then the fault is that of a malformed document, except that
a path with a null character in it and a text that is refused for the length of a number have a
plain fault of a value, bytes that are no text have that of decoding, and what cannot be opened has
that of the surroundings. -/
theorem ofFile_of_contents (path : String) (file : File) (environment : Option String) :
    ('\x00' ∉ path.toList → ∀ document, file.Spells document →
      ofFile path file environment = ofDocument document environment) ∧
    ((∀ document, ¬ file.Spells document) →
      ∃ fault, ofFile path file environment = .error fault ∧
        (fault.kind = .malformedDocument ↔ '\x00' ∉ path.toList ∧ ¬ file.IsUnreadable ∧
          ¬ file.IsUndecodable ∧ ¬ file.StopsAtLongNumeral) ∧
        (fault.kind = .value ↔ '\x00' ∈ path.toList ∨ file.StopsAtLongNumeral) ∧
        (fault.kind = .undecodable ↔ '\x00' ∉ path.toList ∧ file.IsUndecodable)) := by
  by_cases hpath : '\x00' ∈ path.toList
  · have hbad : ofFile path file environment = .error .badPath := by
      rw [ofFile, if_pos (List.contains_iff_mem.2 hpath)]
    refine ⟨fun hnot => absurd hpath hnot, fun _ => ⟨.badPath, hbad, ?_, ?_, ?_⟩⟩
    · exact iff_of_false (by decide) fun h => h.1 hpath
    · exact iff_of_true rfl (Or.inl hpath)
    · exact iff_of_false (by decide) fun h => h.1 hpath
  · rw [ofFile_eq_bind hpath]
    constructor
    · intro _ document hdocument
      rw [readDocument_of_spells hdocument]
      rfl
    · intro hnone
      obtain ⟨fault, hfault, hundecodable, hlong, hmalformed⟩ :=
        readDocument_of_no_document hnone (Catalog.tidyPath path)
      rw [hfault]
      refine ⟨fault, rfl, ?_, ?_, ?_⟩
      · rw [and_iff_right hpath]
        exact hmalformed
      · rw [or_iff_right hpath]
        exact hlong
      · rw [and_iff_right hpath]
        exact hundecodable

theorem not_holds_of_stray_byte (text : List Char) : ¬ Holds [0xff] text := by
  rintro ⟨raw, hraw, -⟩
  have hdecode : Utf8.decode [0xff] = .ok raw := Utf8.decode_eq_ok_iff.2 hraw
  cases hdecode

theorem not_spells_of_stray_byte (document : Json) : ¬ (File.bytes [0xff]).Spells document :=
  fun ⟨text, htext, _⟩ => not_holds_of_stray_byte text htext

/-- A file with an empty object, and one with a byte that starts no character. -/
theorem ofFile_of_empty_object :
    '\x00' ∉ "chains.json".toList ∧
      ofFile "chains.json" (.bytes [0x7b, 0x7d]) none = ofDocument (.object []) none ∧
      ∃ fault, ofFile "chains.json" (.bytes [0xff]) none = .error fault ∧
        fault.kind = .undecodable := by
  have hpath : '\x00' ∉ "chains.json".toList := by decide
  have hspells : (File.bytes [0x7b, 0x7d]).Spells (.object []) :=
    ⟨['\x7b', '\x7d'], ⟨['\x7b', '\x7d'], by decide, rfl⟩, by cbv⟩
  obtain ⟨fault, hfault, -, -, hkind⟩ :=
    (ofFile_of_contents "chains.json" (.bytes [0xff]) none).2 not_spells_of_stray_byte
  exact ⟨hpath, (ofFile_of_contents "chains.json" _ none).1 hpath _ hspells, fault, hfault,
    hkind.2 ⟨hpath, not_holds_of_stray_byte⟩⟩

/-- A byte that starts no character is not reported as a malformed document. -/
theorem ofFile_of_stray_byte :
    ¬ ∀ (path : String) (content : List UInt8) (environment : Option String),
      (∀ document, ¬ (File.bytes content).Spells document) →
        ∃ fault, ofFile path (.bytes content) environment = .error fault ∧
          fault.kind = .malformedDocument := by
  intro h
  obtain ⟨fault, hfault, hkind⟩ := h "chains.json" [0xff] none not_spells_of_stray_byte
  cases hfault
  cases hkind

end Registry
end ChainAtlas
