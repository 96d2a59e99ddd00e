import ChainAtlas.Proofs.Outcome
import ChainAtlas.Text.HeldBytes
import Mathlib.Tactic.SplitIfs

/-!
# Decoding undoes encoding

The bytes of a text in UTF-8, one to four for each character, are decoded to the characters that
they encode (`decode_toUTF8`).  The decoder takes one byte at a time and the encoder writes a whole
character, so what has to be seen is that the bytes of a character meet, one after another, the
bounds that the decoder has left open for them: a leading byte that announces its length, and for
the second byte the narrower bounds that exclude overlong forms, surrogates and numbers past the
last code point.

These bounds also let nothing else through: the bytes of a character are the only ones that are
within them, so what is decoded is the encoding of a text (`decode_eq_ok_iff`).

Bytes that are decoded are held as the text that they spell (`held_of_decode`).  The decoder and the
holder go through the same states, up to the offsets that only faults show.
-/

namespace ChainAtlas
namespace Utf8

open Outcome

variable {offset : Nat} {p : Pending} {byte : UInt8} {rest : List UInt8}

/-! ## One byte -/

/-- The last byte of a character. -/
theorem decodeFrom_last (hbyte : p.low ≤ byte.toNat ∧ byte.toNat ≤ p.high) (hlater : p.later = 0) :
    decodeFrom offset (some p) (byte :: rest) =
      (decodeFrom (offset + 1) none rest).map (Char.ofNat (p.extend byte) :: ·) := by
  have hgood : ¬ (byte.toNat < p.low || p.high < byte.toNat) = true := by
    rw [Bool.or_eq_true, decide_eq_true_eq, decide_eq_true_eq]
    omega
  rw [decodeFrom, if_neg hgood, if_pos hlater]
  cases decodeFrom (offset + 1) none rest <;> rfl

/-- A byte in the middle of a character. -/
theorem decodeFrom_middle (hbyte : p.low ≤ byte.toNat ∧ byte.toNat ≤ p.high)
    (hlater : p.later ≠ 0) :
    decodeFrom offset (some p) (byte :: rest) =
      decodeFrom (offset + 1) (some (p.advance byte)) rest := by
  have hgood : ¬ (byte.toNat < p.low || p.high < byte.toNat) = true := by
    rw [Bool.or_eq_true, decide_eq_true_eq, decide_eq_true_eq]
    omega
  rw [decodeFrom, if_neg hgood, if_neg hlater]

/-- The first byte of a character of several bytes. -/
theorem decodeFrom_lead (hbyte : 0x80 ≤ byte.toNat) (hlead : Pending.ofLead? offset byte = some p) :
    decodeFrom offset none (byte :: rest) = decodeFrom (offset + 1) (some p) rest := by
  rw [decodeFrom, if_neg (by omega), hlead]

/-- A byte that is written as a small number is that number. -/
theorem toNat_ofNat_of_lt {n : Nat} (h : n < 256) : (UInt8.ofNat n).toNat = n := by
  rw [UInt8.toNat_ofNat', Nat.mod_eq_of_lt h]

/-! ## The bytes of a character -/

variable {start bits v : Nat}

theorem ofLead?_of_two (h : 2 ≤ bits ∧ bits < 0x20) :
    Pending.ofLead? start (UInt8.ofNat (bits + 0xc0)) =
      some ⟨start, UInt8.ofNat (bits + 0xc0), 1, 0, 0x80, 0xbf, bits⟩ := by
  simp only [Pending.ofLead?, toNat_ofNat_of_lt (show bits + 0xc0 < 256 by omega),
    Nat.add_sub_cancel]
  rw [if_neg (by omega), if_pos (by omega)]

theorem ofLead?_of_three (h : bits < 0x10) :
    Pending.ofLead? start (UInt8.ofNat (bits + 0xe0)) =
      some ⟨start, UInt8.ofNat (bits + 0xe0), 1, 1, if bits = 0 then 0xa0 else 0x80,
        if bits = 0xd then 0x9f else 0xbf, bits⟩ := by
  have hfirst : bits + 0xe0 = 0xe0 ↔ bits = 0 := by omega
  have hlast : bits + 0xe0 = 0xed ↔ bits = 0xd := by omega
  simp only [Pending.ofLead?, toNat_ofNat_of_lt (show bits + 0xe0 < 256 by omega),
    Nat.add_sub_cancel, hfirst, hlast]
  rw [if_neg (by omega), if_neg (by omega), if_pos (by omega)]

theorem ofLead?_of_four (h : bits < 5) :
    Pending.ofLead? start (UInt8.ofNat (bits + 0xf0)) =
      some ⟨start, UInt8.ofNat (bits + 0xf0), 1, 2, if bits = 0 then 0x90 else 0x80,
        if bits = 4 then 0x8f else 0xbf, bits⟩ := by
  have hfirst : bits + 0xf0 = 0xf0 ↔ bits = 0 := by omega
  have hlast : bits + 0xf0 = 0xf4 ↔ bits = 4 := by omega
  simp only [Pending.ofLead?, toNat_ofNat_of_lt (show bits + 0xf0 < 256 by omega),
    Nat.add_sub_cancel, hfirst, hlast]
  rw [if_neg (by omega), if_neg (by omega), if_neg (by omega), if_pos (by omega)]

/-- A byte after the first carries six bits. -/
theorem toNat_continuation (bits : Nat) :
    (UInt8.ofNat (bits % 0x40 + 0x80)).toNat = bits % 0x40 + 0x80 :=
  toNat_ofNat_of_lt (by omega)

theorem extend_continuation (p : Pending) (bits : Nat) :
    p.extend (UInt8.ofNat (bits % 0x40 + 0x80)) = p.bits * 64 + bits % 0x40 := by
  have hbyte := toNat_continuation bits
  unfold Pending.extend
  omega

/-- The bounds that an unfinished character keeps for most of its bytes. -/
theorem continuation_mem (bits : Nat) :
    0x80 ≤ (UInt8.ofNat (bits % 0x40 + 0x80)).toNat ∧
      (UInt8.ofNat (bits % 0x40 + 0x80)).toNat ≤ 0xbf := by
  rw [toNat_continuation]
  omega

theorem decodeFrom_two (hv : 0x80 ≤ v ∧ v < 0x800) :
    decodeFrom offset none
        (UInt8.ofNat (v / 64 % 0x20 + 0xc0) :: UInt8.ofNat (v % 0x40 + 0x80) :: rest) =
      (decodeFrom (offset + 1 + 1) none rest).map (Char.ofNat v :: ·) := by
  have hlead : 0x80 ≤ (UInt8.ofNat (v / 64 % 0x20 + 0xc0)).toNat := by
    rw [toNat_ofNat_of_lt (by omega)]
    omega
  have hbits : v / 64 % 0x20 * 64 + v % 0x40 = v := by omega
  rw [decodeFrom_lead hlead (ofLead?_of_two (by omega)),
    decodeFrom_last (continuation_mem v) rfl, extend_continuation, hbits]

theorem decodeFrom_three (hv : 0x800 ≤ v ∧ v < 0x10000) (hvalid : v < 0xd800 ∨ 0xdfff < v) :
    decodeFrom offset none
        (UInt8.ofNat (v / 4096 % 0x10 + 0xe0) :: UInt8.ofNat (v / 64 % 0x40 + 0x80) ::
          UInt8.ofNat (v % 0x40 + 0x80) :: rest) =
      (decodeFrom (offset + 1 + 1 + 1) none rest).map (Char.ofNat v :: ·) := by
  have hlead : 0x80 ≤ (UInt8.ofNat (v / 4096 % 0x10 + 0xe0)).toNat := by
    rw [toNat_ofNat_of_lt (by omega)]
    omega
  have hbits : (v / 4096 % 0x10 * 64 + v / 64 % 0x40) * 64 + v % 0x40 = v := by omega
  -- the second byte is where overlong forms and surrogates would show
  have hsecond : (if v / 4096 % 0x10 = 0 then 0xa0 else 0x80) ≤
        (UInt8.ofNat (v / 64 % 0x40 + 0x80)).toNat ∧
      (UInt8.ofNat (v / 64 % 0x40 + 0x80)).toNat ≤
        if v / 4096 % 0x10 = 0xd then 0x9f else 0xbf := by
    rw [toNat_continuation]
    split_ifs <;> omega
  rw [decodeFrom_lead hlead (ofLead?_of_three (by omega)),
    decodeFrom_middle hsecond Nat.one_ne_zero, decodeFrom_last (continuation_mem v) rfl,
    extend_continuation, Pending.advance, extend_continuation, hbits]

theorem decodeFrom_four (hv : 0x10000 ≤ v ∧ v < 0x110000) :
    decodeFrom offset none
        (UInt8.ofNat (v / 262144 % 0x08 + 0xf0) :: UInt8.ofNat (v / 4096 % 0x40 + 0x80) ::
          UInt8.ofNat (v / 64 % 0x40 + 0x80) :: UInt8.ofNat (v % 0x40 + 0x80) :: rest) =
      (decodeFrom (offset + 1 + 1 + 1 + 1) none rest).map (Char.ofNat v :: ·) := by
  have hlead : 0x80 ≤ (UInt8.ofNat (v / 262144 % 0x08 + 0xf0)).toNat := by
    rw [toNat_ofNat_of_lt (by omega)]
    omega
  have hbits : ((v / 262144 % 0x08 * 64 + v / 4096 % 0x40) * 64 + v / 64 % 0x40) * 64 +
      v % 0x40 = v := by omega
  -- the second byte is where overlong forms and numbers past the last code point would show
  have hsecond : (if v / 262144 % 0x08 = 0 then 0x90 else 0x80) ≤
        (UInt8.ofNat (v / 4096 % 0x40 + 0x80)).toNat ∧
      (UInt8.ofNat (v / 4096 % 0x40 + 0x80)).toNat ≤
        if v / 262144 % 0x08 = 4 then 0x8f else 0xbf := by
    rw [toNat_continuation]
    split_ifs <;> omega
  rw [decodeFrom_lead hlead (ofLead?_of_four (by omega)),
    decodeFrom_middle hsecond (Nat.succ_ne_zero 1),
    decodeFrom_middle (continuation_mem (v / 64)) Nat.one_ne_zero,
    decodeFrom_last (continuation_mem v) rfl, extend_continuation, Pending.advance,
    extend_continuation, Pending.advance, extend_continuation, hbits]

/-- **The bytes of a character are decoded to it**, and what comes after them is decoded as if it
stood alone. -/
theorem decodeFrom_utf8EncodeChar (c : Char) (offset : Nat) (rest : List UInt8) :
    decodeFrom offset none (String.utf8EncodeChar c ++ rest) =
      (decodeFrom (offset + (String.utf8EncodeChar c).length) none rest).map (c :: ·) := by
  have hvalid : c.toNat < 0xd800 ∨ 0xdfff < c.toNat ∧ c.toNat < 0x110000 := c.valid
  have hchar : Char.ofNat c.toNat = c := Char.ofNat_toNat c
  have hval : c.val.toNat = c.toNat := rfl
  rw [String.utf8EncodeChar, hval]
  split_ifs with hone htwo hthree
  · have hbyte : (UInt8.ofNat c.toNat).toNat = c.toNat := toNat_ofNat_of_lt (by omega)
    rw [List.singleton_append, decodeFrom_cons_of_lt (by omega), hbyte, hchar]
    rfl
  · exact (decodeFrom_two ⟨by omega, by omega⟩).trans (by rw [hchar]; rfl)
  · exact (decodeFrom_three ⟨by omega, by omega⟩ (by omega)).trans (by rw [hchar]; rfl)
  · exact (decodeFrom_four ⟨by omega, by omega⟩).trans (by rw [hchar]; rfl)

/-! ## Texts -/

theorem decodeFrom_flatMap (text : List Char) (offset : Nat) :
    decodeFrom offset none (text.flatMap String.utf8EncodeChar) = .ok text := by
  induction text generalizing offset with
  | nil => rfl
  | cons c text ih =>
    rw [List.flatMap_cons, decodeFrom_utf8EncodeChar, ih]
    rfl

/-- **Decoding undoes encoding.** -/
theorem decode_toUTF8 (text : String) : decode text.toUTF8.data.toList = .ok text.toList := by
  have hbytes : text.toUTF8.data.toList = text.toList.flatMap String.utf8EncodeChar := by
    rw [← String.ofList_toList (s := text), String.toUTF8_eq_toByteArray,
      String.toByteArray_ofList, String.toList_ofList, List.utf8Encode, List.data_toByteArray]
  rw [hbytes]
  exact decodeFrom_flatMap text.toList 0

/-! ## Only encoded texts are decoded -/

variable {first second third fourth : UInt8}

theorem ofNat_eq_of_toNat {n : Nat} (h : byte.toNat = n) : UInt8.ofNat n = byte := by
  rw [← h, UInt8.ofNat_toNat]

theorem toNat_val_ofNat (h : v < 0xd800 ∨ 0xdfff < v ∧ v < 0x110000) :
    (Char.ofNat v).val.toNat = v := by
  rw [Char.ofNat, dif_pos h]
  rfl

theorem utf8EncodeChar_one (hv : v < 0x80) (hfirst : first.toNat = v) :
    String.utf8EncodeChar (Char.ofNat v) = [first] := by
  rw [String.utf8EncodeChar, toNat_val_ofNat (by omega), if_pos (by omega),
    ofNat_eq_of_toNat hfirst]

theorem utf8EncodeChar_two (hv : 0x80 ≤ v ∧ v < 0x800) (hfirst : first.toNat = v / 64 + 0xc0)
    (hsecond : second.toNat = v % 64 + 0x80) :
    String.utf8EncodeChar (Char.ofNat v) = [first, second] := by
  have hlead : UInt8.ofNat (v / 64 % 0x20 + 0xc0) = first := ofNat_eq_of_toNat (by omega)
  rw [String.utf8EncodeChar, toNat_val_ofNat (by omega), if_neg (by omega), if_pos (by omega),
    hlead, ofNat_eq_of_toNat hsecond]

theorem utf8EncodeChar_three (hv : 0x800 ≤ v ∧ v < 0x10000) (hvalid : v < 0xd800 ∨ 0xdfff < v)
    (hfirst : first.toNat = v / 4096 + 0xe0) (hsecond : second.toNat = v / 64 % 64 + 0x80)
    (hthird : third.toNat = v % 64 + 0x80) :
    String.utf8EncodeChar (Char.ofNat v) = [first, second, third] := by
  have hlead : UInt8.ofNat (v / 4096 % 0x10 + 0xe0) = first := ofNat_eq_of_toNat (by omega)
  rw [String.utf8EncodeChar, toNat_val_ofNat (by omega), if_neg (by omega), if_neg (by omega),
    if_pos (by omega), hlead, ofNat_eq_of_toNat hsecond, ofNat_eq_of_toNat hthird]

theorem utf8EncodeChar_four (hv : 0x10000 ≤ v ∧ v < 0x110000)
    (hfirst : first.toNat = v / 262144 + 0xf0) (hsecond : second.toNat = v / 4096 % 64 + 0x80)
    (hthird : third.toNat = v / 64 % 64 + 0x80) (hfourth : fourth.toNat = v % 64 + 0x80) :
    String.utf8EncodeChar (Char.ofNat v) = [first, second, third, fourth] := by
  have hlead : UInt8.ofNat (v / 262144 % 0x08 + 0xf0) = first := ofNat_eq_of_toNat (by omega)
  rw [String.utf8EncodeChar, toNat_val_ofNat (by omega), if_neg (by omega), if_neg (by omega),
    if_neg (by omega), hlead, ofNat_eq_of_toNat hsecond, ofNat_eq_of_toNat hthird,
    ofNat_eq_of_toNat hfourth]

/-- A leading byte announces how many bytes follow, and bounds for the first of them. -/
theorem ofLead?_eq_some (h : Pending.ofLead? start byte = some p) :
    0x80 ≤ p.low ∧ p.high ≤ 0xbf ∧
      (2 ≤ p.bits ∧ p.bits < 0x20 ∧ byte.toNat = p.bits + 0xc0 ∧ p.later = 0 ∨
        p.bits < 0x10 ∧ byte.toNat = p.bits + 0xe0 ∧ p.later = 1 ∧
          (p.bits = 0 → 0xa0 ≤ p.low) ∧ (p.bits = 0xd → p.high ≤ 0x9f) ∨
        p.bits < 5 ∧ byte.toNat = p.bits + 0xf0 ∧ p.later = 2 ∧
          (p.bits = 0 → 0x90 ≤ p.low) ∧ (p.bits = 4 → p.high ≤ 0x8f)) := by
  simp only [Pending.ofLead?] at h
  split_ifs at h <;> cases h <;> simp <;> omega

variable {bytes : List UInt8} {text : List Char}

/-- An unfinished character is followed by a byte within its bounds, which is its last byte or not.
-/
theorem of_decodeFrom_some (h : decodeFrom offset (some p) bytes = .ok text) :
    ∃ byte rest, bytes = byte :: rest ∧ (p.low ≤ byte.toNat ∧ byte.toNat ≤ p.high) ∧
      (p.later = 0 → ∃ tail, text = Char.ofNat (p.extend byte) :: tail ∧
        decodeFrom (offset + 1) none rest = .ok tail) ∧
      (p.later ≠ 0 → decodeFrom (offset + 1) (some (p.advance byte)) rest = .ok text) := by
  cases bytes with
  | nil => cases h
  | cons byte rest =>
    by_cases hbyte : p.low ≤ byte.toNat ∧ byte.toNat ≤ p.high
    · refine ⟨byte, rest, rfl, hbyte, fun hlater => ?_, fun hlater => ?_⟩
      · rw [decodeFrom_last hbyte hlater, map_eq_ok_iff] at h
        obtain ⟨tail, htail, rfl⟩ := h
        exact ⟨tail, rfl, htail⟩
      · rwa [decodeFrom_middle hbyte hlater] at h
    · have hbad : (byte.toNat < p.low || p.high < byte.toNat) = true := by
        rw [Bool.or_eq_true, decide_eq_true_eq, decide_eq_true_eq]
        omega
      rw [decodeFrom, if_pos hbad] at h
      cases h

/-- What is decoded starts with the bytes of its first character, and the rest is decoded as well.
-/
theorem exists_utf8EncodeChar_append
    (h : decodeFrom offset none (byte :: rest) = .ok text) :
    ∃ c tail rest' offset', text = c :: tail ∧
      byte :: rest = String.utf8EncodeChar c ++ rest' ∧
        decodeFrom offset' none rest' = .ok tail := by
  by_cases hone : byte.toNat < 0x80
  · rw [decodeFrom_cons_of_lt hone, map_eq_ok_iff] at h
    obtain ⟨tail, htail, rfl⟩ := h
    exact ⟨_, tail, rest, _, rfl, by rw [utf8EncodeChar_one hone rfl]; rfl, htail⟩
  rw [Nat.not_lt] at hone
  cases hlead : Pending.ofLead? offset byte with
  | none =>
    rw [decodeFrom, if_neg (by omega), hlead] at h
    cases h
  | some p =>
    rw [decodeFrom_lead hone hlead] at h
    obtain ⟨second, rest, rfl, hsecond, hlast, hmiddle⟩ := of_decodeFrom_some h
    obtain ⟨hlow, hhigh, ⟨hshort, hbits, hbyte, hlater⟩ | ⟨hbits, hbyte, hlater, hover, hpair⟩ |
      ⟨hbits, hbyte, hlater, hover, hpast⟩⟩ := ofLead?_eq_some hlead
    · obtain ⟨tail, rfl, htail⟩ := hlast hlater
      refine ⟨_, tail, rest, _, rfl, ?_, htail⟩
      have hvalue : p.extend second = p.bits * 64 + (second.toNat - 0x80) := rfl
      have hcharacter : String.utf8EncodeChar (Char.ofNat (p.extend second)) = [byte, second] :=
        utf8EncodeChar_two (by omega) (by omega) (by omega)
      rw [hcharacter]
      rfl
    · obtain ⟨third, rest, rfl, hthird, hlast, -⟩ :=
        of_decodeFrom_some (hmiddle (by simp [hlater]))
      obtain ⟨tail, rfl, htail⟩ := hlast (by simp [Pending.advance, hlater])
      refine ⟨_, tail, rest, _, rfl, ?_, htail⟩
      have hvalue : (p.advance second).extend third =
          (p.bits * 64 + (second.toNat - 0x80)) * 64 + (third.toNat - 0x80) := rfl
      have hthird : 0x80 ≤ third.toNat ∧ third.toNat ≤ 0xbf := hthird
      generalize (p.advance second).extend third = v at hvalue ⊢
      have hcharacter : String.utf8EncodeChar (Char.ofNat v) = [byte, second, third] :=
        utf8EncodeChar_three (by omega) (by omega) (by omega) (by omega) (by omega)
      rw [hcharacter]
      rfl
    · obtain ⟨third, rest, rfl, hthird, -, hmiddle⟩ :=
        of_decodeFrom_some (hmiddle (by simp [hlater]))
      obtain ⟨fourth, rest, rfl, hfourth, hlast, -⟩ :=
        of_decodeFrom_some (hmiddle (by simp [Pending.advance, hlater]))
      obtain ⟨tail, rfl, htail⟩ := hlast (by simp [Pending.advance, hlater])
      refine ⟨_, tail, rest, _, rfl, ?_, htail⟩
      have hvalue : ((p.advance second).advance third).extend fourth =
          ((p.bits * 64 + (second.toNat - 0x80)) * 64 + (third.toNat - 0x80)) * 64 +
            (fourth.toNat - 0x80) := rfl
      have hthird : 0x80 ≤ third.toNat ∧ third.toNat ≤ 0xbf := hthird
      have hfourth : 0x80 ≤ fourth.toNat ∧ fourth.toNat ≤ 0xbf := hfourth
      generalize ((p.advance second).advance third).extend fourth = v at hvalue ⊢
      have hcharacter : String.utf8EncodeChar (Char.ofNat v) = [byte, second, third, fourth] :=
        utf8EncodeChar_four (by omega) (by omega) (by omega) (by omega) (by omega)
      rw [hcharacter]
      rfl

/-- **Bytes are decoded exactly when they are those of a text.** -/
theorem decode_eq_ok_iff :
    decode bytes = .ok text ↔ bytes = text.flatMap String.utf8EncodeChar := by
  constructor
  · rw [decode]
    generalize 0 = offset
    intro h
    induction text generalizing bytes offset with
    | nil =>
      cases bytes with
      | nil => rfl
      | cons byte rest =>
        obtain ⟨c, tail, _, _, hcons, -⟩ := exists_utf8EncodeChar_append h
        cases hcons
    | cons c text ih =>
      cases bytes with
      | nil => cases h
      | cons byte rest =>
        obtain ⟨c, tail, rest', offset', hcons, hbytes, hrest⟩ := exists_utf8EncodeChar_append h
        cases hcons
        rw [hbytes, ih offset' hrest, List.flatMap_cons]
  · rintro rfl
    exact decodeFrom_flatMap text 0

/-! ## Bytes that are held -/

/-- A leading byte announces the same wherever it stands. -/
theorem ofLead?_eq_map (start : Nat) (lead : UInt8) :
    Pending.ofLead? start lead = (Pending.ofLead? 0 lead).map fun p => { p with start } := by
  simp only [Pending.ofLead?]
  split_ifs <;> rfl

/-- A character that is read from the first byte on. -/
theorem of_decodeFrom_none (h : decodeFrom offset none (byte :: rest) = .ok text) :
    (byte.toNat < 0x80 ∧ ∃ tail, text = Char.ofNat byte.toNat :: tail ∧
      decodeFrom (offset + 1) none rest = .ok tail) ∨
    ¬ byte.toNat < 0x80 ∧ ∃ p, Pending.ofLead? 0 byte = some p ∧
      decodeFrom (offset + 1) (some { p with start := offset }) rest = .ok text := by
  by_cases hascii : byte.toNat < 0x80
  · rw [decodeFrom_cons_of_lt hascii, map_eq_ok_iff] at h
    obtain ⟨tail, htail, rfl⟩ := h
    exact Or.inl ⟨hascii, tail, rfl, htail⟩
  · refine Or.inr ⟨hascii, ?_⟩
    rw [decodeFrom, if_neg hascii, ofLead?_eq_map] at h
    cases hlead : Pending.ofLead? 0 byte with
    | none =>
      rw [hlead] at h
      cases h
    | some p =>
      rw [hlead] at h
      exact ⟨p, rfl, h⟩

/-- **What is decoded is held**, also from the middle of a character on. -/
theorem heldFrom_of_decodeFrom {state : Option Unfinished} (start : Nat)
    (h : decodeFrom offset (state.map fun unfinished => { unfinished.1 with start }) bytes = .ok text) :
    heldFrom state bytes = text := by
  induction bytes generalizing state offset start text with
  | nil =>
    cases state with
    | none =>
      cases h
      rfl
    | some unfinished => cases h
  | cons byte rest ih =>
    cases state with
    | none =>
      rw [heldFrom, takeByte, takeFirst]
      rcases of_decodeFrom_none h with ⟨hascii, tail, rfl, htail⟩ | ⟨hlarge, p, hlead, hrest⟩
      · rw [if_pos hascii]
        exact congrArg _ (ih 0 htail)
      · rw [if_neg hlarge, hlead]
        exact ih offset hrest
    | some unfinished =>
      obtain ⟨p, seen⟩ := unfinished
      obtain ⟨_, _, hbytes, hbounds, hlast, hmiddle⟩ := of_decodeFrom_some h
      cases hbytes
      have hgood : ¬ (byte.toNat < p.low || p.high < byte.toNat) = true := by
        rw [Bool.or_eq_true, decide_eq_true_eq, decide_eq_true_eq]
        exact not_or.2 ⟨Nat.not_lt.2 hbounds.1, Nat.not_lt.2 hbounds.2⟩
      rw [heldFrom, takeByte, if_neg hgood]
      by_cases hlater : p.later = 0
      · obtain ⟨tail, rfl, htail⟩ := hlast hlater
        rw [if_pos hlater]
        exact congrArg _ (ih 0 htail)
      · rw [if_neg hlater]
        exact ih start (hmiddle hlater)

/-- **Bytes that are UTF-8 are held as the text that they spell.** -/
theorem held_of_decode (h : decode bytes = .ok text) : held bytes = String.ofList text := by
  have hfrom : heldFrom none bytes = text := heldFrom_of_decodeFrom 0 h
  rw [held, hfrom]

end Utf8
end ChainAtlas
