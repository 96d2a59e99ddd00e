import ChainAtlas.Text.Ascii
import ChainAtlas.Text.LowerCase
import Mathlib

/-!
# Lower case within ASCII and outside of it

An ASCII text is lower-cased letter by letter, and no other text gets the same result, with one
exception: the Kelvin sign becomes a `k`.  The dotted capital I becomes an `i` as well, but a dot
above it comes along, and that is no ASCII character.

So two texts one of which is in ASCII and has no `k` are the same in lower case exactly when they
are the same up to the case of ASCII letters (`lowerCase_eq_lowerCase_iff`).  What is known of the
table of small letters is one fact about each of its runs.
-/

namespace ChainAtlas
namespace Text

variable {c : Char} {before text x y : List Char}

/-- Where the runs of capital letters lead to: a run lies within ASCII, or it is the Kelvin sign, or
its small letters are characters outside of ASCII. -/
theorem lowerRuns_spec : ∀ run ∈ lowerRuns,
    run.2.1 < 0x80 ∨ run = (0x212a, 0x212a, 1, -8383) ∨
      0x80 ≤ (run.1 : ℤ) + run.2.2.2 ∧ ((run.2.1 : ℤ) + run.2.2.2 < 0xd800 ∨
        0xe000 ≤ (run.1 : ℤ) + run.2.2.2 ∧ (run.2.1 : ℤ) + run.2.2.2 < 0x110000) := by
  decide +kernel

/-- **A character outside of ASCII stays outside in lower case**, unless it is the Kelvin sign. -/
theorem lowerChar_of_not_ascii (h : 0x80 ≤ c.toNat) :
    0x80 ≤ (lowerChar c).toNat ∨ lowerChar c = 'k' := by
  rw [lowerChar]
  split
  · next first last step distance hfind =>
    have hrun := List.find?_some hfind
    simp only [Bool.and_eq_true, decide_eq_true_eq] at hrun
    obtain ⟨⟨hfirst, hlast⟩, -⟩ := hrun
    rcases lowerRuns_spec _ (List.mem_of_find?_eq_some hfind) with hlow | hkelvin | ⟨hlo, hhi⟩
    · simp only at hlow
      omega
    · cases hkelvin
      have hc : c.toNat = 0x212a := by omega
      right
      rw [hc]
      rfl
    · simp only at hlo hhi
      have hvalid : ((c.toNat : ℤ) + distance).toNat.isValidChar := by
        rw [Nat.isValidChar]
        omega
      left
      rw [Char.toNat_ofNat, if_pos hvalid]
      omega
  · exact Or.inl h

/-- A character outside of ASCII leaves its mark on the text in lower case. -/
theorem exists_mem_lowerAfter (hc : c ∈ text) (h : 0x80 ≤ c.toNat) (before : List Char) :
    ∃ d ∈ lowerAfter before text, 0x80 ≤ d.toNat ∨ d = 'k' := by
  induction text generalizing before with
  | nil => cases hc
  | cons e rest ih =>
    rw [lowerAfter]
    rcases List.mem_cons.1 hc with rfl | hrest
    · have hascii : ¬ c.toNat < 0x80 := by omega
      simp only [List.mem_append, hascii, if_false]
      split_ifs
      · exact ⟨'ς', Or.inl (by simp), Or.inl (by decide)⟩
      · exact ⟨'σ', Or.inl (by simp), Or.inl (by decide)⟩
      · exact ⟨'\u0307', Or.inl (by simp), Or.inl (by decide)⟩
      · exact ⟨lowerChar c, Or.inl (by simp), lowerChar_of_not_ascii h⟩
    · obtain ⟨d, hd, hmark⟩ := ih hrest (e :: before)
      exact ⟨d, List.mem_append_right _ hd, hmark⟩

/-- **Only an ASCII text becomes an ASCII text without a `k`.** -/
theorem ascii_of_lowerCase (h : ∀ d ∈ lowerCase text, d.toNat < 0x80 ∧ d ≠ 'k') :
    ∀ c ∈ text, c.toNat < 0x80 := by
  intro c hc
  by_contra hascii
  obtain ⟨d, hd, hmark⟩ := exists_mem_lowerAfter hc (by omega) []
  obtain ⟨hlt, hk⟩ := h d hd
  rcases hmark with hge | rfl
  · omega
  · exact hk rfl

theorem toNat_toLower_lt_iff : c.toLower.toNat < 0x80 ↔ c.toNat < 0x80 := by
  constructor
  · intro h
    by_cases hupper : c.isUpper = true
    · have hle : c.toNat ≤ 0x5a := by
        simp only [Char.isUpper, decide_eq_true_eq] at hupper
        exact hupper.2
      omega
    · rwa [Char.toLower_eq_of_not_isUpper hupper] at h
  · have hall : ∀ n < 0x80, (Char.ofNat n).toLower.toNat < 0x80 := by decide +kernel
    exact forall_ascii (P := fun c => c.toLower.toNat < 0x80) hall

/-- **A text without a `k` is the same as another one in lower case exactly when they differ at most
in the case of ASCII letters.** -/
theorem lowerCase_eq_lowerCase_iff (hx : ∀ c ∈ x, c.toNat < 0x80 ∧ c.toLower ≠ 'k') :
    lowerCase x = lowerCase y ↔ x.map Char.toLower = y.map Char.toLower := by
  have hown : lowerCase x = x.map Char.toLower := lowerCase_of_ascii fun c hc => (hx c hc).1
  have hmem : ∀ d ∈ x.map Char.toLower, d.toNat < 0x80 ∧ d ≠ 'k' := by
    intro d hd
    obtain ⟨c, hc, rfl⟩ := List.mem_map.1 hd
    exact ⟨toNat_toLower_lt_iff.2 (hx c hc).1, (hx c hc).2⟩
  rw [hown]
  constructor
  · intro h
    rw [h] at hmem ⊢
    exact lowerCase_of_ascii (ascii_of_lowerCase hmem)
  · intro h
    rw [h] at hmem ⊢
    exact (lowerCase_of_ascii fun c hc =>
      toNat_toLower_lt_iff.1 (hmem _ (List.mem_map_of_mem hc)).1).symm

end Text
end ChainAtlas
