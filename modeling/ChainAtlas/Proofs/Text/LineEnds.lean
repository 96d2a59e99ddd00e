import ChainAtlas.Text.Newline

/-!
# What unifying line ends leaves alone

Unifying line ends changes carriage returns and nothing else, so a stretch of text without one is
the same before and after.  The lemmas say so for the ways in which such a stretch is found: at the
front of a text (`unifyLineEnds_append`, and `exists_of_unifyLineEnds_eq_append` for the way back),
by counting characters (`unifyLineEnds_drop`), by a test that line ends do not pass
(`takeWhile_unifyLineEnds`), or by comparing with a word (`isPrefixOf_unifyLineEnds`).

A function of a text that treats all line ends at the front alike, and that may be unified behind
its first character, may be unified as a whole (`eq_of_unifyLineEnds`).
-/

namespace ChainAtlas
namespace Text

variable {xs ys input : List Char}

/-- A line end at the front becomes a line feed. -/
theorem exists_unifyLineEnds_return (rest : List Char) :
    ∃ rest', unifyLineEnds ('\r' :: rest) = '\n' :: rest' := by
  rw [unifyLineEnds.eq_def]
  split
  · contradiction
  · exact ⟨_, rfl⟩
  · rename_i h
    cases h
    exact ⟨_, rfl⟩

/-- A carriage return disappears before a line feed, and becomes one elsewhere. -/
theorem unifyLineEnds_return (rest : List Char) :
    unifyLineEnds ('\r' :: rest) = unifyLineEnds rest ∨
      unifyLineEnds ('\r' :: rest) = '\n' :: unifyLineEnds rest := by
  by_cases hfeed : ∃ tail, rest = '\n' :: tail
  · obtain ⟨tail, rfl⟩ := hfeed
    exact Or.inl rfl
  · refine Or.inr ?_
    rw [unifyLineEnds.eq_3 _ _ (by simpa using hfeed)]
    rfl

/-- **A stretch without carriage returns stays as it is**, and what follows is treated as if it
stood alone. -/
theorem unifyLineEnds_append (h : '\r' ∉ xs) (ys : List Char) :
    unifyLineEnds (xs ++ ys) = xs ++ unifyLineEnds ys := by
  induction xs with
  | nil => rfl
  | cons x xs ih =>
    rw [List.mem_cons, not_or] at h
    rw [List.cons_append, unifyLineEnds_cons_of_ne (Ne.symm h.1), ih h.2, List.cons_append]

/-- A stretch without line feeds was there before. -/
theorem exists_of_unifyLineEnds_eq_append (h : '\n' ∉ xs) (heq : unifyLineEnds input = xs ++ ys) :
    ∃ zs, input = xs ++ zs ∧ unifyLineEnds zs = ys := by
  induction xs generalizing input with
  | nil => exact ⟨input, rfl, heq⟩
  | cons x xs ih =>
    rw [List.mem_cons, not_or] at h
    cases input with
    | nil => cases heq
    | cons c rest =>
      by_cases hc : c = '\r'
      · subst hc
        obtain ⟨rest', hrest'⟩ := exists_unifyLineEnds_return rest
        rw [hrest'] at heq
        exact absurd (List.cons.inj heq).1 h.1
      · rw [unifyLineEnds_cons_of_ne hc] at heq
        obtain ⟨rfl, htail⟩ := List.cons.inj heq
        obtain ⟨zs, rfl, hzs⟩ := ih h.2 htail
        exact ⟨zs, rfl, hzs⟩

/-- Characters may be dropped before or after, as long as none of them is a carriage return. -/
theorem unifyLineEnds_drop {n : Nat} (h : '\r' ∉ input.take n) :
    (unifyLineEnds input).drop n = unifyLineEnds (input.drop n) := by
  induction n generalizing input with
  | zero => rfl
  | succ n ih =>
    cases input with
    | nil => rfl
    | cons c rest =>
      rw [List.take_succ_cons, List.mem_cons, not_or] at h
      rw [unifyLineEnds_cons_of_ne (Ne.symm h.1), List.drop_succ_cons, List.drop_succ_cons, ih h.2]

/-- A function may be unified as a whole if it takes all line ends at the front for the same, and
if it may be unified behind any other character there. -/
theorem eq_of_unifyLineEnds {β : Type} {f : List Char → β}
    (hend : ∀ rest rest', f ('\n' :: rest) = f ('\r' :: rest'))
    (hcons : ∀ c rest, c ≠ '\r' → f (c :: unifyLineEnds rest) = f (c :: rest)) (input : List Char) :
    f (unifyLineEnds input) = f input := by
  cases input with
  | nil => rfl
  | cons c rest =>
    by_cases hc : c = '\r'
    · subst hc
      obtain ⟨rest', hrest'⟩ := exists_unifyLineEnds_return rest
      rw [hrest']
      exact hend rest' rest
    · rw [unifyLineEnds_cons_of_ne hc]
      exact hcons c rest hc

theorem takeWhile_unifyLineEnds {p : Char → Bool} (hfeed : p '\n' = false)
    (hreturn : p '\r' = false) (input : List Char) :
    (unifyLineEnds input).takeWhile p = input.takeWhile p := by
  induction input with
  | nil => rfl
  | cons c rest ih =>
    by_cases hc : c = '\r'
    · subst hc
      obtain ⟨rest', hrest'⟩ := exists_unifyLineEnds_return rest
      rw [hrest', List.takeWhile_cons_of_neg (by simp [hfeed]),
        List.takeWhile_cons_of_neg (by simp [hreturn])]
    · rw [unifyLineEnds_cons_of_ne hc, List.takeWhile_cons, List.takeWhile_cons, ih]

theorem isPrefixOf_unifyLineEnds {word : List Char} (hfeed : '\n' ∉ word) (hreturn : '\r' ∉ word)
    (input : List Char) : word.isPrefixOf (unifyLineEnds input) = word.isPrefixOf input := by
  rw [Bool.eq_iff_iff, List.isPrefixOf_iff_prefix, List.isPrefixOf_iff_prefix]
  constructor
  · rintro ⟨tail, htail⟩
    obtain ⟨zs, rfl, -⟩ := exists_of_unifyLineEnds_eq_append hfeed htail.symm
    exact ⟨zs, rfl⟩
  · rintro ⟨tail, rfl⟩
    exact ⟨unifyLineEnds tail, (unifyLineEnds_append hreturn tail).symm⟩

end Text
end ChainAtlas
