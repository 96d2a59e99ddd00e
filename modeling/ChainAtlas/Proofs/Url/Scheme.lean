import ChainAtlas.Url
import ChainAtlas.Proofs.Outcome
import Mathlib

/-!
# What it takes for a URL to have a scheme

A scheme is told by splitting a tidy URL at its first colon.  Seen from the outside the URL begins
with the scheme, in letters of either case, and a colon (`HasScheme`).  The two accounts agree for
schemes that are words in small letters (`scheme_eq_ok_iff`): such a word has no colon in it in
either case, so the first colon is the one after it.
-/

namespace ChainAtlas
namespace Url

open Outcome

variable {url : String} {typed rest input word : List Char}

/-- Whether a URL begins with a scheme, in letters of either case, and goes on in a way that is not
refused.  Blanks in front and line ends anywhere do not count. -/
def HasScheme (url : String) (scheme : List Char) : Prop :=
  ∃ typed rest, tidy url.toList = typed ++ ':' :: rest ∧ typed.map Char.toLower = scheme ∧
    checkAuthority (authority rest) = .ok ()

theorem isScheme_of_isAlpha (hne : typed ≠ []) (halpha : ∀ c ∈ typed, c.isAlpha = true) :
    isScheme typed = true := by
  cases typed with
  | nil => exact absurd rfl hne
  | cons c cs =>
    have hall : (c :: cs).all isSchemeChar = true := by
      rw [List.all_eq_true]
      intro d hd
      simp [isSchemeChar, Char.isAlphanum, halpha d hd]
    rw [isScheme, hall, List.head?_cons, Option.any_some, halpha c List.mem_cons_self]
    rfl

/-- A word in letters of either case is split off at the colon that ends it. -/
theorem splitScheme_append (rest : List Char) (hne : typed ≠ [])
    (halpha : ∀ c ∈ typed, c.isAlpha = true) :
    splitScheme (typed ++ ':' :: rest) = (typed.map Char.toLower, rest) := by
  have hcolon : ∀ c ∈ typed, (c != ':') = true := by
    intro c hc
    have h := halpha c hc
    rw [bne_iff_ne]
    rintro rfl
    cases h
  have htake : (typed ++ ':' :: rest).takeWhile (· != ':') = typed := by
    rw [List.takeWhile_append_of_pos hcolon]
    simp
  have hlength : typed.length < (typed ++ ':' :: rest).length := by simp
  have hdrop : (typed ++ ':' :: rest).drop (typed.length + 1) = rest :=
    List.drop_length_add_append 1
  simp only [splitScheme, htake, isScheme_of_isAlpha hne halpha, hlength, hdrop, decide_true,
    Bool.and_self, if_true]

/-- A scheme that was split off stood in front of the first colon. -/
theorem exists_eq_append_of_splitScheme (h : splitScheme input = (word, rest)) (hne : word ≠ []) :
    ∃ typed, input = typed ++ ':' :: rest ∧ typed.map Char.toLower = word := by
  have hsplit := List.takeWhile_append_dropWhile (p := (· != ':')) (l := input)
  have hhead := List.head?_dropWhile_not (· != ':') input
  rw [splitScheme] at h
  split at h
  · rename_i hcond
    obtain ⟨rfl, rfl⟩ := Prod.mk.inj h
    rw [Bool.and_eq_true, decide_eq_true_eq] at hcond
    generalize input.takeWhile (· != ':') = typed at hsplit hcond ⊢
    refine ⟨typed, ?_, rfl⟩
    -- the word is shorter than the whole, so something stopped it, and only a colon does
    cases hafter : input.dropWhile (· != ':') with
    | nil =>
      rw [hafter, List.append_nil] at hsplit
      rw [hsplit] at hcond
      exact absurd hcond.1 (Nat.lt_irrefl _)
    | cons c cs =>
      rw [hafter] at hsplit hhead
      have hc : c = ':' := by simpa using hhead
      subst hc
      rw [← hsplit, List.drop_length_add_append, List.drop_succ_cons, List.drop_zero]
  · exact absurd (Prod.mk.inj h).1.symm hne

/-- A word in small letters is split off exactly where a URL begins with it. -/
theorem splitScheme_eq_iff (hne : word ≠ []) (halpha : ∀ c ∈ word, c.isAlpha = true) :
    splitScheme input = (word, rest) ↔
      ∃ typed, input = typed ++ ':' :: rest ∧ typed.map Char.toLower = word := by
  constructor
  · intro h
    exact exists_eq_append_of_splitScheme h hne
  · rintro ⟨typed, rfl, rfl⟩
    have htyped : ∀ c ∈ typed, c.isAlpha = true := fun c hc =>
      c.isAlpha_toLower_eq_isAlpha ▸ halpha _ (List.mem_map_of_mem hc)
    have hsome : typed ≠ [] := fun h => hne (by rw [h, List.map_nil])
    exact splitScheme_append rest hsome htyped

/-- A URL has the scheme that is split off, unless it is refused for what comes after it. -/
theorem scheme_eq_ok_iff_splitScheme :
    scheme url = .ok word ↔ (splitScheme (tidy url.toList)).1 = word ∧
      checkAuthority (authority (splitScheme (tidy url.toList)).2) = .ok () := by
  rw [scheme]
  simp only [bind_eq_ok_iff]
  constructor
  · rintro ⟨⟨⟩, hcheck, hword⟩
    exact ⟨Except.ok.inj hword, hcheck⟩
  · rintro ⟨rfl, hcheck⟩
    exact ⟨(), hcheck, rfl⟩

/-- **A URL has the scheme that it begins with.** -/
theorem scheme_eq_ok_iff (hne : word ≠ []) (halpha : ∀ c ∈ word, c.isAlpha = true) :
    scheme url = .ok word ↔ HasScheme url word := by
  rw [scheme_eq_ok_iff_splitScheme]
  constructor
  · rintro ⟨hword, hcheck⟩
    obtain ⟨typed, hinput, htyped⟩ := (splitScheme_eq_iff hne halpha).1 (Prod.ext hword rfl)
    exact ⟨typed, _, hinput, htyped, hcheck⟩
  · rintro ⟨typed, rest, hinput, htyped, hcheck⟩
    rw [(splitScheme_eq_iff hne halpha).2 ⟨typed, hinput, htyped⟩]
    exact ⟨rfl, hcheck⟩

end Url
end ChainAtlas
