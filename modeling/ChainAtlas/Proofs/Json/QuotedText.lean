import ChainAtlas.Json.Token
import ChainAtlas.Proofs.Outcome
import Mathlib.Tactic.ByContra

/-!
# How a quoted text is written

`IsQuoted` is the grammar of quoted texts: what may stand between an opening quote and the closing
one, together with what it spells.  Reading a quoted text does exactly this and looks at nothing
that comes after the closing quote (`quotation_eq_ok_iff`), and no control character can stand in
between (`IsQuoted.le_toNat`).

The one place where reading looks ahead is an escape that names the first half of a surrogate pair:
it asks whether the second half follows.  The answer cannot depend on what comes after the closing
quote, because an escape that is broken off there is refused anyhow
(`IsQuoted.secondUnit?_append`).

A half of a pair that stands alone spells U+FFFD here (`unitChar`), although it could be kept as what it
is by a program whose texts are made of more than code points.
-/

namespace ChainAtlas
namespace Json

open Outcome Numeral

/-- What is written after an opening quote, up to and with the closing one, and what it spells.  An
escape for the first half of a surrogate pair stands alone unless one for the second half follows.
-/
inductive IsQuoted : List Char → Quotation → Prop where
  | close : IsQuoted ['\x22'] ⟨[], 1⟩
  | plain {c : Char} {body : List Char} {q : Quotation} (hquote : c ≠ '\x22') (hslash : c ≠ '\\')
      (hcontrol : 0x20 ≤ c.toNat) (hbody : IsQuoted body q) : IsQuoted (c :: body) (q.cons c 1)
  | simple {c c' : Char} {body : List Char} {q : Quotation} (hc : simpleEscape? c = some c')
      (hbody : IsQuoted body q) : IsQuoted ('\\' :: c :: body) (q.cons c' 2)
  | pair {a b c d a' b' c' d' : Char} {high low : Nat} {body : List Char} {q : Quotation}
      (hhigh : unit? a b c d = some high) (hishigh : isHighSurrogate high = true)
      (hlow : unit? a' b' c' d' = some low) (hislow : isLowSurrogate low = true)
      (hbody : IsQuoted body q) :
      IsQuoted ('\\' :: 'u' :: a :: b :: c :: d :: '\\' :: 'u' :: a' :: b' :: c' :: d' :: body)
        (q.cons (joinSurrogates high low) 12)
  | single {a b c d : Char} {unit : Nat} {body : List Char} {q : Quotation}
      (hunit : unit? a b c d = some unit)
      (halone : isHighSurrogate unit = true → ∀ low, secondUnit? body = some (some low) →
        isLowSurrogate low = false)
      (hbody : IsQuoted body q) :
      IsQuoted ('\\' :: 'u' :: a :: b :: c :: d :: body) (q.cons (unitChar unit) 6)

/-- Whether a character stands for itself between quotes. -/
def isPlain (c : Char) : Bool := c != '\x22' && c != '\\' && 0x20 ≤ c.toNat

namespace IsQuoted

variable {body : List Char} {q : Quotation}

theorem length_eq (h : IsQuoted body q) : body.length = q.taken := by
  induction h with
  | close => rfl
  | plain _ _ _ _ ih => simp only [List.length_cons, ih, Quotation.cons]; omega
  | simple _ _ ih => simp only [List.length_cons, ih, Quotation.cons]; omega
  | pair _ _ _ _ _ ih => simp only [List.length_cons, ih, Quotation.cons]; omega
  | single _ _ _ ih => simp only [List.length_cons, ih, Quotation.cons]; omega

/-- There is at least the closing quote. -/
theorem exists_cons (h : IsQuoted body q) : ∃ c rest, body = c :: rest := by
  cases h <;> exact ⟨_, _, rfl⟩

/-- Characters that stand for themselves are written as they are. -/
theorem of_isPlain {text : List Char} (h : text.all isPlain = true) :
    IsQuoted (text ++ ['\x22']) ⟨text, text.length + 1⟩ := by
  induction text with
  | nil => exact .close
  | cons c text ih =>
    rw [List.all_cons, Bool.and_eq_true] at h
    obtain ⟨hquote, hslash, hcontrol⟩ : c ≠ '\x22' ∧ c ≠ '\\' ∧ 0x20 ≤ c.toNat := by
      simpa [isPlain, and_assoc] using h.1
    have hcons : (⟨c :: text, (c :: text).length + 1⟩ : Quotation) =
        Quotation.cons c 1 ⟨text, text.length + 1⟩ := by
      simp only [Quotation.cons, List.length_cons, Quotation.mk.injEq, true_and]
      omega
    rw [hcons]
    exact .plain hquote hslash hcontrol (ih h.2)

end IsQuoted

/-! ## Characters -/

theorem le_toNat_of_simpleEscape?_eq_some {c c' : Char} (h : simpleEscape? c = some c') :
    0x20 ≤ c.toNat := by
  by_contra hlt
  have hall : ∀ n < 0x20, simpleEscape? (Char.ofNat n) = none := by decide
  rw [← Char.ofNat_toNat c, hall c.toNat (by omega)] at h
  cases h

theorem ne_of_simpleEscape?_eq_some {c c' : Char} (h : simpleEscape? c = some c') : c ≠ 'u' := by
  rintro rfl
  cases h

theorem le_toNat_of_digit?_eq_some {c : Char} {n : Nat} (h : Hexadecimal.digit? c = some n) :
    0x20 ≤ c.toNat := by
  by_contra hlt
  have hall : ∀ n < 0x20, Hexadecimal.digit? (Char.ofNat n) = none := by decide
  rw [← Char.ofNat_toNat c, hall c.toNat (by omega)] at h
  cases h

/-- The characters of an escape by number are digits. -/
theorem le_toNat_of_unit?_eq_some {a b c d : Char} {unit : Nat} (h : unit? a b c d = some unit) :
    0x20 ≤ a.toNat ∧ 0x20 ≤ b.toNat ∧ 0x20 ≤ c.toNat ∧ 0x20 ≤ d.toNat := by
  rw [unit?] at h
  simp only [Option.bind_eq_bind, Option.bind_eq_some_iff] at h
  obtain ⟨_, ha, _, hb, _, hc, _, hd, -⟩ := h
  exact ⟨le_toNat_of_digit?_eq_some ha, le_toNat_of_digit?_eq_some hb,
    le_toNat_of_digit?_eq_some hc, le_toNat_of_digit?_eq_some hd⟩

namespace IsQuoted

variable {body : List Char} {q : Quotation}

/-- **No control character stands in a quoted text**, and so no line ends in it. -/
theorem le_toNat (h : IsQuoted body q) : ∀ c ∈ body, 0x20 ≤ c.toNat := by
  induction h with
  | close => exact List.forall_mem_singleton.2 (by decide)
  | plain _ _ hcontrol _ ih => exact List.forall_mem_cons.2 ⟨hcontrol, ih⟩
  | simple hc _ ih =>
    refine List.forall_mem_cons.2 ⟨by decide, List.forall_mem_cons.2 ⟨?_, ih⟩⟩
    exact le_toNat_of_simpleEscape?_eq_some hc
  | pair hhigh _ hlow _ _ ih =>
    obtain ⟨ha, hb, hc, hd⟩ := le_toNat_of_unit?_eq_some hhigh
    obtain ⟨ha', hb', hc', hd'⟩ := le_toNat_of_unit?_eq_some hlow
    simp only [List.forall_mem_cons]
    exact ⟨by decide, by decide, ha, hb, hc, hd, by decide, by decide, ha', hb', hc', hd', ih⟩
  | single hunit _ _ ih =>
    obtain ⟨ha, hb, hc, hd⟩ := le_toNat_of_unit?_eq_some hunit
    simp only [List.forall_mem_cons]
    exact ⟨by decide, by decide, ha, hb, hc, hd, ih⟩

theorem not_mem_feed (h : IsQuoted body q) : '\n' ∉ body := fun hmem =>
  absurd (h.le_toNat _ hmem) (by decide)

theorem not_mem_return (h : IsQuoted body q) : '\r' ∉ body := fun hmem =>
  absurd (h.le_toNat _ hmem) (by decide)

/-! ## Reading -/

/-- **Looking for the second half of a pair never looks past the closing quote.** -/
theorem secondUnit?_append (h : IsQuoted body q) (tail : List Char) :
    secondUnit? (body ++ tail) = secondUnit? body ∧ secondUnit? body ≠ some none := by
  cases h with
  | close => exact ⟨rfl, nofun⟩
  | plain _ hslash _ _ => simp [secondUnit?, hslash]
  | simple hc _ => simp [secondUnit?, ne_of_simpleEscape?_eq_some hc]
  | pair hhigh _ _ _ _ => simp [secondUnit?, hhigh]
  | single hunit _ hbody =>
    obtain ⟨c, rest, rfl⟩ := hbody.exists_cons
    simp [secondUnit?, hunit]

/-- When there is something to be found ahead. -/
theorem ahead_eq_some_iff {unit : Nat} {input : List Char} {o : Option Nat} :
    (if isHighSurrogate unit = true then secondUnit? input else none) = some o ↔
      isHighSurrogate unit = true ∧ secondUnit? input = some o := by
  split_ifs with hhigh <;> simp [hhigh]

/-- What the grammar derives is read, whatever comes after it. -/
theorem quotation_append (h : IsQuoted body q) (start position : Nat) (tail : List Char) :
    quotation start position (body ++ tail) = .ok q := by
  induction h generalizing position with
  | close => rw [List.singleton_append, quotation]
  | plain hquote hslash hcontrol _ ih =>
    rw [List.cons_append, quotation.eq_7 _ _ _ _ hquote (by simp [hslash]) (by simp [hslash])
      (by simp [hslash]) (by simp [hslash]), if_neg (by omega), ih]
    rfl
  | simple hc _ ih =>
    have hu := ne_of_simpleEscape?_eq_some hc
    rw [List.cons_append, List.cons_append, quotation.eq_6 _ _ _ _ (by simp [hu]) hu, hc]
    simp only [ih]
    rfl
  | pair hhigh hishigh hlow hislow hbody ih =>
    obtain ⟨c, rest, rfl⟩ := hbody.exists_cons
    simp only [List.cons_append] at ih ⊢
    rw [quotation]
    simp only [hhigh, hishigh, if_true, secondUnit?, hlow, hislow, List.drop_succ_cons,
      List.drop_zero, ih]
    rfl
  | single hunit halone hbody ih =>
    obtain ⟨hsecond, hgood⟩ := hbody.secondUnit?_append tail
    obtain ⟨c, rest, rfl⟩ := hbody.exists_cons
    simp only [List.cons_append] at ih hsecond ⊢
    rw [quotation]
    simp only [hunit, hsecond]
    split
    · rename_i hahead
      exact absurd (ahead_eq_some_iff.1 hahead).2 hgood
    · rename_i low hahead
      obtain ⟨hhigh, hlow⟩ := ahead_eq_some_iff.1 hahead
      rw [halone hhigh low hlow, if_neg Bool.false_ne_true, ih]
      rfl
    · rw [ih]
      rfl

theorem secondUnit?_eq_some_iff {input : List Char} {o : Option Nat} :
    secondUnit? input = some o ↔ ∃ a b c d next rest,
      input = '\\' :: 'u' :: a :: b :: c :: d :: next :: rest ∧ unit? a b c d = o := by
  constructor
  · intro h
    rw [secondUnit?.eq_def] at h
    split at h
    · cases h
      exact ⟨_, _, _, _, _, _, rfl, rfl⟩
    · cases h
  · rintro ⟨a, b, c, d, next, rest, rfl, rfl⟩
    rfl

/-- An escape by number stands alone when nothing ahead makes a pair of it. -/
theorem exists_single {a b c d : Char} {unit : Nat} {rest tail : List Char}
    (hunit : unit? a b c d = some unit)
    (halone : ∀ low, (if isHighSurrogate unit = true then secondUnit? rest else none) =
      some (some low) → ¬ isLowSurrogate low = true)
    (hrest : rest = body ++ tail) (hbody : IsQuoted body q) :
    ∃ body' tail', '\\' :: 'u' :: a :: b :: c :: d :: rest = body' ++ tail' ∧
      IsQuoted body' (q.cons (unitChar unit) 6) := by
  subst hrest
  refine ⟨_, tail, rfl, .single hunit (fun hhigh low hlow => ?_) hbody⟩
  rw [← (hbody.secondUnit?_append tail).1] at hlow
  rw [← Bool.not_eq_true]
  exact halone low (ahead_eq_some_iff.2 ⟨hhigh, hlow⟩)

/-- What is read is what the grammar derives. -/
theorem of_quotation {input : List Char} {start position : Nat}
    (h : quotation start position input = .ok q) :
    ∃ body tail, input = body ++ tail ∧ IsQuoted body q := by
  induction position, input using quotation.induct generalizing q with
  | case1 position =>
    rw [quotation] at h
    cases h
  | case2 position tail =>
    rw [quotation] at h
    cases h
    exact ⟨_, tail, rfl, .close⟩
  | case3 position a b c d next rest hunit =>
    rw [quotation, hunit] at h
    cases h
  | case4 position a b c d next rest unit hunit hahead =>
    rw [quotation, hunit] at h
    simp only [dite_eq_ite] at hahead
    simp only [hahead] at h
    cases h
  | case5 position a b c d next rest unit hunit second hahead hlow ih =>
    rw [quotation, hunit] at h
    simp only [dite_eq_ite] at hahead
    simp only [hahead, hlow, if_true] at h
    obtain ⟨q', hq', hcons⟩ := bind_eq_ok_iff.1 h
    cases hcons
    obtain ⟨hhigh, hsecond⟩ := ahead_eq_some_iff.1 hahead
    obtain ⟨a', b', c', d', next', rest', hinput, hunit'⟩ := secondUnit?_eq_some_iff.1 hsecond
    obtain ⟨rfl, rfl⟩ := List.cons.inj hinput
    obtain ⟨body, tail, hrest, hbody⟩ := ih hq'
    simp only [List.drop_succ_cons, List.drop_zero] at hrest
    rw [hrest]
    exact ⟨_, tail, rfl, .pair hunit hhigh hunit' hlow hbody⟩
  | case6 position a b c d next rest unit hunit second hahead hlow ih =>
    rw [quotation, hunit] at h
    simp only [dite_eq_ite] at hahead
    simp only [hahead, hlow] at h
    obtain ⟨q', hq', hcons⟩ := bind_eq_ok_iff.1 h
    cases hcons
    obtain ⟨body, tail, hrest, hbody⟩ := ih hq'
    refine exists_single hunit (fun low hlow' => ?_) hrest hbody
    rw [hahead] at hlow'
    cases hlow'
    exact hlow
  | case7 position a b c d next rest unit hunit hahead ih =>
    rw [quotation, hunit] at h
    simp only [dite_eq_ite] at hahead
    simp only [hahead] at h
    obtain ⟨q', hq', hcons⟩ := bind_eq_ok_iff.1 h
    cases hcons
    obtain ⟨body, tail, hrest, hbody⟩ := ih hq'
    exact exists_single hunit (by simp [hahead]) hrest hbody
  | case8 position tail hshort =>
    rw [quotation.eq_4 _ _ _ hshort] at h
    cases h
  | case9 position =>
    rw [quotation] at h
    cases h
  | case10 position c rest hu hu' hnone =>
    rw [quotation.eq_6 _ _ _ _ hu hu', hnone] at h
    cases h
  | case11 position c rest hu hu' c' hc ih =>
    rw [quotation.eq_6 _ _ _ _ hu hu', hc] at h
    obtain ⟨q', hq', hcons⟩ := bind_eq_ok_iff.1 h
    cases hcons
    obtain ⟨body, tail, rfl, hbody⟩ := ih hq'
    exact ⟨_, tail, rfl, .simple hc hbody⟩
  | case12 position c rest h1 h2 h3 h4 h5 hcontrol =>
    rw [quotation.eq_7 _ _ _ _ h1 h2 h3 h4 h5, if_pos hcontrol] at h
    cases h
  | case13 position c rest h1 h2 h3 h4 h5 hcontrol ih =>
    rw [quotation.eq_7 _ _ _ _ h1 h2 h3 h4 h5, if_neg hcontrol] at h
    obtain ⟨q', hq', hcons⟩ := bind_eq_ok_iff.1 h
    cases hcons
    obtain ⟨body, tail, rfl, hbody⟩ := ih hq'
    have hslash : c ≠ '\\' := by
      rintro rfl
      cases hrest : body ++ tail with
      | nil => exact h4 rfl hrest
      | cons c' rest' => exact h5 c' rest' rfl hrest
    exact ⟨_, tail, rfl, .plain h1 hslash (by omega) hbody⟩

end IsQuoted

/-- **A quoted text is read exactly as the grammar says.** -/
theorem quotation_eq_ok_iff {start position : Nat} {input : List Char} {q : Quotation} :
    quotation start position input = .ok q ↔
      ∃ body tail, input = body ++ tail ∧ IsQuoted body q := by
  constructor
  · exact IsQuoted.of_quotation
  · rintro ⟨body, tail, rfl, hbody⟩
    exact hbody.quotation_append start position tail

end Json
end ChainAtlas
