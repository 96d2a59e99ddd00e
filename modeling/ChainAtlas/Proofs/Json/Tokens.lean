import ChainAtlas.Json.Reader
import ChainAtlas.Proofs.Json.QuotedText

/-!
# The tokens of a text, and what is read from them

The first character of a token decides what kind of token it is: a bracket or a mark by itself, a
quoted text, or something that is looked up as a word and else read as a number
(`firstToken_cases`).  Whoever proves something about all tokens has these three cases.

A text has a value when it starts with no byte order mark, its tokens go on to its end, and they
take the reader from waiting for a value to being done (`read_eq_ok_iff`).
-/

namespace ChainAtlas
namespace Json

open Outcome

/-! ## First tokens -/

/-- The scalar value that a text starts with, or the reason why there is none. -/
def scalarToken (input : List Char) : Except Ending (Token × Nat) :=
  match word? input with
  | some (value, length) => .ok (.scalar value, length - 1)
  | none =>
    match numberParts? input with
    | none => .error .stray
    | some n =>
      match n.value? with
      | none => .error (.longNumeral n.whole.length)
      | some value => .ok (.scalar value, n.taken - 1)

/-- A first character is a bracket or a mark, which is a token by itself, or a quote, or it may
start a scalar value. -/
theorem firstToken_cases (c : Char) :
    (∃ token, (∀ value, token ≠ .scalar value) ∧
        ∀ position rest, firstToken position (c :: rest) = .ok (token, 0)) ∨
      c = '\x22' ∨ ∀ position rest, firstToken position (c :: rest) = scalarToken (c :: rest) := by
  by_cases hmark : c ∈ ['[', ']', '\x7b', '\x7d', ',', ':']
  · left
    simp only [List.mem_cons, List.not_mem_nil, or_false] at hmark
    rcases hmark with rfl | rfl | rfl | rfl | rfl | rfl <;>
      exact ⟨_, by simp, fun _ _ => rfl⟩
  · simp only [List.mem_cons, List.not_mem_nil, or_false, not_or] at hmark
    by_cases hquote : c = '\x22'
    · exact Or.inr (Or.inl hquote)
    · refine Or.inr (Or.inr fun position rest => ?_)
      rw [firstToken.eq_9 _ _ (by simp) (by simp [hmark]) (by simp [hmark]) (by simp [hmark])
        (by simp [hmark]) (by simp [hmark]) (by simp [hmark]) (by simp [hquote])]
      rfl

theorem firstToken_quote_eq_ok_iff {position more : Nat} {rest : List Char} {token : Token} :
    firstToken position ('\x22' :: rest) = .ok (token, more) ↔
      ∃ body tail q, rest = body ++ tail ∧ IsQuoted body q ∧ token = .text (String.ofList q.value) ∧
        more = q.taken := by
  rw [firstToken]
  cases h : quotation position (position + 1) rest with
  | error fault =>
    simp only [reduceCtorEq, false_iff]
    rintro ⟨body, tail, q, rfl, hbody, -⟩
    rw [hbody.quotation_append] at h
    cases h
  | ok q =>
    simp only [Except.ok.injEq, Prod.mk.injEq]
    constructor
    · rintro ⟨rfl, rfl⟩
      obtain ⟨body, tail, rfl, hbody⟩ := quotation_eq_ok_iff.1 h
      exact ⟨body, tail, q, rfl, hbody, rfl, rfl⟩
    · rintro ⟨body, tail, q', rfl, hbody, rfl, rfl⟩
      rw [hbody.quotation_append] at h
      cases h
      exact ⟨rfl, rfl⟩

theorem scalarToken_ne_finish (input : List Char) : scalarToken input ≠ .error .finish := by
  rw [scalarToken]
  split
  · nofun
  · split
    · nofun
    · split <;> nofun

theorem firstToken_ne_finish (position : Nat) (c : Char) (rest : List Char) :
    firstToken position (c :: rest) ≠ .error .finish := by
  rcases firstToken_cases c with ⟨mark, -, hmark⟩ | rfl | hscalar
  · rw [hmark]
    nofun
  · rw [firstToken]
    split <;> nofun
  · rw [hscalar]
    exact scalarToken_ne_finish _

/-! ## One token after another -/

/-- A token, and what comes after it. -/
theorem tokensFrom_of_firstToken {c : Char} {rest : List Char} {position more : ℕ} {token : Token}
    (hspace : isSpace c = false) (h : firstToken position (c :: rest) = .ok (token, more)) :
    tokensFrom position (c :: rest) =
      (tokensFrom (position + 1 + more) (rest.drop more)).cons position token := by
  rw [tokensFrom, if_neg (by simp [hspace]), h]

/-- A quoted text, and what comes after it. -/
theorem tokensFrom_quote {body : List Char} {q : Quotation} (h : IsQuoted body q) (position : ℕ)
    (tail : List Char) :
    tokensFrom position ('\x22' :: (body ++ tail)) =
      (tokensFrom (position + 1 + q.taken) tail).cons position
        (.text (String.ofList q.value)) := by
  have hfirst : firstToken position ('\x22' :: (body ++ tail)) =
      .ok (.text (String.ofList q.value), q.taken) :=
    firstToken_quote_eq_ok_iff.2 ⟨body, tail, q, rfl, h, rfl, rfl⟩
  rw [tokensFrom_of_firstToken rfl hfirst, ← h.length_eq, List.drop_left]

/-! ## Values -/

theorem finish_eq_ok_iff {state : State} {position : Nat} {ending : Ending} {value : Json} :
    state.finish position ending = .ok value ↔ state = .done value ∧ ending = .finish := by
  cases state <;> cases ending <;> simp [State.finish]

theorem tokensValue_eq_ok_iff {t : Tokens} {value : Json} :
    t.value = .ok value ↔
      State.run (.wantValue []) t.tokens = .ok (.done value) ∧ t.ending = .finish := by
  rw [Tokens.value]
  cases State.run (.wantValue []) t.tokens with
  | error fault => simp
  | ok state => simp [finish_eq_ok_iff]

/-- **When a text has a value.** -/
theorem read_eq_ok_iff {input : List Char} {value : Json} :
    read input = .ok value ↔
      (∀ tail, input ≠ '\ufeff' :: tail) ∧
        State.run (.wantValue []) (tokens input).tokens = .ok (.done value) ∧
          (tokens input).ending = .finish := by
  rw [read, mapError_eq_ok_iff, ← tokensValue_eq_ok_iff]
  by_cases hmark : ∃ tail, input = '\ufeff' :: tail
  · obtain ⟨tail, rfl⟩ := hmark
    simp [parse]
  · rw [parse.eq_2 _ (not_exists.1 hmark)]
    exact (and_iff_right (not_exists.1 hmark)).symm

/-- An object whose one member is a text, nothing being escaped. -/
theorem read_object_of_isPlain {name value : List Char} (hname : name.all isPlain = true)
    (hvalue : value.all isPlain = true) :
    read ('\x7b' :: '\x22' :: ((name ++ ['\x22']) ++
        ':' :: '\x22' :: ((value ++ ['\x22']) ++ ['\x7d']))) =
      .ok (.object [(String.ofList name, .text (String.ofList value))]) := by
  rw [read_eq_ok_iff, tokens, tokensFrom_of_firstToken rfl rfl, List.drop_zero,
    tokensFrom_quote (.of_isPlain hname), tokensFrom_of_firstToken rfl rfl, List.drop_zero,
    tokensFrom_quote (.of_isPlain hvalue), tokensFrom_of_firstToken rfl rfl, List.drop_zero,
    tokensFrom]
  exact ⟨by simp, rfl, rfl⟩

end Json
end ChainAtlas
