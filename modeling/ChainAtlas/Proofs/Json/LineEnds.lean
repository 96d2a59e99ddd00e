import ChainAtlas.Proofs.Json.Number
import ChainAtlas.Proofs.Json.Tokens
import Mathlib.Data.List.Find

/-!
# Line ends make no difference to a JSON text

Line ends may stand between the tokens of a JSON text and nowhere else: a quoted text with one in
it is refused, after a backslash too, and a number or a word ends where a line ends.  So unifying
them turns white space into white space and moves the tokens, but neither makes nor breaks one
(`sameTokens_unifyLineEnds`).  The reader takes the positions of the tokens for its complaints
only, and thus a text and the one with unified line ends have the same value, or both have none
(`read_unifyLineEnds_eq_ok_iff`).
-/

namespace ChainAtlas
namespace Json

open Text Outcome

/-! ## Words and numbers -/

theorem word?_unifyLineEnds (input : List Char) : word? (unifyLineEnds input) = word? input := by
  have hwords : ∀ word ∈ words, '\n' ∉ word.1 ∧ '\r' ∉ word.1 := by decide
  rw [word?, word?]
  refine congrArg _ (List.find?_congr fun word hword => ?_)
  exact isPrefixOf_unifyLineEnds (hwords word hword).1 (hwords word hword).2 input

theorem scalarToken_unifyLineEnds (input : List Char) :
    scalarToken (unifyLineEnds input) = scalarToken input := by
  rw [scalarToken, scalarToken, word?_unifyLineEnds, numberParts?_unifyLineEnds]

theorem not_mem_take_of_word? {input : List Char} {value : Json} {length : Nat}
    (h : word? input = some (value, length)) : '\r' ∉ input.take length := by
  have hwords : ∀ word ∈ words, '\r' ∉ word.1 := by decide
  obtain ⟨word, hfind, hword⟩ := Option.map_eq_some_iff.1 h
  cases hword
  have hfound : word.1.isPrefixOf input = true :=
    List.find?_some (p := fun word : List Char × Json => word.1.isPrefixOf input) hfind
  have hprefix := List.isPrefixOf_iff_prefix.1 hfound
  rw [← List.prefix_iff_eq_take.1 hprefix]
  exact hwords word (List.mem_of_find?_eq_some hfind)

theorem not_mem_take_of_scalarToken {c : Char} {rest : List Char} {token : Token} {more : Nat}
    (h : scalarToken (c :: rest) = .ok (token, more)) : '\r' ∉ rest.take more := by
  have hdrop : ∀ taken, '\r' ∉ (c :: rest).take taken → '\r' ∉ rest.take (taken - 1) := by
    intro taken hnot hmem
    cases taken with
    | zero => simp at hmem
    | succ n => exact hnot (List.mem_cons_of_mem c hmem)
  rw [scalarToken] at h
  split at h
  · rename_i hword
    cases h
    exact hdrop _ (not_mem_take_of_word? hword)
  · split at h
    · cases h
    · rename_i n hn
      split at h
      · cases h
      · cases h
        exact hdrop _ (not_mem_take_of_numberParts? hn)

/-! ## Tokens -/

variable {c : Char} {rest : List Char} {token : Token} {more : Nat}

/-- **A token is the same before and after line ends are unified behind its first character.** -/
theorem firstToken_unifyLineEnds_eq_ok_iff (hc : c ≠ '\r') (position position' : Nat) :
    firstToken position' (c :: unifyLineEnds rest) = .ok (token, more) ↔
      firstToken position (c :: rest) = .ok (token, more) := by
  rcases firstToken_cases c with ⟨mark, -, hmark⟩ | rfl | hscalar
  · rw [hmark, hmark]
  · rw [firstToken_quote_eq_ok_iff, firstToken_quote_eq_ok_iff]
    constructor
    · rintro ⟨body, tail, q, hrest, hbody, htoken⟩
      obtain ⟨tail', rfl, -⟩ := exists_of_unifyLineEnds_eq_append hbody.not_mem_feed hrest
      exact ⟨body, tail', q, rfl, hbody, htoken⟩
    · rintro ⟨body, tail, q, rfl, hbody, htoken⟩
      exact ⟨body, unifyLineEnds tail, q, unifyLineEnds_append hbody.not_mem_return tail, hbody,
        htoken⟩
  · have hrest := scalarToken_unifyLineEnds (c :: rest)
    rw [unifyLineEnds_cons_of_ne hc] at hrest
    rw [hscalar, hscalar, hrest]

theorem not_mem_take_of_firstToken {position : Nat}
    (h : firstToken position (c :: rest) = .ok (token, more)) : '\r' ∉ rest.take more := by
  rcases firstToken_cases c with ⟨mark, -, hmark⟩ | rfl | hscalar
  · rw [hmark] at h
    cases h
    simp
  · obtain ⟨body, tail, q, rfl, hbody, -, rfl⟩ := firstToken_quote_eq_ok_iff.1 h
    rw [← hbody.length_eq, List.take_left]
    exact hbody.not_mem_return
  · rw [hscalar] at h
    exact not_mem_take_of_scalarToken h

/-- Whether two lists of tokens are the same but for the places of the tokens, and both or neither
go on to the end of the text. -/
def SameTokens (t u : Tokens) : Prop :=
  t.tokens.map Prod.snd = u.tokens.map Prod.snd ∧ (t.ending = .finish ↔ u.ending = .finish)

theorem SameTokens.cons {t u : Tokens} (h : SameTokens t u) (position position' : Nat)
    (token : Token) : SameTokens (t.cons position token) (u.cons position' token) :=
  ⟨congrArg (token :: ·) h.1, h.2⟩

/-- **Unifying line ends moves tokens and does nothing else to them.** -/
theorem sameTokens_unifyLineEnds (position position' : Nat) (input : List Char) :
    SameTokens (tokensFrom position input) (tokensFrom position' (unifyLineEnds input)) := by
  induction position, input using tokensFrom.induct generalizing position' with
  | case1 position =>
    rw [unifyLineEnds_nil, tokensFrom, tokensFrom]
    exact ⟨rfl, Iff.rfl⟩
  | case2 position c rest hspace ih =>
    rw [tokensFrom_space hspace]
    by_cases hreturn : c = '\r'
    · subst hreturn
      -- a carriage return before a line feed disappears, any other becomes a line feed
      rcases unifyLineEnds_return rest with hrest | hrest
      · rw [hrest]
        exact ih position'
      · rw [hrest, tokensFrom_space rfl]
        exact ih (position' + 1)
    · rw [unifyLineEnds_cons_of_ne hreturn, tokensFrom_space hspace]
      exact ih (position' + 1)
  | case3 position c rest hspace ending hending =>
    have hreturn : c ≠ '\r' := by
      rintro rfl
      exact hspace rfl
    have hfinish : ending ≠ .finish := by
      rintro rfl
      exact firstToken_ne_finish position c rest hending
    rw [unifyLineEnds_cons_of_ne hreturn, tokensFrom, tokensFrom, if_neg hspace, if_neg hspace,
      hending]
    cases hfirst : firstToken position' (c :: unifyLineEnds rest) with
    | ok found =>
      obtain ⟨token, more⟩ := found
      rw [firstToken_unifyLineEnds_eq_ok_iff hreturn position position', hending] at hfirst
      cases hfirst
    | error ending' =>
      have hfinish' : ending' ≠ .finish := by
        rintro rfl
        exact firstToken_ne_finish position' c _ hfirst
      exact ⟨rfl, by simp only [hfinish, hfinish']⟩
  | case4 position c rest hspace token more hfirst ih =>
    have hreturn : c ≠ '\r' := by
      rintro rfl
      exact hspace rfl
    have hfirst' := (firstToken_unifyLineEnds_eq_ok_iff hreturn position position').2 hfirst
    rw [unifyLineEnds_cons_of_ne hreturn, tokensFrom, tokensFrom, if_neg hspace, if_neg hspace,
      hfirst, hfirst']
    simp only [unifyLineEnds_drop (not_mem_take_of_firstToken hfirst)]
    exact (ih _).cons _ _ _

/-! ## Reading -/

/-- A step of the reader does not depend on the place of the token. -/
theorem step_eq_ok_iff {state next : State} {token : Token} (position position' : Nat) :
    state.step position token = .ok next ↔ state.step position' token = .ok next := by
  cases state <;> cases token <;> simp [State.step, State.begin]

/-- **A run of the reader does not depend on the places of the tokens.** -/
theorem run_eq_ok_iff {state next : State} {ts us : List (Nat × Token)}
    (h : ts.map Prod.snd = us.map Prod.snd) :
    state.run ts = .ok next ↔ state.run us = .ok next := by
  induction ts generalizing state us with
  | nil =>
    rw [List.map_nil, eq_comm, List.map_eq_nil_iff] at h
    rw [h]
  | cons t ts ih =>
    obtain ⟨u, us, rfl, hhead, htail⟩ := List.map_eq_cons_iff.1 h.symm
    rw [State.run, State.run, List.foldlM_cons, List.foldlM_cons, bind_eq_ok_iff, bind_eq_ok_iff]
    refine exists_congr fun middle => and_congr ?_ (ih htail.symm)
    rw [← hhead]
    exact step_eq_ok_iff _ _

/-- A byte order mark at the start stays there. -/
theorem forall_unifyLineEnds_ne_mark_iff {input : List Char} :
    (∀ tail, unifyLineEnds input ≠ '\ufeff' :: tail) ↔ ∀ tail, input ≠ '\ufeff' :: tail := by
  constructor
  · rintro h tail rfl
    exact h _ (unifyLineEnds_cons_of_ne (by decide) tail)
  · rintro h tail htail
    have hfeed : '\n' ∉ ['\ufeff'] := by decide
    obtain ⟨zs, rfl, -⟩ := exists_of_unifyLineEnds_eq_append hfeed htail
    exact h zs rfl

/-- **Unifying line ends makes no difference to the value of a JSON text**, and none to whether it
has one. -/
theorem read_unifyLineEnds_eq_ok_iff {input : List Char} {value : Json} :
    read (unifyLineEnds input) = .ok value ↔ read input = .ok value := by
  obtain ⟨htokens, hending⟩ := sameTokens_unifyLineEnds 0 0 input
  rw [read_eq_ok_iff, read_eq_ok_iff, forall_unifyLineEnds_ne_mark_iff, tokens, tokens,
    run_eq_ok_iff htokens, hending]

end Json
end ChainAtlas
