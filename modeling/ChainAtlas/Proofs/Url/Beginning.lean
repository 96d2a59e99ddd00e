import ChainAtlas.Proofs.Document.Schema
import ChainAtlas.Proofs.Url.Scheme

/-!
# The transport is told by the beginning of a URL

The scheme of a URL is split off at the first colon, after a look at every character in front of it,
and brought to lower case.  For the schemes that select a transport this is nothing but a test of
the beginning: a tidy URL begins with the scheme and a colon, in letters of either case
(`Url.eq_scheme_iff_beginsWith`).  Only ASCII letters have two cases here, so a letter that merely
looks like one of them does not count.

What comes after a colon can get a URL refused, but where it does not, it makes no difference
(`Url.splitScheme_fst_congr`).
-/

namespace ChainAtlas

namespace Url

variable {url : String} {mark : String} {before rest rest' text word scheme : List Char}

/-! ## Beginnings -/

/-- Whether a text begins with a mark in small letters, its own letters being of either case. -/
def BeginsWith (mark : String) (text : List Char) : Prop := mark.toList <+: text.map Char.toLower

instance : Decidable (BeginsWith mark text) :=
  inferInstanceAs (Decidable (mark.toList <+: text.map Char.toLower))

theorem toLower_eq_colon {c : Char} (h : c.toLower = ':') : c = ':' := by
  by_cases hupper : c.isUpper = true
  · have hsmall : c.toLower.isLower = true := by
      rw [Char.isLower_toLower_eq_isAlpha, Char.isAlpha, hupper]
      rfl
    rw [h] at hsmall
    cases hsmall
  · rwa [Char.toLower_eq_of_not_isUpper hupper] at h

/-- A text begins with a word and a colon where the word can be split off at a colon. -/
theorem beginsWith_colon_iff :
    BeginsWith (String.ofList word ++ ":") text ↔
      ∃ typed rest, text = typed ++ ':' :: rest ∧ typed.map Char.toLower = word := by
  have hmark : (String.ofList word ++ ":").toList = word ++ [':'] := by
    rw [String.toList_append, String.toList_ofList]
    rfl
  rw [BeginsWith, hmark]
  constructor
  · rintro ⟨after, h⟩
    rw [List.append_assoc, eq_comm, List.map_eq_append_iff] at h
    obtain ⟨typed, tail, rfl, htyped, htail⟩ := h
    obtain ⟨c, rest, rfl, hc, -⟩ := List.map_eq_cons_iff.1 htail
    rw [toLower_eq_colon hc]
    exact ⟨typed, rest, rfl, htyped⟩
  · rintro ⟨typed, rest, rfl, rfl⟩
    exact ⟨rest.map Char.toLower, by simp⟩

/-- **A URL that is not refused has the scheme that it begins with.** -/
theorem eq_scheme_iff_beginsWith (h : Url.scheme url = .ok scheme) (hne : word ≠ [])
    (halpha : ∀ c ∈ word, c.isAlpha = true) :
    scheme = word ↔ BeginsWith (String.ofList word ++ ":") (tidy url.toList) := by
  rw [← (scheme_eq_ok_iff_splitScheme.1 h).1, beginsWith_colon_iff]
  constructor
  · intro hword
    obtain ⟨typed, hinput, htyped⟩ := (splitScheme_eq_iff hne halpha).1 (Prod.ext hword rfl)
    exact ⟨typed, _, hinput, htyped⟩
  · rintro ⟨typed, rest, hinput, htyped⟩
    rw [(splitScheme_eq_iff hne halpha).2 ⟨typed, hinput, htyped⟩]

/-- **What comes after a colon makes no difference to the scheme that is split off.** -/
theorem splitScheme_fst_congr (before rest rest' : List Char) :
    (splitScheme (before ++ ':' :: rest)).1 = (splitScheme (before ++ ':' :: rest')).1 := by
  have hcandidate : ∀ after, (before ++ ':' :: after).takeWhile (· != ':') =
      before.takeWhile (· != ':') := by
    intro after
    rw [List.takeWhile_append]
    split_ifs with hlength
    · rw [List.takeWhile_cons_of_neg (by simp), List.append_nil,
        (List.takeWhile_prefix _).eq_of_length hlength]
    · rfl
  have hshort : ∀ after,
      (before.takeWhile (· != ':')).length < (before ++ ':' :: after).length := by
    intro after
    have hle := (List.takeWhile_prefix (· != ':') (l := before)).length_le
    rw [List.length_append, List.length_cons]
    omega
  simp only [splitScheme, hcandidate, hshort, decide_true, Bool.true_and]
  split <;> rfl

end Url

namespace Document

open Url

variable {url url' : String} {scheme scheme' : List Char} {p : Protocol}

/-! ## Transports -/

/-- The transport of a URL that is not refused is the one that its scheme selects. -/
theorem inferProtocol_of_scheme (h : Url.scheme url = .ok scheme) :
    inferProtocol url = .ok p ↔ Protocol.ofScheme? scheme = some p := by
  rw [inferProtocol_eq_ok_iff, SelectsByScheme, ofScheme?_eq_some_iff, h]
  simp only [Except.ok.injEq]

theorem inferProtocol_of_no_transport (h : Url.scheme url = .ok scheme)
    (hno : ∀ p, inferProtocol url ≠ .ok p) : inferProtocol url = .error (.unknownScheme url) := by
  have hnone : Protocol.ofScheme? scheme = none :=
    Option.eq_none_iff_forall_ne_some.2 fun p hp => hno p ((inferProtocol_of_scheme h).2 hp)
  simp only [inferProtocol, h, hnone]

/-- **A URL selects a transport exactly when it begins with a scheme of that transport.** -/
theorem inferProtocol_eq_ok_iff_beginsWith (h : Url.scheme url = .ok scheme) :
    inferProtocol url = .ok p ↔
      ∃ word ∈ schemesOf p, BeginsWith (word ++ ":") (tidy url.toList) := by
  rw [inferProtocol_of_scheme h, ofScheme?_eq_some_iff]
  refine exists_congr fun word => and_congr_right fun hmem => ?_
  obtain ⟨hne, halpha⟩ := isAlpha_of_mem_schemesOf hmem
  rw [eq_scheme_iff_beginsWith h hne halpha, String.ofList_toList]

/-- URLs that are the same up to a colon select the same transport. -/
theorem inferProtocol_congr (h : Url.scheme url = .ok scheme) (h' : Url.scheme url' = .ok scheme')
    {before rest rest' : List Char} (hurl : tidy url.toList = before ++ ':' :: rest)
    (hurl' : tidy url'.toList = before ++ ':' :: rest') :
    inferProtocol url = .ok p ↔ inferProtocol url' = .ok p := by
  have hsame : scheme = scheme' := by
    rw [← (scheme_eq_ok_iff_splitScheme.1 h).1, ← (scheme_eq_ok_iff_splitScheme.1 h').1, hurl,
      hurl', splitScheme_fst_congr before rest rest']
  rw [inferProtocol_of_scheme h, inferProtocol_of_scheme h', hsame]

/-- **The beginning of a URL decides.**  Where a URL is not refused as such, its transport is told
by what it begins with once it is tidy; any other beginning is reported as a scheme that is not
known; and what comes after a colon makes no difference. -/
theorem inferProtocol_by_beginning (url : String) (h : ∃ scheme, Url.scheme url = .ok scheme) :
    (inferProtocol url = .ok .http ↔
      BeginsWith "http:" (tidy url.toList) ∨ BeginsWith "https:" (tidy url.toList)) ∧
    (inferProtocol url = .ok .websocket ↔
      BeginsWith "ws:" (tidy url.toList) ∨ BeginsWith "wss:" (tidy url.toList)) ∧
    ((∀ mark ∈ ["http:", "https:", "ws:", "wss:"], ¬ BeginsWith mark (tidy url.toList)) →
      inferProtocol url = .error (.unknownScheme url) ∧
        (Fault.unknownScheme url).kind = .malformedDocument) ∧
    ∀ url' before rest rest', (∃ scheme, Url.scheme url' = .ok scheme) →
      tidy url.toList = before ++ ':' :: rest → tidy url'.toList = before ++ ':' :: rest' →
        ∀ p, inferProtocol url = .ok p ↔ inferProtocol url' = .ok p := by
  obtain ⟨scheme, hscheme⟩ := h
  have hhttp : inferProtocol url = .ok .http ↔
      BeginsWith "http:" (tidy url.toList) ∨ BeginsWith "https:" (tidy url.toList) := by
    simp only [inferProtocol_eq_ok_iff_beginsWith hscheme, schemesOf, List.mem_cons,
      List.not_mem_nil, or_false, exists_eq_or_imp, exists_eq_left, String.reduceAppend]
  have hsocket : inferProtocol url = .ok .websocket ↔
      BeginsWith "ws:" (tidy url.toList) ∨ BeginsWith "wss:" (tidy url.toList) := by
    simp only [inferProtocol_eq_ok_iff_beginsWith hscheme, schemesOf, List.mem_cons,
      List.not_mem_nil, or_false, exists_eq_or_imp, exists_eq_left, String.reduceAppend]
  refine ⟨hhttp, hsocket,
    fun hno => ⟨inferProtocol_of_no_transport hscheme fun p hp => ?_, rfl⟩, ?_⟩
  · cases p with
    | http => exact (hhttp.1 hp).elim (hno _ (by simp)) (hno _ (by simp))
    | websocket => exact (hsocket.1 hp).elim (hno _ (by simp)) (hno _ (by simp))
  · rintro url' before rest rest' ⟨scheme', hscheme'⟩ hurl hurl' p
    exact inferProtocol_congr hscheme hscheme' hurl hurl'

/-- Blanks in front, a line end inside and a capital do not hide the scheme of a socket; a scheme
that only begins like one is not known. -/
theorem inferProtocol_of_tabbed :
    (∃ scheme, Url.scheme " \tWs\n:x" = .ok scheme) ∧
      inferProtocol " \tWs\n:x" = .ok .websocket ∧
    (∃ scheme, Url.scheme "Ws://host?a=b:c" = .ok scheme) ∧
      inferProtocol "Ws://host?a=b:c" = .ok .websocket ∧
    (∃ scheme, Url.scheme "httpx://host" = .ok scheme) ∧
      inferProtocol "httpx://host" = .error (.unknownScheme "httpx://host") := by
  have htabbed : ∃ scheme, Url.scheme " \tWs\n:x" = .ok scheme := ⟨['w', 's'], by decide +kernel⟩
  have hplain : ∃ scheme, Url.scheme "Ws://host?a=b:c" = .ok scheme :=
    ⟨['w', 's'], by decide +kernel⟩
  have hlonger : ∃ scheme, Url.scheme "httpx://host" = .ok scheme :=
    ⟨"httpx".toList, by decide +kernel⟩
  obtain ⟨-, hsocket, -, hcongr⟩ := inferProtocol_by_beginning " \tWs\n:x" htabbed
  obtain ⟨-, -, hunknown, -⟩ := inferProtocol_by_beginning "httpx://host" hlonger
  have hinfer : inferProtocol " \tWs\n:x" = .ok .websocket :=
    hsocket.2 (Or.inl (by decide +kernel))
  refine ⟨htabbed, hinfer, hplain, ?_, hlonger, (hunknown (by decide +kernel)).1⟩
  exact (hcongr "Ws://host?a=b:c" ['W', 's'] ['x'] "//host?a=b:c".toList hplain rfl rfl _).1 hinfer

end Document
end ChainAtlas
