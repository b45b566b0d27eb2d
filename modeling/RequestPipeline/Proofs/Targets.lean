import Mathlib.Data.List.Basic
import Mathlib.Data.List.TakeWhile
import RequestPipeline.Proofs.DefaultPipeline

/-!
# Schemes and targets

An endpoint gets a scheme unless something stands in front of a colon with two slashes, which is
more than a scheme: any text without a colon counts as one, so that an endpoint with such slashes
in its path or its query gets none.  `Url.scheme_is_detected_iff` says for which endpoints that is
right.

The target of a request is cut and joined at question marks and slashes only.
`CoreHook.targets_are_joined` proves what it has of the endpoint and of the path, and that a scheme
in front of the endpoint is one in front of the target, unless nothing but a query is behind it.
-/

namespace RequestPipeline

variable {κ μ : Type}

namespace Url

variable {mark : Char} {s front back : List Char}

/-! ## Cutting at a mark -/

/-- A text without the mark, or the parts around its first one. -/
theorem mem_cases (mark : Char) (s : List Char) :
    mark ∉ s ∨ ∃ front back, s = front ++ mark :: back ∧ mark ∉ front := by
  by_cases h : mark ∈ s
  · exact .inr (List.eq_append_cons_of_mem h)
  · exact .inl h

theorem bne_of_not_mem (h : mark ∉ s) : ∀ c ∈ s, (c != mark) = true := by
  intro c hc
  exact bne_iff_ne.2 (ne_of_mem_of_not_mem hc h)

theorem takeWhile_of_not_mem (h : mark ∉ s) : s.takeWhile (· != mark) = s :=
  List.takeWhile_eq_self_iff.2 (bne_of_not_mem h)

theorem dropWhile_of_not_mem (h : mark ∉ s) : s.dropWhile (· != mark) = [] :=
  List.dropWhile_eq_nil_iff.2 (bne_of_not_mem h)

theorem takeWhile_of_mark (h : mark ∉ front) (back : List Char) :
    (front ++ mark :: back).takeWhile (· != mark) = front := by
  rw [List.takeWhile_append_of_pos (bne_of_not_mem h)]
  simp

theorem dropWhile_of_mark (h : mark ∉ front) (back : List Char) :
    (front ++ mark :: back).dropWhile (· != mark) = mark :: back := by
  rw [List.dropWhile_append_of_pos (bne_of_not_mem h)]
  simp

theorem not_mem_takeWhile (mark : Char) (s : List Char) : mark ∉ s.takeWhile (· != mark) :=
  fun hmem => by simpa using List.all_eq_true.1 List.all_takeWhile mark hmem

theorem cut_of_not_mem (h : mark ∉ s) : cut mark s = (s, none) := by
  rw [cut, dropWhile_of_not_mem h]

theorem cut_of_mark (h : mark ∉ front) (back : List Char) :
    cut mark (front ++ mark :: back) = (front, some back) := by
  rw [cut, dropWhile_of_mark h, takeWhile_of_mark h]

theorem cut_fst (mark : Char) (s : List Char) : (cut mark s).1 = s.takeWhile (· != mark) := by
  obtain h | ⟨front, back, rfl, h⟩ := mem_cases mark s
  · rw [cut_of_not_mem h, takeWhile_of_not_mem h]
  · rw [cut_of_mark h, takeWhile_of_mark h]

theorem cut_snd (mark : Char) (s : List Char) :
    (cut mark s).2.getD [] = (s.dropWhile (· != mark)).tail := by
  obtain h | ⟨front, back, rfl, h⟩ := mem_cases mark s
  · rw [cut_of_not_mem h, dropWhile_of_not_mem h]
    rfl
  · rw [cut_of_mark h, dropWhile_of_mark h]
    rfl

/-! ## Schemes -/

/-- A letter, with letters, digits and three marks behind it. -/
def IsUriScheme (s : List Char) : Prop :=
  ∃ first rest, s = first :: rest ∧ first.isAlpha = true ∧
    ∀ c ∈ rest, c.isAlphanum = true ∨ c ∈ ['+', '-', '.']

/-- The endpoint begins with a scheme, a colon and two slashes. -/
def BeginsWithScheme (endpoint : List Char) : Prop :=
  ∃ scheme rest, endpoint = scheme ++ "://".toList ++ rest ∧ IsUriScheme scheme

/-- What is made of an endpoint is the endpoint itself if that begins with a scheme and only then,
and otherwise has the scheme that is meant in front. -/
structure Detects (endpoint : List Char) (disableSsl : Bool) (result : List Char) : Prop where
  kept : result = endpoint ↔ BeginsWithScheme endpoint
  added : ¬ BeginsWithScheme endpoint →
    result = (if disableSsl then "http://" else "https://").toList ++ endpoint

theorem IsUriScheme.ne_nil (h : IsUriScheme s) : s ≠ [] := by
  obtain ⟨first, rest, rfl, -⟩ := h
  exact List.cons_ne_nil _ _

theorem IsUriScheme.colon_not_mem (h : IsUriScheme s) : ':' ∉ s := by
  obtain ⟨first, rest, rfl, hfirst, hrest⟩ := h
  intro hmem
  rcases List.mem_cons.1 hmem with rfl | hmem
  · cases hfirst
  · rcases hrest _ hmem with hc | hc
    · cases hc
    · simp at hc

theorem hasScheme_iff {endpoint : List Char} :
    hasScheme endpoint = true ↔ ∃ front rest, endpoint = front ++ "://".toList ++ rest ∧
      front ≠ [] ∧ ':' ∉ front := by
  constructor
  · intro h
    obtain hnone | ⟨front, back, rfl, hfront⟩ := mem_cases ':' endpoint
    · simp [hasScheme, cut_of_not_mem hnone] at h
    · rw [hasScheme, cut_of_mark hfront] at h
      split at h
      · rename_i c before rest heq
        obtain ⟨rfl, hback⟩ := Prod.mk.inj heq
        obtain rfl := Option.some.inj hback
        exact ⟨c :: before, rest, by simp, List.cons_ne_nil _ _, hfront⟩
      · cases h
  · rintro ⟨front, rest, rfl, hsome, hfront⟩
    have hcut : cut ':' (front ++ "://".toList ++ rest) = (front, some ('/' :: '/' :: rest)) := by
      rw [List.append_assoc]
      exact cut_of_mark hfront _
    obtain ⟨c, before, rfl⟩ := List.exists_cons_of_ne_nil hsome
    simp only [hasScheme, hcut]

theorem impliedScheme_eq (disableSsl : Bool) :
    impliedScheme disableSsl = (if disableSsl then "http://" else "https://").toList := by
  cases disableSsl <;> rfl

theorem impliedScheme_ne_nil (disableSsl : Bool) : impliedScheme disableSsl ≠ [] := by
  cases disableSsl <;> exact List.cons_ne_nil _ _

theorem withScheme_eq_self_iff {endpoint : List Char} {disableSsl : Bool} :
    withScheme endpoint disableSsl = endpoint ↔ hasScheme endpoint = true := by
  rw [withScheme]
  split
  · simp_all
  · simp_all [impliedScheme_ne_nil]

theorem withScheme_of_not {endpoint : List Char} {disableSsl : Bool}
    (h : withScheme endpoint disableSsl ≠ endpoint) :
    withScheme endpoint disableSsl = impliedScheme disableSsl ++ endpoint := by
  rw [ne_eq, withScheme_eq_self_iff] at h
  rw [withScheme, if_neg h]

theorem BeginsWithScheme.hasScheme {endpoint : List Char} (h : BeginsWithScheme endpoint) :
    hasScheme endpoint = true := by
  obtain ⟨scheme, rest, rfl, hscheme⟩ := h
  exact hasScheme_iff.2 ⟨scheme, rest, rfl, hscheme.ne_nil, hscheme.colon_not_mem⟩

/-- The text in front of the first colon is fixed by the endpoint. -/
theorem front_unique {front' rest rest' : List Char} (hfront : ':' ∉ front) (hfront' : ':' ∉ front')
    (h : front ++ "://".toList ++ rest = front' ++ "://".toList ++ rest') : front = front' := by
  have htake := congrArg (List.takeWhile (· != ':')) h
  rw [List.append_assoc, List.append_assoc] at htake
  exact (takeWhile_of_mark hfront _).symm.trans (htake.trans (takeWhile_of_mark hfront' _))

/-- An endpoint is left as it is if any text without a colon stands in front of a colon with two
slashes, and gets a scheme otherwise.  Schemes are detected by that if and only if this text, where
there is one, is a scheme. -/
theorem scheme_is_detected_iff (endpoint : List Char) (disableSsl : Bool) :
    (withScheme endpoint disableSsl = endpoint ↔ ∃ front rest,
      endpoint = front ++ "://".toList ++ rest ∧ front ≠ [] ∧ ':' ∉ front) ∧
    (withScheme endpoint disableSsl ≠ endpoint → withScheme endpoint disableSsl =
      (if disableSsl then "http://" else "https://").toList ++ endpoint) ∧
    (Detects endpoint disableSsl (withScheme endpoint disableSsl) ↔
      ∀ front rest, endpoint = front ++ "://".toList ++ rest → front ≠ [] → ':' ∉ front →
        IsUriScheme front) := by
  have hadded : withScheme endpoint disableSsl ≠ endpoint → withScheme endpoint disableSsl =
      (if disableSsl then "http://" else "https://").toList ++ endpoint := by
    rw [← impliedScheme_eq]
    exact withScheme_of_not
  refine ⟨withScheme_eq_self_iff.trans hasScheme_iff, hadded, fun hdetects => ?_, fun hall => ?_⟩
  · intro front rest hendpoint hsome hfront
    have hkept : withScheme endpoint disableSsl = endpoint :=
      withScheme_eq_self_iff.2 (hasScheme_iff.2 ⟨front, rest, hendpoint, hsome, hfront⟩)
    obtain ⟨scheme, rest', hendpoint', hscheme⟩ := hdetects.kept.1 hkept
    obtain rfl := front_unique hfront hscheme.colon_not_mem (hendpoint.symm.trans hendpoint')
    exact hscheme
  · have hiff : withScheme endpoint disableSsl = endpoint ↔ BeginsWithScheme endpoint := by
      refine ⟨fun hkept => ?_, fun hbegins => withScheme_eq_self_iff.2 hbegins.hasScheme⟩
      obtain ⟨front, rest, hendpoint, hsome, hfront⟩ :=
        hasScheme_iff.1 (withScheme_eq_self_iff.1 hkept)
      exact ⟨front, rest, hendpoint, hall front rest hendpoint hsome hfront⟩
    exact ⟨hiff, fun hnone => hadded fun hkept => hnone (hiff.1 hkept)⟩

/-- The query of an endpoint without a scheme is taken for the rest of one. -/
theorem scheme_in_query_is_taken :
    let endpoint := "api.example.com/redirect?u=http://x.io".toList
    ¬ BeginsWithScheme endpoint ∧ withScheme endpoint false = endpoint ∧
      ¬ Detects endpoint false (withScheme endpoint false) := by
  intro endpoint
  have hnone : ¬ BeginsWithScheme endpoint := by
    rintro ⟨scheme, rest, hendpoint, hscheme⟩
    have hfront : scheme = "api.example.com/redirect?u=http".toList :=
      front_unique hscheme.colon_not_mem (by decide)
        (hendpoint.symm.trans (rfl : endpoint = _ ++ "://".toList ++ "x.io".toList))
    obtain ⟨first, rest, hparts, -, hrest⟩ := hscheme
    obtain ⟨-, rfl⟩ := List.cons.inj (hparts.symm.trans hfront)
    simpa using hrest '/' (by decide)
  have hkept : withScheme endpoint false = endpoint := by decide
  exact ⟨hnone, hkept, fun hdetects => hnone (hdetects.kept.1 hkept)⟩

/-! ## Targets -/

/-- The target of an endpoint and a path that is not empty has the query of the path and no other
one, behind the two texts without their queries, of whose slashes at the seam only one is left. -/
structure IsJoined (endpoint path target : List Char) : Prop where
  query : (target.dropWhile (· != '?')).tail = (path.dropWhile (· != '?')).tail
  bare : (path.dropWhile (· != '?')).tail = [] → '?' ∉ target
  base : let front := endpoint.takeWhile (· != '?')
    let back := path.takeWhile (· != '?')
    target.takeWhile (· != '?') =
      if front.getLast? = some '/' ∧ back.head? = some '/' then front ++ back.tail
      else front ++ back

theorem seam_eq (front back : List Char) :
    seam front back =
      if front.getLast? = some '/' ∧ back.head? = some '/' then front ++ back.tail
      else front ++ back := by
  unfold seam
  split
  · simp
  · rename_i hother
    have hhead : back.head? ≠ some '/' := by
      intro hhead
      obtain ⟨rest, rfl⟩ := List.head?_eq_some_iff.1 hhead
      exact hother rest rfl
    rw [if_neg fun h => hhead h.2]

theorem mem_of_mem_seam {c : Char} (h : c ∈ seam front back) : c ∈ front ∨ c ∈ back := by
  rw [seam_eq] at h
  split at h
  · exact (List.mem_append.1 h).imp id List.mem_of_mem_tail
  · exact List.mem_append.1 h

/-- A scheme in front does not matter at the seam, if something else stands there. -/
theorem seam_append (scheme : List Char) (hfront : front ≠ []) :
    seam (scheme ++ front) back = scheme ++ seam front back := by
  simp only [seam_eq, List.getLast?_append_of_ne_nil scheme hfront]
  split <;> exact List.append_assoc ..

theorem beforeQuery_eq (s : List Char) : beforeQuery s = s.takeWhile (· != '?') := cut_fst '?' s

theorem afterQuery_eq (s : List Char) : afterQuery s = (s.dropWhile (· != '?')).tail :=
  cut_snd '?' s

theorem joinPath_eq {path : List Char} (hpath : path ≠ []) (endpoint : List Char) :
    joinPath endpoint path = seam (beforeQuery endpoint) (beforeQuery path) ++
      if (afterQuery path).isEmpty then [] else '?' :: afterQuery path := by
  obtain ⟨c, rest, rfl⟩ := List.exists_cons_of_ne_nil hpath
  simp only [joinPath, List.isEmpty_cons, Bool.false_eq_true, if_false]
  split
  · rw [List.append_nil]
  · rfl

theorem isJoined_joinPath {path : List Char} (hpath : path ≠ []) (endpoint : List Char) :
    IsJoined endpoint path (joinPath endpoint path) := by
  rw [joinPath_eq hpath, afterQuery_eq, beforeQuery_eq, beforeQuery_eq]
  generalize hfront : endpoint.takeWhile (· != '?') = front
  generalize hback : path.takeWhile (· != '?') = back
  have hbase : '?' ∉ seam front back := by
    intro hmem
    rcases mem_of_mem_seam hmem with hmem | hmem
    · exact not_mem_takeWhile '?' endpoint (hfront ▸ hmem)
    · exact not_mem_takeWhile '?' path (hback ▸ hmem)
  cases hquery : (path.dropWhile (· != '?')).tail with
  | nil =>
    simp only [List.isEmpty_nil, if_true, List.append_nil]
    refine ⟨?_, fun _ => hbase, ?_⟩
    · rw [dropWhile_of_not_mem hbase, hquery, List.tail_nil]
    · rw [takeWhile_of_not_mem hbase, hfront, hback]
      exact seam_eq front back
  | cons c rest =>
    simp only [List.isEmpty_cons, Bool.false_eq_true, if_false]
    refine ⟨?_, fun hbare => ?_, ?_⟩
    · rw [dropWhile_of_mark hbase, hquery, List.tail_cons]
    · rw [hquery] at hbare
      cases hbare
    · rw [takeWhile_of_mark hbase, hfront, hback]
      exact seam_eq front back

/-- A scheme in front of an endpoint is one in front of the target. -/
theorem joinPath_append {scheme endpoint : List Char} (hscheme : '?' ∉ scheme)
    (hendpoint : endpoint.takeWhile (· != '?') ≠ []) (path : List Char) :
    joinPath (scheme ++ endpoint) path = scheme ++ joinPath endpoint path := by
  by_cases hpath : path = []
  · subst hpath
    rfl
  · have hbefore : beforeQuery (scheme ++ endpoint) = scheme ++ beforeQuery endpoint := by
      rw [beforeQuery_eq, beforeQuery_eq, List.takeWhile_append_of_pos (bne_of_not_mem hscheme)]
    rw [← beforeQuery_eq] at hendpoint
    rw [joinPath_eq hpath, joinPath_eq hpath, hbefore, seam_append scheme hendpoint,
      List.append_assoc]

/-- The scheme that is put in front of an endpoint, if any. -/
theorem exists_scheme (endpoint : List Char) (disableSsl : Bool) :
    ∃ scheme, (scheme = [] ∨ scheme = impliedScheme disableSsl) ∧
      withScheme endpoint disableSsl = scheme ++ endpoint := by
  rw [withScheme]
  split
  · exact ⟨[], .inl rfl, rfl⟩
  · exact ⟨_, .inr rfl, rfl⟩

theorem hasScheme_withScheme (endpoint : List Char) (disableSsl : Bool) :
    hasScheme (withScheme endpoint disableSsl) = true := by
  rw [withScheme]
  split
  · assumption
  · cases disableSsl
    · exact hasScheme_iff.2 ⟨"https".toList, endpoint, rfl, by decide, by decide⟩
    · exact hasScheme_iff.2 ⟨"http".toList, endpoint, rfl, by decide, by decide⟩

theorem withScheme_withScheme (endpoint : List Char) (disableSsl : Bool) :
    withScheme (withScheme endpoint disableSsl) disableSsl = withScheme endpoint disableSsl :=
  withScheme_eq_self_iff.2 (hasScheme_withScheme endpoint disableSsl)

end Url

namespace CoreHook

open Step

theorem url_create (config : Config) (hooks : Hooks κ) (operation : Operation) (params data : Value)
    (output : Option Output) (retryer : Retryer) (failures : Failures) :
    (Request.create config hooks operation params data output retryer failures).1.url =
      Request.target config.endpoint operation.path := by
  simp only [Request.create]
  split <;> rfl

/-- The target of an endpoint and a path is the two joined; behind the hook that puts a scheme in
front of the endpoint it is the one that a request has when it is made, with the same scheme in
front, and it stays so when the hook runs again. -/
theorem targets_are_joined (endpoint path : String) (s : Session κ μ) (hooks : Hooks κ)
    (params data : Value) (output : Option Output) (retryer : Retryer) (failures : Failures) :
    (path ≠ "" → Url.IsJoined endpoint.toList path.toList (Request.target endpoint path).toList) ∧
    Request.target endpoint "" = endpoint ∧
    let r := s.request
    let given :=
      (Request.create r.config hooks r.operation params data output retryer failures).1.url
    ∃ (scheme : List Char) (s' : Session κ μ),
      (perform .resolveEndpoint).run s = (.ok (), s') ∧
      (scheme = [] ∨ scheme = Url.impliedScheme r.config.disableSsl) ∧
      Url.withScheme r.config.endpoint.toList r.config.disableSsl =
        scheme ++ r.config.endpoint.toList ∧
      s'.request.config.endpoint.toList = scheme ++ r.config.endpoint.toList ∧
      (r.config.endpoint.toList.takeWhile (· != '?') ≠ [] →
        s'.request.url.toList = scheme ++ given.toList) ∧
      (perform .resolveEndpoint).run s' = (.ok (), s') := by
  refine ⟨fun hpath => ?_, by simp [Request.target, Url.joinPath], ?_⟩
  · rw [Request.target, String.toList_ofList]
    exact Url.isJoined_joinPath (by simpa using hpath) _
  · intro r given
    obtain ⟨scheme, hscheme, hwith⟩ :=
      Url.exists_scheme r.config.endpoint.toList r.config.disableSsl
    refine ⟨scheme, s.resolved, rfl, hscheme, hwith, ?_, fun hsome => ?_, ?_⟩
    · simp only [Session.resolved, String.toList_ofList]
      exact hwith
    · have hmark : '?' ∉ scheme := by
        rcases hscheme with rfl | rfl
        · exact List.not_mem_nil
        · cases r.config.disableSsl <;> decide
      simp only [given, url_create, Session.resolved, Request.target, String.toList_ofList]
      rw [hwith]
      exact Url.joinPath_append hmark hsome _
    · change ((Except.ok (), s.resolved.resolved) : Except Stop Unit × Session κ μ) = _
      simp only [Session.resolved, String.toList_ofList, Url.withScheme_withScheme]

theorem searching_target_is_joined :
    let s : Session CoreHook Unit :=
      Session.plain "api.io/v1/?key=1" (template id) .never .none [] ()
    let given := (Request.create s.request.config (template id) s.request.operation .null .null none
      .never .empty).1.url
    "/find?q=/a?b" ≠ "" ∧ s.request.config.endpoint.toList.takeWhile (· != '?') ≠ [] ∧
      Request.target "api.io/v1/?key=1" "/find?q=/a?b" = "api.io/v1/find?q=/a?b" ∧
      Url.IsJoined "api.io/v1/?key=1".toList "/find?q=/a?b".toList
        (Request.target "api.io/v1/?key=1" "/find?q=/a?b").toList ∧
      ∃ scheme s', (perform .resolveEndpoint).run s = (.ok (), s') ∧
        s'.request.url.toList = scheme ++ given.toList := by
  intro s given
  have hpath : "/find?q=/a?b" ≠ "" := by decide
  have hsome : s.request.config.endpoint.toList.takeWhile (· != '?') ≠ [] := by decide
  obtain ⟨hjoined, -, scheme, s', hrun, -, -, -, hurl, -⟩ := targets_are_joined "api.io/v1/?key=1"
    "/find?q=/a?b" s (template id) .null .null none .never .empty
  exact ⟨hpath, hsome, by decide, hjoined hpath, scheme, s', hrun, hurl hsome⟩

end CoreHook

end RequestPipeline
