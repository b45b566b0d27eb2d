import Mathlib.Data.List.Basic
import Mathlib.Data.List.TakeWhile
import Mathlib.Data.Nat.Bitwise
import Mathlib.Tactic.Tauto
import RequestPipeline.LogLevel

/-!
# Names of log levels

`LogLevel.parse` cuts a text into names at its plus signs.  Lower case is the one step that looks
at neighbouring characters, and it does not look beyond a plus sign (`Text.EndsWord`).  So
`LogLevel.levels_are_joined`: a text that is joined from two others has the names of both, and its
level is the union of theirs.  The comparisons of a level as a number and as a set of bits tell
what names are in it: the bits that refine debugging come with the one for debugging, which
outweighs the one for errors.
-/

namespace RequestPipeline

namespace Text

/-! ## Lower case -/

/-- Lower case leaves the character as it is and does not look beyond it for a letter with case. -/
structure EndsWord (c : Char) : Prop where
  kept : lowerChar c = [c]
  notIgnored : caseIgnorableBoundaries.holds c = false
  uncased : casedBoundaries.holds c = false

theorem endsWord_plus : EndsWord '+' :=
  ⟨by decide, by decide +kernel, by decide +kernel⟩

variable {mark : Char}

theorem nextIsCased_append_mark (hmark : EndsWord mark) (s t : List Char) :
    nextIsCased (s ++ mark :: t) = nextIsCased s := by
  rw [nextIsCased, nextIsCased]
  induction s with
  | nil => simp [hmark.notIgnored, hmark.uncased]
  | cons c s ih =>
    by_cases hc : caseIgnorableBoundaries.holds c = true
    · simpa [hc] using ih
    · simp [hc]

/-- What was before the mark makes no difference behind it. -/
theorem lowerAfter_behind_mark (hmark : EndsWord mark) (before earlier s : List Char) :
    lowerAfter (before ++ mark :: earlier) s = lowerAfter before s := by
  induction s generalizing before with
  | nil => rfl
  | cons c s ih =>
    simp only [lowerAfter, lowerSigma, nextIsCased_append_mark hmark]
    rw [← List.cons_append, ih]

theorem EndsWord.ne_sigma (hmark : EndsWord mark) : mark.toNat ≠ 0x3a3 := by
  intro hsigma
  have hcased : casedBoundaries.holds (Char.ofNat 0x3a3) = true := by decide +kernel
  rw [← hsigma, Char.ofNat_toNat, hmark.uncased] at hcased
  cases hcased

theorem lowerAfter_append_mark (hmark : EndsWord mark) (before s t : List Char) :
    lowerAfter before (s ++ mark :: t) = lowerAfter before s ++ mark :: lower t := by
  induction s generalizing before with
  | nil =>
    have hbehind : lowerAfter (mark :: before) t = lowerAfter [] t :=
      lowerAfter_behind_mark hmark [] before t
    simp [lowerAfter, hmark.ne_sigma, hmark.kept, hbehind, lower]
  | cons c s ih =>
    simp only [List.cons_append, lowerAfter, lowerSigma, nextIsCased_append_mark hmark, ih,
      List.append_assoc]

/-- Lower case on both sides of a mark that ends words. -/
theorem lower_append_mark (hmark : EndsWord mark) (s t : List Char) :
    lower (s ++ mark :: t) = lower s ++ mark :: lower t := lowerAfter_append_mark hmark [] s t

theorem lower_join (hmark : EndsWord mark) (texts : List (List Char)) :
    lower ([mark].intercalate texts) = [mark].intercalate (texts.map lower) := by
  induction texts with
  | nil => rfl
  | cons s rest ih =>
    cases rest with
    | nil => simp
    | cons t rest =>
      have hjoin (s t : List Char) (rest : List (List Char)) :
          [mark].intercalate (s :: t :: rest) = s ++ mark :: [mark].intercalate (t :: rest) := by
        simp [List.intercalate]
      rw [hjoin, lower_append_mark hmark, ih]
      exact (hjoin _ _ _).symm

/-- Without a sigma, lower case is that of each letter. -/
theorem lower_eq_flatMap {s : List Char} (h : ∀ c ∈ s, c.toNat ≠ 0x3a3) :
    lower s = s.flatMap lowerChar := by
  have hafter (before : List Char) : lowerAfter before s = s.flatMap lowerChar := by
    induction s generalizing before with
    | nil => rfl
    | cons c s ih =>
      obtain ⟨hc, hs⟩ := List.forall_mem_cons.1 h
      simp [lowerAfter, hc, ih hs]
  exact hafter []

/-! ## Blanks -/

/-- The numbers of the blanks. -/
def blanks : List Nat :=
  [9, 10, 11, 12, 13, 28, 29, 30, 31, 32, 0x85, 0xa0, 0x1680, 0x2000, 0x2001, 0x2002, 0x2003,
    0x2004, 0x2005, 0x2006, 0x2007, 0x2008, 0x2009, 0x200a, 0x2028, 0x2029, 0x202f, 0x205f, 0x3000]

theorem isBlank_iff {c : Char} : isBlank c = true ↔ c.toNat ∈ blanks := by
  simp only [isBlank, isWhiteSpace, blanks, Bool.or_eq_true, Bool.and_eq_true, decide_eq_true_eq,
    beq_iff_eq, List.mem_cons, List.not_mem_nil, or_false]
  omega

theorem lowerChar_of_isBlank {c : Char} (h : isBlank c = true) : lowerChar c = [c] := by
  have hall : ∀ n ∈ blanks, lowerChar (Char.ofNat n) = [Char.ofNat n] := by decide +kernel
  simpa using hall c.toNat (isBlank_iff.1 h)

theorem trimWhere_around {p : Char → Bool} {before word after : List Char}
    (hbefore : ∀ c ∈ before, p c = true) (hword : ∀ c ∈ word, p c = false)
    (hafter : ∀ c ∈ after, p c = true) : trimWhere p (before ++ word ++ after) = word := by
  have hkept {s : List Char} (hs : ∀ c ∈ s, p c = false) (t : List Char) (hsome : s ≠ []) :
      (s ++ t).dropWhile p = s ++ t := by
    obtain ⟨c, s, rfl⟩ := List.exists_cons_of_ne_nil hsome
    simp [hs c List.mem_cons_self]
  rw [trimWhere, List.append_assoc, List.dropWhile_append_of_pos hbefore]
  by_cases hsome : word = []
  · have hnone : after.dropWhile p = [] := by simpa using hafter
    simp [hsome, hnone]
  · have hback : word.reverse.dropWhile p = word.reverse := by
      simpa using hkept (s := word.reverse) (by simpa using hword) [] (by simpa using hsome)
    rw [hkept hword after hsome, List.reverse_append,
      List.dropWhile_append_of_pos (by simpa using hafter), hback, List.reverse_reverse]

end Text

namespace LogLevel

/-! ## Names of a text -/

theorem splitAll_eq_splitOn (mark : Char) (s : List Char) :
    Url.splitAll mark s = s.splitOn mark := by
  induction s with
  | nil => rfl
  | cons c s ih =>
    rw [Url.splitAll, ih, List.splitOn_cons_eq_if_modifyHead]
    by_cases hc : c = mark
    · simp [hc]
    · cases hparts : s.splitOn mark with
      | nil => exact absurd hparts (List.splitOn_ne_nil _ _)
      | cons first more => simp [hc]

/-- The names that a text is made of. -/
def names (s : List Char) : List (List Char) := (Url.splitAll '+' (Text.lower s)).map Text.trim

theorem parse_eq (s : List Char) : parse s = ofNames (names s) := rfl

theorem names_append (a b : List Char) : names (a ++ '+' :: b) = names a ++ names b := by
  simp only [names, splitAll_eq_splitOn, Text.lower_append_mark Text.endsWord_plus,
    List.splitOn_append_cons_self, List.map_append]

/-- The text is the word in any case, with blanks around it. -/
def Spells (word text : List Char) : Prop :=
  ∃ before letters after, text = before ++ letters ++ after ∧
    (∀ c ∈ before, Text.isBlank c = true) ∧ (∀ c ∈ after, Text.isBlank c = true) ∧
    letters.map Char.toLower = word

/-- A name in any case, with blanks around it. -/
structure Spelling where
  name : String
  text : List Char
  listed : name ∈ Failure.levelNames
  spelled : Spells name.toList text

theorem plain_of_listed {name : String} (h : name ∈ Failure.levelNames) :
    ∀ c ∈ name.toList, c.toNat < 0x80 ∧ Text.isBlank c = false ∧ c ≠ '+' := by
  have hall : ∀ name ∈ Failure.levelNames, name.toList.all
      (fun c => decide (c.toNat < 0x80) && !Text.isBlank c && c != '+') = true := by decide
  simpa [and_assoc] using hall name h

theorem toNat_lt_of_toLower {c : Char} (h : c.toLower.toNat < 0x80) : c.toNat < 0x80 := by
  unfold Char.toLower at h
  split at h
  case isTrue hupper =>
    have hlast : c.toNat ≤ 'Z'.toNat := UInt32.le_iff_toNat_le.1 hupper.2
    exact Nat.lt_of_le_of_lt hlast (by decide)
  case isFalse => exact h

/-- Lower case of a spelling is the name with its blanks. -/
theorem Spelling.exists_lower (s : Spelling) : ∃ before after,
    Text.lower s.text = before ++ s.name.toList ++ after ∧
      (∀ c ∈ before, Text.isBlank c = true) ∧ ∀ c ∈ after, Text.isBlank c = true := by
  obtain ⟨before, letters, after, htext, hbefore, hafter, hletters⟩ := s.spelled
  have hplain : ∀ c ∈ letters, c.toNat < 0x80 := by
    intro c hc
    refine toNat_lt_of_toLower (plain_of_listed s.listed c.toLower ?_).1
    exact hletters ▸ List.mem_map_of_mem hc
  have hblanks {t : List Char} (ht : ∀ c ∈ t, Text.isBlank c = true) :
      t.flatMap Text.lowerChar = t := by
    rw [List.flatMap_congr fun c hc => Text.lowerChar_of_isBlank (ht c hc)]
    exact List.flatMap_singleton' t
  have hword : letters.flatMap Text.lowerChar = s.name.toList := by
    have hletter : ∀ c ∈ letters, Text.lowerChar c = [c.toLower] :=
      fun c hc => if_pos (hplain c hc)
    rw [← hletters, List.flatMap_congr hletter, List.map_eq_flatMap]
  -- Lower case of a sigma alone depends on its neighbours.
  have hsigma : ∀ c ∈ s.text, c.toNat ≠ 0x3a3 := by
    have hblank {c : Char} (hc : Text.isBlank c = true) : c.toNat ≠ 0x3a3 := by
      intro heq
      have hnot : 0x3a3 ∉ Text.blanks := by decide
      exact hnot (heq ▸ Text.isBlank_iff.1 hc)
    intro c hc
    rw [htext, List.mem_append, List.mem_append] at hc
    rcases hc with (hc | hc) | hc
    · exact hblank (hbefore c hc)
    · have := hplain c hc
      omega
    · exact hblank (hafter c hc)
  refine ⟨before, after, ?_, hbefore, hafter⟩
  rw [Text.lower_eq_flatMap hsigma, htext, List.flatMap_append, List.flatMap_append,
    hblanks hbefore, hblanks hafter, hword]

/-- A spelling of a name is a text of this one name. -/
theorem Spelling.cut (s : Spelling) :
    '+' ∉ Text.lower s.text ∧ Text.trim (Text.lower s.text) = s.name.toList := by
  obtain ⟨before, after, hlower, hbefore, hafter⟩ := s.exists_lower
  have hplain := plain_of_listed s.listed
  have hblank (t : List Char) (ht : ∀ c ∈ t, Text.isBlank c = true) : '+' ∉ t := by
    intro hmem
    have hplus := ht '+' hmem
    revert hplus
    decide
  rw [hlower]
  constructor
  · simp only [List.mem_append, not_or]
    exact ⟨⟨hblank before hbefore, fun hmem => (hplain '+' hmem).2.2 rfl⟩, hblank after hafter⟩
  · exact Text.trimWhere_around hbefore (fun c hc => (hplain c hc).2.1) hafter

/-- Joined spellings are a text of their names. -/
theorem names_join {spellings : List Spelling} (hsome : spellings ≠ []) :
    names (['+'].intercalate (spellings.map Spelling.text)) =
      spellings.map fun s => s.name.toList := by
  have hmark : ∀ t ∈ (spellings.map Spelling.text).map Text.lower, '+' ∉ t := by
    simpa using fun s _ => s.cut.1
  rw [names, splitAll_eq_splitOn, Text.lower_join Text.endsWord_plus,
    List.splitOn_intercalate '+' hmark (by simpa using hsome), List.map_map, List.map_map]
  exact List.map_congr_left fun s _ => s.cut.2

/-! ## Levels of names -/

theorem ofNames_append (a b : List (List Char)) :
    ofNames (a ++ b) = match ofNames a, ofNames b with
      | .error reason, _ => .error reason
      | .ok _, .error reason => .error reason
      | .ok level, .ok other => .ok (level ||| other) := by
  induction a with
  | nil => cases h : ofNames b <;> simp [ofNames, h, silent]
  | cons name rest ih =>
    simp only [List.cons_append, ofNames]
    cases ofName? name with
    | none => rfl
    | some level =>
      simp only [ih]
      cases ofNames rest <;> cases ofNames b <;> simp [Except.map, Nat.lor_assoc]

/-- The names of the levels that debug. -/
def debugNames : List String := ["debug", "debug-body", "debug-retries"]

/-- The level with the bits for errors, for debugging and for its two refinements. -/
def ofParts (error debug body retries : Bool) : LogLevel :=
  (if error then 0x1000 else 0) ||| (if debug then 0x2000 else 0) ||| (if body then 1 else 0) |||
    (if retries then 2 else 0)

theorem ofParts_or (e d b r e' d' b' r' : Bool) :
    ofParts e d b r ||| ofParts e' d' b' r' = ofParts (e || e') (d || d') (b || b') (r || r') := by
  revert e d b r e' d' b' r'
  decide

/-- The level of some names has the parts that the names have. -/
def ofListed (names : List String) : LogLevel :=
  ofParts (names.contains "error") (names.any debugNames.contains) (names.contains "debug-body")
    (names.contains "debug-retries")

theorem ofName?_of_listed {name : String} (h : name ∈ Failure.levelNames) :
    ofName? name.toList = some (ofListed [name]) := by
  revert name
  decide

theorem ofListed_cons (name : String) (rest : List String) :
    ofListed (name :: rest) = ofListed [name] ||| ofListed rest := by
  rw [ofListed, ofListed, ofListed, ofParts_or]
  simp

/-- Names that are listed have the level of their parts. -/
theorem ofNames_of_listed {names : List String} (h : ∀ name ∈ names, name ∈ Failure.levelNames) :
    ofNames (names.map String.toList) = .ok (ofListed names) := by
  induction names with
  | nil => rfl
  | cons name rest ih =>
    obtain ⟨hname, hrest⟩ := List.forall_mem_cons.1 h
    rw [List.map_cons, ofNames, ofName?_of_listed hname, ih hrest, ofListed_cons name rest]
    rfl

/-- A level tells by comparison which names are in it. -/
structure Tells (names : List String) (level : LogLevel) : Prop where
  body : level.covers debugBody = true ↔ "debug-body" ∈ names
  retries : level.covers debugRetries = true ↔ "debug-retries" ∈ names
  debug : level.atLeast LogLevel.debug = true ↔ ∃ name ∈ names, name ∈ debugNames
  error : level.atLeast LogLevel.error = true ↔ ∃ name ∈ names, name ≠ "silent"

theorem covers_debugBody (e d b r : Bool) :
    (ofParts e d b r).covers debugBody = (d && b) := by
  revert e d b r
  decide

theorem covers_debugRetries (e d b r : Bool) :
    (ofParts e d b r).covers debugRetries = (d && r) := by
  revert e d b r
  decide

theorem atLeast_debug (e d b r : Bool) : (ofParts e d b r).atLeast debug = d := by
  revert e d b r
  decide

theorem atLeast_error (e d b r : Bool) : (ofParts e d b r).atLeast error = (e || d) := by
  revert e d b r
  decide

theorem tells_ofListed {names : List String} (h : ∀ name ∈ names, name ∈ Failure.levelNames) :
    Tells names (ofListed names) := by
  have hdebug : names.any debugNames.contains = true ↔ ∃ name ∈ names, name ∈ debugNames := by
    simp
  constructor
  · rw [ofListed, covers_debugBody, Bool.and_eq_true, hdebug, List.contains_iff_mem]
    exact ⟨fun hboth => hboth.2, fun hmem => ⟨⟨_, hmem, by decide⟩, hmem⟩⟩
  · rw [ofListed, covers_debugRetries, Bool.and_eq_true, hdebug, List.contains_iff_mem]
    exact ⟨fun hboth => hboth.2, fun hmem => ⟨⟨_, hmem, by decide⟩, hmem⟩⟩
  · rw [ofListed, atLeast_debug, hdebug]
  · rw [ofListed, atLeast_error, Bool.or_eq_true, hdebug, List.contains_iff_mem]
    constructor
    · rintro (hmem | ⟨name, hmem, hname⟩)
      · exact ⟨_, hmem, by decide⟩
      · refine ⟨name, hmem, ?_⟩
        rintro rfl
        revert hname
        decide
    · rintro ⟨name, hmem, hname⟩
      have hloud : name = "error" ∨ name ∈ debugNames := by
        have hlisted := h name hmem
        simp only [Failure.levelNames, debugNames, List.mem_cons, List.not_mem_nil, or_false] at *
        tauto
      rcases hloud with rfl | hdebugs
      · exact .inl hmem
      · exact .inr ⟨name, hmem, hdebugs⟩

/-- The failure about names is that one of them is not listed. -/
theorem not_listed_of_error {parts : List (List Char)} {reason : Failure.Reason}
    (h : ofNames parts = .error reason) :
    ∃ name, reason = .unknownLevel name ∧ name.toList ∈ parts ∧ name ∉ Failure.levelNames := by
  induction parts with
  | nil => cases h
  | cons part rest ih =>
    rw [ofNames] at h
    cases hlevel : ofName? part with
    | none =>
      simp only [hlevel, Except.error.injEq] at h
      refine ⟨String.ofList part, h.symm, by simp, fun hlisted => ?_⟩
      have hsome := ofName?_of_listed hlisted
      rw [String.toList_ofList, hlevel] at hsome
      cases hsome
    | some level =>
      simp only [hlevel] at h
      cases hrest : ofNames rest with
      | ok other => simp [hrest, Except.map] at h
      | error reason' =>
        obtain rfl : reason' = reason := by simpa [hrest, Except.map] using h
        obtain ⟨name, hreason, hmem, hname⟩ := ih hrest
        exact ⟨name, hreason, List.mem_cons_of_mem _ hmem, hname⟩

/-- The level of two texts joined by a plus sign is the union of their levels; if one of them has
none, the failure is that of the first such one, about a name that is not listed.  So the level of
names in any case, with blanks around them, tells which ones they are, in whatever order and however
often they are joined.  No names at all are a text without a level. -/
theorem levels_are_joined :
    (∀ a b : List Char, parse (a ++ '+' :: b) = match parse a, parse b with
      | .error reason, _ => .error reason
      | .ok _, .error reason => .error reason
      | .ok level, .ok other => .ok (level ||| other)) ∧
    (∀ s reason, parse s = .error reason → reason.kind = .config ∧
      ∃ name, reason = .unknownLevel name ∧ name.toList ∈ names s ∧ name ∉ Failure.levelNames) ∧
    ∀ spellings : List Spelling,
      let joined := parse (['+'].intercalate (spellings.map Spelling.text))
      (spellings = [] → joined = .error (.unknownLevel "")) ∧
      (spellings ≠ [] → ∃ level, joined = .ok level ∧
        Tells (spellings.map Spelling.name) level) := by
  refine ⟨fun a b => ?_, fun s reason hreason => ?_, ?_⟩
  · rw [parse_eq, names_append, ofNames_append]
    rfl
  · obtain ⟨name, rfl, hname⟩ := not_listed_of_error hreason
    exact ⟨rfl, name, rfl, hname⟩
  intro spellings joined
  constructor
  · rintro rfl
    rfl
  · intro hsome
    have hlisted : ∀ name ∈ spellings.map Spelling.name, name ∈ Failure.levelNames := by
      simpa using fun s _ => s.listed
    refine ⟨ofListed (spellings.map Spelling.name), ?_, tells_ofListed hlisted⟩
    have hjoined : joined = ofNames (spellings.map fun s => s.name.toList) :=
      congrArg ofNames (names_join hsome)
    rw [hjoined, ← ofNames_of_listed hlisted, List.map_map]
    rfl

/-- A name in other letters, with a blank in front. -/
def spelledBody : Spelling where
  name := "debug-body"
  text := " Debug-Body".toList
  listed := by decide
  spelled := ⟨[' '], "Debug-Body".toList, [], rfl, by simp; decide, by simp, rfl⟩

/-- A name in other letters, with a blank behind. -/
def spelledError : Spelling where
  name := "error"
  text := "ERROR\t".toList
  listed := by decide
  spelled := ⟨[], "ERROR".toList, ['\t'], rfl, by simp, by simp; decide, rfl⟩

theorem spelled_names_are_told :
    let spellings := [spelledBody, spelledError, spelledBody]
    spellings ≠ [] ∧ ∃ level, parse " Debug-Body+ERROR\t+ Debug-Body".toList = .ok level ∧
      Tells ["debug-body", "error", "debug-body"] level := by
  intro spellings
  have hsome : spellings ≠ [] := List.cons_ne_nil _ _
  exact ⟨hsome, (levels_are_joined.2.2 spellings).2 hsome⟩

end LogLevel

end RequestPipeline
