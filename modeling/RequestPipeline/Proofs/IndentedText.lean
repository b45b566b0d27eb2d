import RequestPipeline.Display
import RequestPipeline.Proofs.BodyRoundTrip

/-!
# Results over several lines

A result in JSON is printed for people and for programs.  People find each entry on a line of its
own, with two blanks in front of it for each level, and characters beyond ASCII as they are.
Programs read the result from it as it was.  Texts are taken as code points up to the last step,
which needs a result without surrogates: only such a text can be printed.
-/

namespace RequestPipeline

namespace Json

open Decimal
open Text (CodePoint Str)

/-- The code point that ends a line. -/
def lineBreak : CodePoint := .char '\n'

variable {text first : Str} {v : Value} {depth level : ℕ} {ds : List ℕ}

/-! ## Lines -/

/-- Part of a line that does not begin with a blank. -/
structure IsContent (s : Str) : Prop where
  unbroken : lineBreak ∉ s
  begins : ∃ c rest, s = c :: rest ∧ isSpace c = false

/-- A line that stands at a depth: two blanks for each level, and then what it says. -/
def IsLine (depth : ℕ) (line : Str) : Prop :=
  ∃ content, IsContent content ∧ line = List.replicate (2 * depth) (.char ' ') ++ content

/-- The lines of the text stand at these depths.  What is in front of the first line is no part of
the text. -/
inductive IsLaidOut : List ℕ → Str → Prop where
  | last {depth : ℕ} {content : Str} (h : IsContent content) : IsLaidOut [depth] content
  | line {depth next : ℕ} {ds : List ℕ} {content text : Str} (h : IsContent content)
      (hrest : IsLaidOut (next :: ds) text) :
      IsLaidOut (depth :: next :: ds) (content ++ (breakAt indentedLayout next ++ text))

theorem IsContent.append {s back : Str} (h : IsContent s) (hback : lineBreak ∉ back) :
    IsContent (s ++ back) := by
  obtain ⟨c, rest, rfl, hspace⟩ := h.begins
  exact ⟨List.not_mem_append h.unbroken hback, c, rest ++ back, rfl, hspace⟩

theorem breakAt_indentedLayout (level : ℕ) :
    breakAt indentedLayout level = lineBreak :: List.replicate (2 * level) (.char ' ') := by
  simp [breakAt, Layout.plainly, indentedLayout, lineBreak]

theorem gap_indentedLayout (level : ℕ) :
    gap indentedLayout level = breakAt indentedLayout level := rfl

theorem isLine_indented {content : Str} (h : IsContent content) (depth : ℕ) :
    lineBreak ∉ List.replicate (2 * depth) (CodePoint.char ' ') ++ content ∧
      IsLine depth (List.replicate (2 * depth) (CodePoint.char ' ') ++ content) :=
  ⟨List.not_mem_append (by simp [List.mem_replicate, lineBreak]) h.unbroken, content, h, rfl⟩

namespace IsLaidOut

/-- Split at its breaks, a text that is laid out falls into lines at its depths. -/
theorem lines (h : IsLaidOut (depth :: ds) text) :
    List.Forall₂ IsLine (depth :: ds)
      ((List.replicate (2 * depth) (CodePoint.char ' ') ++ text).splitOn lineBreak) := by
  generalize hall : depth :: ds = all at h
  induction h generalizing depth ds with
  | @last depth' content h =>
    obtain ⟨rfl, rfl⟩ := List.cons.inj hall
    obtain ⟨hunbroken, hline⟩ := isLine_indented h depth
    rw [List.splitOn_eq_singleton hunbroken]
    exact .cons hline .nil
  | @line depth' next ds' content text h _ ih =>
    obtain ⟨rfl, rfl⟩ := List.cons.inj hall
    obtain ⟨hunbroken, hline⟩ := isLine_indented h depth
    rw [breakAt_indentedLayout, ← List.append_assoc, List.cons_append,
      List.splitOn_append_cons_self_of_not_mem hunbroken]
    exact .cons hline (ih rfl)

/-- More of the first line. -/
theorem in_front (h : IsLaidOut ds text) {front : Str} (hfront : IsContent front) :
    IsLaidOut ds (front ++ text) := by
  cases h with
  | last h => exact .last (hfront.append h.unbroken)
  | line h hrest =>
    rw [← List.append_assoc]
    exact .line (hfront.append h.unbroken) hrest

/-- More of the last line. -/
theorem behind (h : IsLaidOut ds text) {back : Str} (hback : lineBreak ∉ back) :
    IsLaidOut ds (text ++ back) := by
  induction h with
  | last h => exact .last (h.append hback)
  | line h _ ih =>
    simp only [List.append_assoc]
    exact .line h ih

/-- More lines. -/
theorem join (h : IsLaidOut ds text) {next : ℕ} {more : List ℕ} {text' : Str}
    (h' : IsLaidOut (next :: more) text') :
    IsLaidOut (ds ++ next :: more) (text ++ (breakAt indentedLayout next ++ text')) := by
  induction h with
  | last h => exact .line h h'
  | line h _ ih =>
    simp only [List.append_assoc]
    exact .line h ih

theorem ne_nil (h : IsLaidOut ds text) : text ≠ [] := by
  cases h with
  | last h | line h =>
    obtain ⟨c, rest, rfl, -⟩ := h.begins
    exact List.cons_ne_nil _ _

/-- A text that is laid out does not end in a break. -/
theorem getLast?_ne (h : IsLaidOut ds text) : text.getLast? ≠ some lineBreak := by
  induction h with
  | last h => exact fun hlast => h.unbroken (List.mem_of_getLast? hlast)
  | line h hrest ih =>
    rwa [← List.append_assoc, List.getLast?_append_of_ne_nil _ hrest.ne_nil]

end IsLaidOut

/-! ## Depths -/

/-- The depths of the lines behind an opening bracket.  The closing bracket has a line of its own,
unless nothing stands before it. -/
def closed (level : ℕ) : List ℕ → List ℕ
  | [] => []
  | inner => inner ++ [level]

mutual

/-- The depths of the lines behind the first one, for a value at a level. -/
def further (level : ℕ) : Value → List ℕ
  | .list items => closed level (depthsOfItems (level + 1) items)
  | .dict entries => closed level (depthsOfEntries (level + 1) entries)
  | _ => []

def depthsOfItems (level : ℕ) : List Value → List ℕ
  | [] => []
  | v :: rest => level :: (further level v ++ depthsOfItems level rest)

def depthsOfEntries (level : ℕ) : List (Value × Value) → List ℕ
  | [] => []
  | (_, v) :: rest => level :: (further level v ++ depthsOfEntries level rest)

end

/-- How deep the lines of a value stand: each entry one level deeper than its brackets. -/
def depths (level : ℕ) (v : Value) : List ℕ := level :: further level v

theorem depthsOfItems_eq (level : ℕ) (items : List Value) :
    depthsOfItems level items = items.flatMap (depths level) := by
  induction items with
  | nil => rfl
  | cons v rest ih => rw [depthsOfItems, ih, List.flatMap_cons]; rfl

theorem depthsOfEntries_eq (level : ℕ) (entries : List (Value × Value)) :
    depthsOfEntries level entries = entries.flatMap fun e => depths level e.2 := by
  induction entries with
  | nil => rfl
  | cons e rest ih => rw [depthsOfEntries, ih, List.flatMap_cons]; rfl

section Collections

variable {α : Type} {f : α → List ℕ} {texts : List Str} {as : List α}

/-- The texts of entries, each on lines of its own. -/
theorem isLaidOut_spaced (hfirst : IsLaidOut ds first)
    (htexts : List.Forall₂ (fun text a => IsLaidOut (level :: f a) text) texts as) :
    IsLaidOut (ds ++ as.flatMap fun a => level :: f a)
      (first ++ spaced (gap indentedLayout level) texts) := by
  induction htexts generalizing first ds with
  | nil => simpa [spaced] using hfirst
  | @cons second a texts as hsecond _ ih =>
    -- The comma ends the line before the break.
    have hcomma : IsLaidOut ds (first ++ [.char ',']) := hfirst.behind (by decide)
    have hjoined := hcomma.join (ih hsecond)
    simpa [spaced, gap_indentedLayout] using hjoined

/-- Brackets around entries. -/
theorem isLaidOut_enclose {opening closing : Char} (hopening : IsContent [.char opening])
    (hclosing : IsContent [.char closing])
    (htexts : List.Forall₂ (fun text a => IsLaidOut ((level + 1) :: f a) text) texts as) :
    IsLaidOut (level :: closed level (as.flatMap fun a => (level + 1) :: f a))
      (enclose indentedLayout level opening closing texts) := by
  cases htexts with
  | nil => exact .last (hopening.append hclosing.unbroken)
  | cons hfirst hrest =>
    have hbegin : IsLaidOut [level] [.char opening] := .last hopening
    have hend : IsLaidOut [level] [.char closing] := .last hclosing
    have hall := hbegin.join ((isLaidOut_spaced hfirst hrest).join hend)
    rw [enclose_cons rfl]
    simpa [closed] using hall

end Collections

/-! ## Characters -/

def isBeyondAscii (p : CodePoint) : Bool := decide (0x80 ≤ p.toNat)

mutual

/-- The code points of all strings and names in a value, in their order. -/
def characters : Value → Str
  | .str s => s
  | .list items => charactersOfItems items
  | .dict entries => charactersOfEntries entries
  | _ => []

def charactersOfItems : List Value → Str
  | [] => []
  | v :: rest => characters v ++ charactersOfItems rest

def charactersOfEntries : List (Value × Value) → Str
  | [] => []
  | (k, v) :: rest => characters k ++ characters v ++ charactersOfEntries rest

end

theorem charactersOfItems_eq (items : List Value) :
    charactersOfItems items = items.flatMap characters := by
  induction items with
  | nil => rfl
  | cons v rest ih => rw [charactersOfItems, ih, List.flatMap_cons]

theorem charactersOfEntries_eq (entries : List (Value × Value)) :
    charactersOfEntries entries = entries.flatMap fun e => characters e.1 ++ characters e.2 := by
  induction entries with
  | nil => rfl
  | cons e rest ih => rw [charactersOfEntries, ih, List.flatMap_cons]

theorem isBeyondAscii_of_visible {c : Char} (h : IsVisible c) :
    isBeyondAscii (.char c) = false := by
  have hascii : ¬ 0x80 ≤ c.toNat := by
    have := h.2
    omega
  exact decide_eq_false hascii

section Visible

variable {cs : List Char} (h : ∀ c ∈ cs, IsVisible c)

include h

theorem filter_of_visible : (Str.ofChars cs).filter isBeyondAscii = [] := by
  rw [List.filter_eq_nil_iff]
  intro p hp
  obtain ⟨c, hc, rfl⟩ := List.mem_map.1 hp
  simp [isBeyondAscii_of_visible (h c hc)]

theorem not_mem_of_visible : lineBreak ∉ Str.ofChars cs := by
  intro hbreak
  obtain ⟨c, hc, hsame⟩ := List.mem_map.1 hbreak
  obtain rfl := CodePoint.char.inj hsame
  have hvisible := h _ hc
  revert hvisible
  decide

end Visible

/-- A character that has an escape is one of ASCII. -/
theorem isBeyondAscii_of_sharedEscape? {c : Char} {escape : List Char}
    (h : sharedEscape? c = some escape) : isBeyondAscii (.char c) = false := by
  unfold sharedEscape? at h
  split at h
  any_goals decide
  split at h
  · rename_i hback
    simp [isBeyondAscii, CodePoint.toNat, hback]
  · split at h
    · rename_i hfeed
      simp [isBeyondAscii, CodePoint.toNat, hfeed]
    · cases h

/-- Over several lines a code point is written as it is, or it is a character of ASCII and something
visible is written for it. -/
theorem widePoint_cases (p : CodePoint) :
    (widePoint p = [p] ∧ 0x20 ≤ p.toNat) ∨
      (isBeyondAscii p = false ∧ ∃ cs, widePoint p = .ofChars cs ∧ ∀ d ∈ cs, IsVisible d) := by
  cases p with
  | half h => exact .inl ⟨rfl, Nat.le_trans (by decide) h.isSurrogate.1⟩
  | char c =>
    simp only [widePoint, wideChar]
    cases hshared : sharedEscape? c with
    | some escape =>
      obtain ⟨letter, rfl, -, hvisible⟩ := letter_of_sharedEscape? hshared
      exact .inr ⟨isBeyondAscii_of_sharedEscape? hshared, _, rfl,
        by simpa using ⟨by decide, hvisible⟩⟩
    | none =>
      dsimp only
      split
      · rename_i hcontrol
        have hascii : ¬ 0x80 ≤ c.toNat := by omega
        exact .inr ⟨decide_eq_false hascii, _, rfl, isVisible_unitEscape _⟩
      · rename_i hprintable
        exact .inl ⟨rfl, Nat.le_of_not_lt hprintable⟩

theorem filter_widePoint (p : CodePoint) :
    (widePoint p).filter isBeyondAscii = [p].filter isBeyondAscii := by
  rcases widePoint_cases p with ⟨heq, -⟩ | ⟨hascii, cs, heq, hvisible⟩
  · rw [heq]
  · simp [heq, filter_of_visible hvisible, hascii]

theorem not_mem_widePoint (p : CodePoint) : lineBreak ∉ widePoint p := by
  rcases widePoint_cases p with ⟨heq, hprintable⟩ | ⟨-, cs, heq, hvisible⟩
  · rw [heq, List.mem_singleton]
    rintro rfl
    revert hprintable
    decide
  · rw [heq]
    exact not_mem_of_visible hvisible

theorem filter_quoted (s : Str) :
    (quoted indentedLayout s).filter isBeyondAscii = s.filter isBeyondAscii := by
  have hquote : isBeyondAscii (.char '"') = false := rfl
  have hinner : (s.flatMap widePoint).filter isBeyondAscii = s.filter isBeyondAscii := by
    induction s with
    | nil => rfl
    | cons p rest ih =>
      rw [List.flatMap_cons, List.filter_append, ih, filter_widePoint, ← List.filter_append,
        List.singleton_append]
  simp [quoted, indentedLayout, hquote, hinner]

theorem isContent_quoted (s : Str) : IsContent (quoted indentedLayout s) where
  unbroken := by
    simp only [quoted, indentedLayout, List.mem_cons, List.mem_append, List.mem_flatMap,
      List.not_mem_nil, or_false, not_or, not_exists, not_and]
    exact ⟨by decide, fun p _ => not_mem_widePoint p, by decide⟩
  begins := ⟨.char '"', _, rfl, rfl⟩

theorem filter_breakAt (level : ℕ) :
    (breakAt indentedLayout level).filter isBeyondAscii = [] := by
  have hbreak : isBeyondAscii lineBreak = false := rfl
  have hblank : isBeyondAscii (.char ' ') = false := rfl
  simp [breakAt_indentedLayout, hbreak, hblank]

/-- Brackets, commas and blanks are characters of ASCII. -/
theorem filter_enclose {opening closing : Char} (hopening : IsVisible opening)
    (hclosing : IsVisible closing) (level : ℕ) (texts : List Str) :
    (enclose indentedLayout level opening closing texts).filter isBeyondAscii =
      texts.flatMap (List.filter isBeyondAscii) := by
  have hcomma : isBeyondAscii (.char ',') = false := rfl
  have hbrackets :=
    And.intro (isBeyondAscii_of_visible hopening) (isBeyondAscii_of_visible hclosing)
  cases texts with
  | nil => simp [enclose, Layout.plainly, indentedLayout, hbrackets]
  | cons first rest =>
    rw [enclose_cons rfl]
    simp [hbrackets, hcomma, spaced, gap_indentedLayout, filter_breakAt, List.filter_flatMap]

/-! ## The text of a value -/

/-- The text is read as the value, its lines stand at the depths of the value, and its code points
beyond ASCII are those of the value. -/
structure IsPrinted (level : ℕ) (text : Str) (v : Value) : Prop extends IsReadAs text v where
  laidOut : IsLaidOut (depths level v) text
  unescaped : text.filter isBeyondAscii = (characters v).filter isBeyondAscii

/-- A word or a number has one line, and nothing beyond ASCII. -/
theorem isPrinted_word {word : List Char} (h : Says word v) (hdepths : further level v = [])
    (hcharacters : characters v = []) : IsPrinted level (.ofChars word) v where
  toIsReadAs := h.toIsReadAs
  laidOut := by
    obtain ⟨c, rest, htext, hspace, -⟩ := h.begins
    rw [depths, hdepths]
    exact .last ⟨not_mem_of_visible h.visible, .char c, rest, htext, hspace⟩
  unescaped := by rw [filter_of_visible h.visible, hcharacters, List.filter_nil]

theorem isPrinted_str (level : ℕ) {s : Str} (hs : Unpaired s) :
    IsPrinted level (quoted indentedLayout s) (.str s) where
  toIsReadAs := isReadAs_str isFaithful_indentedLayout hs
  laidOut := .last (isContent_quoted _)
  unescaped := filter_quoted _

theorem flatMap_filter_eq {α : Type} {f : α → Str} {texts : List Str} {as : List α}
    (h : List.Forall₂ (fun text a => text.filter isBeyondAscii = (f a).filter isBeyondAscii)
      texts as) :
    texts.flatMap (List.filter isBeyondAscii) = (as.flatMap f).filter isBeyondAscii := by
  induction h with
  | nil => rfl
  | cons hfirst _ ih => rw [List.flatMap_cons, List.flatMap_cons, List.filter_append, hfirst, ih]

theorem isPrinted_list {texts : List Str} {items : List Value}
    (htexts : List.Forall₂ (IsPrinted (level + 1)) texts items) :
    IsPrinted level (enclose indentedLayout level '[' ']' texts) (.list items) where
  toIsReadAs :=
    isReadAs_list isFaithful_indentedLayout (htexts.imp fun _ _ h => h.toIsReadAs) level
  laidOut := by
    rw [depths, further, depthsOfItems_eq]
    exact isLaidOut_enclose ⟨by decide, .char '[', [], rfl, rfl⟩
      ⟨by decide, .char ']', [], rfl, rfl⟩ (htexts.imp fun _ _ h => h.laidOut)
  unescaped := by
    rw [characters, charactersOfItems_eq, filter_enclose (by decide) (by decide)]
    exact flatMap_filter_eq (htexts.imp fun _ _ h => h.unescaped)

/-- The text of an entry of a mapping at a level. -/
def IsPrintedEntry (level : ℕ) (text : Str) (entry : Value × Value) : Prop :=
  ∃ name value, entry.1 = .str name ∧ Unpaired name ∧ IsPrinted level value entry.2 ∧
    text = quoted indentedLayout name ++ .char ':' :: .char ' ' :: value

namespace IsPrintedEntry

variable {entry : Value × Value}

theorem isReadAsEntry (h : IsPrintedEntry level text entry) :
    IsReadAsEntry indentedLayout text entry := by
  obtain ⟨name, value, hname, hunpaired, hvalue, htext⟩ := h
  exact ⟨name, value, hname, hunpaired, hvalue.toIsReadAs, htext⟩

/-- The name stands on the first line of the value. -/
theorem laidOut (h : IsPrintedEntry level text entry) :
    IsLaidOut (depths level entry.2) text := by
  obtain ⟨name, value, -, -, hvalue, rfl⟩ := h
  have hname : IsContent (quoted indentedLayout name ++ [.char ':', .char ' ']) :=
    (isContent_quoted _).append (by decide)
  simpa using hvalue.laidOut.in_front hname

theorem unescaped (h : IsPrintedEntry level text entry) :
    text.filter isBeyondAscii =
      (characters entry.1 ++ characters entry.2).filter isBeyondAscii := by
  obtain ⟨name, value, hname, -, hvalue, rfl⟩ := h
  have hcolon : isBeyondAscii (.char ':') = false := rfl
  have hblank : isBeyondAscii (.char ' ') = false := rfl
  simp [hname, characters, filter_quoted, hvalue.unescaped, hcolon, hblank]

end IsPrintedEntry

theorem isPrinted_dict {texts : List Str} {entries : List (Value × Value)}
    (htexts : List.Forall₂ (IsPrintedEntry (level + 1)) texts entries)
    (hnamed : Value.Named entries) :
    IsPrinted level (enclose indentedLayout level '\x7b' '\x7d' texts) (.dict entries) where
  toIsReadAs := isReadAs_dict isFaithful_indentedLayout
    (htexts.imp fun _ _ h => h.isReadAsEntry) hnamed level
  laidOut := by
    rw [depths, further, depthsOfEntries_eq]
    exact isLaidOut_enclose ⟨by decide, .char '\x7b', [], rfl, rfl⟩
      ⟨by decide, .char '\x7d', [], rfl, rfl⟩ (htexts.imp fun _ _ h => h.laidOut)
  unescaped := by
    rw [characters, charactersOfEntries_eq, filter_enclose (by decide) (by decide)]
    exact flatMap_filter_eq (htexts.imp fun _ _ h => h.unescaped)

/-- What is written for data is read as it, laid out by its levels, and escapes nothing beyond
ASCII. -/
theorem write_isPrinted (h : IsFinite v) (level : ℕ) :
    ∃ text, write indentedLayout level v = .ok text ∧ IsPrinted level text v := by
  have hplainly : ∀ s, indentedLayout.plainly s = Str.ofChars s := fun _ => rfl
  induction h generalizing level with
  | null => exact ⟨_, by rw [write, hplainly], isPrinted_word says_null rfl rfl⟩
  | bool b => exact ⟨_, by rw [write, hplainly], isPrinted_word (says_bool b) rfl rfl⟩
  | int hshort =>
    obtain ⟨text, htext, hsays⟩ := intText_says hshort
    exact ⟨_, by rw [write, htext]; rfl, isPrinted_word hsays rfl rfl⟩
  | float hx => exact ⟨_, by rw [write, hplainly], isPrinted_word (says_float hx) rfl rfl⟩
  | str hs => exact ⟨_, by rw [write], isPrinted_str level hs⟩
  | list _ ih =>
    obtain ⟨texts, htexts, hall⟩ := writeItems_forall₂ fun v hv => ih v hv (level + 1)
    exact ⟨_, by rw [write, htexts]; rfl, isPrinted_list hall⟩
  | dict hnamed hkeys _ _ ih =>
    obtain ⟨texts, htexts, hall⟩ := writeEntries_forall₂ (unpaired_names hnamed hkeys)
      fun e he => ih e he (level + 1)
    exact ⟨_, by rw [write, htexts]; rfl, isPrinted_dict hall hnamed⟩

/-- The text of a value without surrogates has none. -/
theorem IsPrinted.isEncodable (h : IsPrinted level text v)
    (hwhole : (characters v).IsEncodable) : text.IsEncodable := by
  intro half hhalf
  have hbeyond : isBeyondAscii (.half half) = true :=
    decide_eq_true (Nat.le_trans (by decide) half.isSurrogate.1)
  have hkept : .half half ∈ (characters v).filter isBeyondAscii :=
    h.unescaped ▸ List.mem_filter.2 ⟨hhalf, hbeyond⟩
  exact hwhole half (List.mem_filter.1 hkept).1

end Json

/-! ## What is printed -/

namespace Display

open Text (Str)

variable {v : Value}

/-- A result that is neither text nor binary data is printed as its own JSON text. -/
theorem payload_of_isFinite (d : Display) (hjson : d.layout = .json) (hv : Json.IsFinite v)
    (hother : ∀ s, v ≠ .str s) : d.payload v = .line (jsonText v) := by
  have hpayload : jsonPayload (readable v) = jsonText v := by
    cases hv with
    | str s => exact absurd rfl (hother _)
    | null | bool | int | float | list | dict => rfl
  simp only [payload, hjson, hpayload]

/-- In JSON a result that is finite data without surrogates, and no text, is printed as a text with
one break at its end.  The lines of the text stand at the depths of the result, the characters in it
beyond ASCII are those of the result, and the result is what is read from it. -/
theorem payload_is_lossless (d : Display) (hjson : d.layout = .json) (hv : Json.IsFinite v)
    (hwhole : (Json.characters v).IsEncodable) (hother : ∀ s, v ≠ .str s) :
    ∃ cs, d.payload v = .whole (cs ++ ['\n']) ∧
      let text := Str.ofChars cs
      text.getLast? ≠ some Json.lineBreak ∧
      List.Forall₂ Json.IsLine (Json.depths 0 v) (text.splitOn Json.lineBreak) ∧
      text.filter Json.isBeyondAscii = (Json.characters v).filter Json.isBeyondAscii ∧
      Json.read (.ofChars (cs ++ ['\n'])) = .ok v := by
  obtain ⟨text, htext, hprinted⟩ := Json.write_isPrinted hv 0
  obtain ⟨cs, rfl⟩ := Str.isEncodable_iff.1 (hprinted.isEncodable hwhole)
  have hjsonText : jsonText v = .ok (.ofChars cs) := by rw [jsonText, Json.indented, htext]; rfl
  refine ⟨cs, ?_, hprinted.laidOut.getLast?_ne, hprinted.laidOut.lines, hprinted.unescaped, ?_⟩
  · rw [payload_of_isFinite d hjson hv hother, hjsonText]
    simp [Printed.line, Printed.lines, Printed.whole]
  · have hbreak : Json.AreSpaces [Json.lineBreak] := by
      simp [Json.AreSpaces, Json.isSpace, Json.lineBreak]
    simpa [Str.ofChars, Json.lineBreak] using hprinted.read hbreak

/-- A display for other programs. -/
def plainJson : Display :=
  { layout := .json, bare := true, quiet := false, verbose := false, width := 80, styles := false }

theorem mixed_result_is_printed :
    plainJson.layout = .json ∧ Json.IsFinite CoreHook.mixedInput ∧
      (Json.characters CoreHook.mixedInput).IsEncodable ∧ (∀ s, CoreHook.mixedInput ≠ .str s) ∧
      ∃ cs, plainJson.payload CoreHook.mixedInput = .whole (cs ++ ['\n']) ∧
        let text := Str.ofChars cs
        text.getLast? ≠ some Json.lineBreak ∧
        List.Forall₂ Json.IsLine [0, 1, 2, 2, 2, 2, 1, 1, 1, 0] (text.splitOn Json.lineBreak) ∧
        text.filter Json.isBeyondAscii = Str.ofString "é😀" ∧
        Json.read (.ofChars (cs ++ ['\n'])) = .ok CoreHook.mixedInput := by
  have hwhole : (Json.characters CoreHook.mixedInput).IsEncodable :=
    Str.isEncodable_ofChars "zé\n\"😀a".toList
  exact ⟨rfl, CoreHook.isFinite_mixedInput, hwhole, nofun,
    payload_is_lossless plainJson rfl CoreHook.isFinite_mixedInput hwhole nofun⟩

end Display

end RequestPipeline
