import RequestPipeline.Proofs.Mappings
import RequestPipeline.Proofs.StringText

/-!
# What JSON texts say

A JSON text says a value of a few kinds only: no binary data, no tuples and no records, whole
numbers that are not too long, and mappings from names that are all different.  Its strings may hold
surrogates, since an escape can spell one, but no two of them that make a pair: in a text of
characters a surrogate can only come from an escape, and the escapes of a pair are read as one
character.
-/

namespace RequestPipeline

namespace Text.Str

/-- The text has a form in UTF-8: it is made of characters. -/
def IsEncodable (s : Str) : Prop := ∀ h, .half h ∉ s

theorem isEncodable_ofChars (s : List Char) : IsEncodable (ofChars s) := by
  intro h hmem
  obtain ⟨c, -, hc⟩ := List.mem_map.1 hmem
  cases hc

theorem IsEncodable.of_suffix {s t : Str} (hs : IsEncodable s) (h : t <:+ s) : IsEncodable t :=
  fun half hmem => hs half (h.subset hmem)

theorem IsEncodable.tail {p : CodePoint} {s : Str} (hs : IsEncodable (p :: s)) : IsEncodable s :=
  hs.of_suffix (List.suffix_cons p s)

theorem IsEncodable.exists_char {p : CodePoint} {s : Str} (hs : IsEncodable (p :: s)) :
    ∃ c, p = .char c := by
  cases p with
  | char c => exact ⟨c, rfl⟩
  | half h => exact absurd List.mem_cons_self (hs h)

/-- A text that has a form in UTF-8 is that of its characters, and only such a text is. -/
theorem isEncodable_iff {s : Str} : IsEncodable s ↔ ∃ cs, s = ofChars cs := by
  refine ⟨fun h => ?_, fun ⟨cs, hcs⟩ => hcs ▸ isEncodable_ofChars cs⟩
  induction s with
  | nil => exact ⟨[], rfl⟩
  | cons p rest ih =>
    obtain ⟨c, rfl⟩ := h.exists_char
    obtain ⟨cs, rfl⟩ := ih h.tail
    exact ⟨c :: cs, rfl⟩

/-- A text that has no form in UTF-8 fails to be encoded. -/
theorem exists_encodable_eq_error {s : Str} (hs : ¬ s.IsEncodable) :
    ∃ fault, s.encodable = .error fault := by
  cases h : s.encodable with
  | ok cs => exact absurd (isEncodable_iff.2 ⟨cs, encodable_eq_ok_iff.1 h⟩) hs
  | error fault => exact ⟨fault, rfl⟩

end Text.Str

namespace Json

open Value
open Text (CodePoint Str)

/-- The values that a JSON text can say. -/
inductive IsData : Value → Prop where
  | null : IsData .null
  | bool (b : Bool) : IsData (.bool b)
  | int {n : Int} (hshort : n.natAbs < 10 ^ digitLimit) : IsData (.int n)
  | float (x : Float) : IsData (.float x)
  | str {s : Str} (hs : Unpaired s) : IsData (.str s)
  | list {items : List Value} (hitems : ∀ v ∈ items, IsData v) : IsData (.list items)
  | dict {entries : List (Value × Value)} (hnamed : Named entries)
      (hkeys : ∀ e ∈ entries, IsData e.1) (hvalues : ∀ e ∈ entries, IsData e.2) :
    IsData (.dict entries)

theorem IsData.ne_bytes {v : Value} (h : IsData v) (bytes : Text.Bytes) : v ≠ .bytes bytes := by
  rintro rfl
  cases h

/-! ## Results -/

theorem bind_eq_ok {ε α β : Type} {x : Except ε α} {next : α → Except ε β} {b : β}
    (h : (x >>= next) = .ok b) : ∃ a, x = .ok a ∧ next a = .ok b := by
  cases x with
  | error e => cases h
  | ok a => exact ⟨a, rfl, h⟩

theorem map_eq_ok {ε α β : Type} {x : Except ε α} {f : α → β} {b : β} (h : x.map f = .ok b) :
    ∃ a, x = .ok a ∧ f a = b := by
  cases x with
  | error e => cases h
  | ok a => exact ⟨a, rfl, Except.ok.inj h⟩

/-! ## Mappings -/

theorem values_putEntry {P : Value → Prop} {entries : List (Value × Value)} {key value : Value}
    (h : ∀ e ∈ entries, P e.2) (hvalue : P value) :
    ∀ e ∈ putEntry entries key value, P e.2 := by
  intro e he
  rw [putEntry] at he
  split at he
  · obtain ⟨⟨k, v⟩, he', rfl⟩ := List.mem_map.1 he
    by_cases hsame : same k key = true
    · simpa [hsame] using hvalue
    · simpa [hsame] using h _ he'
  · rcases List.mem_append.1 he with he | he
    · exact h e he
    · obtain rfl := List.mem_singleton.1 he
      exact hvalue

theorem ofEntries_eq (entries : List (Value × Value)) :
    ofEntries entries = .dict (entries.foldl (fun acc e => putEntry acc e.1 e.2) []) := rfl

/-- What holds of the values of all entries holds of the values of the mapping that they make. -/
theorem exists_ofEntries {P : Value → Prop} {entries : List (Value × Value)}
    (h : ∀ e ∈ entries, P e.2) :
    ∃ made, ofEntries entries = .dict made ∧ ∀ e ∈ made, P e.2 := by
  refine ⟨_, ofEntries_eq entries, ?_⟩
  suffices ∀ acc : List (Value × Value), (∀ e ∈ acc, P e.2) →
      ∀ e ∈ entries.foldl (fun acc e => putEntry acc e.1 e.2) acc, P e.2 from this [] nofun
  induction entries with
  | nil => exact fun _ hacc => hacc
  | cons entry rest ih =>
    obtain ⟨hentry, hrest⟩ := List.forall_mem_cons.1 h
    exact fun acc hacc => ih hrest _ (values_putEntry hacc hentry)

theorem keys_putEntry {P : Value → Prop} {entries : List (Value × Value)} {key value : Value}
    (h : ∀ e ∈ entries, P e.1) (hkey : P key) : ∀ e ∈ putEntry entries key value, P e.1 := by
  intro e he
  rw [putEntry] at he
  split at he
  · obtain ⟨⟨k, v⟩, he', rfl⟩ := List.mem_map.1 he
    by_cases hsame : same k key = true
    · simpa [hsame] using h _ he'
    · simpa [hsame] using h _ he'
  · rcases List.mem_append.1 he with he | he
    · exact h e he
    · obtain rfl := List.mem_singleton.1 he
      exact hkey

/-- An entry of a mapping as a text says it: a value under a name. -/
def IsDataEntry (e : Value × Value) : Prop := (∃ name, e.1 = .str name) ∧ IsData e.1 ∧ IsData e.2

/-- Entries under names make a mapping in which later ones replace earlier ones. -/
theorem isData_ofEntries {entries : List (Value × Value)}
    (hentries : ∀ e ∈ entries, IsDataEntry e) : IsData (ofEntries entries) := by
  suffices ∀ acc, Named acc → (∀ e ∈ acc, IsData e.1) → (∀ e ∈ acc, IsData e.2) →
      IsData (.dict (entries.foldl (fun acc e => putEntry acc e.1 e.2) acc)) from
    ofEntries_eq entries ▸ this [] named_nil nofun nofun
  induction entries with
  | nil => exact fun acc hnamed hkeys hvalues => .dict hnamed hkeys hvalues
  | cons entry rest ih =>
    intro acc hnamed hkeys hvalues
    obtain ⟨k, v⟩ := entry
    obtain ⟨⟨name, rfl⟩, hkey, hvalue⟩ := hentries _ List.mem_cons_self
    exact ih (fun e he => hentries e (List.mem_cons_of_mem _ he)) _ (named_putEntry hnamed name _)
      (keys_putEntry hkeys hkey) (values_putEntry hvalues hvalue)

/-! ## Strings -/

theorem suffix_of_fourHex? {s behind : Str} {n : Nat} (h : fourHex? s = some (n, behind)) :
    behind <:+ s := by
  unfold fourHex? at h
  split at h
  · rename_i a b c d rest
    obtain ⟨_, -, h⟩ := Option.bind_eq_some_iff.1 h
    obtain ⟨_, -, h⟩ := Option.bind_eq_some_iff.1 h
    obtain ⟨_, -, h⟩ := Option.bind_eq_some_iff.1 h
    obtain ⟨_, -, h⟩ := Option.bind_eq_some_iff.1 h
    cases h
    exact ⟨[.char a, .char b, .char c, .char d], rfl⟩
  · cases h

/-- What an escape is read as: a character that two units make, or the code point of its unit, which
then does not make a pair with an escape behind it. -/
theorem codeEscape_cases {escape rest tail : Str} {p : CodePoint}
    (h : codeEscape escape rest = .ok (p, tail)) :
    4 < rest.length ∧ tail <:+ rest ∧ ((∃ c, p = .char c) ∨
      ∃ unit, fourHex? rest = some (unit, tail) ∧ p = .ofNat unit ∧
        (isHighHalf unit = true → 6 < tail.length → EndsPair tail)) := by
  unfold codeEscape at h
  split at h
  · cases h
  · rename_i hlength
    refine ⟨Nat.lt_of_not_le hlength, ?_⟩
    split at h
    · cases h
    · rename_i unit behind hunit
      have hbehind := suffix_of_fourHex? hunit
      have hself : behind <:+ rest ∧
          ((isHighHalf unit = true → 6 < behind.length → EndsPair behind) →
          ((∃ c, CodePoint.ofNat unit = .char c) ∨
            ∃ unit', fourHex? rest = some (unit', behind) ∧ CodePoint.ofNat unit = .ofNat unit' ∧
              (isHighHalf unit' = true → 6 < behind.length → EndsPair behind))) :=
        ⟨hbehind, fun hends => .inr ⟨unit, hunit, rfl, hends⟩⟩
      split at h
      · split at h
        · rename_i second
          split at h
          · cases h
          · rename_i unit' behind' hsecond
            have hlast : behind' <:+ rest := ((suffix_of_fourHex? hsecond).trans
              ⟨[.char '\\', .char 'u'], rfl⟩).trans hbehind
            split at h
            · cases h
              exact ⟨hlast, .inl ⟨_, rfl⟩⟩
            · rename_i hlow
              cases h
              refine ⟨hself.1, hself.2 fun _ _ other heq => ?_⟩
              obtain rfl := (List.cons.inj (List.cons.inj heq).2).2
              exact ⟨unit', behind', hsecond, by simpa using hlow⟩
        · rename_i hother
          cases h
          refine ⟨hself.1, hself.2 fun _ _ second heq => ?_⟩
          exact absurd heq (hother second)
      · rename_i hshort
        cases h
        refine ⟨hself.1, hself.2 fun hhigh hlong => ?_⟩
        simp [hhigh, hlong] at hshort

theorem isLowHalf_ofNat {n : Nat} (h : isLowHalf (CodePoint.ofNat n).toNat = true) :
    isLowHalf n = true := by
  unfold CodePoint.ofNat at h
  split at h
  · exact h
  · cases (isLowHalf_char _).symm.trans h

theorem isHighHalf_ofNat {n : Nat} (h : isHighHalf (CodePoint.ofNat n).toNat = true) :
    isHighHalf n = true := by
  unfold CodePoint.ofNat at h
  split at h
  · exact h
  · cases (isHighHalf_char _).symm.trans h

/-- A second half is read from nothing but its escape. -/
theorem escape_of_readChars {opening s more tail : Str} {q : CodePoint} {fuel : Nat}
    (hs : s.IsEncodable) (h : readChars opening fuel s = .ok (q :: more, tail))
    (hq : isLowHalf q.toNat = true) :
    6 < s.length ∧ ∃ second unit rest, s = .char '\\' :: .char 'u' :: second ∧
      fourHex? second = some (unit, rest) ∧ isLowHalf unit = true := by
  have hchar : ∀ c, q ≠ .char c := by
    rintro c rfl
    cases (isLowHalf_char c).symm.trans hq
  cases fuel with
  | zero => cases h
  | succ fuel =>
    cases s with
    | nil => cases h
    | cons p rest =>
      unfold readChars at h
      split at h
      · cases h
      · split at h
        · rename_i hescape
          subst hescape
          split at h
          · cases h
          · rename_i behind
            obtain ⟨⟨decoded, behind'⟩, hdecoded, h⟩ := bind_eq_ok h
            obtain ⟨⟨more', tail'⟩, -, h⟩ := bind_eq_ok h
            cases h
            obtain ⟨hlength, -, ⟨c, hc⟩ | ⟨unit, hunit, rfl, -⟩⟩ := codeEscape_cases hdecoded
            · exact absurd hc (hchar c)
            · refine ⟨?_, _, unit, _, rfl, hunit, isLowHalf_ofNat hq⟩
              rw [List.length_cons, List.length_cons]
              omega
          · split at h
            · cases h
            · obtain ⟨⟨more', tail'⟩, -, h⟩ := bind_eq_ok h
              cases h
              exact absurd rfl (hchar _)
        · split at h
          · cases h
          · obtain ⟨⟨more', tail'⟩, -, h⟩ := bind_eq_ok h
            cases h
            obtain ⟨c, hc⟩ := hs.exists_char
            exact absurd hc (hchar c)

/-- Behind the escape of a first half there is no second half: its escape would have been read with
the first one, as a single character. -/
theorem isLowHalf_eq_false_of_codeEscape {opening escape rest behind more tail : Str}
    {p q : CodePoint} {fuel : Nat} (hs : behind.IsEncodable)
    (hp : codeEscape escape rest = .ok (p, behind)) (hhigh : isHighHalf p.toNat = true)
    (hmore : readChars opening fuel behind = .ok (q :: more, tail)) :
    isLowHalf q.toNat = false := by
  refine Bool.eq_false_iff.2 fun hlow => ?_
  obtain ⟨-, -, ⟨c, rfl⟩ | ⟨unit, -, rfl, hends⟩⟩ := codeEscape_cases hp
  · cases (isHighHalf_char c).symm.trans hhigh
  · obtain ⟨hlong, second, unit', rest', heq, hsecond, hlow'⟩ := escape_of_readChars hs hmore hlow
    obtain ⟨unit'', rest'', hsecond', hnot⟩ := hends (isHighHalf_ofNat hhigh) hlong second heq
    obtain ⟨rfl, -⟩ := Prod.mk.inj (Option.some.inj (hsecond.symm.trans hsecond'))
    cases hnot.symm.trans hlow'

/-- A string that is read from characters holds no pair of surrogates. -/
theorem unpaired_of_readChars {opening s text tail : Str} {fuel : Nat} (hs : s.IsEncodable)
    (h : readChars opening fuel s = .ok (text, tail)) : Unpaired text ∧ tail <:+ s := by
  induction fuel generalizing s text with
  | zero => cases h
  | succ fuel ih =>
    cases s with
    | nil => cases h
    | cons p rest =>
      have hsuffix : ∀ {t}, t <:+ rest → t <:+ p :: rest := fun ht =>
          ht.trans (List.suffix_cons p rest)
      -- a code point in front of a string makes no pair in it but perhaps with the first one there
      have hcons : ∀ {q : CodePoint} {behind more : Str}, behind <:+ rest →
          readChars opening fuel behind = .ok (more, tail) →
          (∀ q' ∈ more.head?, isHighHalf q.toNat = true → isLowHalf q'.toNat = false) →
          Unpaired (q :: more) ∧ tail <:+ p :: rest := by
        intro q behind more hbehind hmore hfirst
        obtain ⟨hunpaired, htail⟩ := ih (hs.tail.of_suffix hbehind) hmore
        exact ⟨List.isChain_cons.2 ⟨hfirst, hunpaired⟩, hsuffix (htail.trans hbehind)⟩
      unfold readChars at h
      split at h
      · cases h
        exact ⟨unpaired_nil, hsuffix (List.suffix_refl _)⟩
      · split at h
        · split at h
          · cases h
          · rename_i behind
            obtain ⟨⟨decoded, behind'⟩, hdecoded, h⟩ := bind_eq_ok h
            obtain ⟨⟨more, tail'⟩, hmore, h⟩ := bind_eq_ok h
            cases h
            have hbehind : behind' <:+ .char 'u' :: behind :=
              (codeEscape_cases hdecoded).2.1.trans (List.suffix_cons _ _)
            refine hcons hbehind hmore fun q' hq' hhigh => ?_
            obtain ⟨more', rfl⟩ : ∃ more', more = q' :: more' := List.head?_eq_some_iff.1 hq'
            exact isLowHalf_eq_false_of_codeEscape (hs.tail.of_suffix hbehind) hdecoded hhigh hmore
          · split at h
            · cases h
            · rename_i behind _ _ _ _ _
              obtain ⟨⟨more, tail'⟩, hmore, h⟩ := bind_eq_ok h
              cases h
              refine hcons (List.suffix_cons _ _) hmore fun q' _ hhigh => ?_
              cases (isHighHalf_char _).symm.trans hhigh
        · split at h
          · cases h
          · obtain ⟨⟨more, tail'⟩, hmore, h⟩ := bind_eq_ok h
            cases h
            refine hcons (List.suffix_refl _) hmore fun q' _ hhigh => ?_
            obtain ⟨c, rfl⟩ := hs.exists_char
            cases (isHighHalf_char c).symm.trans hhigh

/-! ## Numbers -/

theorem digit_le {c : Char} (h : c.isDigit = true) : c.toNat - 48 ≤ 9 := by
  have hrange : 48 ≤ c.toNat ∧ c.toNat ≤ 57 := Char.isDigit_iff_toNat.1 h
  omega

theorem foldl_digits_lt {digits : List Char} (h : ∀ c ∈ digits, c.isDigit = true) (n : Nat) :
    digits.foldl (fun n c => n * 10 + (c.toNat - 48)) n < (n + 1) * 10 ^ digits.length := by
  induction digits generalizing n with
  | nil => simp
  | cons c rest ih =>
    have hdigit := digit_le (h c List.mem_cons_self)
    have hrest := ih (fun d hd => h d (List.mem_cons_of_mem _ hd)) (n * 10 + (c.toNat - 48))
    calc _ < (n * 10 + (c.toNat - 48) + 1) * 10 ^ rest.length := hrest
      _ ≤ (n + 1) * 10 * 10 ^ rest.length := Nat.mul_le_mul_right _ (by omega)
      _ = (n + 1) * 10 ^ (rest.length + 1) := by rw [Nat.pow_succ', Nat.mul_assoc]

/-- So many digits spell a number below that power of ten. -/
theorem natOfDigits_lt {digits : List Char} (h : ∀ c ∈ digits, c.isDigit = true) :
    Decimal.natOfDigits digits < 10 ^ digits.length := by
  simpa [Decimal.natOfDigits] using foldl_digits_lt h 0

theorem isDigit_of_wholePart? {s whole rest : List Char} (h : wholePart? s = some (whole, rest)) :
    ∀ c ∈ whole, c.isDigit = true := by
  unfold wholePart? at h
  split at h
  · obtain ⟨rfl, -⟩ : ['0'] = whole ∧ _ = rest := by simpa using h
    simp
  · split at h
    · rename_i c tail _ hdigit
      obtain ⟨rfl, -⟩ : c :: tail.takeWhile Char.isDigit = whole ∧ _ = rest := by simpa using h
      intro d hd
      rcases List.mem_cons.1 hd with rfl | hd
      · exact hdigit
      · exact List.all_eq_true.1 List.all_takeWhile d hd
    · cases h
  · cases h

theorem isData_of_numberOf {s rest : List Char} {v : Value}
    (h : numberOf s = .ok (v, rest)) : IsData v := by
  -- the sign in front has no part in this
  unfold numberOf at h
  split at h
  dsimp only at h
  split at h
  · cases h
  · rename_i whole behind hwhole
    split at h
    · split at h
      · cases h
      · rename_i hshort
        have hlt := natOfDigits_lt (isDigit_of_wholePart? hwhole)
        have hpow : 10 ^ whole.length ≤ 10 ^ digitLimit :=
          Nat.pow_le_pow_right (by decide) (Nat.le_of_not_lt hshort)
        simp only [Except.ok.injEq, Prod.mk.injEq] at h
        obtain ⟨rfl, -⟩ := h
        refine .int (Nat.lt_of_lt_of_le ?_ hpow)
        split <;> simpa using hlt
    · simp only [Except.ok.injEq, Prod.mk.injEq] at h
      obtain ⟨rfl, -⟩ := h
      exact .float _

theorem isData_of_readNumber {s rest : Str} {v : Value} (h : readNumber s = .ok (v, rest)) :
    IsData v ∧ (s.IsEncodable → rest.IsEncodable) := by
  unfold readNumber at h
  simp only at h
  split at h
  · cases h
  · cases h
  · rename_i v' rest' hnumber
    cases h
    refine ⟨isData_of_numberOf hnumber, fun hs half hmem => ?_⟩
    rcases List.mem_append.1 hmem with hmem | hmem
    · exact Str.isEncodable_ofChars _ half hmem
    · exact hs half (List.mem_of_mem_drop hmem)

theorem isData_of_readWord? {s rest : Str} {v : Value} (h : readWord? s = some (v, rest)) :
    IsData v ∧ rest <:+ s := by
  obtain ⟨word, hword, hfound⟩ := Option.map_eq_some_iff.1 h
  have hmem := List.mem_of_find?_eq_some hword
  obtain ⟨rfl, rfl⟩ := Prod.mk.inj hfound
  refine ⟨?_, List.drop_suffix _ _⟩
  simp only [words, List.mem_cons, List.not_mem_nil, or_false] at hmem
  rcases hmem with rfl | rfl | rfl | rfl | rfl | rfl <;> constructor

/-! ## Values -/

theorem skipSpace_suffix (s : Str) : skipSpace s <:+ s := List.dropWhile_suffix _

/-- What the readers of values, of items and of entries read with some fuel from characters. -/
structure ReadsData (fuel : Nat) : Prop where
  value : ∀ {s v rest}, s.IsEncodable → readValue fuel s = .ok (v, rest) →
    IsData v ∧ rest.IsEncodable
  items : ∀ {s items rest}, s.IsEncodable → readItems fuel s = .ok (items, rest) →
    (∀ v ∈ items, IsData v) ∧ rest.IsEncodable
  entries : ∀ {s entries rest}, s.IsEncodable → readEntries fuel s = .ok (entries, rest) →
    (∀ e ∈ entries, IsDataEntry e) ∧ rest.IsEncodable

theorem ReadsData.zero : ReadsData 0 :=
  ⟨fun _ h => (by cases h), fun _ h => (by cases h), fun _ h => (by cases h)⟩

section Values

variable {fuel : Nat} {s rest : Str}

theorem isEncodable_behind {p : CodePoint} {s tail : Str} (hs : s.IsEncodable)
    (h : skipSpace s = p :: tail) : tail.IsEncodable :=
  hs.of_suffix ((List.suffix_cons p tail).trans (h ▸ skipSpace_suffix s))

theorem isEncodable_skipSpace (hs : s.IsEncodable) : (skipSpace s).IsEncodable :=
  hs.of_suffix (skipSpace_suffix s)

theorem ReadsData.value_succ (ih : ReadsData fuel) {v : Value} (hs : s.IsEncodable)
    (h : readValue (fuel + 1) s = .ok (v, rest)) : IsData v ∧ rest.IsEncodable := by
  unfold readValue at h
  split at h
  case h_1 =>
    obtain ⟨⟨text, tail⟩, hread, htext⟩ := bind_eq_ok h
    cases htext
    obtain ⟨hunpaired, hsuffix⟩ := unpaired_of_readChars hs.tail hread
    exact ⟨.str hunpaired, hs.tail.of_suffix hsuffix⟩
  case h_2 =>
    split at h
    · rename_i hskip
      cases h
      exact ⟨.list nofun, isEncodable_behind hs.tail hskip⟩
    · obtain ⟨⟨items, tail⟩, hitems, hlist⟩ := bind_eq_ok h
      cases hlist
      obtain ⟨hdata, htail⟩ := ih.items (isEncodable_skipSpace hs.tail) hitems
      exact ⟨.list hdata, htail⟩
  case h_3 =>
    split at h
    · rename_i hskip
      cases h
      exact ⟨.dict named_nil nofun nofun, isEncodable_behind hs.tail hskip⟩
    · obtain ⟨⟨entries, tail⟩, hentries, hdict⟩ := bind_eq_ok h
      cases hdict
      obtain ⟨hdata, htail⟩ := ih.entries (isEncodable_skipSpace hs.tail) hentries
      exact ⟨isData_ofEntries hdata, htail⟩
  case h_4 =>
    split at h
    · rename_i found hword
      cases h
      exact (isData_of_readWord? hword).imp_right hs.of_suffix
    · exact (isData_of_readNumber h).imp_right fun hrest => hrest hs

theorem ReadsData.items_succ (ih : ReadsData fuel) {items : List Value} (hs : s.IsEncodable)
    (h : readItems (fuel + 1) s = .ok (items, rest)) :
    (∀ v ∈ items, IsData v) ∧ rest.IsEncodable := by
  unfold readItems at h
  obtain ⟨⟨item, behind⟩, hitem, h⟩ := bind_eq_ok h
  obtain ⟨hfirst, hbehind⟩ := ih.value hs hitem
  simp only at h
  split at h
  · rename_i hskip
    cases h
    exact ⟨by simpa using hfirst, isEncodable_behind hbehind hskip⟩
  · rename_i hskip
    obtain ⟨⟨more, tail⟩, hmore, hlist⟩ := bind_eq_ok h
    cases hlist
    obtain ⟨hdata, htail⟩ :=
      ih.items (isEncodable_skipSpace (isEncodable_behind hbehind hskip)) hmore
    exact ⟨List.forall_mem_cons.2 ⟨hfirst, hdata⟩, htail⟩
  · cases h

theorem ReadsData.entries_succ (ih : ReadsData fuel) {entries : List (Value × Value)}
    (hs : s.IsEncodable) (h : readEntries (fuel + 1) s = .ok (entries, rest)) :
    (∀ e ∈ entries, IsDataEntry e) ∧ rest.IsEncodable := by
  unfold readEntries at h
  split at h
  · obtain ⟨⟨name, behind⟩, hname, h⟩ := bind_eq_ok h
    obtain ⟨hunpaired, hsuffix⟩ := unpaired_of_readChars hs.tail hname
    have hbehind := hs.tail.of_suffix hsuffix
    simp only at h
    split at h
    · rename_i hcolon
      obtain ⟨⟨value, behind'⟩, hvalue, h⟩ := bind_eq_ok h
      obtain ⟨hdata, hbehind'⟩ :=
        ih.value (isEncodable_skipSpace (isEncodable_behind hbehind hcolon)) hvalue
      have hfirst : IsDataEntry (.str name, value) := ⟨⟨name, rfl⟩, .str hunpaired, hdata⟩
      simp only at h
      split at h
      · rename_i hskip
        cases h
        exact ⟨by simpa using hfirst, isEncodable_behind hbehind' hskip⟩
      · rename_i hskip
        obtain ⟨⟨more, tail⟩, hmore, hentries⟩ := bind_eq_ok h
        cases hentries
        obtain ⟨hrest, htail⟩ :=
          ih.entries (isEncodable_skipSpace (isEncodable_behind hbehind' hskip)) hmore
        exact ⟨List.forall_mem_cons.2 ⟨hfirst, hrest⟩, htail⟩
      · cases h
    · cases h
  · cases h

end Values

theorem readsData (fuel : Nat) : ReadsData fuel := by
  induction fuel with
  | zero => exact .zero
  | succ fuel ih => exact ⟨ih.value_succ, ih.items_succ, ih.entries_succ⟩

/-- A text of characters that is read says one of the values that texts can say. -/
theorem isData_of_read {s : Str} {v : Value} (hs : s.IsEncodable) (h : read s = .ok v) :
    IsData v := by
  rw [read] at h
  split at h
  · cases h
  · rw [valueOf] at h
    split at h
    · rename_i v' hall
      cases h
      rw [readAll] at hall
      obtain ⟨⟨value, behind⟩, hvalue, hend⟩ := bind_eq_ok hall
      simp only at hend
      split at hend
      · cases hend
        exact ((readsData _).value (isEncodable_skipSpace hs) hvalue).1
      · cases hend
    · cases h

end Json

end RequestPipeline
