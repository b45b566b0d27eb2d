import Mathlib.Data.List.TakeWhile
import RequestPipeline.Proofs.Calls

/-!
# Header fields of a message

A message is made of header fields in several layers: those of the library below, over them those of
the request, a cookie from the jar, and what the message needs besides.  A field of the request goes
through all of them unchanged.  The cookie is the only field that the jar has a say in, and it has
none where the request brings a cookie of its own.
-/

namespace RequestPipeline

theorem notAscii?_eq_none {text : List Char} (h : ∀ c ∈ text, isAscii c = true) :
    notAscii? text = none := by
  rw [notAscii?, List.dropWhile_eq_nil_iff.2 h]

namespace Headers

/-- The fields of a name, which is in lower case. -/
def fieldsOf (h : Headers) (name : List Char) : List HeaderField :=
  h.fields.filter fun f => f.name == name

/-! ## Putting a field into a list -/

section Put

variable (fields : List HeaderField) (field : HeaderField) {name : List Char}

theorem filter_put_self : (put fields field).filter (fun f => f.name == field.name) = [field] := by
  induction fields with
  | nil => simp [put]
  | cons f rest ih =>
    by_cases hname : f.name = field.name
    · have hnone : (rest.filter fun g => g.name != field.name).filter
          (fun g => g.name == field.name) = [] := by simp [List.filter_filter]
      rw [put, if_pos hname, List.filter_cons_of_pos (by simp), hnone]
    · rw [put, if_neg hname, List.filter_cons_of_neg (by simpa using hname), ih]

/-- What a filter keeps that does not look at fields of the name stays. -/
theorem filter_put {p : HeaderField → Bool} (hp : p field = false)
    (hname : ∀ f : HeaderField, f.name = field.name → p f = false) :
    (put fields field).filter p = fields.filter p := by
  induction fields with
  | nil => simp [put, hp]
  | cons f rest ih =>
    by_cases hf : f.name = field.name
    · have hkept : (rest.filter fun g => g.name != field.name).filter p = rest.filter p := by
        rw [List.filter_filter]
        refine List.filter_congr fun g _ => ?_
        by_cases hg : g.name = field.name
        · simp [hname g hg]
        · simp [hg]
      rw [put, if_pos hf, List.filter_cons_of_neg (by simp [hp]), hkept,
        List.filter_cons_of_neg (by simp [hname f hf])]
    · rw [put, if_neg hf, List.filter_cons, List.filter_cons, ih]

theorem filter_put_of_ne (hne : field.name ≠ name) :
    (put fields field).filter (fun f => f.name == name) = fields.filter fun f => f.name == name :=
  filter_put fields field (by simpa using hne) fun f hf => by simpa [hf] using hne

/-- Fields of another name can be removed before a field is put in as well as after that. -/
theorem filter_ne_put (hne : field.name ≠ name) :
    (put fields field).filter (fun f => f.name != name) =
      put (fields.filter fun f => f.name != name) field := by
  induction fields with
  | nil => simp [put, hne]
  | cons f rest ih =>
    by_cases hf : f.name = field.name
    · have hkept : f.name ≠ name := hf ▸ hne
      rw [put, if_pos hf, List.filter_cons_of_pos (by simpa using hne),
        List.filter_cons_of_pos (by simpa using hkept), put, if_pos hf, List.filter_filter,
        List.filter_filter]
      exact congrArg _ (List.filter_congr fun g _ => Bool.and_comm _ _)
    · rw [put, if_neg hf, List.filter_cons, List.filter_cons, ih]
      split
      · rw [put, if_neg hf]
      · rfl

theorem mem_put {f : HeaderField} (h : f ∈ put fields field) : f = field ∨ f ∈ fields := by
  induction fields with
  | nil => exact .inl (List.mem_singleton.1 h)
  | cons g rest ih =>
    rw [put] at h
    split at h
    · rcases List.mem_cons.1 h with rfl | hrest
      · exact .inl rfl
      · exact .inr (List.mem_cons_of_mem _ (List.mem_filter.1 hrest).1)
    · rcases List.mem_cons.1 h with rfl | hrest
      · exact .inr List.mem_cons_self
      · exact (ih hrest).imp id (List.mem_cons_of_mem _)

end Put

/-! ## Fields by name -/

variable {h h' base merged : Headers} {name : List Char}

theorem get?_of_fieldsOf {name : String}
    (hsame : h'.fieldsOf name.toList = h.fieldsOf name.toList) :
    h'.get? name = h.get? name := by
  have hvalues : h'.values name = h.values name := congrArg _ hsame
  rw [get?, get?, hvalues]

theorem values_of_single {name : String} {value : List Char}
    (hsingle : h.fieldsOf name.toList = [⟨name.toList, value⟩]) : h.values name = [value] :=
  congrArg (List.map HeaderField.value) hsingle

theorem get?_of_single {name : String} {value : List Char}
    (hsingle : h.fieldsOf name.toList = [⟨name.toList, value⟩]) : h.get? name = some value := by
  simp [get?, values_of_single hsingle, joined, List.intercalate]

theorem contains_eq (h : Headers) (name : String) :
    h.contains name = !(h.fieldsOf name.toList).isEmpty := by
  rw [Bool.eq_iff_iff, contains, fieldsOf]
  simp [List.filter_eq_nil_iff]

theorem contains_eq_false_iff {name : String} :
    h.contains name = false ↔ h.fieldsOf name.toList = [] := by
  simp [contains_eq]

theorem fieldsOf_set_self (h : Headers) (name value : String) :
    (h.set name value).fieldsOf (fold name.toList) = [⟨fold name.toList, value.toList⟩] :=
  filter_put_self h.fields ⟨fold name.toList, value.toList⟩

theorem fieldsOf_set_of_ne (h : Headers) {name value : String} {other : List Char}
    (hne : fold name.toList ≠ other) : (h.set name value).fieldsOf other = h.fieldsOf other :=
  filter_put_of_ne h.fields ⟨fold name.toList, value.toList⟩ hne

/-- A default does not touch fields that are there, nor those of other names. -/
theorem fieldsOf_setDefault {other value : String} (hlower : fold other.toList = other.toList)
    (hsome : name = other.toList → h.fieldsOf name ≠ []) :
    (h.setDefault other value).fieldsOf name = h.fieldsOf name := by
  rw [setDefault]
  split
  · rfl
  · rename_i hmissing
    refine h.fieldsOf_set_of_ne fun heq => ?_
    rw [hlower] at heq
    subst heq
    exact hsome rfl (contains_eq_false_iff.1 (by simpa using hmissing))

/-! ## Fields over those of the library -/

/-- Fields can be put over others if their names are in the character set of these. -/
theorem exists_update?_iff :
    (∃ merged, base.update? h = .ok merged) ↔
      ∀ f ∈ h.fields, base.charset = .ascii → notAscii? (Text.lower f.name) = none := by
  have hnone : (h.fields.findSome? fun f =>
      refusal? { base with settled := some base.charset } (Text.lower f.name)) = none ↔
      ∀ f ∈ h.fields, base.charset = .ascii → notAscii? (Text.lower f.name) = none := by
    simp [List.findSome?_eq_none_iff, refusal?]
  rw [← hnone, update?]
  split <;> simp_all

theorem fields_of_update? (hmerged : base.update? h = .ok merged) :
    merged.fields =
      base.fields.filter (fun f => !(h.fields.any fun g => g.name == f.name)) ++ h.fields := by
  rw [update?] at hmerged
  split at hmerged
  · cases hmerged
  · exact congrArg fields (Except.ok.inj hmerged).symm

/-- The fields of a name take the place of others of that name. -/
theorem fieldsOf_update? (hmerged : base.update? h = .ok merged) (hsome : h.fieldsOf name ≠ []) :
    merged.fieldsOf name = h.fieldsOf name := by
  obtain ⟨g, hg⟩ := List.exists_mem_of_ne_nil _ hsome
  obtain ⟨hmem, hname⟩ := List.mem_filter.1 hg
  have hreplaced : (base.fields.filter fun f => !(h.fields.any fun g => g.name == f.name)).filter
      (fun f => f.name == name) = [] := by
    simp only [List.filter_filter, List.filter_eq_nil_iff, Bool.and_eq_true, Bool.not_eq_true',
      not_and, beq_iff_eq]
    rintro f - rfl hnone
    exact absurd hname (by simpa using List.any_eq_false.1 hnone g hmem)
  rw [fieldsOf, fields_of_update? hmerged, List.filter_append, hreplaced, List.nil_append, fieldsOf]

/-- A field whose name is ASCII can go with others. -/
theorem exists_update?_set (hmerges : ∃ merged, base.update? h = .ok merged) (name value : String)
    (hname : notAscii? (Text.lower (fold name.toList)) = none) :
    ∃ merged, base.update? (h.set name value) = .ok merged := by
  rw [exists_update?_iff] at hmerges ⊢
  intro f hf hascii
  rcases mem_put _ _ hf with rfl | hf
  · exact hname
  · exact hmerges f hf hascii

/-! ## Fields but for the cookie -/

/-- Fields that are the same but for the cookie. -/
def SameButCookie (h h' : Headers) : Prop := (h.erase "cookie").fields = (h'.erase "cookie").fields

theorem fieldsOf_erase (hne : name ≠ "cookie".toList) :
    (h.erase "cookie").fieldsOf name = h.fieldsOf name := by
  rw [fieldsOf, erase, List.filter_filter]
  refine List.filter_congr fun f _ => ?_
  by_cases hf : f.name = name
  · subst hf
    simpa using hne
  · simp [hf]

theorem SameButCookie.fieldsOf_eq (hsame : h.SameButCookie h') (hne : name ≠ "cookie".toList) :
    h.fieldsOf name = h'.fieldsOf name := by
  have hfiltered : (h.erase "cookie").fieldsOf name = (h'.erase "cookie").fieldsOf name :=
    congrArg (List.filter _) hsame
  rwa [fieldsOf_erase hne, fieldsOf_erase hne] at hfiltered

theorem SameButCookie.contains_eq (hsame : h.SameButCookie h') {name : String}
    (hne : name ≠ "cookie") : h.contains name = h'.contains name := by
  have hne : name.toList ≠ "cookie".toList := fun heq => hne (String.toList_inj.1 heq)
  rw [Headers.contains_eq, Headers.contains_eq, hsame.fieldsOf_eq hne]

theorem SameButCookie.put (hsame : h.SameButCookie h') {field : HeaderField}
    (hne : field.name ≠ "cookie".toList) (settled settled' : Option HeaderCharset) :
    SameButCookie ⟨Headers.put h.fields field, settled⟩
      ⟨Headers.put h'.fields field, settled'⟩ := by
  rw [SameButCookie, erase, erase]
  simp only [filter_ne_put _ _ hne]
  exact congrArg (Headers.put · field) hsame

end Headers

namespace Transmission

open Headers

variable {base h h' : Headers} {cookie : Option (List Char)} {name : List Char}

/-! ## The cookie -/

/-- A cookie goes with fields that do not have one, and all else stays. -/
theorem withCookie_cases (hcookie : withCookie base cookie = .ok h) :
    h.fields = base.fields ∨ base.contains "cookie" = false ∧
      ∃ value, cookie = some value ∧ h.fields = put base.fields ⟨"cookie".toList, value⟩ := by
  cases cookie with
  | none =>
    obtain rfl := Except.ok.inj hcookie
    exact .inl rfl
  | some value =>
    cases hthere : base.contains "cookie" with
    | true =>
      simp only [withCookie, hthere, if_true] at hcookie
      obtain rfl := Except.ok.inj hcookie
      exact .inl (fields_read base)
    | false =>
      have hlower : fold "cookie".toList = "cookie".toList := by decide
      simp only [withCookie, hthere, Bool.false_eq_true, if_false, set?, hlower] at hcookie
      split at hcookie
      · cases hcookie
      · obtain rfl := Except.ok.inj hcookie
        exact .inr ⟨rfl, value, rfl, by simp⟩

/-- Without a cookie, or over one that is there, nothing changes. -/
theorem fields_withCookie (hcookie : withCookie base cookie = .ok h)
    (hfree : cookie = none ∨ base.contains "cookie" = true) : h.fields = base.fields := by
  obtain hfields | ⟨hmissing, value, rfl, -⟩ := withCookie_cases hcookie
  · exact hfields
  · simp [hmissing] at hfree

theorem fieldsOf_withCookie (hcookie : withCookie base cookie = .ok h)
    (hsome : name = "cookie".toList → base.fieldsOf name ≠ []) :
    h.fieldsOf name = base.fieldsOf name := by
  obtain hfields | ⟨hmissing, value, -, hfields⟩ := withCookie_cases hcookie
  · rw [fieldsOf, hfields, fieldsOf]
  · rw [fieldsOf, hfields]
    refine filter_put_of_ne _ _ fun heq => ?_
    subst heq
    exact hsome rfl (contains_eq_false_iff.1 hmissing)

theorem sameButCookie_withCookie (hcookie : withCookie base cookie = .ok h) :
    h.SameButCookie base := by
  obtain hfields | ⟨-, value, -, hfields⟩ := withCookie_cases hcookie
  · rw [SameButCookie, erase, erase, hfields]
  · rw [SameButCookie, erase, erase, hfields]
    exact filter_put _ _ (by simp) fun f hf => by simp [hf]

/-! ## What the message needs besides -/

/-- The fields that a message needs besides do not stand under names that are there. -/
theorem fieldsOf_completed (method : String) (url : Url)
    (hhost : name = "host".toList → h.fieldsOf name ≠ [])
    (hlength : name = "content-length".toList → h.fieldsOf name ≠ []) :
    (completed method url h).fieldsOf name = h.fieldsOf name := by
  have hother : ∀ {own : String}, h.contains own = false →
      (name = own.toList → h.fieldsOf name ≠ []) → own.toList ≠ name := by
    rintro own hmissing hthere rfl
    exact hthere rfl (contains_eq_false_iff.1 hmissing)
  have hhost' : (if h.contains "host" || url.host.isEmpty then []
      else [(⟨"host".toList, url.netLocation⟩ : HeaderField)]).filter (fun f => f.name == name) =
        [] := by
    cases hmissing : h.contains "host" with
    | true => rfl
    | false =>
      have hne := hother hmissing hhost
      cases url.host.isEmpty with
      | true => rfl
      | false => simpa using hne
  have hlength' : (if !(h.contains "content-length" || h.contains "transfer-encoding") &&
      announcesLength method then [(⟨"content-length".toList, ['0']⟩ : HeaderField)]
      else []).filter (fun f => f.name == name) = [] := by
    cases hmissing : h.contains "content-length" with
    | true => rfl
    | false =>
      have hne := hother hmissing hlength
      cases h.contains "transfer-encoding" with
      | true => rfl
      | false =>
        cases announcesLength method with
        | true => simpa using hne
        | false => rfl
  simp only [fieldsOf, completed, List.filter_append, hhost', hlength', List.nil_append]

/-- What a message needs besides does not depend on its cookie. -/
theorem erase_completed (method : String) (url : Url) (hsame : h.SameButCookie h') :
    (completed method url h).erase "cookie" = (completed method url h').erase "cookie" := by
  have hfields : h.fields.filter (fun f => f.name != "cookie".toList) =
      h'.fields.filter fun f => f.name != "cookie".toList := hsame
  simp only [completed, erase, List.filter_append, hfields, hsame.contains_eq (by decide :
    "host" ≠ "cookie"), hsame.contains_eq (by decide : "content-length" ≠ "cookie"),
    hsame.contains_eq (by decide : "transfer-encoding" ≠ "cookie")]

/-- The fields with the length of a body that is not empty. -/
def withLength (h : Headers) (body : Text.Bytes) : Headers :=
  if body.isEmpty then h else h.setDefault "content-length" (toString body.length)

theorem SameButCookie.withLength (hsame : h.SameButCookie h') (body : Text.Bytes) :
    (withLength h body).SameButCookie (withLength h' body) := by
  rw [Transmission.withLength, Transmission.withLength]
  split
  · exact hsame
  · rw [setDefault, setDefault, hsame.contains_eq (by decide)]
    split
    · exact hsame
    · have hne : fold "content-length".toList ≠ "cookie".toList := by decide
      exact hsame.put hne _ _

/-- Only fields are part of a message. -/
theorem completed_of_fields (hfields : h.fields = h'.fields) (method : String) (url : Url)
    (body : Text.Bytes) :
    completed method url (withLength h body) = completed method url (withLength h' body) := by
  obtain ⟨fields, settled⟩ := h
  obtain ⟨fields', settled'⟩ := h'
  obtain rfl : fields = fields' := hfields
  have hthere : contains ⟨fields, settled⟩ "content-length" =
      contains ⟨fields, settled'⟩ "content-length" := rfl
  rw [withLength, withLength, setDefault, setDefault, hthere]
  split
  · rfl
  · split <;> rfl

/-! ## All layers -/

variable {defaults : Headers} {cookie? : Url → Option (List Char)} {method target : String}
  {body : Option Text.Bytes} {timeout : Float} {t : Transmission}

/-- What a message is made of, if it can be made. -/
theorem ofParts_eq_ok
    (ht : ofParts defaults cookie? method target h body timeout = .ok t) :
    ∃ url merged brought, Url.read target.toList = .ok url ∧ defaults.update? h = .ok merged ∧
      withCookie merged (cookie? url.rooted) = .ok brought ∧
      t = ⟨String.ofList (Text.upper method.toList), url.rooted,
        completed (String.ofList (Text.upper method.toList)) url.rooted
          (withLength brought (body.getD [])), body.getD [], timeout⟩ := by
  unfold ofParts at ht
  cases hurl : Url.read target.toList with
  | error fault =>
    rw [hurl] at ht
    cases ht
  | ok url =>
    cases hmerged : defaults.update? h with
    | error fault =>
      rw [hurl, hmerged] at ht
      cases ht
    | ok merged =>
      cases hbrought : withCookie merged (cookie? url.rooted) with
      | error fault =>
        simp only [hurl, hmerged, bind, Except.bind, Except.mapError, hbrought] at ht
        cases ht
      | ok brought =>
        simp only [hurl, hmerged, bind, Except.bind, Except.mapError, hbrought] at ht
        exact ⟨url, merged, brought, rfl, rfl, hbrought, (Except.ok.inj ht).symm⟩

/-- The names of the fields that a message may get besides those it is made of. -/
def addedNames : List (List Char) := ["cookie".toList, "host".toList, "content-length".toList]

/-- A message has the fields of its request over those of the library, and takes others only under
names that are free. -/
theorem fieldsOf_ofParts (ht : ofParts defaults cookie? method target h body timeout = .ok t) :
    ∃ merged, defaults.update? h = .ok merged ∧ ∀ name,
      (name ∈ addedNames → merged.fieldsOf name ≠ []) →
        t.headers.fieldsOf name = merged.fieldsOf name := by
  obtain ⟨url, merged, brought, -, hmerged, hcookie, rfl⟩ := ofParts_eq_ok ht
  refine ⟨merged, hmerged, fun name hsome => ?_⟩
  have hbrought : brought.fieldsOf name = merged.fieldsOf name :=
    fieldsOf_withCookie hcookie fun hname => hsome (by simp [addedNames, hname])
  have hlength : (withLength brought (body.getD [])).fieldsOf name = merged.fieldsOf name := by
    rw [withLength, ← hbrought]
    split
    · rfl
    · refine fieldsOf_setDefault (by decide) fun hname => ?_
      rw [hbrought]
      exact hsome (by simp [addedNames, hname])
  rw [← hlength] at hsome ⊢
  exact fieldsOf_completed _ _ (fun hname => hsome (by simp [addedNames, hname]))
    fun hname => hsome (by simp [addedNames, hname])

/-- Fields of the request go out unchanged. -/
theorem fieldsOf_ofParts_of_given
    (ht : ofParts defaults cookie? method target h body timeout = .ok t)
    (hsome : h.fieldsOf name ≠ []) : t.headers.fieldsOf name = h.fieldsOf name := by
  obtain ⟨merged, hmerged, hkept⟩ := fieldsOf_ofParts ht
  have hgiven := fieldsOf_update? hmerged hsome
  rw [hkept name fun _ => hgiven ▸ hsome, hgiven]

end Transmission

end RequestPipeline
