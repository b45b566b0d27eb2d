import RequestPipeline.Proofs.SentBody

/-!
# Input that comes back

A service that echoes a request gives its caller the input again.  The body that finite data is
written as is ASCII and not empty, so that an answer with this body is decoded, whatever its header
fields say, and decoded into the same data: entries in their order, and each number and each truth
value of its kind.
-/

namespace RequestPipeline

variable {κ μ : Type}

namespace Json

open Text

variable {text : List Char} {v : Value}

theorem IsFinite.isData (h : IsFinite v) : IsData v := by
  induction h with
  | null => exact .null
  | bool b => exact .bool b
  | int hshort => exact .int hshort
  | float hx => exact .float _
  | str hs => exact .str hs
  | list _ ih => exact .list ih
  | dict hnamed _ _ ihkeys ihvalues => exact .dict hnamed ihkeys ihvalues

theorem ascii_of_visible (h : ∀ c ∈ text, IsVisible c) : ∀ b ∈ encodeUtf8 text, b.toNat < 0x80 := by
  rw [encodeUtf8_of_visible h]
  intro b hb
  obtain ⟨c, hc, rfl⟩ := List.mem_map.1 hb
  exact (byteOf_bounds (h c hc)).2

/-- The bytes of a text that says something are not empty. -/
theorem Says.encodeUtf8_ne_nil (h : Says text v) : encodeUtf8 text ≠ [] := by
  obtain ⟨c, rest, htext, -⟩ := h.begins
  rw [encodeUtf8_of_visible h.visible]
  intro hnil
  rw [List.map_eq_nil_iff.1 hnil] at htext
  cases htext

end Json

/-- A successful answer that sends a body back, with whatever header fields. -/
structure Response.Echoes (a : Response) (body : Text.Bytes) : Prop where
  success : 200 ≤ a.status ∧ a.status ≤ 299
  body : a.body = body

namespace CoreHook

open Step

variable {v : Value}

/-- The data of a request becomes what the body of a successful answer says. -/
theorem run_decode_of_json {s : Session κ μ} {a : Response}
    (hresponse : s.request.response = some a) (hsuccess : a.isSuccess = true)
    (hbody : a.body ≠ []) (hjson : a.json = .ok v) (houtput : s.request.output = none) :
    (decode : Step κ μ Unit).run s =
      (.ok (), { s with request := { s.request with data := v } }) := by
  have hempty : a.body.isEmpty = false := by simpa using hbody
  have hkept : (modifyRequest fun r => { r with data := v } : Step κ μ Unit).run s =
      (.ok (), { s with request := { s.request with data := v } }) := rfl
  rw [← hkept, decode, run_bind, run_getRequest]
  simp [hresponse, hsuccess, hempty, hjson, houtput]

/-- Input of every kind that comes back, with characters that are escaped. -/
def mixedInput : Value :=
  .dict [(.str "z", .list [.null, .bool true, .int 1, .int (-10 ^ 40)]), (.str "é\n", .str "\"😀"),
    (.str "a", .dict [])]

theorem isFinite_mixedInput : Json.IsFinite mixedInput := by
  have hshort : (-10 ^ 40 : ℤ).natAbs < 10 ^ Json.digitLimit := by
    have hlimit : 40 < Json.digitLimit := by decide
    calc (-10 ^ 40 : ℤ).natAbs = 10 ^ 40 := by rfl
      _ < 10 ^ Json.digitLimit := Nat.pow_lt_pow_right (by decide) hlimit
  have hlist : Json.IsFinite (.list [.null, .bool true, .int 1, .int (-10 ^ 40)]) := by
    refine .list fun v hv => ?_
    simp only [List.mem_cons, List.not_mem_nil, or_false] at hv
    rcases hv with rfl | rfl | rfl | rfl
    · exact .null
    · exact .bool true
    · exact .int (Nat.one_lt_pow (by decide) (by decide))
    · exact .int hshort
  have hempty : Json.IsFinite (.dict []) := .dict Value.named_nil nofun nofun
  have hword : ∀ s : String, Json.IsFinite (.str s) := fun s => .str (Json.unpaired_ofChars _)
  refine .dict ⟨by simp, by simp⟩ (by simp [hword]) fun e he => ?_
  simp only [List.mem_cons, List.not_mem_nil, or_false] at he
  rcases he with rfl | rfl | rfl
  · exact hlist
  · exact hword _
  · exact hempty

end CoreHook

end RequestPipeline
