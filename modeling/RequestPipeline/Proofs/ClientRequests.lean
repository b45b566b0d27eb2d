import RequestPipeline.Client
import RequestPipeline.Proofs.Steps

/-!
# Requests of a client

A client makes its requests by one template.  Options then change header fields and parts of the
configuration, and nothing else of a request; what its input is makes no difference to them.
-/

namespace RequestPipeline

variable {κ μ : Type}

/-! ## Input and options -/

/-- The request with another input. -/
def Request.withParams (params : Value) (r : Request κ) : Request κ := { r with params }

namespace Session

/-- The session with another input. -/
def withParams (params : Value) (s : Session κ μ) : Session κ μ :=
  { s with request := s.request.withParams params }

/-- What the options of a request leave alone. -/
structure Optioned (s s' : Session κ μ) : Prop where
  request : s'.request =
    { s.request with headers := s'.request.headers, config := s'.request.config }
  endpoint : s'.request.config.endpoint = s.request.config.endpoint
  world : s'.world = { s.world with failures := s'.world.failures }

theorem Optioned.events {s s' : Session κ μ} (h : Optioned s s') :
    s'.world.events = s.world.events := (congrArg World.events h.world :)

theorem Optioned.tape {s s' : Session κ μ} (h : Optioned s s') :
    s'.world.tape = s.world.tape := (congrArg World.tape h.world :)

theorem Optioned.cookies {s s' : Session κ μ} (h : Optioned s s') :
    s'.world.cookies = s.world.cookies := (congrArg World.cookies h.world :)

theorem Optioned.trans {s s' s'' : Session κ μ} (h : Optioned s s') (h' : Optioned s' s'') :
    Optioned s s'' where
  request := by rw [h'.request, h.request]
  endpoint := h'.endpoint.trans h.endpoint
  world := by rw [h'.world, h.world]

end Session

namespace Step

theorem optioned_of_withOption {s : Session κ μ} {option : RequestOption} {r : Request κ}
    (h : s.request.withOption option = .ok r) : s.Optioned { s with request := r } := by
  cases option with
  | header name value =>
    simp only [Request.withOption] at h
    cases hset : s.request.headers.set? name.toList value.toList with
    | error fault =>
      rw [hset] at h
      cases h
    | ok headers =>
      rw [hset] at h
      cases h
      exact ⟨rfl, rfl, rfl⟩
  | _ =>
    cases h
    exact ⟨rfl, rfl, rfl⟩

theorem withOption_withParams (option : RequestOption) (params : Value) (r : Request κ) :
    (r.withParams params).withOption option = (r.withOption option).map (·.withParams params) := by
  cases option with
  | header name value =>
    simp only [Request.withOption, Request.withParams]
    cases r.headers.set? name.toList value.toList <;> rfl
  | _ => rfl

theorem optioned_applyOptions (options : List RequestOption) (s : Session κ μ) :
    s.Optioned ((applyOptions options).run s).2 := by
  induction options generalizing s with
  | nil => exact ⟨rfl, rfl, rfl⟩
  | cons option rest ih =>
    simp only [applyOptions, run_bind, run_getRequest]
    cases hchanged : s.request.withOption option with
    | error fault =>
      simp only [mapError_error, run_orFail_error, run_fail]
      exact ⟨rfl, rfl, rfl⟩
    | ok r => exact (optioned_of_withOption hchanged).trans (ih _)

/-- The options of a request do the same whatever its input is. -/
theorem run_applyOptions_withParams (options : List RequestOption) (params : Value)
    (s : Session κ μ) :
    (applyOptions options).run (s.withParams params) =
      (((applyOptions options).run s).1, ((applyOptions options).run s).2.withParams params) := by
  induction options generalizing s with
  | nil => rfl
  | cons option rest ih =>
    have hchanged := withOption_withParams option params s.request
    simp only [applyOptions, run_bind, run_getRequest, Session.withParams] at hchanged ⊢
    rw [hchanged]
    cases s.request.withOption option with
    | error fault =>
      simp only [Except.map, mapError_error, run_orFail_error, run_fail]
    | ok r => exact ih { s with request := r }

end Step

/-! ## Requests as they are made and sent -/

namespace Client

variable {c : Client κ} {w : World μ} {operation : Operation} {options : List RequestOption}
  {context : Option Context}

/-- What a new request takes from its client; an endpoint that is no URL shows in its error. -/
theorem request_blankRequest (c : Client κ) (operation : Operation) (params : Value) (w : World μ) :
    (c.blankRequest operation params none w).request =
      { (c.blankRequest operation params none w).request with
        config := c.requestConfig, hooks := c.hooks, params, budget := c.budget
        body := none, built := false } := by
  cases hfault : Request.endpointFault? c.requestConfig.endpoint <;>
    simp [blankRequest, Request.create, hfault]

theorem world_blankRequest (c : Client κ) (operation : Operation) (params : Value) (w : World μ) :
    (c.blankRequest operation params none w).world =
      { w with failures := (c.blankRequest operation params none w).world.failures } := rfl

/-- The session in which a request with its options is sent. -/
def ready (c : Client κ) (context : Option Context) (s : Session κ μ) : Session κ μ :=
  { s with request := { s.request with
      context := context.getD .background, retryer := s.request.retryer.resume c.drawn } }

/-- A request that could be made is sent. -/
theorem run_call (perform : κ → Step κ μ Unit) (limit : Nat) (params : Value) :
    let call := c.call perform limit operation params none options context w
    (call.1, call.2.1) =
      match c.newRequest operation params none options w with
      | (.error stop, s) => (.error stop, s.world)
      | (.ok (), s) =>
        let sent := (Drive.send perform limit).run (c.ready context s)
        (sent.outcome, sent.after.world) := by
  rw [call]
  split <;> simp [*, send, Request.send, ready]

theorem world_call (perform : κ → Step κ μ Unit) (limit : Nat) (params : Value) :
    (c.call perform limit operation params none options context w).2.1 =
      match c.newRequest operation params none options w with
      | (.error _, s) => s.world
      | (.ok (), s) => ((Drive.send perform limit).run (c.ready context s)).after.world := by
  refine (congrArg Prod.snd (run_call perform limit params)).trans ?_
  split <;> rfl

theorem newRequest_withParams (params : Value) :
    c.newRequest operation params none options w =
      ((c.newRequest operation .null none options w).1,
        (c.newRequest operation .null none options w).2.withParams params) := by
  have hblank : c.blankRequest operation params none w =
      (c.blankRequest operation .null none w).withParams params := by
    cases hfault : Request.endpointFault? c.requestConfig.endpoint <;>
      simp [blankRequest, Request.create, hfault, Session.withParams, Request.withParams]
  rw [newRequest, newRequest, hblank]
  exact Step.run_applyOptions_withParams options params _

end Client

end RequestPipeline
