import TenantSync.Proofs.Http.Serving

/-!
# Lifetimes of tokens

The host says how long a token lives, and the client works out when that ends.  A lifetime from a
time on has an end (`Clock.Ends`) if it is no longer than the longest time span and the calendar
has its end.  `granted_token_returned_iff` says that a token that is granted is returned exactly if
its lifetime has an end, and that whether it can still be used can then always be told.
-/

namespace TenantSync

namespace Clock

variable {now lifetime : Int}

/-- A time that the calendar has. -/
def Covers (t : Int) : Prop := firstSecond * second ≤ t ∧ t < (lastSecond + 1) * second

/-- A lifetime from a time on has an end. -/
def Ends (now lifetime : Int) : Prop :=
  (-longestSpan ≤ lifetime ∧ lifetime ≤ longestSpan) ∧ Covers (now + lifetime * second)

instance (t : Int) : Decidable (Covers t) := inferInstanceAs (Decidable (_ ∧ _))

instance (now lifetime : Int) : Decidable (Ends now lifetime) :=
  inferInstanceAs (Decidable (_ ∧ _))

/-- A lifetime that ends within the calendar has its end as expiry. -/
theorem expiry?_of_ends (h : Ends now lifetime) :
    expiry? now lifetime = some (now + lifetime * second) := by
  obtain ⟨⟨hfirst, hlast⟩, hcovers, hcovers'⟩ := h
  rw [expiry?, if_pos ⟨hfirst, hlast, hcovers, hcovers'⟩]

/-- A lifetime that ends beyond the calendar has no expiry. -/
theorem expiry?_of_not_ends (h : ¬ Ends now lifetime) : expiry? now lifetime = none := by
  rw [expiry?, if_neg]
  rintro ⟨hfirst, hlast, hcovers, hcovers'⟩
  exact h ⟨⟨hfirst, hlast⟩, hcovers, hcovers'⟩

/-- The margin is a short time. -/
theorem ends_margin (h : Covers (now + Http.Token.margin * second)) :
    Ends now Http.Token.margin := by
  refine ⟨?_, h⟩
  decide

end Clock

namespace Http.Service

open Call

variable {s : Service} {σ : Session Connection} {r : Response} {g : Wire.Grant}

/-! ## Token requests that are granted -/

/-- A token request of a run that nobody cancels is granted: there is a way to the host, and its
    answer is a success that can be read. -/
structure Granted (s : Service) (σ : Session Connection) (r : Response) (g : Wire.Grant) :
    Prop where
  uncancelled : σ.token = .fresh
  up : σ.world.network.up = true
  answered : (σ.world.network.deliver s.tokenRequest).1 = .answer r
  success : r.status.isSuccess = true
  read : readBody Wire.grant r = .ok g

/-- When a token is granted: the clock was read if there was a token to look at. -/
def grantedAt (σ : Session Connection) : Int :=
  (if σ.world.token?.isSome then σ.clock.tick else σ.clock).now

/-- A line in the log does not matter. -/
theorem Granted.run_log_bind {α : Type} (h : Granted s σ r g) (level : Level)
    (component : Component) (text : String) (f : Unit → Call Connection α) :
    ∃ σ' : Session Connection, Granted s σ' r g ∧ σ'.world = σ.world ∧ σ'.clock = σ.clock ∧
      (Call.log level component text >>= f).run σ = (f ()).run σ' := by
  refine ⟨((Call.log level component text).run σ).2, ⟨?_, h.up, h.answered, h.success, h.read⟩,
    rfl, rfl, Call.run_bind _ _ _⟩
  rw [run_log, h.uncancelled]
  rfl

/-- What is granted is taken in. -/
theorem Granted.run_requestToken (h : Granted s σ r g) :
    ∃ σ' : Session Connection, σ'.world.token? = σ.world.token? ∧ σ'.clock = σ.clock ∧
      s.requestToken.run σ = (keepToken g).run σ' := by
  -- The line in the log before the request leaves everything in place.
  obtain ⟨σ', h, hworld, hclock, hrun⟩ := h.run_log_bind .debug .token _ _
  have hheard : (σ'.world.network.deliver s.tokenRequest).1.heard? = some (.ok r) := by
    rw [h.answered]
    rfl
  have hsend := run_send (.tokenCancelled s.tokenUrl) s.tokenRequest h.uncancelled h.up hheard
  -- The session once the answer has been taken.
  let taken : Session Connection :=
    { σ' with
      world := { σ'.world with network := (σ'.world.network.deliver s.tokenRequest).2 } }
  have htoken : taken.world.token? = σ.world.token? := by
    rw [← hworld]
  refine ⟨taken, htoken, hclock, ?_⟩
  rw [requestToken, hrun, run_bind, hsend]
  simp only [h.success, if_true]
  rw [run_bind, run_within, h.read]
  rfl

/-- A client without a token that it can use takes in what is granted, at the time of the grant. -/
theorem Granted.run_bearer (h : Granted s σ r g) (hnone : usable? σ.world σ.clock.now = none) :
    ∃ σ' : Session Connection, σ'.world.token? = σ.world.token? ∧ σ'.clock.now = grantedAt σ ∧
      s.bearer.run σ = (keepToken g).run σ' := by
  rw [bearer, run_bind, run_world, grantedAt]
  dsimp only
  cases htoken : σ.world.token? with
  | none =>
    obtain ⟨σ', htoken', hclock, hrun⟩ := h.run_requestToken
    exact ⟨σ', htoken'.trans htoken, congrArg Clock.now hclock, hrun⟩
  | some t =>
    -- The token that is kept was looked at in vain.
    have hinvalid : t.isValid σ.clock.now Token.margin = false := by
      rw [usable?, htoken] at hnone
      simpa using hnone
    rw [run_bind, run_now]
    simp only [hinvalid, Bool.false_eq_true, if_false]
    have hlooked : Granted s { σ with clock := σ.clock.tick } r g :=
      ⟨h.uncancelled, h.up, h.answered, h.success, h.read⟩
    obtain ⟨σ', h', hworld, hclock, hrun⟩ :=
      hlooked.run_log_bind .debug .token _ fun _ => s.requestToken
    obtain ⟨σ'', htoken'', hclock', hrun'⟩ := h'.run_requestToken
    refine ⟨σ'', ?_, ?_, hrun.trans hrun'⟩
    · rw [htoken'', hworld, htoken]
    · rw [hclock', hclock]
      rfl

/-- A token is kept and returned if its lifetime has an end. -/
theorem Granted.bearer_of_ends (h : Granted s σ r g)
    (hnone : usable? σ.world σ.clock.now = none)
    (hends : Clock.Ends (grantedAt σ) (g.expiresIn?.getD Token.defaultLifetime)) :
    (s.bearer.run σ).1 = .ok g.accessToken ∧ (s.bearer.run σ).2.world.token? =
      some ⟨g.accessToken,
        grantedAt σ + g.expiresIn?.getD Token.defaultLifetime * second⟩ := by
  obtain ⟨σ', -, hclock, hrun⟩ := h.run_bearer hnone
  rw [hrun, ← hclock, run_keepToken (Clock.expiry?_of_ends (hclock.symm ▸ hends))]
  exact ⟨rfl, rfl⟩

/-- Without an end of its lifetime no token is returned, and what was kept stays. -/
theorem Granted.bearer_of_not_ends (h : Granted s σ r g)
    (hnone : usable? σ.world σ.clock.now = none)
    (hends : ¬ Clock.Ends (grantedAt σ) (g.expiresIn?.getD Token.defaultLifetime)) :
    (s.bearer.run σ).1 =
        .error (Failure.of (.lifetime (g.expiresIn?.getD Token.defaultLifetime))) ∧
      (s.bearer.run σ).2.world.token? = σ.world.token? := by
  obtain ⟨σ', htoken, hclock, hrun⟩ := h.run_bearer hnone
  rw [hrun, ← htoken, keepToken, run_bind, run_now]
  dsimp only
  rw [hclock, Clock.expiry?_of_not_ends hends]
  exact ⟨rfl, rfl⟩

/-- A token that can still be used is returned, and no other is requested. -/
theorem bearer_of_usable {t : Token} (h : usable? σ.world σ.clock.now = some t) :
    s.bearer.run σ = (.ok t.accessToken, { σ with clock := σ.clock.tick }) := by
  have hspec := s.bearer_spec σ
  rw [h] at hspec
  exact hspec

/-- A token that is granted is returned exactly if its lifetime has an end; else the client breaks
    off where it works out the end.  For a token that was returned, whether it can still be used can
    be told at every time that the calendar has with a margin, and the next call returns it again
    or requests a new one. -/
theorem granted_token_returned_iff (h : Granted s σ r g)
    (hnone : usable? σ.world σ.clock.now = none) :
    let lifetime := g.expiresIn?.getD Token.defaultLifetime
    let expiry := grantedAt σ + lifetime * second
    let out := s.bearer.run σ
    (out.1 = .ok g.accessToken ↔ Clock.Ends (grantedAt σ) lifetime) ∧
      (¬ Clock.Ends (grantedAt σ) lifetime →
        out.1 = .error (Failure.of (.lifetime lifetime)) ∧
          out.2.world.token? = σ.world.token?) ∧
      (Clock.Ends (grantedAt σ) lifetime → ∀ σ' : Session Connection,
        σ'.world.token? = out.2.world.token? →
        Clock.Covers (σ'.clock.now + Token.margin * second) →
        ∃ limit, Clock.expiry? σ'.clock.now Token.margin = some limit ∧
          (limit < expiry →
            s.bearer.run σ' = (.ok g.accessToken, { σ' with clock := σ'.clock.tick })) ∧
          (¬ limit < expiry → usable? σ'.world σ'.clock.now = none)) := by
  intro lifetime expiry out
  refine ⟨⟨fun hok => ?_, fun hends => (h.bearer_of_ends hnone hends).1⟩,
    h.bearer_of_not_ends hnone, fun hends σ' htoken hcovers => ?_⟩
  -- ?_ => Beyond the calendar the token is refused, so it cannot have been returned.
  · refine Decidable.by_contra fun hends => ?_
    have herror := (h.bearer_of_not_ends hnone hends).1
    rw [show (s.bearer.run σ).1 = .ok g.accessToken from hok] at herror
    cases herror
  -- The next check compares the end that was kept with the end of the margin.
  · rw [(h.bearer_of_ends hnone hends).2] at htoken
    refine ⟨_, Clock.expiry?_of_ends (Clock.ends_margin hcovers), fun hbefore => ?_,
      fun hafter => ?_⟩
    · exact bearer_of_usable (usable?_eq_some_iff.mpr ⟨htoken, hbefore⟩)
    · refine usable?_eq_none_iff.mpr fun t ht => ?_
      rw [htoken] at ht
      cases ht
      exact hafter

/-- A service at the root of a host. -/
def rootService : Service :=
  ⟨{ scheme := .http, host := "svc", path := [""] }, "http://svc", ⟨"id", "secret"⟩, {}⟩

/-- It is 1970, a token has expired, and the host answers the request for another one. -/
def afterExpiry (answer : Response) : Session Connection :=
  ⟨⟨{ up := true, hosts := [("svc", { tokens := [.answer answer] })] }, some ⟨"old", 0⟩⟩, .fresh,
    .frozen 0, [], []⟩

/-- A token with a lifetime that is over is returned once. -/
theorem token_of_the_past_is_returned :
    let answer : Response :=
      ⟨⟨200⟩, [], some "\x7b\"access_token\":\"new\",\"expires_in\":-1\x7d"⟩
    Granted rootService (afterExpiry answer) answer ⟨"new", some (-1)⟩ ∧
      usable? (afterExpiry answer).world (afterExpiry answer).clock.now = none ∧
      Clock.Ends 0 (-1) ∧ (rootService.bearer.run (afterExpiry answer)).1 = .ok "new" := by
  intro answer
  have hread : readBody Wire.grant answer = .ok ⟨"new", some (-1)⟩ := rfl
  have hgranted : Granted rootService (afterExpiry answer) answer ⟨"new", some (-1)⟩ :=
    ⟨rfl, rfl, rfl, rfl, hread⟩
  have hnone : usable? (afterExpiry answer).world (afterExpiry answer).clock.now = none := rfl
  have hends : Clock.Ends 0 (-1) := by decide
  exact ⟨hgranted, hnone, hends, (granted_token_returned_iff hgranted hnone).1.mpr hends⟩

/-- The longest lifetime that an answer can name has no end, and its token is not returned. -/
theorem longest_lifetime_has_no_end :
    let answer : Response :=
      ⟨⟨200⟩, [], some "\x7b\"access_token\":\"new\",\"expires_in\":9223372036854775807\x7d"⟩
    readBody Wire.grant answer = .ok ⟨"new", some 9223372036854775807⟩ ∧
      (rootService.bearer.run (afterExpiry answer)).1 =
        .error (Failure.of (.lifetime 9223372036854775807)) ∧
      (rootService.bearer.run (afterExpiry answer)).1 ≠ .ok "new" := by
  intro answer
  have hread : readBody Wire.grant answer = .ok ⟨"new", some 9223372036854775807⟩ :=
    rfl
  have hgranted : Granted rootService (afterExpiry answer) answer
      ⟨"new", some 9223372036854775807⟩ := ⟨rfl, rfl, rfl, rfl, hread⟩
  -- The lifetime is a valid number of seconds, but not one the calendar reaches.
  have hends : ¬ Clock.Ends 0 9223372036854775807 := by decide
  have herror := (hgranted.bearer_of_not_ends rfl hends).1
  refine ⟨hread, herror, ?_⟩
  rw [herror]
  rintro ⟨⟩

end Http.Service

end TenantSync
