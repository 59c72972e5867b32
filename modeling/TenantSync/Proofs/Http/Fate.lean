import TenantSync.Proofs.Http.Hosts

/-!
# What comes of a request

A request that a client is about to send has one of three fates: it arrives and the host replies,
there is no way to the host, or it is withheld because the run is found cancelled.  The network
decides which (`Network.meet`), and the fate decides what the client makes of it
(`Service.run_send_eq`).  From there on the functions of a client are followed exactly, whatever
happens: a request for a token (`Service.requestToken_spec`) and how a client comes by a token
(`Service.bearer_spec`).
-/

namespace TenantSync.Http

open Network (asked unsigned asksForToken)

/-- What comes of a request that a client is about to send. -/
inductive Fate where
  /-- It arrives, and the host replies. -/
  | arrived (reply : Reply)
  /-- There is no way to the host. -/
  | unreachable
  /-- It is not sent, because the run is found cancelled. -/
  | withheld
  deriving DecidableEq

namespace Fate

/-- Whether the request arrives. -/
def arrives : Fate → Bool
  | arrived _ => true
  | unreachable | withheld => false

/-- What the client hears, or how it fails if it is stopped. -/
def heard (stopped : Cause) : Fate → Except Fault (Except LinkFault Response)
  | arrived (.answer r) => .ok (.ok r)
  | arrived .drop => .ok (.error .dropped)
  | arrived .hang => .error (Failure.of stopped)
  | unreachable => .ok (.error .unreachable)
  | withheld => .error (Failure.of stopped)

/-- The request is withheld, or the host leaves the client waiting until the run is cancelled. -/
def Stops (fate : Fate) : Prop := fate = withheld ∨ fate = arrived .hang

/-- When a request is stopped, nothing is heard and the call fails for the reason it was given. -/
theorem Stops.heard {fate : Fate} (h : fate.Stops) (stopped : Cause) :
    fate.heard stopped = .error (Failure.of stopped) := by
  obtain rfl | rfl := h <;> rfl

/-- An answer stops nothing. -/
theorem not_stops_answer {r : Response} : ¬ (arrived (.answer r)).Stops := by
  rintro (h | h) <;> cases h

/-- Otherwise something is heard: an answer or a fault of the link. -/
theorem exists_heard_of_not_stops {fate : Fate} (h : ¬ fate.Stops) (stopped : Cause) :
    ∃ heard, fate.heard stopped = .ok heard := by
  cases fate with
  | arrived reply =>
    cases reply with
    | answer | drop => exact ⟨_, rfl⟩
    | hang => exact absurd (.inr rfl) h
  | unreachable => exact ⟨_, rfl⟩
  | withheld => exact absurd (.inl rfl) h

/-- The token of the run, which is looked at if there is a way to the host, and cancelled when no
    answer comes. -/
def token (t : CancelToken) : Fate → CancelToken
  | arrived .hang => t.look.cancel
  | arrived _ => t.look
  | unreachable => t
  | withheld => t.look

/-- What a request for a token is granted. -/
def grant? : Fate → Option Wire.Grant
  | arrived (.answer r) =>
    if r.status.isSuccess then (Service.readBody Wire.grant r).toOption else none
  | _ => none

/-- The token that a client gets, if the lifetime that it is granted at a time ends within the
    calendar. -/
def token? (now : Int) (fate : Fate) : Option Token := do
  let g ← fate.grant?
  let expiresAt ← Clock.expiry? now (g.expiresIn?.getD Token.defaultLifetime)
  return ⟨g.accessToken, expiresAt⟩

/-- A request that is stopped is granted nothing. -/
theorem Stops.token?_eq_none {fate : Fate} (h : fate.Stops) (now : Int) :
    fate.token? now = none := by
  rcases h with rfl | rfl <;> rfl

end Fate

/-! ## The network -/

namespace Network

variable {n : Network} {cancelled : Bool} {r : Request} {u : Url}

/-- What comes of a request in a run that is found cancelled or not, and the network after it. -/
def meet (n : Network) (cancelled : Bool) (r : Request) : Fate × Network :=
  if n.up then
    if cancelled then (.withheld, n) else (.arrived (n.deliver r).1, (n.deliver r).2)
  else (.unreachable, n)

/-- No request opens or closes the way to the hosts. -/
theorem up_meet : (n.meet cancelled r).2.up = n.up := by
  unfold meet
  split
  · split <;> rfl
  · rfl

/-- The request is recorded exactly when it arrives. -/
theorem arrived_meet :
    (n.meet cancelled r).2.arrived = n.arrived ++ if (n.meet cancelled r).1.arrives then [r] else [] := by
  unfold meet
  split
  · split
    · exact (List.append_nil _).symm
    · rfl
  · exact (List.append_nil _).symm

/-- In a run that is found cancelled nothing is sent. -/
theorem meet_cancelled : n.meet true r = (if n.up then .withheld else .unreachable, n) := by
  unfold meet
  split <;> rfl

/-- A request fails to find a way exactly when there is none. -/
theorem meet_eq_unreachable_iff : (n.meet cancelled r).1 = .unreachable ↔ n.up = false := by
  unfold meet
  cases n.up with
  | false => simp
  | true => cases cancelled <;> simp

/-- A request is withheld only in a run that is found cancelled, and one that is left without an
    answer cancels the run. -/
theorem cancelled_of_stops {t : CancelToken} (h : (n.meet t.look.cancelled r).1.Stops) :
    ((n.meet t.look.cancelled r).1.token t).cancelled = true := by
  rcases h with hwithheld | hhangs
  · rw [hwithheld, Fate.token]
    -- The run was found cancelled, or the request would have arrived.
    unfold meet at hwithheld
    cases hup : n.up with
    | false =>
      rw [hup] at hwithheld
      cases hwithheld
    | true =>
      cases hcan : t.look.cancelled with
      | true => rfl
      | false =>
        rw [hup, hcan] at hwithheld
        cases hwithheld
  · rw [hhangs]
    rfl

/-- What whoever asks for an address will hear, reply by reply, unless the host leaves the client
    waiting. -/
def hears (n : Network) (u : Url) (i : Nat) : Option (Except LinkFault Response) :=
  if n.up then ((n.host u).answers.getD i (.answer nothingPrepared)).heard?
  else some (.error .unreachable)

/-- What will be heard depends on the way to the hosts and on the answers that are prepared. -/
theorem hears_congr {n' : Network} (hup : n'.up = n.up)
    (hanswers : (n'.host u).answers = (n.host u).answers) : n'.hears u = n.hears u := by
  funext i
  rw [hears, hears, hup, hanswers]

/-- Nothing but requests for tokens was met between two states of a network. -/
structure Spares (n n' : Network) : Prop where
  up : n'.up = n.up
  asked : asked n' = asked n
  answers : ∀ u, (n'.host u).answers = (n.host u).answers

/-- Where nothing was met, nothing was taken. -/
theorem Spares.refl (n : Network) : n.Spares n := ⟨rfl, rfl, fun _ => rfl⟩

/-- Requests for tokens take nothing from what will be heard. -/
theorem Spares.hears {n' : Network} (h : n.Spares n') : n'.hears u = n.hears u :=
  hears_congr h.up (h.answers u)

/-- A request for a token takes none of the other answers. -/
theorem spares_meet (h : asksForToken r = true) : n.Spares (n.meet cancelled r).2 := by
  have hasked : Network.asked (n.deliver r).2 = Network.asked n := by
    rw [asked_deliver, h, if_pos rfl, List.append_nil]
  -- Where the request does not arrive, nothing changes at all.
  unfold meet
  split
  · split
    · exact .refl n
    · exact ⟨rfl, hasked, fun _ => answers_deliver h⟩
  · exact .refl n

/-- Any other request that is replied to has taken the next answer. -/
theorem meet_of_heard (h : asksForToken r = false) {stopped : Cause}
    {heard : Except LinkFault Response}
    (hheard : (n.meet cancelled r).1.heard stopped = .ok heard) :
    n.hears r.url 0 = some heard ∧
      asked (n.meet cancelled r).2 = asked n ++ (if n.up then [unsigned r] else []) ∧
      ((n.meet cancelled r).2.host r.url).answers =
        if n.up then (n.host r.url).answers.tail else (n.host r.url).answers := by
  rw [hears]
  cases hup : n.up with
  | false =>
    have hmet : n.meet cancelled r = (.unreachable, n) := by
      rw [meet, hup]
      rfl
    rw [hmet] at hheard ⊢
    cases hheard
    exact ⟨rfl, (List.append_nil _).symm, rfl⟩
  | true =>
    cases cancelled with
    | true =>
      rw [meet, hup] at hheard
      cases hheard
    | false =>
      have hmet : n.meet false r = (.arrived (n.deliver r).1, (n.deliver r).2) := by
        rw [meet, hup]
        rfl
      rw [hmet] at hheard ⊢
      dsimp only at hheard ⊢
      simp only [if_true]
      rw [reply_deliver, h, Host.take] at hheard
      rw [asked_deliver, h, host_deliver rfl, h, Host.take]
      cases hanswers : (n.host r.url).answers with
      | nil =>
        rw [hanswers] at hheard
        cases hheard
        exact ⟨rfl, rfl, hanswers⟩
      | cons reply rest =>
        rw [hanswers] at hheard
        refine ⟨?_, rfl, rfl⟩
        -- A reply that never comes is not heard.
        cases reply with
        | answer | drop =>
          cases hheard
          rfl
        | hang => cases hheard

/-- One answer less will be heard then. -/
theorem hears_meet (h : asksForToken r = false) {stopped : Cause}
    {heard : Except LinkFault Response}
    (hheard : (n.meet cancelled r).1.heard stopped = .ok heard) (i : Nat) :
    (n.meet cancelled r).2.hears r.url i = n.hears r.url (i + 1) := by
  rw [hears, hears, up_meet, (meet_of_heard h hheard).2.2]
  cases n.up with
  | false => rfl
  | true => simp only [if_true, List.getD_eq_getElem?_getD, List.getElem?_tail]

end Network

/-! ## Sending -/

namespace Service

variable {s : Service}

/-- What a client hears of a request, and what it leaves behind, is told by the fate of the request.
    -/
theorem run_exchange_eq (stopped : Cause) (r : Request) (σ : Session Network) :
    (exchange stopped r).run σ =
      let met := σ.world.meet σ.token.look.cancelled r
      (met.1.heard stopped, { σ with world := met.2, token := met.1.token σ.token }) := by
  -- Cases in the order of the definition: the way to the hosts, the token, the reply.
  rw [exchange, Call.run_bind, Call.run_world, Network.meet]
  cases hup : σ.world.up with
  | false =>
    simp only [hup, Bool.not_false, if_true, Call.run_pure]
    rfl
  | true =>
    simp only [hup, Bool.not_true, Bool.false_eq_true, if_false, if_true, Call.run_bind,
      Call.run_cancelled]
    cases hcan : σ.token.look.cancelled with
    | true =>
      simp only [if_true, Call.run_bind, Call.run_fail]
      rfl
    | false =>
      simp only [Bool.false_eq_true, if_false, Call.run_bind, Call.run_setWorld]
      cases (σ.world.deliver r).1 with
      | answer | drop | hang => rfl

/-- So it is over the connection, where the token that is kept is not touched. -/
theorem run_send_eq (stopped : Cause) (r : Request) (σ : Session Connection) :
    (send stopped r).run σ =
      let met := σ.world.network.meet σ.token.look.cancelled r
      (met.1.heard stopped,
        { σ with
          world := { σ.world with network := met.2 }
          token := met.1.token σ.token }) := by
  have h := run_exchange_eq stopped r ⟨σ.world.network, σ.token, σ.clock, σ.log, σ.waits⟩
  rw [send, Call.run_zoom, Connection.networkLens]
  dsimp only at h ⊢
  rw [h]

/-! ## Tokens -/

/-- A line in the log changes nothing that matters to a request. -/
theorem run_log_bind {α : Type} (level : Level) (component : Component) (text : String)
    (f : Unit → Call Connection α) (σ : Session Connection) :
    ∃ σ' : Session Connection, σ'.world = σ.world ∧ σ'.clock = σ.clock ∧ σ'.waits = σ.waits ∧
      (σ.token.cancelled = true → σ'.token.cancelled = true) ∧
      (Call.log level component text >>= f).run σ = (f ()).run σ' :=
  ⟨((Call.log level component text).run σ).2, rfl, rfl, rfl,
    fun hc => CancelToken.afterLine_cancelled hc _, Call.run_bind _ _ _⟩

/-- Taking in a grant reads the clock.  The token is kept if its lifetime ends within the calendar,
    and else what was kept before stays. -/
theorem keepToken_spec (g : Wire.Grant) (σ : Session Connection) :
    let out := (keepToken g).run σ
    let token? := (Clock.expiry? σ.clock.now (g.expiresIn?.getD Token.defaultLifetime)).map
      (⟨g.accessToken, ·⟩ : Int → Token)
    out.2.world = ⟨σ.world.network, token?.or σ.world.token?⟩ ∧ out.2.clock = σ.clock.tick ∧
      out.2.waits = σ.waits ∧
      match token? with
      | some t => out.1 = .ok t.accessToken
      | none => ∃ f, out.1 = .error f := by
  rw [keepToken, Call.run_bind, Call.run_now]
  dsimp only
  cases Clock.expiry? σ.clock.now (g.expiresIn?.getD Token.defaultLifetime) with
  | some expiresAt => exact ⟨rfl, rfl, rfl, rfl⟩
  | none => exact ⟨rfl, rfl, rfl, _, rfl⟩

/-- A request for a token meets its fate.  If it is granted one, that is kept and returned; else the
    request fails, and what was kept before stays. -/
theorem requestToken_spec (s : Service) (σ : Session Connection) :
    let out := s.requestToken.run σ
    ∃ cancelled, let met := σ.world.network.meet cancelled s.tokenRequest
      (σ.token.cancelled = true → cancelled = true) ∧
      (met.1.Stops → out.2.token.cancelled = true) ∧
      out.2.world = ⟨met.2, (met.1.token? σ.clock.now).or σ.world.token?⟩ ∧
      out.2.clock = (if met.1.grant?.isSome then σ.clock.tick else σ.clock) ∧
      out.2.waits = σ.waits ∧
      match met.1.token? σ.clock.now with
      | some t => out.1 = .ok t.accessToken
      | none => ∃ f, out.1 = .error f := by
  obtain ⟨σ', hworld, hclock, hwaits, hcancelled, hrun⟩ := run_log_bind .debug .token _ _ σ
  rw [requestToken, hrun, Call.run_bind, run_send_eq, hworld, ← hclock, ← hwaits]
  refine ⟨σ'.token.look.cancelled, fun hc => CancelToken.look_cancelled (hcancelled hc), ?_⟩
  have hstops := Network.cancelled_of_stops (n := σ.world.network) (r := s.tokenRequest)
    (t := σ'.token)
  generalize σ.world.network.meet σ'.token.look.cancelled s.tokenRequest = met at hstops ⊢
  obtain ⟨fate, n⟩ := met
  -- Only an answer that is a success and can be read is taken in.
  cases fate with
  | unreachable | withheld => exact ⟨hstops, rfl, rfl, rfl, _, rfl⟩
  | arrived reply =>
    cases reply with
    | drop | hang => exact ⟨hstops, rfl, rfl, rfl, _, rfl⟩
    | answer r =>
      refine ⟨fun h => absurd h Fate.not_stops_answer, ?_⟩
      simp only [Fate.heard, Fate.token?, Fate.grant?]
      by_cases hok : r.status.isSuccess = true
      · simp only [hok, if_true]
        rw [Call.run_bind, Call.run_within]
        cases hread : readBody Wire.grant r with
        | error f => exact ⟨rfl, rfl, rfl, _, rfl⟩
        | ok g =>
          have h := keepToken_spec g
            ⟨⟨n, σ.world.token?⟩, σ'.token.look, σ'.clock, σ'.log, σ'.waits⟩
          dsimp only [Except.mapError, Except.toOption, Option.bind_eq_bind, Option.bind_some] at h ⊢
          cases hexpiry :
              Clock.expiry? σ'.clock.now (g.expiresIn?.getD Token.defaultLifetime) with
          | some expiresAt =>
            rw [hexpiry] at h
            exact h
          | none =>
            rw [hexpiry] at h
            exact h
      · simp only [hok]
        exact ⟨rfl, rfl, rfl, _, rfl⟩

/-- A token that is kept and can still be used. -/
def usable? (c : Connection) (now : Int) : Option Token :=
  c.token?.filter (·.isValid now Token.margin)

/-- A token can be used exactly when it is kept and expires later than the margin from now. -/
theorem usable?_eq_some_iff {c : Connection} {now : Int} {t : Token} :
    usable? c now = some t ↔ c.token? = some t ∧ now + Token.margin * second < t.expiresAt := by
  rw [usable?, Option.filter_eq_some_iff, Token.isValid, decide_eq_true_iff]

/-- No token can be used exactly when every one that is kept expires before that. -/
theorem usable?_eq_none_iff {c : Connection} {now : Int} :
    usable? c now = none ↔
      ∀ t, c.token? = some t → ¬ now + Token.margin * second < t.expiresAt := by
  rw [Option.eq_none_iff_forall_ne_some]
  exact forall_congr' fun t => by rw [Ne, usable?_eq_some_iff, not_and]

/-- A client sends a token that it can still use, and else requests a new one.  The clock is read
    if there is a token at all. -/
theorem bearer_spec (s : Service) (σ : Session Connection) :
    let out := s.bearer.run σ
    match usable? σ.world σ.clock.now with
    | some t => out = (.ok t.accessToken, { σ with clock := σ.clock.tick })
    | none => ∃ cancelled, let met := σ.world.network.meet cancelled s.tokenRequest
        let clock := if σ.world.token?.isSome then σ.clock.tick else σ.clock
        (σ.token.cancelled = true → cancelled = true) ∧
        (met.1.Stops → out.2.token.cancelled = true) ∧
        out.2.world = ⟨met.2, (met.1.token? clock.now).or σ.world.token?⟩ ∧
        out.2.clock = (if met.1.grant?.isSome then clock.tick else clock) ∧
        out.2.waits = σ.waits ∧
        match met.1.token? clock.now with
        | some t => out.1 = .ok t.accessToken
        | none => ∃ f, out.1 = .error f := by
  rw [usable?, bearer, Call.run_bind, Call.run_world]
  dsimp only
  -- Without a token there is nothing to check, so the clock is not read before the request.
  cases htoken : σ.world.token? with
  | none =>
    have h := s.requestToken_spec σ
    rw [htoken] at h
    exact h
  | some t =>
    dsimp only [Option.filter]
    rw [Call.run_bind, Call.run_now]
    dsimp only
    -- A token that has run out is replaced, after a line in the log that may cancel the run.
    by_cases hvalid : t.isValid σ.clock.now Token.margin = true
    · simp only [hvalid, if_true]
      rfl
    · simp only [hvalid, Bool.false_eq_true, if_false]
      obtain ⟨σ', hworld, hclock, hwaits, hcancelled, hrun⟩ := run_log_bind .debug .token _
        (fun _ => s.requestToken) { σ with clock := σ.clock.tick }
      obtain ⟨cancelled, hfound, hrest⟩ := s.requestToken_spec σ'
      rw [hworld, hclock, hwaits, htoken] at hrest
      rw [hrun]
      exact ⟨cancelled, fun hc => hfound (hcancelled hc), hrest⟩

/-- However it comes by a token, it takes no other answers and does not wait. -/
theorem bearer_spares (s : Service) (σ : Session Connection) :
    σ.world.network.Spares (s.bearer.run σ).2.world.network ∧
      (s.bearer.run σ).2.waits = σ.waits := by
  have h := s.bearer_spec σ
  split at h
  · rw [h]
    exact ⟨.refl _, rfl⟩
  · obtain ⟨cancelled, -, -, hout, -, hwaits, -⟩ := h
    rw [hout, hwaits]
    exact ⟨Network.spares_meet asksForToken_tokenRequest, rfl⟩

end Service

end TenantSync.Http
