import TenantSync.Proofs.Http.Fate
import TenantSync.Sync.Apply

/-!
# Clients of a host that answers

`Serving` says what a client can rely on while nobody cancels the run: there is a way to its host,
the host has certain answers prepared, and whoever asks for a token is granted one.  Then
`Call.Exchanges s used sent Q c` says that the call `c` takes the answers `used`, that the requests
`sent` arrive besides those for tokens, and that the call succeeds with a result in `Q`.
`SyncM.Exchanges` says the same of a step of a run.  Both go over from parts to the whole, so what
a client does is found by following its definition.
-/

namespace TenantSync.Http

open Network (asked unsigned asksForToken)

/-! ## Changes as requests -/

namespace Service

variable {s : Service}

/-- The request for a mutation, with a token or without. -/
def change (s : Service) (token? : Option String) : Mutation → Request
  | .create e => ⟨.post, s.collectionUrl (collection e.kind), token?, .json (Wire.creation e)⟩
  | .delete k id => ⟨.delete, s.entityUrl (collection k) id, token?, .none⟩

/-- It is no request for a token. -/
theorem asksForToken_change (token? : Option String) (m : Mutation) :
    asksForToken (s.change token? m) = false := by
  cases m with
  | create e =>
    cases e <;> simp [change, asksForToken, collectionUrl, Url.join, Entity.kind, collection]
  | delete => rfl

end Service

/-! ## What a client can rely on -/

/-- The reply of a token endpoint that grants a token whose lifetime ends within the calendar,
    whenever it is granted. -/
def Grants (clock : Clock) (reply : Reply) : Prop :=
  ∃ r g, reply = .answer r ∧ r.status.isSuccess = true ∧ Service.readBody Wire.grant r = .ok g ∧
    ∀ i, (Clock.expiry? (clock.reading i) (g.expiresIn?.getD Token.defaultLifetime)).isSome = true

/-- The reply of a token endpoint that has nothing prepared grants a token, when it is 1970. -/
theorem grantedToken_grants : Grants (.frozen 0) (.answer Network.grantedToken) := by
  have hexpiry : (Clock.expiry? 0 3600).isSome = true := by decide
  exact ⟨_, ⟨"tok", some 3600⟩, rfl, rfl, rfl, fun _ => hexpiry⟩

/-- Nobody cancels the run, there is a way to the host of the service, it has certain answers
    prepared, and it grants tokens, also when none are prepared. -/
structure Serving (s : Service) (answers : List Reply) (c : Connection) (token : CancelToken)
    (clock : Clock) : Prop where
  uncancelled : token = .fresh
  up : c.network.up = true
  prepared : (c.network.host s.base).answers = answers
  granting : ∀ reply ∈ (c.network.host s.base).tokens, Grants clock reply
  granting_default : Grants clock (.answer Network.grantedToken)

end Http

open Http
open Http.Network (asked unsigned asksForToken)

variable {s : Service} {α β : Type} {used used' : List Reply} {sent sent' : List Request}
  {Q : α → Prop} {R : β → Prop} {x : α}

namespace Call

/-- The call takes the given answers, the given requests arrive besides those for tokens, and the
    call succeeds with a result in `Q`. -/
def Exchanges (s : Service) (used : List Reply) (sent : List Request) (Q : α → Prop)
    (c : Call Connection α) : Prop :=
  ∀ rest (σ : Session Connection), Serving s (used ++ rest) σ.world σ.token σ.clock →
    ∃ x σ', c.run σ = (.ok x, σ') ∧ Q x ∧ Serving s rest σ'.world σ'.token σ'.clock ∧
      asked σ'.world.network = asked σ.world.network ++ sent

namespace Exchanges

variable {c : Call Connection α}

/-- Returning a value takes no answer. -/
theorem pure (h : Q x) : Exchanges s [] [] Q (Pure.pure x) :=
  fun _ σ hσ => ⟨x, σ, rfl, h, hσ, (List.append_nil _).symm⟩

/-- One call after another takes the answers of both. -/
theorem bind {f : α → Call Connection β} (hc : Exchanges s used sent Q c)
    (hf : ∀ x, Q x → Exchanges s used' sent' R (f x)) :
    Exchanges s (used ++ used') (sent ++ sent') R (c >>= f) := by
  intro rest σ hσ
  -- The first call leaves the answers of the second to come next.
  rw [List.append_assoc] at hσ
  obtain ⟨x, σ', hrun, hx, hσ', hasked⟩ := hc _ σ hσ
  obtain ⟨y, σ'', hrun', hy, hσ'', hasked'⟩ := hf x hx rest σ' hσ'
  refine ⟨y, σ'', ?_, hy, hσ'', ?_⟩
  · rw [run_bind, hrun]
    exact hrun'
  · rw [hasked', hasked, List.append_assoc]

/-- A part that only looks at its surroundings. -/
theorem after {f : α → Call Connection β} (hc : Exchanges s [] [] Q c)
    (hf : ∀ x, Q x → Exchanges s used sent R (f x)) : Exchanges s used sent R (c >>= f) :=
  hc.bind hf

/-- A part that is followed by one that asks nothing. -/
theorem before {f : α → Call Connection β} (hc : Exchanges s used sent Q c)
    (hf : ∀ x, Q x → Exchanges s [] [] R (f x)) : Exchanges s used sent R (c >>= f) := by
  have h := hc.bind hf
  rwa [List.append_nil, List.append_nil] at h

/-- The activity around a call is only named when it fails. -/
theorem within (a : Activity) (hc : Exchanges s used sent Q c) :
    Exchanges s used sent Q (c.within a) := by
  intro rest σ hσ
  obtain ⟨x, σ', hrun, hrest⟩ := hc rest σ hσ
  refine ⟨x, σ', ?_, hrest⟩
  rw [run_within, hrun]
  rfl

/-- A value that is there is passed on. -/
theorem ofExcept {ε : Type} (cause : ε → Cause) {r : Except ε α} (h : r = .ok x) (hx : Q x) :
    Exchanges s [] [] Q (Call.ofExcept cause r) := by
  rw [h]
  exact pure hx

/-- A line in the log takes no answer and cancels nothing. -/
theorem log (level : Level) (component : Component) (text : String) :
    Exchanges s [] [] (fun _ => True) (Call.log level component text) := by
  intro rest σ hσ
  refine ⟨(), _, run_log .., trivial, ?_, (List.append_nil _).symm⟩
  refine ⟨?_, hσ.up, hσ.prepared, hσ.granting, hσ.granting_default⟩
  rw [hσ.uncancelled]
  rfl

/-- A call that may be announced in the log. -/
theorem announced {level : Level} {component : Component} {text : String} (wanted : Bool)
    (hc : Exchanges s used sent Q c) :
    Exchanges s used sent Q
      (if wanted then Call.log level component text >>= fun _ => c else c) := by
  cases wanted with
  | false => exact hc
  | true => exact (log _ _ _).after fun _ _ => hc

/-- Waiting takes no answer. -/
theorem wait (microseconds : Nat) :
    Exchanges s [] [] (fun _ => True) (Call.wait microseconds) :=
  fun _ _ hσ => ⟨(), _, rfl, trivial, hσ, (List.append_nil _).symm⟩

/-- Reading the clock takes no answer, and grants are still taken in afterwards. -/
theorem now : Exchanges s [] [] (fun _ => True) Call.now :=
  fun _ σ hσ => ⟨_, _, run_now σ, trivial, ⟨hσ.uncancelled, hσ.up, hσ.prepared, hσ.granting,
    hσ.granting_default⟩, (List.append_nil _).symm⟩

/-- The run is never found cancelled. -/
theorem cancelled : Exchanges s [] [] (· = false) Call.cancelled := by
  intro rest σ hσ
  refine ⟨_, _, run_cancelled σ, ?_, ?_, (List.append_nil _).symm⟩
  · rw [hσ.uncancelled]
    rfl
  · refine ⟨?_, hσ.up, hσ.prepared, hσ.granting, hσ.granting_default⟩
    rw [hσ.uncancelled]
    rfl

/-- The world shows how many answers are prepared. -/
theorem world_bind {f : Connection → Call Connection α}
    (h : ∀ w : Connection, used.length ≤ w.network.prepared → Exchanges s used sent Q (f w)) :
    Exchanges s used sent Q (Call.world >>= f) := by
  intro rest σ hσ
  have hlen : used.length ≤ σ.world.network.prepared := by
    refine Nat.le_trans ?_ (Network.length_answers_le_prepared (u := s.base))
    rw [hσ.prepared, List.length_append]
    exact Nat.le_add_right _ _
  exact h σ.world hlen rest σ hσ

end Exchanges

end Call

namespace Http.Service

open Call

/-- While nobody cancels the run, whoever sends a request hears what the host replies. -/
theorem run_send (stopped : Cause) (r : Request) {σ : Session Connection}
    (hfresh : σ.token = .fresh) (hup : σ.world.network.up = true)
    {heard : Except LinkFault Response}
    (hreply : (σ.world.network.deliver r).1.heard? = some heard) :
    (send stopped r).run σ = (.ok heard,
      { σ with world := { σ.world with network := (σ.world.network.deliver r).2 } }) := by
  have hmet : σ.world.network.meet σ.token.look.cancelled r =
      (.arrived (σ.world.network.deliver r).1, (σ.world.network.deliver r).2) := by
    rw [Network.meet, hup, hfresh]
    rfl
  have hlook : σ.token.look = σ.token := by
    rw [hfresh]
    rfl
  rw [run_send_eq, hmet]
  -- A host that leaves the client waiting is excluded, since something is heard.
  cases hdeliver : (σ.world.network.deliver r).1 with
  | answer | drop =>
    rw [hdeliver] at hreply
    cases hreply
    dsimp only [Fate.heard, Fate.token]
    rw [hlook]
  | hang =>
    rw [hdeliver] at hreply
    cases hreply

/-- A request that is no request for a token takes the next answer. -/
theorem send_exchanges (stopped : Cause) {r : Request} {reply : Reply}
    {heard : Except LinkFault Response} (hurl : s.base.authority = r.url.authority)
    (htoken : asksForToken r = false) (hreply : reply.heard? = some heard) :
    Exchanges s [reply] [unsigned r] (· = heard) (send stopped r) := by
  intro rest σ hσ
  -- The request leads to the host of the service, which gives the first of its answers.
  have hname : σ.world.network.host r.url = σ.world.network.host s.base :=
    Network.host_congr hurl.symm
  have htake : Network.Host.take (σ.world.network.host s.base) false =
      (reply, { σ.world.network.host s.base with answers := rest }) := by
    rw [Network.Host.take, hσ.prepared]
    rfl
  have hdeliver : (σ.world.network.deliver r).1 = reply := by
    rw [Network.reply_deliver, hname, htoken, htake]
  have hhost : (σ.world.network.deliver r).2.host s.base =
      { σ.world.network.host s.base with answers := rest } := by
    rw [Network.host_deliver hurl, htoken, htake]
  refine ⟨heard, _, run_send stopped r hσ.uncancelled hσ.up (hdeliver ▸ hreply), rfl, ?_, ?_⟩
  · refine ⟨hσ.uncancelled, hσ.up, ?_, ?_, hσ.granting_default⟩
    · rw [hhost]
    · rw [hhost]
      exact hσ.granting
  · rw [Network.asked_deliver, htoken]
    rfl

/-- An address below that of the service leads to its host. -/
theorem authority_join (u : Url) (segments : List String) :
    u.authority = (u.join segments).authority := rfl

/-- A request for a token is granted and takes none of the other answers. -/
theorem deliver_tokenRequest {answers : List Reply} {c : Connection} {token : CancelToken}
    {clock : Clock} (h : Serving s answers c token clock) :
    Grants clock (c.network.deliver s.tokenRequest).1 ∧
      Serving s answers { c with network := (c.network.deliver s.tokenRequest).2 } token clock ∧
      asked (c.network.deliver s.tokenRequest).2 = asked c.network := by
  have hurl : s.base.authority = s.tokenRequest.url.authority := rfl
  have hname : c.network.host s.tokenRequest.url = c.network.host s.base :=
    Network.host_congr hurl.symm
  have htake : Grants clock (Network.Host.take (c.network.host s.base) true).1 ∧
      ∀ reply ∈ (Network.Host.take (c.network.host s.base) true).2.tokens, Grants clock reply := by
    have hgranting := h.granting
    rw [Network.Host.take, if_pos rfl]
    -- The next token may be prepared, and else there is a default.
    split
    · exact ⟨h.granting_default, hgranting⟩
    · rename_i reply later htokens
      rwa [htokens, List.forall_mem_cons] at hgranting
  refine ⟨?_, ⟨h.uncancelled, h.up, ?_, ?_, h.granting_default⟩, ?_⟩
  · rw [Network.reply_deliver, hname, asksForToken_tokenRequest]
    exact htake.1
  · rw [Network.answers_deliver asksForToken_tokenRequest]
    exact h.prepared
  · rw [Network.host_deliver hurl, asksForToken_tokenRequest]
    exact htake.2
  · rw [Network.asked_deliver, asksForToken_tokenRequest, if_pos rfl, List.append_nil]

/-- A granted token is kept. -/
theorem run_keepToken {g : Wire.Grant} {σ : Session Connection} {expiresAt : Int}
    (h : Clock.expiry? σ.clock.now (g.expiresIn?.getD Token.defaultLifetime) = some expiresAt) :
    (keepToken g).run σ = (.ok g.accessToken,
      { σ with
        clock := σ.clock.tick
        world := { σ.world with token? := some ⟨g.accessToken, expiresAt⟩ } }) := by
  rw [keepToken, run_bind, run_now]
  simp only [h]
  rfl

/-- A request for a token is granted and takes none of the other answers. -/
theorem requestToken_exchanges : Exchanges s [] [] (fun _ => True) s.requestToken := by
  refine Exchanges.after (Exchanges.log _ _ _) fun _ _ => ?_
  intro rest σ hσ
  obtain ⟨⟨r, g, hreply, hok, hread, hexpiry⟩, hσ', hasked⟩ := deliver_tokenRequest hσ
  have hheard : (σ.world.network.deliver s.tokenRequest).1.heard? = some (.ok r) := by
    rw [hreply]
    rfl
  have hsend := run_send (.tokenCancelled s.tokenUrl) s.tokenRequest hσ.uncancelled hσ.up hheard
  -- Whenever the token is granted, its lifetime ends within the calendar.
  obtain ⟨expiresAt, hexpiresAt⟩ := Option.isSome_iff_exists.mp (hexpiry σ.clock.taken)
  have hkeep := run_keepToken (σ := { σ with
    world := { σ.world with network := (σ.world.network.deliver s.tokenRequest).2 } }) hexpiresAt
  rw [run_bind, hsend]
  simp only [hok, if_true]
  rw [run_bind, run_within, hread]
  exact ⟨_, _, hkeep, trivial, ⟨hσ'.uncancelled, hσ'.up, hσ'.prepared, hσ'.granting,
    hσ'.granting_default⟩, hasked.trans (List.append_nil _).symm⟩

/-- There is always a token to send. -/
theorem bearer_exchanges : Exchanges s [] [] (fun _ => True) s.bearer := by
  refine Exchanges.world_bind fun w _ => ?_
  cases w.token? with
  | none => exact requestToken_exchanges
  | some t =>
    -- A token that is kept is sent while it is valid, and else replaced.
    refine Exchanges.after Exchanges.now fun now _ => ?_
    by_cases hvalid : t.isValid now Token.margin = true
    · simp only [hvalid, if_true]
      exact Exchanges.pure trivial
    · simp only [hvalid]
      exact Exchanges.after (Exchanges.log _ _ _) fun _ _ => requestToken_exchanges

/-- Waiting is not disturbed. -/
theorem pause_exchanges (microseconds : Nat) :
    Exchanges s [] [] (fun _ => True) (pause microseconds) := by
  refine Exchanges.cancelled.after ?_
  rintro _ rfl
  exact Exchanges.wait microseconds

/-- A client that asks once hears one reply. -/
theorem ask_exchanges {url : Url} (hurl : s.base.authority = url.authority) (attempt : Nat)
    {reply : Reply} {heard : Except LinkFault Response} (hreply : reply.heard? = some heard) :
    Exchanges s [reply] [⟨.get, url, none, .none⟩] (· = heard) (s.ask url attempt) :=
  Exchanges.announced _ <| bearer_exchanges.after fun _ _ =>
    send_exchanges (.requestCancelled url) hurl rfl hreply

/-- A success is passed on. -/
theorem checkStatus_exchanges (method : Method) (url : Url) {r : Response}
    (hok : r.status.isSuccess = true) :
    Exchanges s [] [] (· = r) (s.checkStatus method url r) := by
  rw [checkStatus, if_pos hok]
  exact Exchanges.pure rfl

end Http.Service

/-! ## Steps of a run -/

namespace SyncM

/-- The step takes the given answers, the given requests arrive besides those for tokens, and the
    step succeeds with a result in `Q`. -/
def Exchanges (s : Service) (used : List Reply) (sent : List Request) (Q : α → Prop)
    (m : SyncM Connection α) : Prop :=
  ∀ rest (r : Run Connection), Serving s (used ++ rest) r.world r.token r.clock →
    ∃ x r', m.run r = (.ok x, r') ∧ Q x ∧ Serving s rest r'.world r'.token r'.clock ∧
      asked r'.world.network = asked r.world.network ++ sent

namespace Exchanges

variable {m : SyncM Connection α}

/-- Returning a value takes no answer. -/
theorem pure (h : Q x) : Exchanges s [] [] Q (Pure.pure x) :=
  fun _ r hr => ⟨x, r, rfl, h, hr, (List.append_nil _).symm⟩

/-- What is known of the result may be weakened. -/
theorem mono {P : α → Prop} (hm : Exchanges s used sent P m) (h : ∀ x, P x → Q x) :
    Exchanges s used sent Q m := by
  intro rest r hr
  obtain ⟨x, r', hrun, hx, hrest⟩ := hm rest r hr
  exact ⟨x, r', hrun, h x hx, hrest⟩

/-- One step after another takes the answers of both. -/
theorem bind {f : α → SyncM Connection β} (hm : Exchanges s used sent Q m)
    (hf : ∀ x, Q x → Exchanges s used' sent' R (f x)) :
    Exchanges s (used ++ used') (sent ++ sent') R (m >>= f) := by
  intro rest r hr
  -- The first step leaves the answers of the second to come next.
  rw [List.append_assoc] at hr
  obtain ⟨x, r', hrun, hx, hr', hasked⟩ := hm _ r hr
  obtain ⟨y, r'', hrun', hy, hr'', hasked'⟩ := hf x hx rest r' hr'
  refine ⟨y, r'', ?_, hy, hr'', ?_⟩
  · rw [run_bind, hrun]
    exact hrun'
  · rw [hasked', hasked, List.append_assoc]

/-- A part that only looks at its surroundings. -/
theorem after {f : α → SyncM Connection β} (hm : Exchanges s [] [] Q m)
    (hf : ∀ x, Q x → Exchanges s used sent R (f x)) : Exchanges s used sent R (m >>= f) :=
  hm.bind hf

/-- A part that is followed by one that asks nothing. -/
theorem before {f : α → SyncM Connection β} (hm : Exchanges s used sent Q m)
    (hf : ∀ x, Q x → Exchanges s [] [] R (f x)) : Exchanges s used sent R (m >>= f) := by
  have h := hm.bind hf
  rwa [List.append_nil, List.append_nil] at h

/-- The activity around a step is only named when it fails. -/
theorem within (a : Activity) (hm : Exchanges s used sent Q m) :
    Exchanges s used sent Q (m.within a) := by
  intro rest r hr
  obtain ⟨x, r', hrun, hrest⟩ := hm rest r hr
  refine ⟨x, r', ?_, hrest⟩
  rw [run_within, hrun]
  rfl

/-- An event takes no answer. -/
theorem emit (e : Event) : Exchanges s [] [] (fun _ => True) (SyncM.emit e) := by
  intro rest r hr
  refine ⟨(), _, run_emit e r, trivial, ?_, (List.append_nil _).symm⟩
  refine ⟨?_, hr.up, hr.prepared, hr.granting, hr.granting_default⟩
  rw [Run.tell, hr.uncancelled]
  rfl

/-- A line in the log takes no answer. -/
theorem log (level : Level) (component : Component) (text : String) :
    Exchanges s [] [] (fun _ => True) (SyncM.log level component text) := by
  intro rest r hr
  refine ⟨(), _, run_log .., trivial, ?_, (List.append_nil _).symm⟩
  refine ⟨?_, hr.up, hr.prepared, hr.granting, hr.granting_default⟩
  rw [Run.write, hr.uncancelled]
  rfl

/-- A note takes no answer. -/
theorem note (m : Mutation) (ok : Bool) : Exchanges s [] [] (fun _ => True) (SyncM.note m ok) :=
  fun _ r hr => ⟨(), _, run_note m ok r, trivial, hr, (List.append_nil _).symm⟩

/-- The run is never found cancelled. -/
theorem cancelled : Exchanges s [] [] (· = false) SyncM.cancelled := by
  intro rest r hr
  refine ⟨_, _, run_cancelled r, ?_, ?_, (List.append_nil _).symm⟩
  · rw [hr.uncancelled]
    rfl
  · refine ⟨?_, hr.up, hr.prepared, hr.granting, hr.granting_default⟩
    rw [Run.look, hr.uncancelled]
    rfl

/-- A client's call that succeeds. -/
theorem attempt {c : Call Connection α} (hc : c.Exchanges s used sent Q) :
    Exchanges s used sent (fun out => ∃ x, out = .ok x ∧ Q x) (SyncM.attempt c) := by
  intro rest r hr
  obtain ⟨x, σ', hrun, hx, hσ', hasked⟩ := hc rest r.session hr
  refine ⟨_, _, run_attempt c r, ⟨x, by rw [hrun], hx⟩, ?_, ?_⟩
  · rw [hrun]
    -- The token is fresh before and after the call, and so it is for the run.
    refine ⟨?_, hσ'.up, hσ'.prepared, hσ'.granting, hσ'.granting_default⟩
    rw [Run.resume, hr.uncancelled, hσ'.uncancelled]
    rfl
  · rw [hrun]
    exact hasked

/-- A step that makes a call takes what the call takes. -/
theorem call {c : Call Connection α} (hc : c.Exchanges s used sent Q) :
    Exchanges s used sent Q (SyncM.call c) := by
  intro rest r hr
  obtain ⟨out, r', hrun, ⟨x, rfl, hx⟩, hrest⟩ := attempt hc rest r hr
  refine ⟨x, r', ?_, hx, hrest⟩
  rw [SyncM.call, run_bind, hrun]
  rfl

end Exchanges

end SyncM

end TenantSync
