import TenantSync.Http.Links
import TenantSync.Paging.Walk
import TenantSync.Proofs.Http.Serving

/-!
# What clients send

Whatever the hosts reply and whenever the run is told to stop, a listing sends nothing but requests
for tokens and for pages (`Consults`), and it returns only if there is a way to the hosts.  A
mutation asks for a token and then sends its own request once; if the request is not sent, the
mutation fails for want of a token or because the run was found cancelled, and its fault says which
(`HoldsBack`, `client_mutate_transmits`).

`Call.Sends` and `Call.Transmits` say so of a call, and go over from its parts to the whole.
-/

namespace TenantSync

open Http
open Http.Network (asksForToken)

namespace Http

/-- What a client fails with when it gets no token. -/
inductive TokenFault (s : Service) : Fault → Prop where
  | unreached (f : LinkFault) :
      TokenFault s ((Failure.of (.link s.tokenUrl f)).within (.reachingTokenEndpoint s.tokenUrl))
  | refused (status : Status) (body : String) :
      TokenFault s (Failure.of (.tokenRefused s.tokenUrl status body))
  | unreadable (f : Json.Fault) : TokenFault s ((Failure.of (.decode f)).within .readingToken)
  | endless (lifetime : Int) : TokenFault s (Failure.of (.lifetime lifetime))
  | cancelled : TokenFault s (Failure.of (.tokenCancelled s.tokenUrl))

/-- A client fails like this when it holds a request back from an address: for want of a token, or
    because it found the run cancelled. -/
def HoldsBack (s : Service) (url : Url) (cancelled : Prop) (f : Fault) : Prop :=
  TokenFault s f ∨ f = Failure.of (.requestCancelled url) ∧ cancelled

/-- The request asks for a token of a service or for a page of one of its four collections. -/
inductive Consults (s : Service) : Request → Prop where
  | token : Consults s s.tokenRequest
  | page (k : Kind) (cursor : Cursor) (token : String) :
      Consults s ⟨.get, s.pageUrl (Service.collection k) cursor, some token, .none⟩

end Http

variable {σ τ α β : Type} {net : σ → Network} {up : Bool} {P : Request → Prop} {Q : α → Prop}
  {R : β → Prop} {E : Fault → Prop} {s : Service}

/-- The outcome of a call is a result in `Q` or a fault in `E`. -/
def Lands (Q : α → Prop) (E : Fault → Prop) : Except Fault α → Prop
  | .ok x => Q x
  | .error f => E f

namespace Call

/-- Whatever comes of the call, it sends only requests in `P` over a network that is `up` or not and
    stays so, and its outcome is a result in `Q` or a fault in `E`. -/
def Sends (net : σ → Network) (up : Bool) (P : Request → Prop) (Q : α → Prop) (E : Fault → Prop)
    (c : Call σ α) : Prop :=
  ∀ s : Session σ, (net s.world).up = up →
    ∃ sent, (net (c.run s).2.world).arrived = (net s.world).arrived ++ sent ∧
      (∀ r ∈ sent, P r) ∧ (net (c.run s).2.world).up = up ∧ Lands Q E (c.run s).1

namespace Sends

variable {c : Call σ α}

/-- A call that sends nothing. -/
theorem silent (hnet : ∀ s, net (c.run s).2.world = net s.world)
    (hout : ∀ s, Lands Q E (c.run s).1) : Sends net up P Q E c := by
  intro s hup
  refine ⟨[], ?_, List.forall_mem_nil _, ?_, hout s⟩
  · rw [hnet, List.append_nil]
  · rw [hnet, hup]

/-- Returning a value sends nothing. -/
theorem pure {x : α} (h : Q x) : Sends net up P Q E (Pure.pure x) :=
  silent (fun _ => rfl) fun _ => h

/-- A failure sends nothing. -/
theorem fail {cause : Cause} (h : E (Failure.of cause)) : Sends net up P Q E (Call.fail cause) :=
  silent (fun _ => rfl) fun _ => h

/-- Passing on an outcome sends nothing. -/
theorem ofExcept {ε : Type} {cause : ε → Cause} {x : Except ε α} (hok : ∀ y, x = .ok y → Q y)
    (herror : ∀ e, E (Failure.of (cause e))) : Sends net up P Q E (Call.ofExcept cause x) := by
  cases x with
  | ok y => exact pure (hok y rfl)
  | error e => exact fail (herror e)

/-- A line in the log sends nothing. -/
theorem log (level : Level) (component : Component) (text : String) :
    Sends net up P (fun _ => True) E (Call.log level component text) :=
  silent (fun _ => rfl) fun _ => trivial

/-- Reading the clock sends nothing. -/
theorem now : Sends net up P (fun _ => True) E Call.now := silent (fun _ => rfl) fun _ => trivial

/-- Waiting sends nothing. -/
theorem wait (microseconds : Nat) : Sends net up P (fun _ => True) E (Call.wait microseconds) :=
  silent (fun _ => rfl) fun _ => trivial

/-- Looking at the token sends nothing. -/
theorem cancelled : Sends net up P (fun _ => True) E Call.cancelled :=
  silent (fun _ => rfl) fun _ => trivial

/-- Looking at the state sends nothing. -/
theorem world : Sends net up P (fun _ => True) E Call.world :=
  silent (fun _ => rfl) fun _ => trivial

/-- What a call can send and how it can end may be told with less detail. -/
theorem mono {P' : Request → Prop} {Q' : α → Prop} {F : Fault → Prop}
    (hc : Sends net up P' Q' F c)
    (hP : ∀ r, P' r → P r) (hQ : ∀ x, Q' x → Q x) (hE : ∀ f, F f → E f) :
    Sends net up P Q E c := by
  intro s hup
  obtain ⟨sent, harrived, hsent, hup', hout⟩ := hc s hup
  refine ⟨sent, harrived, fun r hr => hP r (hsent r hr), hup', ?_⟩
  rcases hrun : (c.run s).1 with f | x <;> rw [hrun] at hout
  · exact hE f hout
  · exact hQ x hout

/-- What two calls can send can be sent by one after the other. -/
theorem bind {f : α → Call σ β} (hc : Sends net up P Q E c)
    (hf : ∀ x, Q x → Sends net up P R E (f x)) : Sends net up P R E (c >>= f) := by
  intro s hup
  obtain ⟨sent, harrived, hsent, hup', hout⟩ := hc s hup
  rw [run_bind]
  -- A first call that fails is all there is.
  rcases hrun : c.run s with ⟨e | x, s'⟩ <;> rw [hrun] at harrived hup' hout
  · exact ⟨sent, harrived, hsent, hup', hout⟩
  · obtain ⟨sent', harrived', hsent', hup'', hout'⟩ := hf x hout s' hup'
    refine ⟨sent ++ sent', ?_, List.forall_mem_append.mpr ⟨hsent, hsent'⟩, hup'', hout'⟩
    rw [harrived', harrived, List.append_assoc]

/-- A call that may be announced in the log. -/
theorem announced {level : Level} {component : Component} {text : String} (wanted : Bool)
    (hc : Sends net up P Q E c) :
    Sends net up P Q E (if wanted then Call.log level component text >>= fun _ => c else c) := by
  cases wanted with
  | false => exact hc
  | true => exact (log _ _ _).bind fun _ _ => hc

/-- The activity around a call is only named when it fails. -/
theorem within {F : Fault → Prop} (a : Activity) (hc : Sends net up P Q F c)
    (hE : ∀ f, F f → E (f.within a)) : Sends net up P Q E (c.within a) := by
  intro s hup
  obtain ⟨sent, harrived, hsent, hup', hout⟩ := hc s hup
  rw [run_within]
  refine ⟨sent, harrived, hsent, hup', ?_⟩
  rcases hrun : (c.run s).1 with f | x <;> rw [hrun] at hout
  · exact hE f hout
  · exact hout

/-- A call of which the faults do not matter. -/
theorem inside (a : Activity) (hc : Sends net up P Q (fun _ => True) c) :
    Sends net up P Q (fun _ => True) (c.within a) :=
  hc.within a fun _ _ => trivial

/-- A call on a part of the world that holds the network. -/
theorem zoom {l : Lens σ τ} {net' : τ → Network} (hget : ∀ w, net' (l.get w) = net w)
    (hset : ∀ t w, net (l.set t w) = net' t) {c : Call τ α} (hc : Sends net' up P Q E c) :
    Sends net up P Q E (c.zoom l) := by
  intro s hup
  rw [run_zoom]
  dsimp only
  rw [hset, ← hget]
  exact hc _ (by rw [hget, hup])

/-- Walking through a collection sends what its pages send. -/
theorem walkPages {up : Bool} {k : Kind} {ask : Cursor → Call σ (Page α)}
    (hask : ∀ cursor, Sends net up P (fun _ => up = true) (fun _ => True) (ask cursor))
    (bound : Nat) (cursor : Cursor) (trail : Trail) (done : List α) (pages : Nat) :
    Sends net up P (fun _ => up = true) (fun _ => True)
      (TenantSync.walkPages k ask bound cursor trail done pages) := by
  induction bound generalizing cursor trail done pages with
  | zero => exact fail trivial
  | succ bound ih =>
    -- A walk that succeeds has received its last page, so there is a way to the host.
    refine ((hask cursor).inside _).bind fun page hup => ?_
    dsimp only
    split
    · refine Sends.bind (Q := fun _ => True) ?_ fun trail _ => ih _ _ _ _
      exact inside _ (ofExcept (fun _ _ => trivial) fun _ => trivial)
    · exact (log _ _ _).bind fun _ _ => pure hup

/-- A walk over pages sends what its pages send, and succeeds only if one of them did. -/
theorem collectPages {up : Bool} {k : Kind} {ask : Cursor → Call σ (Page α)}
    (hask : ∀ cursor, Sends net up P (fun _ => up = true) (fun _ => True) (ask cursor))
    (bound : σ → Nat) :
    Sends net up P (fun _ => up = true) (fun _ => True) (TenantSync.collectPages bound k ask) :=
  world.bind fun _ _ => walkPages hask _ _ _ _ _

end Sends

end Call

namespace Http.Service

open Call

/-! ## Reading -/

/-- How sending a request ends: without a way to the hosts it fails at once, a run that is found
    cancelled sends nothing, and else the request arrives once. -/
theorem send_cases (stopped : Cause) (r : Request) (σ : Session Connection) :
    let out := (send stopped r).run σ
    (σ.world.network.up = false ∧ out.2.world.network = σ.world.network ∧
      out.1 = .ok (.error .unreachable)) ∨
    (out.2.world.network = σ.world.network ∧ out.1 = .error (Failure.of stopped) ∧
      out.2.token.cancelled = true) ∨
    (σ.world.network.up = true ∧ out.2.world.network = (σ.world.network.deliver r).2 ∧
      Lands (fun _ => True) (· = Failure.of stopped) out.1) := by
  rw [run_send_eq, Network.meet]
  -- In the order of the checks: the network, the token, and then the host's answer.
  cases hup : σ.world.network.up with
  | false => exact .inl ⟨rfl, rfl, rfl⟩
  | true =>
    cases hcan : σ.token.look.cancelled with
    | true => exact .inr (.inl ⟨rfl, rfl, hcan⟩)
    | false =>
      refine .inr (.inr ⟨rfl, rfl, ?_⟩)
      dsimp only [Bool.false_eq_true, if_true, if_false]
      cases (σ.world.network.deliver r).1 with
      | answer | drop => trivial
      | hang => rfl

/-- A request can be sent, and is answered only if there is a way to the host. -/
theorem send_sends (stopped : Cause) {r : Request} (hr : P r) (hstopped : E (Failure.of stopped)) :
    Sends Connection.network up P (fun out => out.isOk = true → up = true) E (send stopped r) := by
  intro σ hσ
  -- Only the last case sends the request, and there the network is up.
  obtain ⟨hup, hnet, hout⟩ | ⟨hnet, hout, -⟩ | ⟨hup, hnet, hout⟩ := send_cases stopped r σ
  · refine ⟨[], ?_, List.forall_mem_nil _, ?_, ?_⟩
    · rw [hnet, List.append_nil]
    · rw [hnet, hσ]
    · rw [hout]
      exact nofun
  · refine ⟨[], ?_, List.forall_mem_nil _, ?_, ?_⟩
    · rw [hnet, List.append_nil]
    · rw [hnet, hσ]
    · rw [hout]
      exact hstopped
  · refine ⟨[r], ?_, List.forall_mem_singleton.mpr hr, ?_, ?_⟩
    · rw [hnet]
      rfl
    · rw [hnet]
      exact hσ
    · rcases hrun : ((send stopped r).run σ).1 with f | x <;> rw [hrun] at hout
      · exact hout ▸ hstopped
      · exact fun _ => hσ.symm.trans hup

/-- Taking in a grant sends nothing. -/
theorem keepToken_sends (g : Wire.Grant) :
    Sends Connection.network up P (fun _ => True) (TokenFault s) (keepToken g) := by
  refine Sends.now.bind fun now _ => ?_
  dsimp only
  split
  · exact Sends.fail (.endless _)
  · exact Sends.silent (fun _ => rfl) fun _ => trivial

/-- A request for a token sends that and nothing else. -/
theorem requestToken_sends :
    Sends Connection.network up (· = s.tokenRequest) (fun _ => True) (TokenFault s)
      s.requestToken := by
  refine (Sends.log _ _ _).bind fun _ _ => ?_
  refine (send_sends (P := (· = s.tokenRequest)) _ rfl TokenFault.cancelled).bind fun out _ => ?_
  -- Behind the request, nothing more is sent; only the faults differ.
  cases out with
  | error f =>
    exact Sends.within (F := (· = _)) _ (Sends.fail rfl) fun _ h => h ▸ .unreached f
  | ok r =>
    dsimp only
    split
    · refine Sends.bind (Q := fun _ => True) ?_ fun g _ => keepToken_sends g
      refine Sends.within (F := fun f => ∃ e, f = Failure.of (.decode e)) _ ?_ ?_
      · exact Sends.ofExcept (fun _ _ => trivial) fun e => ⟨e, rfl⟩
      · rintro _ ⟨e, rfl⟩
        exact .unreadable e
    · exact Sends.fail (.refused _ _)

/-- Whoever needs a token may request one, and nothing else. -/
theorem bearer_sends :
    Sends Connection.network up (· = s.tokenRequest) (fun _ => True) (TokenFault s) s.bearer := by
  refine Sends.world.bind fun w _ => ?_
  -- A valid token sends nothing.
  cases w.token? with
  | none => exact requestToken_sends
  | some t =>
    refine Sends.now.bind fun now _ => ?_
    split
    · exact Sends.pure trivial
    · exact (Sends.log _ _ _).bind fun _ _ => requestToken_sends

section
variable (k : Kind) (cursor : Cursor)

/-- An attempt to read a page sends requests for the page and for a token. -/
theorem ask_sends (attempt : Nat) :
    Sends Connection.network up (Consults s) (fun out => out.isOk = true → up = true)
      (fun _ => True) (s.ask (s.pageUrl (collection k) cursor) attempt) := by
  have hbearer : Sends Connection.network up (Consults s) (fun _ => True) (fun _ => True)
      s.bearer :=
    bearer_sends.mono (fun _ h => h ▸ .token) (fun _ h => h) fun _ _ => trivial
  exact Sends.announced _ (hbearer.bind fun token _ => send_sends _ (.page k cursor token) trivial)

/-- A pause sends nothing. -/
theorem pause_sends (microseconds : Nat) :
    Sends Connection.network up P (fun _ => True) (fun _ => True) (pause microseconds) := by
  refine Sends.cancelled.bind fun cancelled _ => ?_
  cases cancelled with
  | false => exact Sends.wait _
  | true => exact (Sends.fail (Q := fun _ => True) trivial).bind fun _ _ => Sends.wait _

/-- A page may be asked for again and again, but without a way to the host there is no answer. -/
theorem getFrom_sends (left attempt : Nat) :
    Sends Connection.network up (Consults s) (fun _ => up = true) (fun _ => True)
      (s.getFrom (s.pageUrl (collection k) cursor) left attempt) := by
  -- By induction on the attempts left; waiting and logging send nothing.
  induction left generalizing attempt with
  | zero =>
    rw [getFrom]
    refine (ask_sends k cursor attempt).bind fun out hout => ?_
    cases out with
    | ok r => exact Sends.pure (hout rfl)
    | error f => exact Sends.inside _ (Sends.fail trivial)
  | succ left ih =>
    rw [getFrom]
    refine (ask_sends k cursor attempt).bind fun out hout => ?_
    cases out with
    | ok r =>
      dsimp only
      split
      · exact (Sends.log _ _ _).bind fun _ _ => (pause_sends _).bind fun _ _ => ih _
      · exact Sends.pure (hout rfl)
    | error f => exact (Sends.log _ _ _).bind fun _ _ => (pause_sends _).bind fun _ _ => ih _

/-- What is made of a status sends nothing. -/
theorem checkStatus_sends (method : Method) (url : Url) (r : Response) :
    Sends Connection.network up P (fun _ => True) (fun _ => True) (s.checkStatus method url r) := by
  rw [checkStatus]
  split
  · exact Sends.pure trivial
  · split <;> split <;> exact Sends.fail (E := fun _ => True) trivial

/-- A page is read by requests for it and for tokens, and only if there is a way to the host. -/
theorem getPage_sends (d : Json.Decoder α) :
    Sends Connection.network up (Consults s) (fun _ => up = true) (fun _ => True)
      (s.getPage (collection k) d cursor) := by
  refine (getFrom_sends k cursor _ _).bind fun r hup => ?_
  refine (checkStatus_sends _ _ r).bind fun r _ => ?_
  exact Sends.inside _ (Sends.ofExcept (fun _ _ => hup) fun _ => trivial)

/-- The pages behind a cursor are read by such requests too. -/
theorem getRest_sends (d : Json.Decoder α) (bound : Nat) (trail : Trail) (done : List α) :
    Sends Connection.network up (Consults s) (fun _ => up = true) (fun _ => True)
      (s.getRest (collection k) d bound cursor trail done) := by
  induction bound generalizing cursor trail done with
  | zero => exact Sends.fail trivial
  | succ bound ih =>
    rw [getRest]
    refine (getPage_sends k cursor d).bind fun page hup => ?_
    -- A page without a next one ends the reading; otherwise the trail is checked, which sends
    -- nothing.
    split
    · refine Sends.bind (Q := fun _ => True) ?_ fun trail _ => ih _ _ _
      exact Sends.inside _ (Sends.ofExcept (fun _ _ => trivial) fun _ => trivial)
    · exact Sends.pure hup

/-- A whole collection is read by such requests. -/
theorem getAll_sends (d : Json.Decoder α) :
    Sends Connection.network up (Consults s) (fun _ => up = true) (fun _ => True)
      (s.getAll (collection k) d) :=
  Sends.world.bind fun _ _ => getRest_sends k _ d _ _ _

end

end Http.Service

/-! ## Changing -/

namespace Call

/-- The call may request tokens and then sends one request, which is that of `change` with some
    token; or it sends no such request, and fails because it held it back from the address. -/
def Transmits (s : Service) (url : Url) (change : String → Request) (c : Call Connection α) :
    Prop :=
  ∀ σ : Session Connection, σ.world.network.up = true →
    ∃ tokens sent,
      (c.run σ).2.world.network.arrived = σ.world.network.arrived ++ (tokens ++ sent) ∧
      (∀ r ∈ tokens, r = s.tokenRequest) ∧ (c.run σ).2.world.network.up = true ∧
      ((∃ token, sent = [change token]) ∨
        sent = [] ∧ ∃ f, (c.run σ).1 = .error f ∧
          HoldsBack s url ((c.run σ).2.token.cancelled = true) f)

namespace Transmits

variable {url : Url} {change : String → Request} {c : Call Connection α}

/-- The request is sent last, when there is a token. -/
theorem after {f : α → Call Connection β}
    (hc : Sends Connection.network true (· = s.tokenRequest) Q (TokenFault s) c)
    (hf : ∀ x, Q x → Transmits s url change (f x)) : Transmits s url change (c >>= f) := by
  intro σ hup
  obtain ⟨tokens, harrived, htokens, hup', hout⟩ := hc σ hup
  rw [run_bind]
  rcases hrun : c.run σ with ⟨e | x, σ'⟩ <;> rw [hrun] at harrived hup' hout
  · -- Without a token there is no request.
    refine ⟨tokens, [], ?_, htokens, hup', .inr ⟨rfl, e, rfl, .inl hout⟩⟩
    rw [harrived, List.append_nil]
  · obtain ⟨tokens', sent, harrived', htokens', hup'', hsent⟩ := hf x hout σ' hup'
    refine ⟨tokens ++ tokens', sent, ?_, List.forall_mem_append.mpr ⟨htokens, htokens'⟩, hup'',
      hsent⟩
    rw [harrived', harrived, List.append_assoc, List.append_assoc]

/-- A call that may be announced in the log. -/
theorem announced {level : Level} {component : Component} {text : String} (wanted : Bool)
    (hc : Transmits s url change c) :
    Transmits s url change
      (if wanted then Call.log level component text >>= fun _ => c else c) := by
  cases wanted with
  | false => exact hc
  | true => exact after (Sends.log _ _ _) fun _ _ => hc

/-- What comes after it sends nothing. -/
theorem before {f : α → Call Connection β} (hc : Transmits s url change c)
    (hf : ∀ x, Sends Connection.network true (fun _ => False) (fun _ => True) (fun _ => True)
      (f x)) :
    Transmits s url change (c >>= f) := by
  intro σ hup
  obtain ⟨tokens, sent, harrived, htokens, hup', hsent⟩ := hc σ hup
  rw [run_bind]
  rcases hrun : c.run σ with ⟨e | x, σ'⟩ <;> rw [hrun] at harrived hup' hsent
  · -- The fault is that of the call itself.
    refine ⟨tokens, sent, harrived, htokens, hup', hsent.imp_right ?_⟩
    rintro ⟨hnone, _, hout, hwhy⟩
    cases hout
    exact ⟨hnone, e, rfl, hwhy⟩
  · -- The call succeeded, so it has sent its request.
    obtain ⟨none, harrived', hnone, hup'', -⟩ := hf x σ' hup'
    obtain rfl := List.eq_nil_iff_forall_not_mem.mpr hnone
    refine ⟨tokens, sent, ?_, htokens, hup'', .inl ?_⟩
    · exact harrived'.trans (by rw [List.append_nil, harrived])
    · obtain hsent | ⟨-, _, hout, -⟩ := hsent
      · exact hsent
      · exact nomatch hout

/-- The request is sent once, or else the client says that it held it back. -/
theorem send (token : String) :
    Transmits s url change (Service.send (.requestCancelled url) (change token)) := by
  intro σ hup
  -- The network is up, so the request was withheld by a cancelled token or has arrived.
  obtain ⟨hdown, -⟩ | ⟨hnet, hout, hcan⟩ | ⟨-, hnet, -⟩ :=
    Service.send_cases (.requestCancelled url) (change token) σ
  · exact nomatch hup.symm.trans hdown
  · refine ⟨[], [], ?_, List.forall_mem_nil _, ?_, .inr ⟨rfl, _, hout, .inr ⟨rfl, hcan⟩⟩⟩
    · rw [hnet, List.append_nil, List.append_nil]
    · rw [hnet, hup]
  · refine ⟨[], [change token], ?_, List.forall_mem_nil _, ?_, .inl ⟨token, rfl⟩⟩
    · rw [hnet]
      rfl
    · rw [hnet]
      exact hup

end Transmits

end Call

namespace Http.Service

open Call

/-- A mutation is sent once, and never again. -/
theorem mutate_transmits (method : Method) (url : Url) (body : Body) :
    Transmits s url (fun token => ⟨method, url, some token, body⟩) (s.mutate method url body) := by
  refine Transmits.announced _ (Transmits.after bearer_sends fun token _ => ?_)
  refine (Transmits.send token).before fun out => ?_
  cases out with
  | error f => exact Sends.inside _ (Sends.fail trivial)
  | ok r => exact checkStatus_sends method url r

/-- Whatever the engine asks for is sent at most once. -/
theorem client_mutate_transmits (s : Service) (m : Mutation) :
    Transmits s (s.change none m).url (fun token => s.change (some token) m)
      (s.client.mutate m) := by
  cases m with
  | create e =>
    -- Reading the reply to a creation sends nothing more.
    have hpost : ∀ {β : Type} (d : Json.Decoder β), Transmits s (s.change none (.create e)).url
        (fun token => s.change (some token) (.create e)) (s.post d e) := fun d =>
      (mutate_transmits _ _ _).before fun r =>
        Sends.inside _ (Sends.ofExcept (fun _ _ => trivial) fun _ => trivial)
    cases e <;> exact (hpost _).before fun _ => Sends.pure trivial
  | delete k id => exact (mutate_transmits _ _ _).before fun _ => Sends.pure trivial

end Http.Service

end TenantSync
