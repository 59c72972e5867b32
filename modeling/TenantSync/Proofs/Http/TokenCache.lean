import Mathlib.Data.List.Forall2
import TenantSync.Proofs.Http.Serving

/-!
# The token that a client keeps

To send a request a client needs a token.  A `Dispatch` records one time that it does so: the token
that it kept, what came of a request for a new one, and what came of its own request.  Whatever the
hosts reply, whatever the clock shows and whenever a run is told to stop, a call of a client is a
row of dispatches (`Call.Dispatches`).  `token_cache_discipline` says so of any row of calls: when
a new token is requested, which one a request carries, that what is requested is sent unless the run
is told to stop, and that a failed request for a token changes nothing and ends the call.
-/

namespace TenantSync

namespace Http

/-! ## Dispatches -/

/-- How a client sends one request. -/
structure Dispatch where
  /-- The token that is kept at first. -/
  kept? : Option Token
  /-- The clock at first. -/
  clock : Clock
  /-- What came of the request for a token, if there was one. -/
  renewal? : Option Fate
  /-- The client's own request and what came of it, if it had a token to send it with. -/
  request? : Option (Request × Fate)

namespace Dispatch

variable (d : Dispatch)

/-- The clock when a token is requested: it was read if there was a token to look at. -/
def lookedUp : Clock := if d.kept?.isSome then d.clock.tick else d.clock

/-- The token that was granted. -/
def granted? : Option Token := d.renewal?.bind (Fate.token? d.lookedUp.now)

/-- The token that is kept afterwards. -/
def left? : Option Token := d.granted?.or d.kept?

/-- The clock afterwards: it was read if there was a grant to take in. -/
def later : Clock :=
  if (d.renewal?.bind Fate.grant?).isSome then d.lookedUp.tick else d.lookedUp

/-- All requests that the client was about to send, in order, and what came of them. -/
def exchanges (s : Service) : List (Request × Fate) :=
  (d.renewal?.map (s.tokenRequest, ·)).toList ++ d.request?.toList

/-- The rule of a dispatch: a token is requested exactly when none is kept that can still be used,
    the request carries the token that is left, and it is not sent exactly when a token was
    requested and none granted. -/
structure Follows : Prop where
  renewed_iff : d.renewal?.isSome = true ↔
    ∀ t, d.kept? = some t → ¬ d.clock.now + Token.margin * second < t.expiresAt
  bearer : ∀ r fate, d.request? = some (r, fate) →
    ∃ t, d.left? = some t ∧ r.bearer? = some t.accessToken
  unsent_iff : d.request? = none ↔ d.renewal?.isSome = true ∧ d.granted? = none

variable {kept? : Option Token} {clock : Clock} {fate fate' : Fate} {r : Request} {t : Token}

/-- Sending the token that is kept follows the rule if it can still be used. -/
theorem follows_of_kept (hkept : kept? = some t)
    (husable : clock.now + Token.margin * second < t.expiresAt)
    (hr : r.bearer? = some t.accessToken) : Follows ⟨kept?, clock, none, some (r, fate)⟩ where
  renewed_iff := ⟨nofun, fun h => absurd husable (h t hkept)⟩
  bearer := by
    rintro _ _ ⟨⟩
    exact ⟨t, hkept, hr⟩
  unsent_iff := ⟨nofun, nofun⟩

/-- Sending a token that was granted follows the rule if the one before could not be used. -/
theorem follows_of_granted
    (hkept : ∀ t, kept? = some t → ¬ clock.now + Token.margin * second < t.expiresAt)
    (hgranted : Dispatch.granted? ⟨kept?, clock, some fate, some (r, fate')⟩ = some t)
    (hr : r.bearer? = some t.accessToken) :
    Follows ⟨kept?, clock, some fate, some (r, fate')⟩ where
  renewed_iff := ⟨fun _ => hkept, fun _ => rfl⟩
  bearer := by
    rintro _ _ ⟨⟩
    exact ⟨t, by rw [left?, hgranted]; rfl, hr⟩
  unsent_iff := ⟨nofun, fun h => absurd (hgranted.symm.trans h.2) nofun⟩

/-- Sending nothing follows the rule if no token was granted. -/
theorem follows_of_refused
    (hkept : ∀ t, kept? = some t → ¬ clock.now + Token.margin * second < t.expiresAt)
    (hrefused : Dispatch.granted? ⟨kept?, clock, some fate, none⟩ = none) :
    Follows ⟨kept?, clock, some fate, none⟩ where
  renewed_iff := ⟨fun _ => hkept, fun _ => rfl⟩
  bearer := by rintro _ _ ⟨⟩
  unsent_iff := ⟨fun _ => ⟨rfl, hrefused⟩, fun _ => rfl⟩

end Dispatch

/-- What becomes of a network when requests are met one after another. -/
def Network.Undergoes (n : Network) : List (Request × Fate) → Network → Prop
  | [], n' => n' = n
  | (r, fate) :: rest, n' =>
    ∃ cancelled, (n.meet cancelled r).1 = fate ∧ (n.meet cancelled r).2.Undergoes rest n'

/-- The requests that arrive are those of which the fate says so. -/
theorem Network.Undergoes.arrived {n n' : Network} {exchanges : List (Request × Fate)}
    (h : n.Undergoes exchanges n') :
    n'.arrived = n.arrived ++ (exchanges.filter (·.2.arrives)).map Prod.fst := by
  induction exchanges generalizing n with
  | nil =>
    rw [show n' = n from h]
    exact (List.append_nil _).symm
  | cons exchange rest ih =>
    obtain ⟨cancelled, hfate, hrest⟩ := h
    -- A request arrives at most once, and only if its fate is to.
    rw [ih hrest, Network.arrived_meet, hfate, List.filter_cons]
    split
    · rw [List.append_assoc]
      rfl
    · rw [List.append_nil]

/-- As long as there is a way to the hosts every request finds it. -/
theorem Network.Undergoes.up {n n' : Network} {exchanges : List (Request × Fate)}
    (h : n.Undergoes exchanges n') (hup : n.up = true) :
    n'.up = true ∧ ∀ x ∈ exchanges, x.2 ≠ .unreachable := by
  induction exchanges generalizing n with
  | nil =>
    rw [show n' = n from h]
    exact ⟨hup, List.forall_mem_nil _⟩
  | cons exchange rest ih =>
    obtain ⟨cancelled, hfate, hrest⟩ := h
    obtain ⟨hup', hreached⟩ := ih hrest (Network.up_meet.trans hup)
    -- A network that is up stays up, and no request over it is unreachable.
    refine ⟨hup', List.forall_mem_cons.mpr ⟨fun hunreachable => ?_, hreached⟩⟩
    rw [← hfate, Network.meet_eq_unreachable_iff, hup] at hunreachable
    cases hunreachable

/-- A row of dispatches, from the connection and the clock at first to those afterwards. -/
inductive Dispatched (s : Service) (P : Request → Prop) :
    Connection → Clock → List Dispatch → Connection → Clock → Prop where
  | nil {c : Connection} {clock : Clock} : Dispatched s P c clock [] c clock
  | cons {c c' : Connection} {clock clock' : Clock} {n : Network} {d : Dispatch}
      {ds : List Dispatch} :
      d.kept? = c.token? → d.clock = clock → d.Follows →
      (∀ r fate, d.request? = some (r, fate) → P r) →
      c.network.Undergoes (d.exchanges s) n →
      Dispatched s P ⟨n, d.left?⟩ d.later ds c' clock' →
      Dispatched s P c clock (d :: ds) c' clock'

variable {s : Service} {P : Request → Prop}

namespace Dispatched

variable {c c' c'' : Connection} {clock clock' clock'' : Clock} {ds ds' : List Dispatch}

/-- Rows are joined where the first leaves the client. -/
theorem append (h : Dispatched s P c clock ds c' clock')
    (h' : Dispatched s P c' clock' ds' c'' clock'') :
    Dispatched s P c clock (ds ++ ds') c'' clock'' := by
  induction h with
  | nil => exact h'
  | cons hkept hclock hfollows hrequest hnetwork _ ih =>
    exact .cons hkept hclock hfollows hrequest hnetwork (ih h')

/-- One dispatch is a row. -/
theorem single {d : Dispatch} (hkept : d.kept? = c.token?) (hclock : d.clock = clock)
    (hfollows : d.Follows) (hrequest : ∀ r fate, d.request? = some (r, fate) → P r)
    (hnetwork : c.network.Undergoes (d.exchanges s) c'.network) (hleft : d.left? = c'.token?)
    (hlater : d.later = clock') : Dispatched s P c clock [d] c' clock' := by
  refine .cons hkept hclock hfollows hrequest hnetwork ?_
  rw [hleft, hlater]
  exact .nil

/-- The requests that arrive are those of the dispatches. -/
theorem arrived (h : Dispatched s P c clock ds c' clock') :
    c'.network.arrived = c.network.arrived ++
      ((ds.flatMap (·.exchanges s)).filter (·.2.arrives)).map Prod.fst := by
  induction h with
  | nil => exact (List.append_nil _).symm
  | cons _ _ _ _ hnetwork _ ih =>
    rw [ih, hnetwork.arrived, List.flatMap_cons, List.filter_append, List.map_append,
      List.append_assoc]

/-- As long as there is a way to the hosts every request of a row finds it. -/
theorem not_unreachable (h : Dispatched s P c clock ds c' clock') (hup : c.network.up = true) :
    ∀ x ∈ ds.flatMap (·.exchanges s), x.2 ≠ .unreachable := by
  induction h with
  | nil => exact List.forall_mem_nil _
  | cons _ _ _ _ hnetwork _ ih =>
    obtain ⟨hup', hreached⟩ := hnetwork.up hup
    rw [List.flatMap_cons]
    exact List.forall_mem_append.mpr ⟨hreached, ih hup'⟩

end Dispatched

/-- The most recent token that was granted, or else the one that was kept at first. -/
def latest (kept? : Option Token) (ds : List Dispatch) : Option Token :=
  (ds.filterMap Dispatch.granted?).getLast?.or kept?

section
variable {kept? : Option Token} {ds ds' : List Dispatch}

/-- The first dispatch of a row decides what the rest begins with. -/
theorem latest_cons (d : Dispatch) :
    latest kept? (d :: ds) = latest (d.granted?.or kept?) ds := by
  rw [latest, latest, List.filterMap_cons]
  cases d.granted? with
  | none => rfl
  | some t =>
    rw [List.getLast?_cons]
    cases (ds.filterMap Dispatch.granted?).getLast? <;> rfl

/-- What a row leaves is what the next one begins with. -/
theorem latest_append : latest kept? (ds ++ ds') = latest (latest kept? ds) ds' := by
  induction ds generalizing kept? with
  | nil => rfl
  | cons d ds ih => rw [List.cons_append, latest_cons, latest_cons, ih]

/-- The dispatches follow the rule, and each begins with the token that the one before it left. -/
def Keeps : Option Token → List Dispatch → Prop
  | _, [] => True
  | kept?, d :: ds => d.kept? = kept? ∧ d.Follows ∧ Keeps d.left? ds

/-- Rows that follow the rule can be joined. -/
theorem Keeps.append (h : Keeps kept? ds) (h' : Keeps (latest kept? ds) ds') :
    Keeps kept? (ds ++ ds') := by
  induction ds generalizing kept? with
  | nil => exact h'
  | cons d ds ih =>
    obtain ⟨rfl, hfollows, hrest⟩ := h
    rw [latest_cons] at h'
    exact ⟨rfl, hfollows, ih hrest h'⟩

/-- Each dispatch begins with the most recent token. -/
theorem Keeps.at {d : Dispatch} (h : Keeps kept? (ds ++ d :: ds')) :
    d.kept? = latest kept? ds ∧ d.Follows := by
  induction ds generalizing kept? with
  | nil => exact ⟨h.1, h.2.1⟩
  | cons e ds ih =>
    obtain ⟨rfl, -, hrest⟩ := h
    rw [latest_cons]
    exact ih hrest

end

/-- A row of dispatches follows the rule and leaves the most recent token. -/
theorem Dispatched.keeps {c c' : Connection} {clock clock' : Clock} {ds : List Dispatch}
    (h : Dispatched s P c clock ds c' clock') :
    Keeps c.token? ds ∧ c'.token? = latest c.token? ds := by
  induction h with
  | nil => exact ⟨trivial, rfl⟩
  | cons hkept _ hfollows _ _ _ ih =>
    refine ⟨⟨hkept, hfollows, ih.1⟩, ?_⟩
    rw [latest_cons, ih.2, ← hkept]
    rfl

end Http

open Http

variable {s : Service} {P : Request → Prop} {α β : Type}

/-! ## Calls as dispatches -/

namespace Call

/-- What a call does and how it ends, as a row of dispatches.  One that has no token to send its
    request with is the last, and the call fails.  A request is withheld, or left without an
    answer, only when the run is told to stop; it is the last one too, and the call fails. -/
structure Row (s : Service) (P : Request → Prop) (σ : Session Connection)
    (out : Except Fault α × Session Connection) (ds : List Dispatch) : Prop where
  dispatched : Dispatched s P σ.world σ.clock ds out.2.world out.2.clock
  unsent_last : ∀ d ∈ ds.dropLast, d.request?.isSome = true
  unsent_fails : out.1.isOk = true → ∀ d ∈ ds, d.request?.isSome = true
  stopped : ∀ x ∈ ds.flatMap (·.exchanges s), x.2.Stops →
    out.2.token.cancelled = true ∧ out.1.isOk = false
  stopped_last : ∀ x ∈ (ds.flatMap (·.exchanges s)).dropLast, ¬ x.2.Stops

namespace Row

variable {σ ρ : Session Connection} {out : Except Fault α × Session Connection}
  {ds ds' : List Dispatch}

/-- A row of no dispatches. -/
theorem empty (hworld : out.2.world = σ.world) (hclock : out.2.clock = σ.clock) :
    Row s P σ out [] where
  dispatched := by
    rw [hworld, hclock]
    exact .nil
  unsent_last := List.forall_mem_nil _
  unsent_fails _ := List.forall_mem_nil _
  stopped := List.forall_mem_nil _
  stopped_last := List.forall_mem_nil _

/-- A row of one dispatch, of which only the last request can be stopped. -/
theorem single {d : Dispatch} (hd : Dispatched s P σ.world σ.clock [d] out.2.world out.2.clock)
    (hok : out.1.isOk = true → d.request?.isSome = true)
    (hstopped : ∀ x ∈ d.exchanges s, x.2.Stops →
      out.2.token.cancelled = true ∧ out.1.isOk = false)
    (hlast : ∀ x ∈ (d.exchanges s).dropLast, ¬ x.2.Stops) : Row s P σ out [d] where
  dispatched := hd
  unsent_last := List.forall_mem_nil _
  unsent_fails h := List.forall_mem_singleton.mpr (hok h)
  stopped := by
    rw [List.flatMap_singleton]
    exact hstopped
  stopped_last := by
    rw [List.flatMap_singleton]
    exact hlast

/-- What is not the last of a joined list is in the first part or not the last of the second. -/
private theorem mem_dropLast_append {γ : Type} {xs ys : List γ} {x : γ}
    (h : x ∈ (xs ++ ys).dropLast) : x ∈ xs ∨ x ∈ ys.dropLast := by
  rw [List.dropLast_append] at h
  split at h
  · exact .inl (List.dropLast_subset _ h)
  · exact List.mem_append.mp h

/-- In a call that succeeds nothing is stopped. -/
theorem not_stops_of_isOk (h : Row s P σ out ds) (hok : out.1.isOk = true) :
    ∀ x ∈ ds.flatMap (·.exchanges s), ¬ x.2.Stops := by
  intro x hx hstops
  have hfails := (h.stopped x hx hstops).2
  rw [hok] at hfails
  cases hfails

/-- A row goes on where a call succeeded. -/
theorem append {x : α} {out' : Except Fault β × Session Connection}
    (h : Row s P σ (.ok x, ρ) ds) (h' : Row s P ρ out' ds') : Row s P σ out' (ds ++ ds') where
  dispatched := h.dispatched.append h'.dispatched
  -- The first call succeeded, so none of its dispatches was unsent and nothing was stopped.
  unsent_last d hd := (mem_dropLast_append hd).elim (h.unsent_fails rfl d) (h'.unsent_last d)
  unsent_fails hok d hd :=
    (List.mem_append.mp hd).elim (h.unsent_fails rfl d) (h'.unsent_fails hok d)
  stopped y hy hstops := by
    rw [List.flatMap_append] at hy
    rcases List.mem_append.mp hy with hy | hy
    · exact absurd hstops (h.not_stops_of_isOk rfl y hy)
    · exact h'.stopped y hy hstops
  stopped_last y hy := by
    rw [List.flatMap_append] at hy
    exact (mem_dropLast_append hy).elim (h.not_stops_of_isOk rfl y) (h'.stopped_last y)

/-- How a call ends is told by its outcome alone. -/
theorem congr {out' : Except Fault β × Session Connection} (h : Row s P σ out ds)
    (hout : out'.1.isOk = out.1.isOk) (hafter : out'.2 = out.2) : Row s P σ out' ds where
  dispatched := by
    rw [hafter]
    exact h.dispatched
  unsent_last := h.unsent_last
  unsent_fails hok := h.unsent_fails (hout.symm.trans hok)
  stopped := by
    rw [hout, hafter]
    exact h.stopped
  stopped_last := h.stopped_last

end Row

/-- The call is a row of dispatches, `least` of them at least. -/
def Dispatches (s : Service) (P : Request → Prop) (least : Nat) (c : Call Connection α) : Prop :=
  ∀ σ : Session Connection, ∃ ds : List Dispatch, least ≤ ds.length ∧ Row s P σ (c.run σ) ds

namespace Dispatches

variable {c : Call Connection α} {least : Nat}

/-- A call that neither asks the network nor the clock. -/
theorem quiet (hworld : ∀ σ, (c.run σ).2.world = σ.world)
    (hclock : ∀ σ, (c.run σ).2.clock = σ.clock) : Dispatches s P 0 c :=
  fun σ => ⟨[], Nat.zero_le _, .empty (hworld σ) (hclock σ)⟩

/-- Returning a value sends nothing. -/
theorem pure (x : α) : Dispatches s P 0 (Pure.pure x) := quiet (fun _ => rfl) fun _ => rfl

/-- A failure sends nothing. -/
theorem fail (cause : Cause) : Dispatches s P 0 (Call.fail cause : Call Connection α) :=
  quiet (fun _ => rfl) fun _ => rfl

/-- A value or a failure that is there already sends nothing. -/
theorem ofExcept {ε : Type} (cause : ε → Cause) (x : Except ε α) :
    Dispatches s P 0 (Call.ofExcept cause x : Call Connection α) := by
  cases x with
  | ok y => exact pure y
  | error e => exact fail _

/-- A line in the log sends nothing. -/
theorem log (level : Level) (component : Component) (text : String) :
    Dispatches s P 0 (Call.log level component text) := quiet (fun _ => rfl) fun _ => rfl

/-- Waiting sends nothing. -/
theorem wait (microseconds : Nat) : Dispatches s P 0 (Call.wait microseconds) :=
  quiet (fun _ => rfl) fun _ => rfl

/-- Looking at the token of the run sends nothing. -/
theorem cancelled : Dispatches s P 0 Call.cancelled := quiet (fun _ => rfl) fun _ => rfl

/-- Looking at the connection sends nothing. -/
theorem world_bind {f : Connection → Call Connection α} (hf : ∀ w, Dispatches s P least (f w)) :
    Dispatches s P least (Call.world >>= f) := fun σ => hf σ.world σ

/-- One call after another, which begins only if the first succeeds. -/
theorem bind {f : α → Call Connection β} (hc : Dispatches s P least c)
    (hf : ∀ x, Dispatches s P 0 (f x)) : Dispatches s P least (c >>= f) := by
  intro σ
  obtain ⟨ds, hleast, hds⟩ := hc σ
  rw [run_bind]
  -- A call that fails is the end of the row; one that succeeds is followed by the next.
  rcases hrun : c.run σ with ⟨e | x, σ'⟩ <;> rw [hrun] at hds
  case error => exact ⟨ds, hleast, hds.congr rfl rfl⟩
  case ok =>
    obtain ⟨ds', -, hds'⟩ := hf x σ'
    have hlength : least ≤ (ds ++ ds').length := by
      rw [List.length_append]
      omega
    exact ⟨ds ++ ds', hlength, hds.append hds'⟩

/-- A call of which the number of dispatches does not matter. -/
theorem any (hc : Dispatches s P least c) : Dispatches s P 0 c := fun σ =>
  let ⟨ds, _, h⟩ := hc σ
  ⟨ds, Nat.zero_le _, h⟩

/-- Calls in a row may be read from either side. -/
theorem assoc {γ : Type} {f : α → Call Connection β} {g : β → Call Connection γ}
    (h : Dispatches s P least (c >>= f >>= g)) :
    Dispatches s P least (c >>= fun x => f x >>= g) := by
  rwa [bind_assoc] at h

/-- The activity around a call is only named when it fails. -/
theorem within (a : Activity) (hc : Dispatches s P least c) :
    Dispatches s P least (c.within a) := by
  intro σ
  obtain ⟨ds, hleast, hds⟩ := hc σ
  rw [run_within]
  refine ⟨ds, hleast, hds.congr ?_ rfl⟩
  cases (c.run σ).1 <;> rfl

/-- A call that may be announced in the log. -/
theorem announced {level : Level} {component : Component} {text : String} (wanted : Bool)
    (hc : Dispatches s P least c) :
    Dispatches s P least (if wanted then Call.log level component text >>= fun _ => c else c) := by
  cases wanted with
  | false => exact hc
  | true =>
    intro σ
    obtain ⟨ds, hleast, hds⟩ := hc ((Call.log level component text).run σ).2
    exact ⟨ds, hleast, hds.dispatched, hds.unsent_last, hds.unsent_fails, hds.stopped,
      hds.stopped_last⟩

end Dispatches

end Call

namespace Http.Service

open Call

/-- A request that is stopped ends its call with the run cancelled. -/
theorem send_stopped (stopped : Cause) (r : Request) (σ : Session Connection)
    (h : (σ.world.network.meet σ.token.look.cancelled r).1.Stops) :
    ((send stopped r).run σ).2.token.cancelled = true ∧ ((send stopped r).run σ).1.isOk = false := by
  rw [run_send_eq]
  refine ⟨Network.cancelled_of_stops h, ?_⟩
  dsimp only
  rw [h.heard stopped]
  rfl

section
variable {σ ρ : Session Connection} {t : Token} {r : Request}

/-- A request that carries the token that is kept is a dispatch without a renewal. -/
theorem row_of_kept (husable : usable? σ.world σ.clock.now = some t) (stopped : Cause) (hP : P r)
    (hr : r.bearer? = some t.accessToken) :
    ∃ d, Row s P σ ((send stopped r).run { σ with clock := σ.clock.tick }) [d] := by
  obtain ⟨hkept, hvalid⟩ := usable?_eq_some_iff.mp husable
  have hsend := send_stopped stopped r { σ with clock := σ.clock.tick }
  dsimp only at hsend ⊢
  rw [run_send_eq] at hsend ⊢
  refine ⟨_, .single (.single rfl rfl (Dispatch.follows_of_kept hkept hvalid hr) ?_ ⟨_, rfl, rfl⟩
    rfl ?_) (fun _ => rfl) (List.forall_mem_singleton.mpr hsend) (List.forall_mem_nil _)⟩
  · rintro _ _ ⟨⟩
    exact hP
  · rw [Dispatch.later, Dispatch.lookedUp, hkept]
    rfl

-- A renewal: no kept token can be used, so one is requested and `met` is what comes of that.  It
-- leaves the session `ρ`.
variable {cancelled : Bool} {met : Fate × Network} {clock : Clock}
  (hunusable : ∀ t, σ.world.token? = some t →
    ¬ σ.clock.now + Token.margin * second < t.expiresAt)
  (hmet : σ.world.network.meet cancelled s.tokenRequest = met)
  (hlooked : (if σ.world.token?.isSome then σ.clock.tick else σ.clock) = clock)
  (hworld : ρ.world = ⟨met.2, (met.1.token? clock.now).or σ.world.token?⟩)
  (hclock : ρ.clock = if met.1.grant?.isSome then clock.tick else clock)

include hunusable hmet hlooked hworld hclock

/-- A request that carries a token that was granted is a dispatch with a renewal. -/
theorem row_of_granted (hgranted : met.1.token? clock.now = some t) (stopped : Cause) (hP : P r)
    (hr : r.bearer? = some t.accessToken) : ∃ d, Row s P σ ((send stopped r).run ρ) [d] := by
  subst hmet hlooked
  -- Whoever is granted a token was not stopped, so only the request itself may be.
  have hrenewed : ¬ (σ.world.network.meet cancelled s.tokenRequest).1.Stops :=
    fun h => absurd (h.token?_eq_none _ ▸ hgranted) nofun
  have hsend := send_stopped stopped r ρ
  rw [run_send_eq] at hsend ⊢
  generalize hsent : ρ.world.network.meet ρ.token.look.cancelled r = sent at hsend ⊢
  rw [hworld] at hsent
  have hfollows : Dispatch.Follows ⟨σ.world.token?, σ.clock,
      some (σ.world.network.meet cancelled s.tokenRequest).1, some (r, sent.1)⟩ :=
    Dispatch.follows_of_granted hunusable hgranted hr
  refine ⟨_, .single (.single rfl rfl hfollows ?_
    ⟨cancelled, rfl, _, congrArg Prod.fst hsent, congrArg Prod.snd hsent.symm⟩ ?_ hclock.symm)
    (fun _ => rfl)
    (List.forall_mem_cons.mpr ⟨fun h => absurd h hrenewed, List.forall_mem_singleton.mpr hsend⟩)
    (List.forall_mem_singleton.mpr hrenewed)⟩
  · rintro _ _ ⟨⟩
    exact hP
  · rw [hworld]
    rfl

/-- A renewal without a grant is a dispatch without a request, and the call fails. -/
theorem row_of_refused (hrefused : met.1.token? clock.now = none)
    (hstops : met.1.Stops → ρ.token.cancelled = true) (f : Fault) :
    ∃ d, Row s P σ ((.error f : Except Fault α), ρ) [d] := by
  subst hmet hlooked
  refine ⟨_, .single (.single rfl rfl (Dispatch.follows_of_refused hunusable hrefused)
    (by rintro _ _ ⟨⟩) ⟨cancelled, rfl, ?_⟩ ?_ hclock.symm) nofun
    (List.forall_mem_singleton.mpr fun h => ⟨hstops h, rfl⟩) (List.forall_mem_nil _)⟩
  · rw [hworld]
    rfl
  · rw [hworld]
    rfl

end

/-- A request with a token is a dispatch. -/
theorem bearer_dispatches (stopped : Cause) {r : String → Request}
    (hr : ∀ token, P (r token) ∧ (r token).bearer? = some token) :
    Dispatches s P 1 (s.bearer >>= fun token => send stopped (r token)) := by
  intro σ
  suffices h : ∃ d, Row s P σ ((s.bearer >>= fun token => send stopped (r token)).run σ) [d] from
    let ⟨d, hd⟩ := h
    ⟨[d], Nat.le_refl _, hd⟩
  have hbearer := s.bearer_spec σ
  rw [run_bind]
  generalize s.bearer.run σ = obtained at hbearer ⊢
  split at hbearer
  · -- The token that is kept is sent.
    rename_i t husable
    rw [hbearer]
    exact row_of_kept husable stopped (hr _).1 (hr _).2
  · rename_i hunusable
    have hunusable := usable?_eq_none_iff.mp hunusable
    obtain ⟨cancelled, -, hstops, hworld, hclock, -, hout⟩ := hbearer
    obtain ⟨out, ρ⟩ := obtained
    split at hout
    · -- A new token is granted and sent.
      rename_i t hgranted
      obtain rfl : out = .ok t.accessToken := hout
      exact row_of_granted hunusable rfl rfl hworld hclock hgranted stopped (hr _).1 (hr _).2
    · -- No token is granted, and the call fails.
      rename_i hrefused
      obtain ⟨f, rfl⟩ : ∃ f, out = .error f := hout
      exact row_of_refused hunusable rfl rfl hworld hclock hrefused hstops f

/-- A pause sends nothing. -/
theorem pause_dispatches (microseconds : Nat) : Dispatches s P 0 (pause microseconds) := by
  refine Dispatches.cancelled.bind fun cancelled => ?_
  cases cancelled with
  | false => exact .wait _
  | true => exact (Dispatches.fail _).bind fun _ => .wait _

section
variable {url : Url} (hget : ∀ token, P ⟨.get, url, some token, .none⟩)

include hget

/-- An attempt to read an address is a dispatch. -/
theorem ask_dispatches (attempt : Nat) : Dispatches s P 1 (s.ask url attempt) :=
  .announced _ (bearer_dispatches _ fun token => ⟨hget token, rfl⟩)

/-- Every attempt to read an address is a dispatch. -/
theorem getFrom_dispatches (left attempt : Nat) :
    Dispatches s P 1 (s.getFrom url left attempt) := by
  -- By induction on the attempts left, each of which is a dispatch of its own.
  induction left generalizing attempt with
  | zero =>
    refine (ask_dispatches hget attempt).bind fun heard => ?_
    cases heard with
    | ok r => exact .pure r
    | error f => exact (Dispatches.fail _).within _
  | succ left ih =>
    refine (ask_dispatches hget attempt).bind fun heard => ?_
    cases heard with
    | ok r =>
      dsimp only
      split
      · exact (Dispatches.log _ _ _).bind fun _ => (pause_dispatches _).bind fun _ => (ih _).any
      · exact .pure r
    | error f =>
      exact (Dispatches.log _ _ _).bind fun _ => (pause_dispatches _).bind fun _ => (ih _).any

end

/-- What is made of a status sends nothing. -/
theorem checkStatus_dispatches (method : Method) (url : Url) (r : Response) :
    Dispatches s P 0 (s.checkStatus method url r) := by
  rw [checkStatus]
  split
  · exact .pure r
  · split <;> split <;> exact .fail _

section
variable {collection : String} (d : Json.Decoder α)

/-- A page is read by at least one dispatch. -/
theorem getPage_dispatches {cursor : Cursor}
    (hget : ∀ token, P ⟨.get, s.pageUrl collection cursor, some token, .none⟩) :
    Dispatches s P 1 (s.getPage collection d cursor) :=
  (getFrom_dispatches hget _ _).bind fun r =>
    (checkStatus_dispatches _ _ r).bind fun _ => (Dispatches.ofExcept _ _).within _

variable (hget : ∀ cursor token, P ⟨.get, s.pageUrl collection cursor, some token, .none⟩)

include hget

/-- Unless there is nothing to read, so are the pages from a cursor on. -/
theorem getRest_dispatches (bound : Nat) (cursor : Cursor) (trail : Trail) (done : List α) :
    Dispatches s P (min 1 bound) (s.getRest collection d bound cursor trail done) := by
  induction bound generalizing cursor trail done with
  | zero => exact .fail _
  | succ bound ih =>
    refine (getPage_dispatches d (hget cursor)).bind fun page => ?_
    split
    · exact ((Dispatches.ofExcept _ _).within _).bind fun trail => (ih _ _ _).any
    · exact .pure _

/-- So is a whole collection. -/
theorem getAll_dispatches : Dispatches s P 1 (s.getAll collection d) := by
  refine Dispatches.world_bind fun c => ?_
  have hrest := getRest_dispatches d hget (pageBound c) .begin .start []
  have hpos : 1 ≤ pageBound c := Nat.le_add_left _ _
  rwa [Nat.min_eq_left hpos] at hrest

end

/-- A mutation is a dispatch. -/
theorem mutate_dispatches {method : Method} {url : Url} {body : Body}
    (hsend : ∀ token, P ⟨method, url, some token, body⟩) :
    Dispatches s P 1 (s.mutate method url body) := by
  have hrequest := bearer_dispatches (s := s) (.requestCancelled url) fun token =>
    ⟨hsend token, (rfl : (⟨method, url, some token, body⟩ : Request).bearer? = some token)⟩
  refine .announced _ (.assoc (hrequest.bind fun heard => ?_))
  cases heard with
  | error f => exact (Dispatches.fail _).within _
  | ok r => exact checkStatus_dispatches _ _ r

/-- So is what the engine asks for, whatever the mutation. -/
theorem client_mutate_dispatches (m : Mutation)
    (hsend : ∀ token, P (s.change (some token) m)) : Dispatches s P 1 (s.client.mutate m) := by
  cases m with
  | create e =>
    have hpost : ∀ {β : Type} (d : Json.Decoder β), Dispatches s P 1 (s.post d e) := fun d =>
      (mutate_dispatches hsend).bind fun _ => (Dispatches.ofExcept _ _).within _
    cases e <;> exact (hpost _).bind fun _ => .pure ()
  | delete k id => exact (mutate_dispatches hsend).bind fun _ => .pure ()

end Http.Service

/-! ## Rows of calls -/

namespace Http

/-- A call that the engine makes of a client. -/
inductive ServiceCall where
  | objectTypes
  | edgeTypes
  | objects (cursor : Cursor)
  | edges (cursor : Cursor)
  | change (m : Mutation)

namespace ServiceCall

/-- What the client does. -/
def perform (s : Service) : ServiceCall → Call Connection Unit
  | objectTypes => do let _ ← s.client.listObjectTypes
  | edgeTypes => do let _ ← s.client.listEdgeTypes
  | objects cursor => do let _ ← s.client.listObjects cursor
  | edges cursor => do let _ ← s.client.listEdges cursor
  | change m => s.client.mutate m

/-- The requests of the call, those for tokens left out. -/
def Asks (s : Service) : ServiceCall → Request → Prop
  | objectTypes, r => ∃ cursor, r = ⟨.get, s.pageUrl "objecttypes" cursor, r.bearer?, .none⟩
  | edgeTypes, r => ∃ cursor, r = ⟨.get, s.pageUrl "edgetypes" cursor, r.bearer?, .none⟩
  | objects cursor, r => r = ⟨.get, s.pageUrl "objects" cursor, r.bearer?, .none⟩
  | edges cursor, r => r = ⟨.get, s.pageUrl "edges" cursor, r.bearer?, .none⟩
  | change m, r => r = s.change r.bearer? m

/-- Every call that the engine makes is a row of dispatches for its own requests. -/
theorem perform_dispatches (s : Service) (call : ServiceCall) :
    Call.Dispatches s (call.Asks s) 1 (call.perform s) := by
  cases call with
  | objectTypes =>
    exact (Service.getAll_dispatches _ fun cursor _ => ⟨cursor, rfl⟩).bind fun _ => .pure ()
  | edgeTypes =>
    exact (Service.getAll_dispatches _ fun cursor _ => ⟨cursor, rfl⟩).bind fun _ => .pure ()
  | objects cursor => exact (Service.getPage_dispatches _ fun _ => rfl).bind fun _ => .pure ()
  | edges cursor => exact (Service.getPage_dispatches _ fun _ => rfl).bind fun _ => .pure ()
  | change m =>
    refine Service.client_mutate_dispatches m fun token => ?_
    cases m <;> rfl

end ServiceCall

/-- A call and the surroundings that it finds: the network and the clock, which others may have used
    meanwhile, and the token of its run. -/
structure Occasion where
  call : ServiceCall
  network : Network
  cancel : CancelToken
  clock : Clock

/-- A call that was made, the token that the client kept before it, and what came of it. -/
structure Served where
  occasion : Occasion
  kept? : Option Token
  out : Except Fault Unit
  after : Session Connection

/-- Makes a call with a token that is kept. -/
def Service.serve (s : Service) (kept? : Option Token) (o : Occasion) : Served :=
  let run := (o.call.perform s).run ⟨⟨o.network, kept?⟩, o.cancel, o.clock, [], []⟩
  ⟨o, kept?, run.1, run.2⟩

/-- Makes one call after another.  Between them the client keeps its token and nothing else. -/
def Service.serveAll (s : Service) : Option Token → List Occasion → List Served
  | _, [] => []
  | kept?, o :: os =>
    let served := s.serve kept? o
    served :: s.serveAll served.after.world.token? os

/-- The call is a row of dispatches for its requests, and what arrives are the requests of the row.
    One that has no token to send its request with is the last, and the call fails.  If there is a
    way to the hosts, every request of the row is really sent, unless it is withheld because the run
    is told to stop.  A request that is stopped is the last, and the call fails. -/
structure Served.MadeOf (s : Service) (v : Served) (ds : List Dispatch) : Prop where
  dispatched : Dispatched s (v.occasion.call.Asks s) ⟨v.occasion.network, v.kept?⟩
    v.occasion.clock ds v.after.world v.after.clock
  arrived : v.after.world.network.arrived = v.occasion.network.arrived ++
    ((ds.flatMap (·.exchanges s)).filter (·.2.arrives)).map Prod.fst
  kept : v.after.world.token? = latest v.kept? ds
  nonempty : ds ≠ []
  unsent_last : ∀ d ∈ ds.dropLast, d.request?.isSome = true
  unsent_fails : (∃ d ∈ ds, d.request? = none) → ∃ f, v.out = .error f
  sent : v.occasion.network.up = true → ∀ x ∈ ds.flatMap (·.exchanges s), x.2.arrives = true ∨
    x.2 = .withheld ∧ v.after.token.cancelled = true ∧ ∃ f, v.out = .error f
  stopped : ∀ x ∈ ds.flatMap (·.exchanges s), x.2.Stops →
    v.after.token.cancelled = true ∧ ∃ f, v.out = .error f
  stopped_last : ∀ x ∈ (ds.flatMap (·.exchanges s)).dropLast, ¬ x.2.Stops

/-- Every call of a client is made of dispatches. -/
theorem Service.exists_madeOf (s : Service) (kept? : Option Token) (o : Occasion) :
    ∃ ds, (s.serve kept? o).MadeOf s ds := by
  obtain ⟨ds, hleast, hds⟩ :=
    o.call.perform_dispatches s ⟨⟨o.network, kept?⟩, o.cancel, o.clock, [], []⟩
  -- A call that does not succeed has failed with some fault.
  have hfails : (s.serve kept? o).out.isOk = false → ∃ f, (s.serve kept? o).out = .error f := by
    cases (s.serve kept? o).out with
    | error f => exact fun _ => ⟨f, rfl⟩
    | ok x => exact nofun
  have hstopped : ∀ x ∈ ds.flatMap (·.exchanges s), x.2.Stops →
      (s.serve kept? o).after.token.cancelled = true ∧ ∃ f, (s.serve kept? o).out = .error f :=
    fun x hx hstops => (hds.stopped x hx hstops).imp_right hfails
  refine ⟨ds, hds.dispatched, hds.dispatched.arrived, hds.dispatched.keeps.2,
    List.ne_nil_of_length_pos hleast, hds.unsent_last, fun ⟨d, hd, hnone⟩ => hfails ?_,
    fun hup x hx => ?_, hstopped, hds.stopped_last⟩
  · rw [Bool.eq_false_iff]
    intro hok
    have hsome := hds.unsent_fails hok d hd
    rw [hnone] at hsome
    cases hsome
  -- Over a network that is up, a request that did not arrive was withheld.
  · have hreached := hds.dispatched.not_unreachable hup x hx
    cases hfate : x.2 with
    | arrived => exact .inl rfl
    | unreachable => exact absurd hfate hreached
    | withheld => exact .inr ⟨rfl, hstopped x hx (.inl hfate)⟩

/-- Every row of calls is a row of dispatches, and each begins with the token that the one before
    it left. -/
theorem Service.exists_dispatches (s : Service) (kept? : Option Token)
    (occasions : List Occasion) :
    ∃ rows : List (List Dispatch),
      List.Forall₂ (Served.MadeOf s) (s.serveAll kept? occasions) rows ∧
      Keeps kept? rows.flatten := by
  induction occasions generalizing kept? with
  | nil => exact ⟨[], .nil, trivial⟩
  | cons o os ih =>
    obtain ⟨ds, hds⟩ := s.exists_madeOf kept? o
    obtain ⟨rows, hrows, hkeeps⟩ := ih (s.serve kept? o).after.world.token?
    refine ⟨ds :: rows, .cons hds hrows, ?_⟩
    -- The token one call leaves is the one the next call finds.
    rw [hds.kept] at hkeeps
    exact hds.dispatched.keeps.1.append hkeeps

/-- Whatever calls are made of a client, whatever the hosts reply, whatever the clock shows and
    whenever a run is told to stop: every call is a row of dispatches, each of which requests at most
    one token and sends at most one request.  A token is requested exactly when none is kept or the
    most recent one is about to expire; a request carries the most recent token; and if a token is
    requested and none granted, no request is sent, the call fails and the token that was kept
    stays.  What is requested is really sent where there is a way to the hosts, as long as the run
    goes on (`Served.MadeOf.sent`). -/
theorem token_cache_discipline (s : Service) (kept? : Option Token) (occasions : List Occasion) :
    ∃ rows : List (List Dispatch),
      List.Forall₂ (Served.MadeOf s) (s.serveAll kept? occasions) rows ∧
      ∀ before d after, rows.flatten = before ++ d :: after →
        (d.renewal?.isSome = true ↔ ∀ t, latest kept? before = some t →
          ¬ d.clock.now + Token.margin * second < t.expiresAt) ∧
        (∀ r fate, d.request? = some (r, fate) →
          ∃ t, latest kept? (before ++ [d]) = some t ∧ r.bearer? = some t.accessToken) ∧
        (d.request? = none ↔ d.renewal?.isSome = true ∧ d.granted? = none) := by
  obtain ⟨rows, hrows, hkeeps⟩ := s.exists_dispatches kept? occasions
  refine ⟨rows, hrows, fun before d after hsplit => ?_⟩
  rw [hsplit] at hkeeps
  obtain ⟨hkept, hfollows⟩ := hkeeps.at
  rw [latest_append, latest_cons, ← hkept]
  exact ⟨hfollows.renewed_iff, hfollows.bearer, hfollows.unsent_iff⟩

end Http

end TenantSync
