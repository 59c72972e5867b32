import TenantSync.Proofs.Http.Traffic
import TenantSync.Proofs.Sync.Conduct
import TenantSync.Proofs.Sync.Trace
import TenantSync.Proofs.Wire.Documents

/-!
# Changes are sent at most once

A run between two services on different hosts, over any network, with any replies, retry policies
and options, and told to stop at any moment:

- the source receives nothing but requests for tokens and for pages of its collections,
- a run that cannot read both tenants asks for no change,
- else the changes that arrive at the destination are a subsequence of the plan, each position sent
  at most once, and a request of the plan is missing only for want of a token, because the run was
  cancelled, or because the run had stopped before it (`SentOnce`).

`Ledger` compares, over a stretch of a run, what its trace gained with what arrived meanwhile.  A
step of the engine closes it (`SyncM.Accounted`), so does the mutation of one entity together with
what is told about it (`Ledger.applied`, `Ledger.failed`), and ledgers of consecutive stretches are
put together (`Ledger.trans`).  `changes_sent_at_most_once` reads the ledger of a whole run.
-/

namespace TenantSync

open Http
open Http.Network (asksForToken unsigned)

/-- A token stays cancelled through a call. -/
theorem Run.resume_cancelled {σ : Type} {r : Run σ} {s : Session σ}
    (h : r.token.cancelled = true ∨ s.token.cancelled = true) :
    (r.resume s).token.cancelled = true :=
  Bool.or_eq_true_iff.mpr h

/-! ## What became of each mutation -/

/-- The faults that a trace reports for single entities. -/
def traceFaults (trace : List Item) : List Fault :=
  trace.filterMap fun
    | .event (.entityFailed _ _ _ f) => some f
    | _ => none

/-- The failures of two stretches of a trace stand one after the other. -/
theorem traceFaults_append (xs ys : List Item) :
    traceFaults (xs ++ ys) = traceFaults xs ++ traceFaults ys :=
  List.filterMap_append

/-- `Delivers s cancelled calls faults requests`: for these calls, of which the failed ones were
    reported with these faults, these requests for changes arrived at the service.  A call sends
    its request once, with a token, whether it succeeds or fails; a call that sends none fails with
    a fault that says why. -/
inductive Delivers (s : Service) (cancelled : Prop) :
    List (Mutation × Bool) → List Fault → List Request → Prop where
  | nil : Delivers s cancelled [] [] []
  | applied {m : Mutation} {calls : List (Mutation × Bool)} {faults : List Fault}
      {requests : List Request} (token : String)
      (hrest : Delivers s cancelled calls faults requests) :
      Delivers s cancelled ((m, true) :: calls) faults (s.change (some token) m :: requests)
  | failed {m : Mutation} {f : Fault} {calls : List (Mutation × Bool)} {faults : List Fault}
      {requests : List Request} (token : String)
      (hrest : Delivers s cancelled calls faults requests) :
      Delivers s cancelled ((m, false) :: calls) (f :: faults)
        (s.change (some token) m :: requests)
  | withheld {m : Mutation} {f : Fault} {calls : List (Mutation × Bool)} {faults : List Fault}
      {requests : List Request} (hwhy : HoldsBack s (s.change none m).url cancelled f)
      (hrest : Delivers s cancelled calls faults requests) :
      Delivers s cancelled ((m, false) :: calls) (f :: faults) requests

namespace Delivers

variable {s : Service} {cancelled cancelled' : Prop} {calls calls' : List (Mutation × Bool)}
  {faults faults' : List Fault} {requests requests' : List Request}

/-- A request that was held back by a cancellation may be so under a weaker condition. -/
theorem mono (h : Delivers s cancelled calls faults requests) (hc : cancelled → cancelled') :
    Delivers s cancelled' calls faults requests := by
  induction h with
  | nil => exact .nil
  | applied token _ ih => exact .applied token ih
  | failed token _ ih => exact .failed token ih
  | withheld hwhy _ ih => exact .withheld (hwhy.imp_right (And.imp_right hc)) ih

/-- Rows of calls deliver their requests one after the other. -/
theorem append (h : Delivers s cancelled calls faults requests)
    (h' : Delivers s cancelled calls' faults' requests') :
    Delivers s cancelled (calls ++ calls') (faults ++ faults') (requests ++ requests') := by
  induction h with
  | nil => exact h'
  | applied token _ ih => exact .applied token ih
  | failed token _ ih => exact .failed token ih
  | withheld hwhy _ ih => exact .withheld hwhy ih

/-- Where nothing was called for, nothing is delivered. -/
theorem eq_nil (h : Delivers s cancelled [] faults requests) : requests = [] := by
  cases h
  rfl

/-- But for its token, the request for a mutation is the one that is expected. -/
theorem unsigned_change (s : Service) (token? : Option String) (m : Mutation) :
    unsigned (s.change token? m) = s.change none m := by
  cases m <;> rfl

/-- No call sends more than one request, and the requests keep the order of the calls. -/
theorem sublist (h : Delivers s cancelled calls faults requests) :
    (requests.map unsigned).Sublist ((calls.map Prod.fst).map (s.change none)) := by
  induction h with
  | nil => exact .slnil
  | applied _ _ ih | failed _ _ ih =>
    rw [List.map_cons, List.map_cons, List.map_cons, unsigned_change]
    exact ih.cons_cons _
  | withheld _ _ ih => exact ih.cons _

end Delivers

/-! ## Requests for changes -/

namespace Http.Service

variable {s s' s'' : Service} {r : Request}

/-- Whether a request arrives at the host of a service to change something there: it reads nothing
    and asks for no token. -/
def isChange (s : Service) (r : Request) : Bool :=
  decide (r.url.authority = s.base.authority) && decide (r.method ≠ .get) && !asksForToken r

/-- The request for a mutation is recognised as such, with any token. -/
theorem isChange_change (token? : Option String) (m : Mutation) :
    s.isChange (s.change token? m) = true := by
  have hmethod : (s.change token? m).method ≠ .get := by cases m <;> exact nofun
  have hurl : (s.change token? m).url.authority = s.base.authority := by cases m <;> rfl
  simp [isChange, hmethod, hurl, asksForToken_change]

/-- A request for a page or for a token is no mutation. -/
theorem isChange_of_consults (h : Consults s' r) : s.isChange r = false := by
  cases h with
  | token => simp [isChange, asksForToken_tokenRequest]
  | page => simp [isChange]

/-- What a client reads and where it gets its tokens is one host. -/
theorem authority_of_consults (h : Consults s r) : r.url.authority = s.base.authority := by
  cases h <;> rfl

/-- Requests of which every one reads hold no mutation. -/
theorem filter_isChange_eq_nil {rs : List Request}
    (h : ∀ r ∈ rs, Consults s' r ∨ Consults s'' r) : rs.filter s.isChange = [] := by
  rw [List.filter_eq_nil_iff]
  intro r hr
  have hr : s.isChange r = false := (h r hr).elim isChange_of_consults isChange_of_consults
  rw [hr]
  exact Bool.false_ne_true

end Http.Service

/-! ## Ledgers -/

variable {src dst : Service} {r r' r'' : Run Links}

/-- What a run between two services adds to its trace, and what arrives meanwhile: requests that
    consult one of them and requests for changes at the destination, and the latter are delivered
    as the calls and the faults in the trace say. -/
structure Ledger (src dst : Service) (r r' : Run Links) : Prop where
  up : r'.world.network.up = r.world.network.up
  cancelled : r.token.cancelled = true → r'.token.cancelled = true
  entries : ∃ items sent, r'.trace = r.trace ++ items ∧
    r'.world.network.arrived = r.world.network.arrived ++ sent ∧
    (∀ q ∈ sent, Consults src q ∨ Consults dst q ∨ dst.isChange q = true) ∧
    Delivers dst (r'.token.cancelled = true) (traceMutations items) (traceFaults items)
      (sent.filter dst.isChange)

namespace Ledger

/-- Nothing is sent, and what the trace gains is neither a call nor the report of a fault. -/
theorem idle (items : List Item) (hworld : r'.world = r.world)
    (htrace : r'.trace = r.trace ++ items) (hcalls : traceMutations items = [])
    (hfaults : traceFaults items = [])
    (hcancelled : r.token.cancelled = true → r'.token.cancelled = true) : Ledger src dst r r' where
  up := by rw [hworld]
  cancelled := hcancelled
  entries := by
    refine ⟨items, [], htrace, ?_, List.forall_mem_nil _, ?_⟩
    · rw [hworld, List.append_nil]
    · rw [hcalls, hfaults]
      exact .nil

/-- Where nothing happens, the books agree. -/
theorem refl (r : Run Links) : Ledger src dst r r :=
  idle [] rfl (List.append_nil _).symm rfl rfl id

/-- Stretches whose books agree can be joined. -/
theorem trans (h : Ledger src dst r r') (h' : Ledger src dst r' r'') : Ledger src dst r r'' where
  up := h'.up.trans h.up
  cancelled := fun hc => h'.cancelled (h.cancelled hc)
  entries := by
    obtain ⟨items, sent, htrace, harrived, hsent, hdelivers⟩ := h.entries
    obtain ⟨items', sent', htrace', harrived', hsent', hdelivers'⟩ := h'.entries
    refine ⟨items ++ items', sent ++ sent', ?_, ?_, List.forall_mem_append.mpr ⟨hsent, hsent'⟩, ?_⟩
    · rw [htrace', htrace, List.append_assoc]
    · rw [harrived', harrived, List.append_assoc]
    · rw [traceMutations_append, traceFaults_append, List.filter_append]
      -- A run that was found cancelled stays so.
      exact (hdelivers.mono h'.cancelled).append hdelivers'

/-- A look at the token is in no books. -/
theorem look (r : Run Links) : Ledger src dst r r.look :=
  idle [] rfl (List.append_nil _).symm rfl rfl CancelToken.look_cancelled

/-- Neither is a reading of the clock. -/
theorem tick (r : Run Links) : Ledger src dst r r.tick :=
  idle [] rfl (List.append_nil _).symm rfl rfl id

/-- Neither is a line of the log. -/
theorem write (r : Run Links) (l : LogLine) : Ledger src dst r (r.write l) :=
  idle [.line l] rfl rfl rfl rfl fun hc => CancelToken.afterLine_cancelled hc l

/-- Neither is an event that tells of no failure. -/
theorem tell (r : Run Links) {e : Event} (he : traceFaults [.event e] = []) :
    Ledger src dst r (r.tell e) :=
  idle [.event e] rfl rfl rfl he fun hc => CancelToken.afterEvent_cancelled hc _

/-- Lines of the log are no mutations. -/
theorem traceMutations_map_line (log : List LogLine) : traceMutations (log.map .line) = [] := by
  simp [traceMutations, List.filterMap_map]

/-- Lines of the log tell of no failure. -/
theorem traceFaults_map_line (log : List LogLine) : traceFaults (log.map .line) = [] := by
  simp [traceFaults, List.filterMap_map]

/-- A call that only consults one of the services. -/
theorem call {α : Type} {up : Bool} {Q : α → Prop} {E : Fault → Prop} {c : Call Links α}
    (hc : c.Sends Links.network up (fun q => Consults src q ∨ Consults dst q) Q E) {r : Run Links}
    (hup : r.world.network.up = up) : Ledger src dst r (r.resume (c.run r.session).2) := by
  -- A call that changes nothing leaves only lines in the trace and no change among the requests.
  obtain ⟨sent, harrived, hsent, hup', -⟩ := hc r.session hup
  exact
    { up := hup'.trans hup.symm
      cancelled := fun hcan => Run.resume_cancelled (.inl hcan)
      entries := by
        refine ⟨_, sent, rfl, harrived, fun q hq => (hsent q hq).imp_right .inl, ?_⟩
        rw [Service.filter_isChange_eq_nil hsent, traceMutations_map_line, traceFaults_map_line]
        exact .nil }

/-- What arrives while the destination is called for a mutation: its own request, if any is sent,
    is the only one for a change. -/
theorem mutation_arrives (src dst : Service) (m : Mutation) {r : Run Links}
    (hup : r.world.network.up = true) :
    let out := ((dst.client.zoom Links.destination).mutate m).run r.session
    out.2.world.network.up = r.world.network.up ∧
    ∃ sent, out.2.world.network.arrived = r.world.network.arrived ++ sent ∧
      (∀ q ∈ sent, Consults src q ∨ Consults dst q ∨ dst.isChange q = true) ∧
      ((∃ token, sent.filter dst.isChange = [dst.change (some token) m]) ∨
        sent.filter dst.isChange = [] ∧ ∃ f, out.1 = .error f ∧
          HoldsBack dst (dst.change none m).url (out.2.token.cancelled = true) f) := by
  intro out
  have hout : out = ((dst.client.mutate m).zoom Links.destination).run r.session :=
    Client.run_mutate_zoom ..
  obtain ⟨tokens, sent, harrived, htokens, hup', hsent⟩ :=
    Service.client_mutate_transmits dst m
      ⟨Links.destination.get r.world, r.token, r.clock, [], []⟩ hup
  have hconsults : ∀ q ∈ tokens, Consults src q ∨ Consults dst q := fun q hq =>
    .inr (htokens q hq ▸ .token)
  -- Requests for tokens are no changes.
  have hfilter : (tokens ++ sent).filter dst.isChange = sent.filter dst.isChange := by
    rw [List.filter_append, Service.filter_isChange_eq_nil hconsults, List.nil_append]
  rw [hout]
  refine ⟨hup'.trans hup.symm, tokens ++ sent, harrived, ?_, ?_⟩
  · refine List.forall_mem_append.mpr ⟨fun q hq => (hconsults q hq).imp_right .inl, ?_⟩
    obtain ⟨token, rfl⟩ | ⟨rfl, -⟩ := hsent
    · exact List.forall_mem_singleton.mpr (.inr (.inr (Service.isChange_change _ _)))
    · exact List.forall_mem_nil _
  · rw [hfilter]
    obtain ⟨token, rfl⟩ | ⟨rfl, hwhy⟩ := hsent
    · exact .inl ⟨token, List.filter_cons_of_pos (Service.isChange_change _ _)⟩
    · exact .inr ⟨rfl, hwhy⟩

/-- A mutation that succeeds was sent. -/
theorem applied {m : Mutation} {r : Run Links} {s : Session Links} {x : Unit}
    (hup : r.world.network.up = true)
    (hrun : ((dst.client.zoom Links.destination).mutate m).run r.session = (.ok x, s)) :
    Ledger src dst r ((r.resume s).note m true) := by
  obtain ⟨hup', sent, harrived, hsent, hwhich⟩ := mutation_arrives src dst m hup
  rw [hrun] at hup' harrived hwhich
  exact
    { up := hup'
      cancelled := fun hcan => Run.resume_cancelled (.inl hcan)
      entries := by
        refine ⟨s.log.map .line ++ [.mutation m true], sent, ?_, harrived, hsent, ?_⟩
        · simp only [Run.note, Run.resume, List.append_assoc]
        rw [traceMutations_append, traceFaults_append, traceMutations_map_line,
          traceFaults_map_line]
        -- What is not sent fails, and this did not.
        obtain ⟨token, hone⟩ | ⟨-, _, hfault, -⟩ := hwhich
        · rw [hone]
          exact .applied token .nil
        · cases hfault }

/-- A mutation that fails may have been sent, and else its fault says why it was not.  The fault is
    told right after it. -/
theorem failed {m : Mutation} {r : Run Links} {s : Session Links} {f : Fault}
    (hup : r.world.network.up = true)
    (hrun : ((dst.client.zoom Links.destination).mutate m).run r.session = (.error f, s))
    (phase : Phase) (k : Kind) (label : String) :
    Ledger src dst r (((r.resume s).note m false).tell (.entityFailed phase k label f)) := by
  obtain ⟨hup', sent, harrived, hsent, hwhich⟩ := mutation_arrives src dst m hup
  rw [hrun] at hup' harrived hwhich
  exact
    { up := hup'
      cancelled := fun hcan =>
        CancelToken.afterEvent_cancelled (Run.resume_cancelled (.inl hcan)) _
      entries := by
        refine ⟨s.log.map .line ++ [.mutation m false, .event (.entityFailed phase k label f)],
          sent, ?_, harrived, hsent, ?_⟩
        · simp only [Run.tell, Run.note, Run.resume, List.append_assoc, List.cons_append,
            List.nil_append]
        rw [traceMutations_append, traceFaults_append, traceMutations_map_line,
          traceFaults_map_line]
        -- Either the request arrived, with its token, or it was withheld and the fault says why.
        obtain ⟨token, hone⟩ | ⟨hnone, _, hfault, hwhy⟩ := hwhich
        · rw [hone]
          exact .failed token .nil
        · rw [hnone]
          cases hfault
          refine .withheld (hwhy.imp_right (And.imp_right fun hcan => ?_)) .nil
          exact CancelToken.afterEvent_cancelled (Run.resume_cancelled (.inr hcan)) _ }

end Ledger

/-! ## Steps of a run -/

/-- The step keeps a ledger, if there is a way to the hosts or not, and its result is in `Q`. -/
def SyncM.Accounted {α : Type} (src dst : Service) (up : Bool) (Q : α → Prop) (m : SyncM Links α) :
    Prop :=
  ∀ r, r.world.network.up = up →
    Ledger src dst r (m.run r).2 ∧ ∀ x, (m.run r).1 = .ok x → Q x

namespace SyncM.Accounted

variable {α β : Type} {up : Bool} {Q : α → Prop} {R : β → Prop} {m : SyncM Links α}

/-- Returning a value sends nothing. -/
theorem pure {x : α} (h : Q x) : Accounted src dst up Q (Pure.pure x) := by
  refine fun r _ => ⟨.refl r, ?_⟩
  rintro _ ⟨⟩
  exact h

/-- A failure sends nothing. -/
theorem throw (f : SyncFailure) : Accounted src dst up Q (MonadExcept.throw f : SyncM Links α) :=
  fun r _ => ⟨.refl r, nofun⟩

/-- A line of the log sends nothing. -/
theorem log (level : Level) (component : Component) (text : String) :
    Accounted src dst up (fun _ => True) (SyncM.log level component text) :=
  fun r _ => ⟨.write r _, fun _ _ => trivial⟩

/-- Reading the clock sends nothing. -/
theorem now : Accounted src dst up (fun _ => True) SyncM.now :=
  fun r _ => ⟨.tick r, fun _ _ => trivial⟩

/-- An event that reports no fault. -/
theorem emit {e : Event} (he : traceFaults [.event e] = []) :
    Accounted src dst up (fun _ => True) (SyncM.emit e) :=
  fun r _ => ⟨.tell r he, fun _ _ => trivial⟩

/-- A step that goes on where an account ends. -/
theorem go_on (hm : Accounted src dst up Q m) (h : Ledger src dst r r')
    (hup : r.world.network.up = up) :
    Ledger src dst r (m.run r').2 ∧ ∀ x, (m.run r').1 = .ok x → Q x := by
  obtain ⟨hledger, hout⟩ := hm r' (h.up.trans hup)
  exact ⟨h.trans hledger, hout⟩

/-- Two steps that are accounted for are so one after the other. -/
theorem bind {f : α → SyncM Links β} (hm : Accounted src dst up Q m)
    (hf : ∀ x, Q x → Accounted src dst up R (f x)) : Accounted src dst up R (m >>= f) := by
  intro r hup
  obtain ⟨hledger, hout⟩ := hm r hup
  rw [run_bind]
  rcases hrun : m.run r with ⟨e | x, r'⟩ <;> rw [hrun] at hledger hout
  · exact ⟨hledger, nofun⟩
  · exact (hf x (hout x rfl)).go_on hledger hup

/-- The activity around a step is only named when it fails. -/
theorem within (a : Activity) (hm : Accounted src dst up Q m) :
    Accounted src dst up Q (m.within a) := by
  intro r hup
  obtain ⟨hledger, hout⟩ := hm r hup
  rw [run_within]
  refine ⟨hledger, fun x hx => ?_⟩
  rcases hrun : (m.run r).1 with f | y <;> rw [hrun] at hx hout
  · exact nomatch hx
  · cases hx
    exact hout x rfl

/-- A call that only consults the hosts sends no mutation. -/
theorem call {c : Call Links α} {E : Fault → Prop}
    (hc : c.Sends Links.network up (fun q => Consults src q ∨ Consults dst q) Q E) :
    Accounted src dst up Q (SyncM.call c) := by
  intro r hup
  rw [run_call]
  refine ⟨.call hc hup, fun x hx => ?_⟩
  obtain ⟨-, -, -, -, hout⟩ := hc r.session hup
  -- Only what a success returns is at stake.
  rcases hrun : (c.run r.session).1 with f | y <;> rw [hrun] at hx hout
  · exact nomatch hx
  · cases hx
    exact hout

end SyncM.Accounted

/-! ## The stages of a run -/

/-- Reading a tenant consults it, and succeeds only if there is a way to it. -/
theorem fetchSnapshot_accounted {s : Service} {l : Lens Links Connection} {up : Bool}
    (hget : ∀ w, (l.get w).network = w.network) (hset : ∀ c w, (l.set c w).network = c.network)
    (hs : ∀ q, Consults s q → Consults src q ∨ Consults dst q) :
    SyncM.Accounted src dst up (fun _ => up = true) (fetchSnapshot (s.client.zoom l)) := by
  -- What a listing sends on its connection, it sends over both links.
  have hlist : ∀ {α : Type} {c : Call Connection α}, c.Sends Connection.network up (Consults s)
      (fun _ => up = true) (fun _ => True) →
      (c.zoom l).Sends Links.network up (fun q => Consults src q ∨ Consults dst q)
        (fun _ => up = true) (fun _ => True) :=
    fun hc => (hc.zoom hget hset).mono hs (fun _ h => h) fun _ h => h
  have hall : ∀ (k : Kind) {α : Type} (d : Json.Decoder α), SyncM.Accounted src dst up
      (fun _ => up = true) (SyncM.call ((s.getAll (Service.collection k) d).zoom l)) :=
    fun k _ d => .call (hlist (Service.getAll_sends k d))
  have hpages : ∀ (k : Kind) {α : Type} (d : Json.Decoder α) (bound : Links → Nat),
      SyncM.Accounted src dst up (fun _ => up = true) (SyncM.call
        (collectPages bound k fun cursor => (s.getPage (Service.collection k) d cursor).zoom l)) :=
    fun k _ d bound => .call (.collectPages (fun cursor => hlist (Service.getPage_sends k cursor d))
      bound)
  -- Each kind is listed in an activity of its own and then told.
  rw [fetchSnapshot]
  refine ((hall .objectType _).within _).bind fun _ _ => ?_
  refine (SyncM.Accounted.emit rfl).bind fun _ _ => ?_
  refine ((hpages .object _ _).within _).bind fun _ _ => ?_
  refine (SyncM.Accounted.emit rfl).bind fun _ _ => ?_
  refine ((hall .edgeType _).within _).bind fun _ _ => ?_
  refine (SyncM.Accounted.emit rfl).bind fun _ _ => ?_
  refine ((hpages .edge _ _).within _).bind fun _ hup => ?_
  exact (SyncM.Accounted.emit rfl).bind fun _ _ => .pure hup

/-- Reading both tenants sends no mutation, and succeeds only if there is a way to the hosts. -/
theorem snapshots_accounted (src dst : Service) (o : Options) (up : Bool) :
    SyncM.Accounted src dst up (fun _ => up = true)
      (snapshots (src.client.zoom Links.source) (dst.client.zoom Links.destination) o) := by
  refine (SyncM.Accounted.log _ _ _).bind fun _ _ => ?_
  refine (SyncM.Accounted.emit rfl).bind fun _ _ => ?_
  refine ((fetchSnapshot_accounted (fun _ => rfl) (fun _ _ => rfl) fun _ => .inl).within _).bind
    fun _ _ => ?_
  refine (SyncM.Accounted.emit rfl).bind fun _ _ => ?_
  exact ((fetchSnapshot_accounted (fun _ => rfl) (fun _ _ => rfl) fun _ => .inr).within _).bind
    fun _ hup => .pure hup

section
variable (src dst : Service) (mode : FailureMode) (op : Operation)

/-- Each entity is accounted for before the next. -/
theorem applyEntities_accounted (k : Kind) (total : Nat) (es : List Entity) (applied : Nat)
    (pass : Pass) :
    SyncM.Accounted src dst true (fun _ => True)
      (applyEntities (dst.client.zoom Links.destination) mode op k total es applied pass) := by
  intro r hup
  refine ⟨?_, fun _ _ => trivial⟩
  obtain ⟨out, r', hrun, h⟩ := applyEntities_applies (dst.client.zoom Links.destination) mode op k
    total es applied pass r
  simp only [hrun]
  clear hrun
  -- What is noted and told right after a call belongs to the same ledger.
  induction h with
  | finished applied pass r => exact .refl r
  | @interrupted e es applied pass r => exact .look r
  | @applied e es applied pass r r' s out _ hcall _ ih =>
    have hup' : r.look.world.network.up = true := hup
    have hledger : Ledger src dst r (r.succeeded op k e s) :=
      (((Ledger.look r).trans (.applied hup' hcall)).trans (.write _ _)).trans (.tell _ rfl)
    exact hledger.trans (ih (hledger.up.trans hup))
  | @aborted e es applied pass r s fault _ _ hcall =>
    have hup' : r.look.world.network.up = true := hup
    exact ((Ledger.look r).trans (.failed hup' hcall (.ofOperation op) k e.label)).trans
      (.tell _ rfl)
  | @failed e es applied pass r r' s fault out _ _ hcall _ ih =>
    have hup' : r.look.world.network.up = true := hup
    have hledger : Ledger src dst r (r.failed op k e s fault) :=
      (Ledger.look r).trans (.failed hup' hcall (.ofOperation op) k e.label)
    exact hledger.trans (ih (hledger.up.trans hup))

/-- Each kind is accounted for. -/
theorem applyKind_accounted (changes : Graph) (k : Kind) (pass : Pass) :
    SyncM.Accounted src dst true (fun _ => True)
      (applyKind (dst.client.zoom Links.destination) mode op changes k pass) := by
  rw [applyKind]
  split
  · exact .pure trivial
  · refine (SyncM.Accounted.emit rfl).bind fun _ _ => ?_
    refine (applyEntities_accounted src dst mode op k _ _ _ _).bind fun _ _ => ?_
    exact (SyncM.Accounted.emit rfl).bind fun _ _ => .pure trivial

/-- A row of kinds is accounted for when each is. -/
theorem applyKinds_accounted (changes : Graph) (ks : List Kind) (pass : Pass) :
    SyncM.Accounted src dst true (fun _ => True)
      (applyKinds (dst.client.zoom Links.destination) mode op changes ks pass) := by
  induction ks generalizing pass with
  | nil => exact .pure trivial
  | cons k ks ih => exact (applyKind_accounted src dst mode op changes k pass).bind fun _ _ => ih _

/-- So is a set of changes, kind by kind. -/
theorem applyChanges_accounted (changes : Graph) :
    SyncM.Accounted src dst true (fun _ => True)
      (applyChanges (dst.client.zoom Links.destination) mode op changes) := by
  refine (applyKinds_accounted src dst mode op changes _ _).bind fun pass _ => ?_
  split
  · exact .pure trivial
  · exact .throw _

/-- A phase is accounted for, whether it is carried out or skipped. -/
theorem changePhase_accounted (o : Options) (idle : String) (changes : Graph) :
    SyncM.Accounted src dst true (fun _ => True)
      (changePhase (dst.client.zoom Links.destination) o op idle changes) := by
  rw [changePhase]
  refine (SyncM.Accounted.emit rfl).bind fun _ _ => (SyncM.Accounted.emit rfl).bind fun _ _ => ?_
  -- A dry run and a phase without changes only tell that they are skipped.
  split
  · exact (SyncM.Accounted.emit rfl).bind fun _ _ => .pure trivial
  split
  · exact (SyncM.Accounted.emit rfl).bind fun _ _ => .pure trivial
  · refine ((applyChanges_accounted src dst o.mode op changes).within _).bind fun _ _ => ?_
    exact .pure trivial

/-- The deletion phase is accounted for, also where it is left out. -/
theorem deletionPhase_accounted (o : Options) (s d : Graph) :
    SyncM.Accounted src dst true (fun _ => True)
      (deletionPhase (dst.client.zoom Links.destination) o s d) := by
  rw [deletionPhase]
  split
  · exact .pure trivial
  · exact (changePhase_accounted src dst .delete o _ _).bind fun _ _ => .pure trivial

/-- Both phases of a run are accounted for, one after the other. -/
theorem carryOut_accounted (o : Options) (started : Int) (s d : Graph) :
    SyncM.Accounted src dst true (fun _ => True)
      (carryOut (src.client.zoom Links.source) (dst.client.zoom Links.destination) o started s
        d) := by
  rw [carryOut]
  refine (deletionPhase_accounted src dst o s d).bind fun _ _ => ?_
  refine (changePhase_accounted src dst .create o _ _).bind fun _ _ => ?_
  refine SyncM.Accounted.now.bind fun _ _ => (SyncM.Accounted.emit rfl).bind fun _ _ => ?_
  exact (SyncM.Accounted.log _ _ _).bind fun _ _ => .pure trivial

end

/-! ## Whole runs -/

/-- The changes that a run planned, deletions before creations. -/
def Options.plannedCalls (o : Options) (s d : Graph) : List Mutation :=
  o.deletionCalls s d ++ creationCalls s d

/-- How the requests for changes that arrive at the destination relate to the plan of a run that has
    read the graphs `s` and `d`, to its calls and the faults it reports for single entities, and to
    what it returns. -/
structure SentOnce (dst : Service) (o : Options) (s d : Graph) (cancelled : Prop)
    (calls : List (Mutation × Bool)) (faults : List Fault) (requests : List Request)
    (out : Except SyncFailure Report) : Prop where
  /-- The requests are those of some positions of the plan, in its order, one for each. -/
  subsequence :
    (requests.map unsigned).Sublist ((o.plannedCalls s d).map (dst.change none))
  /-- A call sends its request once, unless it fails for want of a token or in a cancelled run. -/
  delivered : Delivers dst cancelled calls faults requests
  /-- The calls are a beginning of the plan and obey the options. -/
  follows : FollowsPlan o s d cancelled calls out
  /-- What was not called for comes behind the point where a failing run stopped: it was cancelled,
      or a call failed. -/
  stopped : o.dryRun = false → calls.map Prod.fst ≠ o.plannedCalls s d →
    out.isOk = false ∧ (cancelled ∨ ∃ m, (m, false) ∈ calls)

/-- What arrives in a run between two services that reads `read` from them and ends as `out`: the
    requests `sent`, after those that arrived before. -/
structure AtMostOnce (src dst : Service) (o : Options) (before : List Request)
    (read : Except SyncFailure (Graph × Graph)) (out : Except SyncFailure Report × Run Links)
    (sent : List Request) : Prop where
  arrived : out.2.world.network.arrived = before ++ sent
  /-- At the source nothing arrives but requests for tokens and for pages of its collections. -/
  source_consulted : ∀ r ∈ sent, r.url.authority = src.base.authority → Consults src r
  /-- A run that cannot read both tenants fails and asks for no change. -/
  unread : ∀ f, read = .error f → out.1 = .error f ∧ sent.filter dst.isChange = []
  /-- The changes that arrive at the destination are those of the plan, each at most once. -/
  sent_once : ∀ s d, read = .ok (s, d) →
    SentOnce dst o s d (out.2.token.cancelled = true) out.2.mutations (traceFaults out.2.trace)
      (sent.filter dst.isChange) out.1

/-- Where a single call was made and failed, and a single change arrived, that is its request. -/
theorem AtMostOnce.single {o : Options} {read : Except SyncFailure (Graph × Graph)}
    {out : Except SyncFailure Report × Run Links} {sent : List Request} {m : Mutation}
    (h : AtMostOnce src dst o [] read out sent) (hcalls : out.2.mutations = [(m, false)])
    (hone : (out.2.world.network.arrived.filter dst.isChange).length = 1) :
    ∃ token, out.2.world.network.arrived.filter dst.isChange = [dst.change (some token) m] := by
  rw [h.arrived, List.nil_append] at hone ⊢
  -- A run that could not read its tenants sent no change.
  rcases read with f | ⟨s, d⟩
  · rw [(h.unread f rfl).2] at hone
    exact nomatch hone
  have hdelivered := (h.sent_once s d rfl).delivered
  rw [hcalls] at hdelivered
  generalize traceFaults out.2.trace = faults at hdelivered
  generalize sent.filter dst.isChange = requests at hdelivered hone ⊢
  -- One mutation was noted, so its request arrived once or was withheld, and one has arrived.
  cases hdelivered with
  | failed token hrest =>
    rw [hrest.eq_nil]
    exact ⟨token, rfl⟩
  | withheld _ hrest =>
    rw [hrest.eq_nil] at hone
    exact nomatch hone

/-- What arrives at the source is no change at the destination and consults no other host. -/
theorem consults_of_authority (hhosts : src.base.authority ≠ dst.base.authority) {q : Request}
    (hq : Consults src q ∨ Consults dst q ∨ dst.isChange q = true)
    (hurl : q.url.authority = src.base.authority) : Consults src q := by
  obtain hq | hq | hq := hq
  · exact hq
  · exact absurd (hurl.symm.trans (Service.authority_of_consults hq)) hhosts
  · simp only [Service.isChange, Bool.and_eq_true, decide_eq_true_eq] at hq
    exact absurd (hurl.symm.trans hq.1.1) hhosts

/-- A run that carries out what it read sends each change of the plan at most once, if it sent none
    before. -/
theorem carryOut_sent_once (src dst : Service) (o : Options) (started : Int) (s d : Graph)
    {start r : Run Links} (hstart : Ledger src dst start r) (hup : start.world.network.up = true)
    (htrace : start.trace = []) (hmutations : r.mutations = []) :
    let out := (carryOut (src.client.zoom Links.source) (dst.client.zoom Links.destination) o
      started s d).run r
    ∃ sent, out.2.world.network.arrived = start.world.network.arrived ++ sent ∧
      (∀ q ∈ sent, Consults src q ∨ Consults dst q ∨ dst.isChange q = true) ∧
      SentOnce dst o s d (out.2.token.cancelled = true) out.2.mutations (traceFaults out.2.trace)
        (sent.filter dst.isChange) out.1 := by
  intro out
  have hledger : Ledger src dst start out.2 :=
    ((carryOut_accounted src dst o started s d).go_on hstart hup).1
  obtain ⟨calls, hcalls, hproceeds⟩ := carryOut_proceeds (src.client.zoom Links.source)
    (dst.client.zoom Links.destination) o started s d r
  obtain ⟨items, sent, hitems, harrived, hsent, hdelivers⟩ := hledger.entries
  rw [hmutations] at hcalls
  -- Before the start there was neither a call nor a fault.
  obtain rfl : out.2.mutations = calls := hcalls
  obtain rfl : out.2.trace = items := by rw [hitems, htrace, List.nil_append]
  refine ⟨sent, harrived, hsent, ?_⟩
  exact
    { subsequence := hdelivers.sublist.trans (hproceeds.followsPlan.in_order.sublist.map _)
      delivered := hdelivers
      follows := hproceeds.followsPlan
      stopped := fun hwet hshort => hproceeds.stops (by
        rwa [o.map_mutation_deletionPlan hwet, o.map_mutation_plan hwet]) }

/-- In a run between services on different hosts, whatever the hosts reply, whatever the options and
    retry policies are and whenever it is told to stop, the source receives only requests for tokens
    and pages.  A run that cannot read both tenants sends no change; else the changes that arrive at
    the destination are sent at most once each, in the order of the plan, and none is missing but
    for want of a token, because the run was cancelled or because it had stopped. -/
theorem changes_sent_at_most_once (src dst : Service)
    (hhosts : src.base.authority ≠ dst.base.authority) (o : Options) (links : Links)
    (token : CancelToken) (clock : Clock) :
    let source := src.client.zoom Links.source
    let destination := dst.client.zoom Links.destination
    ∃ sent, AtMostOnce src dst o links.network.arrived
      ((snapshots source destination o).run (Run.start links token clock).tick).1
      ((synchronize source destination o).run (Run.start links token clock)) sent := by
  intro source destination
  obtain ⟨hread, hup⟩ :=
    snapshots_accounted src dst o links.network.up (Run.start links token clock).tick rfl
  have hmutations : _ = [] :=
    snapshots_mutations source destination o (Run.start links token clock).tick
  have hstart : Ledger src dst (Run.start links token clock) _ := (Ledger.tick _).trans hread
  rw [run_synchronize]
  rcases hout : (snapshots source destination o).run (Run.start links token clock).tick
    with ⟨f | ⟨s, d⟩, r⟩ <;> rw [hout] at hmutations hstart hup
  case error =>
    obtain ⟨items, sent, htrace, harrived, hsent, hdelivers⟩ := hstart.entries
    -- Nothing is called for before both tenants are read, so no change was sent.
    have hnone : traceMutations items = [] := (congrArg traceMutations htrace).symm.trans hmutations
    rw [hnone] at hdelivers
    refine ⟨sent, harrived, fun q hq => consults_of_authority hhosts (hsent q hq), ?_, nofun⟩
    rintro _ ⟨⟩
    exact ⟨rfl, hdelivers.eq_nil⟩
  case ok =>
    obtain ⟨sent, harrived, hsent, honce⟩ :=
      carryOut_sent_once src dst o clock.now s d hstart (hup (s, d) rfl) rfl hmutations
    refine ⟨sent, harrived, fun q hq => consults_of_authority hhosts (hsent q hq), ?_, ?_⟩
    · exact fun _ hf => nomatch hf
    · rintro _ _ ⟨⟩
      exact honce

/-- A destination that is too busy to create the only type that it lacks: the request for it is sent
    once, although a request for a page would be tried again after such an answer. -/
theorem busy_destination_asked_once :
    let source : Service :=
      ⟨{ scheme := .http, host := "left", path := [""] }, "http://left", ⟨"id", "secret"⟩, {}⟩
    let destination : Service :=
      ⟨{ scheme := .http, host := "right", path := [""] }, "http://right", ⟨"id", "secret"⟩, {}⟩
    let page : List Entity → Reply := fun es =>
      .answer ⟨⟨200⟩, [], some (Wire.ofPage es false none).text⟩
    let group : Entity := .objectType ⟨.zero, "group"⟩
    let busy : Response := ⟨⟨503⟩, [], none⟩
    let network : Network :=
      { up := true
        hosts :=
          [("left", { answers := [page [group], page [], page [], page []] }),
            ("right", { answers := [page [], page [], page [], page [], .answer busy] })] }
    destination.resilience.retry.retries busy.status.code = true ∧
    ∃ token, ((synchronize (source.client.zoom Links.source)
        (destination.client.zoom Links.destination) {}).run
          (Run.start { network } .fresh (.frozen 0))).2.world.network.arrived.filter
            destination.isChange = [destination.change (some token) (.create group)] := by
  intro source destination page group busy network
  obtain ⟨sent, h⟩ := changes_sent_at_most_once source destination (by decide) {} { network }
    .fresh (.frozen 0)
  exact ⟨by decide, h.single (by decide +kernel) (by decide +kernel)⟩

end TenantSync
