import TenantSync.Proofs.Session.Keeping
import TenantSync.Proofs.Sync.Cancellation
import TenantSync.Proofs.Tenant.Sync

/-!
# Cancelled runs between in-memory tenants

A run that is cancelled right after an event is a clean cut of the run that nobody cancels
(`cancelled_sync`): what it did is what the other one had done by then.  What a tenant looks like
at that time is `Tenant.after`, and whether the other run goes on with a call shows when its
clients are marked (`Client.marked`).
-/

namespace TenantSync

/-- The client, each call of which leaves a line in the log. -/
def Client.marked {σ : Type} (c : Client σ) : Client σ where
  endpoint := c.endpoint
  listObjectTypes := c.listObjectTypes.marked
  listEdgeTypes := c.listEdgeTypes.marked
  listObjects cursor := (c.listObjects cursor).marked
  listEdges cursor := (c.listEdges cursor).marked
  createObjectType id typeName := (c.createObjectType id typeName).marked
  createObject id typeId alias? := (c.createObject id typeId alias?).marked
  createEdgeType id sourceTypeId targetTypeId typeName attributes :=
    (c.createEdgeType id sourceTypeId targetTypeId typeName attributes).marked
  createEdge id sourceId targetId edgeTypeId :=
    (c.createEdge id sourceId targetId edgeTypeId).marked
  delete k id := (c.delete k id).marked
  pageBound := c.pageBound

namespace Tenant

/-! ## The calls to a tenant under a token -/

section
variable {t : CancelToken} {k : Clock} {before : Prop}

/-- Opening a listing echoes itself under a token that is not cancelled. -/
theorem openListing_echoes (ht : t.Steady) (hc : t.cancelled = false) (kind : Kind) :
    Call.Echoes t k before before (openListing kind) (openListing kind) := by
  intro s hs hb
  rw [run_openListing, run_openListing]
  simp only [Session.echo, ht.look, hc, hs]
  exact ⟨rfl, rfl, trivial, hb⟩

/-- Recording a change echoes itself under a token that is not cancelled. -/
theorem register_echoes (ht : t.Steady) (hc : t.cancelled = false) (r : Entry) :
    Call.Echoes t k before before (register r) (register r) := by
  intro s hs hb
  rw [run_register, run_register]
  simp only [Session.echo, ht.look, hc, hs]
  exact ⟨rfl, rfl, rfl, hb⟩

/-- Committing a change echoes itself. -/
theorem commit_echoes (change : Graph → Except Refusal Graph) :
    Call.Echoes t k before before (commit change) (commit change) :=
  Call.Echoes.world.bind fun _ => (Call.Echoes.ofExcept _ _).bind fun _ => .setWorld _

/-- Taking an entity in goes on until the run is cancelled, whatever is returned then. -/
theorem insert_echoes {α : Type} (ht : t.Steady) (hc : t.cancelled = false) (e : Entity)
    (created : α) :
    Call.Echoes t k before before (do insert e; return created) (do insert e; return created) :=
  ((register_echoes ht hc _).bind fun _ => commit_echoes _).bind fun _ => .pure _

/-- A deletion echoes itself under a token that is not cancelled. -/
theorem delete_echoes (ht : t.Steady) (hc : t.cancelled = false) (kind : Kind) (id : Uuid) :
    Call.Echoes t k before before (delete kind id) (delete kind id) :=
  (register_echoes ht hc _).bind fun _ => commit_echoes _

end

/-- The tenant but for how many pages of objects were asked for. -/
def uncounted (t : Tenant) : Tenant := { t with objectPages := 0 }

/-- A tenant is unchanged when nothing but its counters may differ. -/
theorem unchanged_iff {t u : Tenant} : t.Unchanged u ↔ u.uncounted = t.uncounted := by
  constructor
  · rintro ⟨n, rfl⟩
    rfl
  · intro h
    refine ⟨u.objectPages, ?_⟩
    calc u = { u.uncounted with objectPages := u.objectPages } := rfl
      _ = { t with objectPages := u.objectPages } := by rw [h]; rfl

/-- A call that goes on under any token until it is cancelled, then fails at once, and does
    nothing but count pages. -/
structure Reading (k : Clock) {α : Type} (c : Call Tenant α) : Prop where
  echoes : ∀ t : CancelToken, t.Steady → t.cancelled = false →
    ∀ before, Call.Echoes t k before before c c
  halts : c.Halts
  keeps : Call.Keeps uncounted c

/-- Opening a listing looks at the token; what follows does not have to. -/
theorem Reading.of_openListing {k : Clock} {α : Type} {kind : Kind} {c : Call Tenant α}
    (hechoes : ∀ t before, Call.Echoes t k before before c c) (hkeeps : Call.Keeps uncounted c) :
    Reading k (openListing kind >>= fun _ => c) where
  echoes t ht hc before := (openListing_echoes ht hc kind).bind fun _ => hechoes t before
  halts := by
    refine Call.Halts.bind (fun s hs hcan => ⟨Failure.of (.refused .cancelled), ?_⟩) _
    rw [run_openListing, hs.look, if_pos hcan]
  keeps := by
    refine Call.Keeps.bind (fun s => ?_) fun _ => hkeeps
    rw [run_openListing]

section
variable {k : Clock}

/-- Listing the object types is a reading. -/
theorem listObjectTypes_reading : Reading k listObjectTypes :=
  .of_openListing (fun _ _ => Call.Echoes.world.bind fun _ => .pure _)
    (Call.Keeps.world.bind fun _ => .pure _)

/-- Listing the edge types is a reading. -/
theorem listEdgeTypes_reading : Reading k listEdgeTypes :=
  .of_openListing (fun _ _ => Call.Echoes.world.bind fun _ => .pure _)
    (Call.Keeps.world.bind fun _ => .pure _)

/-- A page of objects is a reading. -/
theorem listObjects_reading (cursor : Cursor) : Reading k (listObjects cursor) := by
  refine .of_openListing (fun _ _ => ?_) ?_
  · exact Call.Echoes.world.bind fun _ => (Call.Echoes.setWorld _).bind fun _ =>
      (Call.Echoes.ofExcept _ _).bind fun _ => .pure _
  · exact Call.Keeps.update (g := fun t : Tenant => { t with objectPages := t.objectPages + 1 })
      (fun _ => rfl) fun _ => (Call.Keeps.ofExcept _ _).bind fun _ => .pure _

/-- A page of edges is a reading. -/
theorem listEdges_reading (cursor : Cursor) : Reading k (listEdges cursor) :=
  .of_openListing
    (fun _ _ => Call.Echoes.world.bind fun _ => (Call.Echoes.ofExcept _ _).bind fun _ => .pure _)
    (Call.Keeps.world.bind fun _ => (Call.Keeps.ofExcept _ _).bind fun _ => .pure _)

end

/-! ## The books of a run -/

/-- What becomes of a tenant when mutations are sent to it: those that succeed take effect, and all
    are recorded. -/
def after (t : Tenant) (sent : List (Mutation × Bool)) : Tenant :=
  { t with
    graph := (successes sent).foldl Graph.apply t.graph
    record := t.record ++ sent.map (·.1.entry) }

/-- The mutations were sent to the second of two tenants, and nothing else happened. -/
structure Booked (s d : Tenant) (sent : List (Mutation × Bool)) (w : Tenant × Tenant) : Prop where
  source : s.Unchanged w.1
  destination : (d.after sent).Unchanged w.2

/-- An answer that nobody stopped makes one more mutation. -/
theorem Answer.after {t u u' : Tenant} {sent : List (Mutation × Bool)} {m : Mutation} {ok : Bool}
    (h : Answer False u m ok u') (hu : (t.after sent).Unchanged u) :
    (t.after (sent ++ [(m, ok)])).Unchanged u' := by
  obtain ⟨n, rfl⟩ := hu
  cases h with
  | done => exact ⟨n, by simp [Tenant.after, successes]⟩
  | refused => exact ⟨n, by simp [Tenant.after, successes]⟩
  | stopped hstop => exact hstop.elim

/-- Two tenants are booked as they start. -/
theorem Booked.start (s d : Tenant) : Booked s d [] (s, d) :=
  ⟨.refl s, ⟨d.objectPages, by simp [after, successes]⟩⟩

/-- How often objects were listed does not matter. -/
theorem Booked.of_uncounted {s d : Tenant} {sent : List (Mutation × Bool)} {w w' : Tenant × Tenant}
    (h : Booked s d sent w) (hw : Prod.map uncounted uncounted w' = Prod.map uncounted uncounted w) :
    Booked s d sent w' where
  source := unchanged_iff.mpr ((congrArg Prod.fst hw).trans (unchanged_iff.mp h.source))
  destination := unchanged_iff.mpr ((congrArg Prod.snd hw).trans (unchanged_iff.mp h.destination))

/-! ## Marked clients -/

section
variable {s d : Tenant} {k : Clock} {α : Type} {l : Lens (Tenant × Tenant) Tenant}
  (hl : l.Lawful)
  (hset : ∀ t w, t.uncounted = (l.get w).uncounted →
    Prod.map uncounted uncounted (l.set t w) = Prod.map uncounted uncounted w)
include hl hset

/-- A reading on one side, marked, is a listing of the pair. -/
theorem Reading.listing {c : Call Tenant α} (hc : Reading k c) :
    Listing (Booked s d) k (c.zoom l).marked (c.zoom l) where
  echoes t ht hcan := ((hc.echoes t ht hcan _).zoom l).marked
  halts := hc.halts.zoom hl
  keeps _ _ h := h.of_uncounted ((hc.keeps.zoom hset).marked _)

/-- A walk over pages read on one side, marked, is a listing of the pair. -/
theorem Reading.listing_collectPages {kind : Kind} {ask : Cursor → Call Tenant (Page α)}
    {bound : Tenant × Tenant → Nat} (hbound : ∀ w, 0 < bound w)
    (hask : ∀ cursor, Reading k (ask cursor)) :
    Listing (Booked s d) k (collectPages bound kind fun cursor => ((ask cursor).zoom l).marked)
      (collectPages bound kind fun cursor => (ask cursor).zoom l) where
  echoes t ht hcan := .collectPages ht kind hbound fun _ cursor =>
    (((hask cursor).echoes t ht hcan _).zoom l).marked
  halts := .collectPages hbound fun cursor => (hask cursor).halts.zoom hl
  keeps _ _ h := h.of_uncounted
    (Call.Keeps.collectPages bound kind (fun cursor => ((hask cursor).keeps.zoom hset).marked) _)

/-- A tenant's listings are readings, those that come in pages have a page at least. -/
theorem client_marksLists (endpoint : String) :
    ((client endpoint).zoom l).marked.MarksLists (Booked s d) k ((client endpoint).zoom l) where
  endpoint := rfl
  objectTypes := listObjectTypes_reading.listing hl hset
  objects := Reading.listing_collectPages hl hset (fun _ => Nat.succ_pos _) listObjects_reading
  edgeTypes := listEdgeTypes_reading.listing hl hset
  edges := Reading.listing_collectPages hl hset (fun _ => Nat.succ_pos _) listEdges_reading

end

section
variable {s d : Tenant} {k : Clock}

/-- The client of the source marks its listings. -/
theorem source_marksLists (endpoint : String) :
    ((client endpoint).zoom .first).marked.MarksLists (Booked s d) k
      ((client endpoint).zoom .first) :=
  client_marksLists Lens.first_lawful (fun _ _ h => Prod.ext h rfl) endpoint

/-- A tenant's mutations go on under any token until it is cancelled. -/
theorem mutate_echoes (endpoint : String) (m : Mutation) (t : CancelToken) (ht : t.Steady)
    (hc : t.cancelled = false) {l : Lens (Tenant × Tenant) Tenant} :
    Call.Echoes t k False True (((client endpoint).zoom l).marked.mutate m)
      (((client endpoint).zoom l).mutate m) := by
  cases m with
  | create e =>
    cases e <;> exact ((insert_echoes ht hc _ _).zoom l).marked.bind fun _ => .pure _
  | delete kind id => exact ((delete_echoes ht hc kind id).zoom l).marked

/-- The client of the destination marks all its calls. -/
theorem destination_marks (endpoint : String) :
    ((client endpoint).zoom .second).marked.Marks (Booked s d) k
      ((client endpoint).zoom .second) where
  toMarksLists :=
    client_marksLists Lens.second_lawful (fun _ _ h => Prod.ext rfl h) endpoint
  mutate m t ht hc := mutate_echoes endpoint m t ht hc
  booked m sent r hr h := by
    -- The marked call does what the call does as it is, and that is an answer of the tenant.
    obtain ⟨hrun, -⟩ := mutate_echoes (k := k) (l := .second) endpoint m .fresh
      CancelToken.fresh_steady rfl r hr nofun
    obtain ⟨-, hanswer, u, hu⟩ := (client_answers False endpoint).zoom Lens.second_lawful m
      (r.echo .fresh k) .never
    rw [hrun] at hanswer hu
    have hsource := congrArg s.Unchanged (congrArg Prod.fst hu)
    exact ⟨hsource.mpr h.source, hanswer.after h.destination⟩

end

/-! ## Runs -/

/-- A synchronisation that nobody cancels and each call of which leaves a line in the trace. -/
def markedSync (s d : Tenant) (o : Options) (clock : Clock) :
    Except SyncFailure Report × Run (Tenant × Tenant) :=
  (synchronize ((client s.endpoint).zoom .first).marked ((client d.endpoint).zoom .second).marked
    o).run (Run.start (s, d) .fresh clock)

/-- Marks do not change what a run does. -/
theorem sync_eq_markedSync (s d : Tenant) (o : Options) (clock : Clock) :
    (s.sync d o .fresh clock).1 = (s.markedSync d o clock).1 ∧
      (s.sync d o .fresh clock).2.world = (s.markedSync d o clock).2.world ∧
      (s.sync d o .fresh clock).2.trace = unmarkedTrace (s.markedSync d o clock).2.trace := by
  have hecho := synchronize_echo (Booked.start s d) clock (source_marksLists s.endpoint)
    (destination_marks d.endpoint) o
  exact ⟨congrArg (·.1) hecho, congrArg (·.2.world) hecho, congrArg (·.2.trace) hecho⟩

/-- A run that is cancelled right after an event is a clean cut of the run that is not, whatever
    the two tenants hold and were told to fail, and whatever the options and the clocks are.  The
    events up to that one agree.  The second tenant was sent and holds what it was sent and held
    at the event in the run that goes on, and the first tenant holds what it held.  If the run that
    goes on makes no call after the event, both end with the same; if it makes one, the cancelled
    run fails. -/
theorem cancelled_sync (s d : Tenant) (o : Options) (clock clock' : Clock) (n : Nat) :
    let full := s.sync d o .fresh clock
    let cut := s.sync d o (.afterEvents n) clock'
    let reached := traceMutations (throughEvent n full.2.trace)
    let later := afterEvent n (s.markedSync d o clock).2.trace
    full.2.trace = unmarkedTrace (s.markedSync d o clock).2.trace ∧
      (d.after full.2.mutations).Unchanged full.2.world.2 ∧
      ((traceEvents cut.2.trace).take n).map Event.undated =
        ((traceEvents full.2.trace).take n).map Event.undated ∧
      cut.2.mutations = reached ∧
      s.Unchanged cut.2.world.1 ∧ (d.after reached).Unchanged cut.2.world.2 ∧
      (.line callLine ∉ later → cut.1.map Report.undated = full.1.map Report.undated) ∧
      (.line callLine ∈ later → ∃ f, cut.1 = .error f) := by
  intro full cut reached later
  obtain ⟨hout, hworld, htrace⟩ := sync_eq_markedSync s d o clock
  -- Marks are neither events nor mutations, so what was reached may be read off either trace.
  have hmutations : traceMutations (throughEvent n (s.markedSync d o clock).2.trace) = reached := by
    rw [← traceMutations_unmarkedTrace, ← throughEvent_unmarkedTrace, ← htrace]
  obtain ⟨hevents, hsent, hbooked, hsame, hstopped⟩ := synchronize_cut (Booked.start s d) clock
    clock' (source_marksLists s.endpoint) (destination_marks d.endpoint) o n
  have hreached : cut.2.mutations = reached := hsent.trans hmutations
  have hlive := synchronize_live (Booked.start s d) clock (source_marksLists s.endpoint)
    (destination_marks (k := clock) d.endpoint) o
  refine ⟨htrace, ?_, ?_, hreached, hbooked.source, ?_, fun h => ?_, hstopped⟩
  · have hfull : full.2.mutations = (s.markedSync d o clock).2.mutations := by
      rw [Run.mutations, htrace, traceMutations_unmarkedTrace, Run.mutations]
    rw [hfull, hworld]
    exact hlive.booked.destination
  · rw [htrace, traceEvents_unmarkedTrace]
    exact hevents
  · rw [← hreached]
    exact hbooked.destination
  · rw [hout]
    exact hsame h

end Tenant

end TenantSync
