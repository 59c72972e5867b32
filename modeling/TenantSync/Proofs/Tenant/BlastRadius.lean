import TenantSync.Proofs.Graph.Cascade
import TenantSync.Proofs.Sync.Stages
import TenantSync.Proofs.Tenant.Convergence

/-!
# What a run that collects failures gets done

When the mutations of some identifiers fail, a run that collects failures goes through its whole
plan and loses an entity exactly if its failure was injected or the store refuses it at its turn
(`Sweep.sifted`).  Which entities these are is settled beforehand by the two graphs and the
identifiers; they are the least sets `Stuck` and `Orphaned`.

`blast_radius` says what such a run sends, reports and leaves behind.
-/

namespace TenantSync

open TenantSync.Graph
open scoped Classical

/-! ## One phase -/

/-- At its turn, an entity of the plan is lost exactly if its failure was injected or the store
    refuses it, if all before it were done but those that were lost. -/
def Sifts (op : Operation) (failing : List Uuid) (g : Graph) (plan : List Entity)
    (lost : Entity → Prop) : Prop :=
  ∀ done e rest, plan = done ++ e :: rest → (lost e ↔ e.id ∈ failing ∨
    (g.applyAll op (done.filter fun x => ¬ lost x)).refusal? (op.mutation e) ≠ none)

namespace Sifts

variable {op : Operation} {failing : List Uuid} {g : Graph} {e : Entity} {plan : List Entity}
  {lost : Entity → Prop}

/-- The first entity is lost if it fails by itself or the store refuses it. -/
theorem head (h : Sifts op failing g (e :: plan) lost) :
    lost e ↔ e.id ∈ failing ∨ g.refusal? (op.mutation e) ≠ none :=
  h [] e plan rfl

/-- A lost entity does not count for what follows. -/
theorem tail_of_lost (h : Sifts op failing g (e :: plan) lost) (he : lost e) :
    Sifts op failing g plan lost := by
  intro done x rest hplan
  have := h (e :: done) x rest (congrArg (List.cons e) hplan)
  rwa [List.filter_cons_of_neg (by simpa using he)] at this

/-- What follows finds an entity that was not lost done. -/
theorem tail_of_not_lost (h : Sifts op failing g (e :: plan) lost) (he : ¬ lost e) :
    Sifts op failing (g.apply (op.mutation e)) plan lost := by
  intro done x rest hplan
  have := h (e :: done) x rest (congrArg (List.cons e) hplan)
  rwa [List.filter_cons_of_pos (by simpa using he), applyAll_cons] at this

end Sifts

open Tenant (Answer)

/-- A sweep that collects failures and that nobody stops attempts the whole plan, and exactly what
    is lost fails. -/
theorem Sweep.sifted {stops : Prop} {mode : FailureMode} {op : Operation} {plan : List Entity}
    {lost : Entity → Prop} {t t' : Tenant} {sent : List (Mutation × Bool)} {e : Ending}
    (h : Sweep stops mode (Answer stops) (plan.map op.mutation) t sent t' e) (hstop : ¬ stops)
    (hmode : mode = .collectErrors) (hlost : Sifts op t.failing t.graph plan lost) :
    sent = plan.map (fun x => (op.mutation x, decide (¬ lost x))) ∧
      t'.graph = t.graph.applyAll op (plan.filter fun x => ¬ lost x) := by
  induction plan generalizing t sent with
  | nil =>
    obtain ⟨rfl, rfl, -⟩ := h.of_nil
    exact ⟨rfl, rfl⟩
  | cons x plan ih =>
    cases h with
    | interrupted _ _ _ hs => exact absurd hs hstop
    | applied hstep hrest =>
      cases hstep with
      | done hfailing hrule =>
        -- The failure of `x` was not injected, and the store took it.
        rw [op.entry_mutation] at hfailing
        have hx : ¬ lost x := by simp [hlost.head, hfailing, hrule]
        obtain ⟨rfl, hgraph⟩ := ih hrest (hlost.tail_of_not_lost hx)
        rw [List.map_cons, List.filter_cons_of_pos (by simpa using hx), applyAll_cons]
        exact ⟨by simp [hx], hgraph⟩
    | aborted _ hfast => exact nomatch hmode.symm.trans hfast
    | failed _ hstep hrest =>
      cases hstep with
      | refused hcause =>
        rw [op.entry_mutation] at hcause
        have hx : lost x := hlost.head.mpr hcause
        obtain ⟨rfl, hgraph⟩ := ih hrest (hlost.tail_of_lost hx)
        rw [List.map_cons, List.filter_cons_of_neg (by simpa using hx)]
        exact ⟨by simp [hx], hgraph⟩
      | stopped hs => exact absurd hs hstop

/-- What was attempted and what was sent together say which outcome each entity had. -/
theorem Operation.eq_map_of_sent {op : Operation} {plan : List Entity}
    {outcomes : List (Entity × Bool)} {ok : Entity → Bool}
    (hall : outcomes.map Prod.fst = plan)
    (hsent : op.sent outcomes = plan.map fun e => (op.mutation e, ok e)) :
    outcomes = plan.map fun e => (e, ok e) := by
  subst hall
  rw [sent, List.map_map, List.map_inj_left] at hsent
  rw [List.map_map]
  refine (List.map_id _).symm.trans (List.map_congr_left fun x hx => ?_)
  exact Prod.ext rfl (show x.2 = ok x.1 from congrArg Prod.snd (hsent x hx))

/-- The entities that failed are those that are lost. -/
theorem failed_map (lost : Entity → Prop) (plan : List Entity) :
    failed (plan.map fun e => (e, decide (¬ lost e))) = plan.filter fun e => lost e := by
  simp [failed, List.filter_map, Function.comp_def]

/-- A phase that collects failures and lost some entities of its plan reports exactly these, in
    order; it succeeds if it lost none. -/
theorem PhaseEnds.sifted {α : Type} {endpoint : String} {mode : FailureMode} {op : Operation}
    {cancelled : Prop} {plan : List Entity} {outcomes : List (Entity × Bool)}
    {out : Except SyncFailure α} {lost : Entity → Prop}
    (h : PhaseEnds endpoint mode op cancelled plan outcomes out) (hmode : mode = .collectErrors)
    (hsent : op.sent outcomes = plan.map fun e => (op.mutation e, decide (¬ lost e))) :
    (plan.filter (fun e => lost e) = [] → out.isOk = true) ∧
      (plan.filter (fun e => lost e) ≠ [] → ∃ fs,
        out = .error ⟨[.applying op endpoint], .changes op plan.length fs⟩ ∧
          List.Forall₂ (op.Blames endpoint) (plan.filter fun e => lost e) fs) := by
  cases h with
  | done x =>
    refine ⟨fun _ => rfl, fun hlost => absurd ?_ hlost⟩
    rw [← failed_map, ← op.eq_map_of_sent (map_fst_map_true plan) hsent, failed_eq_nil_iff]
    simp
  | collected _ hall hfailed hfs =>
    rw [op.eq_map_of_sent hall hsent, failed_map] at hfailed hfs
    exact ⟨fun hnil => absurd hnil hfailed, fun _ => ⟨_, rfl, hfs⟩⟩
  | aborted hfast => exact nomatch hmode.symm.trans hfast
  | interrupted _ hplan =>
    -- The plan was not gone through to its end, but all of it was sent.
    have hlen := congrArg List.length hsent
    rw [List.length_map, hplan] at hlen
    simp [Operation.sent] at hlen

/-- What a phase that collects failures has done when it lost some entities of its plan: the calls,
    what became of the tenant, and what is reported. -/
structure Sifted {α : Type} (endpoint : String) (op : Operation) (plan : List Entity)
    (lost : Entity → Prop) (t t' : Tenant) (sent : List (Mutation × Bool))
    (out : Except SyncFailure α) : Prop where
  sent : sent = plan.map fun x => (op.mutation x, decide (¬ lost x))
  graph : t'.graph = t.graph.applyAll op (plan.filter fun x => ¬ lost x)
  failing : t'.failing = t.failing
  ok : plan.filter (fun x => lost x) = [] → out.isOk = true
  error : plan.filter (fun x => lost x) ≠ [] → ∃ fs,
    out = .error ⟨[.applying op endpoint], .changes op plan.length fs⟩ ∧
      List.Forall₂ (op.Blames endpoint) (plan.filter fun x => lost x) fs

/-- A phase over a tenant, if nobody stops it, loses exactly what its plan has to lose. -/
theorem changePhase_sifted {σ : Type} {R : σ → Mutation → Bool → σ → Prop} {c : Client σ}
    (hc : c.Answers False R) (tenant : σ → Tenant)
    (hR : ∀ w m ok w', R w m ok w' → Answer False (tenant w) m ok (tenant w')) {o : Options}
    (hdry : o.dryRun = false) (hmode : o.mode = .collectErrors) {op : Operation} (idle : String)
    {changes : Graph} {lost : Entity → Prop} {r : Run σ} (ht : r.token.FreshUnless False)
    (hlost : Sifts op (tenant r.world).failing (tenant r.world).graph (op.plan changes) lost) :
    ((changePhase c o op idle changes).run r).2.token.FreshUnless False ∧
    ∃ sent, ((changePhase c o op idle changes).run r).2.mutations = r.mutations ++ sent ∧
      Sifted c.endpoint op (op.plan changes) lost (tenant r.world)
        (tenant ((changePhase c o op idle changes).run r).2.world) sent
        ((changePhase c o op idle changes).run r).1 := by
  obtain ⟨sent, e, hswept, -⟩ := changePhase_swept hc o op idle changes ht
  obtain ⟨outcomes, hsent, hends⟩ := changePhase_ends c o op idle changes r
  simp only [Options.plan, hdry, Bool.false_eq_true, if_false] at hends
  -- Both accounts of the phase speak of the same calls.
  obtain rfl : op.sent outcomes = sent :=
    List.append_cancel_left (hsent.symm.trans hswept.mutations)
  have hsweep := hswept.sweep.map tenant hR
  simp only [Options.steps, hdry, Bool.false_eq_true, if_false] at hsweep
  obtain ⟨hcalls, hgraph⟩ := hsweep.sifted id hmode hlost
  obtain ⟨_, _, hframe⟩ := hsweep.frame
  obtain ⟨hok, herror⟩ := hends.sifted hmode hcalls
  exact ⟨hswept.token, _, hsent, hcalls, hgraph, by rw [hframe], hok, herror⟩

namespace Sifted

variable {α β : Type} {endpoint : String} {op : Operation} {plan : List Entity} {lost : Entity → Prop}
  {t t' : Tenant} {sent : List (Mutation × Bool)}

/-- Who succeeds has lost nothing. -/
theorem eq_nil {x : α} (h : Sifted endpoint op plan lost t t' sent (.ok x)) :
    plan.filter (fun e => lost e) = [] := by
  by_contra hlost
  obtain ⟨fs, hout, -⟩ := h.error hlost
  exact nomatch hout

/-- What is returned besides does not matter. -/
theorem map_ok {x : α} (h : Sifted endpoint op plan lost t t' sent (.ok x)) (y : β) :
    Sifted endpoint op plan lost t t' sent (.ok y) :=
  { h with ok := fun _ => rfl, error := fun hlost => absurd h.eq_nil hlost }

/-- A failure is the same whatever was to be returned. -/
theorem map_error {f : SyncFailure} (h : Sifted (α := α) endpoint op plan lost t t' sent (.error f)) :
    Sifted (α := β) endpoint op plan lost t t' sent (.error f) where
  sent := h.sent
  graph := h.graph
  failing := h.failing
  ok := h.ok
  error hlost := by
    obtain ⟨fs, hout, hfs⟩ := h.error hlost
    cases hout
    exact ⟨fs, rfl, hfs⟩

end Sifted

/-- A run over a tenant, if nobody stops it: if its deletions lose something they are all it does,
    and if they lose nothing its creations lose what they have to lose. -/
theorem carryOut_sifted {σ : Type} {R : σ → Mutation → Bool → σ → Prop} (source : Client σ)
    {c : Client σ} (hc : c.Answers False R) (tenant : σ → Tenant)
    (hR : ∀ w m ok w', R w m ok w' → Answer False (tenant w) m ok (tenant w')) {o : Options}
    (ho : o.Full) (hmode : o.mode = .collectErrors) (started : Int) {s d : Graph}
    {lost lost' : Entity → Prop} {r : Run σ} (ht : r.token.FreshUnless False) :
    let t := tenant r.world
    let deletions := Operation.delete.plan (deletions s d)
    let insertions := Operation.create.plan (insertions s d)
    let run := (carryOut source c o started s d).run r
    Sifts .delete t.failing t.graph deletions lost →
    Sifts .create t.failing (t.graph.applyAll .delete deletions) insertions lost' →
    ∃ calls, run.2.mutations = r.mutations ++ calls ∧
      (deletions.filter (fun e => lost e) ≠ [] →
        Sifted c.endpoint .delete deletions lost t (tenant run.2.world) calls run.1) ∧
      (deletions.filter (fun e => lost e) = [] →
        ∃ sent, calls = deletions.map (fun e => (Operation.delete.mutation e, true)) ++ sent ∧
          Sifted c.endpoint .create insertions lost'
            { t with graph := t.graph.applyAll .delete deletions } (tenant run.2.world) sent
            run.1) := by
  intro t deletions insertions run hlost hlost'
  have hrun : run = _ := run_carryOut source c o started s d r
  simp only [phases, deletionPhase, ho.2, Bool.false_eq_true, if_false, SyncM.run_bind] at hrun
  obtain ⟨ht', sent, hsent, hdel⟩ :=
    changePhase_sifted hc tenant hR ho.1 hmode "nothing to delete" ht hlost
  rcases hphase : (changePhase c o .delete "nothing to delete" (Graph.deletions s d)).run r
    with ⟨f | ⟨planned, deleted⟩, r'⟩ <;> simp only [hphase] at hrun hdel ht' hsent
  case error =>
    -- Something was lost, and that ends the run.
    rw [hrun]
    exact ⟨sent, hsent, fun _ => hdel.map_error, fun hnil => absurd (hdel.ok hnil) Bool.false_ne_true⟩
  case ok =>
    have hnone : ∀ e ∈ deletions, ¬ lost e := by
      simpa only [List.filter_eq_nil_iff, decide_eq_true_eq] using hdel.eq_nil
    have hcalls : sent = deletions.map fun e => (Operation.delete.mutation e, true) := by
      rw [hdel.sent]
      exact List.map_congr_left fun e he => by simp [hnone e he]
    have hgraph : (tenant r'.world).graph = t.graph.applyAll .delete deletions := by
      rw [hdel.graph, List.filter_eq_self.mpr fun e he => by simpa using hnone e he]
    -- Nothing was lost, so the insertion phase finds what it was planned for.
    rw [← hgraph, ← hdel.failing] at hlost'
    obtain ⟨-, sent', hsent', hins⟩ :=
      changePhase_sifted hc tenant hR ho.1 hmode "nothing to insert" ht' hlost'
    replace hins : Sifted c.endpoint .create insertions lost'
        { t with graph := t.graph.applyAll .delete deletions } _ sent' _ :=
      { hins with graph := hgraph ▸ hins.graph, failing := hins.failing.trans hdel.failing }
    have hlast : run.2.mutations = r'.mutations ++ sent' ∧ Sifted c.endpoint .create insertions lost'
        { t with graph := t.graph.applyAll .delete deletions } (tenant run.2.world) sent' run.1 := by
      simp only [SyncM.run_pure, run_conclude] at hrun
      rcases hphase' : (changePhase c o .create "nothing to insert" (Graph.insertions s d)).run r'
        with ⟨f | ⟨planned', inserted⟩, r''⟩ <;>
        simp only [hphase'] at hrun hins hsent' <;> rw [hrun]
      · exact ⟨hsent', hins.map_error⟩
      · simp only [Run.write_mutations, Run.tell_mutations, Run.tick_mutations]
        exact ⟨hsent', hins.map_ok _⟩
    refine ⟨sent ++ sent', ?_, fun hne => absurd hdel.eq_nil hne, fun _ => ⟨sent', ?_, hlast.2⟩⟩
    · rw [hlast.1, hsent, List.append_assoc]
    · rw [hcalls]

/-! ## Runs -/

namespace Tenant

variable {s d : Tenant}

/-- A run that nobody stops between tenants that answer all listings goes on from their graphs. -/
theorem sync_eq_carryOut (hs : 0 < s.pageSize) (hd : 0 < d.pageSize) (hsl : s.unlisted = [])
    (hdl : d.unlisted = []) (o : Options) (clock : Clock) :
    ∃ r : Run (Tenant × Tenant), (s.Unchanged r.world.1 ∧ d.Unchanged r.world.2) ∧
      r.token.FreshUnless False ∧ r.mutations = [] ∧
      s.sync d o .fresh clock =
        (carryOut ((client s.endpoint).zoom .first) ((client d.endpoint).zoom .second) o clock.now
          s.graph d.graph).run r := by
  have hreads : SyncM.Reads False _ _ (s.graph, d.graph)
      (snapshots ((client s.endpoint).zoom .first) ((client d.endpoint).zoom .second) o) :=
    snapshots_reads (source_lists hs d) (destination_lists s hd) o
  rw [sync, run_synchronize]
  -- Nothing hinders the reading, so it comes back with both graphs.
  rcases hrun : (snapshots ((client s.endpoint).zoom .first) ((client d.endpoint).zoom .second)
    o).run _ with ⟨f | ⟨s', d'⟩, r⟩ <;>
    obtain ⟨hw, ht, hsent, hout⟩ := hreads.of_run hrun ⟨.refl s, .refl d⟩ (.never)
  case error =>
    refine absurd ⟨fun k => ?_, fun k => ?_⟩ (hout.resolve_left id)
    · rw [hsl]
      exact List.not_mem_nil
    · rw [hdl]
      exact List.not_mem_nil
  case ok =>
    obtain ⟨-, hread⟩ := hout
    obtain ⟨rfl, rfl⟩ := Prod.mk.injEq .. ▸ hread
    exact ⟨r, hw, ht, hsent, rfl⟩

/-- A full run that collects failures and that nobody stops, between two tenants whose listings all
    answer, the source being well formed.

    The deletions that fail are exactly those that are stuck.  If there are any, the run has
    attempted every planned deletion and nothing else, and reports the stuck ones, in order.

    If there are none, the creations that fail are exactly those that are orphaned.  The run has
    attempted everything it planned; the list of each kind holds what was kept and then what was
    created without being orphaned; and the run reports the orphaned ones, in order, or succeeds if
    there are none. -/
theorem blast_radius (hs : 0 < s.pageSize) (hd : 0 < d.pageSize) (hsl : s.unlisted = [])
    (hdl : d.unlisted = []) (hsg : s.graph.WellFormed) (hdg : d.graph.UniqueIds) {o : Options}
    (ho : o.Full) (hmode : o.mode = .collectErrors) (clock : Clock) :
    let run := s.sync d o .fresh clock
    let deletions := Operation.delete.plan (deletions s.graph d.graph)
    let insertions := Operation.create.plan (insertions s.graph d.graph)
    let stuck := deletions.filter fun e => Stuck s.graph d.graph d.failing e
    let orphaned := insertions.filter fun e => Orphaned s.graph d.graph d.failing e
    (stuck ≠ [] →
      run.2.mutations = deletions.map (fun e =>
        (Operation.delete.mutation e, decide (¬ Stuck s.graph d.graph d.failing e))) ∧
      ∃ fs, run.1 = .error ⟨[.applying .delete d.endpoint],
          .changes .delete deletions.length fs⟩ ∧
        List.Forall₂ (Operation.delete.Blames d.endpoint) stuck fs) ∧
    (stuck = [] →
      run.2.mutations =
        deletions.map (fun e => (Operation.delete.mutation e, true)) ++
          insertions.map (fun e =>
            (Operation.create.mutation e, decide (¬ Orphaned s.graph d.graph d.failing e))) ∧
      (∀ k, run.2.world.2.graph.entities k = (d.graph.entities k).filter s.graph.keeps ++
        ((Graph.insertions s.graph d.graph).entities k).filter fun e =>
          ¬ Orphaned s.graph d.graph d.failing e) ∧
      (orphaned ≠ [] →
        ∃ fs, run.1 = .error ⟨[.applying .create d.endpoint],
            .changes .create insertions.length fs⟩ ∧
          List.Forall₂ (Operation.create.Blames d.endpoint) orphaned fs) ∧
      (orphaned = [] → run.1.isOk = true)) := by
  intro run deletions insertions stuck orphaned
  obtain ⟨r, ⟨-, n, hn⟩, ht, hsent, hrun⟩ := sync_eq_carryOut hs hd hsl hdl o clock
  have hgraph : r.world.2.graph = d.graph := by rw [hn]
  have hfailing : r.world.2.failing = d.failing := by rw [hn]
  -- What the phases lose is settled beforehand.
  have hstuck : Sifts .delete r.world.2.failing r.world.2.graph deletions
      (Stuck s.graph d.graph d.failing) := by
    intro done e rest hplan
    rw [hgraph, hfailing]
    exact stuck_iff_refused hsg.unique_ids hdg hplan
  have horphaned : Sifts .create r.world.2.failing (r.world.2.graph.applyAll .delete deletions)
      insertions (Orphaned s.graph d.graph d.failing) := by
    intro done e rest hplan
    rw [hgraph, hfailing]
    exact orphaned_iff_refused hsg hdg hplan
  obtain ⟨calls, hcalls, hdel, hins⟩ := carryOut_sifted ((client s.endpoint).zoom .first)
    ((client_answers False d.endpoint).zoom Lens.second_lawful) Prod.snd (fun _ _ _ _ h => h.1) ho
    hmode clock.now ht hstuck horphaned
  rw [← hrun] at hcalls hdel hins
  rw [hsent, List.nil_append] at hcalls
  refine ⟨fun hne => ?_, fun hnil => ?_⟩
  · have hsifted := hdel hne
    exact ⟨hcalls.trans hsifted.sent, hsifted.error hne⟩
  · obtain ⟨sent, rfl, hsifted⟩ := hins hnil
    refine ⟨hcalls.trans (by rw [hsifted.sent]), fun k => ?_, hsifted.error, hsifted.ok⟩
    have hpruned : r.world.2.graph.applyAll .delete deletions = pruned s.graph d.graph := by
      rw [hgraph]
      rfl
    rw [hsifted.graph, hpruned, entities_applyAll_create, entities_pruned hsg.unique_ids hdg,
      List.filter_comm, Operation.filter_plan]

/-- Everything is to be deleted and the object cannot be, so its type cannot be either. -/
theorem failed_deletion_blocks_type :
    let d : Tenant := { withType "team" "dst" with failing := [numbered 10] }
    let run := (empty "src").sync d { mode := .collectErrors } .fresh (.frozen 0)
    ∃ object type fault fault', run.1 = .error ⟨[.applying .delete "dst"],
      .changes .delete 2 [⟨.delete, .object, numbered 10, object, "dst", fault⟩,
        ⟨.delete, .objectType, numbered 1, type, "dst", fault'⟩]⟩ := by
  intro d run
  have hplan : Operation.delete.plan (deletions (empty "src").graph d.graph) =
      [.object ⟨numbered 10, numbered 1, none⟩, .objectType ⟨numbered 1, "team"⟩] := rfl
  have hmem : ∀ e ∈ Operation.delete.plan (deletions (empty "src").graph d.graph),
      e ∈ deletions (empty "src").graph d.graph := fun e he => (Operation.mem_plan_iff _).mp he
  rw [hplan] at hmem
  -- The object's deletion is made to fail, and so the type stays in use.
  have hobject : Stuck (empty "src").graph d.graph d.failing
      (.object ⟨numbered 10, numbered 1, none⟩) :=
    .injected (hmem _ (.head _)) (.head _)
  have htype : Stuck (empty "src").graph d.graph d.failing (.objectType ⟨numbered 1, "team"⟩) :=
    .blocked (hmem _ (.tail _ (.head _))) hobject (by decide)
  have hstuck : (Operation.delete.plan (deletions (empty "src").graph d.graph)).filter
      (fun e => Stuck (empty "src").graph d.graph d.failing e) =
      [.object ⟨numbered 10, numbered 1, none⟩, .objectType ⟨numbered 1, "team"⟩] := by
    simp [hplan, hobject, htype]
  obtain ⟨-, fs, hrun, hfs⟩ := (blast_radius (s := empty "src") (d := d) Nat.one_pos Nat.one_pos
    rfl rfl (empty_wellFormed _) (withType_wellFormed "team" "dst").unique_ids
    (o := { mode := .collectErrors }) ⟨rfl, rfl⟩ rfl (.frozen 0)).1 (by simp [hstuck])
  rw [hstuck] at hfs
  obtain _ | ⟨⟨fault, rfl⟩, _ | ⟨⟨fault', rfl⟩, ⟨⟩⟩⟩ := hfs
  exact ⟨_, _, fault, fault', hrun⟩

end Tenant

end TenantSync
