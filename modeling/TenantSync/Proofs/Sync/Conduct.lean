import TenantSync.Proofs.Sync.Observed

/-!
# What a run asks of its clients

Whatever two clients list and answer, and whenever a run between them is cancelled, the calls of
the run follow a plan that is fixed once both tenants are read.  `FollowsPlan` is the law: the
calls go through the plan from its beginning and in its order, creations only after all deletions
succeeded, and they stop where the options say so.

`calls_follow_plan` says that every run keeps the law, as its clients see it, and that only the
destination is ever changed.
-/

namespace TenantSync

/-- The deletions that a run plans, children first; none if it only inserts. -/
def Options.deletionCalls (o : Options) (s d : Graph) : List Mutation :=
  if o.insertOnly then [] else
    [Kind.edge, .edgeType, .object, .objectType].flatMap fun k =>
      ((Graph.deletions s d).entities k).map fun e => .delete k e.id

/-- The creations that a run plans, parents first. -/
def creationCalls (s d : Graph) : List Mutation :=
  [Kind.objectType, .object, .edgeType, .edge].flatMap fun k =>
    ((Graph.insertions s d).entities k).map .create

/-- The law of the calls of a run that has read the graphs `s` and `d`: how the calls, each with
    whether it succeeded, relate to the plan and to what the run returns. -/
structure FollowsPlan (o : Options) (s d : Graph) (cancelled : Prop)
    (calls : List (Mutation × Bool)) (out : Except SyncFailure Report) : Prop where
  /-- The calls are a beginning of the plan. -/
  in_order : calls.map Prod.fst <+: o.deletionCalls s d ++ creationCalls s d
  /-- A dry run calls for nothing. -/
  dry_run : o.dryRun = true → calls = []
  /-- Nothing is created before every planned deletion succeeded. -/
  deletions_first : ∀ e ok, (Mutation.create e, ok) ∈ calls →
    (o.deletionCalls s d).map (·, true) <+: calls
  /-- Who gives up at the first failure calls for nothing after it. -/
  fail_fast : o.mode = .failFast → calls.Pairwise fun earlier _ => earlier.2 = true
  /-- Who collects failures and is not cancelled calls for all deletions and, if these succeeded,
      for all creations. -/
  collect_errors : o.mode = .collectErrors → o.dryRun = false → ¬ cancelled →
    o.deletionCalls s d <+: calls.map Prod.fst ∧
      ((o.deletionCalls s d).map (·, true) <+: calls →
        calls.map Prod.fst = o.deletionCalls s d ++ creationCalls s d)
  /-- Success means that all of the plan was called for and succeeded. -/
  success : o.dryRun = false → out.isOk = true →
    calls = (o.deletionCalls s d ++ creationCalls s d).map (·, true)

/-! ## One phase -/

/-- The calls sent are those for the entities, whatever came of them. -/
theorem Operation.map_fst_sent (op : Operation) (outcomes : List (Entity × Bool)) :
    (op.sent outcomes).map Prod.fst = (outcomes.map Prod.fst).map op.mutation := by
  simp only [sent, List.map_map]
  rfl

/-- When every call succeeds, they are those for the whole plan. -/
theorem Operation.map_fst_sent_map_true (op : Operation) (plan : List Entity) :
    (op.sent (plan.map (·, true))).map Prod.fst = plan.map op.mutation := by
  rw [map_fst_sent, map_fst_map_true]

/-- A plan in which every call succeeds, as calls and outcomes. -/
theorem Operation.sent_map_true (op : Operation) (plan : List Entity) :
    op.sent (plan.map (·, true)) = (plan.map op.mutation).map (·, true) := by
  simp only [sent, List.map_map]
  rfl

namespace PhaseEnds

variable {α : Type} {endpoint : String} {mode : FailureMode} {op : Operation} {cancelled : Prop}
  {plan : List Entity} {outcomes : List (Entity × Bool)} {f : SyncFailure}
  {out : Except SyncFailure α}

/-- A phase goes through its plan from the beginning. -/
theorem isPrefix (h : PhaseEnds endpoint mode op cancelled plan outcomes out) :
    outcomes.map Prod.fst <+: plan := by
  -- No insertion is tried before all deletions have succeeded.
  cases h with
  | done => exact (map_fst_map_true plan).symm ▸ List.prefix_rfl
  | collected _ hall => exact hall ▸ List.prefix_rfl
  | @aborted _ rest e _ _ hplan =>
    rw [hplan, List.map_append, map_fst_map_true, List.prefix_append_right_inj]
    exact List.prefix_append [e] rest
  | interrupted _ hplan => exact hplan ▸ List.prefix_append _ _

/-- Who gives up at the first failure attempts nothing after it. -/
theorem pairwise (h : PhaseEnds endpoint mode op cancelled plan outcomes out)
    (hmode : mode = .failFast) : outcomes.Pairwise fun earlier _ => earlier.2 = true := by
  -- Only the last call of a phase can fail, and the run ends with that phase.
  cases h with
  | done => simp only [List.pairwise_map, List.pairwise_of_forall, implies_true]
  | collected hcollect => exact nomatch hmode.symm.trans hcollect
  | aborted =>
    -- Only the last outcome is a failure, and nothing is behind it.
    refine List.pairwise_append.mpr ⟨?_, List.pairwise_singleton .., fun x hx _ _ => ?_⟩
    · simp only [List.pairwise_map, List.pairwise_of_forall, implies_true]
    · obtain ⟨_, -, rfl⟩ := List.mem_map.mp hx
      rfl
  | interrupted _ _ hok =>
    exact List.pairwise_of_forall_mem_list fun x hx _ _ => hok hmode x hx

/-- A phase that collects failures and is not cancelled attempts everything. -/
theorem map_fst_eq (h : PhaseEnds endpoint mode op cancelled plan outcomes out)
    (hmode : mode = .collectErrors) (hc : ¬ cancelled) : outcomes.map Prod.fst = plan := by
  cases h with
  | done => exact map_fst_map_true plan
  | collected _ hall => exact hall
  | aborted hfast => exact nomatch hmode.symm.trans hfast
  | interrupted hcan => exact absurd hcan hc

/-- If it fails, then because something failed. -/
theorem failed_ne_nil (h : PhaseEnds (α := α) endpoint mode op cancelled plan outcomes (.error f))
    (hmode : mode = .collectErrors) (hc : ¬ cancelled) : failed outcomes ≠ [] := by
  cases h with
  | collected _ _ hfailed => exact hfailed
  | aborted hfast => exact nomatch hmode.symm.trans hfast
  | interrupted hcan => exact absurd hcan hc

/-- Whatever the mode, a phase fails because something in it failed or the run was cancelled. -/
theorem cause_of_error
    (h : PhaseEnds (α := α) endpoint mode op cancelled plan outcomes (.error f)) :
    cancelled ∨ ∃ e, (e, false) ∈ outcomes := by
  -- Collected failures have one that failed; otherwise an entity failed last or the run was
  -- cancelled.
  cases h with
  | collected _ _ hfailed =>
    obtain ⟨e, he⟩ := List.exists_mem_of_ne_nil _ hfailed
    obtain ⟨⟨_, ok⟩, hmem, rfl⟩ := List.mem_map.mp he
    obtain ⟨hmem, hok⟩ := List.mem_filter.mp hmem
    obtain rfl : ok = false := by simpa using hok
    exact .inr ⟨_, hmem⟩
  | @aborted _ _ e => exact .inr ⟨e, List.mem_append_right _ (List.mem_singleton_self _)⟩
  | interrupted hcan => exact .inl hcan

end PhaseEnds

/-! ## Both phases -/

namespace Proceeds

variable {endpoint : String} {o : Options} {cancelled : Prop} {deletions insertions : List Entity}
  {calls : List (Mutation × Bool)} {out : Except SyncFailure Report}

/-- A run with nothing to do sends nothing. -/
theorem eq_nil (h : Proceeds endpoint o cancelled [] [] calls out) : calls = [] := by
  cases h with
  | undeleted hends | uncreated hends =>
    rw [List.map_eq_nil_iff.mp (List.prefix_nil.mp hends.isPrefix)]
    rfl
  | done => rfl

/-- A run sends a first part of the deletions and then of the insertions. -/
theorem isPrefix (h : Proceeds endpoint o cancelled deletions insertions calls out) :
    calls.map Prod.fst <+:
      deletions.map Operation.delete.mutation ++ insertions.map Operation.create.mutation := by
  cases h with
  | undeleted hdel =>
    rw [Operation.map_fst_sent]
    exact (hdel.isPrefix.map _).trans (List.prefix_append _ _)
  | uncreated hins =>
    rw [List.map_append, Operation.map_fst_sent_map_true, Operation.map_fst_sent]
    exact (List.prefix_append_right_inj _).mpr (hins.isPrefix.map _)
  | done =>
    rw [List.map_append, Operation.map_fst_sent_map_true]
    exact (List.prefix_append_right_inj _).mpr
      (Operation.map_fst_sent_map_true _ _ ▸ List.prefix_rfl)

/-- A creation shows that all deletions succeeded. -/
theorem deletions_first (h : Proceeds endpoint o cancelled deletions insertions calls out)
    {e : Entity} {ok : Bool} (hmem : (Mutation.create e, ok) ∈ calls) :
    (deletions.map Operation.delete.mutation).map (·, true) <+: calls := by
  cases h with
  | undeleted =>
    obtain ⟨x, -, hx⟩ := List.mem_map.mp hmem
    exact nomatch congrArg Prod.fst hx
  | uncreated | done =>
    rw [Operation.sent_map_true]
    exact List.prefix_append _ _

/-- In a fail-fast run every call but the last succeeded. -/
theorem pairwise (h : Proceeds endpoint o cancelled deletions insertions calls out)
    (hmode : o.mode = .failFast) : calls.Pairwise fun earlier _ => earlier.2 = true := by
  have htrue : ∀ (plan : List Mutation), ∀ x ∈ plan.map (·, true), x.2 = true := by
    intro plan x hx
    obtain ⟨_, -, rfl⟩ := List.mem_map.mp hx
    rfl
  cases h with
  | undeleted hdel => exact List.pairwise_map.mpr (hdel.pairwise hmode)
  | uncreated hins =>
    rw [Operation.sent_map_true]
    exact List.pairwise_append.mpr ⟨List.pairwise_of_forall_mem_list fun x hx _ _ => htrue _ x hx,
      List.pairwise_map.mpr (hins.pairwise hmode), fun x hx _ _ => htrue _ x hx⟩
  | done =>
    rw [Operation.sent_map_true, Operation.sent_map_true, ← List.map_append]
    exact List.pairwise_of_forall_mem_list fun x hx _ _ => htrue _ x hx

/-- A run that collects failures and is not cancelled attempts all deletions and, unless one of
    them failed, all creations. -/
theorem attempts (h : Proceeds endpoint o cancelled deletions insertions calls out)
    (hmode : o.mode = .collectErrors) (hc : ¬ cancelled) :
    deletions.map Operation.delete.mutation <+: calls.map Prod.fst ∧
      ((deletions.map Operation.delete.mutation).map (·, true) <+: calls →
        calls.map Prod.fst =
          deletions.map Operation.delete.mutation ++
            insertions.map Operation.create.mutation) := by
  cases h with
  | @undeleted outcomes f hdel =>
    have hall := hdel.map_fst_eq hmode hc
    rw [Operation.map_fst_sent, hall]
    refine ⟨List.prefix_rfl, fun hprefix => ?_⟩
    -- All deletions were attempted, so if they all succeeded the phase could not fail.
    have hsent := hprefix.eq_of_length (by simp [Operation.sent, ← hall])
    refine absurd (failed_eq_nil_iff.mpr fun x hx => ?_) (hdel.failed_ne_nil hmode hc)
    have hmem : (Operation.delete.mutation x.1, x.2) ∈ Operation.delete.sent outcomes :=
      List.mem_map_of_mem hx
    rw [← hsent] at hmem
    obtain ⟨_, -, hx⟩ := List.mem_map.mp hmem
    exact (congrArg Prod.snd hx).symm
  | uncreated hins =>
    rw [List.map_append, Operation.map_fst_sent_map_true, Operation.map_fst_sent,
      hins.map_fst_eq hmode hc]
    exact ⟨List.prefix_append _ _, fun _ => rfl⟩
  | done =>
    rw [List.map_append, Operation.map_fst_sent_map_true, Operation.map_fst_sent_map_true]
    exact ⟨List.prefix_append _ _, fun _ => rfl⟩

/-- A run that succeeds has done all of its plans. -/
theorem success (h : Proceeds endpoint o cancelled deletions insertions calls out)
    (hok : out.isOk = true) :
    calls = (deletions.map Operation.delete.mutation ++
      insertions.map Operation.create.mutation).map (·, true) := by
  cases h with
  | undeleted | uncreated => exact nomatch hok
  | done => rw [Operation.sent_map_true, Operation.sent_map_true, List.map_append]

/-- A run that does not go through its plans was cancelled, or a call failed; and it fails. -/
theorem stops (h : Proceeds endpoint o cancelled deletions insertions calls out)
    (hshort : calls.map Prod.fst ≠
      deletions.map Operation.delete.mutation ++ insertions.map Operation.create.mutation) :
    out.isOk = false ∧ (cancelled ∨ ∃ m, (m, false) ∈ calls) := by
  have hsent : ∀ (op : Operation) {outcomes : List (Entity × Bool)},
      (∃ e, (e, false) ∈ outcomes) → ∃ m, (m, false) ∈ op.sent outcomes := fun op _ ⟨_, he⟩ =>
    ⟨_, List.mem_map_of_mem he⟩
  -- A run that is done has sent everything, so this one stopped in a phase, for that phase's
  -- reason.
  cases h with
  | undeleted hdel => exact ⟨rfl, hdel.cause_of_error.imp_right (hsent .delete)⟩
  | uncreated hins =>
    refine ⟨rfl, hins.cause_of_error.imp_right fun he => ?_⟩
    obtain ⟨m, hm⟩ := hsent .create he
    exact ⟨m, List.mem_append_right _ hm⟩
  | done =>
    rw [List.map_append, Operation.map_fst_sent_map_true, Operation.map_fst_sent_map_true] at hshort
    exact absurd rfl hshort

end Proceeds

/-! ## Runs -/

/-- The calls for the deletions, unless it is a dry run. -/
theorem Options.map_mutation_deletionPlan {o : Options} (ho : o.dryRun = false) (s d : Graph) :
    (o.deletionPlan s d).map Operation.delete.mutation = o.deletionCalls s d := by
  simp only [deletionPlan, deletionCalls, plan, ho, Bool.false_eq_true, if_false]
  split
  · rfl
  · rw [Operation.plan, List.map_flatMap]
    refine List.flatMap_congr fun k _ => List.map_congr_left fun e he => ?_
    rw [Operation.mutation, Graph.kind_of_mem_entities he]

/-- The calls for the insertions, unless it is a dry run. -/
theorem Options.map_mutation_plan {o : Options} (ho : o.dryRun = false) (s d : Graph) :
    (o.plan .create (Graph.insertions s d)).map Operation.create.mutation = creationCalls s d := by
  simp only [plan, creationCalls, ho, Bool.false_eq_true, if_false, Operation.plan,
    List.map_flatMap]
  rfl

/-- Every way in which a run can proceed follows the plan. -/
theorem Proceeds.followsPlan {endpoint : String} {o : Options} {s d : Graph} {cancelled : Prop}
    {calls : List (Mutation × Bool)} {out : Except SyncFailure Report}
    (h : Proceeds endpoint o cancelled (o.deletionPlan s d) (o.plan .create (Graph.insertions s d))
      calls out) : FollowsPlan o s d cancelled calls out := by
  by_cases hdry : o.dryRun = true
  · -- Both plans are empty.
    have hdel : o.deletionPlan s d = [] := by simp [Options.deletionPlan, Options.plan, hdry]
    have hins : o.plan .create (Graph.insertions s d) = [] := by simp [Options.plan, hdry]
    rw [hdel, hins] at h
    obtain rfl := h.eq_nil
    exact
      { in_order := List.nil_prefix
        dry_run := fun _ => rfl
        deletions_first := fun _ _ hmem => absurd hmem List.not_mem_nil
        fail_fast := fun _ => .nil
        collect_errors := fun _ hwet => absurd (hdry.symm.trans hwet) (by decide)
        success := fun hwet => absurd (hdry.symm.trans hwet) (by decide) }
  have hwet : o.dryRun = false := by simpa using hdry
  have hdel := o.map_mutation_deletionPlan hwet s d
  have hins := o.map_mutation_plan hwet s d
  exact
    { in_order := hdel ▸ hins ▸ h.isPrefix
      dry_run := fun h => absurd h hdry
      deletions_first := fun e ok hmem => hdel ▸ h.deletions_first hmem
      fail_fast := h.pairwise
      collect_errors := fun hmode _ hc => hdel ▸ hins ▸ h.attempts hmode hc
      success := fun _ hok => hdel ▸ hins ▸ h.success hok }

/-- Whatever two clients list and answer, a run between them calls only the destination for
    mutations, and the clients see exactly the calls that the run notes.  If the run cannot read
    both tenants it calls for none and fails with that failure; else its calls follow the plan. -/
theorem calls_follow_plan {σ : Type} (source destination : Client σ) (o : Options) (w : σ)
    (token : CancelToken) (clock : Clock) :
    let run := (synchronize source destination o).run (Run.start w token clock)
    let observed := (synchronize (source.observed .source) (destination.observed .destination)
      o).run (Run.start (w, []) token clock)
    run = (observed.1, observed.2.unobserved) ∧
    ∃ calls, observed.2.world.2 = calls.map (Side.destination, ·) ∧ run.2.mutations = calls ∧
      match ((snapshots source destination o).run (Run.start w token clock).tick).1 with
      | .error f => run.1 = .error f ∧ calls = []
      | .ok (s, d) => FollowsPlan o s d (run.2.token.cancelled = true) calls run.1 := by
  intro run observed
  let source' := source.observed .source
  let destination' := destination.observed .destination
  have hsame : run = (observed.1, observed.2.unobserved) :=
    synchronize_unobserved source destination o (Run.start (w, []) token clock)
  refine ⟨hsame, ?_⟩
  rw [hsame]
  have hrun : observed = (synchronize source' destination' o).run _ := rfl
  have hread' : (snapshots source destination o).run (Run.start w token clock).tick = _ :=
    snapshots_unobserved source destination o (Run.start (w, []) token clock).tick
  obtain ⟨hworld, hsent⟩ :=
    snapshots_keep source destination o (Run.start (w, []) token clock).tick
  rw [run_synchronize] at hrun
  rw [hread']
  rcases hread : (snapshots source' destination' o).run (Run.start (w, []) token clock).tick
    with ⟨f | ⟨s, d⟩, r⟩ <;> rw [hread] at hrun hworld hsent <;> rw [hrun]
  case error => exact ⟨[], hworld, hsent, rfl, rfl⟩
  case ok =>
    -- The calls are those of the trace, and these follow the plan.
    obtain ⟨calls, htrace, hcalls⟩ := carryOut_observed source destination o clock.now s d r
    obtain ⟨calls', htrace', hproceeds⟩ :=
      carryOut_proceeds source' destination' o clock.now s d r
    obtain rfl : calls' = calls := List.append_cancel_left (htrace'.symm.trans htrace)
    refine ⟨calls', hcalls.trans ?_, htrace.trans ?_, hproceeds.followsPlan⟩
    · rw [hworld]
      rfl
    · rw [hsent]
      rfl

end TenantSync
