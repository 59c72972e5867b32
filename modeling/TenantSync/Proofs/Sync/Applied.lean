import TenantSync.Proofs.Sync.Narration

/-!
# What is told was done

The observer of a run hears of entities that were applied, and the run notes the mutations that
succeeded.  `Applied` says that both are about the same entities of a plan, in the same order.  It
holds of every part of a story, and so `Story.exists_applied` divides what a run says it applied into
deletions and creations, each a part of what was planned; if the run returned a report, they are
the plans themselves.
-/

namespace TenantSync

/-- What is told when an operation was applied to an entity. -/
def Operation.told (op : Operation) (e : Entity) : Event :=
  .entityApplied (.ofOperation op) e.kind e.label

/-- The successes of two parts. -/
theorem successes_append (sent sent' : List (Mutation × Bool)) :
    successes (sent ++ sent') = successes sent ++ successes sent' := by
  rw [successes, List.filter_append, List.map_append, successes, successes]

/-- A completed sweep that can be cut in two is completed in both parts, the first one to its end.
    -/
theorem Complete.of_append {sent sent' : List (Mutation × Bool)} {e : Ending}
    (h : Complete (sent ++ sent') e) : Complete sent .finished ∧ Complete sent' e :=
  ⟨⟨rfl, fun x hx => h.2 x (List.mem_append_left _ hx)⟩,
    ⟨h.1, fun x hx => h.2 x (List.mem_append_right _ hx)⟩⟩

/-- `Applied op plan events sent e es`: of a plan, the entities `es` were applied; these are told,
    and their mutations are those that succeeded.  Unless something failed, they are all. -/
structure Applied (op : Operation) (plan : List Entity) (events : List Event)
    (sent : List (Mutation × Bool)) (e : Ending) (es : List Entity) : Prop where
  planned : es.Sublist plan
  told : events.filter Event.isApplied = es.map op.told
  done : successes sent = es.map op.mutation
  whole : Complete sent e → es = plan

namespace Applied

variable {op : Operation} {plan plan' es es' : List Entity} {events events' : List Event}
  {sent sent' : List (Mutation × Bool)} {e : Ending}

/-- A sweep without a plan applies nothing. -/
theorem nil : Applied op [] [] [] .finished [] := ⟨.slnil, rfl, rfl, fun _ => rfl⟩

/-- A sweep continued by another applies what both do. -/
theorem append (h : Applied op plan events sent .finished es)
    (h' : Applied op plan' events' sent' e es') :
    Applied op (plan ++ plan') (events ++ events') (sent ++ sent') e (es ++ es') where
  planned := h.planned.append h'.planned
  told := by rw [List.filter_append, h.told, h'.told, List.map_append]
  done := by rw [successes_append, h.done, h'.done, List.map_append]
  whole hc := by rw [h.whole hc.of_append.1, h'.whole hc.of_append.2]

/-- What ends early says nothing about what else was planned. -/
theorem append_of_ne (h : Applied op plan events sent e es) (he : e ≠ .finished)
    (plan' : List Entity) : Applied op (plan ++ plan') events sent e es :=
  ⟨h.planned.trans (List.sublist_append_left ..), h.told, h.done, fun hc => absurd hc.1 he⟩

/-- Other events around it do not matter. -/
theorem congr (h : Applied op plan events sent e es)
    (hevents : events'.filter Event.isApplied = events.filter Event.isApplied) :
    Applied op plan events' sent e es :=
  { h with told := hevents.trans h.told }

end Applied

section
variable {o : Options} {mode : FailureMode} {op : Operation} {changes s d : Graph} {e : Ending}
  {events : List Event} {sent : List (Mutation × Bool)}

/-- The entities of a kind that were attempted with success were applied. -/
theorem Attempts.exists_applied {k : Kind} {plan : List Entity} {attempts : List Attempt}
    (h : Attempts mode plan attempts e) (hk : ∀ x ∈ plan, x.kind = k) :
    ∃ es, Applied op plan (recount (.ofOperation op) k attempts) (attempts.map (·.call op)) e es := by
  induction h with
  | finished => exact ⟨[], .nil⟩
  | interrupted x plan => exact ⟨[], List.nil_sublist _, rfl, rfl, fun hc => nomatch hc.1⟩
  | @applied x plan attempts e _ ih =>
    obtain ⟨rfl, hk⟩ := List.forall_mem_cons.mp hk
    obtain ⟨es, hes⟩ := ih hk
    refine ⟨x :: es, hes.planned.cons_cons x, ?_, ?_, fun hc => ?_⟩
    · exact congrArg (List.cons _) hes.told
    · exact congrArg (List.cons _) hes.done
    · exact congrArg (List.cons x) (hes.whole ⟨hc.1, fun y hy => hc.2 y (.tail _ hy)⟩)
  | aborted x plan fault => exact ⟨[], List.nil_sublist _, rfl, rfl, fun hc => nomatch hc.1⟩
  | @failed x plan attempts e fault _ _ ih =>
    -- One failure, and the attempts are not complete.
    obtain ⟨es, hes⟩ := ih (List.forall_mem_cons.mp hk).2
    exact ⟨es, hes.planned.cons x, hes.told, hes.done,
      fun hc => absurd (hc.2 _ List.mem_cons_self) Bool.false_ne_true⟩

/-- The first and the last word of a block are not about entities. -/
theorem filter_block (k : Kind) (planned : Nat) (attempts : List Attempt) :
    (block op k planned attempts e).filter Event.isApplied =
      (recount (.ofOperation op) k attempts).filter Event.isApplied := by
  rw [block, List.cons_append, List.filter_cons_of_neg Bool.false_ne_true, List.filter_append]
  split <;> simp [Event.isApplied]

/-- What a sweep over the kinds tells is what it applied. -/
theorem Blocks.exists_applied {ks : List Kind} (h : Blocks mode op changes ks events sent e) :
    ∃ es, Applied op (ks.flatMap changes.entities) events sent e es := by
  -- By induction on the blocks; kinds without changes are silent, and a block that stops ends the
  -- sweep.
  induction h with
  | nil => exact ⟨[], .nil⟩
  | silent hempty _ ih => rwa [List.flatMap_cons, hempty, List.nil_append]
  | told _ hall _ ih =>
    obtain ⟨es, hes⟩ := hall.exists_applied fun x hx => Graph.kind_of_mem_entities hx
    obtain ⟨es', hes'⟩ := ih
    exact ⟨es ++ es', (hes.congr (filter_block ..)).append hes'⟩
  | last _ hsome he =>
    obtain ⟨es, hes⟩ := hsome.exists_applied fun x hx => Graph.kind_of_mem_entities hx
    exact ⟨es, (hes.congr (filter_block ..)).append_of_ne he _⟩

/-- What a phase tells is what it applied. -/
theorem PhaseStory.exists_applied {idle endpoint : String}
    (h : PhaseStory o op idle endpoint changes events sent e) :
    ∃ es, Applied op (o.plan op changes) events sent e es := by
  cases h with
  | dry hdry =>
    rw [Options.plan, if_pos hdry]
    exact ⟨[], Applied.nil.congr rfl⟩
  | idle hdry hempty =>
    have hplan : op.plan changes = [] := List.map_eq_nil_iff.mp (mutations_eq_nil_of_isEmpty hempty)
    rw [Options.plan, hplan, ite_self]
    exact ⟨[], Applied.nil.congr rfl⟩
  | told hdry _ hblocks =>
    rw [Options.plan, if_neg (by simp [hdry])]
    -- The story goes through the kinds in the phase's order, the plan in the operation's.
    rw [← op.order_eq_phase_order] at hblocks
    obtain ⟨es, hes⟩ := hblocks.exists_applied
    exact ⟨es, hes.congr (List.filter_append ..)⟩

/-- What the deletions tell is what they applied. -/
theorem DeletionStory.exists_applied {endpoint : String}
    (h : DeletionStory o endpoint s d events sent e) :
    ∃ es, Applied .delete (o.deletionPlan s d) events sent e es := by
  rw [DeletionStory] at h
  rw [Options.deletionPlan]
  -- An insert-only run has neither deletions to plan nor any to tell of.
  split at h
  · obtain ⟨rfl, rfl, rfl⟩ := h
    rw [if_pos ‹_›]
    exact ⟨[], .nil⟩
  · rw [if_neg ‹_›]
    exact h.exists_applied

/-- Fetching tells of nothing applied. -/
theorem filter_fetched (g : Graph) (ks : List Kind) :
    (g.fetched ks).filter Event.isApplied = [] := by
  simp [Graph.fetched, Event.isApplied]

/-- The reading of both sides tells of nothing applied. -/
theorem filter_readings (s d : Site) : (readings s d).filter Event.isApplied = [] := by
  simp [readings, filter_fetched, Event.isApplied]

/-- What a story says was applied are deletions and then creations, each of them planned.  A story
    with a report says that all of them were. -/
theorem Story.exists_applied {s d : Site} {cancelled : Prop} {out : Except SyncFailure Report}
    (h : Story s d o cancelled events sent out) :
    ∃ deleted created : List Entity,
      deleted.Sublist (o.deletionPlan s.graph d.graph) ∧
      created.Sublist (o.plan .create (Graph.insertions s.graph d.graph)) ∧
      events.filter Event.isApplied =
        deleted.map Operation.delete.told ++ created.map Operation.create.told ∧
      successes sent =
        deleted.map Operation.delete.mutation ++ created.map Operation.create.mutation ∧
      (out.isOk = true → deleted = o.deletionPlan s.graph d.graph ∧
        created = o.plan .create (Graph.insertions s.graph d.graph)) := by
  -- Where the story breaks off says how far the two plans were carried out.
  cases h with
  | sourceUnread hunread | destinationUnread hunread =>
    obtain ⟨ks, _, _, -, rfl, -⟩ := hunread
    refine ⟨[], [], List.nil_sublist _, List.nil_sublist _, ?_, rfl, nofun⟩
    simp [filter_fetched, Event.isApplied]
  | undeleted f hdel =>
    obtain ⟨es, hes⟩ := hdel.exists_applied
    refine ⟨es, [], hes.planned, List.nil_sublist _, ?_, ?_, nofun⟩
    · simp [filter_readings, hes.told]
    · simp [hes.done]
  | uncreated f hdel _ hins =>
    obtain ⟨es, hes⟩ := hdel.exists_applied
    obtain ⟨es', hes'⟩ := hins.exists_applied
    refine ⟨es, es', hes.planned, hes'.planned, ?_, ?_, nofun⟩
    · simp [filter_readings, hes.told, hes'.told]
    · rw [successes_append, hes.done, hes'.done]
  | finished report hdel hc hins hc' =>
    obtain ⟨es, hes⟩ := hdel.exists_applied
    obtain ⟨es', hes'⟩ := hins.exists_applied
    refine ⟨es, es', hes.planned, hes'.planned, ?_, ?_, fun _ => ⟨hes.whole hc, hes'.whole hc'⟩⟩
    · simp [filter_readings, hes.told, hes'.told, Event.isApplied]
    · rw [successes_append, hes.done, hes'.done]

end

/-! ## Counting -/

/-- Whether an event says that an operation was applied to an entity of a kind. -/
def Event.tellsOf (op : Operation) (k : Kind) : Event → Bool
  | .entityApplied phase j _ => phase = .ofOperation op ∧ j = k
  | _ => false

/-- How many entities of a kind an operation was applied to, by what was told. -/
def appliedCount (op : Operation) (k : Kind) (events : List Event) : Nat :=
  events.countP (Event.tellsOf op k)

/-- The other events do not count. -/
theorem appliedCount_filter (op : Operation) (k : Kind) (events : List Event) :
    appliedCount op k (events.filter Event.isApplied) = appliedCount op k events := by
  rw [appliedCount, List.countP_filter]
  refine List.countP_congr fun ev _ => ?_
  cases ev <;> simp [Event.tellsOf, Event.isApplied]

/-- The entities told of in the events of their own operation are counted by kind. -/
theorem appliedCount_map_told (op op' : Operation) (k : Kind) (es : List Entity) :
    appliedCount op k (es.map op'.told) =
      if op' = op then (es.filter fun x => x.kind = k).length else 0 := by
  rw [appliedCount, List.countP_map, ← List.countP_eq_length_filter]
  have hphase : Phase.ofOperation op' = .ofOperation op ↔ op' = op := by
    cases op <;> cases op' <;> decide
  split
  case isTrue h => exact List.countP_congr fun x _ => by simp [Operation.told, Event.tellsOf, h]
  case isFalse h =>
    exact List.countP_eq_zero.mpr fun x _ => by simp [Operation.told, Event.tellsOf, hphase, h]

end TenantSync
