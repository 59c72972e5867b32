import TenantSync.Proofs.Sync.Sweep

/-!
# The books of a phase

What a phase tells about itself has to agree with what it sent, whatever the client answers and
whenever the run is cancelled.  `Course` follows a phase through its plan, entity by entity, and
keeps its books on the way; `PhaseEnds` says how that can end: all succeeded, all were attempted
and the failures are reported together, the first failure ended it, or it was interrupted.

`changePhase_ends` says that every phase ends in one of these ways.
-/

namespace TenantSync

/-- The mutations that were sent for the entities of a plan, with their outcomes. -/
def Operation.sent (op : Operation) (outcomes : List (Entity × Bool)) : List (Mutation × Bool) :=
  outcomes.map fun x => (op.mutation x.1, x.2)

/-- The calls sent for two parts. -/
theorem Operation.sent_append (op : Operation) (xs ys : List (Entity × Bool)) :
    op.sent (xs ++ ys) = op.sent xs ++ op.sent ys :=
  List.map_append

/-- The failure of a mutation names the entity, what was to be done with it, and where. -/
def Operation.Blames (op : Operation) (endpoint : String) (e : Entity) (f : ChangeFailure) : Prop :=
  ∃ fault, f = ⟨op, e.kind, e.id, e.label, endpoint, fault⟩

/-- The entities whose mutation failed. -/
def failed (outcomes : List (Entity × Bool)) : List Entity :=
  (outcomes.filter fun x => !x.2).map Prod.fst

/-- Nothing failed when every outcome is a success. -/
theorem failed_eq_nil_iff {outcomes : List (Entity × Bool)} :
    failed outcomes = [] ↔ ∀ x ∈ outcomes, x.2 = true := by
  simp [failed]

/-- Entities marked as successes are still those entities. -/
theorem map_fst_map_true {α : Type} (xs : List α) : (xs.map (·, true)).map Prod.fst = xs := by
  simp only [List.map_map, Function.comp_def, List.map_id']

/-- Where nothing failed, all outcomes are successes. -/
theorem eq_map_of_failed_eq_nil {outcomes : List (Entity × Bool)} (h : failed outcomes = []) :
    outcomes = (outcomes.map Prod.fst).map (·, true) := by
  rw [failed_eq_nil_iff] at h
  rw [List.map_map]
  refine (List.map_id _).symm.trans (List.map_congr_left fun x hx => ?_)
  exact Prod.ext rfl (h x hx)

/-- How many mutations a phase has attempted and which failures it has collected. -/
structure Tally where
  attempted : Nat
  failures : List ChangeFailure

/-- What the books say, apart from the counts by kind. -/
def Pass.tally (p : Pass) : Tally := ⟨p.attempted, p.failures⟩

/-- `Course endpoint mode op cancelled plan outcomes before out`: a phase that goes through a plan
    may attempt entities with these outcomes and end with `out`, if its books said `before`.
    `cancelled` is what has to be so if the phase is interrupted. -/
inductive Course (endpoint : String) (mode : FailureMode) (op : Operation) (cancelled : Prop) :
    List Entity → List (Entity × Bool) → Tally → Except SyncFailure Tally → Prop where
  | finished (before : Tally) : Course endpoint mode op cancelled [] [] before (.ok before)
  | interrupted (e : Entity) (plan : List Entity) (before : Tally) (applied : Nat) (k : Kind)
      (hcancelled : cancelled) :
      Course endpoint mode op cancelled (e :: plan) [] before
        (.error (Failure.of (.interrupted (.ofOperation op) applied k)))
  | applied {e : Entity} {plan : List Entity} {outcomes : List (Entity × Bool)} {before : Tally}
      {out : Except SyncFailure Tally}
      (hrest : Course endpoint mode op cancelled plan outcomes
        ⟨before.attempted + 1, before.failures⟩ out) :
      Course endpoint mode op cancelled (e :: plan) ((e, true) :: outcomes) before out
  | aborted {e : Entity} {f : ChangeFailure} (plan : List Entity) (before : Tally)
      (hmode : mode = .failFast) (hf : op.Blames endpoint e f) :
      Course endpoint mode op cancelled (e :: plan) [(e, false)] before
        (.error (Failure.of (.change f)))
  | failed {e : Entity} {f : ChangeFailure} {plan : List Entity} {outcomes : List (Entity × Bool)}
      {before : Tally} {out : Except SyncFailure Tally} (hmode : mode = .collectErrors)
      (hf : op.Blames endpoint e f)
      (hrest : Course endpoint mode op cancelled plan outcomes
        ⟨before.attempted + 1, before.failures ++ [f]⟩ out) :
      Course endpoint mode op cancelled (e :: plan) ((e, false) :: outcomes) before out

namespace Course

variable {endpoint : String} {mode : FailureMode} {op : Operation} {cancelled cancelled' : Prop}
  {plan plan' : List Entity} {outcomes outcomes' : List (Entity × Bool)} {before mid after : Tally}
  {f : SyncFailure} {out : Except SyncFailure Tally}

/-- A course that came to the end of its plan can go on with another plan. -/
theorem append (h : Course endpoint mode op cancelled plan outcomes before (.ok mid))
    (h' : Course endpoint mode op cancelled' plan' outcomes' mid out) :
    Course endpoint mode op cancelled' (plan ++ plan') (outcomes ++ outcomes') before out := by
  generalize hm : Except.ok mid = out' at h
  induction h with
  | finished => cases hm; exact h'
  | interrupted => exact nomatch hm
  | applied _ ih => exact .applied (ih hm)
  | aborted => exact nomatch hm
  | failed hmode hf _ ih => exact .failed hmode hf (ih hm)

/-- Who came to the end of the plan was not interrupted. -/
theorem congr_cancelled (h : Course endpoint mode op cancelled plan outcomes before (.ok mid)) :
    Course endpoint mode op cancelled' plan outcomes before (.ok mid) := by
  simpa using h.append (.finished mid)

/-- A course that ended early says nothing about what else was planned. -/
theorem append_of_error (h : Course endpoint mode op cancelled plan outcomes before (.error f))
    (plan' : List Entity) :
    Course endpoint mode op cancelled (plan ++ plan') outcomes before (.error f) := by
  generalize hm : Except.error f = out at h ⊢
  induction h with
  | finished => exact nomatch hm
  | interrupted e plan before applied k hc => exact .interrupted e _ before applied k hc
  | applied _ ih => exact .applied (ih hm)
  | aborted plan before hmode hf => exact .aborted _ before hmode hf
  | failed hmode hf _ ih => exact .failed hmode hf (ih hm)

/-- At the end of the plan everything was attempted, and the books say so; who gives up at the
    first failure has seen none. -/
theorem of_ok (h : Course endpoint mode op cancelled plan outcomes before (.ok after)) :
    outcomes.map Prod.fst = plan ∧ after.attempted = before.attempted + plan.length ∧
      (mode = .failFast → ∀ x ∈ outcomes, x.2 = true) ∧
      ∃ fs, after.failures = before.failures ++ fs ∧
        List.Forall₂ (op.Blames endpoint) (TenantSync.failed outcomes) fs := by
  generalize hm : Except.ok after = out at h
  -- A course that is interrupted or aborted does not succeed.
  induction h with
  | finished =>
    cases hm
    exact ⟨rfl, rfl, nofun, [], (List.append_nil _).symm, .nil⟩
  | interrupted => exact nomatch hm
  | applied _ ih =>
    obtain ⟨rfl, hatt, hok, fs, hfs, hblame⟩ := ih hm
    refine ⟨rfl, by simp only [hatt, List.length_cons]; omega, fun hmode => ?_, fs, hfs, hblame⟩
    exact List.forall_mem_cons.mpr ⟨rfl, hok hmode⟩
  | aborted => exact nomatch hm
  | failed hmode hf _ ih =>
    obtain ⟨rfl, hatt, -, fs, hfs, hblame⟩ := ih hm
    refine ⟨rfl, by simp only [hatt, List.length_cons]; omega, fun hfast => ?_, _, ?_, .cons hf hblame⟩
    · rw [hmode] at hfast
      exact nomatch hfast
    · rw [hfs, List.append_assoc]
      rfl

/-- Short of the end of the plan, the course was interrupted or gave up at a failure. -/
theorem of_error (h : Course endpoint mode op cancelled plan outcomes before (.error f)) :
    (cancelled ∧ (∃ e rest, plan = outcomes.map Prod.fst ++ e :: rest) ∧
        (mode = .failFast → ∀ x ∈ outcomes, x.2 = true) ∧
        ∃ applied k, f = Failure.of (.interrupted (.ofOperation op) applied k)) ∨
      (mode = .failFast ∧ ∃ done e rest cause, plan = done ++ e :: rest ∧
        outcomes = done.map (·, true) ++ [(e, false)] ∧ op.Blames endpoint e cause ∧
        f = Failure.of (.change cause)) := by
  generalize hm : Except.error f = out at h
  induction h with
  | finished => exact nomatch hm
  | interrupted e plan before applied k hc =>
    cases hm
    exact .inl ⟨hc, ⟨e, plan, rfl⟩, nofun, applied, k, rfl⟩
  | applied _ ih =>
    refine (ih hm).imp ?_ ?_
    · rintro ⟨hc, ⟨e, rest, rfl⟩, hok, hf⟩
      exact ⟨hc, ⟨e, rest, rfl⟩, fun hmode => List.forall_mem_cons.mpr ⟨rfl, hok hmode⟩, hf⟩
    · rintro ⟨hmode, done, e', rest, cause, rfl, rfl, hf⟩
      exact ⟨hmode, _ :: done, e', rest, cause, rfl, rfl, hf⟩
  | aborted plan before hmode hf =>
    cases hm
    exact .inr ⟨hmode, [], _, plan, _, rfl, rfl, hf, rfl⟩
  | failed hmode hf _ ih =>
    -- Who collects failures does not give up at one.
    rcases ih hm with ⟨hc, ⟨e, rest, rfl⟩, -, hf'⟩ | ⟨hfast, -⟩
    · exact .inl ⟨hc, ⟨e, rest, rfl⟩, fun hfast => (nomatch hmode.symm.trans hfast), hf'⟩
    · exact nomatch hmode.symm.trans hfast

end Course

/-! ## How a phase ends -/

/-- `PhaseEnds endpoint mode op cancelled plan outcomes out`: a phase with this plan may attempt
    entities with these outcomes and return `out`. -/
inductive PhaseEnds {α : Type} (endpoint : String) (mode : FailureMode) (op : Operation)
    (cancelled : Prop) (plan : List Entity) :
    List (Entity × Bool) → Except SyncFailure α → Prop where
  /-- All of the plan succeeded. -/
  | done (x : α) : PhaseEnds endpoint mode op cancelled plan (plan.map (·, true)) (.ok x)
  /-- All of the plan was attempted, and the failures are reported together. -/
  | collected {outcomes : List (Entity × Bool)} {fs : List ChangeFailure}
      (hmode : mode = .collectErrors) (hall : outcomes.map Prod.fst = plan)
      (hfailed : failed outcomes ≠ [])
      (hfs : List.Forall₂ (op.Blames endpoint) (failed outcomes) fs) :
      PhaseEnds endpoint mode op cancelled plan outcomes
        (.error ⟨[.applying op endpoint], .changes op plan.length fs⟩)
  /-- The first failure ended the phase. -/
  | aborted {succeeded rest : List Entity} {e : Entity} {f : ChangeFailure}
      (hmode : mode = .failFast) (hplan : plan = succeeded ++ e :: rest)
      (hf : op.Blames endpoint e f) :
      PhaseEnds endpoint mode op cancelled plan (succeeded.map (·, true) ++ [(e, false)])
        (.error ⟨[.applying op endpoint], .change f⟩)
  /-- The run was found cancelled before the end of the plan. -/
  | interrupted {outcomes : List (Entity × Bool)} {e : Entity} {rest : List Entity}
      (hcancelled : cancelled) (hplan : plan = outcomes.map Prod.fst ++ e :: rest)
      (hmode : mode = .failFast → ∀ x ∈ outcomes, x.2 = true) (applied : Nat) (k : Kind) :
      PhaseEnds endpoint mode op cancelled plan outcomes
        (.error ⟨[.applying op endpoint], .interrupted (.ofOperation op) applied k⟩)

/-- Another result says nothing else about how a phase ended. -/
theorem PhaseEnds.map {α β : Type} {endpoint : String} {mode : FailureMode} {op : Operation}
    {cancelled : Prop} {plan : List Entity} {outcomes : List (Entity × Bool)}
    {out : Except SyncFailure α} (h : PhaseEnds endpoint mode op cancelled plan outcomes out)
    (g : α → β) : PhaseEnds endpoint mode op cancelled plan outcomes (out.map g) := by
  cases h with
  | done x => exact .done (g x)
  | collected hmode hall hfailed hfs => exact .collected hmode hall hfailed hfs
  | aborted hmode hplan hf => exact .aborted hmode hplan hf
  | interrupted hc hplan hmode applied k => exact .interrupted hc hplan hmode applied k

/-- The entities that a phase goes through; none in a dry run. -/
def Options.plan (o : Options) (op : Operation) (changes : Graph) : List Entity :=
  if o.dryRun then [] else op.plan changes

/-- The entities that the deletion phase goes through; none if the run only inserts. -/
def Options.deletionPlan (o : Options) (s d : Graph) : List Entity :=
  if o.insertOnly then [] else o.plan .delete (Graph.deletions s d)

section
variable {σ : Type} (c : Client σ) (mode : FailureMode) (op : Operation)

/-- The entities of a kind take a course, and what is noted of it is what was sent. -/
theorem applyEntities_course (k : Kind) (total : Nat) (es : List Entity) (hk : ∀ e ∈ es, e.kind = k)
    (applied : Nat) (pass : Pass) (r : Run σ) :
    ∃ outcomes,
      ((applyEntities c mode op k total es applied pass).run r).2.mutations =
        r.mutations ++ op.sent outcomes ∧
      Course c.endpoint mode op
        (((applyEntities c mode op k total es applied pass).run r).2.token.cancelled = true)
        es outcomes pass.tally
        (((applyEntities c mode op k total es applied pass).run r).1.map fun x => x.2.tally) := by
  obtain ⟨out, r', hrun, h⟩ := applyEntities_applies c mode op k total es applied pass r
  simp only [hrun]
  clear hrun
  -- By induction on the loop, which names what each entity comes to.
  induction h with
  | finished => exact ⟨[], by simp [Operation.sent], .finished _⟩
  | interrupted hcancelled =>
    exact ⟨[], by simp [Operation.sent], .interrupted _ _ _ _ _ hcancelled⟩
  | @applied e es applied pass r r' s out _ _ _ ih =>
    obtain ⟨outcomes, hsent, hcourse⟩ := ih (List.forall_mem_cons.mp hk).2
    exact ⟨(e, true) :: outcomes, by simp [hsent, Operation.sent], .applied hcourse⟩
  | @aborted e es applied pass r s fault hmode =>
    obtain rfl := (List.forall_mem_cons.mp hk).1
    exact ⟨[(e, false)], by simp [Operation.sent], .aborted _ _ hmode ⟨fault, rfl⟩⟩
  | @failed e es applied pass r r' s fault out hmode _ _ _ ih =>
    obtain ⟨rfl, hk⟩ := List.forall_mem_cons.mp hk
    obtain ⟨outcomes, hsent, hcourse⟩ := ih hk
    exact ⟨(e, false) :: outcomes, by simp [hsent, Operation.sent],
      .failed hmode ⟨fault, rfl⟩ hcourse⟩

/-- The course of a kind. -/
theorem applyKind_course (changes : Graph) (k : Kind) (pass : Pass) (r : Run σ) :
    ∃ outcomes,
      ((applyKind c mode op changes k pass).run r).2.mutations = r.mutations ++ op.sent outcomes ∧
      Course c.endpoint mode op
        (((applyKind c mode op changes k pass).run r).2.token.cancelled = true)
        (changes.entities k) outcomes pass.tally
        (((applyKind c mode op changes k pass).run r).1.map Pass.tally) := by
  simp only [applyKind]
  by_cases hempty : (changes.entities k).isEmpty = true
  · simp only [hempty, if_true]
    rw [List.isEmpty_iff.mp hempty]
    exact ⟨[], by simp [Operation.sent], .finished _⟩
  simp only [hempty, Bool.false_eq_true, if_false, SyncM.run_bind, SyncM.run_emit]
  obtain ⟨outcomes, hsent, hcourse⟩ := applyEntities_course c mode op k
    (changes.entities k).length (changes.entities k) (fun e he => Graph.kind_of_mem_entities he) 0
    pass (r.tell (.kindStarted (.ofOperation op) k (changes.entities k).length))
  refine ⟨outcomes, ?_⟩
  -- The events around the entities are no mutations, and the counts by kind are not in the tally.
  rcases hrun : (applyEntities c mode op k (changes.entities k).length (changes.entities k) 0
    pass).run _ with ⟨f | ⟨applied, after⟩, r'⟩ <;> rw [hrun] at hsent hcourse
  · exact ⟨by simpa using hsent, hcourse⟩
  · refine ⟨by simpa using hsent, ?_⟩
    exact Course.congr_cancelled hcourse

/-- The course of several kinds, by induction on them. -/
theorem applyKinds_course (changes : Graph) (ks : List Kind) (pass : Pass) (r : Run σ) :
    ∃ outcomes,
      ((applyKinds c mode op changes ks pass).run r).2.mutations =
        r.mutations ++ op.sent outcomes ∧
      Course c.endpoint mode op
        (((applyKinds c mode op changes ks pass).run r).2.token.cancelled = true)
        (ks.flatMap changes.entities) outcomes pass.tally
        (((applyKinds c mode op changes ks pass).run r).1.map Pass.tally) := by
  induction ks generalizing pass r with
  | nil => exact ⟨[], by simp [applyKinds, Operation.sent], .finished _⟩
  | cons k ks ih =>
    obtain ⟨outcomes, hsent, hcourse⟩ := applyKind_course c mode op changes k pass r
    simp only [applyKinds, SyncM.run_bind, List.flatMap_cons]
    rcases hrun : (applyKind c mode op changes k pass).run r with ⟨f | mid, r'⟩ <;>
      rw [hrun] at hsent hcourse
    -- => A kind that stops leaves the rest of the plan behind.
    case error => exact ⟨outcomes, hsent, hcourse.append_of_error _⟩
    case ok =>
      obtain ⟨outcomes', hsent', hcourse'⟩ := ih mid r'
      refine ⟨outcomes ++ outcomes', ?_, Course.append hcourse hcourse'⟩
      rw [hsent', hsent, List.append_assoc, op.sent_append]

/-- A set of changes is applied in one of the ways in which phases end. -/
theorem applyChanges_ends (changes : Graph) (r : Run σ) :
    ∃ outcomes,
      ((applyChanges c mode op changes).run r).2.mutations = r.mutations ++ op.sent outcomes ∧
      PhaseEnds c.endpoint mode op
        (((applyChanges c mode op changes).run r).2.token.cancelled = true) (op.plan changes)
        outcomes ((SyncM.within (.applying op c.endpoint) (applyChanges c mode op changes)).run r).1 := by
  obtain ⟨outcomes, hsent, hcourse⟩ := applyKinds_course c mode op changes op.order {} r
  refine ⟨outcomes, ?_⟩
  simp only [applyChanges, SyncM.run_within, SyncM.run_bind]
  rcases hrun : (applyKinds c mode op changes op.order {}).run r with ⟨f | after, r'⟩ <;>
    rw [hrun] at hsent hcourse
  case error =>
    refine ⟨hsent, ?_⟩
    rcases hcourse.of_error with ⟨hc, ⟨e, rest, hplan⟩, hok, n, k, rfl⟩ |
      ⟨hmode, done, e, rest, cause, hplan, rfl, hf, rfl⟩
    · exact .interrupted hc hplan hok n k
    · exact .aborted hmode hplan hf
  case ok =>
    -- At the end of the plan the books decide: without failures there is a result.
    obtain ⟨hall, hattempted, hfast, fs, hfs, hblames⟩ := hcourse.of_ok
    replace hattempted : after.attempted = (op.plan changes).length :=
      hattempted.trans (Nat.zero_add _)
    replace hfs : after.failures = fs := hfs
    subst hfs
    by_cases hnil : after.failures = []
    · simp only [hnil, List.isEmpty_nil, if_true, SyncM.run_pure]
      rw [hnil, List.forall₂_nil_right_iff] at hblames
      have hout := eq_map_of_failed_eq_nil hblames
      rw [hall] at hout
      rw [hout] at hsent ⊢
      exact ⟨hsent, .done _⟩
    · simp only [List.isEmpty_iff, hnil, if_false, SyncM.run_throw]
      have hfailed : failed outcomes ≠ [] := by
        intro h
        rw [h, List.forall₂_nil_left_iff] at hblames
        exact hnil hblames
      refine ⟨hsent, ?_⟩
      rw [hattempted]
      cases mode with
      | failFast => exact absurd (failed_eq_nil_iff.mpr (hfast rfl)) hfailed
      | collectErrors => exact .collected rfl hall hfailed hblames

end

variable {σ : Type}

/-- A phase ends in one of these ways, whatever client it changes. -/
theorem changePhase_ends (c : Client σ) (o : Options) (op : Operation) (idle : String)
    (changes : Graph) (r : Run σ) :
    ∃ outcomes,
      ((changePhase c o op idle changes).run r).2.mutations = r.mutations ++ op.sent outcomes ∧
      PhaseEnds c.endpoint o.mode op
        (((changePhase c o op idle changes).run r).2.token.cancelled = true) (o.plan op changes)
        outcomes ((changePhase c o op idle changes).run r).1 := by
  simp only [changePhase, Options.plan, SyncM.run_bind, SyncM.run_emit]
  -- Dry runs and phases without changes have an empty plan, which is done.
  by_cases hdry : o.dryRun = true
  · simp only [hdry, if_true, SyncM.run_bind, SyncM.run_emit, SyncM.run_pure]
    exact ⟨[], by simp [Operation.sent], .done _⟩
  simp only [hdry, Bool.false_eq_true, if_false]
  by_cases hempty : changes.isEmpty = true
  · simp only [hempty, if_true, List.map_eq_nil_iff.mp (mutations_eq_nil_of_isEmpty hempty),
      SyncM.run_bind, SyncM.run_emit, SyncM.run_pure]
    exact ⟨[], by simp [Operation.sent], .done _⟩
  simp only [hempty, Bool.false_eq_true, if_false, SyncM.run_bind]
  obtain ⟨outcomes, hsent, hends⟩ := applyChanges_ends c o.mode op changes
    ((r.tell (.phaseStarted (.ofOperation op) c.endpoint)).tell
      (.changesComputed (.ofOperation op) changes.counts))
  refine ⟨outcomes, ?_⟩
  simp only [Run.tell_mutations] at hsent
  have hends := hends.map fun applied => (changes.counts, applied)
  rw [SyncM.run_within] at hends ⊢
  rcases hrun : (applyChanges c o.mode op changes).run _ with ⟨f | applied, r'⟩ <;>
    rw [hrun] at hsent hends <;> exact ⟨hsent, hends⟩

/-- So does the deletion phase, which an insert-only run passes over. -/
theorem deletionPhase_ends (c : Client σ) (o : Options) (s d : Graph) (r : Run σ) :
    ∃ outcomes,
      ((deletionPhase c o s d).run r).2.mutations =
        r.mutations ++ Operation.delete.sent outcomes ∧
      PhaseEnds c.endpoint o.mode .delete
        (((deletionPhase c o s d).run r).2.token.cancelled = true) (o.deletionPlan s d) outcomes
        ((deletionPhase c o s d).run r).1 := by
  simp only [deletionPhase, Options.deletionPlan]
  -- An insert-only run does not enter the phase.
  by_cases hins : o.insertOnly = true
  · simp only [hins, if_true]
    exact ⟨[], by simp [Operation.sent], .done _⟩
  simp only [hins, Bool.false_eq_true, if_false, SyncM.run_bind]
  obtain ⟨outcomes, hsent, hends⟩ :=
    changePhase_ends c o .delete "nothing to delete" (Graph.deletions s d) r
  refine ⟨outcomes, ?_⟩
  have hends := hends.map fun x => (some x.1, x.2)
  rcases hrun : (changePhase c o .delete "nothing to delete" (Graph.deletions s d)).run r
    with ⟨f | x, r'⟩ <;> rw [hrun] at hsent hends
  · exact ⟨hsent, hends⟩
  · exact ⟨hsent, hends⟩

end TenantSync
