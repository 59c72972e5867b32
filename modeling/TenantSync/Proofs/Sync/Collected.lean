import TenantSync.Proofs.Sync.Narration
import TenantSync.Tenant.Basic

/-!
# What becomes of collected failures

In the mode that collects failures, a phase goes on after a mutation failed and fails in the end
with all failures together.  `Collects` follows such a phase from attempt to attempt and keeps what
the client answered, what was noted and what the books hold.  A phase that is found cancelled has
another way out, on which nobody looks at the books: it fails with the interruption alone.

So all failures are reported exactly if the phase came to the end of its plan
(`collected_failures_reported_iff`).
-/

namespace TenantSync

/-- What the client answered. -/
def Attempt.answer (a : Attempt) : Except Fault Unit :=
  match a.fault? with
  | none => .ok ()
  | some fault => .error fault

/-- The failures among some attempts, in order. -/
def Operation.failures (op : Operation) (endpoint : String) (attempts : List Attempt) :
    List ChangeFailure :=
  attempts.filterMap fun a => a.fault?.map fun fault =>
    ⟨op, a.entity.kind, a.entity.id, a.entity.label, endpoint, fault⟩

/-- The failures of two parts. -/
theorem Operation.failures_append (op : Operation) (endpoint : String)
    (attempts attempts' : List Attempt) :
    op.failures endpoint (attempts ++ attempts') =
      op.failures endpoint attempts ++ op.failures endpoint attempts' :=
  List.filterMap_append

/-- The failed mutations that the failure of a phase reports. -/
def SyncCause.failures : SyncCause → List ChangeFailure
  | .change f => [f]
  | .changes _ _ fs => fs
  | .call _ | .interrupted .. => []

section
variable {σ : Type}

/-- `Answered c op attempts w w'`: the client was asked for one entity after the other, from the
    world `w` on, gave these answers and left the world `w'`. -/
inductive Answered (c : Client σ) (op : Operation) : List Attempt → σ → σ → Prop where
  | nil (w : σ) : Answered c op [] w w
  | cons {a : Attempt} {attempts : List Attempt} {s s' : Session σ} {w : σ}
      (hcall : (c.mutate (op.mutation a.entity)).run s = (a.answer, s'))
      (hrest : Answered c op attempts s'.world w) : Answered c op (a :: attempts) s.world w

/-- Answers to one list of attempts followed by answers to another. -/
theorem Answered.append {c : Client σ} {op : Operation} {attempts attempts' : List Attempt}
    {w w' w'' : σ} (h : Answered c op attempts w w') (h' : Answered c op attempts' w' w'') :
    Answered c op (attempts ++ attempts') w w'' := by
  induction h with
  | nil => exact h'
  | cons hcall _ ih => exact .cons hcall (ih h')

/-- A stretch of a phase that collects failures: what it attempted of a plan, how the client
    answered, and what came of the books.  At the end of the plan they hold every failure; short of
    it the phase was found cancelled and fails with nothing but that. -/
structure Collects (c : Client σ) (op : Operation) (plan : List Entity) (attempts : List Attempt)
    (before : Tally) (r : Run σ) (out : Except SyncFailure Tally) (r' : Run σ) : Prop where
  answered : Answered c op attempts r.world r'.world
  mutations : r'.mutations = r.mutations ++ attempts.map (·.call op)
  ends : match out with
    | .ok after => attempts.map Attempt.entity = plan ∧
        after = ⟨before.attempted + attempts.length,
          before.failures ++ op.failures c.endpoint attempts⟩
    | .error f => (∃ e rest, plan = attempts.map Attempt.entity ++ e :: rest) ∧
        r'.token.cancelled = true ∧
        ∃ applied k, f = Failure.of (.interrupted (.ofOperation op) applied k)

namespace Collects

variable {c : Client σ} {op : Operation} {plan plan' : List Entity}
  {attempts attempts' : List Attempt} {before mid : Tally} {r q r' r'' : Run σ} {f : SyncFailure}
  {out : Except SyncFailure Tally}

/-- A sweep over nothing collects nothing. -/
theorem refl (before : Tally) (r : Run σ) : Collects c op [] [] before r (.ok before) r :=
  ⟨.nil _, by simp, rfl, by simp [Operation.failures]⟩

/-- An attempt, and then the rest of the plan. -/
theorem cons {a : Attempt} {s : Session σ}
    (hcall : (c.mutate (op.mutation a.entity)).run r.look.session = (a.answer, s))
    (hworld : q.world = s.world) (hnoted : q.mutations = r.mutations ++ [a.call op])
    (h : Collects c op plan attempts
      ⟨before.attempted + 1, before.failures ++ op.failures c.endpoint [a]⟩ q out r') :
    Collects c op (a.entity :: plan) (a :: attempts) before r out r' where
  answered := .cons hcall (hworld ▸ h.answered)
  mutations := by rw [h.mutations, hnoted, List.append_assoc]; rfl
  ends := by
    -- Its failure, if any, comes before those of the sweep that follows.
    cases out with
    | ok after =>
      obtain ⟨rfl, rfl⟩ := h.ends
      refine ⟨rfl, ?_⟩
      rw [List.append_assoc, ← op.failures_append, List.length_cons, Nat.add_assoc, Nat.add_comm 1]
      rfl
    | error f =>
      obtain ⟨⟨e, rest, rfl⟩, hf⟩ := h.ends
      exact ⟨⟨e, rest, rfl⟩, hf⟩

/-- A sweep continued by another collects the failures of both. -/
theorem append (h : Collects c op plan attempts before r (.ok mid) r')
    (h' : Collects c op plan' attempts' mid r' out r'') :
    Collects c op (plan ++ plan') (attempts ++ attempts') before r out r'' where
  answered := h.answered.append h'.answered
  mutations := by rw [h'.mutations, h.mutations, List.append_assoc, List.map_append]
  ends := by
    obtain ⟨rfl, rfl⟩ := h.ends
    -- A sweep that breaks off in its second part breaks off in the whole.
    cases out with
    | ok after =>
      obtain ⟨rfl, rfl⟩ := h'.ends
      refine ⟨List.map_append, ?_⟩
      rw [op.failures_append, List.length_append, List.append_assoc, Nat.add_assoc]
    | error f =>
      obtain ⟨⟨e, rest, rfl⟩, hf⟩ := h'.ends
      exact ⟨⟨e, rest, by rw [List.map_append, List.append_assoc]⟩, hf⟩

/-- A phase that was found cancelled says nothing about what else was planned. -/
theorem append_of_error (h : Collects c op plan attempts before r (.error f) r')
    (plan' : List Entity) :
    Collects c op (plan ++ plan') attempts before r (.error f) r' := by
  obtain ⟨⟨e, rest, rfl⟩, hf⟩ := h.ends
  exact ⟨h.answered, h.mutations, ⟨e, rest ++ plan', List.append_assoc ..⟩, hf⟩

end Collects

variable (c : Client σ) (op : Operation)

/-- The loop over a kind's entities collects its failures, by induction on those left. -/
theorem applyEntities_collects (k : Kind) (total : Nat) (es : List Entity)
    (hk : ∀ e ∈ es, e.kind = k) (applied : Nat) (pass : Pass) (r : Run σ) :
    ∃ attempts,
      Collects c op es attempts pass.tally r
        (((applyEntities c .collectErrors op k total es applied pass).run r).1.map (·.2.tally))
        ((applyEntities c .collectErrors op k total es applied pass).run r).2 := by
  obtain ⟨out, r', hrun, h⟩ :=
    applyEntities_applies c .collectErrors op k total es applied pass r
  simp only [hrun]
  clear hrun
  -- By induction on the loop; in this mode a failure does not end it.
  induction h with
  | finished applied pass r => exact ⟨[], .refl _ r⟩
  | @interrupted e es applied pass r hcancelled =>
    exact ⟨[], .nil _, by simp, ⟨e, es, rfl⟩, hcancelled, applied, k, rfl⟩
  | @applied e es applied pass r r' s out _ hcall _ ih =>
    obtain ⟨attempts, h⟩ := ih (List.forall_mem_cons.mp hk).2
    refine ⟨⟨e, none⟩ :: attempts, .cons (a := ⟨e, none⟩) (q := r.succeeded op k e s) hcall rfl
      (by simp [Attempt.call]) ?_⟩
    simpa [Operation.failures, Pass.tally] using h
  | aborted hmode => cases hmode
  | @failed e es applied pass r r' s fault out _ _ hcall _ ih =>
    obtain ⟨rfl, hk⟩ := List.forall_mem_cons.mp hk
    obtain ⟨attempts, h⟩ := ih hk
    exact ⟨⟨e, some fault⟩ :: attempts,
      .cons (a := ⟨e, some fault⟩) hcall rfl (by simp [Attempt.call]) h⟩

/-- A kind collects its failures. -/
theorem applyKind_collects (changes : Graph) (k : Kind) (pass : Pass) (r : Run σ) :
    ∃ attempts,
      Collects c op (changes.entities k) attempts pass.tally r
        (((applyKind c .collectErrors op changes k pass).run r).1.map Pass.tally)
        ((applyKind c .collectErrors op changes k pass).run r).2 := by
  simp only [applyKind]
  by_cases hempty : (changes.entities k).isEmpty = true
  · simp only [hempty, if_true]
    rw [List.isEmpty_iff.mp hempty]
    exact ⟨[], .refl _ r⟩
  simp only [hempty, Bool.false_eq_true, if_false, SyncM.run_bind, SyncM.run_emit]
  obtain ⟨attempts, h⟩ := applyEntities_collects c op k (changes.entities k).length
    (changes.entities k) (fun e he => Graph.kind_of_mem_entities he) 0 pass
    (r.tell (.kindStarted (.ofOperation op) k (changes.entities k).length))
  refine ⟨attempts, ?_⟩
  -- The events around the entities are no calls, and the counts by kind are not in the tally.
  rcases hrun : (applyEntities c .collectErrors op k (changes.entities k).length
    (changes.entities k) 0 pass).run _ with ⟨f | ⟨applied, after⟩, r'⟩ <;> rw [hrun] at h
  · exact ⟨h.answered, by simpa using h.mutations, h.ends⟩
  · exact ⟨h.answered, by simpa using h.mutations, h.ends⟩

/-- Several kinds collect their failures, by induction on the kinds. -/
theorem applyKinds_collects (changes : Graph) (ks : List Kind) (pass : Pass) (r : Run σ) :
    ∃ attempts,
      Collects c op (ks.flatMap changes.entities) attempts pass.tally r
        (((applyKinds c .collectErrors op changes ks pass).run r).1.map Pass.tally)
        ((applyKinds c .collectErrors op changes ks pass).run r).2 := by
  induction ks generalizing pass r with
  | nil => exact ⟨[], .refl _ r⟩
  | cons k ks ih =>
    obtain ⟨attempts, h⟩ := applyKind_collects c op changes k pass r
    simp only [applyKinds, SyncM.run_bind, List.flatMap_cons]
    rcases hrun : (applyKind c .collectErrors op changes k pass).run r with ⟨f | mid, r'⟩ <;>
      rw [hrun] at h
    -- => A kind that breaks off leaves the other kinds untried.
    case error => exact ⟨attempts, h.append_of_error _⟩
    case ok =>
      obtain ⟨attempts', h'⟩ := ih mid r'
      exact ⟨attempts ++ attempts', h.append h'⟩

/-- A phase that collects failures attempts a part of its plan, in order.  If it succeeds, that is
    all of it and nothing failed.  If it fails and all was attempted, it reports every failure with
    what the client answered, in order; if something was left, then it was found cancelled
    and reports that alone.  So once a mutation failed, all failures are reported exactly if all of
    the plan was attempted. -/
theorem collected_failures_reported_iff (changes : Graph) (r : Run σ) :
    let out := (applyChanges c .collectErrors op changes).run r
    ∃ attempts : List Attempt,
      attempts.map Attempt.entity <+: op.plan changes ∧
      Answered c op attempts r.world out.2.world ∧
      out.2.mutations = r.mutations ++ attempts.map (·.call op) ∧
      (∀ counts, out.1 = .ok counts →
        attempts.map Attempt.entity = op.plan changes ∧ op.failures c.endpoint attempts = []) ∧
      ∀ f, out.1 = .error f →
        (attempts.map Attempt.entity = op.plan changes → op.failures c.endpoint attempts ≠ [] ∧
          f = Failure.of (.changes op attempts.length (op.failures c.endpoint attempts))) ∧
        (attempts.map Attempt.entity ≠ op.plan changes → out.2.token.cancelled = true ∧
          ∃ applied k, f = Failure.of (.interrupted (.ofOperation op) applied k)) ∧
        (op.failures c.endpoint attempts ≠ [] →
          (f.cause.failures = op.failures c.endpoint attempts ↔
            attempts.map Attempt.entity = op.plan changes)) := by
  intro out
  obtain ⟨attempts, h⟩ := applyKinds_collects c op changes op.order {} r
  refine ⟨attempts, ?_⟩
  rcases hrun : (applyKinds c .collectErrors op changes op.order {}).run r with ⟨f | after, r'⟩ <;>
    rw [hrun] at h
  case error =>
    -- The books are lost on this way.
    obtain ⟨⟨e, rest, hplan⟩, hcancelled, applied, k, rfl⟩ := h.ends
    have hout : out = (.error (Failure.of (.interrupted (.ofOperation op) applied k)), r') := by
      simp only [out, applyChanges, SyncM.run_bind, hrun]
    have hshort : attempts.map Attempt.entity ≠ op.plan changes := by
      rw [Operation.plan, hplan]
      simp
    rw [hout]
    refine ⟨⟨e :: rest, hplan.symm⟩, h.answered, h.mutations, ?_, ?_⟩ <;> rintro _ ⟨⟩
    exact ⟨fun hall => absurd hall hshort, fun _ => ⟨hcancelled, applied, k, rfl⟩,
      fun hne => iff_of_false hne.symm hshort⟩
  case ok =>
    obtain ⟨hall, hbooks⟩ := h.ends
    have hattempted : after.attempted = attempts.length :=
      (congrArg Tally.attempted hbooks).trans (Nat.zero_add _)
    have hfailures : after.failures = op.failures c.endpoint attempts :=
      congrArg Tally.failures hbooks
    replace hall : attempts.map Attempt.entity = op.plan changes := hall
    have hpart : attempts.map Attempt.entity <+: op.plan changes := ⟨[], by simpa using hall⟩
    by_cases hnone : after.failures = []
    · have hout : out = (.ok after.applied, r') := by
        simp only [out, applyChanges, SyncM.run_bind, hrun, hnone, List.isEmpty_nil, if_true,
          SyncM.run_pure]
      rw [hfailures] at hnone
      rw [hout]
      refine ⟨hpart, h.answered, h.mutations, fun _ _ => ⟨hall, hnone⟩, ?_⟩
      rintro _ ⟨⟩
    · have hout : out =
          (.error (Failure.of (.changes op after.attempted after.failures)), r') := by
        simp only [out, applyChanges, SyncM.run_bind, hrun, List.isEmpty_iff, hnone, if_false,
          SyncM.run_throw]
      rw [hfailures] at hnone
      rw [hout, hattempted, hfailures]
      refine ⟨hpart, h.answered, h.mutations, ?_, ?_⟩ <;> rintro _ ⟨⟩
      exact ⟨fun _ => ⟨hnone, rfl⟩, fun hshort => absurd hall hshort,
        fun _ => iff_of_true rfl hall⟩

end

/-- The first of two creations fails, and the run is cancelled when it is told so.  The failure was
    collected, and is not reported. -/
theorem collected_failure_lost :
    let first : Uuid := ⟨List.replicate 32 1, rfl⟩
    let second : Uuid := ⟨List.replicate 32 2, rfl⟩
    let t : Tenant := { Tenant.ofGraph "dst" 1 {} with failing := [first] }
    let out := (applyChanges (Tenant.client "dst") .collectErrors .create
      { objectTypes := [⟨first, "user"⟩, ⟨second, "group"⟩] }).run
        (Run.start t (.afterEvents 2) (.frozen 0))
    out.2.mutations = [(.create (.objectType ⟨first, "user"⟩), false)] ∧
      ∃ f, out.1 = .error f ∧ f.cause.failures = [] :=
  ⟨by decide +kernel, Failure.of (.interrupted .insert 0 .objectType), by decide +kernel, rfl⟩

end TenantSync
