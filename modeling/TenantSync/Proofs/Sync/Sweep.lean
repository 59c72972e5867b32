import TenantSync.Proofs.Sync.Entities
import TenantSync.Proofs.Sync.Fetch
import TenantSync.Proofs.Graph.Plan
import TenantSync.Sync.Engine

/-!
# What becomes of a plan

A phase of a run goes through its plan and sends one mutation after the other.  `Sweep` says
what can become of that, independently of how the run keeps its books: the plan is done, or the
run is found cancelled before a mutation, or a mutation fails and the phase gives up.  How a
tenant answers is left open; it is a relation between the worlds before and after.

`changePhase_swept` says that a phase is such a sweep, and that the phase succeeds exactly when
the whole plan was done and every mutation succeeded.  So it holds for any client.
-/

namespace TenantSync

/-- How a sweep ends. -/
inductive Ending where
  /-- At the end of the plan. -/
  | finished
  /-- Before a mutation, because the run was cancelled. -/
  | interrupted
  /-- At a mutation that failed. -/
  | aborted
  deriving DecidableEq

/-- `Sweep stops mode R plan w sent w' e`: going through a plan from the world `w` may send the
    mutations `sent` with these outcomes, leave the world `w'` and end in `e`.  `R w m ok w'` says
    how a mutation may be answered. -/
inductive Sweep {σ : Type} (stops : Prop) (mode : FailureMode)
    (R : σ → Mutation → Bool → σ → Prop) :
    List Mutation → σ → List (Mutation × Bool) → σ → Ending → Prop where
  | finished (w : σ) : Sweep stops mode R [] w [] w .finished
  | interrupted (m : Mutation) (plan : List Mutation) (w : σ) (hstop : stops) :
      Sweep stops mode R (m :: plan) w [] w .interrupted
  | applied {m : Mutation} {plan : List Mutation} {w w' w'' : σ} {sent : List (Mutation × Bool)}
      {e : Ending} (hstep : R w m true w') (hrest : Sweep stops mode R plan w' sent w'' e) :
      Sweep stops mode R (m :: plan) w ((m, true) :: sent) w'' e
  | aborted {m : Mutation} {w w' : σ} (plan : List Mutation) (hmode : mode = .failFast)
      (hstep : R w m false w') : Sweep stops mode R (m :: plan) w [(m, false)] w' .aborted
  | failed {m : Mutation} {plan : List Mutation} {w w' w'' : σ} {sent : List (Mutation × Bool)}
      {e : Ending} (hmode : mode = .collectErrors) (hstep : R w m false w')
      (hrest : Sweep stops mode R plan w' sent w'' e) :
      Sweep stops mode R (m :: plan) w ((m, false) :: sent) w'' e

/-- The mutations that succeeded. -/
def successes (sent : List (Mutation × Bool)) : List Mutation := (sent.filter (·.2)).map (·.1)

/-- A sweep that did the whole plan with success. -/
def Complete (sent : List (Mutation × Bool)) (e : Ending) : Prop :=
  e = .finished ∧ ∀ x ∈ sent, x.2 = true

/-- Sending nothing is complete. -/
theorem Complete.nil : Complete [] .finished := ⟨rfl, List.forall_mem_nil _⟩

namespace Sweep

variable {σ τ : Type} {stops : Prop} {mode : FailureMode} {R : σ → Mutation → Bool → σ → Prop}
  {plan plan' : List Mutation} {w w' w'' : σ} {sent sent' : List (Mutation × Bool)} {e : Ending}

/-- A finished sweep continued by another is a sweep over both plans. -/
theorem append (h : Sweep stops mode R plan w sent w' .finished)
    (h' : Sweep stops mode R plan' w' sent' w'' e) :
    Sweep stops mode R (plan ++ plan') w (sent ++ sent') w'' e := by
  -- The induction is on the first sweep, so its ending has to be a variable.
  generalize he : Ending.finished = e' at h
  induction h with
  | finished => exact h'
  | interrupted => exact nomatch he
  | applied hstep _ ih => exact .applied hstep (ih h' he)
  | aborted => exact nomatch he
  | failed hmode hstep _ ih => exact .failed hmode hstep (ih h' he)

/-- Where nothing is planned, nothing happens. -/
theorem of_nil (h : Sweep stops mode R [] w sent w' e) : sent = [] ∧ w' = w ∧ Complete sent e := by
  cases h
  exact ⟨rfl, rfl, rfl, nofun⟩

/-- A sweep that ends early says nothing about what else was planned. -/
theorem append_of_ne (h : Sweep stops mode R plan w sent w' e) (he : e ≠ .finished)
    (plan' : List Mutation) : Sweep stops mode R (plan ++ plan') w sent w' e := by
  induction h with
  | finished => exact absurd rfl he
  | interrupted m plan w hstop => exact .interrupted m _ w hstop
  | applied hstep _ ih => exact .applied hstep (ih he)
  | aborted plan hmode hstep => exact .aborted _ hmode hstep
  | failed hmode hstep _ ih => exact .failed hmode hstep (ih he)

/-- The same sweep seen on a part of the world. -/
theorem map {S : τ → Mutation → Bool → τ → Prop} (f : σ → τ)
    (hf : ∀ w m ok w', R w m ok w' → S (f w) m ok (f w'))
    (h : Sweep stops mode R plan w sent w' e) : Sweep stops mode S plan (f w) sent (f w') e := by
  induction h with
  | finished w => exact .finished (f w)
  | interrupted m plan w hstop => exact .interrupted m plan (f w) hstop
  | applied hstep _ ih => exact .applied (hf _ _ _ _ hstep) ih
  | aborted plan hmode hstep => exact .aborted plan hmode (hf _ _ _ _ hstep)
  | failed hmode hstep _ ih => exact .failed hmode (hf _ _ _ _ hstep) ih

/-- What every answer keeps, a sweep keeps. -/
theorem preserve {I : σ → Prop} (hI : ∀ w m ok w', R w m ok w' → I w → I w')
    (h : Sweep stops mode R plan w sent w' e) (hw : I w) : I w' := by
  induction h with
  | finished => exact hw
  | interrupted => exact hw
  | applied hstep _ ih => exact ih (hI _ _ _ _ hstep hw)
  | aborted _ _ hstep => exact hI _ _ _ _ hstep hw
  | failed _ hstep _ ih => exact ih (hI _ _ _ _ hstep hw)

/-- What succeeded was planned, and happened in the order of the plan. -/
theorem successes_sublist (h : Sweep stops mode R plan w sent w' e) :
    (successes sent).Sublist plan := by
  induction h with
  | finished => exact .slnil
  | interrupted => exact List.nil_sublist _
  | applied _ _ ih => exact ih.cons_cons _
  | aborted => exact List.nil_sublist _
  | failed _ _ _ ih => exact ih.cons _

/-- If all was done with success, then what succeeded is the plan. -/
theorem successes_eq (h : Sweep stops mode R plan w sent w' e) (hc : Complete sent e) :
    successes sent = plan := by
  obtain ⟨rfl, hall⟩ := hc
  generalize he : Ending.finished = e' at h
  -- By induction on the sweep; a complete one has neither stopped nor failed.
  induction h with
  | finished => rfl
  | interrupted => exact nomatch he
  | applied _ _ ih => exact congrArg (List.cons _) (ih (fun x hx => hall x (.tail _ hx)) he)
  | aborted => exact nomatch he
  | failed => exact nomatch hall _ List.mem_cons_self

/-- What was sent was planned, and was sent in the order of the plan. -/
theorem sent_prefix (h : Sweep stops mode R plan w sent w' e) :
    (sent.map Prod.fst).IsPrefix plan := by
  induction h with
  | finished => exact List.nil_prefix
  | interrupted => exact List.nil_prefix
  | applied _ _ ih => exact (List.prefix_cons_inj _).mpr ih
  | aborted => exact (List.prefix_cons_inj _).mpr List.nil_prefix
  | failed _ _ _ ih => exact (List.prefix_cons_inj _).mpr ih

end Sweep

/-! ## Phases sweep -/

/-- How a client answers mutations, and that it does not cancel the run by itself. -/
def Client.Answers {σ : Type} (stops : Prop) (R : σ → Mutation → Bool → σ → Prop)
    (c : Client σ) : Prop :=
  ∀ (m : Mutation) (s : Session σ), s.token.FreshUnless stops →
    ((c.mutate m).run s).2.token.FreshUnless stops ∧
      R s.world m ((c.mutate m).run s).1.isOk ((c.mutate m).run s).2.world

/-- What an answered change leaves behind, with its run given as an equation. -/
theorem Client.Answers.of_run {σ : Type} {stops : Prop} {R : σ → Mutation → Bool → σ → Prop}
    {c : Client σ} (hc : c.Answers stops R) {m : Mutation} {s s' : Session σ}
    {out : Except Fault Unit} (hrun : (c.mutate m).run s = (out, s'))
    (ht : s.token.FreshUnless stops) :
    s'.token.FreshUnless stops ∧ R s.world m out.isOk s'.world := by
  have h := hc m s ht
  rwa [hrun] at h

/-- A stretch of a run that swept a plan. -/
structure Swept {σ : Type} (stops : Prop) (mode : FailureMode)
    (R : σ → Mutation → Bool → σ → Prop) (plan : List Mutation) (r : Run σ)
    (sent : List (Mutation × Bool)) (r' : Run σ) (e : Ending) : Prop where
  sweep : Sweep stops mode R plan r.world sent r'.world e
  mutations : r'.mutations = r.mutations ++ sent
  token : r'.token.FreshUnless stops

namespace Swept

variable {σ : Type} {stops : Prop} {mode : FailureMode} {R : σ → Mutation → Bool → σ → Prop}
  {plan plan' : List Mutation} {r r' r'' : Run σ} {sent sent' : List (Mutation × Bool)}
  {e : Ending}

/-- A run that sends nothing has swept over nothing. -/
theorem refl (ht : r.token.FreshUnless stops) : Swept stops mode R [] r [] r .finished :=
  ⟨.finished _, by simp, ht⟩

/-- A finished sweep of a run continued by another. -/
theorem append (h : Swept stops mode R plan r sent r' .finished)
    (h' : Swept stops mode R plan' r' sent' r'' e) :
    Swept stops mode R (plan ++ plan') r (sent ++ sent') r'' e where
  sweep := h.sweep.append h'.sweep
  mutations := by rw [h'.mutations, h.mutations, List.append_assoc]
  token := h'.token

/-- A sweep that stopped early is one over any longer plan. -/
theorem append_of_ne (h : Swept stops mode R plan r sent r' e) (he : e ≠ .finished)
    (plan' : List Mutation) : Swept stops mode R (plan ++ plan') r sent r' e :=
  ⟨h.sweep.append_of_ne he plan', h.mutations, h.token⟩

/-- A mutation that succeeds, and then the rest of the plan. -/
theorem applied {m : Mutation} (h : Swept stops mode R plan r' sent r'' e)
    (hstep : R r.world m true r'.world) (hm : r'.mutations = r.mutations ++ [(m, true)]) :
    Swept stops mode R (m :: plan) r ((m, true) :: sent) r'' e :=
  ⟨.applied hstep h.sweep, by rw [h.mutations, hm, List.append_assoc]; rfl, h.token⟩

/-- A mutation that fails, and then the rest of the plan. -/
theorem failed {m : Mutation} (h : Swept stops mode R plan r' sent r'' e)
    (hmode : mode = .collectErrors) (hstep : R r.world m false r'.world)
    (hm : r'.mutations = r.mutations ++ [(m, false)]) :
    Swept stops mode R (m :: plan) r ((m, false) :: sent) r'' e :=
  ⟨.failed hmode hstep h.sweep, by rw [h.mutations, hm, List.append_assoc]; rfl, h.token⟩

/-- An event before the sweep does not matter. -/
theorem of_tell (ev : Event) (h : Swept stops mode R plan (r.tell ev) sent r' e) :
    Swept stops mode R plan r sent r' e :=
  ⟨h.sweep, by rw [h.mutations, Run.tell_mutations], h.token⟩

/-- An event after the sweep does not matter. -/
theorem tell (ev : Event) (h : Swept stops mode R plan r sent r' e) :
    Swept stops mode R plan r sent (r'.tell ev) e :=
  ⟨h.sweep, by rw [Run.tell_mutations, h.mutations], h.token.tell ev⟩

end Swept

section
variable {σ : Type} {stops : Prop} {R : σ → Mutation → Bool → σ → Prop} {c : Client σ}

/-- What the books say after a sweep.  There is a result exactly when the sweep came to its end,
    and that shows failures exactly if there were some before or a mutation failed. -/
def Closes (before : Pass) (sent : List (Mutation × Bool)) (e : Ending) :
    Except SyncFailure Pass → Prop
  | .ok after => e = .finished ∧
      (after.failures = [] ↔ before.failures = [] ∧ ∀ x ∈ sent, x.2 = true)
  | .error _ => e ≠ .finished

/-- A success counts as an attempt. -/
theorem Closes.applied {before : Pass} {attempted : Nat} {sent : List (Mutation × Bool)}
    {e : Ending} {out : Except SyncFailure Pass} (m : Mutation)
    (h : Closes { before with attempted } sent e out) :
    Closes before ((m, true) :: sent) e out := by
  cases out with
  | ok after => simpa [Closes] using h
  | error f => exact h

/-- A failure counts as an attempt and is collected. -/
theorem Closes.failed {before : Pass} {attempted : Nat} {failures : List ChangeFailure}
    {failure : ChangeFailure} {sent : List (Mutation × Bool)} {e : Ending}
    {out : Except SyncFailure Pass} (m : Mutation)
    (h : Closes { before with attempted, failures := failures ++ [failure] } sent e out) :
    Closes before ((m, false) :: sent) e out := by
  cases out with
  | ok after => simpa [Closes] using h
  | error f => exact h

/-- The first part hands its counts and failures to the second. -/
theorem Closes.append {before mid : Pass} {sent sent' : List (Mutation × Bool)} {e e' : Ending}
    {out : Except SyncFailure Pass} (h : Closes before sent e (.ok mid))
    (h' : Closes mid sent' e' out) : Closes before (sent ++ sent') e' out := by
  cases out with
  | ok after =>
    refine ⟨h'.1, ?_⟩
    rw [h'.2, h.2, List.forall_mem_append, and_assoc]
  | error f => exact h'

/-- The entities of a kind are swept in order. -/
theorem applyEntities_swept (hc : c.Answers stops R) (mode : FailureMode) (op : Operation)
    (k : Kind) (total : Nat) (es : List Entity) (applied : Nat) (pass : Pass) {r : Run σ}
    (ht : r.token.FreshUnless stops) :
    ∃ sent e,
      Swept stops mode R (es.map op.mutation) r sent
        ((applyEntities c mode op k total es applied pass).run r).2 e ∧
      Closes pass sent e
        (((applyEntities c mode op k total es applied pass).run r).1.map Prod.snd) := by
  obtain ⟨out, r', hrun, h⟩ := applyEntities_applies c mode op k total es applied pass r
  simp only [hrun]
  clear hrun
  -- By induction on the loop; each entity that is called for is a step of the sweep.
  induction h with
  | finished => exact ⟨[], .finished, .refl ht, rfl, by simp⟩
  | interrupted hcancelled =>
    exact ⟨[], .interrupted,
      ⟨.interrupted _ _ _ (ht.stops_of_look hcancelled), by simp, ht.looked⟩, nofun⟩
  | @applied e es applied pass r r' s out _ hcall _ ih =>
    obtain ⟨htok, hstep⟩ := hc.of_run hcall ht.look
    obtain ⟨sent, ending, hswept, hcloses⟩ :=
      ih ((((ht.looked.resume htok).note _ _).write _).tell _)
    exact ⟨(op.mutation e, true) :: sent, ending, hswept.applied hstep (by simp),
      hcloses.applied _⟩
  | @aborted e es applied pass r s fault hmode _ hcall =>
    obtain ⟨htok, hstep⟩ := hc.of_run hcall ht.look
    exact ⟨[(op.mutation e, false)], .aborted, ⟨.aborted _ hmode hstep, by simp,
      (((ht.looked.resume htok).note _ _).tell _).tell _⟩, nofun⟩
  | @failed e es applied pass r r' s fault out hmode _ hcall _ ih =>
    obtain ⟨htok, hstep⟩ := hc.of_run hcall ht.look
    obtain ⟨sent, ending, hswept, hcloses⟩ := ih (((ht.looked.resume htok).note _ _).tell _)
    exact ⟨(op.mutation e, false) :: sent, ending, hswept.failed hmode hstep (by simp),
      hcloses.failed _⟩

/-- Applying a kind sweeps over its entities. -/
theorem applyKind_swept (hc : c.Answers stops R) (mode : FailureMode) (op : Operation)
    (changes : Graph) (k : Kind) (pass : Pass) {r : Run σ} (ht : r.token.FreshUnless stops) :
    ∃ sent e,
      Swept stops mode R ((changes.entities k).map op.mutation) r sent
        ((applyKind c mode op changes k pass).run r).2 e ∧
      Closes pass sent e ((applyKind c mode op changes k pass).run r).1 := by
  simp only [applyKind]
  by_cases hempty : (changes.entities k).isEmpty = true
  · simp only [hempty, if_true]
    rw [List.isEmpty_iff.mp hempty]
    exact ⟨[], .finished, .refl ht, rfl, by simp⟩
  simp only [hempty, Bool.false_eq_true, if_false, SyncM.run_bind, SyncM.run_emit]
  obtain ⟨sent, e, hswept, hcloses⟩ := applyEntities_swept hc mode op k
    (changes.entities k).length (changes.entities k) 0 pass
    (ht.tell (.kindStarted (.ofOperation op) k (changes.entities k).length))
  -- The events around the entities of a kind are told whether or not they went well.
  refine ⟨sent, e, ?_, ?_⟩
  all_goals
    rcases hrun : (applyEntities c mode op k (changes.entities k).length (changes.entities k) 0
      pass).run (r.tell (.kindStarted (.ofOperation op) k (changes.entities k).length))
      with ⟨_ | ⟨applied, after⟩, r'⟩ <;> rw [hrun] at hswept hcloses
  · exact hswept.of_tell _
  · exact (hswept.of_tell _).tell _
  · exact hcloses
  · exact hcloses

/-- Applying several kinds sweeps over all of theirs, by induction on the kinds. -/
theorem applyKinds_swept (hc : c.Answers stops R) (mode : FailureMode) (op : Operation)
    (changes : Graph) (ks : List Kind) (pass : Pass) {r : Run σ} (ht : r.token.FreshUnless stops) :
    ∃ sent e,
      Swept stops mode R ((ks.flatMap changes.entities).map op.mutation) r sent
        ((applyKinds c mode op changes ks pass).run r).2 e ∧
      Closes pass sent e ((applyKinds c mode op changes ks pass).run r).1 := by
  induction ks generalizing pass r with
  | nil => exact ⟨[], .finished, .refl ht, rfl, by simp⟩
  | cons k ks ih =>
    obtain ⟨sent, e, hswept, hcloses⟩ := applyKind_swept hc mode op changes k pass ht
    simp only [applyKinds, SyncM.run_bind, List.flatMap_cons, List.map_append]
    rcases hrun : (applyKind c mode op changes k pass).run r with ⟨f | mid, r'⟩ <;>
      rw [hrun] at hswept hcloses
    case error => exact ⟨sent, e, hswept.append_of_ne hcloses _, hcloses⟩
    case ok =>
      -- A result for one kind means that its sweep came to its end, so the next can follow.
      obtain ⟨sent', e', hswept', hcloses'⟩ := ih mid hswept.token
      obtain rfl := hcloses.1
      exact ⟨sent ++ sent', e', hswept.append hswept', hcloses.append hcloses'⟩

/-- Once the kinds of a set of changes were applied, only the books are looked at, and there is a
    result exactly when all of it succeeded. -/
theorem Closes.applyChanges {mode : FailureMode} {op : Operation} {changes : Graph} {r : Run σ}
    {sent : List (Mutation × Bool)} {e : Ending}
    (h : Closes {} sent e ((applyKinds c mode op changes op.order {}).run r).1) :
    ((TenantSync.applyChanges c mode op changes).run r).2 =
        ((applyKinds c mode op changes op.order {}).run r).2 ∧
      (Complete sent e ↔ ((TenantSync.applyChanges c mode op changes).run r).1.isOk = true) := by
  simp only [TenantSync.applyChanges, SyncM.run_bind]
  rcases hrun : (applyKinds c mode op changes op.order {}).run r with ⟨f | after, r'⟩ <;>
    rw [hrun] at h
  case error => exact ⟨rfl, fun hc => absurd hc.1 h, nofun⟩
  case ok =>
    -- At its end the phase still fails if failures were collected on the way.
    obtain ⟨rfl, hfail⟩ := h
    by_cases hnil : after.failures = []
    · simp only [hnil, List.isEmpty_nil, if_true, SyncM.run_pure]
      exact ⟨trivial, fun _ => rfl, fun _ => ⟨rfl, (hfail.mp hnil).2⟩⟩
    · simp only [List.isEmpty_iff, hnil, if_false, SyncM.run_throw]
      exact ⟨trivial, fun hc => absurd (hfail.mpr ⟨rfl, hc.2⟩) hnil, nofun⟩

/-- A set of changes is swept in the order of the operation, with a result exactly when all of it
    succeeded. -/
theorem applyChanges_swept (hc : c.Answers stops R) (mode : FailureMode) (op : Operation)
    (changes : Graph) {r : Run σ} (ht : r.token.FreshUnless stops) :
    ∃ sent e,
      Swept stops mode R (op.mutations changes) r sent
        ((applyChanges c mode op changes).run r).2 e ∧
      (Complete sent e ↔ ((applyChanges c mode op changes).run r).1.isOk = true) := by
  obtain ⟨sent, e, hswept, hcloses⟩ := applyKinds_swept hc mode op changes op.order {} ht
  obtain ⟨hend, hok⟩ := hcloses.applyChanges
  exact ⟨sent, e, hend ▸ hswept, hok⟩

/-- What a phase goes through; nothing in a dry run. -/
def Options.steps (o : Options) (op : Operation) (changes : Graph) : List Mutation :=
  if o.dryRun then [] else op.mutations changes

/-- What a phase reports: the planned counts when all of it succeeded, and no applied ones where
    there was nothing to do; else a failure that names the phase. -/
def Reports (o : Options) (op : Operation) (endpoint : String) (changes : Graph)
    (sent : List (Mutation × Bool)) (e : Ending) : Except SyncFailure (Counts × Counts) → Prop
  | .ok (planned, applied) => planned = changes.counts ∧ Complete sent e ∧
      (o.dryRun = true ∨ changes.isEmpty = true → applied = {})
  | .error f => f.contexts.head? = some (.applying op endpoint) ∧ ¬ Complete sent e

/-- A graph without entities leaves nothing to send. -/
theorem mutations_eq_nil_of_isEmpty {op : Operation} {changes : Graph}
    (h : changes.isEmpty = true) : op.mutations changes = [] := by
  have hlen : ∀ k, (changes.entities k).length = 0 := by
    intro k
    rw [Graph.length_entities, Graph.counts_eq_of_isEmpty h, Counts.get_empty]
  simp only [Operation.mutations, Operation.plan, List.map_eq_nil_iff, List.flatMap_eq_nil_iff]
  exact fun k _ => List.length_eq_zero_iff.mp (hlen k)

/-- A phase sweeps its plan, whatever client it sends it to. -/
theorem changePhase_swept (hc : c.Answers stops R) (o : Options) (op : Operation) (idle : String)
    (changes : Graph) {r : Run σ} (ht : r.token.FreshUnless stops) :
    ∃ sent e,
      Swept stops o.mode R (o.steps op changes) r sent
        ((changePhase c o op idle changes).run r).2 e ∧
      Reports o op c.endpoint changes sent e ((changePhase c o op idle changes).run r).1 := by
  have hstart := (ht.tell (.phaseStarted (.ofOperation op) c.endpoint)).tell
    (.changesComputed (.ofOperation op) changes.counts)
  simp only [changePhase, Options.steps, SyncM.run_bind, SyncM.run_emit]
  by_cases hdry : o.dryRun = true
  · simp only [hdry, if_true]
    exact ⟨[], .finished, (((Swept.refl hstart).tell _).of_tell _).of_tell _, rfl, .nil,
      fun _ => rfl⟩
  simp only [hdry, Bool.false_eq_true, if_false]
  by_cases hempty : changes.isEmpty = true
  · simp only [hempty, if_true, mutations_eq_nil_of_isEmpty hempty]
    exact ⟨[], .finished, (((Swept.refl hstart).tell _).of_tell _).of_tell _, rfl, .nil,
      fun _ => rfl⟩
  simp only [hempty, Bool.false_eq_true, if_false, SyncM.run_bind, SyncM.run_within]
  -- Something is to do and may be done: the sweep is that of the changes.
  obtain ⟨sent, e, hswept, hok⟩ := applyChanges_swept hc o.mode op changes hstart
  have hswept := (hswept.of_tell _).of_tell _
  rcases hrun : (applyChanges c o.mode op changes).run _ with ⟨f | applied, r'⟩ <;>
    rw [hrun] at hswept hok
  · exact ⟨sent, e, hswept, rfl, fun h => absurd (hok.mp h) nofun⟩
  · exact ⟨sent, e, hswept, rfl, hok.mpr rfl, fun h => by simp [hdry, hempty] at h⟩

end

end TenantSync
