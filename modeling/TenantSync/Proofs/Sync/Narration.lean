import TenantSync.Proofs.Sync.Stages
import TenantSync.Proofs.Sync.Trace

/-!
# What a run tells

An observer of a run hears a story with a fixed plot: both tenants are read, the changes of each
phase are announced, and then the phase is skipped or told kind by kind, entity by entity.  Where
the run fails, the story breaks off.  `Story` is the language of all such stories, together with the
calls that were made meanwhile and the outcome of the run.  It is put together from `Attempts` (the
entities of a kind), `Blocks` (the kinds of a set of changes) and `PhaseStory`.

`synchronize_story` says that every run tells one of these stories, with any client that lists two
graphs, whatever it answers and whenever the run is cancelled.
-/

namespace TenantSync

/-! ## The language -/

/-- An entity that was attempted, and the fault that it failed with, if any. -/
structure Attempt where
  entity : Entity
  fault? : Option Fault

namespace Attempt

/-- What is told about an attempt. -/
def event (phase : Phase) (k : Kind) (a : Attempt) : Event :=
  match a.fault? with
  | none => .entityApplied phase k a.entity.label
  | some fault => .entityFailed phase k a.entity.label fault

/-- The call that was made. -/
def call (op : Operation) (a : Attempt) : Mutation × Bool := (op.mutation a.entity, a.fault?.isNone)

end Attempt

/-- `Attempts mode plan attempts e`: whoever goes through a plan may make these attempts, one for
    each entity in order, and end in `e`. -/
inductive Attempts (mode : FailureMode) : List Entity → List Attempt → Ending → Prop where
  | finished : Attempts mode [] [] .finished
  | interrupted (x : Entity) (plan : List Entity) : Attempts mode (x :: plan) [] .interrupted
  | applied {x : Entity} {plan : List Entity} {attempts : List Attempt} {e : Ending}
      (hrest : Attempts mode plan attempts e) :
      Attempts mode (x :: plan) (⟨x, none⟩ :: attempts) e
  | aborted (x : Entity) (plan : List Entity) (fault : Fault) (hmode : mode = .failFast) :
      Attempts mode (x :: plan) [⟨x, some fault⟩] .aborted
  | failed {x : Entity} {plan : List Entity} {attempts : List Attempt} {e : Ending} (fault : Fault)
      (hmode : mode = .collectErrors) (hrest : Attempts mode plan attempts e) :
      Attempts mode (x :: plan) (⟨x, some fault⟩ :: attempts) e

/-- The event says that an entity was applied. -/
def Event.isApplied : Event → Bool
  | .entityApplied .. => true
  | _ => false

/-- What is told about the entities that were attempted, one by one. -/
def recount (phase : Phase) (k : Kind) (attempts : List Attempt) : List Event :=
  attempts.map (·.event phase k)

/-- A success is one more entity applied. -/
theorem add_countP_recount_applied (phase : Phase) (k : Kind) (x : Entity)
    (attempts : List Attempt) (n : Nat) :
    n + (recount phase k (⟨x, none⟩ :: attempts)).countP Event.isApplied =
      n + 1 + (recount phase k attempts).countP Event.isApplied := by
  rw [recount, List.map_cons, List.countP_cons_of_pos rfl, recount]
  omega

/-- A failure is none. -/
theorem countP_recount_failed (phase : Phase) (k : Kind) (x : Entity) (fault : Fault)
    (attempts : List Attempt) :
    (recount phase k (⟨x, some fault⟩ :: attempts)).countP Event.isApplied =
      (recount phase k attempts).countP Event.isApplied :=
  List.countP_cons_of_neg Bool.false_ne_true

/-- What is told about the entities of a kind.  The last word is missing if the run was
    interrupted. -/
def block (op : Operation) (k : Kind) (planned : Nat) (attempts : List Attempt) (e : Ending) :
    List Event :=
  let told := recount (.ofOperation op) k attempts
  let closing :=
    if e = .interrupted then []
    else [.kindFinished (.ofOperation op) k (told.countP Event.isApplied) planned]
  .kindStarted (.ofOperation op) k planned :: told ++ closing

/-- `Blocks mode op changes kinds events sent e`: of a set of changes, the kinds of a list are told
    one after the other, those without entities passed over in silence.  Where a kind does not come
    to its end, nothing follows. -/
inductive Blocks (mode : FailureMode) (op : Operation) (changes : Graph) :
    List Kind → List Event → List (Mutation × Bool) → Ending → Prop where
  | nil : Blocks mode op changes [] [] [] .finished
  | silent {k : Kind} {ks : List Kind} {events : List Event} {sent : List (Mutation × Bool)}
      {e : Ending} (hempty : changes.entities k = [])
      (hrest : Blocks mode op changes ks events sent e) :
      Blocks mode op changes (k :: ks) events sent e
  | told {k : Kind} {ks : List Kind} {attempts : List Attempt} {events : List Event}
      {sent : List (Mutation × Bool)} {e : Ending} (hne : changes.entities k ≠ [])
      (hall : Attempts mode (changes.entities k) attempts .finished)
      (hrest : Blocks mode op changes ks events sent e) :
      Blocks mode op changes (k :: ks)
        (block op k (changes.entities k).length attempts .finished ++ events)
        (attempts.map (·.call op) ++ sent) e
  | last {k : Kind} {ks : List Kind} {attempts : List Attempt} {e : Ending}
      (hne : changes.entities k ≠ []) (hsome : Attempts mode (changes.entities k) attempts e)
      (he : e ≠ .finished) :
      Blocks mode op changes (k :: ks) (block op k (changes.entities k).length attempts e)
        (attempts.map (·.call op)) e

/-- What is told about a phase first. -/
def preamble (op : Operation) (endpoint : String) (changes : Graph) : List Event :=
  [.phaseStarted (.ofOperation op) endpoint, .changesComputed (.ofOperation op) changes.counts]

/-- `PhaseStory o op idle endpoint changes events sent e`: the phase of an operation is skipped in a
    dry run and if there is nothing to do, and is otherwise told kind by kind. -/
inductive PhaseStory (o : Options) (op : Operation) (idle endpoint : String) (changes : Graph) :
    List Event → List (Mutation × Bool) → Ending → Prop where
  | dry (hdry : o.dryRun = true) :
      PhaseStory o op idle endpoint changes
        (preamble op endpoint changes ++ [.phaseSkipped (.ofOperation op) "dry run"]) [] .finished
  | idle (hdry : o.dryRun = false) (hempty : changes.isEmpty = true) :
      PhaseStory o op idle endpoint changes
        (preamble op endpoint changes ++ [.phaseSkipped (.ofOperation op) idle]) [] .finished
  | told {events : List Event} {sent : List (Mutation × Bool)} {e : Ending}
      (hdry : o.dryRun = false) (hne : changes.isEmpty = false)
      (hblocks : Blocks o.mode op changes (Phase.ofOperation op).order events sent e) :
      PhaseStory o op idle endpoint changes (preamble op endpoint changes ++ events) sent e

/-- The deletion phase is not even mentioned by a run that only inserts. -/
def DeletionStory (o : Options) (endpoint : String) (s d : Graph) (events : List Event)
    (sent : List (Mutation × Bool)) (e : Ending) : Prop :=
  if o.insertOnly then events = [] ∧ sent = [] ∧ e = .finished
  else PhaseStory o .delete "nothing to delete" endpoint (Graph.deletions s d) events sent e

/-- What is told about the kinds of a tenant that were read: how much there is of each. -/
def Graph.fetched (g : Graph) (ks : List Kind) : List Event :=
  ks.map fun k => .kindFetched k (g.entities k).length

/-- A tenant as a run meets it: where it is, what it holds, and which listings may fail. -/
structure Site where
  endpoint : String
  graph : Graph
  fails : Kind → Prop

/-- What is told while both tenants are read. -/
def readings (s d : Site) : List Event :=
  .phaseStarted .fetchSource s.endpoint :: s.graph.fetched Kind.insertOrder ++
    .phaseStarted .fetchDestination d.endpoint :: d.graph.fetched Kind.insertOrder

/-- Reading a tenant may break off after these events with this failure.  It names the kind that was
    to be told next, whose listing may fail. -/
def Unread (side : Side) (t : Site) (told : List Event) (f : SyncFailure) : Prop :=
  ∃ ks k rest, Kind.insertOrder = ks ++ k :: rest ∧ told = t.graph.fetched ks ∧ t.fails k ∧
    ∃ contexts, f.contexts = .fetchingSnapshot side :: .listing k t.endpoint :: contexts

/-- `Story s d o cancelled events sent out`: a run from `s` to `d` may tell these events, make these
    calls and return `out`.  `cancelled` is what has to be so if it was interrupted. -/
inductive Story (s d : Site) (o : Options) (cancelled : Prop) :
    List Event → List (Mutation × Bool) → Except SyncFailure Report → Prop where
  | sourceUnread {told : List Event} {f : SyncFailure} (hunread : Unread .source s told f) :
      Story s d o cancelled (.phaseStarted .fetchSource s.endpoint :: told) [] (.error f)
  | destinationUnread {told : List Event} {f : SyncFailure}
      (hunread : Unread .destination d told f) :
      Story s d o cancelled
        (.phaseStarted .fetchSource s.endpoint :: s.graph.fetched Kind.insertOrder ++
          .phaseStarted .fetchDestination d.endpoint :: told) [] (.error f)
  | undeleted {events : List Event} {sent : List (Mutation × Bool)} {e : Ending} (f : SyncFailure)
      (hdel : DeletionStory o d.endpoint s.graph d.graph events sent e) (hc : ¬ Complete sent e)
      (he : e = .interrupted → cancelled) :
      Story s d o cancelled (readings s d ++ events) sent (.error f)
  | uncreated {events events' : List Event} {sent sent' : List (Mutation × Bool)} {e e' : Ending}
      (f : SyncFailure) (hdel : DeletionStory o d.endpoint s.graph d.graph events sent e)
      (hc : Complete sent e)
      (hins : PhaseStory o .create "nothing to insert" d.endpoint
        (Graph.insertions s.graph d.graph) events' sent' e')
      (hc' : ¬ Complete sent' e') (he : e' = .interrupted → cancelled) :
      Story s d o cancelled (readings s d ++ events ++ events') (sent ++ sent') (.error f)
  | finished {events events' : List Event} {sent sent' : List (Mutation × Bool)} {e e' : Ending}
      (report : Report) (hdel : DeletionStory o d.endpoint s.graph d.graph events sent e)
      (hc : Complete sent e)
      (hins : PhaseStory o .create "nothing to insert" d.endpoint
        (Graph.insertions s.graph d.graph) events' sent' e')
      (hc' : Complete sent' e') :
      Story s d o cancelled (readings s d ++ events ++ events' ++ [.finished report])
        (sent ++ sent') (.ok report)

/-! ## The last word of a story -/

section
variable {o : Options} {mode : FailureMode} {op : Operation} {changes s d : Graph} {e : Ending}
  {events : List Event} {sent : List (Mutation × Bool)} {report : Report}

/-- Applying a kind never tells of the end of the run. -/
theorem finished_not_mem_block {k : Kind} {planned : Nat} {attempts : List Attempt} :
    .finished report ∉ block op k planned attempts e := by
  have htold : ∀ a : Attempt, a.event (.ofOperation op) k ≠ .finished report := by
    rintro ⟨x, _ | fault⟩ <;> nofun
  simp only [block, recount, List.mem_cons, List.mem_append, List.mem_map, reduceCtorEq, false_or,
    not_or, not_exists, not_and]
  refine ⟨fun a _ => htold a, ?_⟩
  split <;> simp

/-- A sweep over the kinds never tells of the end of the run. -/
theorem Blocks.finished_not_mem {ks : List Kind} (h : Blocks mode op changes ks events sent e) :
    .finished report ∉ events := by
  induction h with
  | nil => exact nofun
  | silent _ _ ih => exact ih
  | told _ _ _ ih => exact fun hm => (List.mem_append.mp hm).elim finished_not_mem_block ih
  | last => exact finished_not_mem_block

/-- A phase never tells of the end of the run. -/
theorem PhaseStory.finished_not_mem {idle endpoint : String}
    (h : PhaseStory o op idle endpoint changes events sent e) : .finished report ∉ events := by
  cases h with
  | dry | idle => simp [preamble]
  | told _ _ hblocks =>
    exact fun hm => (List.mem_append.mp hm).elim (by simp [preamble]) hblocks.finished_not_mem

/-- The deletions never tell of the end of the run. -/
theorem DeletionStory.finished_not_mem {endpoint : String}
    (h : DeletionStory o endpoint s d events sent e) : .finished report ∉ events := by
  rw [DeletionStory] at h
  split at h
  · rw [h.1]
    exact nofun
  · exact h.finished_not_mem

/-- Fetching a side never tells of the end of the run. -/
theorem finished_not_mem_fetched {g : Graph} {ks : List Kind} :
    .finished report ∉ g.fetched ks := by
  simp [Graph.fetched]

/-- Reading both sides never tells of the end of the run. -/
theorem finished_not_mem_readings {s d : Site} : .finished report ∉ readings s d := by
  simp [readings, finished_not_mem_fetched]

/-- A story tells of a report exactly if the run returns that report. -/
theorem Story.finished_mem_iff {s d : Site} {cancelled : Prop} {out : Except SyncFailure Report}
    (h : Story s d o cancelled events sent out) :
    .finished report ∈ events ↔ out = .ok report := by
  -- Only a story that is told to its end has the event, as its last.
  cases h with
  | sourceUnread hunread | destinationUnread hunread =>
    obtain ⟨ks, _, _, -, rfl, -⟩ := hunread
    simp [finished_not_mem_fetched]
  | undeleted f hdel => simp [finished_not_mem_readings, hdel.finished_not_mem]
  | uncreated f hdel _ hins =>
    simp [finished_not_mem_readings, hdel.finished_not_mem, hins.finished_not_mem]
  | finished report' hdel _ hins =>
    simp [finished_not_mem_readings, hdel.finished_not_mem, hins.finished_not_mem, eq_comm]

/-- The report of a run is the last that is told. -/
theorem Story.getLast?_eq_of_ok {s d : Site} {cancelled : Prop}
    (h : Story s d o cancelled events sent (.ok report)) :
    events.getLast? = some (.finished report) := by
  cases h with
  | finished => exact List.getLast?_concat ..

end

/-! ## Stretches of a run -/

section
variable {σ : Type}

/-- A stretch of a run that tells some events, makes some calls and ends in `e`. -/
structure Narrated (r : Run σ) (events : List Event) (sent : List (Mutation × Bool)) (r' : Run σ)
    (e : Ending) : Prop where
  events : r'.events = r.events ++ events
  mutations : r'.mutations = r.mutations ++ sent
  cancelled : e = .interrupted → r'.token.cancelled = true

namespace Narrated

variable {r r' r'' : Run σ} {events events' : List Event} {sent sent' : List (Mutation × Bool)}
  {e : Ending}

/-- A run that does nothing tells nothing. -/
theorem refl (r : Run σ) : Narrated r [] [] r .finished := ⟨by simp, by simp, nofun⟩

/-- A finished part and what comes after it, told one after the other. -/
theorem append (h : Narrated r events sent r' .finished) (h' : Narrated r' events' sent' r'' e) :
    Narrated r (events ++ events') (sent ++ sent') r'' e where
  events := by rw [h'.events, h.events, List.append_assoc]
  mutations := by rw [h'.mutations, h.mutations, List.append_assoc]
  cancelled := h'.cancelled

/-- An event told before. -/
theorem of_tell {ev : Event} (h : Narrated (r.tell ev) events sent r' e) :
    Narrated r (ev :: events) sent r' e :=
  ⟨by rw [h.events, Run.tell_events, List.append_assoc]; rfl,
    by rw [h.mutations, Run.tell_mutations], h.cancelled⟩

/-- An event told afterwards. -/
theorem tell (ev : Event) (h : Narrated r events sent r' e) (he : e ≠ .interrupted) :
    Narrated r (events ++ [ev]) sent (r'.tell ev) e :=
  ⟨by rw [Run.tell_events, h.events, List.append_assoc],
    by rw [Run.tell_mutations, h.mutations], fun hi => absurd hi he⟩

/-- One attempt, and then the rest. -/
theorem cons {ev : Event} {x : Mutation × Bool} (hev : r'.events = r.events ++ [ev])
    (hx : r'.mutations = r.mutations ++ [x]) (h : Narrated r' events sent r'' e) :
    Narrated r (ev :: events) (x :: sent) r'' e :=
  ⟨by rw [h.events, hev, List.append_assoc]; rfl,
    by rw [h.mutations, hx, List.append_assoc]; rfl, h.cancelled⟩

end Narrated

variable (c : Client σ) (mode : FailureMode) (op : Operation)

/-- The entities of a kind are told one by one.  Where the phase gives up, it says so at once. -/
theorem applyEntities_narrated (k : Kind) (planned : Nat) (es : List Entity) (applied : Nat)
    (pass : Pass) (r : Run σ) :
    ∃ attempts e,
      let told := recount (.ofOperation op) k attempts
      Attempts mode es attempts e ∧
      Narrated r
        (told ++ if e = .aborted then [.kindFinished (.ofOperation op) k
          (applied + told.countP Event.isApplied) planned] else [])
        (attempts.map (Attempt.call op))
        ((applyEntities c mode op k planned es applied pass).run r).2 e ∧
      Closes pass (attempts.map (Attempt.call op)) e
        (((applyEntities c mode op k planned es applied pass).run r).1.map Prod.snd) ∧
      ∀ x, ((applyEntities c mode op k planned es applied pass).run r).1 = .ok x →
        x.1 = applied + told.countP Event.isApplied := by
  obtain ⟨out, r', hrun, h⟩ := applyEntities_applies c mode op k planned es applied pass r
  simp only [hrun]
  clear hrun
  induction h with
  | finished applied pass r =>
    refine ⟨[], .finished, .finished, .refl r, ⟨rfl, by simp⟩, ?_⟩
    rintro x ⟨⟩
    rfl
  | @interrupted x es applied pass r hcancelled =>
    -- A run that is found cancelled tells nothing more, not even of this entity.
    exact ⟨[], .interrupted, .interrupted x es, ⟨by simp [recount], by simp, fun _ => hcancelled⟩,
      nofun, nofun⟩
  | @applied x es applied pass r r' s out _ _ _ ih =>
    obtain ⟨attempts, e, hattempts, hnarrated, hcloses, hcount⟩ := ih
    -- One more was applied, both in the counter and among the events.
    refine ⟨⟨x, none⟩ :: attempts, e, .applied hattempts, ?_, hcloses.applied _, ?_⟩
    · rw [add_countP_recount_applied]
      exact hnarrated.cons (by simp [Attempt.event]) (by simp [Attempt.call])
    · rw [add_countP_recount_applied]
      exact hcount
  | @aborted x es applied pass r s fault hmode =>
    -- The counter stands where it stood before the failure.
    refine ⟨[⟨x, some fault⟩], .aborted, .aborted x es fault hmode, ⟨?_, ?_, nofun⟩, nofun, nofun⟩
    · rw [countP_recount_failed]
      simp [recount, Attempt.event]
    · simp [Attempt.call]
  | @failed x es applied pass r r' s fault out hmode _ _ _ ih =>
    obtain ⟨attempts, e, hattempts, hnarrated, hcloses, hcount⟩ := ih
    refine ⟨⟨x, some fault⟩ :: attempts, e, .failed fault hmode hattempts, ?_, hcloses.failed _, ?_⟩
    · rw [countP_recount_failed]
      exact hnarrated.cons (by simp [Attempt.event]) (by simp [Attempt.call])
    · rw [countP_recount_failed]
      exact hcount

/-- A kind with entities is told as a block. -/
theorem applyKind_narrated (changes : Graph) (k : Kind) (hne : changes.entities k ≠ [])
    (pass : Pass) (r : Run σ) :
    ∃ attempts e,
      Attempts mode (changes.entities k) attempts e ∧
      Narrated r (block op k (changes.entities k).length attempts e)
        (attempts.map (Attempt.call op)) ((applyKind c mode op changes k pass).run r).2 e ∧
      Closes pass (attempts.map (Attempt.call op)) e
        ((applyKind c mode op changes k pass).run r).1 := by
  simp only [applyKind, List.isEmpty_iff, hne, if_false, SyncM.run_bind, SyncM.run_emit]
  obtain ⟨attempts, e, hattempts, hnarrated, hcloses, hcount⟩ := applyEntities_narrated c mode op k
    (changes.entities k).length (changes.entities k) 0 pass
    (r.tell (.kindStarted (.ofOperation op) k (changes.entities k).length))
  refine ⟨attempts, e, hattempts, ?_⟩
  rcases hrun : (applyEntities c mode op k (changes.entities k).length (changes.entities k) 0
    pass).run _ with ⟨f | ⟨applied, after⟩, r'⟩ <;> rw [hrun] at hnarrated hcloses hcount
  case error =>
    -- The last word was said where the phase gave up, or it is missing.
    refine ⟨?_, hcloses⟩
    cases e with
    | finished => exact absurd rfl hcloses
    | interrupted | aborted => simpa [block] using hnarrated.of_tell
  case ok =>
    obtain rfl := hcloses.1
    obtain rfl := hcount _ rfl
    refine ⟨?_, hcloses⟩
    simpa [block] using hnarrated.of_tell.tell _ (by decide)

/-- What applying several kinds tells, by induction on them. -/
theorem applyKinds_narrated (changes : Graph) (ks : List Kind) (pass : Pass) (r : Run σ) :
    ∃ events sent e,
      Blocks mode op changes ks events sent e ∧
      Narrated r events sent ((applyKinds c mode op changes ks pass).run r).2 e ∧
      Closes pass sent e ((applyKinds c mode op changes ks pass).run r).1 := by
  induction ks generalizing pass r with
  | nil => exact ⟨[], [], .finished, .nil, .refl r, rfl, by simp⟩
  | cons k ks ih =>
    simp only [applyKinds, SyncM.run_bind]
    by_cases hempty : changes.entities k = []
    · simp only [applyKind, hempty, List.isEmpty_nil, if_true, SyncM.run_pure]
      obtain ⟨events, sent, e, hblocks, hrest⟩ := ih pass r
      exact ⟨events, sent, e, .silent hempty hblocks, hrest⟩
    obtain ⟨attempts, e, hattempts, hnarrated, hcloses⟩ :=
      applyKind_narrated c mode op changes k hempty pass r
    rcases hrun : (applyKind c mode op changes k pass).run r with ⟨f | mid, r'⟩ <;>
      rw [hrun] at hnarrated hcloses
    case error => exact ⟨_, _, e, .last hempty hattempts hcloses, hnarrated, hcloses⟩
    case ok =>
      -- A result for one kind means that its block is whole, so the next can follow.
      obtain ⟨events, sent, e', hblocks, hnarrated', hcloses'⟩ := ih mid r'
      obtain rfl := hcloses.1
      exact ⟨_, _, e', .told hempty hattempts hblocks, hnarrated.append hnarrated',
        hcloses.append hcloses'⟩

/-- A phase is told in the order of its operation, and succeeds exactly if all it attempted did. -/
theorem changePhase_narrated (o : Options) (idle : String) (changes : Graph) (r : Run σ) :
    ∃ events sent e,
      PhaseStory o op idle c.endpoint changes events sent e ∧
      Narrated r events sent ((changePhase c o op idle changes).run r).2 e ∧
      (Complete sent e ↔ ((changePhase c o op idle changes).run r).1.isOk = true) := by
  simp only [changePhase, SyncM.run_bind, SyncM.run_emit]
  -- A dry run says that it is one even if there is nothing to do.
  by_cases hdry : o.dryRun = true
  · simp only [hdry, if_true, SyncM.run_bind, SyncM.run_emit, SyncM.run_pure]
    exact ⟨_, [], .finished, .dry hdry, ((Narrated.refl _).tell _ (by decide)).of_tell.of_tell,
      iff_of_true .nil rfl⟩
  by_cases hempty : changes.isEmpty = true
  · simp only [hdry, hempty, Bool.false_eq_true, if_false, if_true, SyncM.run_bind, SyncM.run_emit,
      SyncM.run_pure]
    exact ⟨_, [], .finished, .idle (Bool.not_eq_true _ ▸ hdry) hempty,
      ((Narrated.refl _).tell _ (by decide)).of_tell.of_tell, iff_of_true .nil rfl⟩
  rw [Bool.not_eq_true] at hdry hempty
  simp only [hdry, hempty, Bool.false_eq_true, if_false, SyncM.run_bind, SyncM.run_within]
  obtain ⟨events, sent, e, hblocks, hnarrated, hcloses⟩ := applyKinds_narrated c o.mode op changes
    op.order {} ((r.tell (.phaseStarted (.ofOperation op) c.endpoint)).tell
      (.changesComputed (.ofOperation op) changes.counts))
  -- Looking at the books tells nothing, so the blocks are all there is.
  obtain ⟨hend, hok⟩ := hcloses.applyChanges
  rw [← hend] at hnarrated
  rw [op.order_eq_phase_order] at hblocks
  refine ⟨_, sent, e, .told hdry hempty hblocks, ?_⟩
  rcases hrun : (applyChanges c o.mode op changes).run _ with ⟨f | applied, r'⟩ <;>
    rw [hrun] at hnarrated hok <;> exact ⟨hnarrated.of_tell.of_tell, hok⟩

/-- The deletion phase is told as well, or passed over in silence. -/
theorem deletionPhase_narrated (o : Options) (s d : Graph) (r : Run σ) :
    ∃ events sent e,
      DeletionStory o c.endpoint s d events sent e ∧
      Narrated r events sent ((deletionPhase c o s d).run r).2 e ∧
      (Complete sent e ↔ ((deletionPhase c o s d).run r).1.isOk = true) := by
  simp only [deletionPhase, DeletionStory]
  -- An insert-only run tells nothing of deletions.
  by_cases hins : o.insertOnly = true
  · simp only [hins, if_true, SyncM.run_pure]
    exact ⟨[], [], .finished, ⟨rfl, rfl, rfl⟩, .refl r, iff_of_true .nil rfl⟩
  simp only [hins, Bool.false_eq_true, if_false, SyncM.run_bind]
  obtain ⟨events, sent, e, hstory, hnarrated, hok⟩ :=
    changePhase_narrated c .delete o "nothing to delete" (Graph.deletions s d) r
  refine ⟨events, sent, e, hstory, ?_⟩
  rcases hrun : (changePhase c o .delete "nothing to delete" (Graph.deletions s d)).run r
    with ⟨f | x, r'⟩ <;> rw [hrun] at hnarrated hok <;> exact ⟨hnarrated, hok⟩

end

/-! ## Reading -/

section
variable {σ α β : Type} {stops : Prop} {W : σ → Prop} {t : Site} {x : α} {y : β} {ks : List Kind}

/-- The step reads `x` from any world in `W`, stays there and sends no mutation.  It lists kinds of
    a tenant and tells of each; where it fails, the failure names the kind that was to be told
    next. -/
def SyncM.Recites (stops : Prop) (W : σ → Prop) (t : Site) (x : α) (ks : List Kind)
    (m : SyncM σ α) : Prop :=
  ∀ r : Run σ, W r.world → r.token.FreshUnless stops →
    W (m.run r).2.world ∧ (m.run r).2.token.FreshUnless stops ∧
      (m.run r).2.mutations = r.mutations ∧
      ∃ told, (m.run r).2.events = r.events ++ t.graph.fetched told ∧
        match (m.run r).1 with
        | .ok z => z = x ∧ told = ks
        | .error f => ∃ k rest, ks = told ++ k :: rest ∧ t.fails k ∧
            f.contexts.head? = some (.listing k t.endpoint)

namespace SyncM.Recites

/-- Returning a value tells nothing. -/
theorem pure (x : α) : Recites stops W t x [] (Pure.pure x) :=
  fun _ hw ht => ⟨hw, ht, rfl, [], (List.append_nil _).symm, rfl, rfl⟩

/-- A kind is listed and told of, and then the rest. -/
theorem list {c : Call σ α} {P : Prop} {k : Kind} (hc : Call.Reads stops W P x c)
    (hfails : stops ∨ ¬ P → t.fails k) {ev : α → Event}
    (hev : ev x = .kindFetched k (t.graph.entities k).length) {m : α → SyncM σ β}
    (hm : Recites stops W t y ks (m x)) :
    Recites stops W t y (k :: ks) (do
      let z ← (SyncM.call c).within (.listing k t.endpoint)
      SyncM.emit (ev z)
      m z) := by
  intro r hw ht
  obtain ⟨hw', ht', hout⟩ := hc r.session hw ht
  rw [run_bind, run_within, run_call]
  -- The call itself tells nothing.
  rcases hrun : c.run r.session with ⟨f | z, s⟩ <;> rw [hrun] at hw' ht' hout
  case error =>
    exact ⟨hw', ht.resume ht', r.resume_mutations s, [], by simp [Except.mapError, Graph.fetched],
      k, ks, rfl, hfails hout, rfl⟩
  case ok =>
    obtain ⟨-, rfl⟩ := hout
    obtain ⟨hw'', ht'', hsent, told, htold, hbreak⟩ :=
      hm ((r.resume s).tell (ev z)) hw' ((ht.resume ht').tell _)
    simp only [Except.mapError, run_bind, run_emit]
    refine ⟨hw'', ht'', by rw [hsent, Run.tell_mutations, Run.resume_mutations], k :: told, ?_, ?_⟩
    · rw [htold, Run.tell_events, Run.resume_events, hev, List.append_assoc]
      rfl
    · rcases hfst : ((m z).run ((r.resume s).tell (ev z))).1 with f | z' <;> rw [hfst] at hbreak
      · obtain ⟨k', rest, rfl, hf⟩ := hbreak
        exact ⟨k', rest, rfl, hf⟩
      · exact ⟨hbreak.1, congrArg _ hbreak.2⟩

end SyncM.Recites

/-- A client with the graph that its listings read, and the kinds whose listing may fail. -/
def Client.site (stops : Prop) (P : Kind → Prop) (g : Graph) (c : Client σ) : Site :=
  ⟨c.endpoint, g, fun k => stops ∨ ¬ P k⟩

variable {P Q : Kind → Prop} {g s d : Graph} {c source destination : Client σ}

/-- A snapshot is told kind by kind. -/
theorem fetchSnapshot_recites (h : c.Lists stops W P g) :
    SyncM.Recites stops W (c.site stops P g) g Kind.insertOrder (fetchSnapshot c) := by
  rw [fetchSnapshot]
  refine .list h.objectTypes id (by simp [Client.site, Graph.entities]) ?_
  refine .list h.objects id (by simp [Client.site, Graph.entities]) ?_
  refine .list h.edgeTypes id (by simp [Client.site, Graph.entities]) ?_
  refine .list h.edges id (by simp [Client.site, Graph.entities]) ?_
  exact .pure g

/-- So reading a tenant is told to its end, or breaks off. -/
theorem fetchSnapshot_told (h : c.Lists stops W P g) (side : Side) {r : Run σ} (hw : W r.world)
    (ht : r.token.FreshUnless stops) :
    let out := ((fetchSnapshot c).within (.fetchingSnapshot side)).run r
    W out.2.world ∧ out.2.token.FreshUnless stops ∧ out.2.mutations = r.mutations ∧
      ∃ told, out.2.events = r.events ++ told ∧
        match out.1 with
        | .ok z => z = g ∧ told = g.fetched Kind.insertOrder
        | .error f => Unread side (c.site stops P g) told f := by
  obtain ⟨hw', ht', hsent, told, htold, hbreak⟩ := fetchSnapshot_recites h r hw ht
  simp only [SyncM.run_within]
  refine ⟨hw', ht', hsent, g.fetched told, htold, ?_⟩
  -- A reading that broke off did so at the kind after those that were told.
  rcases hfst : ((fetchSnapshot c).run r).1 with f | z <;> rw [hfst] at hbreak
  case ok => exact ⟨hbreak.1, congrArg g.fetched hbreak.2⟩
  case error =>
    obtain ⟨k, rest, hkinds, hfails, hf⟩ := hbreak
    obtain ⟨contexts, hcontexts⟩ := List.head?_eq_some_iff.mp hf
    exact ⟨told, k, rest, hkinds, rfl, hfails, contexts, congrArg (_ :: ·) hcontexts⟩

/-! ## Runs -/

/-- Once both tenants are read, a run goes on with its phases and reports at the end. -/
theorem carryOut_story (source : Client σ) {s d : Site} (hd : d.endpoint = destination.endpoint)
    (o : Options) (started : Int) (r : Run σ) :
    ∃ events sent,
      let out := (carryOut source destination o started s.graph d.graph).run r
      out.2.events = r.events ++ events ∧ out.2.mutations = r.mutations ++ sent ∧
      Story s d o (out.2.token.cancelled = true) (readings s d ++ events) sent out.1 := by
  obtain ⟨events, sent, e, hdel, hnarrated, hok⟩ :=
    deletionPhase_narrated destination o s.graph d.graph r
  rw [← hd] at hdel
  simp only [run_carryOut, phases, SyncM.run_bind]
  rcases hrun : (deletionPhase destination o s.graph d.graph).run r
    with ⟨f | ⟨planned?, deleted⟩, r'⟩ <;> rw [hrun] at hnarrated hok
  case error =>
    exact ⟨events, sent, hnarrated.events, hnarrated.mutations,
      .undeleted f hdel (fun hc => Bool.false_ne_true (hok.mp hc)) hnarrated.cancelled⟩
  case ok =>
    have hc : Complete sent e := hok.mpr rfl
    obtain ⟨events', sent', e', hins, hnarrated', hok'⟩ := changePhase_narrated destination .create
      o "nothing to insert" (Graph.insertions s.graph d.graph) r'
    rw [← hd] at hins
    have hboth := (hc.1 ▸ hnarrated).append hnarrated'
    dsimp only
    rcases hrun' : (changePhase destination o .create "nothing to insert"
      (Graph.insertions s.graph d.graph)).run r' with ⟨f | ⟨planned, inserted⟩, r''⟩ <;>
      rw [hrun'] at hboth hok'
    case error =>
      refine ⟨events ++ events', sent ++ sent', hboth.events, hboth.mutations, ?_⟩
      rw [← List.append_assoc]
      exact .uncreated f hdel hc hins (fun hc' => Bool.false_ne_true (hok'.mp hc')) hboth.cancelled
    case ok =>
      -- The report is the last event; the line behind it and the clock are no events.
      simp only [SyncM.run_pure, run_conclude, Run.write_events, Run.tell_events, Run.tick_events,
        Run.write_mutations, Run.tell_mutations, Run.tick_mutations]
      have hlast (report : Report) : r''.events ++ [.finished report] =
          r.events ++ (events ++ events' ++ [.finished report]) := by
        rw [hboth.events, List.append_assoc]
      refine ⟨_, sent ++ sent', hlast _, hboth.mutations, ?_⟩
      rw [← List.append_assoc, ← List.append_assoc]
      exact .finished _ hdel hc hins (hok'.mpr rfl)

/-- Every run between clients that list two graphs tells one of the stories about them. -/
theorem synchronize_story (hs : source.Lists stops W P s) (hd : destination.Lists stops W Q d)
    (o : Options) {r : Run σ} (hw : W r.world) (ht : r.token.FreshUnless stops) :
    ∃ events sent,
      let out := (synchronize source destination o).run r
      out.2.events = r.events ++ events ∧ out.2.mutations = r.mutations ++ sent ∧
      Story (source.site stops P s) (destination.site stops Q d) o (out.2.token.cancelled = true)
        events sent out.1 := by
  -- Whatever fails while the tenants are read, no mutation was sent yet.
  obtain ⟨hw', ht', hsent, told, htold, hsource⟩ := fetchSnapshot_told hs .source
    (r := (r.tick.write _).tell (.phaseStarted .fetchSource source.endpoint)) hw
    ((ht.tick.write _).tell _)
  simp only [Run.tell_events, Run.write_events, Run.tick_events, Run.tell_mutations,
    Run.write_mutations, Run.tick_mutations] at hsent htold
  simp only [run_synchronize, snapshots, SyncM.run_bind, SyncM.run_log, SyncM.run_emit]
  rcases hrun : (SyncM.within (.fetchingSnapshot .source) (fetchSnapshot source)).run _
    with ⟨f | s', r'⟩ <;> rw [hrun] at hw' ht' hsent htold hsource
  case error =>
    exact ⟨_, [], htold.trans (List.append_assoc ..), by simpa using hsent, .sourceUnread hsource⟩
  case ok =>
    obtain ⟨rfl, rfl⟩ := hsource
    obtain ⟨-, -, hsent', told, htold', hdestination⟩ := fetchSnapshot_told hd .destination
      (r := r'.tell (.phaseStarted .fetchDestination destination.endpoint)) hw' (ht'.tell _)
    simp only [Run.tell_events, Run.tell_mutations, hsent, htold] at hsent' htold'
    dsimp only
    rcases hrun' : (SyncM.within (.fetchingSnapshot .destination) (fetchSnapshot destination)).run _
      with ⟨f | d', r''⟩ <;> rw [hrun'] at hsent' htold' hdestination
    case error =>
      exact ⟨_, [], htold'.trans (by simp only [List.append_assoc]; rfl), by simpa using hsent',
        .destinationUnread hdestination⟩
    case ok =>
      -- Both snapshots are exact, so the phases are about the graphs themselves.
      obtain ⟨rfl, rfl⟩ := hdestination
      obtain ⟨events, sent, hevents, hmutations, hstory⟩ := carryOut_story source
        (s := source.site stops P s') (d := destination.site stops Q d') rfl o r.clock.now r''
      have hread : r''.events =
          r.events ++ readings (source.site stops P s') (destination.site stops Q d') := by
        simpa [readings, Client.site] using htold'
      rw [hread, List.append_assoc] at hevents
      rw [show r''.mutations = r.mutations from hsent'] at hmutations
      exact ⟨_, sent, hevents, hmutations, hstory⟩

end

end TenantSync
