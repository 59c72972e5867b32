import TenantSync.Proofs.Sync.Narration

/-!
# What a run announces

A phase opens with its headlines: that it started, and how much it is about to change.  All else
that a run tells belongs under one of them, so the headlines of a story are known from where it
breaks off.  `Story.announced_eq` says what a run announces for each phase that it starts: the sizes of
the differences between the two graphs as they were read, whatever was applied in between, and
whether or not anything is applied at all.
-/

namespace TenantSync

/-- The event opens a phase. -/
def Event.isHeadline : Event → Bool
  | .phaseStarted .. | .changesComputed .. => true
  | _ => false

/-- The events that open the phases of a run. -/
def headlines (events : List Event) : List Event := events.filter Event.isHeadline

/-- The changes that are announced for a phase. -/
def announced (phase : Phase) (events : List Event) : List Counts :=
  events.filterMap fun
    | .changesComputed p changes => if p = phase then some changes else none
    | _ => none

/-- The events tell that a phase was started. -/
def Starts (phase : Phase) (events : List Event) : Prop :=
  ∃ endpoint, .phaseStarted phase endpoint ∈ events

/-- What a run between two graphs has to announce for a phase. -/
def Options.announces (o : Options) (s d : Graph) : Phase → List Counts
  | .fetchSource | .fetchDestination => []
  | .delete => if o.insertOnly then [] else [(Graph.deletions s d).counts]
  | .insert => [(Graph.insertions s d).counts]

/-- The headlines of a story told in two parts. -/
theorem headlines_append (events events' : List Event) :
    headlines (events ++ events') = headlines events ++ headlines events' :=
  List.filter_append ..

/-- Announcements are headlines. -/
theorem announced_headlines (phase : Phase) (events : List Event) :
    announced phase (headlines events) = announced phase events := by
  rw [announced, headlines, List.filterMap_filter]
  refine List.filterMap_congr fun ev _ => ?_
  cases ev <;> rfl

/-- A phase is started in the headlines exactly when it is in the story. -/
theorem starts_headlines (phase : Phase) (events : List Event) :
    Starts phase (headlines events) ↔ Starts phase events := by
  simp [Starts, headlines, Event.isHeadline]

section
variable {o : Options} {mode : FailureMode} {op : Operation} {changes s d : Graph} {e : Ending}
  {events : List Event} {sent : List (Mutation × Bool)}

/-- What is told about applying a kind has no headline. -/
theorem headlines_block (k : Kind) (planned : Nat) (attempts : List Attempt) :
    headlines (block op k planned attempts e) = [] := by
  have htold : headlines (recount (.ofOperation op) k attempts) = [] := by
    rw [headlines, List.filter_eq_nil_iff, recount, List.forall_mem_map]
    rintro ⟨x, _ | fault⟩ - <;> exact Bool.false_ne_true
  rw [block, headlines_append, headlines, List.filter_cons_of_neg Bool.false_ne_true, ← headlines,
    htold]
  split <;> rfl

/-- What is told about a sweep over the kinds has no headline. -/
theorem Blocks.headlines {ks : List Kind} (h : Blocks mode op changes ks events sent e) :
    headlines events = [] := by
  induction h with
  | nil => rfl
  | silent _ _ ih => exact ih
  | told _ _ _ ih => rw [headlines_append, headlines_block, ih, List.append_nil]
  | last => exact headlines_block ..

/-- A phase has the same headlines whether it is carried out or skipped. -/
theorem PhaseStory.headlines {idle endpoint : String}
    (h : PhaseStory o op idle endpoint changes events sent e) :
    headlines events = preamble op endpoint changes := by
  cases h with
  | dry | idle => rfl
  | told _ _ hblocks =>
    rw [headlines_append, hblocks.headlines, List.append_nil]
    rfl

/-- The headlines of the deletions are their preamble, unless the run only inserts. -/
theorem DeletionStory.headlines {endpoint : String}
    (h : DeletionStory o endpoint s d events sent e) :
    headlines events =
      if o.insertOnly then [] else preamble .delete endpoint (Graph.deletions s d) := by
  rw [DeletionStory] at h
  split at h
  · rw [if_pos ‹_›, h.1]
    rfl
  · rw [if_neg ‹_›]
    exact h.headlines

/-- Reading a tenant has one headline, however far it comes. -/
theorem headlines_fetching (phase : Phase) (endpoint : String) (g : Graph) (ks : List Kind) :
    headlines (.phaseStarted phase endpoint :: g.fetched ks) = [.phaseStarted phase endpoint] := by
  simp [headlines, Graph.fetched, List.filter_cons, Event.isHeadline]

/-- Reading both sides has a headline for each. -/
theorem headlines_readings (s d : Site) :
    headlines (readings s d) =
      [.phaseStarted .fetchSource s.endpoint, .phaseStarted .fetchDestination d.endpoint] := by
  rw [readings, headlines_append, headlines_fetching, headlines_fetching, List.singleton_append]

/-- The headlines of a run that comes to all its phases announce what there is to announce. -/
theorem announced_all (o : Options) (s d : Site) (phase : Phase) :
    announced phase
        ([.phaseStarted .fetchSource s.endpoint, .phaseStarted .fetchDestination d.endpoint] ++
          (if o.insertOnly then []
            else preamble .delete d.endpoint (Graph.deletions s.graph d.graph)) ++
          preamble .create d.endpoint (Graph.insertions s.graph d.graph)) =
      o.announces s.graph d.graph phase := by
  by_cases hins : o.insertOnly = true <;> cases phase <;>
    simp [announced, preamble, Options.announces, Phase.ofOperation, hins]

/-- For each phase that a run starts, and for all phases of a run that succeeds, it announces the
    changes between what both tenants held when they were read. -/
theorem Story.announced_eq {s d : Site} {cancelled : Prop} {out : Except SyncFailure Report}
    {phase : Phase} (h : Story s d o cancelled events sent out)
    (hstart : Starts phase events ∨ out.isOk = true) :
    announced phase events = o.announces s.graph d.graph phase := by
  -- Only the headlines matter, and those are known from where the story breaks off.
  rw [← starts_headlines] at hstart
  rw [← announced_headlines]
  cases h with
  | sourceUnread hunread =>
    obtain ⟨ks, _, _, -, rfl, -⟩ := hunread
    rw [headlines_fetching] at hstart ⊢
    cases phase <;> simp_all [Starts, announced, Options.announces, Except.isOk, Except.toBool]
  | destinationUnread hunread =>
    obtain ⟨ks, _, _, -, rfl, -⟩ := hunread
    rw [headlines_append, headlines_fetching, headlines_fetching] at hstart ⊢
    cases phase <;> simp_all [Starts, announced, Options.announces, Except.isOk, Except.toBool]
  | undeleted f hdel =>
    rw [headlines_append, headlines_readings, hdel.headlines] at hstart ⊢
    cases phase <;> by_cases hins : o.insertOnly = true <;>
      simp_all [Starts, preamble, announced, Options.announces, Phase.ofOperation, Except.isOk,
        Except.toBool]
  | uncreated f hdel _ hins =>
    rw [headlines_append, headlines_append, headlines_readings, hdel.headlines, hins.headlines]
    exact announced_all ..
  | finished report hdel hc hins hc' =>
    rw [headlines_append, headlines_append, headlines_append, headlines_readings, hdel.headlines,
      hins.headlines, show headlines [.finished report] = [] from rfl, List.append_nil]
    exact announced_all ..

end

end TenantSync
