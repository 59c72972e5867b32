import TenantSync.Proofs.Sync.Relation
import TenantSync.Proofs.Sync.Trace

/-!
# Steps of a run next to the same steps, cut off

A run is cancelled right after some event, or never.  It is compared with the same run over marked
clients that nobody cancels.  `CleanCut` says of a step how the two fare: either they do the same,
but for the marks, and since the event there was neither a call nor a mutation; or the first call
since then has come, and the cancelled run failed there and stands still, with all that had
happened by the event and nothing else.

Clean cuts are put together from clean cuts (`CleanCut.steps`), and the parts are where the token is
looked at: the listings (`CleanCut.call`) and the mutations (`send_cut`).  A client whose calls fit
them is one that `Client.Marks` another.
-/

namespace TenantSync

/-! ## The token -/

/-- The token of a run that has told a number of events, if it is cancelled right after the event
    given by `cut`. -/
def cutToken (cut : Option Nat) (told : Nat) : CancelToken :=
  match cut with
  | none => .fresh
  | some n => ⟨decide (n ≤ told), .afterEvents n⟩

/-- A token cut at an event is steady between events. -/
theorem cutToken_steady (cut : Option Nat) (told : Nat) : (cutToken cut told).Steady := by
  cases cut <;> exact ⟨rfl, fun _ => rfl⟩

/-- After the next event the token is the one cut for that event. -/
theorem cutToken_afterEvent (cut : Option Nat) (told : Nat) :
    (cutToken cut told).afterEvent (told + 1) = cutToken cut (told + 1) := by
  cases cut with
  | none => rfl
  | some n =>
    -- The event that is told now is the one to cut at, or cancelling was decided before.
    have h : (decide (n ≤ told) || told + 1 == n) = decide (n ≤ told + 1) := by
      rw [Bool.eq_iff_iff]
      simp only [Bool.or_eq_true, decide_eq_true_eq, beq_iff_eq]
      omega
    simp only [cutToken, CancelToken.afterEvent, h]

/-- A token cut at an event is cancelled once that event has been told. -/
theorem cutToken_cancelled {cut : Option Nat} {told : Nat} :
    (cutToken cut told).cancelled = true ↔ ∃ n ∈ cut, n ≤ told := by
  cases cut <;> simp [cutToken, CancelToken.fresh]

/-! ## The two runs -/

/-- Since the event given by `cut` there was neither a call nor a mutation. -/
def Quiet (cut : Option Nat) (trace : List Item) : Prop :=
  ∀ n ∈ cut, ∀ x ∈ afterEvent n trace, x.Idle

/-- A quiet trace stays quiet when only idle items follow. -/
theorem Quiet.append {cut : Option Nat} {xs ys : List Item} (h : Quiet cut xs)
    (hys : ∀ y ∈ ys, y.Idle) : Quiet cut (xs ++ ys) :=
  fun n hn x hx => (mem_afterEvent_append hx).elim (h n hn x) (hys x)

/-- Before the event there is nothing to say. -/
theorem Quiet.of_not_cancelled {cut : Option Nat} {trace : List Item}
    (h : ¬ (cutToken cut (traceEvents trace).length).cancelled = true) : Quiet cut trace := by
  intro n hn x hx
  have hlt : (traceEvents trace).length < n :=
    Nat.lt_of_not_le fun hle => h (cutToken_cancelled.mpr ⟨n, hn, hle⟩)
  rw [afterEvent_of_lt hlt] at hx
  exact nomatch hx

/-- So all mutations of such a run were sent by the event. -/
theorem Quiet.traceMutations_eq {n : Nat} {trace : List Item} (h : Quiet (some n) trace) :
    traceMutations trace = traceMutations (throughEvent n trace) := by
  -- What comes after the event is idle, so it holds no mutation.
  have hafter : traceMutations (afterEvent n trace) = [] := by
    refine List.filterMap_eq_nil_iff.mpr fun x hx => ?_
    have hidle := (h n rfl x hx).2
    cases x with
    | mutation m ok => exact absurd rfl (hidle m ok)
    | event | line => rfl
  rw [← throughEvent_append_afterEvent n trace, traceMutations_append, hafter, List.append_nil,
    throughEvent_append_afterEvent]

/-- The run without marks, under a clock of its own and a token that is cancelled by `cut`. -/
def Run.echo {σ : Type} (cut : Option Nat) (k : Clock) (r : Run σ) : Run σ :=
  ⟨r.world, cutToken cut (traceEvents r.trace).length, k, unmarkedTrace r.trace⟩

namespace Run

variable {σ : Type} {cut : Option Nat} {k : Clock}

/-- Telling an event commutes with the echo. -/
theorem echo_tell (r : Run σ) (e : Event) : (r.echo cut k).tell e = (r.tell e).echo cut k := by
  have htold : (traceEvents (r.trace ++ [.event e])).length = (traceEvents r.trace).length + 1 := by
    simp [traceEvents]
  have htrace : unmarkedTrace (r.trace ++ [.event e]) = unmarkedTrace r.trace ++ [.event e] := by
    simp [unmarkedTrace]
  simp only [tell, echo, ← htrace, traceEvents_unmarkedTrace, htold, cutToken_afterEvent]

/-- Writing a line commutes with the echo, if no marked call left it. -/
theorem echo_write (r : Run σ) {l : LogLine} (hl : l ≠ callLine) :
    (r.echo cut k).write l = (r.write l).echo cut k := by
  have htold : traceEvents (r.trace ++ [.line l]) = traceEvents r.trace := by simp [traceEvents]
  simp [write, echo, unmarkedTrace, htold, hl, (cutToken_steady cut _).afterLine]

/-- Noting a call commutes with the echo. -/
theorem echo_note (r : Run σ) (m : Mutation) (ok : Bool) :
    (r.echo cut k).note m ok = (r.note m ok).echo cut k := by
  simp only [echo, traceEvents_note]
  simp [note, unmarkedTrace]

/-- Looking at an echo's token does not change it. -/
theorem echo_look (r : Run σ) : (r.echo cut k).look = r.echo cut k := by
  simp only [look, echo, (cutToken_steady cut _).look]

/-- The session of an echo is the echo of the session. -/
theorem echo_session (r : Run σ) :
    (r.echo cut k).session = r.session.echo (cutToken cut (traceEvents r.trace).length) k := rfl

/-- A call that was not cancelled leaves the two runs as they were to each other. -/
theorem echo_resume (r : Run σ) (s : Session σ) :
    (r.echo cut k).resume (s.echo (cutToken cut (traceEvents r.trace).length) k) =
      (r.resume s).echo cut k := by
  have htrace : unmarkedTrace (r.resume s).trace =
      unmarkedTrace r.trace ++ (unmarked s.log).map .line := by
    rw [← unmarkedTrace_map_line]
    exact List.filter_append ..
  simp only [echo, traceEvents_resume, htrace]
  simp only [resume, Session.echo, Bool.or_self]

/-- A call that left everything as it was is as if it had not been made. -/
theorem resume_session (r : Run σ) : r.resume r.session = r := by
  simp only [resume, session, Bool.or_self, List.map_nil, List.append_nil]

end Run

section
variable {σ : Type} (books : List (Mutation × Bool) → σ → Prop)

/-- A run that nobody cancels and whose world is what its mutations made of it. -/
structure Run.Live (r : Run σ) : Prop where
  token : r.token = .fresh
  booked : books r.mutations r.world

/-- The second run stands still where a longer trace has its first call after the event. -/
def Halted (cut : Option Nat) (trace : List Item) (r : Run σ) : Prop :=
  ∃ n ∈ cut, ∃ common rest, trace = common ++ rest ∧ .line callLine ∈ rest ∧
    n ≤ (traceEvents common).length ∧ Quiet cut common ∧ r.trace = unmarkedTrace common ∧
    books (traceMutations common) r.world

/-- The first step, over marked clients in a run that nobody cancels, next to the second, in a run
    that is cancelled by `cut`: they do the same, or the second comes to a halt. -/
structure CleanCut {α : Type} (cut : Option Nat) (k : Clock) (m m' : SyncM σ α) : Prop where
  live : ∀ r, r.Live books → (m.run r).2.Live books ∧ (m.run r).2.clock = r.clock ∧
    r.trace <+: (m.run r).2.trace
  echo : ∀ r, r.Live books → Quiet cut r.trace →
    (m'.run (r.echo cut k) = ((m.run r).1, (m.run r).2.echo cut k) ∧
      Quiet cut (m.run r).2.trace) ∨
    ((∃ f, (m'.run (r.echo cut k)).1 = .error f) ∧
      Halted books cut (m.run r).2.trace (m'.run (r.echo cut k)).2)

end

variable {σ α β : Type} {books : List (Mutation × Bool) → σ → Prop} {cut : Option Nat} {k : Clock}

/-- Who stands still stands still however the other goes on. -/
theorem Halted.mono {trace trace' : List Item} {r : Run σ} (h : Halted books cut trace r)
    (ht : trace <+: trace') : Halted books cut trace' r := by
  obtain ⟨n, hn, common, rest, rfl, hcall, hrest⟩ := h
  obtain ⟨more, rfl⟩ := ht
  exact ⟨n, hn, common, rest ++ more, List.append_assoc .., List.mem_append_left _ hcall, hrest⟩

namespace Run.Live

variable {r : Run σ}

/-- A live run stays live over an event. -/
theorem tell (h : r.Live books) (e : Event) : (r.tell e).Live books :=
  ⟨by simp only [Run.tell, h.token]; rfl, by simpa using h.booked⟩

/-- A live run stays live over a log line. -/
theorem write (h : r.Live books) (l : LogLine) : (r.write l).Live books :=
  ⟨by simp only [Run.write, h.token]; rfl, by simpa using h.booked⟩

/-- Looking at a live run's token does not change it. -/
theorem look (h : r.Live books) : r.look = r := by
  obtain ⟨world, token, clock, trace⟩ := r
  obtain rfl : token = .fresh := h.token
  rfl

end Run.Live

namespace CleanCut

variable {m m' : SyncM σ α}

/-- Returning a value can be cut cleanly. -/
theorem pure (x : α) : CleanCut books cut k (Pure.pure x : SyncM σ α) (Pure.pure x) :=
  ⟨fun _ h => ⟨h, rfl, List.prefix_rfl⟩, fun _ _ hq => .inl ⟨rfl, hq⟩⟩

/-- Failing can be cut cleanly. -/
theorem throw (f : SyncFailure) :
    CleanCut books cut k (MonadExcept.throw f : SyncM σ α) (MonadExcept.throw f) :=
  ⟨fun _ h => ⟨h, rfl, List.prefix_rfl⟩, fun _ _ hq => .inl ⟨rfl, hq⟩⟩

/-- Telling an event, which is where the token is cancelled, can be cut cleanly. -/
theorem emit (e : Event) : CleanCut books cut k (SyncM.emit e : SyncM σ Unit) (SyncM.emit e) where
  live r h := ⟨h.tell e, rfl, List.prefix_append _ _⟩
  echo r _ hq := .inl ⟨congrArg (Prod.mk _) (r.echo_tell e), hq.append (by simp [Item.Idle])⟩

/-- A line that no marked call leaves can be cut cleanly. -/
theorem log (level : Level) {component : Component} (text : String)
    (hcomponent : component ≠ callLine.component) :
    CleanCut books cut k (SyncM.log level component text : SyncM σ Unit)
      (SyncM.log level component text) where
  live r h := ⟨h.write _, rfl, List.prefix_append _ _⟩
  echo r _ hq := by
    have hline := ne_callLine level text hcomponent
    exact .inl ⟨congrArg (Prod.mk _) (r.echo_write hline),
      hq.append (by simpa [Item.Idle] using hline)⟩

/-- A step that can be cut cleanly, followed by such steps, can be cut cleanly. -/
theorem bind {f f' : α → SyncM σ β} (hm : CleanCut books cut k m m')
    (hf : ∀ x, CleanCut books cut k (f x) (f' x)) :
    CleanCut books cut k (m >>= f) (m' >>= f') where
  live r h := by
    obtain ⟨h', hclock, htrace⟩ := hm.live r h
    rw [SyncM.run_bind]
    rcases hrun : m.run r with ⟨e | x, r'⟩ <;> rw [hrun] at h' hclock htrace
    case error => exact ⟨h', hclock, htrace⟩
    case ok =>
      obtain ⟨h'', hclock', htrace'⟩ := (hf x).live r' h'
      exact ⟨h'', hclock'.trans hclock, htrace.trans htrace'⟩
  echo r h hq := by
    have hlive := (hm.live r h).1
    rw [SyncM.run_bind, SyncM.run_bind]
    rcases hm.echo r h hq with ⟨hrun', hq'⟩ | ⟨⟨e', he'⟩, hhalt⟩
    · -- So far both did the same, and so both go on or neither does.
      rw [hrun']
      rcases hrun : m.run r with ⟨e | x, r'⟩ <;> rw [hrun] at hlive hq'
      · exact .inl ⟨rfl, hq'⟩
      · exact (hf x).echo r' hlive hq'
    · -- The second run has ended; however the first goes on, its trace only grows.
      rcases hrun' : m'.run (r.echo cut k) with ⟨e | x, r''⟩ <;> rw [hrun'] at he' hhalt
      case ok => exact nomatch he'
      refine .inr ⟨⟨e, rfl⟩, ?_⟩
      rcases hrun : m.run r with ⟨e | x, r'⟩ <;> rw [hrun] at hlive hhalt
      · exact hhalt
      · exact hhalt.mono ((hf x).live r' hlive).2.2

/-- Naming what one is doing keeps a clean cut. -/
theorem within (a : Activity) (hm : CleanCut books cut k m m') :
    CleanCut books cut k (m.within a) (m'.within a) where
  live r h := by
    rw [SyncM.run_within]
    exact hm.live r h
  echo r h hq := by
    rw [SyncM.run_within, SyncM.run_within]
    -- Either the runs are still in step or the second has been cut off.
    rcases hm.echo r h hq with ⟨hrun, hq'⟩ | ⟨⟨e, he⟩, hhalt⟩
    · rw [hrun]
      exact .inl ⟨rfl, hq'⟩
    · exact .inr ⟨⟨e.within a, by rw [he]; rfl⟩, hhalt⟩

/-- Clean cuts are put together from clean cuts. -/
def steps (books : List (Mutation × Bool) → σ → Prop) (cut : Option Nat) (k : Clock) :
    StepRelation σ σ where
  Rel := CleanCut books cut k
  pure := pure
  throw := throw
  emit := emit
  log level _ text h := log level text h
  bind := bind
  within := within

end CleanCut

/-! ## Calls -/

/-- A listing over a marked client next to the listing as it is. -/
structure Listing (books : List (Mutation × Bool) → σ → Prop) (k : Clock) (c c' : Call σ α) :
    Prop where
  echoes : ∀ t : CancelToken, t.Steady → t.cancelled = false → Call.Echoes t k False True c c'
  halts : Call.Halts c'
  keeps : ∀ sent s, books sent s.world → books sent (c.run s).2.world

/-- The listings of a marked client next to those of the client as it is. -/
structure Client.MarksLists (books : List (Mutation × Bool) → σ → Prop) (k : Clock)
    (c c' : Client σ) : Prop where
  endpoint : c'.endpoint = c.endpoint
  objectTypes : Listing books k c.listObjectTypes c'.listObjectTypes
  objects : Listing books k (collectPages c.pageBound .object c.listObjects)
    (collectPages c'.pageBound .object c'.listObjects)
  edgeTypes : Listing books k c.listEdgeTypes c'.listEdgeTypes
  edges : Listing books k (collectPages c.pageBound .edge c.listEdges)
    (collectPages c'.pageBound .edge c'.listEdges)

/-- A marked client next to the client as it is. -/
structure Client.Marks (books : List (Mutation × Bool) → σ → Prop) (k : Clock) (c c' : Client σ) :
    Prop extends c.MarksLists books k c' where
  mutate : ∀ m (t : CancelToken), t.Steady → t.cancelled = false →
    Call.Echoes t k False True (c.mutate m) (c'.mutate m)
  booked : ∀ m sent s, s.token = .fresh → books sent s.world →
    books (sent ++ [(m, ((c.mutate m).run s).1.isOk)]) ((c.mutate m).run s).2.world

/-- A call that nobody cancels leaves a fresh token, a mark and the clock. -/
theorem Call.Echoes.resume {c c' : Call σ α} (hc : Call.Echoes .fresh k False True c c') {r : Run σ}
    (hr : r.token = .fresh) :
    (r.resume (c.run r.session).2).token = .fresh ∧
      (r.resume (c.run r.session).2).clock = r.clock ∧
      ∃ rest, (r.resume (c.run r.session).2).trace = r.trace ++ rest ∧ .line callLine ∈ rest := by
  obtain ⟨-, htoken, hclock, hmark⟩ := hc r.session hr nofun
  refine ⟨?_, hclock, _, rfl, List.mem_map_of_mem (hmark trivial)⟩
  simp only [Run.resume, hr, htoken]
  rfl

/-- A listing is echoed unless the run was cancelled by then, and then it is where it halts. -/
theorem CleanCut.call {c c' : Call σ α} (h : Listing books k c c') :
    CleanCut books cut k (SyncM.call c) (SyncM.call c') where
  live r hr := by
    obtain ⟨htoken, hclock, rest, htrace, -⟩ :=
      (h.echoes .fresh CancelToken.fresh_steady rfl).resume hr.token
    rw [SyncM.run_call]
    refine ⟨⟨htoken, ?_⟩, hclock, ⟨rest, htrace.symm⟩⟩
    rw [Run.resume_mutations]
    exact h.keeps _ _ hr.booked
  echo r hr hq := by
    have hsteady := cutToken_steady cut (traceEvents r.trace).length
    rw [SyncM.run_call, SyncM.run_call]
    by_cases hcan : (cutToken cut (traceEvents r.trace).length).cancelled = true
    · -- The event has come, so the second run fails here, and the first one leaves its mark.
      obtain ⟨f, hf⟩ := h.halts (r.echo cut k).session hsteady hcan
      obtain ⟨n, hn, hle⟩ := cutToken_cancelled.mp hcan
      obtain ⟨-, -, rest, htrace, hmark⟩ :=
        (h.echoes .fresh CancelToken.fresh_steady rfl).resume hr.token
      rw [hf, Run.resume_session]
      exact .inr ⟨⟨_, rfl⟩, n, hn, r.trace, rest, htrace, hmark, hle, hq, rfl, hr.booked⟩
    · -- The event is still to come, and a call does not tell any.
      obtain ⟨hrun, -⟩ := h.echoes _ hsteady (Bool.not_eq_true _ ▸ hcan) r.session hr.token nofun
      refine .inl ⟨?_, Quiet.of_not_cancelled (by rwa [Run.traceEvents_resume])⟩
      rw [Run.echo_session, hrun, r.echo_resume]

/-! ## Mutations -/

/-- A run that nobody cancels always sends. -/
theorem Run.Live.run_send {r : Run σ} (hr : r.Live books) (c : Client σ) (op : Operation)
    (kind : Kind) (applied : Nat) (e : Entity) :
    (send c op kind applied e).run r =
      (.ok ((c.mutate (op.mutation e)).run r.session).1,
        (r.resume ((c.mutate (op.mutation e)).run r.session).2).note (op.mutation e)
          ((c.mutate (op.mutation e)).run r.session).1.isOk) := by
  have hfresh : r.token.look.cancelled = false := by
    rw [hr.token]
    rfl
  rw [TenantSync.run_send, hr.look, hfresh]
  rfl

/-- A mutation is echoed unless the run was cancelled by then, and then it is where it halts. -/
theorem send_cut {c c' : Client σ} (h : c.Marks books k c') (op : Operation) (kind : Kind)
    (applied : Nat) (e : Entity) :
    CleanCut books cut k (send c op kind applied e) (send c' op kind applied e) where
  live r hr := by
    obtain ⟨htoken, hclock, rest, htrace, -⟩ :=
      (h.mutate (op.mutation e) .fresh CancelToken.fresh_steady rfl).resume hr.token
    rw [hr.run_send]
    refine ⟨⟨htoken, ?_⟩, hclock, ?_⟩
    · rw [Run.note_mutations, Run.resume_mutations]
      exact h.booked _ _ _ hr.token hr.booked
    · exact (List.prefix_append r.trace rest).trans (htrace ▸ List.prefix_append _ _)
  echo r hr hq := by
    have hsteady := cutToken_steady cut (traceEvents r.trace).length
    have hlook : (r.echo cut k).token.look = cutToken cut (traceEvents r.trace).length := hsteady.look
    rw [hr.run_send, run_send, Run.echo_look, hlook]
    by_cases hcan : (cutToken cut (traceEvents r.trace).length).cancelled = true
    · -- Where the second run looks at its token and ends, the first one makes its call.
      obtain ⟨-, -, rest, htrace, hmark⟩ :=
        (h.mutate (op.mutation e) .fresh CancelToken.fresh_steady rfl).resume hr.token
      obtain ⟨n, hn, hle⟩ := cutToken_cancelled.mp hcan
      rw [if_pos hcan]
      refine .inr ⟨⟨_, rfl⟩, n, hn, r.trace, rest ++ [.mutation (op.mutation e)
        ((c.mutate (op.mutation e)).run r.session).1.isOk], ?_, List.mem_append_left _ hmark, hle, hq,
        rfl, hr.booked⟩
      rw [← List.append_assoc, ← htrace]
      rfl
    · -- The event is still to come, so the second run sends the mutation as well.
      obtain ⟨hecho, -⟩ := h.mutate (op.mutation e) _ hsteady (Bool.not_eq_true _ ▸ hcan) r.session
        hr.token nofun
      rw [if_neg hcan, Run.echo_session, hecho]
      refine .inl ⟨?_, Quiet.of_not_cancelled ?_⟩
      · rw [r.echo_resume, Run.echo_note]
      · rwa [Run.traceEvents_note, Run.traceEvents_resume]

/-! ## Clients -/

/-- Marked listings are related by clean cuts. -/
theorem Client.MarksLists.related {c c' : Client σ} (h : c.MarksLists books k c') :
    (CleanCut.steps books cut k).Lists c c' :=
  ⟨h.endpoint, .call h.objectTypes, .call h.objects, .call h.edgeTypes, .call h.edges⟩

/-- Marked clients are related by clean cuts. -/
theorem Client.Marks.related {c c' : Client σ} (h : c.Marks books k c') :
    (CleanCut.steps books cut k).Clients c c' :=
  { h.toMarksLists.related with send := send_cut h }

end TenantSync
