import TenantSync.Client
import TenantSync.Sync.Event

/-! # Runs

A `Run` is the state of a synchronisation: the state `σ` of the tenants, the cancellation
token, the clock and the trace, which lists in order what the run told its observer, what
it wrote to the log and which mutations it sent.  Only the run writes to the trace; a
client's call runs in a session of its own, and what it logged is appended afterwards. -/

namespace TenantSync

/-- A change to one entity of the destination. -/
inductive Mutation where
  | create (e : Entity)
  | delete (k : Kind) (id : Uuid)
  deriving DecidableEq

/-- One item of a trace. -/
inductive Item where
  | event (e : Event)
  | line (l : LogLine)
  /-- A mutation that was sent and whether it succeeded. -/
  | mutation (m : Mutation) (ok : Bool)
  deriving DecidableEq

/-- The events of a trace. -/
def traceEvents (trace : List Item) : List Event :=
  trace.filterMap fun
    | .event e => some e
    | _ => none

/-- The mutations of a trace with their outcomes. -/
def traceMutations (trace : List Item) : List (Mutation × Bool) :=
  trace.filterMap fun
    | .mutation m ok => some (m, ok)
    | _ => none

/-- The state of a run. -/
structure Run (σ : Type) where
  world : σ
  token : CancelToken
  clock : Clock
  trace : List Item

namespace Run

variable {σ : Type}

/-- A run that has not done anything yet. -/
def start (world : σ) (token : CancelToken) (clock : Clock) : Run σ := ⟨world, token, clock, []⟩

/-- The run after a look at the token. -/
def look (r : Run σ) : Run σ := { r with token := r.token.look }

/-- The run after a look at the clock. -/
def tick (r : Run σ) : Run σ := { r with clock := r.clock.tick }

/-- The run after a line was written to the log. -/
def write (r : Run σ) (l : LogLine) : Run σ :=
  { r with trace := r.trace ++ [.line l], token := r.token.afterLine l }

/-- The run after its observer was told about an event. -/
def tell (r : Run σ) (e : Event) : Run σ :=
  let trace := r.trace ++ [.event e]
  { r with trace, token := r.token.afterEvent (traceEvents trace).length }

/-- The run after the outcome of a mutation was noted. -/
def note (r : Run σ) (m : Mutation) (ok : Bool) : Run σ :=
  { r with trace := r.trace ++ [.mutation m ok] }

/-- The session in which a client's call is run. -/
def session (r : Run σ) : Session σ := ⟨r.world, r.token, r.clock, [], []⟩

/-- The run after a client's call in a session of its own.  A token that was cancelled stays
    so. -/
def resume (r : Run σ) (s : Session σ) : Run σ where
  world := s.world
  token := ⟨r.token.cancelled || s.token.cancelled, s.token.trigger⟩
  clock := s.clock
  trace := r.trace ++ s.log.map .line

@[simp] theorem look_world (r : Run σ) : r.look.world = r.world := rfl

@[simp] theorem tick_world (r : Run σ) : r.tick.world = r.world := rfl

@[simp] theorem write_world (r : Run σ) (l : LogLine) : (r.write l).world = r.world := rfl

@[simp] theorem tell_world (r : Run σ) (e : Event) : (r.tell e).world = r.world := rfl

@[simp] theorem note_world (r : Run σ) (m : Mutation) (ok : Bool) :
    (r.note m ok).world = r.world := rfl

@[simp] theorem session_world (r : Run σ) : r.session.world = r.world := rfl

@[simp] theorem resume_world (r : Run σ) (s : Session σ) : (r.resume s).world = s.world := rfl

/-- The mutations that the run sent so far, with their outcomes. -/
def mutations (r : Run σ) : List (Mutation × Bool) := traceMutations r.trace

@[simp] theorem look_mutations (r : Run σ) : r.look.mutations = r.mutations := rfl

@[simp] theorem tick_mutations (r : Run σ) : r.tick.mutations = r.mutations := rfl

@[simp] theorem write_mutations (r : Run σ) (l : LogLine) :
    (r.write l).mutations = r.mutations := by
  simp [mutations, write, traceMutations]

@[simp] theorem tell_mutations (r : Run σ) (e : Event) : (r.tell e).mutations = r.mutations := by
  simp [mutations, tell, traceMutations]

@[simp] theorem note_mutations (r : Run σ) (m : Mutation) (ok : Bool) :
    (r.note m ok).mutations = r.mutations ++ [(m, ok)] := by
  simp [mutations, note, traceMutations]

@[simp] theorem resume_mutations (r : Run σ) (s : Session σ) :
    (r.resume s).mutations = r.mutations := by
  simp [mutations, resume, traceMutations, List.filterMap_map]

end Run

/-- A step of a run that can fail. -/
abbrev SyncM (σ α : Type) := ExceptT SyncFailure (StateM (Run σ)) α

namespace SyncM

variable {σ α : Type}

/-- Whether the run was told to stop. -/
def cancelled : SyncM σ Bool :=
  modifyGet fun r => (r.token.look.cancelled, r.look)

/-- Reads the clock. -/
def now : SyncM σ Int :=
  modifyGet fun r => (r.clock.now, r.tick)

/-- Writes a line to the log. -/
def log (level : Level) (component : Component) (text : String) : SyncM σ Unit :=
  modify (·.write ⟨level, component, text⟩)

/-- Tells the observer about an event. -/
def emit (e : Event) : SyncM σ Unit := modify (·.tell e)

/-- Notes the outcome of a mutation. -/
def note (m : Mutation) (ok : Bool) : SyncM σ Unit := modify (·.note m ok)

/-- Names the activity around a step. -/
def within (a : Activity) (c : SyncM σ α) : SyncM σ α := ExceptT.adapt (Failure.within a) c

/-- Runs a client's call and hands over its outcome. -/
def attempt (c : Call σ α) : SyncM σ (Except Fault α) := fun r =>
  let (outcome, s) := c.run r.session
  (.ok outcome, r.resume s)

/-- Runs a client's call and fails when it does. -/
def call (c : Call σ α) : SyncM σ α := do
  match ← attempt c with
  | .ok x => pure x
  | .error f => throw (f.map .call)

/-- A step goes on from the run that the step before it left, unless that one failed. -/
theorem run_bind {β : Type} (m : SyncM σ α) (f : α → SyncM σ β) (r : Run σ) :
    (m >>= f).run r =
      match m.run r with
      | (.ok a, r') => (f a).run r'
      | (.error e, r') => (.error e, r') := by
  show (match m.run r with | (x, r') => (ExceptT.bindCont f x).run r') = _
  rcases m.run r with ⟨_ | _, _⟩ <;> rfl

@[simp] theorem run_pure (a : α) (r : Run σ) : (pure a : SyncM σ α).run r = (.ok a, r) := rfl

@[simp] theorem run_throw (f : SyncFailure) (r : Run σ) :
    (throw f : SyncM σ α).run r = (.error f, r) := rfl

@[simp] theorem run_cancelled (r : Run σ) :
    (cancelled : SyncM σ Bool).run r = (.ok r.token.look.cancelled, r.look) := rfl

@[simp] theorem run_now (r : Run σ) :
    (now : SyncM σ Int).run r = (.ok r.clock.now, r.tick) := rfl

@[simp] theorem run_log (level : Level) (component : Component) (text : String) (r : Run σ) :
    (log level component text : SyncM σ Unit).run r =
      (.ok (), r.write ⟨level, component, text⟩) := rfl

@[simp] theorem run_emit (e : Event) (r : Run σ) :
    (emit e : SyncM σ Unit).run r = (.ok (), r.tell e) := rfl

@[simp] theorem run_note (m : Mutation) (ok : Bool) (r : Run σ) :
    (note m ok : SyncM σ Unit).run r = (.ok (), r.note m ok) := rfl

theorem run_within (a : Activity) (m : SyncM σ α) (r : Run σ) :
    (within a m).run r = ((m.run r).1.mapError (Failure.within a), (m.run r).2) := by
  show (match m.run r with | (x, r') => (x.mapError (Failure.within a), r')) = _
  rcases m.run r with ⟨_ | _, _⟩ <;> rfl

/-- A step that succeeds has succeeded in its first part and in what follows. -/
theorem ok_of_bind {β : Type} {m : SyncM σ α} {f : α → SyncM σ β} {r : Run σ} {y : β}
    (h : ((m >>= f).run r).1 = .ok y) :
    ∃ x r', m.run r = (.ok x, r') ∧ ((f x).run r').1 = .ok y := by
  rw [run_bind] at h
  rcases hm : m.run r with ⟨e | x, r'⟩ <;> rw [hm] at h
  · cases h
  · exact ⟨x, r', rfl, h⟩

/-- A step that succeeds as a part of an activity succeeds. -/
theorem ok_of_within {a : Activity} {m : SyncM σ α} {r : Run σ} {x : α}
    (h : ((within a m).run r).1 = .ok x) : (m.run r).1 = .ok x := by
  rw [run_within] at h
  cases hm : (m.run r).1 <;> rw [hm] at h <;> cases h
  rfl

theorem run_attempt (c : Call σ α) (r : Run σ) :
    (attempt c).run r = (.ok (c.run r.session).1, r.resume (c.run r.session).2) := rfl

theorem run_call (c : Call σ α) (r : Run σ) :
    (call c).run r =
      ((c.run r.session).1.mapError fun f => f.map .call, r.resume (c.run r.session).2) := by
  rw [call, run_bind, run_attempt]
  rcases c.run r.session with ⟨_ | _, _⟩ <;> rfl

end SyncM

end TenantSync
