import TenantSync.Proofs.Session.Echo
import TenantSync.Proofs.Sync.Sweep

/-!
# Traces up to an event

`throughEvent n` is the part of a trace up to and including its `n`th event, `afterEvent n` is what
comes behind.  When a trace grows behind its `n`th event, the first part stays and the second
grows (`throughEvent_append`, `afterEvent_append`).

`unmarkedTrace` leaves out the lines of marked calls, which are neither events nor mutations.
-/

namespace TenantSync

/-- A trace up to and including its `n`th event; all of it if it has fewer. -/
def throughEvent : Nat → List Item → List Item
  | 0, _ => []
  | _ + 1, [] => []
  | n + 1, .event e :: trace => .event e :: throughEvent n trace
  | n + 1, x :: trace => x :: throughEvent (n + 1) trace

/-- What comes behind the `n`th event of a trace. -/
def afterEvent : Nat → List Item → List Item
  | 0, trace => trace
  | _ + 1, [] => []
  | n + 1, .event _ :: trace => afterEvent n trace
  | n + 1, _ :: trace => afterEvent (n + 1) trace

/-- The item is neither a mutation nor the line of a marked call. -/
def Item.Idle (x : Item) : Prop := x ≠ .line callLine ∧ ∀ m ok, x ≠ .mutation m ok

/-- A trace without the lines of marked calls. -/
def unmarkedTrace (trace : List Item) : List Item := trace.filter (· ≠ .line callLine)

/-- The events of a trace in two parts. -/
theorem traceEvents_append (xs ys : List Item) :
    traceEvents (xs ++ ys) = traceEvents xs ++ traceEvents ys :=
  List.filterMap_append

/-- The mutations of a trace in two parts. -/
theorem traceMutations_append (xs ys : List Item) :
    traceMutations (xs ++ ys) = traceMutations xs ++ traceMutations ys :=
  List.filterMap_append

/-- The whole trace comes after no event. -/
@[simp] theorem afterEvent_zero (trace : List Item) : afterEvent 0 trace = trace := by
  cases trace <;> rfl

/-- A trace is what leads through an event and what comes after it. -/
theorem throughEvent_append_afterEvent (n : Nat) (trace : List Item) :
    throughEvent n trace ++ afterEvent n trace = trace := by
  fun_induction throughEvent n trace <;> simp_all [afterEvent]

/-- What comes behind a trace with `n` events comes behind its `n`th event. -/
theorem afterEvent_append {n : Nat} {xs : List Item} (h : n ≤ (traceEvents xs).length)
    (ys : List Item) : afterEvent n (xs ++ ys) = afterEvent n xs ++ ys := by
  induction xs generalizing n with
  | nil =>
    obtain rfl := Nat.le_zero.mp h
    simp only [List.nil_append, afterEvent_zero]
  | cons x xs ih =>
    cases n with
    | zero => simp only [afterEvent_zero]
    -- cases x => Only an event is counted; lines and mutations are passed over.
    | succ n => cases x <;> exact ih (by simpa [traceEvents] using h)

/-- So the trace through its `n`th event stays as it is. -/
theorem throughEvent_append {n : Nat} {xs : List Item} (h : n ≤ (traceEvents xs).length)
    (ys : List Item) : throughEvent n (xs ++ ys) = throughEvent n xs := by
  have hsplit := throughEvent_append_afterEvent n (xs ++ ys)
  rw [afterEvent_append h, ← List.append_assoc] at hsplit
  exact List.append_cancel_right
    ((List.append_cancel_right hsplit).trans (throughEvent_append_afterEvent n xs).symm)

/-- Nothing comes behind an event that was not told yet. -/
theorem afterEvent_of_lt {n : Nat} {trace : List Item} (h : (traceEvents trace).length < n) :
    afterEvent n trace = [] := by
  induction trace generalizing n with
  | nil =>
    cases n with
    | zero => exact absurd h (Nat.not_lt_zero _)
    | succ n => rfl
  | cons x trace ih =>
    cases n with
    | zero => exact absurd h (Nat.not_lt_zero _)
    | succ n => cases x <;> exact ih (by simpa [traceEvents] using h)

/-- What comes after an event ends the trace. -/
theorem afterEvent_suffix (n : Nat) (trace : List Item) : afterEvent n trace <:+ trace :=
  ⟨_, throughEvent_append_afterEvent n trace⟩

/-- What comes behind an event of a longer trace came behind it before, or is new. -/
theorem mem_afterEvent_append {n : Nat} {xs ys : List Item} {x : Item}
    (h : x ∈ afterEvent n (xs ++ ys)) : x ∈ afterEvent n xs ∨ x ∈ ys := by
  induction xs generalizing n with
  | nil => exact .inr ((afterEvent_suffix n ys).subset h)
  | cons y xs ih =>
    cases n with
    | zero =>
      rw [afterEvent_zero] at h ⊢
      exact List.mem_append.mp h
    | succ n => cases y <;> exact ih h

/-! ## The events of a run -/

namespace Run

variable {σ : Type}

/-- A noted mutation is no event. -/
theorem traceEvents_note (r : Run σ) (m : Mutation) (ok : Bool) :
    traceEvents (r.note m ok).trace = traceEvents r.trace := by
  simp [note, traceEvents]

/-- What a session leaves in its log is no event. -/
theorem traceEvents_resume (r : Run σ) (s : Session σ) :
    traceEvents (r.resume s).trace = traceEvents r.trace := by
  simp [resume, traceEvents, List.filterMap_map]

/-- What the run told its observer so far. -/
def events (r : Run σ) : List Event := traceEvents r.trace

@[simp] theorem look_events (r : Run σ) : r.look.events = r.events := rfl

@[simp] theorem tick_events (r : Run σ) : r.tick.events = r.events := rfl

@[simp] theorem write_events (r : Run σ) (l : LogLine) : (r.write l).events = r.events := by
  simp [events, write, traceEvents]

@[simp] theorem tell_events (r : Run σ) (e : Event) : (r.tell e).events = r.events ++ [e] := by
  simp [events, tell, traceEvents]

@[simp] theorem note_events (r : Run σ) (m : Mutation) (ok : Bool) :
    (r.note m ok).events = r.events :=
  r.traceEvents_note m ok

@[simp] theorem resume_events (r : Run σ) (s : Session σ) : (r.resume s).events = r.events :=
  r.traceEvents_resume s

/-- A success tells of the entity. -/
@[simp] theorem succeeded_events (r : Run σ) (op : Operation) (k : Kind) (e : Entity)
    (s : Session σ) :
    (r.succeeded op k e s).events =
      r.events ++ [.entityApplied (.ofOperation op) k e.label] := by
  simp [succeeded]

/-- A failure tells of the entity and the fault. -/
@[simp] theorem failed_events (r : Run σ) (op : Operation) (k : Kind) (e : Entity)
    (s : Session σ) (fault : Fault) :
    (r.failed op k e s fault).events =
      r.events ++ [.entityFailed (.ofOperation op) k e.label fault] := by
  simp [failed]

end Run

/-! ## Traces without marks -/

/-- The lines of marked calls are no events. -/
theorem traceEvents_unmarkedTrace (trace : List Item) :
    traceEvents (unmarkedTrace trace) = traceEvents trace := by
  rw [traceEvents, unmarkedTrace, List.filterMap_filter]
  exact List.filterMap_congr fun x _ => by cases x <;> simp

/-- The lines of marked calls are no mutations. -/
theorem traceMutations_unmarkedTrace (trace : List Item) :
    traceMutations (unmarkedTrace trace) = traceMutations trace := by
  rw [traceMutations, unmarkedTrace, List.filterMap_filter]
  exact List.filterMap_congr fun x _ => by cases x <;> simp

/-- A log becomes part of the trace without its marks as it does with them. -/
theorem unmarkedTrace_map_line (log : List LogLine) :
    unmarkedTrace (log.map .line) = (unmarked log).map .line := by
  simp only [unmarkedTrace, unmarked, List.filter_map, Function.comp_def, Item.line.injEq, ne_eq]

/-- Marks do not count as events. -/
theorem throughEvent_unmarkedTrace (n : Nat) (trace : List Item) :
    throughEvent n (unmarkedTrace trace) = unmarkedTrace (throughEvent n trace) := by
  fun_induction throughEvent n trace with
  | case1 trace => cases unmarkedTrace trace <;> rfl
  | case2 n => rfl
  | case3 n e trace ih => simpa [unmarkedTrace, throughEvent] using ih
  | case4 n x trace hx ih =>
    -- A marked line is left out on both sides; what is kept comes through on both.
    by_cases hmark : x = .line callLine
    · simpa [unmarkedTrace, hmark] using ih
    · have hkeep : unmarkedTrace (x :: trace) = x :: unmarkedTrace trace := by
        simp [unmarkedTrace, hmark]
      have hkeep' : unmarkedTrace (x :: throughEvent (n + 1) trace) =
          x :: unmarkedTrace (throughEvent (n + 1) trace) := by
        simp [unmarkedTrace, hmark]
      rw [hkeep, hkeep', throughEvent.eq_4 _ _ _ hx, ih]

end TenantSync
