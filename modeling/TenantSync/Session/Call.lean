import TenantSync.Failure.Cause
import TenantSync.Session.Clock
import TenantSync.Session.Token

/-! # Calls

A `Call σ α` is one call to a tenant whose state is `σ`.  It can read and change that
state, write to the log, read the clock, wait, look at the cancellation token and fail.  What
was changed and logged before a failure stays so.  `Call.zoom` runs a call on a part of a
larger state. -/

namespace TenantSync

/-- The surroundings of a call. -/
structure Session (σ : Type) where
  world : σ
  token : CancelToken
  clock : Clock
  log : List LogLine := []
  /-- How long was waited each time, in microseconds. -/
  waits : List Nat := []

/-- A computation on a session that can fail. -/
abbrev Call (σ α : Type) := ExceptT Fault (StateM (Session σ)) α

/-- A part of a larger state. -/
structure Lens (σ τ : Type) where
  get : σ → τ
  set : τ → σ → σ

namespace Lens

/-- Reading gives what was written, writing what was read changes nothing, and of two
    writes the last counts. -/
structure Lawful {σ τ : Type} (l : Lens σ τ) : Prop where
  get_set : ∀ t s, l.get (l.set t s) = t
  set_get : ∀ s, l.set (l.get s) s = s
  set_set : ∀ t u s, l.set t (l.set u s) = l.set t s

/-- The first of two states. -/
def first {σ τ : Type} : Lens (σ × τ) σ := ⟨Prod.fst, fun a p => (a, p.2)⟩

/-- The second of two states. -/
def second {σ τ : Type} : Lens (σ × τ) τ := ⟨Prod.snd, fun b p => (p.1, b)⟩

/-- The first of two states can be read and replaced on its own. -/
theorem first_lawful {σ τ : Type} : (first : Lens (σ × τ) σ).Lawful :=
  ⟨fun _ _ => rfl, fun _ => rfl, fun _ _ _ => rfl⟩

/-- So can the second. -/
theorem second_lawful {σ τ : Type} : (second : Lens (σ × τ) τ).Lawful :=
  ⟨fun _ _ => rfl, fun _ => rfl, fun _ _ _ => rfl⟩

end Lens

namespace Call

variable {σ τ α : Type}

/-- Fails with a cause. -/
def fail (c : Cause) : Call σ α := throw (Failure.of c)

/-- The state of the tenant. -/
def world : Call σ σ := do return (← get).world

/-- Replaces the state of the tenant. -/
def setWorld (w : σ) : Call σ Unit := modify fun s => { s with world := w }

/-- Whether the run was told to stop. -/
def cancelled : Call σ Bool :=
  modifyGet fun s => (s.token.look.cancelled, { s with token := s.token.look })

/-- Tells the run to stop. -/
def cancel : Call σ Unit := modify fun s => { s with token := s.token.cancel }

/-- Reads the clock. -/
def now : Call σ Int :=
  modifyGet fun s => (s.clock.now, { s with clock := s.clock.tick })

/-- Writes a line to the log. -/
def log (level : Level) (component : Component) (text : String) : Call σ Unit :=
  modify fun s =>
    let line := ⟨level, component, text⟩
    { s with log := s.log ++ [line], token := s.token.afterLine line }

/-- Waits for a number of microseconds. -/
def wait (microseconds : Nat) : Call σ Unit :=
  modify fun s => { s with waits := s.waits ++ [microseconds] }

/-- Names the activity around a call. -/
def within (a : Activity) (c : Call σ α) : Call σ α := ExceptT.adapt (Failure.within a) c

/-- Runs a call on a part of the state. -/
def zoom (l : Lens σ τ) (c : Call τ α) : Call σ α := ExceptT.mk fun s =>
  let (r, t) := c.run ⟨l.get s.world, s.token, s.clock, s.log, s.waits⟩
  (r, ⟨l.set t.world s.world, t.token, t.clock, t.log, t.waits⟩)

/-- A call goes on from the session that the call before it left, unless that one failed. -/
theorem run_bind {β : Type} (c : Call σ α) (f : α → Call σ β) (s : Session σ) :
    (c >>= f).run s =
      match c.run s with
      | (.ok a, t) => (f a).run t
      | (.error e, t) => (.error e, t) := by
  show (match c.run s with | (r, t) => (ExceptT.bindCont f r).run t) = _
  rcases c.run s with ⟨_ | _, _⟩ <;> rfl

@[simp] theorem run_pure (a : α) (s : Session σ) : (pure a : Call σ α).run s = (.ok a, s) := rfl

@[simp] theorem run_fail (c : Cause) (s : Session σ) :
    (fail c : Call σ α).run s = (.error (Failure.of c), s) := rfl

@[simp] theorem run_world (s : Session σ) : (world : Call σ σ).run s = (.ok s.world, s) := rfl

@[simp] theorem run_setWorld (w : σ) (s : Session σ) :
    (setWorld w).run s = (.ok (), { s with world := w }) := rfl

@[simp] theorem run_cancelled (s : Session σ) :
    (cancelled : Call σ Bool).run s =
      (.ok s.token.look.cancelled, { s with token := s.token.look }) := rfl

@[simp] theorem run_now (s : Session σ) :
    (now : Call σ Int).run s = (.ok s.clock.now, { s with clock := s.clock.tick }) := rfl

@[simp] theorem run_log (level : Level) (component : Component) (text : String) (s : Session σ) :
    (log level component text).run s =
      (.ok (), { s with
        log := s.log ++ [⟨level, component, text⟩]
        token := s.token.afterLine ⟨level, component, text⟩ }) := rfl

theorem run_within (a : Activity) (c : Call σ α) (s : Session σ) :
    (c.within a).run s = ((c.run s).1.mapError (Failure.within a), (c.run s).2) := by
  show (match c.run s with | (r, t) => (r.mapError (Failure.within a), t)) = _
  rcases c.run s with ⟨_ | _, _⟩ <;> rfl

/-- The part of the state is taken out, and put back when the call has ended. -/
theorem run_zoom (l : Lens σ τ) (c : Call τ α) (s : Session σ) :
    (c.zoom l).run s =
      let out := c.run ⟨l.get s.world, s.token, s.clock, s.log, s.waits⟩
      (out.1, ⟨l.set out.2.world s.world, out.2.token, out.2.clock, out.2.log, out.2.waits⟩) := rfl

/-- Fails when a pure step does. -/
def ofExcept {ε : Type} (cause : ε → Cause) : Except ε α → Call σ α
  | .ok x => pure x
  | .error e => fail (cause e)

theorem run_ofExcept {ε : Type} (cause : ε → Cause) (x : Except ε α) (s : Session σ) :
    (ofExcept cause x : Call σ α).run s = (x.mapError fun e => Failure.of (cause e), s) := by
  cases x <;> rfl

end Call

end TenantSync
