import TenantSync.Paging.Walk

/-!
# Calls that agree on a part of the world

Let `f` show a part of the world, or the world with something left out.  `Call.Projects f c c'` says
that the call `c'` does to what `f` shows what the call `c` does to the world itself, and that in
all the rest, the outcome, the log, the clock and the token, there is no difference.  If `f` leaves
something out that `c` works with, nobody who sees the rest can tell what it was.

Calls that agree step by step agree as a whole (`Call.Projects.bind`, `Call.Projects.zoom`).
-/

namespace TenantSync

variable {σ σ' τ τ' α β : Type} {f : σ → τ}

/-- The session in the world as `f` shows it. -/
def Session.map (f : σ → τ) (s : Session σ) : Session τ :=
  ⟨f s.world, s.token, s.clock, s.log, s.waits⟩

namespace Call

/-- In the world as `f` shows it, the second call does what the first does in the world itself. -/
def Projects (f : σ → τ) (c : Call σ α) (c' : Call τ α) : Prop :=
  ∀ s, c'.run (s.map f) = ((c.run s).1, (c.run s).2.map f)

namespace Projects

/-- Returning a value is the same under every view. -/
theorem pure (x : α) : Projects f (Pure.pure x) (Pure.pure x) := fun _ => rfl

/-- Failing is the same under every view. -/
theorem fail (cause : Cause) : Projects f (Call.fail cause : Call σ α) (Call.fail cause) :=
  fun _ => rfl

/-- Taking over a result is the same under every view. -/
theorem ofExcept {ε : Type} (cause : ε → Cause) (x : Except ε α) :
    Projects f (Call.ofExcept cause x) (Call.ofExcept cause x) := by
  cases x with
  | ok x => exact pure x
  | error e => exact fail _

/-- A log line is the same under every view. -/
theorem log (level : Level) (component : Component) (text : String) :
    Projects f (Call.log level component text) (Call.log level component text) := fun _ => rfl

/-- Reading the clock is the same under every view. -/
theorem now : Projects f Call.now Call.now := fun _ => rfl

/-- Waiting is the same under every view. -/
theorem wait (microseconds : Nat) : Projects f (Call.wait microseconds) (Call.wait microseconds) :=
  fun _ => rfl

/-- Looking at the token is the same under every view. -/
theorem cancelled : Projects f Call.cancelled Call.cancelled := fun _ => rfl

/-- Cancelling is the same under every view. -/
theorem cancel : Projects f Call.cancel Call.cancel := fun _ => rfl

/-- Replacing the world replaces its view. -/
theorem setWorld (w : σ) : Projects f (Call.setWorld w) (Call.setWorld (f w)) := fun _ => rfl

/-- Projections compose. -/
theorem bind {c : Call σ α} {c' : Call τ α} {g : α → Call σ β} {g' : α → Call τ β}
    (hc : Projects f c c') (hg : ∀ x, Projects f (g x) (g' x)) :
    Projects f (c >>= g) (c' >>= g') := by
  intro s
  rw [run_bind, run_bind, hc s]
  rcases c.run s with ⟨e | x, s'⟩
  · rfl
  · exact hg x s'

/-- What a call makes of the world, the other must make of what `f` shows of it. -/
theorem world_bind {g : σ → Call σ β} {g' : τ → Call τ β} (hg : ∀ w, Projects f (g w) (g' (f w))) :
    Projects f (Call.world >>= g) (Call.world >>= g') := fun s => hg s.world s

/-- Naming what one is doing keeps a projection. -/
theorem within {c : Call σ α} {c' : Call τ α} (a : Activity) (hc : Projects f c c') :
    Projects f (c.within a) (c'.within a) := by
  intro s
  rw [run_within, run_within, hc s]

/-- A call that may be announced in the log. -/
theorem announced {level : Level} {component : Component} {text : String} (wanted : Bool)
    {c : Call σ α} {c' : Call τ α} (hc : Projects f c c') :
    Projects f (if wanted then Call.log level component text >>= fun _ => c else c)
      (if wanted then Call.log level component text >>= fun _ => c' else c') := by
  cases wanted with
  | false => exact hc
  | true => exact (log _ _ _).bind fun _ => hc

/-- A call that is not made when the run was told to stop. -/
theorem unlessCancelled {cause : Cause} {c : Call σ α} {c' : Call τ α} (hc : Projects f c c') :
    Projects f
      (Call.cancelled >>= fun stop => if stop then Call.fail cause >>= fun _ : PUnit => c else c)
      (Call.cancelled >>= fun stop =>
        if stop then Call.fail cause >>= fun _ : PUnit => c' else c') := by
  refine cancelled.bind fun stop => ?_
  cases stop with
  | false => exact hc
  | true => exact (fail _).bind fun _ => hc

/-- Calls that agree on a part of a part agree on the part. -/
theorem zoom {l : Lens σ σ'} {l' : Lens τ τ'} {g : σ' → τ'} (hget : ∀ w, l'.get (f w) = g (l.get w))
    (hset : ∀ t w, l'.set (g t) (f w) = f (l.set t w)) {c : Call σ' α} {c' : Call τ' α}
    (hc : Projects g c c') : Projects f (c.zoom l) (c'.zoom l') := by
  intro s
  have hrun : c'.run ⟨g (l.get s.world), s.token, s.clock, s.log, s.waits⟩ = _ :=
    hc ⟨l.get s.world, s.token, s.clock, s.log, s.waits⟩
  simp only [run_zoom, Session.map, hget, hrun, hset]

/-- A page walk projects to the walk over the projected requests. -/
theorem walkPages (k : Kind) {ask : Cursor → Call σ (Page α)} {ask' : Cursor → Call τ (Page α)}
    (hask : ∀ cursor, Projects f (ask cursor) (ask' cursor)) (bound : Nat) (cursor : Cursor)
    (trail : Trail) (done : List α) (pages : Nat) :
    Projects f (walkPages k ask bound cursor trail done pages)
      (walkPages k ask' bound cursor trail done pages) := by
  induction bound generalizing cursor trail done pages with
  | zero => exact fail _
  | succ bound ih =>
    refine ((hask cursor).within _).bind fun page => ?_
    dsimp only
    -- Both walks see the same page, so both go on or both end.
    split
    · exact ((ofExcept _ _).within _).bind fun trail => ih _ _ _ _
    · exact (log _ _ _).bind fun _ => pure _

/-- A walk from the first page projects too, as long as the view keeps the bound. -/
theorem collectPages {bound : σ → Nat} {bound' : τ → Nat} (hbound : ∀ w, bound w = bound' (f w))
    (k : Kind) {ask : Cursor → Call σ (Page α)} {ask' : Cursor → Call τ (Page α)}
    (hask : ∀ cursor, Projects f (ask cursor) (ask' cursor)) :
    Projects f (collectPages bound k ask) (collectPages bound' k ask') := by
  refine world_bind fun w => ?_
  rw [hbound]
  exact walkPages k hask _ _ _ _ _

end Projects

end Call

end TenantSync
