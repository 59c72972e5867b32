import TenantSync.Paging.Walk

/-!
# Calls that leave a part of the world alone

`Call.Keeps f c` says that whatever the call `c` does, it does not change what `f` shows of the
world.  Nothing is said about the outcome, so that a call keeps what each of its steps keeps
(`Call.Keeps.bind`, `Call.Keeps.zoom`).
-/

namespace TenantSync

variable {σ τ α β : Type} {f : σ → β}

namespace Call

/-- Whatever the call does, it leaves a part of the world alone. -/
def Keeps (f : σ → β) (c : Call σ α) : Prop := ∀ s, f (c.run s).2.world = f s.world

namespace Keeps

/-- Returning a value keeps everything. -/
theorem pure (x : α) : Keeps f (Pure.pure x) := fun _ => rfl

/-- Failing keeps everything. -/
theorem fail (c : Cause) : Keeps f (Call.fail c : Call σ α) := fun _ => rfl

/-- Taking over a result keeps everything. -/
theorem ofExcept {ε : Type} (cause : ε → Cause) (x : Except ε α) :
    Keeps f (Call.ofExcept cause x) := by
  cases x with
  | ok x => exact pure x
  | error e => exact fail _

/-- Looking at the world keeps everything. -/
theorem world : Keeps f (Call.world : Call σ σ) := fun _ => rfl

/-- A log line keeps everything. -/
theorem log (level : Level) (component : Component) (text : String) :
    Keeps f (Call.log level component text) := fun _ => rfl

/-- Naming what one is doing keeps what the call keeps. -/
theorem within {c : Call σ α} (a : Activity) (hc : Keeps f c) : Keeps f (c.within a) := by
  intro s
  rw [run_within]
  exact hc s

/-- Two calls that keep it keep it one after the other. -/
theorem bind {γ : Type} {c : Call σ α} {g : α → Call σ γ} (hc : Keeps f c)
    (hg : ∀ x, Keeps f (g x)) : Keeps f (c >>= g) := by
  intro s
  have h := hc s
  rw [run_bind]
  rcases hrun : c.run s with ⟨e | x, t⟩ <;> rw [hrun] at h
  · exact h
  · exact (hg x t).trans h

/-- The world may be replaced by one that shows the same. -/
theorem update {g : σ → σ} (hg : ∀ w, f (g w) = f w) {c : σ → Call σ α} (hc : ∀ w, Keeps f (c w)) :
    Keeps f (do
      let w ← Call.world
      Call.setWorld (g w)
      c w) := by
  intro s
  rw [run_bind, run_world]
  dsimp only
  rw [run_bind, run_setWorld]
  exact (hc _ _).trans (hg _)

/-- What a part keeps, the whole keeps. -/
theorem zoom {γ : Type} {l : Lens σ τ} {g : τ → γ}
    (hset : ∀ t w, g t = g (l.get w) → f (l.set t w) = f w) {c : Call τ α} (hc : Keeps g c) :
    Keeps f (c.zoom l) := by
  intro s
  rw [run_zoom]
  exact hset _ _ (hc _)

/-- A call to a part of the world leaves the other part alone. -/
theorem zoom_first (c : Call τ α) : Keeps Prod.snd (c.zoom (.first : Lens (τ × β) τ)) :=
  fun _ => rfl

/-- A page walk keeps what its requests keep. -/
theorem walkPages (k : Kind) {ask : Cursor → Call σ (Page α)} (hask : ∀ c, Keeps f (ask c))
    (bound : Nat) (cursor : Cursor) (trail : Trail) (done : List α) (pages : Nat) :
    Keeps f (walkPages k ask bound cursor trail done pages) := by
  induction bound generalizing cursor trail done pages with
  | zero => exact fail _
  | succ bound ih =>
    refine ((hask cursor).within _).bind fun page => ?_
    dsimp only
    -- A page with a next one is followed; the trail and the log do not matter.
    split
    · exact ((ofExcept _ _).within _).bind fun trail => ih _ _ _ _
    · exact (log _ _ _).bind fun _ => pure _

/-- A walk from the first page keeps what its requests keep. -/
theorem collectPages (bound : σ → Nat) (k : Kind) {ask : Cursor → Call σ (Page α)}
    (hask : ∀ c, Keeps f (ask c)) : Keeps f (collectPages bound k ask) :=
  world.bind fun _ => walkPages k hask _ _ _ _ _

end Keeps

end Call

end TenantSync
