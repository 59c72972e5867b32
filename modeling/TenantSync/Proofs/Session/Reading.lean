import TenantSync.Session.Call

/-!
# Calls that only read

`Call.Reads stops W P x c` says that the call `c` reads `x` from the worlds in `W` without
leaving them.  The condition `P` says when the tenant answers at all, and `stops` whether
somebody may cancel the run: if not, the token stays as it was made
(`CancelToken.FreshUnless`), and then only `P` decides whether the call succeeds.

Readings of parts make readings of the whole (`Call.Reads.bind`, `Call.Reads.zoom`).
-/

namespace TenantSync

namespace CancelToken

/-- Unless somebody may cancel the run, the token is one that nothing cancels. -/
def FreshUnless (stops : Prop) (t : CancelToken) : Prop := ¬ stops → t = fresh

namespace FreshUnless

variable {stops : Prop} {t : CancelToken}

/-- Any token will do where the run may be cancelled. -/
theorem any (t : CancelToken) : t.FreshUnless True := fun h => absurd trivial h

/-- Where nobody may cancel the run, its token is a fresh one. -/
theorem never : fresh.FreshUnless False := fun _ => rfl

/-- A log line keeps a token fresh unless the run stops. -/
theorem afterLine (h : t.FreshUnless stops) (l : LogLine) : (t.afterLine l).FreshUnless stops := by
  intro hn
  rw [h hn]
  rfl

/-- An event keeps a token fresh unless the run stops. -/
theorem afterEvent (h : t.FreshUnless stops) (n : Nat) : (t.afterEvent n).FreshUnless stops := by
  intro hn
  rw [h hn]
  rfl

/-- A look at a token keeps it fresh unless the run stops. -/
theorem look (h : t.FreshUnless stops) : t.look.FreshUnless stops := by
  intro hn
  rw [h hn]
  rfl

/-- What a call leaves of the token, put together with what was known before. -/
theorem merge {u : CancelToken} (ht : t.FreshUnless stops) (hu : u.FreshUnless stops) :
    CancelToken.FreshUnless stops ⟨t.cancelled || u.cancelled, u.trigger⟩ := by
  intro hn
  rw [ht hn, hu hn]
  rfl

/-- Only where somebody may cancel the run is it ever found cancelled. -/
theorem stops_of_look (h : t.FreshUnless stops) (hc : t.look.cancelled = true) : stops := by
  by_cases hs : stops
  · exact hs
  · rw [h hs] at hc
    exact nomatch hc

end FreshUnless

end CancelToken

/-! ## What a reading yields -/

section
variable {ε ε' α : Type} {stops P Q : Prop} {x : α} {out : Except ε α}

/-- The outcome of reading `x`: success comes only under `P` and is `x`, failure only without
    `P` or because the run was stopped. -/
def Yields (stops P : Prop) (x : α) : Except ε α → Prop
  | .ok y => P ∧ y = x
  | .error _ => stops ∨ ¬ P

/-- Renaming the failure does not matter. -/
theorem Yields.mapError (h : Yields stops P x out) (f : ε → ε') :
    Yields stops P x (out.mapError f) := by
  cases out <;> exact h

/-- What holds anyway can be added to what a result yields. -/
theorem Yields.and (h : Yields stops Q x out) (hp : P) : Yields stops (P ∧ Q) x out := by
  cases out with
  | ok y => exact ⟨⟨hp, h.1⟩, h.2⟩
  | error e => exact h.imp_right fun hq hpq => hq hpq.2

end

namespace Call

variable {σ τ α β : Type} {stops : Prop} {W : σ → Prop} {P Q : Prop} {x : α} {y : β}

/-- The call reads `x` from any world in `W` and stays there. -/
def Reads (stops : Prop) (W : σ → Prop) (P : Prop) (x : α) (c : Call σ α) : Prop :=
  ∀ s : Session σ, W s.world → s.token.FreshUnless stops →
    W (c.run s).2.world ∧ (c.run s).2.token.FreshUnless stops ∧ Yields stops P x (c.run s).1

namespace Reads

/-- Returning a value is reading it, without a condition. -/
theorem pure : Reads stops W True x (Pure.pure x) :=
  fun _ hw ht => ⟨hw, ht, trivial, rfl⟩

/-- A log line reads nothing. -/
theorem log (level : Level) (component : Component) (text : String) :
    Reads stops W True () (Call.log level component text) :=
  fun _ hw ht => ⟨hw, ht.afterLine _, trivial, rfl⟩

/-- A failure reads whatever one likes, as it never succeeds. -/
theorem fail (cause : Cause) : Reads stops W False x (Call.fail cause) :=
  fun _ hw ht => ⟨hw, ht, .inr id⟩

/-- A reading followed by one that may depend on what was read. -/
theorem bind {c : Call σ α} {f : α → Call σ β} (hc : Reads stops W P x c)
    (hf : Reads stops W Q y (f x)) : Reads stops W (P ∧ Q) y (c >>= f) := by
  intro s hw ht
  obtain ⟨hw', ht', hout⟩ := hc s hw ht
  rw [run_bind]
  -- Where the first call fails so does the whole; otherwise it has read `x`.
  rcases hr : c.run s with ⟨_ | x', s'⟩ <;> rw [hr] at hw' ht' hout
  case error => exact ⟨hw', ht', hout.imp_right fun hp h => hp h.1⟩
  case ok =>
    obtain ⟨hp, rfl⟩ := hout
    obtain ⟨hw'', ht'', hout'⟩ := hf s' hw' ht'
    exact ⟨hw'', ht'', hout'.and hp⟩

/-- What never succeeds is followed by nothing. -/
theorem bind_of_false {c : Call σ α} {f : α → Call σ β} (hc : Reads stops W False x c) :
    Reads stops W False y (c >>= f) := by
  intro s hw ht
  obtain ⟨hw', ht', hout⟩ := hc s hw ht
  rw [run_bind]
  rcases hr : c.run s with ⟨_ | x', s'⟩ <;> rw [hr] at hw' ht' hout
  case error => exact ⟨hw', ht', hout⟩
  case ok => exact hout.1.elim

/-- Only what the condition says counts. -/
theorem congr {c : Call σ α} (h : P ↔ Q) (hc : Reads stops W P x c) : Reads stops W Q x c := by
  obtain rfl := propext h
  exact hc

/-- Naming what one is doing keeps what is read. -/
theorem within {c : Call σ α} (a : Activity) (hc : Reads stops W P x c) :
    Reads stops W P x (c.within a) := by
  intro s hw ht
  obtain ⟨hw', ht', hout⟩ := hc s hw ht
  rw [run_within]
  exact ⟨hw', ht', hout.mapError _⟩

/-- A reading from a part is one from the whole, if the worlds allow the part to be replaced. -/
theorem zoom {l : Lens σ τ} {V : τ → Prop} {c : Call τ α} (hget : ∀ w, W w → V (l.get w))
    (hset : ∀ w t, W w → V t → W (l.set t w)) (hc : Reads stops V P x c) :
    Reads stops W P x (c.zoom l) := by
  intro s hw ht
  obtain ⟨hv, ht', hout⟩ := hc ⟨l.get s.world, s.token, s.clock, s.log, s.waits⟩ (hget _ hw) ht
  rw [run_zoom]
  exact ⟨hset _ _ hw hv, ht', hout⟩

end Reads

end Call

end TenantSync
