import TenantSync.Proofs.Session.Keeping

/-!
# Calls next to their echoes

To see when a run calls its clients, each call is made to leave a line in the log
(`Call.marked`).  That changes nothing else: `Call.Echoes` relates a marked call, in a session
that nobody cancels, to the call as it is, in a session with another clock and a token that may
yet be cancelled but was not so far.  Both do the same, but for the lines.

Once the token is cancelled there is no echo.  `Call.Halts` says that the call then fails and
leaves everything as it was.
-/

namespace TenantSync

/-- The line that a marked call leaves in the log. -/
def callLine : LogLine := ⟨.trace, .http, "call"⟩

/-- Only marked calls speak for their component. -/
theorem ne_callLine (level : Level) {component : Component} (text : String)
    (h : component ≠ callLine.component) : (⟨level, component, text⟩ : LogLine) ≠ callLine :=
  fun heq => h (congrArg LogLine.component heq)

/-- A log without the lines that marked calls left. -/
def unmarked (log : List LogLine) : List LogLine := log.filter (· ≠ callLine)

/-- Looking at the token does not change it, and the log does not either. -/
structure CancelToken.Steady (t : CancelToken) : Prop where
  look : t.look = t
  afterLine : ∀ l, t.afterLine l = t

/-- A token nobody cancels is steady. -/
theorem CancelToken.fresh_steady : fresh.Steady := ⟨rfl, fun _ => rfl⟩

/-- The session without the lines of marked calls, under another token and clock. -/
def Session.echo {σ : Type} (t : CancelToken) (k : Clock) (s : Session σ) : Session σ :=
  ⟨s.world, t, k, unmarked s.log, s.waits⟩

namespace Call

variable {σ τ α β : Type}

/-- The call with a line in the log that says that it was made. -/
def marked (c : Call σ α) : Call σ α := do
  Call.log callLine.level callLine.component callLine.text
  c

/-- A mark changes nothing but the log. -/
theorem Keeps.marked {f : σ → β} {c : Call σ α} (hc : Keeps f c) : Keeps f c.marked :=
  (Keeps.log _ _ _).bind fun _ => hc

/-- In a session that nobody cancels, the first call does what the second does under the token `t`
    and the clock `k`, but for the lines of marked calls.  `before` and `after` say whether such a
    line is in the log by then. -/
def Echoes (t : CancelToken) (k : Clock) (before after : Prop) (c c' : Call σ α) : Prop :=
  ∀ s : Session σ, s.token = .fresh → (before → callLine ∈ s.log) →
    c'.run (s.echo t k) = ((c.run s).1, (c.run s).2.echo t k) ∧
      (c.run s).2.token = .fresh ∧ (c.run s).2.clock = s.clock ∧
      (after → callLine ∈ (c.run s).2.log)

namespace Echoes

variable {t : CancelToken} {k : Clock} {before mid after : Prop}

/-- Returning a value echoes itself. -/
theorem pure (x : α) : Echoes t k before before (Pure.pure x : Call σ α) (Pure.pure x) :=
  fun _ hs hb => ⟨rfl, hs, rfl, hb⟩

/-- Failing echoes itself. -/
theorem fail (c : Cause) : Echoes t k before before (Call.fail c : Call σ α) (Call.fail c) :=
  fun _ hs hb => ⟨rfl, hs, rfl, hb⟩

/-- Taking over a result echoes itself. -/
theorem ofExcept {ε : Type} (cause : ε → Cause) (x : Except ε α) :
    Echoes t k before before (Call.ofExcept cause x : Call σ α) (Call.ofExcept cause x) := by
  cases x with
  | ok x => exact pure x
  | error e => exact fail _

/-- Looking at the world echoes itself. -/
theorem world : Echoes t k before before (Call.world : Call σ σ) Call.world :=
  fun _ hs hb => ⟨rfl, hs, rfl, hb⟩

/-- Replacing the world echoes itself. -/
theorem setWorld (w : σ) : Echoes t k before before (Call.setWorld w) (Call.setWorld w) :=
  fun _ hs hb => ⟨rfl, hs, rfl, hb⟩

/-- A log line echoes itself, unless it is the one of marked calls. -/
theorem log (ht : t.Steady) (level : Level) {component : Component} (text : String)
    (hcomponent : component ≠ callLine.component) :
    Echoes t k before before (Call.log level component text : Call σ Unit)
      (Call.log level component text) := by
  intro s hs hb
  have hline := ne_callLine level text hcomponent
  simp only [run_log, Session.echo, ht.afterLine, hs]
  refine ⟨?_, rfl, trivial, fun h => List.mem_append_left _ (hb h)⟩
  simp [unmarked, hline]

/-- The line of a marked call is not echoed. -/
theorem marked {c c' : Call σ α} (hc : Echoes t k True after c c') :
    Echoes t k before after c.marked c' := by
  intro s hs _
  let s' : Session σ := { s with
    log := s.log ++ [callLine]
    token := s.token.afterLine callLine }
  -- Behind the mark the call runs as it is, and the mark has no part in the echo.
  have hrun : c.marked.run s = c.run s' := by
    rw [Call.marked, run_bind, run_log]
  have hecho : s'.echo t k = s.echo t k := by
    simp [s', Session.echo, unmarked]
  rw [hrun, ← hecho]
  exact hc s' (by simp only [s', hs]; rfl) fun _ => List.mem_append_right _ List.mem_cons_self

/-- Echoes compose: the second call starts where the first one left its condition. -/
theorem bind {c c' : Call σ α} {f f' : α → Call σ β} (hc : Echoes t k before after c c')
    (hf : ∀ x, Echoes t k after after (f x) (f' x)) :
    Echoes t k before after (c >>= f) (c' >>= f') := by
  intro s hs hb
  obtain ⟨hrun, hs', hclock, ha⟩ := hc s hs hb
  rw [run_bind, run_bind, hrun]
  -- Where the first call fails both stop; otherwise the second starts behind it.
  rcases hout : c.run s with ⟨e | x, s'⟩ <;> rw [hout] at hs' hclock ha
  case error => exact ⟨rfl, hs', hclock, ha⟩
  case ok =>
    obtain ⟨hrun', hs'', hclock', ha'⟩ := hf x s' hs' ha
    exact ⟨hrun', hs'', hclock'.trans hclock, ha'⟩

/-- Looking at the world does not count as a call. -/
theorem world_bind {f f' : σ → Call σ β} (hf : ∀ w, Echoes t k before after (f w) (f' w)) :
    Echoes t k before after (Call.world >>= f) (Call.world >>= f') :=
  fun s hs hb => hf s.world s hs hb

/-- Naming what one is doing keeps an echo. -/
theorem within {c c' : Call σ α} (a : Activity) (hc : Echoes t k before after c c') :
    Echoes t k before after (c.within a) (c'.within a) := by
  intro s hs hb
  obtain ⟨hrun, hrest⟩ := hc s hs hb
  rw [run_within, run_within, hrun]
  exact ⟨rfl, hrest⟩

/-- What holds of a part holds of the whole. -/
theorem zoom (l : Lens σ τ) {c c' : Call τ α} (hc : Echoes t k before after c c') :
    Echoes t k before after (c.zoom l) (c'.zoom l) := by
  intro s hs hb
  obtain ⟨hrun, hs', hclock, ha⟩ := hc ⟨l.get s.world, s.token, s.clock, s.log, s.waits⟩ hs hb
  simp only [Session.echo] at hrun
  simp only [run_zoom, Session.echo, hrun, true_and]
  exact ⟨hs', hclock, ha⟩

/-- A walk echoes if each page does; the first page is asked for in any case. -/
theorem walkPages (ht : t.Steady) (kind : Kind) {ask ask' : Cursor → Call σ (Page α)}
    (hask : ∀ before cursor, Echoes t k before True (ask cursor) (ask' cursor)) (bound : Nat)
    (cursor : Cursor) (trail : Trail) (done : List α) (pages : Nat) :
    Echoes t k before True (walkPages kind ask (bound + 1) cursor trail done pages)
      (walkPages kind ask' (bound + 1) cursor trail done pages) := by
  -- `before` is generalized because from the second page on there is a mark already.
  induction bound generalizing before cursor trail done pages with
  | zero =>
    refine ((hask _ cursor).within _).bind fun page => ?_
    dsimp only
    split
    · exact ((ofExcept _ _).within _).bind fun trail => fail _
    · exact (log ht _ _ (by decide)).bind fun _ => pure _
  | succ bound ih =>
    refine ((hask _ cursor).within _).bind fun page => ?_
    dsimp only
    split
    · exact ((ofExcept _ _).within _).bind fun trail => ih _ _ _ _
    · exact (log ht _ _ (by decide)).bind fun _ => pure _

/-- Two page walks echo each other when each page request does. -/
theorem collectPages (ht : t.Steady) (kind : Kind) {bound : σ → Nat}
    {ask ask' : Cursor → Call σ (Page α)} (hbound : ∀ w, 0 < bound w)
    (hask : ∀ before cursor, Echoes t k before True (ask cursor) (ask' cursor)) :
    Echoes t k before True (collectPages bound kind ask) (collectPages bound kind ask') := by
  refine world_bind fun w => ?_
  obtain ⟨n, hn⟩ := Nat.exists_eq_add_one.mpr (hbound w)
  rw [hn]
  exact walkPages ht kind hask n _ _ _ _

end Echoes

/-! ## Calls in a cancelled session -/

/-- When the run was told to stop, the call fails and leaves everything as it was. -/
def Halts (c : Call σ α) : Prop :=
  ∀ s : Session σ, s.token.Steady → s.token.cancelled = true → ∃ f, c.run s = (.error f, s)

namespace Halts

/-- A call that halts halts whatever follows it. -/
theorem bind {c : Call σ α} (hc : Halts c) (f : α → Call σ β) : Halts (c >>= f) := by
  intro s hs hcan
  obtain ⟨e, hrun⟩ := hc s hs hcan
  exact ⟨e, by rw [run_bind, hrun]⟩

/-- Naming what one is doing does not restart a call that halts. -/
theorem within {c : Call σ α} (hc : Halts c) (a : Activity) : Halts (c.within a) := by
  intro s hs hcan
  obtain ⟨e, hrun⟩ := hc s hs hcan
  exact ⟨e.within a, by rw [run_within, hrun]; rfl⟩

/-- A call that halts does so on a part of the world too. -/
theorem zoom {l : Lens σ τ} (hl : l.Lawful) {c : Call τ α} (hc : Halts c) : Halts (c.zoom l) := by
  intro s hs hcan
  obtain ⟨e, hrun⟩ := hc ⟨l.get s.world, s.token, s.clock, s.log, s.waits⟩ hs hcan
  refine ⟨e, ?_⟩
  simp only [run_zoom, hrun, hl.set_get]

/-- The first page already fails. -/
theorem collectPages {bound : σ → Nat} {kind : Kind} {ask : Cursor → Call σ (Page α)}
    (hbound : ∀ w, 0 < bound w) (hask : ∀ cursor, Halts (ask cursor)) :
    Halts (collectPages bound kind ask) := by
  intro s hs hcan
  obtain ⟨n, hn⟩ := Nat.exists_eq_add_one.mpr (hbound s.world)
  have hwalk : Halts (walkPages kind ask (n + 1) Cursor.begin Trail.start [] 0) :=
    ((hask _).within _).bind _
  rw [← hn] at hwalk
  exact hwalk s hs hcan

end Halts

end Call

end TenantSync
