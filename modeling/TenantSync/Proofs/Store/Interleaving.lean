import TenantSync.Proofs.Store.Change

/-!
# Two processes change one store

Each change is a check followed by up to three more statements, and nothing holds the store
between them.  Two processes carry out one change each, and a list of turns says in which order they
ask their statements.  After each order the current name still is that of a saved context, with one
exception: a deletion runs as a whole between the moment at which the other change finds the name
saved and the moment at which it makes this name the current one.  After such an order the current
name is the deleted one (`dangling_iff_overtakes`).

The proof follows both changes from one statement to the next.  A `Stage` is how far a change has
come, and `Watched` is what holds of two stages, the turns that were taken and the tables after
every statement.
-/

namespace TenantSync.Store

/-! ## Turns -/

namespace Turn

/-- The other of the other is the first again. -/
@[simp] theorem other_other (turn : Turn) : turn.other.other = turn := by cases turn <;> rfl

/-- Two exchanges of the programs cancel out. -/
theorem map_other_map_other (turns : List Turn) : (turns.map other).map other = turns := by
  have hother : other ∘ other = id := funext other_other
  rw [List.map_map, hother, List.map_id]

end Turn

/-- The programs may change places if their turns do. -/
theorem Interleaving.symm {α β : Type} {t u : Tables} {p : Program α} {q : Program β}
    {turns : List Turn} (h : Interleaving t p q turns u) :
    Interleaving t q p (turns.map Turn.other) u := by
  induction h with
  | done t r r' => exact .done t r' r
  | left _ ih => exact .right ih
  | right _ ih => exact .left ih

/-- The order of the turns settles where two programs end. -/
theorem Interleaving.unique {α β : Type} {t u u' : Tables} {p : Program α} {q : Program β}
    {turns : List Turn} (h : Interleaving t p q turns u) (h' : Interleaving t p q turns u') :
    u = u' := by
  -- The turns say whose statement comes next, and the statement what it leaves.
  induction h with
  | done t r r' =>
    cases h'
    rfl
  | left _ ih =>
    cases h' with
    | left h' => exact ih h'
  | right _ ih =>
    cases h' with
    | right h' => exact ih h'

/-! ## Running a program up to a point -/

namespace Program

/-- A program that runs alone on some tables comes, with a number of statements, to what is left of
    it and to other tables. -/
inductive Reaches {α : Type} : Program α → Tables → Nat → Program α → Tables → Prop where
  | refl (p : Program α) (t : Tables) : Reaches p t 0 p t
  | step {s : Statement} {next : Except DatabaseFault s.Answer → Program α} {t u : Tables}
      {n : Nat} {q : Program α} :
      Reaches (next (execute s t).1) (execute s t).2 n q u → Reaches (.step s next) t (n + 1) q u

variable {α β : Type} {p q p' : Program α} {t u v : Tables} {m n : Nat} {turns : List Turn}

/-- What is left of a program goes on from where it is. -/
theorem Reaches.trans (h : p.Reaches t m q u) (h' : q.Reaches u n p' v) :
    p.Reaches t (m + n) p' v := by
  induction h with
  | refl =>
    rw [Nat.zero_add]
    exact h'
  | step _ ih =>
    rw [Nat.add_right_comm]
    exact .step (ih h')

/-- What is left of a program ends as the whole program does. -/
theorem Reaches.run_eq (h : p.Reaches t n q u) : q.run u = p.run t := by
  induction h with
  | refl => rfl
  | step _ ih => exact ih

/-- No statement takes a table away. -/
theorem Reaches.complete (h : p.Reaches t n q u) (ht : t.Complete) : u.Complete := by
  induction h with
  | refl => exact ht
  | step _ ih => exact ih (ht.execute _)

/-- The first program may go ahead. -/
theorem Reaches.interleaving_left {r : Program β} (h : p.Reaches t n q u)
    (hrest : Interleaving u q r turns v) :
    Interleaving t p r (List.replicate n .first ++ turns) v := by
  induction h with
  | refl => exact hrest
  | step _ ih =>
    rw [List.replicate_succ, List.cons_append]
    exact .left (ih hrest)

/-- The second program may go ahead. -/
theorem Reaches.interleaving_right {r : Program β} (h : p.Reaches t n q u)
    (hrest : Interleaving u r q turns v) :
    Interleaving t r p (List.replicate n .second ++ turns) v := by
  induction h with
  | refl => exact hrest
  | step _ ih =>
    rw [List.replicate_succ, List.cons_append]
    exact .right (ih hrest)

end Program

/-! ## Stages -/

/-- How far a change has come: what it does next, or how it ended. -/
inductive Stage where
  | saving (name url clientId : String) (clientSecret : Secret.Location) (now : Int)
  /-- The context is written, and the current name is read next. -/
  | noticing (name : String)
  | checking (name : String)
  | pointing (name : String)
  | removing (name : String)
  /-- The context is gone, and the current name is read next. -/
  | forgetting (name : String)
  | clearing
  | finished (r : Outcome Unit)

namespace Stage

/-- What is left of the program of a change. -/
def program : Stage → Program Unit
  | saving name url clientId clientSecret now => do
    Program.ask (.savingContext name) (.putContext name url clientId clientSecret now)
    if (← current).isNone then useContext name
  | noticing name => do if (← current).isNone then useContext name
  | checking name => useContext name
  | pointing name => setSetting currentKey name
  | removing name => deleteContext name
  | forgetting name => do if (← current) = some name then removeSetting currentKey
  | clearing => removeSetting currentKey
  | finished r => .done r

/-- The stage after the next statement, which depends on what the store says. -/
def after (r : Registry) : Stage → Stage
  | saving name .. => noticing name
  | noticing name => if r.current?.isNone then checking name else finished (.ok ())
  | checking name =>
    if r.Saved name then pointing name else finished (.error (Failure.of (.unknownContext name)))
  | pointing _ => finished (.ok ())
  | removing name =>
    if r.Saved name then forgetting name else finished (.error (Failure.of (.unknownContext name)))
  | forgetting name => if r.current? = some name then clearing else finished (.ok ())
  | clearing => finished (.ok ())
  | finished out => finished out

/-- The tables after the next statement. -/
def write (t : Tables) : Stage → Tables
  | saving name url clientId clientSecret now =>
    (execute (.putContext name url clientId clientSecret now) t).2
  | pointing name => (execute (.putSetting currentKey name) t).2
  | removing name => (execute (.removeContext name) t).2
  | clearing => (execute (.removeSetting currentKey) t).2
  | _ => t

/-- The stage takes the current name away if it is this one. -/
def Forgets (x : Stage) (name : String) : Prop := x = forgetting name ∨ x = clearing

/-- The change has ended. -/
def Finished (x : Stage) : Prop := ∃ r, x = finished r

end Stage

/-- The stage at which a change begins.  What is refused without the store ends at once. -/
def Change.stage : Change → Stage
  | save name url clientId clientSecret now =>
    if isBlankText name then .finished (.error (Failure.of .blankName))
    else if ¬ clientSecret.Known then
      .finished (.error ((Failure.of (.secret .unknownScheme)).within .checkingSecret))
    else .saving name url clientId clientSecret now
  | delete name => .removing name
  | use name => .checking name

/-- The program of a change is that of the stage at which it begins. -/
theorem Change.program_stage (c : Change) : c.stage.program = c.program := by
  cases c with
  | delete name => rfl
  | use name => rfl
  | save name url clientId clientSecret now =>
    rw [Change.stage, Change.program]
    -- Saving is refused for a blank name and for an unknown scheme, in this order.
    cases hname : isBlankText name with
    | true =>
      rw [saveContext_of_blank url clientId now clientSecret hname]
      rfl
    | false =>
      rw [if_neg Bool.false_ne_true]
      by_cases hknown : clientSecret.Known
      · rw [if_neg (not_not_intro hknown), saveContext_of_known url clientId now hname hknown]
        rfl
      · rw [if_pos hknown, saveContext_of_not_known url clientId now hname hknown]
        rfl

namespace Stage

variable {t u : Tables} {x y : Stage}

/-- A change of which nothing is left has ended. -/
theorem finished_of_program_done {r : Outcome Unit} (h : x.program = .done r) : x.Finished := by
  cases x with
  | finished r => exact ⟨r, rfl⟩
  | _ => cases h

/-- One statement takes a change that has not ended to the next stage. -/
theorem exists_step (ht : t.Complete) (hx : ¬ x.Finished) :
    ∃ s next, x.program = .step s next ∧
      next (execute s t).1 = (x.after t.registry).program ∧ (execute s t).2 = x.write t := by
  -- Each stage asks one statement, whose answer the registry gives.
  cases x with
  | finished r => exact absurd ⟨r, rfl⟩ hx
  | saving name url clientId clientSecret now =>
    refine ⟨_, _, rfl, ?_, rfl⟩
    rw [answer_putContext ht]
    rfl
  | noticing name =>
    refine ⟨_, _, rfl, ?_, congrArg Prod.snd (execute_getSetting ht)⟩
    rw [execute_getSetting ht, after]
    cases t.registry.current? <;> rfl
  | checking name =>
    refine ⟨_, _, rfl, ?_, congrArg Prod.snd (execute_getContext ht name)⟩
    rw [execute_getContext ht, after]
    cases he : t.registry.lookup? name with
    | none =>
      rw [if_neg (Registry.not_saved_iff.mpr he)]
      rfl
    | some e =>
      have hsaved : t.registry.Saved name := Option.isSome_iff_exists.mpr ⟨e, he⟩
      rw [if_pos hsaved]
      rfl
  | pointing name =>
    refine ⟨_, _, rfl, ?_, rfl⟩
    rw [answer_putSetting ht]
    rfl
  | removing name =>
    refine ⟨_, _, rfl, ?_, rfl⟩
    rw [answer_removeContext ht, after]
    by_cases hsaved : t.registry.Saved name
    · rw [decide_eq_true hsaved, if_pos hsaved]
      rfl
    · rw [decide_eq_false hsaved, if_neg hsaved]
      rfl
  | forgetting name =>
    refine ⟨_, _, rfl, ?_, congrArg Prod.snd (execute_getSetting ht)⟩
    rw [execute_getSetting ht, after]
    change (if t.registry.current? = some name then removeSetting currentKey else pure ()) = _
    split <;> rfl
  | clearing =>
    refine ⟨_, _, rfl, ?_, rfl⟩
    rw [answer_removeSetting ht]
    rfl

/-- A change that asks a statement has not ended. -/
theorem not_finished_of_program_step {s : Statement}
    {next : Except DatabaseFault s.Answer → Program Unit} (h : x.program = .step s next) :
    ¬ x.Finished := by
  rintro ⟨r, rfl⟩
  cases h

/-- Whatever statement a change asks next, its answer leads to the next stage. -/
theorem after_of_program_eq (ht : t.Complete) {s : Statement}
    {next : Except DatabaseFault s.Answer → Program Unit} (h : x.program = .step s next) :
    (x.after t.registry).program = next (execute s t).1 ∧ (execute s t).2 = x.write t := by
  obtain ⟨s', next', hprogram, hnext, hwrite⟩ := exists_step ht (not_finished_of_program_step h)
  cases h.symm.trans hprogram
  exact ⟨hnext.symm, hwrite⟩

/-- Running alone, a change comes with one statement from each stage to the next. -/
theorem reaches_after (ht : t.Complete) (hx : ¬ x.Finished) :
    x.program.Reaches t 1 (x.after t.registry).program (x.write t) := by
  obtain ⟨s, next, hprogram, hnext, hwrite⟩ := exists_step ht hx
  rw [hprogram, ← hnext, ← hwrite]
  exact .step (.refl ..)

/-- No stage takes a table away. -/
theorem complete_write (ht : t.Complete) (hx : ¬ x.Finished) : (x.write t).Complete :=
  (reaches_after ht hx).complete ht

variable {name : String} {r : Registry}

/-- No stage leads to that of a removal. -/
theorem after_ne_removing (x : Stage) : x.after r ≠ removing name := by
  intro h
  cases x
  case saving | pointing | clearing | finished => cases h
  all_goals
    rw [after] at h
    split at h <;> cases h

/-- A name is made current only after it was found to be saved. -/
theorem checking_of_after_eq_pointing (h : x.after r = pointing name) :
    x = checking name ∧ r.Saved name := by
  -- Only a check that found its name leads to the pointing.
  cases x
  case checking m =>
    rw [after] at h
    split at h
    case isTrue hsaved =>
      obtain rfl := pointing.inj h
      exact ⟨rfl, hsaved⟩
    case isFalse => cases h
  case saving | pointing | clearing | finished => cases h
  all_goals
    rw [after] at h
    split at h <;> cases h

/-- A deletion goes on with the current name and then ends. -/
theorem leaving_after (h : x = removing name ∨ x.Forgets name ∨ x.Finished) :
    (x.after r).Forgets name ∨ (x.after r).Finished := by
  -- A deletion that is under way goes on to the next of its stages or ends.
  rcases h with rfl | (rfl | rfl) | ⟨out, rfl⟩
  · rw [after]
    split
    case isTrue => exact .inl (.inl rfl)
    case isFalse => exact .inr ⟨_, rfl⟩
  · rw [after]
    split
    case isTrue => exact .inl (.inr rfl)
    case isFalse => exact .inr ⟨_, rfl⟩
  · exact .inr ⟨_, rfl⟩
  · exact .inr ⟨_, rfl⟩

/-- What is saved stays so unless it is removed. -/
theorem saved_write (ht : t.Complete) (h : t.registry.Saved name) (hx : x ≠ removing name) :
    (x.write t).registry.Saved name := by
  -- Only the removal of the name itself could take it away.
  cases x with
  | saving m url clientId clientSecret now =>
    rw [write, registry_putContext ht, Registry.saved_put]
    exact .inr h
  | pointing m =>
    rw [write, registry_putSetting ht, Registry.saved_pointTo]
    exact h
  | removing m =>
    rw [write, registry_removeContext ht, Registry.saved_remove]
    exact ⟨fun heq => hx (congrArg removing heq.symm), h⟩
  | clearing =>
    rw [write, registry_removeSetting ht, Registry.saved_pointTo]
    exact h
  | _ => exact h

/-- Only two stages change the current name. -/
theorem current?_write (ht : t.Complete) (hpointing : ∀ m, x ≠ pointing m)
    (hclearing : x ≠ clearing) : (x.write t).registry.current? = t.registry.current? := by
  cases x with
  | saving m url clientId clientSecret now =>
    rw [write, registry_putContext ht, Registry.current?_put]
  | pointing m => exact absurd rfl (hpointing m)
  | removing m => rw [write, registry_removeContext ht, Registry.current?_remove]
  | clearing => exact absurd rfl hclearing
  | _ => rfl

end Stage

/-- What each statement of either change keeps holds when both have ended.  The turns that were
    taken so far are counted in. -/
theorem Interleaving.keeps {P : List Turn → Tables → Stage → Stage → Prop}
    (hleft : ∀ {turns t x y}, t.Complete → ¬ x.Finished → P turns t x y →
      P (turns ++ [.first]) (x.write t) (x.after t.registry) y)
    (hright : ∀ {turns t x y}, t.Complete → ¬ y.Finished → P turns t x y →
      P (turns ++ [.second]) (y.write t) x (y.after t.registry))
    {t u : Tables} {x y : Stage} {taken turns : List Turn}
    (h : Interleaving t x.program y.program turns u) (ht : t.Complete) (hP : P taken t x y) :
    ∃ x' y' : Stage, x'.Finished ∧ y'.Finished ∧ P (taken ++ turns) u x' y' := by
  generalize hp : x.program = p at h
  generalize hq : y.program = q at h
  -- By induction on the interleaving; the stages stand for the programs that are left.
  induction h generalizing x y taken with
  | done t r r' =>
    rw [List.append_nil]
    exact ⟨x, y, Stage.finished_of_program_done hp, Stage.finished_of_program_done hq, hP⟩
  | left _ ih =>
    have hx := Stage.not_finished_of_program_step hp
    obtain ⟨hafter, hwrite⟩ := Stage.after_of_program_eq ht hp
    rw [hwrite] at ih
    rw [List.append_cons]
    exact ih (Stage.complete_write ht hx) (hleft ht hx hP) hafter hq
  | right _ ih =>
    have hy := Stage.not_finished_of_program_step hq
    obtain ⟨hafter, hwrite⟩ := Stage.after_of_program_eq ht hq
    rw [hwrite] at ih
    rw [List.append_cons]
    exact ih (Stage.complete_write ht hy) (hright ht hy hP) hp hafter

/-! ## What holds between the statements -/

/-- In this order of turns the deletion of a name runs as a whole while another change, having
    found the name saved, is about to make it the current one with its last statement.  The
    deletion has the given turn. -/
def Overtakes (name : String) (turn : Turn) (a b : Change) (t : Tables) (turns : List Turn) :
    Prop :=
  a = .delete name ∧ ∃ found t' whole r t'',
    b.program.Reaches t found (setSetting currentKey name) t' ∧ t'.registry.Saved name ∧
    (deleteContext name).Reaches t' whole (.done r) t'' ∧
    turns = List.replicate found turn.other ++ List.replicate whole turn ++ [turn.other]

/-- The current name is that of a saved context, or one of two changes takes it away. -/
def Guarded (t : Tables) (x y : Stage) : Prop :=
  ∀ name, t.registry.current? = some name →
    t.registry.Saved name ∨ x.Forgets name ∨ y.Forgets name

/-- What the stage `x` of a change `a`, which has the given turn, says about the stage `y` of a
    change `b`, when both began on the tables `t₀` and have taken some turns. -/
structure Aimed (turn : Turn) (a b : Change) (t₀ : Tables) (taken : List Turn) (t : Tables)
    (x y : Stage) : Prop where
  /-- Before its first statement a deletion has not touched the store. -/
  untouched : ∀ name, x = .removing name → a = .delete name ∧ ∃ found,
    b.program.Reaches t₀ found y.program t ∧ taken = List.replicate found turn.other
  /-- A name that is about to become current is saved, unless a deletion came between. -/
  target : ∀ name, y = .pointing name → t.registry.Saved name ∨
    a = .delete name ∧ (x.Forgets name ∨ x.Finished) ∧ ∃ found t' begun,
      b.program.Reaches t₀ found (setSetting currentKey name) t' ∧ t'.registry.Saved name ∧
      (deleteContext name).Reaches t' begun x.program t ∧
      taken = List.replicate found turn.other ++ List.replicate begun turn

variable {name : String} {turn : Turn} {a b : Change} {t₀ t u : Tables} {taken turns : List Turn}
  {x y : Stage}

/-- Both changes guard the current name in the same way. -/
theorem Guarded.symm (h : Guarded t x y) : Guarded t y x :=
  fun name hname => (h name hname).imp_right Or.symm

/-- A statement of the first change. -/
theorem Aimed.step_left (h : Aimed turn a b t₀ taken t x y) (ht : t.Complete)
    (hx : ¬ x.Finished) :
    Aimed turn a b t₀ (taken ++ [turn]) (x.write t) (x.after t.registry) y where
  untouched name hremoving := absurd hremoving x.after_ne_removing
  target name hy := by
    have hstep := Stage.reaches_after ht hx
    by_cases hremoving : x = .removing name
    · -- The deletion begins while the name is about to become current.
      obtain ⟨ha, found, hb, htaken⟩ := h.untouched name hremoving
      have hbegun : ¬ (x.Forgets name ∨ x.Finished) := by
        rw [hremoving]
        rintro ((h | h) | ⟨r, h⟩) <;> cases h
      have hsaved : t.registry.Saved name :=
        (h.target name hy).resolve_right fun ⟨_, hleaving, _⟩ => hbegun hleaving
      rw [hy] at hb
      rw [congrArg Stage.program hremoving] at hstep
      right
      exact ⟨ha, Stage.leaving_after (.inl hremoving), found, t, 1, hb, hsaved, hstep,
        congrArg (· ++ [turn]) htaken⟩
    · rcases h.target name hy with
        hsaved | ⟨ha, hleaving, found, t', begun, hb, hsaved, hrun, htaken⟩
      · exact .inl (Stage.saved_write ht hsaved hremoving)
      · right
        refine ⟨ha, Stage.leaving_after (.inr hleaving), found, t', begun + 1, hb, hsaved,
          hrun.trans hstep, ?_⟩
        rw [htaken, List.append_assoc, List.replicate_succ']

/-- A statement of the second change. -/
theorem Aimed.step_right (h : Aimed turn a b t₀ taken t x y) (ht : t.Complete)
    (hy : ¬ y.Finished) :
    Aimed turn a b t₀ (taken ++ [turn.other]) (y.write t) x (y.after t.registry) where
  untouched name hremoving := by
    obtain ⟨ha, found, hb, htaken⟩ := h.untouched name hremoving
    refine ⟨ha, found + 1, hb.trans (Stage.reaches_after ht hy), ?_⟩
    rw [htaken, List.replicate_succ']
  target name hpointing := by
    obtain ⟨rfl, hsaved⟩ := Stage.checking_of_after_eq_pointing hpointing
    exact .inl hsaved

/-- The name that a change makes current is guarded when it is saved or still to be taken away.
    Otherwise the other change has deleted it in the meantime. -/
theorem Aimed.step_pointing {m : String} (hy : Aimed turn.other b a t₀ taken t y (.pointing m))
    (ht : t.Complete) :
    Guarded ((Stage.pointing m).write t) ((Stage.pointing m).after t.registry) y ∨
      y.Finished ∧ Overtakes m turn.other b a t₀ (taken ++ [turn]) := by
  have hcurrent : ((Stage.pointing m).write t).registry = t.registry.pointTo (some m) :=
    registry_putSetting ht m
  have hkept (hm : t.registry.Saved m ∨ y.Forgets m) :
      Guarded ((Stage.pointing m).write t) ((Stage.pointing m).after t.registry) y := by
    intro name hname
    rw [hcurrent, Registry.current?_pointTo] at hname
    obtain rfl := Option.some.inj hname
    rw [hcurrent, Registry.saved_pointTo]
    exact hm.imp_right .inr
  rcases hy.target m rfl with
    hsaved | ⟨hb, hforgets | hfinished, found, t', whole, ha, hsaved, hrun, htaken⟩
  · exact .inl (hkept (.inl hsaved))
  · exact .inl (hkept (.inr hforgets))
  · -- The deletion has ended, so nothing takes the name away any more.
    right
    refine ⟨hfinished, hb, found, t', whole, ?_⟩
    obtain ⟨r, rfl⟩ := hfinished
    refine ⟨r, t, ha, hsaved, hrun, ?_⟩
    rw [htaken, Turn.other_other]

/-- A statement that makes no name current leaves the current name guarded. -/
theorem Guarded.step (h : Guarded t x y) (ht : t.Complete) (hpointing : ∀ m, x ≠ .pointing m) :
    Guarded (x.write t) (x.after t.registry) y := by
  intro name hname
  by_cases hclearing : x = .clearing
  · rw [hclearing, Stage.write, registry_removeSetting ht, Registry.current?_pointTo] at hname
    cases hname
  rw [Stage.current?_write ht hpointing hclearing] at hname
  rcases h name hname with hsaved | (rfl | hforgets) | hforgets
  · by_cases hremoving : x = .removing name
    · -- The deletion of the current context goes on with reading the current name.
      right
      left
      rw [hremoving, Stage.after, if_pos hsaved]
      exact .inl rfl
    · exact .inl (Stage.saved_write ht hsaved hremoving)
  · -- It reads the name that it has deleted.
    right
    left
    rw [Stage.after, if_pos hname]
    exact .inr rfl
  · exact absurd hforgets hclearing
  · exact .inr (.inr hforgets)

/-- A statement of the first change leaves the current name guarded, unless it makes a name
    current that the second one has deleted in the meantime. -/
theorem Guarded.step_left (h : Guarded t x y) (hy : Aimed turn.other b a t₀ taken t y x)
    (ht : t.Complete) :
    Guarded (x.write t) (x.after t.registry) y ∨
      (x.after t.registry).Finished ∧ y.Finished ∧
        ∃ name, Overtakes name turn.other b a t₀ (taken ++ [turn]) := by
  by_cases hpointing : ∃ m, x = .pointing m
  · obtain ⟨m, rfl⟩ := hpointing
    rcases hy.step_pointing ht with hguarded | ⟨hfinished, hovertakes⟩
    · exact .inl hguarded
    · exact .inr ⟨⟨_, rfl⟩, hfinished, m, hovertakes⟩
  · exact .inl (h.step ht fun m hm => hpointing ⟨m, hm⟩)

/-- What holds of the stages of two changes, the turns that were taken and the tables. -/
def Watched (turn : Turn) (a b : Change) (t₀ : Tables) (taken : List Turn) (t : Tables)
    (x y : Stage) : Prop :=
  (Guarded t x y ∧ Aimed turn a b t₀ taken t x y ∧ Aimed turn.other b a t₀ taken t y x) ∨
    (x.Finished ∧ y.Finished ∧
      ∃ name, Overtakes name turn a b t₀ taken ∨ Overtakes name turn.other b a t₀ taken)

/-- The two changes may change places. -/
theorem Watched.symm (h : Watched turn a b t₀ taken t x y) :
    Watched turn.other b a t₀ taken t y x := by
  rw [Watched, Turn.other_other]
  rcases h with ⟨hguarded, hx, hy⟩ | ⟨hx, hy, name, hovertakes⟩
  · exact .inl ⟨hguarded.symm, hy, hx⟩
  · exact .inr ⟨hy, hx, name, hovertakes.symm⟩

/-- A statement of the first change. -/
theorem Watched.step_left (h : Watched turn a b t₀ taken t x y) (ht : t.Complete)
    (hx : ¬ x.Finished) :
    Watched turn a b t₀ (taken ++ [turn]) (x.write t) (x.after t.registry) y := by
  rcases h with ⟨hguarded, hleft, hright⟩ | ⟨hfinished, -, -⟩
  · rcases hguarded.step_left hright ht with hguarded' | ⟨hx', hy, name, hovertakes⟩
    · have hright' := hright.step_right ht hx
      rw [Turn.other_other] at hright'
      exact .inl ⟨hguarded', hleft.step_left ht hx, hright'⟩
    · exact .inr ⟨hx', hy, name, .inr hovertakes⟩
  · exact absurd hfinished hx

/-- A statement of the second change. -/
theorem Watched.step_right (h : Watched turn a b t₀ taken t x y) (ht : t.Complete)
    (hy : ¬ y.Finished) :
    Watched turn a b t₀ (taken ++ [turn.other]) (y.write t) x (y.after t.registry) := by
  have h' := (h.symm.step_left ht hy).symm
  rwa [Turn.other_other] at h'

/-- Only a deletion begins with a removal. -/
theorem Change.eq_delete_of_stage {c : Change} {name : String} (h : c.stage = .removing name) :
    c = .delete name := by
  -- A saving starts by being refused or by writing, never by a removal.
  cases c with
  | save m url clientId clientSecret now =>
    rw [Change.stage] at h
    split at h
    · cases h
    · split at h <;> cases h
  | delete m => rw [Stage.removing.inj h]
  | use m => cases h

/-- No change begins with making a name current. -/
theorem Change.stage_ne_pointing (c : Change) (name : String) : c.stage ≠ .pointing name := by
  intro h
  cases c with
  | save m url clientId clientSecret now =>
    rw [Change.stage] at h
    split at h
    · cases h
    · split at h <;> cases h
  | delete m => cases h
  | use m => cases h

/-- At first no change is about to make a name current, and no deletion has begun. -/
theorem Aimed.start (turn : Turn) (a b : Change) (t : Tables) :
    Aimed turn a b t [] t a.stage b.stage where
  untouched name ha := by
    rw [b.program_stage]
    exact ⟨Change.eq_delete_of_stage ha, 0, .refl .., rfl⟩
  target name hb := absurd hb (b.stage_ne_pointing name)

/-! ## The current name afterwards -/

/-- When both changes have ended, the current name is valid or one of them overtook the other. -/
theorem Interleaving.sound_or_overtakes (h : Interleaving t a.program b.program turns u)
    (ht : t.Complete) (hp : t.registry.Sound) :
    u.registry.Sound ∨
      ∃ name, Overtakes name .first a b t turns ∨ Overtakes name .second b a t turns := by
  rw [← a.program_stage, ← b.program_stage] at h
  -- At the start both changes stand before their first statement and the pointer is sound.
  have hstart : Watched .first a b t [] t a.stage b.stage :=
    .inl ⟨fun name hname => .inl (hp name hname), .start _ a b t, .start _ b a t⟩
  obtain ⟨x, y, ⟨r, rfl⟩, ⟨r', rfl⟩, hend⟩ := h.keeps (P := Watched .first a b t)
    (fun ht hx h => h.step_left ht hx) (fun ht hy h => h.step_right ht hy) ht hstart
  -- At the end nobody is forgetting any more, so the pointer is sound or one change overtook the
  -- other.
  rcases hend with ⟨hguarded, -, -⟩ | ⟨-, -, hovertakes⟩
  · left
    intro name hname
    rcases hguarded name hname with hsaved | (hx | hx) | (hy | hy)
    · exact hsaved
    all_goals contradiction
  · exact .inr hovertakes

/-- After its deletion a name is not saved. -/
theorem not_saved_deleteContext (ht : t.Complete) (name : String) :
    ¬ ((deleteContext name).run t).2.registry.Saved name := by
  have hrule : ((deleteContext name).run t).2.registry = (Change.delete name).next t.registry :=
    (ht.follows (.delete name)).registry
  rw [hrule, Change.next, Change.on]
  split
  case isTrue => simp [Except.toOption]
  case isFalse hsaved => exact hsaved

/-- Two changes come to an end, and the current name is this one, which is not saved. -/
def Dangles (name : String) (t : Tables) (a b : Change) (turns : List Turn) : Prop :=
  ∃ u, Interleaving t a.program b.program turns u ∧
    u.registry.current? = some name ∧ ¬ u.registry.Saved name

/-- A deletion that overtakes another change leaves a current name that is not saved. -/
theorem Overtakes.dangles (h : Overtakes name .first a b t turns) (ht : t.Complete) :
    Dangles name t a b turns := by
  obtain ⟨rfl, found, t', whole, r, t'', hb, -, hdelete, rfl⟩ := h
  have ht' := hb.complete ht
  have ht'' := hdelete.complete ht'
  have hlast : (setSetting currentKey name).Reaches t'' 1 (.done (.ok ()))
      (execute (.putSetting currentKey name) t'').2 :=
    Stage.reaches_after (x := .pointing name) ht'' nofun
  refine ⟨(execute (.putSetting currentKey name) t'').2, ?_, ?_, ?_⟩
  · -- One change up to its last statement, the deletion, and the last statement.
    rw [List.append_assoc]
    refine hb.interleaving_right (hdelete.interleaving_left ?_)
    exact hlast.interleaving_right (.done ..)
  · rw [registry_putSetting ht'', Registry.current?_pointTo]
  · have hrun : t'' = ((deleteContext name).run t').2 := congrArg Prod.snd hdelete.run_eq
    rw [registry_putSetting ht'', Registry.saved_pointTo, hrun]
    exact not_saved_deleteContext ht' name

/-- Whoever has the other turn overtakes in the exchanged order. -/
theorem Overtakes.map_other (h : Overtakes name turn a b t turns) :
    Overtakes name turn.other a b t (turns.map Turn.other) := by
  obtain ⟨ha, found, t', whole, r, t'', hb, hsaved, hdelete, rfl⟩ := h
  exact ⟨ha, found, t', whole, r, t'', hb, hsaved, hdelete, by simp⟩

/-- The two changes may change places if their turns do. -/
theorem Dangles.symm (h : Dangles name t a b turns) :
    Dangles name t b a (turns.map Turn.other) := by
  obtain ⟨u, hinterleaving, hu⟩ := h
  exact ⟨u, hinterleaving.symm, hu⟩

/-- Whichever of two changes overtakes the other leaves a current name that is not saved. -/
theorem dangles_of_overtakes (ht : t.Complete)
    (h : Overtakes name .first a b t turns ∨ Overtakes name .second b a t turns) :
    Dangles name t a b turns := by
  rcases h with h | h
  · exact h.dangles ht
  · have hdangles := (h.map_other.dangles ht).symm
    rwa [Turn.map_other_map_other] at hdangles

/-- Two processes carry out one change each on a store with a valid current name.  In each order of
    their statements the current name is valid at the end, with one exception: a deletion runs as
    a whole between the moment at which the other change finds the name saved and its last
    statement, which makes this name the current one.  Every such order is possible, and after it
    the current name is the deleted one. -/
theorem dangling_iff_overtakes (ht : t.Complete) (hp : t.registry.Sound) (a b : Change)
    (turns : List Turn) :
    (∀ u, Interleaving t a.program b.program turns u → (¬ u.registry.Sound ↔
      ∃ name, Overtakes name .first a b t turns ∨ Overtakes name .second b a t turns)) ∧
    ∀ name, Overtakes name .first a b t turns ∨ Overtakes name .second b a t turns →
      Dangles name t a b turns := by
  refine ⟨fun u h => ⟨fun hu => ?_, ?_⟩, fun name => dangles_of_overtakes ht⟩
  · exact (h.sound_or_overtakes ht hp).resolve_left hu
  · rintro ⟨name, hovertakes⟩ hsound
    obtain ⟨u', h', hcurrent, hsaved⟩ := dangles_of_overtakes ht hovertakes
    rw [← h.unique h'] at hcurrent hsaved
    exact hsaved (hsound name hcurrent)

/-- One saved context, which is current. -/
def oneCurrent : Tables :=
  ⟨some [⟨"a", "https://a.example.com", "c", .ofLiteral "s", 1, 1⟩], some [(currentKey, "a")]⟩

/-- Its current name is that of the saved context. -/
theorem sound_oneCurrent : oneCurrent.registry.Sound := by
  intro name hname
  obtain rfl : "a" = name := Option.some.inj hname
  rfl

/-- No saved context, and a current name. -/
def oneDangling : Tables := ⟨some [], some [(currentKey, "a")]⟩

/-- The check of one change, the whole deletion, and the new current name. -/
theorem interleaving_oneDangling :
    Interleaving oneCurrent (Change.delete "a").program (Change.use "a").program
      [.second, .first, .first, .first, .second] oneDangling :=
  .right (.left (.left (.left (.right (.done ..)))))

/-- The deletion of the current context overtakes the command that makes it current again. -/
theorem deletion_overtakes_use :
    oneCurrent.Complete ∧ oneCurrent.registry.Sound ∧
      (∃ name, Overtakes name .first (.delete "a") (.use "a") oneCurrent
          [.second, .first, .first, .first, .second] ∨
        Overtakes name .second (.use "a") (.delete "a") oneCurrent
          [.second, .first, .first, .first, .second]) ∧
      Dangles "a" oneCurrent (.delete "a") (.use "a")
        [.second, .first, .first, .first, .second] := by
  have hcomplete : oneCurrent.Complete := ⟨rfl, rfl⟩
  obtain ⟨hiff, hdangles⟩ := dangling_iff_overtakes hcomplete sound_oneCurrent (.delete "a")
    (.use "a") [.second, .first, .first, .first, .second]
  -- The use finds the name; the deletion removes it and looks at the pointer; the use points.
  have hovertakes : Overtakes "a" .first (.delete "a") (.use "a") oneCurrent
      [.second, .first, .first, .first, .second] :=
    ⟨rfl, 1, oneCurrent, 3, _, _, .step (.refl ..), rfl, .step (.step (.step (.refl ..))), rfl⟩
  have hdangling : ¬ oneDangling.registry.Sound := by
    intro hsound
    cases hsound "a" rfl
  exact ⟨hcomplete, sound_oneCurrent, (hiff oneDangling interleaving_oneDangling).mp hdangling,
    hdangles "a" (.inl hovertakes)⟩

/-- Two processes can leave a current name that is not saved. -/
theorem interleaving_can_dangle :
    ¬ ∀ (t u : Tables) (a b : Change) (turns : List Turn), t.Complete → t.registry.Sound →
      Interleaving t a.program b.program turns u → u.registry.Sound := by
  intro h
  have hdangling := h _ _ _ _ _ ⟨rfl, rfl⟩ sound_oneCurrent interleaving_oneDangling "a" rfl
  cases hdangling

end TenantSync.Store
