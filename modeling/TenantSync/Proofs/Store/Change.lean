import TenantSync.Proofs.Secret.Location
import TenantSync.Proofs.Store.Registry

/-!
# Changes of the saved contexts

The three operations that change a store are saving, deleting and using a context.
`Change.on` is the rule for each of them on registries: when it is refused and why, and what it
makes of the map and of the current name.  The programs, which ask the database one statement
after the other, follow these rules on every store that has its tables
(`Tables.Complete.follows`), and the rules keep the current name valid (`Registry.Sound.next`).
-/

namespace TenantSync

namespace Store

/-! ## The rules -/

/-- An operation that changes the saved contexts. -/
inductive Change where
  | save (name url clientId : String) (clientSecret : Secret.Location) (now : Int)
  | delete (name : String)
  | use (name : String)
  deriving DecidableEq

namespace Change

/-- The program that carries a change out. -/
def program : Change → Program Unit
  | save name url clientId clientSecret now => saveContext name url clientId clientSecret now
  | delete name => deleteContext name
  | use name => useContext name

/-- What a change makes of a registry, or why it is refused.  Saving keeps the time of creation
    of an old entry, and the saved name becomes current if none is; deleting the current context
    leaves none. -/
def on (r : Registry) : Change → Except (Failure Fault) Registry
  | save name url clientId clientSecret now =>
    if isBlankText name then .error (Failure.of .blankName)
    else if ¬ clientSecret.Known then
      .error ((Failure.of (.secret .unknownScheme)).within .checkingSecret)
    else
      let createdAt := ((r.lookup? name).map (·.createdAt)).getD now
      .ok <| (r.put name ⟨url, clientId, clientSecret, createdAt, now⟩).pointTo
        (r.current?.or (some name))
  | delete name =>
    if r.Saved name then
      .ok <| (r.remove name).pointTo (if r.current? = some name then none else r.current?)
    else .error (Failure.of (.unknownContext name))
  | use name =>
    if r.Saved name then .ok (r.pointTo (some name))
    else .error (Failure.of (.unknownContext name))

/-- The registry after a change: a refused one leaves it as it is. -/
def next (r : Registry) (c : Change) : Registry := (c.on r).toOption.getD r

end Change

/-- A change that is not refused keeps the current name valid. -/
theorem Registry.Sound.of_on {r r' : Registry} (hr : r.Sound) {c : Change}
    (h : c.on r = .ok r') : r'.Sound := by
  intro n hn
  cases c with
  | save name url clientId clientSecret now =>
    simp only [Change.on] at h
    split at h
    · cases h
    split at h
    · cases h
    obtain rfl := Except.ok.inj h
    rw [current?_pointTo] at hn
    rw [saved_pointTo, saved_put]
    -- The name is either the one that was current or the one that is saved now.
    cases hcurrent : r.current? with
    | none =>
      rw [hcurrent, Option.none_or] at hn
      exact .inl (Option.some.inj hn).symm
    | some m =>
      rw [hcurrent, Option.some_or] at hn
      exact .inr (hr n (hcurrent.trans hn))
  | delete name =>
    simp only [Change.on] at h
    split at h
    case isFalse => cases h
    obtain rfl := Except.ok.inj h
    rw [current?_pointTo] at hn
    rw [saved_pointTo, saved_remove]
    split at hn
    case isTrue => cases hn
    case isFalse hne => exact ⟨fun heq => hne (heq ▸ hn), hr n hn⟩
  | use name =>
    simp only [Change.on] at h
    split at h
    case isFalse => cases h
    case isTrue hsaved =>
      obtain rfl := Except.ok.inj h
      rw [← Option.some.inj hn]
      exact hsaved

/-- The rules keep the current name valid. -/
theorem Registry.Sound.next {r : Registry} (hr : r.Sound) (c : Change) : (c.next r).Sound := by
  rw [Change.next]
  cases h : c.on r with
  | error f => exact hr
  | ok r' => exact hr.of_on h

/-! ## Programs -/

namespace Program

variable {α β : Type} {t u : Tables}

/-- A program that succeeds hands its answer and its tables to the next. -/
theorem run_bind_of_ok {p : Program α} {k : α → Program β} {a : α} (h : p.run t = (.ok a, u)) :
    (p >>= k).run t = (k a).run u := by
  change (p.andThen k).run t = _
  induction p generalizing t with
  | done r =>
    obtain ⟨rfl, rfl⟩ := Prod.mk.inj h
    rfl
  | step s next ih => exact ih _ h

/-- A statement that succeeds gives its answer and what it leaves of the tables. -/
theorem run_ask_of_ok {activity : Activity} {s : Statement} {a : s.Answer}
    (h : (execute s t).1 = .ok a) : (ask activity s).run t = (.ok a, (execute s t).2) := by
  simp only [ask, run, h]

/-- What every statement keeps, every program keeps. -/
theorem run_keeps {P : Tables → Prop} (hstep : ∀ t s, P t → P (execute s t).2) (p : Program α)
    (ht : P t) : P (p.run t).2 := by
  induction p generalizing t with
  | done => exact ht
  | step s next ih => exact ih _ (hstep t s ht)

end Program

/-! ### Saving, before the store is asked -/

section
variable {name : String} {clientSecret : Secret.Location} (url clientId : String) (now : Int)

/-- A blank name is refused before any statement runs. -/
theorem saveContext_of_blank (clientSecret : Secret.Location) (h : isBlankText name = true) :
    saveContext name url clientId clientSecret now = .done (.error (Failure.of .blankName)) := by
  rw [saveContext, h]
  rfl

/-- A secret's location of no known scheme is refused before any statement runs. -/
theorem saveContext_of_not_known (hname : isBlankText name = false) (h : ¬ clientSecret.Known) :
    saveContext name url clientId clientSecret now =
      .done (.error ((Failure.of (.secret .unknownScheme)).within .checkingSecret)) := by
  rw [saveContext, hname, Secret.Location.validate_of_not_known h]
  rfl

/-- Past both checks, saving writes the context and points at it if nothing was current. -/
theorem saveContext_of_known (hname : isBlankText name = false) (h : clientSecret.Known) :
    saveContext name url clientId clientSecret now = (do
      Program.ask (.savingContext name) (.putContext name url clientId clientSecret now)
      if (← current).isNone then useContext name) := by
  rw [saveContext, hname, if_neg Bool.false_ne_true, Secret.Location.validate_of_known h]
  change (_ >>= _ : Program Unit) = _ >>= _
  refine congrArg (Program.ask _ _ >>= ·) (funext fun _ => ?_)
  refine congrArg (current >>= ·) (funext fun current? => ?_)
  cases current? <;> rfl

end

/-! ### Following the rules -/

section
variable {t : Tables}

/-- What it means for a change to follow its rule on the tables of a store. -/
structure Change.Follows (c : Change) (t : Tables) : Prop where
  /-- The program ends as the rule says. -/
  outcome : (c.program.run t).1 = (c.on t.registry).map fun _ => ()
  /-- Afterwards the store says what the rule makes of it. -/
  registry : (c.program.run t).2.registry = c.next t.registry
  /-- A refused change leaves the tables as they were. -/
  unchanged : ∀ f, (c.program.run t).1 = .error f → (c.program.run t).2 = t

/-- A change that its rule refuses, and that ends so without touching the tables. -/
theorem Change.Follows.of_refused {c : Change} {f : Failure Fault}
    (hrun : c.program.run t = (.error f, t)) (hon : c.on t.registry = .error f) :
    c.Follows t where
  outcome := by rw [hrun, hon]; rfl
  registry := by rw [hrun, Change.next, hon]; rfl
  unchanged _ _ := by rw [hrun]

/-- A change that its rule accepts, and that leaves what the rule says. -/
theorem Change.Follows.of_accepted {c : Change} {u : Tables} {r : Registry}
    (hrun : c.program.run t = (.ok (), u)) (hon : c.on t.registry = .ok r)
    (hu : u.registry = r) : c.Follows t where
  outcome := by rw [hrun, hon]; rfl
  registry := by rw [hrun, Change.next, hon]; exact hu
  unchanged f h := by
    rw [hrun] at h
    cases h

end

/-! ### Programs on a store that has its tables -/

variable {t : Tables}

/-- No program drops a table. -/
theorem Tables.Complete.run {α : Type} (ht : t.Complete) (p : Program α) : (p.run t).2.Complete :=
  p.run_keeps (fun _ s h => h.execute s) ht

section
variable (ht : t.Complete) (name : String)
include ht

/-- Getting a context looks it up in the registry and changes nothing. -/
theorem run_getContext :
    (getContext name).run t = (.ok ((t.registry.lookup? name).map (·.named name)), t) := by
  have h := execute_getContext ht name
  rw [getContext, Program.run_ask_of_ok (congrArg Prod.fst h), h]

/-- Listing gives the stored contexts in order. -/
theorem run_listContexts : listContexts.run t = (.ok (inOrder (t.contexts?.getD [])), t) := by
  have h := execute_listContexts ht
  rw [listContexts, Program.run_ask_of_ok (congrArg Prod.fst h), h]

/-- A context that is saved is found. -/
theorem run_requireContext_of_some {e : Entry} (h : t.registry.lookup? name = some e) :
    (requireContext name).run t = (.ok (e.named name), t) := by
  rw [requireContext, Program.run_bind_of_ok (run_getContext ht name), h]
  rfl

/-- A context that is not saved is reported missing by its name. -/
theorem run_requireContext_of_none (h : t.registry.lookup? name = none) :
    (requireContext name).run t = (.error (Failure.of (.missingContext name)), t) := by
  rw [requireContext, Program.run_bind_of_ok (run_getContext ht name), h]
  rfl

/-- The current context is the one the registry points at. -/
theorem run_current : current.run t = (.ok t.registry.current?, t) := by
  have h := execute_getSetting ht
  rw [current, getSetting, Program.run_ask_of_ok (congrArg Prod.fst h), h]

/-- Pointing at a context is the one statement that writes the setting. -/
theorem run_setSetting :
    (setSetting currentKey name).run t = (.ok (), (execute (.putSetting currentKey name) t).2) :=
  Program.run_ask_of_ok (answer_putSetting ht name)

/-- Using a saved context writes the current name. -/
theorem run_useContext_of_saved (h : t.registry.Saved name) :
    (useContext name).run t = (.ok (), (execute (.putSetting currentKey name) t).2) := by
  obtain ⟨e, he⟩ := Option.isSome_iff_exists.mp h
  rw [useContext, Program.run_bind_of_ok (run_getContext ht name), he]
  exact run_setSetting ht name

/-- Using a name that is not saved is refused. -/
theorem run_useContext_of_not_saved (h : ¬ t.registry.Saved name) :
    (useContext name).run t = (.error (Failure.of (.unknownContext name)), t) := by
  rw [useContext, Program.run_bind_of_ok (run_getContext ht name), Registry.not_saved_iff.mp h]
  rfl

/-- Deleting a saved context takes it out and, if it is current, clears the current name. -/
theorem run_deleteContext_of_saved (h : t.registry.Saved name) :
    (deleteContext name).run t =
      (.ok (), if t.registry.current? = some name
        then (execute (.removeSetting currentKey) (execute (.removeContext name) t).2).2
        else (execute (.removeContext name) t).2) := by
  have hanswer : (execute (.removeContext name) t).1 = .ok true := by
    rw [answer_removeContext ht, decide_eq_true h]
  have hcomplete := ht.execute (.removeContext name)
  -- Removing a context does not move the pointer.
  have hcurrent : (execute (.removeContext name) t).2.registry.current? = t.registry.current? := by
    rw [registry_removeContext ht, Registry.current?_remove]
  rw [deleteContext, Program.run_bind_of_ok (Program.run_ask_of_ok hanswer), if_pos rfl,
    Program.run_bind_of_ok (run_current hcomplete), hcurrent]
  split
  · exact Program.run_ask_of_ok (answer_removeSetting hcomplete)
  · rfl

/-- Deleting a name that is not saved is refused. -/
theorem run_deleteContext_of_not_saved (h : ¬ t.registry.Saved name) :
    (deleteContext name).run t = (.error (Failure.of (.unknownContext name)), t) := by
  have hanswer : (execute (.removeContext name) t).1 = .ok false := by
    rw [answer_removeContext ht, decide_eq_false h]
  rw [deleteContext, Program.run_bind_of_ok (Program.run_ask_of_ok hanswer),
    removeContext_of_not_saved ht name h]
  rfl

variable (url clientId : String) (clientSecret : Secret.Location) (now : Int)

/-- Saving writes the context and, if none is current, the current name. -/
theorem run_saveContext_of_ok (hname : isBlankText name = false) (hknown : clientSecret.Known) :
    (saveContext name url clientId clientSecret now).run t =
      (.ok (),
        let u := (execute (.putContext name url clientId clientSecret now) t).2
        if t.registry.current?.isSome then u
        else (execute (.putSetting currentKey name) u).2) := by
  have hcomplete := ht.execute (.putContext name url clientId clientSecret now)
  have hregistry := registry_putContext ht name url clientId clientSecret now
  rw [saveContext_of_known url clientId now hname hknown,
    Program.run_bind_of_ok (Program.run_ask_of_ok (answer_putContext ht ..)),
    Program.run_bind_of_ok (run_current hcomplete), hregistry, Registry.current?_put]
  cases t.registry.current? with
  | some m => rfl
  | none =>
    -- The context was written just before, so it is found.
    refine run_useContext_of_saved hcomplete name ?_
    rw [hregistry, Registry.saved_put]
    exact .inl rfl

/-- Saving does to the tables what it does to the registry. -/
theorem save_follows : (Change.save name url clientId clientSecret now).Follows t := by
  -- The checks come in the order of the program; then the pointer decides whether it is moved.
  cases hname : isBlankText name with
  | true =>
    refine .of_refused ?_ (if_pos hname)
    rw [Change.program, saveContext_of_blank url clientId now clientSecret hname]
    rfl
  | false =>
    have hname' : ¬ isBlankText name = true := by simp [hname]
    by_cases hknown : clientSecret.Known
    · have hcomplete := ht.execute (.putContext name url clientId clientSecret now)
      refine .of_accepted (run_saveContext_of_ok ht name url clientId clientSecret now hname hknown)
        ((if_neg hname').trans (if_neg (not_not_intro hknown))) ?_
      cases hcurrent : t.registry.current? with
      | some m =>
        rw [Option.isSome_some, if_pos rfl, registry_putContext ht, Option.some_or, ← hcurrent]
        rfl
      | none =>
        rw [Option.isSome_none, if_neg Bool.false_ne_true, registry_putSetting hcomplete,
          registry_putContext ht, Option.none_or]
    · refine .of_refused ?_ ((if_neg hname').trans (if_pos hknown))
      rw [Change.program, saveContext_of_not_known url clientId now hname hknown]
      rfl

/-- Deleting does to the tables what it does to the registry. -/
theorem delete_follows : (Change.delete name).Follows t := by
  -- A name that is not saved is refused; for one that is, the pointer may have to be cleared.
  by_cases hsaved : t.registry.Saved name
  · have hcomplete := ht.execute (.removeContext name)
    refine .of_accepted (run_deleteContext_of_saved ht name hsaved) (if_pos hsaved) ?_
    split
    · rw [registry_removeSetting hcomplete, registry_removeContext ht]
    · rw [registry_removeContext ht]
      rfl
  · exact .of_refused (run_deleteContext_of_not_saved ht name hsaved) (if_neg hsaved)

/-- Making a context current does to the tables what it does to the registry. -/
theorem use_follows : (Change.use name).Follows t := by
  by_cases hsaved : t.registry.Saved name
  · exact .of_accepted (run_useContext_of_saved ht name hsaved) (if_pos hsaved)
      (registry_putSetting ht name)
  · exact .of_refused (run_useContext_of_not_saved ht name hsaved) (if_neg hsaved)

/-- On a store that has its tables, each change follows its rule. -/
theorem Tables.Complete.follows (c : Change) : c.Follows t := by
  cases c with
  | save name url clientId clientSecret now =>
    exact save_follows ht name url clientId clientSecret now
  | delete name => exact delete_follows ht name
  | use name => exact use_follows ht name

end

end Store

end TenantSync
