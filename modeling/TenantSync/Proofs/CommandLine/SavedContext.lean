import TenantSync.CommandLine.Contexts
import TenantSync.Proofs.Endpoint
import TenantSync.Proofs.Store.Change

/-!
# What was saved is what is used

A context that a command has saved stays as it is through all commands that neither save nor
delete its name (`ContextCommand.perform_keeps`), and a side that names it has an endpoint made of
what was saved, as far as the flags and the environment do not say otherwise
(`saved_context_is_used`).
-/

namespace TenantSync

/-! ## Entries that stay -/

namespace Store

/-- Whether a change is about what is saved under a name. -/
def Change.Writes (name : String) : Change → Prop
  | save n .. => n = name
  | delete n => n = name
  | use _ => False

/-- A change leaves what is saved under other names. -/
theorem Change.lookup?_next {c : Change} {name : String} (h : ¬ c.Writes name) (r : Registry) :
    (c.next r).lookup? name = r.lookup? name := by
  rw [Change.next]
  -- Each change looks up or moves one name only, and `name` is not it unless it is written.
  cases c with
  | save n url clientId clientSecret now =>
    have hne : name ≠ n := fun heq => h heq.symm
    simp only [Change.on]
    split
    · rfl
    split
    · rfl
    simp [Except.toOption, hne]
  | delete n =>
    have hne : name ≠ n := fun heq => h heq.symm
    simp only [Change.on]
    split
    · simp [Except.toOption, hne]
    · rfl
  | use n =>
    simp only [Change.on]
    split <;> rfl

/-- The tables are there, and an entry is saved under a name. -/
structure Tables.Holds (name : String) (e : Entry) (t : Tables) : Prop where
  complete : t.Complete
  lookup : t.registry.lookup? name = some e

variable {name : String} {e : Entry} {t : Tables}

/-- A change that does not write a name leaves what is saved under it. -/
theorem Tables.Holds.change (ht : t.Holds name e) {c : Change} (hc : ¬ c.Writes name) :
    (c.program.run t).2.Holds name e := by
  refine ⟨ht.complete.run c.program, ?_⟩
  rw [(ht.complete.follows c).registry, Change.lookup?_next hc]
  exact ht.lookup

/-- What was saved is there. -/
theorem holds_of_saveContext (ht : t.Complete) {url clientId : String}
    {clientSecret : Secret.Location} {now : Int}
    (h : ((saveContext name url clientId clientSecret now).run t).1 = .ok ()) :
    ((saveContext name url clientId clientSecret now).run t).2.Holds name
      ⟨url, clientId, clientSecret,
        ((t.registry.lookup? name).map (·.createdAt)).getD now, now⟩ := by
  have hfollows := ht.follows (.save name url clientId clientSecret now)
  have hon := hfollows.outcome.symm.trans h
  have hregistry := hfollows.registry
  -- The registry after the change decides, so the tables need not be opened.
  refine ⟨ht.run _, ?_⟩
  rw [Change.program] at hregistry
  rw [hregistry, Change.next]
  simp only [Change.on] at hon ⊢
  -- A blank name or an unknown scheme would have failed the change.
  split at hon
  · cases hon
  case isFalse hname =>
    split at hon
    · cases hon
    case isFalse hknown =>
      rw [if_neg hname, if_neg hknown]
      simp [Except.toOption]

end Store

namespace CommandLine

/-! ## What a step of a command keeps -/

namespace ContextM

variable {α β : Type} {P : Store.Tables → Prop}

/-- A step keeps a property of the tables, whether it fails or not. -/
def Keeps (P : Store.Tables → Prop) (x : ContextM α) : Prop :=
  ∀ s : ContextState, P s.tables → P (x.run s).2.tables

/-- What a command does next depends on whether the step before it succeeded. -/
theorem run_bind (x : ContextM α) (f : α → ContextM β) (s : ContextState) :
    (x >>= f).run s = ExceptT.bindCont f (x.run s).1 (x.run s).2 := rfl

/-- Returning a value changes nothing. -/
theorem Keeps.pure (a : α) : (pure a : ContextM α).Keeps P := fun _ hs => hs

/-- Neither does a failure. -/
theorem Keeps.fail (f : Fault) : (ContextM.fail f : ContextM α).Keeps P := fun _ hs => hs

/-- Neither does a line on the screen. -/
theorem Keeps.print (line : String) : (ContextM.print line).Keeps P := fun _ hs => hs

/-- Neither does an outcome that is passed on. -/
theorem Keeps.lift (r : Except (Failure Fault) α) : (liftM r : ContextM α).Keeps P := by
  intro s hs
  cases r <;> exact hs

/-- What two steps keep is kept by one after the other. -/
theorem Keeps.bind {x : ContextM α} {f : α → ContextM β} (hx : x.Keeps P)
    (hf : ∀ a, (f a).Keeps P) : (x >>= f).Keeps P := by
  intro s hs
  have hs' := hx s hs
  rw [run_bind]
  cases (x.run s).1 with
  | error f => exact hs'
  | ok a => exact hf a _ hs'

/-- A program that may change the tables. -/
theorem run_ask (p : Store.Program α) {s : ContextState} (hs : s.readOnly = false) :
    (ContextM.ask p).run s =
      ((p.run s.tables).1.mapError fun f => f.map .store,
        { s with tables := (p.run s.tables).2 }) := by
  obtain ⟨tables, readOnly, printed⟩ := s
  cases hs
  rfl

/-- A program that must not change the tables. -/
theorem run_ask_readOnly (p : Store.Program α) {s : ContextState} (hs : s.readOnly = true) :
    (ContextM.ask p).run s = ((p.read s.tables).mapError fun f => f.map .store, s) := by
  obtain ⟨tables, readOnly, printed⟩ := s
  cases hs
  rfl

/-- If a command that may write gets an answer of the store, the program ran to its end on the
    tables. -/
theorem run_of_ask_ok {p : Store.Program α} {s s' : ContextState} {a : α}
    (hs : s.readOnly = false) (h : (ContextM.ask p).run s = (.ok a, s')) :
    (p.run s.tables).1 = .ok a ∧ (p.run s.tables).2 = s'.tables := by
  rw [run_ask p hs] at h
  obtain ⟨houtcome, rfl⟩ := Prod.mk.inj h
  cases hrun : (p.run s.tables).1 with
  | error f =>
    rw [hrun] at houtcome
    cases houtcome
  | ok b =>
    rw [hrun] at houtcome
    obtain rfl : b = a := Except.ok.inj houtcome
    exact ⟨rfl, rfl⟩

/-- What a program keeps is kept, also when the tables must not change. -/
theorem Keeps.ask {p : Store.Program α} (hp : ∀ t, P t → P (p.run t).2) :
    (ContextM.ask p).Keeps P := by
  intro s hs
  -- A store that is read only is left as it is.
  cases hread : s.readOnly with
  | true =>
    rw [run_ask_readOnly p hread]
    exact hs
  | false =>
    rw [run_ask p hread]
    exact hp _ hs

end ContextM

/-! ## What the commands keep -/

/-- Whether a command is about what is saved under a name. -/
def ContextCommand.Writes (name : String) : ContextCommand → Prop
  | set n _ _ _ => n = name
  | delete n => n = name
  | _ => False

section
open ContextM

variable {name : String} {e : Store.Entry}

/-- Asking for the current context changes nothing. -/
private theorem current_keeps : (ask Store.current).Keeps (Store.Tables.Holds name e) := by
  refine .ask fun t ht => ?_
  rw [Store.run_current ht.complete]
  exact ht

/-- Reading a context changes nothing, whether it is there or not. -/
private theorem requireContext_keeps (n : String) :
    (ask (Store.requireContext n)).Keeps (Store.Tables.Holds name e) := by
  refine .ask fun t ht => ?_
  cases h : t.registry.lookup? n with
  | none =>
    rw [Store.run_requireContext_of_none ht.complete n h]
    exact ht
  | some e' =>
    rw [Store.run_requireContext_of_some ht.complete n h]
    exact ht

/-- Listing the contexts changes nothing. -/
private theorem listContexts_keeps :
    (ask Store.listContexts).Keeps (Store.Tables.Holds name e) := by
  refine .ask fun t ht => ?_
  rw [Store.run_listContexts ht.complete]
  exact ht

/-- Printing lines changes nothing. -/
private theorem printLines_keeps {α : Type} {P : Store.Tables → Prop} (line : α → String)
    (xs : List α) : (xs.forM fun x => ContextM.print (line x)).Keeps P := by
  induction xs with
  | nil => exact .pure ()
  | cons x xs ih => exact .bind (.print _) fun _ => ih

/-- What saving prints at its end changes nothing. -/
private theorem announce_keeps (colours : Bool) (n : String) :
    (do ContextM.print s!"Saved context {shownName colours n}"
        if (← ask Store.current) = some n then
          ContextM.print s!"  {n} is the current context").Keeps (Store.Tables.Holds name e) := by
  refine .bind (.print _) fun _ => ?_
  refine .bind current_keeps fun current? => ?_
  split
  · exact .print _
  · exact .pure ()

/-- A command that neither saves nor deletes a name leaves what is saved under it. -/
theorem ContextCommand.perform_keeps {c : ContextCommand} (hc : ¬ c.Writes name) (colours : Bool)
    (now : Int) : (c.perform colours now).Keeps (Store.Tables.Holds name e) := by
  cases c with
  | list =>
    refine .bind listContexts_keeps fun cs => ?_
    cases cs with
    | nil => exact .print _
    | cons c cs =>
      refine .bind current_keeps fun current? => ?_
      exact .bind (.print _) fun _ => printLines_keeps _ (c :: cs)
  | showOne name? =>
    unfold ContextCommand.perform ContextM.showOne
    extract_lets rest
    -- What follows once the name is known.
    have hrest (n : String) : (rest n).Keeps (Store.Tables.Holds name e) := by
      refine .bind (requireContext_keeps n) fun c => ?_
      refine .bind current_keeps fun current? => ?_
      exact .bind (.print _) fun _ => .bind (.print _) fun _ => .bind (.print _) fun _ =>
        .bind (.print _) fun _ => .bind (.print _) fun _ => .print _
    cases name? with
    | some n => exact .bind (.pure n) hrest
    | none =>
      refine .bind current_keeps fun current? => ?_
      cases current? with
      | some n => exact .bind (.pure n) hrest
      | none => exact .bind (.fail _) hrest
  | set n url clientId clientSecret? =>
    refine .bind (.lift _) fun location => ?_
    refine .bind (.ask fun t ht => ht.change (c := .save n url clientId location now) hc) fun _ => ?_
    exact announce_keeps colours n
  | use n =>
    refine .bind (.ask fun t ht => ht.change (c := .use n) id) fun _ => ?_
    exact .print _
  | delete n =>
    refine .bind (.ask fun t ht => ht.change (c := .delete n) hc) fun _ => ?_
    exact .print _

end

/-! ## What saving leaves behind -/

section
variable {colours : Bool} {now : Int} {name url clientId raw : String} {s s' : ContextState}

/-- If two steps succeed, so does the first, and the second from where it ends. -/
theorem ContextM.exists_of_bind_ok {α β : Type} {x : ContextM α} {f : α → ContextM β} {b : β}
    (h : (x >>= f).run s = (.ok b, s')) :
    ∃ a s₁, x.run s = (.ok a, s₁) ∧ (f a).run s₁ = (.ok b, s') := by
  rw [ContextM.run_bind] at h
  cases hx : (x.run s).1 with
  | error e =>
    rw [hx] at h
    cases h
  | ok a =>
    rw [hx] at h
    exact ⟨a, _, Prod.ext hx rfl, h⟩

/-- An outcome that is passed on and succeeds is a value, and nothing has changed. -/
theorem ContextM.eq_of_lift_ok {α : Type} {r : Except (Failure Fault) α} {a : α}
    (h : (liftM r : ContextM α).run s = (.ok a, s')) : r = .ok a ∧ s = s' := by
  cases r with
  | error f => cases h
  | ok b =>
    cases h
    exact ⟨rfl, rfl⟩

/-- What is accepted can be used: the address is one of a tenant, the client is not blank, and the
    secret stays what it is unless it begins with a marker. -/
theorem checkContext_eq_ok {location : Secret.Location}
    (h : ContextM.checkContext url clientId (some raw) = .ok location) :
    (∃ v, Url.ofTenant url = .ok v) ∧ isBlankText clientId = false ∧ raw.isEmpty = false ∧
      location = Secret.Location.ofUserInput raw := by
  unfold ContextM.checkContext at h
  -- The checks in their order; only a context that passes all three leaves a location.
  cases hurl : Url.ofTenant url with
  | error f =>
    rw [hurl] at h
    cases h
  | ok v =>
    rw [hurl] at h
    cases hid : isBlankText clientId with
    | true =>
      rw [hid] at h
      cases h
    | false =>
      rw [hid] at h
      cases hraw : raw.isEmpty with
      | true =>
        simp only [hraw] at h
        cases h
      | false =>
        simp only [hraw] at h
        exact ⟨⟨v, rfl⟩, rfl, rfl, (Except.ok.inj h).symm⟩

/-- A context can be saved only where both tables are and may change. -/
theorem ContextM.writable_of_saveContext {location : Secret.Location}
    (h : ((ask (Store.saveContext name url clientId location now)).run s).1 = .ok ()) :
    s.readOnly = false ∧ s.tables.Complete := by
  obtain ⟨⟨contexts?, settings?⟩, readOnly, printed⟩ := s
  -- Only a change that passes its checks reaches the store, which has to be complete and writable.
  cases hname : isBlankText name with
  | true =>
    rw [Store.saveContext_of_blank url clientId now location hname] at h
    cases readOnly <;> cases h
  | false =>
    by_cases hknown : location.Known
    · rw [Store.saveContext_of_known url clientId now hname hknown] at h
      cases readOnly with
      | true => cases contexts? <;> cases h
      | false =>
        cases contexts? with
        | none => cases h
        | some cs =>
          cases settings? with
          | none => cases h
          | some ss => exact ⟨rfl, rfl, rfl⟩
    · rw [Store.saveContext_of_not_known url clientId now hname hknown] at h
      cases readOnly <;> cases h

/-- After a context was saved, what is there under its name can be used. -/
theorem holds_of_set
    (h : ((ContextCommand.set name url clientId (some raw)).perform colours now).run s =
      (.ok (), s'))
    (hraw : ∀ scheme : Secret.Scheme, ¬ scheme.marker.toList <+: raw.toList) :
    (∃ v, Url.ofTenant url = .ok v) ∧ isBlankText clientId = false ∧
      ∃ createdAt, s'.tables.Holds name
        ⟨url, clientId, .ofLiteral raw, createdAt, now⟩ := by
  obtain ⟨location, s₁, hcheck, h⟩ := ContextM.exists_of_bind_ok h
  obtain ⟨hlocation, rfl⟩ := ContextM.eq_of_lift_ok hcheck
  obtain ⟨hurl, hid, hempty, rfl⟩ := checkContext_eq_ok hlocation
  obtain ⟨_, s₂, hsave, h⟩ := ContextM.exists_of_bind_ok h
  obtain ⟨hwritable, hcomplete⟩ := ContextM.writable_of_saveContext (congrArg Prod.fst hsave)
  obtain ⟨hsaved, hs₂⟩ := ContextM.run_of_ask_ok hwritable hsave
  -- What follows only reads and prints.
  have hrest := announce_keeps colours name s₂ (hs₂ ▸ Store.holds_of_saveContext hcomplete hsaved)
  have hliteral : Secret.Location.ofUserInput raw = .ofLiteral raw :=
    Secret.Location.ofUserInput_of_unmarked (by simpa using hempty) hraw
  rw [hliteral, h] at hrest
  exact ⟨hurl, hid, _, hrest⟩

end

/-! ## Commands one after another -/

/-- A command on contexts as it is given: how it prints, when it is given, and whether the tables
    must not change. -/
structure Given where
  command : ContextCommand
  colours : Bool
  now : Int
  readOnly : Bool

/-- The tables after a command. -/
def Given.run (t : Store.Tables) (g : Given) : Store.Tables :=
  ((g.command.perform g.colours g.now).run { tables := t, readOnly := g.readOnly }).2.tables

/-- What no command in a row saves or deletes is as before the first of them. -/
theorem holds_after {name : String} {e : Store.Entry} {t : Store.Tables} (ht : t.Holds name e)
    (later : List Given) (hlater : ∀ g ∈ later, ¬ g.command.Writes name) :
    (later.foldl Given.run t).Holds name e := by
  induction later generalizing t with
  | nil => exact ht
  | cons g later ih =>
    have hstep : (Given.run t g).Holds name e :=
      ContextCommand.perform_keeps (hlater g List.mem_cons_self) g.colours g.now _ ht
    exact ih hstep fun g' hg' => hlater g' (List.mem_cons_of_mem _ hg')

/-- After a context was saved with a secret that begins with no marker, and after any commands that
    neither save nor delete its name, the context is found, and a side that uses it has an endpoint
    exactly when the address that is given, if one is, is that of a tenant.  The endpoint holds
    what was saved where nothing else is given. -/
theorem saved_context_is_used {colours : Bool} {now : Int} {name url clientId raw : String}
    {s s' : ContextState}
    (hset : ((ContextCommand.set name url clientId (some raw)).perform colours now).run s =
      (.ok (), s'))
    (hraw : ∀ scheme : Secret.Scheme, ¬ scheme.marker.toList <+: raw.toList)
    (later : List Given) (hlater : ∀ g ∈ later, ¬ g.command.Writes name) :
    ∃ c, ((Store.requireContext name).run (later.foldl Given.run s'.tables)).1 = .ok c ∧
      ∀ (side : Side) (flags : EndpointFlags) (lookup : String → Option String) (m : Machine),
        ((∃ e, Endpoint.resolve side flags (some c) lookup m = .ok e) ↔
          ∀ u, flags.url? = some u → isBlankText u = false → ∃ v, Url.ofTenant u = .ok v) ∧
        ∀ e, Endpoint.resolve side flags (some c) lookup m = .ok e →
          e.url = (flags.url?.filter fun u => !isBlankText u).getD url ∧
          e.credentials.clientId =
            (flags.clientId?.filter fun id => !isBlankText id).getD clientId ∧
          e.credentials.clientSecret =
            ((lookup flags.secretVariable).filter fun secret => !secret.isEmpty).getD raw := by
  -- What was saved has passed the checks, and the later commands leave it in the registry.
  obtain ⟨hurl, hid, createdAt, hsaved⟩ := holds_of_set hset hraw
  have hfound := holds_after hsaved later hlater
  have hrun := Store.run_requireContext_of_some hfound.complete name hfound.lookup
  obtain ⟨c, hc, rfl, rfl, hsecret⟩ :
      ∃ c, ((Store.requireContext name).run (later.foldl Given.run s'.tables)).1 = .ok c ∧
        c.url = url ∧ c.clientId = clientId ∧ c.clientSecret = .ofLiteral raw :=
    ⟨_, congrArg Prod.fst hrun, rfl, rfl, rfl⟩
  refine ⟨c, hc, fun side flags lookup m => ?_⟩
  -- The saved id is not blank and the saved secret is a literal, so only the address can fail.
  have hresolve (e : Endpoint) := Endpoint.resolve_eq_ok_iff side flags hid hsecret lookup m (e := e)
  constructor
  · rw [← Endpoint.exists_address_iff side flags hurl]
    constructor
    · rintro ⟨e, he⟩
      exact ⟨e.url, ((hresolve e).mp he).1⟩
    · rintro ⟨u, hu⟩
      exact ⟨⟨u, _⟩, (hresolve _).mpr ⟨hu, rfl⟩⟩
  · intro e he
    obtain ⟨haddress, hcredentials⟩ := (hresolve e).mp he
    obtain ⟨hu, -⟩ := (Endpoint.address_eq_ok_iff side flags).mp haddress
    exact ⟨hu, congrArg (·.clientId) hcredentials, congrArg (·.clientSecret) hcredentials⟩

/-- A store in which a context was saved. -/
def withLocal : Except (Failure Fault) Unit × ContextState :=
  ((ContextCommand.set "local" "http://[::1]" "c" (some "s")).perform false 1).run
    { tables := ⟨some [], some []⟩ }

/-- Commands about another context. -/
def aboutOther : List Given :=
  [⟨.set "other" "http://[::1]:8080" "d" (some "t"), false, 2, false⟩,
    ⟨.use "other", false, 3, false⟩, ⟨.delete "other", false, 4, false⟩]

/-- The context `local` is saved, other contexts are changed, and then its three fields are used as
    they were given. -/
theorem local_context_is_used :
    withLocal.1 = .ok () ∧ (∀ scheme : Secret.Scheme, ¬ scheme.marker.toList <+: "s".toList) ∧
      (∀ g ∈ aboutOther, ¬ g.command.Writes "local") ∧
      ∃ c, ((Store.requireContext "local").run
          (aboutOther.foldl Given.run withLocal.2.tables)).1 = .ok c ∧
        Endpoint.resolve .source {} (some c) (fun _ => none) default =
          .ok ⟨"http://[::1]", ⟨"c", "s"⟩⟩ := by
  have hset : withLocal.1 = .ok () := by decide +kernel
  have hraw : ∀ scheme : Secret.Scheme, ¬ scheme.marker.toList <+: "s".toList := by
    intro scheme
    cases scheme <;> decide
  have hlater : ∀ g ∈ aboutOther, ¬ g.command.Writes "local" := by
    simp [aboutOther, ContextCommand.Writes]
  obtain ⟨c, hc, hused⟩ := saved_context_is_used (Prod.ext hset rfl) hraw aboutOther hlater
  obtain ⟨hresolves, hendpoint⟩ := hused .source {} (fun _ => none) default
  -- No flag is given, so there is none to be refused.
  obtain ⟨⟨url, id, secret⟩, he⟩ := hresolves.mpr (fun u hu => by cases hu)
  obtain ⟨rfl, rfl, rfl⟩ := hendpoint _ he
  exact ⟨hset, hraw, hlater, c, hc, he⟩

end CommandLine

end TenantSync
