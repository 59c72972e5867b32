import TenantSync.Proofs.Store.Change
import TenantSync.Proofs.Text.ByteOrder

/-!
# A store behaves as a map with a current name

A store that starts new and is asked for one operation after another behaves as a `Registry` that
starts empty and follows the rules.  Every read answers from the registry, the list of contexts
holds each saved context once in the order of the bytes of the names, the current name is that of
a saved context, and an operation that fails leaves the store as it was
(`store_refines_registry`).
-/

namespace TenantSync.Store

/-! ## Operations -/

/-- An operation on the saved contexts. -/
inductive Action where
  | change (c : Change)
  | list
  | get (name : String)
  | require (name : String)
  | current

namespace Action

/-- What an operation returns. -/
abbrev Answer : Action → Type
  | change _ => Unit
  | list => List SavedContext
  | get _ => Option SavedContext
  | require _ => SavedContext
  | current => Option String

/-- The program that carries an operation out. -/
def program : (a : Action) → Program a.Answer
  | change c => c.program
  | list => listContexts
  | get name => getContext name
  | require name => requireContext name
  | current => Store.current

/-- How an operation ends when the store says what a registry does. -/
def Answers (r : Registry) : (a : Action) → Outcome a.Answer → Prop
  | change c, out => out = (c.on r).map fun _ => ()
  | list, out => ∃ cs, out = .ok cs ∧
      cs.Pairwise (fun a b => Utf8.Before (Utf8.bytes a.name) (Utf8.bytes b.name)) ∧
      ∀ c : SavedContext, c ∈ cs ↔ r.lookup? c.name = some c.entry
  | get name, out => out = .ok ((r.lookup? name).map (·.named name))
  | require name, out =>
      (∀ e, r.lookup? name = some e → out = .ok (e.named name)) ∧
        (r.lookup? name = none → out = .error (Failure.of (.missingContext name)))
  | current, out => out = .ok r.current?

/-- The registry after an operation.  Reading changes nothing. -/
def next (r : Registry) : Action → Registry
  | change c => c.next r
  | _ => r

end Action

/-! ## The list of contexts -/

/-- The list holds the contexts of the table, each as often as the table does. -/
theorem inOrder_perm (cs : List SavedContext) : (inOrder cs).Perm cs := List.mergeSort_perm _ _

/-- With different names, the list is strictly ascending in the bytes of the names. -/
theorem inOrder_pairwise {cs : List SavedContext} (hn : (cs.map (·.name)).Nodup) :
    (inOrder cs).Pairwise fun a b => Utf8.Before (Utf8.bytes a.name) (Utf8.bytes b.name) := by
  -- Sorting by names puts none before a smaller one; as they differ, each is before the next.
  have hsorted : (inOrder cs).Pairwise fun a b => (!decide (b.name < a.name)) = true := by
    refine List.pairwise_mergeSort (fun a b c hab hbc => ?_) (fun a b => ?_) cs
    · simp only [Bool.not_eq_true', decide_eq_false_iff_not, String.not_lt] at hab hbc ⊢
      exact String.le_trans hab hbc
    · simp only [Bool.or_eq_true, Bool.not_eq_true', decide_eq_false_iff_not, String.not_lt]
      exact String.le_total _ _
  have hnames : (inOrder cs).Pairwise fun a b => a.name ≠ b.name :=
    List.pairwise_map.mp (((inOrder_perm cs).map SavedContext.name).nodup_iff.mpr hn)
  refine hsorted.imp₂ (fun a b hle hne => Utf8.before_bytes_of_lt ?_) hnames
  simp only [Bool.not_eq_true', decide_eq_false_iff_not, String.not_lt] at hle
  rw [← String.not_le]
  exact fun hge => hne (String.le_antisymm hle hge)

variable {t : Tables}

/-- With different names, a context is in the table exactly when the registry holds it under its
    name. -/
theorem Tables.UniqueNames.mem_iff (hn : t.UniqueNames) (c : SavedContext) :
    c ∈ t.contexts?.getD [] ↔ t.registry.lookup? c.name = some c.entry := by
  rw [Tables.registry, Option.map_eq_some_iff]
  constructor
  · intro hc
    have hsome : ((t.contexts?.getD []).find? (·.name == c.name)).isSome = true := by
      rw [List.isSome_find?, List.any_eq_true]
      exact ⟨c, hc, beq_self_eq_true _⟩
    obtain ⟨c', hfind⟩ := Option.isSome_iff_exists.mp hsome
    have hname : c'.name = c.name := by simpa using List.find?_some hfind
    -- The first row of that name is the only one.
    have heq : c' = c := List.inj_on_of_nodup_map hn (List.mem_of_find?_eq_some hfind) hc hname
    exact ⟨c', hfind, by rw [heq]⟩
  · rintro ⟨c', hfind, hentry⟩
    have hname : c'.name = c.name := by simpa using List.find?_some hfind
    have heq : c' = c := by rw [← c'.named_entry, ← c.named_entry, hentry, hname]
    exact heq ▸ List.mem_of_find?_eq_some hfind

/-! ## Operations follow the rules -/

/-- On a store with its tables and different names, an operation answers from the registry, makes
    of the registry what its rule says, and leaves the tables as they were when it fails. -/
theorem Action.run_program (ht : t.Complete) (hn : t.UniqueNames) (a : Action) :
    a.Answers t.registry (a.program.run t).1 ∧
      (a.program.run t).2.registry = a.next t.registry ∧
      ∀ f, (a.program.run t).1 = .error f → (a.program.run t).2 = t := by
  -- The changes do as the registry does; the others only look something up.
  cases a with
  | change c =>
    have h := ht.follows c
    exact ⟨h.outcome, h.registry, h.unchanged⟩
  | list =>
    have hrun : Action.list.program.run t = _ := run_listContexts ht
    rw [hrun]
    refine ⟨⟨_, rfl, inOrder_pairwise hn, fun c => ?_⟩, rfl, fun _ _ => rfl⟩
    rw [(inOrder_perm _).mem_iff]
    exact hn.mem_iff c
  | get name =>
    have hrun : (Action.get name).program.run t = _ := run_getContext ht name
    rw [hrun]
    exact ⟨rfl, rfl, fun _ _ => rfl⟩
  | require name =>
    cases he : t.registry.lookup? name with
    | none =>
      have hrun : (Action.require name).program.run t = _ := run_requireContext_of_none ht name he
      rw [hrun]
      exact ⟨⟨by simp [he], fun _ => rfl⟩, rfl, fun _ _ => rfl⟩
    | some e =>
      have hrun : (Action.require name).program.run t = _ := run_requireContext_of_some ht name he
      rw [hrun]
      exact ⟨⟨by simp [he], by simp [he]⟩, rfl, fun _ _ => rfl⟩
  | current =>
    have hrun : Action.current.program.run t = _ := run_current ht
    rw [hrun]
    exact ⟨rfl, rfl, fun _ _ => rfl⟩

/-- What holds of every store that was used since it was new. -/
structure Tables.Used (t : Tables) : Prop where
  complete : t.Complete
  uniqueNames : t.UniqueNames
  sound : t.registry.Sound

/-- An operation keeps all of it. -/
theorem Tables.Used.run (h : t.Used) (a : Action) : (a.program.run t).2.Used := by
  refine ⟨h.complete.run a.program, ?_, ?_⟩
  -- Whatever statements a program asks, each keeps the names unique.
  · refine (Program.run_keeps (P := fun t => t.Complete ∧ t.UniqueNames) ?_ a.program
      ⟨h.complete, h.uniqueNames⟩).2
    exact fun t s ht => ⟨ht.1.execute s, ht.2.execute ht.1 s⟩
  · rw [(Action.run_program h.complete h.uniqueNames a).2.1]
    cases a with
    | change c => exact h.sound.next c
    | _ => exact h.sound

/-- A store after a number of operations says what the rules make of the registry. -/
theorem Tables.Used.runAll (h : t.Used) (done : List Action) :
    (done.foldl (fun t a => (a.program.run t).2) t).Used ∧
      (done.foldl (fun t a => (a.program.run t).2) t).registry =
        done.foldl (fun r a => a.next r) t.registry := by
  induction done generalizing t with
  | nil => exact ⟨h, rfl⟩
  | cons a done ih =>
    rw [List.foldl_cons, List.foldl_cons,
      ← (Action.run_program h.complete h.uniqueNames a).2.1]
    exact ih (h.run a)

/-- A new store with its schema. -/
theorem fresh_used : (applySchema.run .empty).2.Used := by
  refine ⟨⟨rfl, rfl⟩, List.nodup_nil, ?_⟩
  intro name hname
  cases hname

/-- After any operations on a new store, the store says what the rules make of the empty registry,
    and the current name, if there is one, is that of a saved context.  The next operation answers
    from the registry and does to it what its rule says; when it fails, it leaves the tables as
    they were. -/
theorem store_refines_registry (done : List Action) (a : Action) :
    let t := done.foldl (fun t a => (a.program.run t).2) (applySchema.run .empty).2
    let out := a.program.run t
    t.registry = done.foldl (fun r a => a.next r) .empty ∧
      t.registry.Sound ∧
      a.Answers t.registry out.1 ∧
      out.2.registry = a.next t.registry ∧
      ∀ f, out.1 = .error f → out.2 = t := by
  intro t out
  obtain ⟨hused, hregistry⟩ := fresh_used.runAll done
  exact ⟨hregistry, hused.sound, Action.run_program hused.complete hused.uniqueNames a⟩

end TenantSync.Store
