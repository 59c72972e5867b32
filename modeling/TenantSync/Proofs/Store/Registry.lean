import Mathlib.Data.List.Nodup
import TenantSync.Store.Contexts

/-!
# The store as a map with a current name

A `Registry` is a map from names to what is saved under them, together with the name that is
current.  `Tables.registry` reads one off the tables of a store.  This file says for each
statement what it answers and what it does to the registry; later files use only these equations
and never look into the tables again.  No statement takes a table away (`Complete.execute`) or
saves two contexts under one name (`UniqueNames.execute`).
-/

namespace TenantSync.Store

/-! ## Registries -/

/-- What is saved under a name. -/
structure Entry where
  url : String
  clientId : String
  clientSecret : Secret.Location
  createdAt : Int
  updatedAt : Int
  deriving DecidableEq

/-- The context that is saved under a name. -/
def Entry.named (e : Entry) (name : String) : SavedContext :=
  ⟨name, e.url, e.clientId, e.clientSecret, e.createdAt, e.updatedAt⟩

/-- A context without its name. -/
def SavedContext.entry (c : SavedContext) : Entry :=
  ⟨c.url, c.clientId, c.clientSecret, c.createdAt, c.updatedAt⟩

/-- A saved context is its entry under its name. -/
@[simp] theorem SavedContext.named_entry (c : SavedContext) : c.entry.named c.name = c := rfl

/-- A map from names to what is saved under them, and the name that is current. -/
@[ext] structure Registry where
  lookup? : String → Option Entry
  current? : Option String

namespace Registry

/-- Nothing is saved and nothing is current. -/
def empty : Registry := ⟨fun _ => none, none⟩

/-- Whether something is saved under a name. -/
def Saved (r : Registry) (name : String) : Prop := (r.lookup? name).isSome = true

instance (r : Registry) (name : String) : Decidable (r.Saved name) :=
  inferInstanceAs (Decidable (_ = true))

/-- The current name, if there is one, is that of a saved context. -/
def Sound (r : Registry) : Prop := ∀ name, r.current? = some name → r.Saved name

/-- The map with an entry under a name. -/
def put (r : Registry) (name : String) (e : Entry) : Registry :=
  { r with lookup? := fun n => if n = name then some e else r.lookup? n }

/-- The map without what is saved under a name. -/
def remove (r : Registry) (name : String) : Registry :=
  { r with lookup? := fun n => if n = name then none else r.lookup? n }

/-- The map with another current name, or with none. -/
def pointTo (r : Registry) (name? : Option String) : Registry := { r with current? := name? }

variable (r : Registry) (name n : String) (e : Entry) (name? : Option String)

@[simp] theorem lookup?_put :
    (r.put name e).lookup? n = if n = name then some e else r.lookup? n := rfl

@[simp] theorem current?_put : (r.put name e).current? = r.current? := rfl

@[simp] theorem lookup?_remove :
    (r.remove name).lookup? n = if n = name then none else r.lookup? n := rfl

@[simp] theorem current?_remove : (r.remove name).current? = r.current? := rfl

@[simp] theorem lookup?_pointTo : (r.pointTo name?).lookup? = r.lookup? := rfl

@[simp] theorem current?_pointTo : (r.pointTo name?).current? = name? := rfl

@[simp] theorem saved_put : (r.put name e).Saved n ↔ n = name ∨ r.Saved n := by
  by_cases h : n = name <;> simp [Saved, h]

@[simp] theorem saved_remove : (r.remove name).Saved n ↔ n ≠ name ∧ r.Saved n := by
  by_cases h : n = name <;> simp [Saved, h]

@[simp] theorem saved_pointTo : (r.pointTo name?).Saved n ↔ r.Saved n := Iff.rfl

/-- A name is not saved when nothing is found under it. -/
theorem not_saved_iff {r : Registry} {name : String} :
    ¬ r.Saved name ↔ r.lookup? name = none := by
  simp [Saved]

end Registry

/-! ## Lists of contexts and settings -/

section
variable {cs : List SavedContext} {ss : List (String × String)} {name n : String}

/-- What is found under a name has it. -/
theorem find?_eq_map_named :
    cs.find? (·.name == name) = ((cs.find? (·.name == name)).map (·.entry)).map (·.named name) := by
  cases h : cs.find? (·.name == name) with
  | none => rfl
  | some c =>
    have hname : c.name = name := by simpa using List.find?_some h
    simp [← hname]

/-- New contents of a row leave its name as it is. -/
private theorem name_updated (c old : SavedContext) :
    (if old.name = c.name then { c with createdAt := old.createdAt } else old).name =
      old.name := by
  split
  case isTrue h => exact h.symm
  case isFalse => rfl

/-- What is found under a name other than that of the saved context. -/
private theorem find?_upsert_of_ne (c : SavedContext) (h : n ≠ c.name) :
    (upsert c cs).find? (·.name == n) = cs.find? (·.name == n) := by
  rw [upsert]
  split
  · -- Names stay where they are, and what stands under other names stays as it is.
    simp only [List.find?_map, Function.comp_def, name_updated]
    cases hfind : cs.find? (·.name == n) with
    | none => rfl
    | some old =>
      have hold : old.name = n := by simpa using List.find?_some hfind
      simp [hold, h]
  · simp [List.find?_append, Ne.symm h]

/-- What is found under the name of the saved context. -/
private theorem find?_upsert_self (c : SavedContext) :
    (upsert c cs).find? (·.name == c.name) =
      some { c with createdAt :=
        ((cs.find? (·.name == c.name)).map (·.createdAt)).getD c.createdAt } := by
  rw [upsert, ← List.isSome_find?]
  cases hfind : cs.find? (·.name == c.name) with
  | none => simp [List.find?_append, hfind]
  | some old =>
    have hold : old.name = c.name := by simpa using List.find?_some hfind
    simp only [Option.isSome_some, if_true, List.find?_map, Function.comp_def, name_updated, hfind]
    simp [hold]

/-- A setting has the value that was written last. -/
private theorem find?_assign_self (key value : String) :
    (assign key value ss).find? (·.1 == key) = some (key, value) := by
  have hkeys (s : String × String) : (if s.1 = key then (key, value) else s).1 = s.1 := by
    split
    case isTrue h => exact h.symm
    case isFalse => rfl
  rw [assign, ← List.isSome_find?]
  -- A new key is appended; one that is there is overwritten in its place.
  cases hfind : ss.find? (·.1 == key) with
  | none => simp [List.find?_append, hfind]
  | some s =>
    have hs : s.1 = key := by simpa using List.find?_some hfind
    simp only [Option.isSome_some, if_true, List.find?_map, Function.comp_def, hkeys, hfind]
    simp [hs]

/-- Saving keeps names apart. -/
private theorem nodup_upsert (c : SavedContext) (h : (cs.map (·.name)).Nodup) :
    ((upsert c cs).map (·.name)).Nodup := by
  rw [upsert]
  -- An update keeps the names; an insertion adds one that was not there.
  split
  case isTrue =>
    simp only [List.map_map, Function.comp_def, name_updated]
    exact h
  case isFalse hany =>
    rw [List.map_append, List.map_singleton]
    refine h.append (List.nodup_singleton _) ?_
    simpa using hany

end

/-! ## Tables -/

namespace Tables

/-- What a store says: the first row under a name or a key counts. -/
def registry (t : Tables) : Registry where
  lookup? name := ((t.contexts?.getD []).find? (·.name == name)).map (·.entry)
  current? := ((t.settings?.getD []).find? (·.1 == currentKey)).map (·.2)

/-- Both tables are there. -/
def Complete (t : Tables) : Prop := t.contexts?.isSome = true ∧ t.settings?.isSome = true

/-- No two saved contexts have one name. -/
def UniqueNames (t : Tables) : Prop := ((t.contexts?.getD []).map (·.name)).Nodup

variable {t : Tables}

/-- Complete tables are two lists of rows. -/
theorem Complete.eq_mk (ht : t.Complete) : ∃ cs ss, t = ⟨some cs, some ss⟩ := by
  obtain ⟨contexts?, settings?⟩ := t
  obtain ⟨cs, rfl⟩ := Option.isSome_iff_exists.mp ht.1
  obtain ⟨ss, rfl⟩ := Option.isSome_iff_exists.mp ht.2
  exact ⟨cs, ss, rfl⟩

/-- No statement takes a table away. -/
theorem Complete.execute (ht : t.Complete) (s : Statement) : (execute s t).2.Complete := by
  obtain ⟨cs, ss, rfl⟩ := ht.eq_mk
  cases s with
  | createTable table => cases table <;> exact ⟨rfl, rfl⟩
  | _ => exact ⟨rfl, rfl⟩

/-- No statement saves two contexts under one name. -/
theorem UniqueNames.execute (ht : t.Complete) (hn : t.UniqueNames) (s : Statement) :
    (execute s t).2.UniqueNames := by
  obtain ⟨cs, ss, rfl⟩ := ht.eq_mk
  cases s with
  | createTable table => cases table <;> exact hn
  | putContext name url clientId clientSecret now => exact nodup_upsert _ hn
  | removeContext name => exact hn.sublist (List.filter_sublist.map _)
  | _ => exact hn

end Tables

/-! ## Statements

What each statement answers on tables that are there, and what it does to the registry. -/

section
variable {t : Tables} (ht : t.Complete) (name url clientId value : String)
  (clientSecret : Secret.Location) (now : Int)
include ht

/-- The listing statement answers with the rows in order. -/
theorem execute_listContexts :
    execute .listContexts t = (.ok (inOrder (t.contexts?.getD [])), t) := by
  obtain ⟨cs, ss, rfl⟩ := ht.eq_mk
  rfl

/-- Looking a context up answers with the registry's entry. -/
theorem execute_getContext :
    execute (.getContext name) t =
      (.ok ((t.registry.lookup? name).map (·.named name)), t) := by
  obtain ⟨cs, ss, rfl⟩ := ht.eq_mk
  exact congrArg (fun found => (Except.ok found, _)) find?_eq_map_named

/-- Reading the setting answers with the registry's pointer. -/
theorem execute_getSetting :
    execute (.getSetting currentKey) t = (.ok t.registry.current?, t) := by
  obtain ⟨cs, ss, rfl⟩ := ht.eq_mk
  rfl

/-- Writing a context succeeds. -/
theorem answer_putContext :
    (execute (.putContext name url clientId clientSecret now) t).1 = .ok () := by
  obtain ⟨cs, ss, rfl⟩ := ht.eq_mk
  rfl

/-- Writing a context keeps the time it was first created at. -/
theorem registry_putContext :
    (execute (.putContext name url clientId clientSecret now) t).2.registry =
      t.registry.put name ⟨url, clientId, clientSecret,
        ((t.registry.lookup? name).map (·.createdAt)).getD now, now⟩ := by
  obtain ⟨cs, ss, rfl⟩ := ht.eq_mk
  ext1
  · funext n
    rw [Registry.lookup?_put]
    -- Only what is found under the written name changes.
    by_cases hn : n = name
    · subst hn
      have hfind := @find?_upsert_self cs ⟨n, url, clientId, clientSecret, now, now⟩
      simp [execute, onContexts, Tables.registry, hfind, SavedContext.entry, Function.comp_def]
    · have hfind := @find?_upsert_of_ne cs n ⟨name, url, clientId, clientSecret, now, now⟩ hn
      simp [execute, onContexts, Tables.registry, hfind, hn]
  · rfl

/-- Removing a context answers whether it was saved. -/
theorem answer_removeContext :
    (execute (.removeContext name) t).1 = .ok (decide (t.registry.Saved name)) := by
  obtain ⟨cs, ss, rfl⟩ := ht.eq_mk
  have hany : cs.any (·.name == name) =
      decide ((Tables.mk (some cs) (some ss)).registry.Saved name) := by
    rw [← List.isSome_find?, Bool.eq_iff_iff, decide_eq_true_iff]
    simp [Registry.Saved, Tables.registry]
  exact congrArg Except.ok hany

/-- Removing a context removes the registry's entry. -/
theorem registry_removeContext :
    (execute (.removeContext name) t).2.registry = t.registry.remove name := by
  obtain ⟨cs, ss, rfl⟩ := ht.eq_mk
  ext1
  · funext n
    rw [Registry.lookup?_remove]
    by_cases hn : n = name
    · -- Nothing is left that has the name.
      simp [execute, onContexts, Tables.registry, hn]
    · have hsame (c : SavedContext) :
          (decide (c.name ≠ name) = true ∧ (c.name == n) = true) ↔ (c.name == n) = true := by
        rw [decide_eq_true_iff, beq_iff_eq]
        exact ⟨And.right, fun h => ⟨h ▸ hn, h⟩⟩
      simp only [execute, onContexts, Tables.registry, Option.getD_some, List.find?_filter, hsame,
        if_neg hn, Bool.decide_eq_true]
  · rfl

/-- Removing a name that is not saved changes nothing. -/
theorem removeContext_of_not_saved (h : ¬ t.registry.Saved name) :
    (execute (.removeContext name) t).2 = t := by
  obtain ⟨cs, ss, rfl⟩ := ht.eq_mk
  -- No row has the name, so the filter keeps them all.
  have hkept : cs.filter (·.name ≠ name) = cs := by
    rw [List.filter_eq_self]
    intro c hc
    rw [decide_eq_true_iff]
    intro hname
    refine h ?_
    simp only [Registry.Saved, Tables.registry, Option.isSome_map, Option.getD_some,
      List.isSome_find?, List.any_eq_true, beq_iff_eq]
    exact ⟨c, hc, hname⟩
  exact congrArg (fun cs => (⟨some cs, some ss⟩ : Tables)) hkept

/-- Writing the setting succeeds. -/
theorem answer_putSetting : (execute (.putSetting currentKey value) t).1 = .ok () := by
  obtain ⟨cs, ss, rfl⟩ := ht.eq_mk
  rfl

/-- Writing the setting moves the registry's pointer. -/
theorem registry_putSetting :
    (execute (.putSetting currentKey value) t).2.registry = t.registry.pointTo (some value) := by
  obtain ⟨cs, ss, rfl⟩ := ht.eq_mk
  ext1
  · rfl
  · simp [execute, onSettings, Tables.registry, find?_assign_self]

/-- Removing the setting succeeds. -/
theorem answer_removeSetting : (execute (.removeSetting currentKey) t).1 = .ok () := by
  obtain ⟨cs, ss, rfl⟩ := ht.eq_mk
  rfl

/-- Removing the setting clears the registry's pointer. -/
theorem registry_removeSetting :
    (execute (.removeSetting currentKey) t).2.registry = t.registry.pointTo none := by
  obtain ⟨cs, ss, rfl⟩ := ht.eq_mk
  ext1
  · rfl
  · simp [execute, onSettings, Tables.registry]

end

end TenantSync.Store
