import TenantSync.Graph.Entity

/-! # Graphs

A `Graph` is an ordered list of entities for each kind.  It serves as the snapshot of a
tenant and as a set of changes to apply to one.  `Graph.entities` is the view by kind on
which the generic passes work. -/

namespace TenantSync

/-- How many entities there are of each kind. -/
structure Counts where
  objectTypes : Nat := 0
  objects : Nat := 0
  edgeTypes : Nat := 0
  edges : Nat := 0
  deriving DecidableEq, Repr, Inhabited

namespace Counts

/-- The count of one kind. -/
def get (c : Counts) : Kind → Nat
  | .objectType => c.objectTypes
  | .object => c.objects
  | .edgeType => c.edgeTypes
  | .edge => c.edges

/-- Replaces the count of one kind. -/
def set (c : Counts) (k : Kind) (n : Nat) : Counts :=
  match k with
  | .objectType => { c with objectTypes := n }
  | .object => { c with objects := n }
  | .edgeType => { c with edgeTypes := n }
  | .edge => { c with edges := n }

/-- The number of entities of all kinds together. -/
def total (c : Counts) : Nat := c.objectTypes + c.objects + c.edgeTypes + c.edges

/-- All four counts in words. -/
def text (c : Counts) : String :=
  ", ".intercalate (Kind.insertOrder.map fun k => s!"{c.get k} {k.plural}")

instance : ToString Counts := ⟨text⟩

@[simp] theorem get_empty (k : Kind) : ({} : Counts).get k = 0 := by cases k <;> rfl

@[simp] theorem get_set_self (c : Counts) (k : Kind) (n : Nat) : (c.set k n).get k = n := by
  cases k <;> rfl

/-- The counts of the other kinds stay. -/
theorem get_set_of_ne (c : Counts) {k j : Kind} (n : Nat) (h : j ≠ k) :
    (c.set k n).get j = c.get j := by
  cases k <;> cases j <;> simp_all [get, set]

/-- Counts that agree for every kind are equal. -/
theorem ext_get {c d : Counts} (h : ∀ k, c.get k = d.get k) : c = d := by
  obtain ⟨_, _, _, _⟩ := c
  obtain ⟨_, _, _, _⟩ := d
  rw [mk.injEq]
  exact ⟨h .objectType, h .object, h .edgeType, h .edge⟩

end Counts

/-- The entities of a tenant, or of a set of changes, by kind. -/
structure Graph where
  objectTypes : List ObjectType := []
  objects : List Object := []
  edgeTypes : List EdgeType := []
  edges : List Edge := []
  deriving DecidableEq, Inhabited

namespace Graph

/-- The entities of one kind. -/
def entities (g : Graph) : Kind → List Entity
  | .objectType => g.objectTypes.map .objectType
  | .object => g.objects.map .object
  | .edgeType => g.edgeTypes.map .edgeType
  | .edge => g.edges.map .edge

/-- How many entities the graph holds of each kind. -/
def counts (g : Graph) : Counts :=
  ⟨g.objectTypes.length, g.objects.length, g.edgeTypes.length, g.edges.length⟩

/-- A graph without entities. -/
def isEmpty (g : Graph) : Bool := g.counts.total == 0

/-- A kind's entities are as many as its count says. -/
@[simp] theorem length_entities (g : Graph) (k : Kind) :
    (g.entities k).length = g.counts.get k := by
  cases k <;> simp [entities, counts, Counts.get]

/-- A graph without entities has none of any kind. -/
theorem counts_eq_of_isEmpty {g : Graph} (h : g.isEmpty = true) : g.counts = {} := by
  rw [isEmpty, beq_iff_eq] at h
  apply Counts.ext_get
  rintro (_ | _ | _ | _) <;> simp only [Counts.get, Counts.total] at h ⊢ <;> omega

end Graph

end TenantSync
