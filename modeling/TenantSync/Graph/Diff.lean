import TenantSync.Graph.Basic

/-! # Differences between graphs

`Graph.diff a b` keeps the entities of `a` that `b` lacks by identifier or holds with
other content, in the order of `a`.  An entity that changed therefore appears in both
directions: its old form is to be deleted and its new form to be created under the same
identifier. -/

namespace TenantSync

section
variable {α : Type} [Resource α]

/-- The last entity of a list with the given identifier. -/
def lastWithId? (id : Uuid) : List α → Option α
  | [] => none
  | x :: xs =>
    match lastWithId? id xs with
    | some y => some y
    | none => if Resource.id x = id then some x else none

/-- Whether a list lacks an entity or holds it with other content. -/
def differsIn (ys : List α) (x : α) : Bool :=
  match lastWithId? (Resource.id x) ys with
  | some y => !Resource.sameContent x y
  | none => true

/-- The entities of one kind that the second list lacks or holds with other content. -/
def diffKind (xs ys : List α) : List α := xs.filter (differsIn ys)

/-- Nothing is found exactly when nothing has the identifier. -/
theorem lastWithId?_eq_none_iff {id : Uuid} {xs : List α} :
    lastWithId? id xs = none ↔ ∀ x ∈ xs, Resource.id x ≠ id := by
  induction xs with
  | nil => simp [lastWithId?]
  | cons x xs ih =>
    cases h : lastWithId? id xs <;> simp_all [lastWithId?]

/-- What is found is in the list and has the identifier. -/
theorem mem_of_lastWithId? {id : Uuid} {xs : List α} {y : α} (h : lastWithId? id xs = some y) :
    y ∈ xs ∧ Resource.id y = id := by
  induction xs with
  | nil => simp [lastWithId?] at h
  | cons x xs ih =>
    -- A later entity of that identifier comes before this one.
    cases hr : lastWithId? id xs with
    | some z =>
      simp only [lastWithId?, hr, Option.some.injEq] at h
      exact ⟨List.mem_cons_of_mem _ (ih (h ▸ hr)).1, (ih (h ▸ hr)).2⟩
    | none =>
      simp only [lastWithId?, hr, Option.ite_none_right_eq_some, Option.some.injEq] at h
      exact ⟨h.2 ▸ List.mem_cons_self, h.2 ▸ h.1⟩

/-- What a list has beyond another is what differs from the other's entity of its identifier. -/
theorem mem_diffKind_iff {xs ys : List α} {x : α} :
    x ∈ diffKind xs ys ↔ x ∈ xs ∧ differsIn ys x = true := by
  simp [diffKind]

/-- The order of the first list is kept. -/
theorem diffKind_sublist (xs ys : List α) : (diffKind xs ys).Sublist xs :=
  List.filter_sublist

end

namespace Graph

/-- The entities of `a` that `b` lacks or holds with other content. -/
def diff (a b : Graph) : Graph where
  objectTypes := diffKind a.objectTypes b.objectTypes
  objects := diffKind a.objects b.objects
  edgeTypes := diffKind a.edgeTypes b.edgeTypes
  edges := diffKind a.edges b.edges

/-- What the destination is missing. -/
def insertions (source destination : Graph) : Graph := source.diff destination

/-- What the destination has and the source does not. -/
def deletions (source destination : Graph) : Graph := destination.diff source

end Graph

end TenantSync
