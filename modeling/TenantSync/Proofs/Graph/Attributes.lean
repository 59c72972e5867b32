import Mathlib.Data.List.Sort
import TenantSync.Proofs.Graph.Patch

/-!
# Attributes as a set

The attributes of an edge type are compared in a canonical form.  This file shows that the form
stands for a set, and what that makes of comparing entities:

- `Attribute.compare_eq_eq_iff`, `Attribute.instTransCmpCompare`: the order of attributes is
  linear,
- `Attribute.mem_canonical`, `Attribute.pairwise_canonical`: the canonical form has the same
  members, strictly ascending,
- `Attribute.canonical_eq_canonical_iff`: two lists have one canonical form exactly if they have
  the same members,
- `content_equality_is_lawful`: agreeing in content is an equivalence, for each of the four kinds,
  that does not see identifiers.
-/

namespace TenantSync

namespace Attribute

variable {a b x : Attribute} {as bs : List Attribute}

/-! ## The order of attributes -/

instance instTransCmpCompare : Std.TransCmp compare := by
  unfold compare
  infer_instance

/-- Only an attribute itself is in its place. -/
theorem compare_eq_eq_iff : compare a b = .eq ↔ a = b := by
  constructor
  · intro h
    -- The comparison is by name and then by the three flags.
    simp only [compare, compareLex_eq_eq, compareOn, Std.LawfulEqCmp.compare_eq_iff_eq] at h
    obtain ⟨hname, hdirect, hinherit, hpropagate⟩ := h
    cases a
    cases b
    simp_all
  · rintro rfl
    exact Std.ReflCmp.compare_self

/-- One attribute before another. -/
def Before (a b : Attribute) : Prop := compare a b = .lt

instance : IsTrans Attribute Before := ⟨fun _ _ _ => Std.TransCmp.lt_trans⟩

instance : Std.Asymm Before := ⟨fun _ _ h => Std.OrientedCmp.not_lt_of_lt h⟩

/-! ## The canonical form -/

/-- An insertion adds the attribute and loses none. -/
theorem mem_orderedInsert : x ∈ orderedInsert a bs ↔ x = a ∨ x ∈ bs := by
  induction bs with
  | nil => simp [orderedInsert]
  | cons b bs ih =>
    simp only [orderedInsert]
    split
    case h_1 => simp
    case h_2 h =>
      -- The attribute is there already.
      rw [compare_eq_eq_iff.mp h]
      simp
    case h_3 => simp [ih, or_left_comm]

/-- A list that ascends still does with one attribute more. -/
theorem pairwise_orderedInsert (h : bs.Pairwise Before) :
    (orderedInsert a bs).Pairwise Before := by
  induction bs with
  | nil => exact List.pairwise_singleton _ _
  | cons b bs ih =>
    obtain ⟨hb, hbs⟩ := List.pairwise_cons.mp h
    simp only [orderedInsert]
    split
    -- Before a smaller element the new one goes in front; an equal one is there already.
    case h_1 hlt =>
      refine List.pairwise_cons.mpr ⟨fun x hx => ?_, h⟩
      obtain rfl | hx := List.mem_cons.mp hx
      · exact hlt
      · exact Trans.trans (r := Before) hlt (hb x hx)
    case h_2 => exact h
    -- What follows is either the new attribute or from the rest of the list.
    case h_3 hgt =>
      refine List.pairwise_cons.mpr ⟨fun x hx => ?_, ih hbs⟩
      obtain rfl | hx := mem_orderedInsert.mp hx
      · exact Std.OrientedCmp.gt_iff_lt.mp hgt
      · exact hb x hx

/-- The canonical form has the members of the list. -/
@[simp] theorem mem_canonical : x ∈ canonical as ↔ x ∈ as := by
  induction as with
  | nil => rfl
  | cons a as ih =>
    show x ∈ orderedInsert a (canonical as) ↔ _
    rw [mem_orderedInsert, ih, List.mem_cons]

/-- The canonical form ascends, so it holds each attribute once. -/
theorem pairwise_canonical (as : List Attribute) : (canonical as).Pairwise Before := by
  induction as with
  | nil => exact List.Pairwise.nil
  | cons a as ih => exact pairwise_orderedInsert ih

/-- Lists have one canonical form exactly if they have the same members. -/
theorem canonical_eq_canonical_iff : canonical as = canonical bs ↔ ∀ x, x ∈ as ↔ x ∈ bs := by
  constructor
  · intro h x
    rw [← mem_canonical, h, mem_canonical]
  · intro h
    -- A list that ascends is determined by its members.
    refine (pairwise_canonical as).eq_of_mem_iff (pairwise_canonical bs) fun x => ?_
    rw [mem_canonical, mem_canonical, h]

end Attribute

/-! ## Agreeing in content -/

/-- An entity under another identifier. -/
def Kind.Member.withId {k : Kind} (x : k.Member) (i : Uuid) : k.Member :=
  match k, x with
  | .objectType, x => ({ (x : ObjectType) with id := i } : ObjectType)
  | .object, x => ({ (x : Object) with id := i } : Object)
  | .edgeType, x => ({ (x : EdgeType) with id := i } : EdgeType)
  | .edge, x => ({ (x : Edge) with id := i } : Edge)

namespace Resource

variable {k : Kind}

/-- An entity given an id has that id. -/
@[simp] theorem id_withId (x : k.Member) (i : Uuid) : id (x.withId i) = i := by
  cases k <;> rfl

/-- Sameness of content can be chained. -/
theorem sameContent_trans {x y z : k.Member} (hxy : sameContent x y = true)
    (hyz : sameContent y z = true) : sameContent x z = true := by
  rw [← sameContent_toEntity] at hxy hyz ⊢
  exact Entity.sameContent_trans hxy hyz

/-- Whether two entities agree does not depend on their identifiers. -/
theorem sameContent_withId (x y : k.Member) (i j : Uuid) :
    sameContent (x.withId i) (y.withId j) = sameContent x y := by
  cases k <;> rfl

end Resource

/-- Two objects agree exactly if they have the same type and the same alias. -/
theorem Object.sameContent_iff {a b : Object} :
    Resource.sameContent a b = true ↔ a.typeId = b.typeId ∧ a.alias? = b.alias? := by
  simp only [Resource.sameContent, Bool.and_eq_true, beq_iff_eq]

/-- Two edge types agree exactly if they have the same name and ends and the same attributes,
    however these are listed. -/
theorem EdgeType.sameContent_iff {a b : EdgeType} :
    Resource.sameContent a b = true ↔
      a.typeName = b.typeName ∧ a.sourceTypeId = b.sourceTypeId ∧
        a.targetTypeId = b.targetTypeId ∧ ∀ x, x ∈ a.attributes ↔ x ∈ b.attributes := by
  simp only [Resource.sameContent, Bool.and_eq_true, beq_iff_eq,
    Attribute.canonical_eq_canonical_iff, and_assoc]

/-- Agreeing in content is lawful.  For each of the four kinds it is an equivalence that does not
    see identifiers.  Objects agree exactly if type and alias do, where no alias is none of the
    aliases.  Edge types agree exactly if name, ends and the set of attributes do; so attributes may
    be listed in another order and any number of times. -/
theorem content_equality_is_lawful :
    (∀ k : Kind, Equivalence fun x y : k.Member => Resource.sameContent x y = true) ∧
      (∀ (k : Kind) (x y : k.Member) (i j : Uuid),
        Resource.sameContent (x.withId i) (y.withId j) = Resource.sameContent x y) ∧
      (∀ a b : Object, Resource.sameContent a b = true ↔
        a.typeId = b.typeId ∧ a.alias? = b.alias?) ∧
      (∀ (a b : Object) (name : String),
        Resource.sameContent { a with alias? := none } { b with alias? := some name } = false) ∧
      (∀ a b : EdgeType, Resource.sameContent a b = true ↔
        a.typeName = b.typeName ∧ a.sourceTypeId = b.sourceTypeId ∧
          a.targetTypeId = b.targetTypeId ∧ ∀ x, x ∈ a.attributes ↔ x ∈ b.attributes) ∧
      ∀ (a b : EdgeType) (as bs : List Attribute),
        (∀ x, x ∈ as ↔ x ∈ a.attributes) → (∀ x, x ∈ bs ↔ x ∈ b.attributes) →
          Resource.sameContent { a with attributes := as } { b with attributes := bs } =
            Resource.sameContent a b := by
  refine ⟨fun k => ⟨Resource.sameContent_refl, ?_, Resource.sameContent_trans⟩,
    fun k => Resource.sameContent_withId, fun a b => Object.sameContent_iff, ?_,
    fun a b => EdgeType.sameContent_iff, ?_⟩
  · intro x y h
    rw [Resource.sameContent_comm, h]
  · intro a b name
    rw [Bool.eq_false_iff, Ne, Object.sameContent_iff]
    -- No alias is not some alias.
    rintro ⟨-, hnone⟩
    cases hnone
  · intro a b as bs has hbs
    rw [Bool.eq_iff_iff, EdgeType.sameContent_iff, EdgeType.sameContent_iff]
    simp only [has, hbs]

/-- The attributes of an edge type in another order, one of them twice. -/
theorem repeated_attributes_agree :
    let read : Attribute := ⟨"read", true, false, false⟩
    let write : Attribute := ⟨"write", true, true, false⟩
    let t : EdgeType := ⟨default, "member", default, default, [read, write]⟩
    (∀ x, x ∈ [write, read, write] ↔ x ∈ t.attributes) ∧
      (∀ x, x ∈ t.attributes ↔ x ∈ t.attributes) ∧
      Resource.sameContent { t with attributes := [write, read, write] } t =
        Resource.sameContent t t := by
  intro read write t
  have hlisted : ∀ x, x ∈ [write, read, write] ↔ x ∈ t.attributes := by
    intro x
    simp only [t, List.mem_cons, List.not_mem_nil, or_false]
    tauto
  exact ⟨hlisted, fun _ => Iff.rfl,
    content_equality_is_lawful.2.2.2.2.2 t t _ _ hlisted fun _ => Iff.rfl⟩

end TenantSync
