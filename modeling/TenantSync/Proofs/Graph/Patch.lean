import TenantSync.Proofs.Graph.Drift

/-!
# The difference as a patch

A patch of a list of entities takes out what stands under some identifiers and puts others behind.
This file shows what the two differences of a source list and a destination list make of the
destination:

- `replicates_patch_diffKind`: the patched list replicates the source,
- `mem_ids_diffKind_and_iff`: an identifier is in both differences exactly when it changed,
- `Replicates.removed`, `Replicates.added`: every patch that replicates the source takes out and
  puts in at least as much,
- `diffKind_least_patch`: all of it, for each of the four kinds.
-/

namespace TenantSync

/-- The entities of a kind. -/
def Kind.Member : Kind → Type
  | .objectType => ObjectType
  | .object => Object
  | .edgeType => EdgeType
  | .edge => Edge

instance (k : Kind) : Resource k.Member :=
  match k with
  | .objectType => inferInstanceAs (Resource ObjectType)
  | .object => inferInstanceAs (Resource Object)
  | .edgeType => inferInstanceAs (Resource EdgeType)
  | .edge => inferInstanceAs (Resource Edge)

/-- An entity of a kind among the entities of all kinds. -/
def Kind.Member.toEntity : {k : Kind} → k.Member → Entity
  | .objectType, x => .objectType x
  | .object, x => .object x
  | .edgeType, x => .edgeType x
  | .edge, x => .edge x

namespace Resource

variable {k : Kind}

/-- Entities of one kind agree as entities exactly when they agree as members of the kind. -/
theorem sameContent_toEntity (x y : k.Member) :
    x.toEntity.sameContent y.toEntity = sameContent x y := by
  cases k <;> rfl

/-- An entity agrees with itself. -/
theorem sameContent_refl (x : k.Member) : sameContent x x = true := by
  rw [← sameContent_toEntity, Entity.sameContent_refl]

/-- Agreement has no direction. -/
theorem sameContent_comm (x y : k.Member) : sameContent x y = sameContent y x := by
  rw [← sameContent_toEntity, Entity.sameContent_comm, sameContent_toEntity]

end Resource

/-! ## Patches -/

section
variable {α : Type} [Resource α]

/-- The identifiers in a list of entities. -/
def ids (xs : List α) : List Uuid := xs.map Resource.id

/-- The list without what stands under the identifiers of a set, and with other entities
    behind. -/
def patch (xs : List α) (removed : Uuid → Prop) [DecidablePred removed] (added : List α) :
    List α :=
  xs.filter (fun x => ¬ removed (Resource.id x)) ++ added

/-- A list with unique identifiers that holds exactly the identifiers of another, and each with
    the same content. -/
structure Replicates (xs s : List α) : Prop where
  unique : (ids xs).Nodup
  same_ids : ∀ i, i ∈ ids xs ↔ i ∈ ids s
  sameContent : ∀ x ∈ xs, ∀ y ∈ s, Resource.id x = Resource.id y →
    Resource.sameContent x y = true

/-- The identifiers of a list are those of its entities. -/
theorem mem_ids_iff {xs : List α} {i : Uuid} : i ∈ ids xs ↔ ∃ x ∈ xs, Resource.id x = i :=
  List.mem_map

/-- An entity of a list has its identifier among those of the list. -/
theorem mem_ids_of_mem {xs : List α} {x : α} (h : x ∈ xs) : Resource.id x ∈ ids xs :=
  mem_ids_iff.mpr ⟨x, h, rfl⟩

/-- A patched list has what was not removed and what was added. -/
theorem mem_patch_iff {xs added : List α} {removed : Uuid → Prop} [DecidablePred removed]
    {x : α} : x ∈ patch xs removed added ↔ (x ∈ xs ∧ ¬ removed (Resource.id x)) ∨ x ∈ added := by
  simp [patch]

/-- With unique identifiers an entity is determined by its identifier. -/
theorem eq_of_id_eq {xs : List α} (h : (ids xs).Nodup) {x y : α} (hx : x ∈ xs) (hy : y ∈ xs)
    (hid : Resource.id x = Resource.id y) : x = y :=
  List.inj_on_of_nodup_map h hx hy hid

/-- What does not differ has a counterpart: an entity with its identifier and its content. -/
theorem differsIn_eq_false_iff {ys : List α} (h : (ids ys).Nodup) {x : α} :
    differsIn ys x = false ↔
      ∃ y ∈ ys, Resource.id y = Resource.id x ∧ Resource.sameContent x y = true := by
  rw [differsIn_eq_not_any h, Bool.not_eq_false', List.any_eq_true]
  simp only [Bool.and_eq_true, beq_iff_eq]

/-- An entity of a difference has no counterpart in the other list. -/
theorem sameContent_eq_false_of_mem_diffKind {xs ys : List α} (h : (ids ys).Nodup) {x y : α}
    (hx : x ∈ diffKind xs ys) (hy : y ∈ ys) (hid : Resource.id y = Resource.id x) :
    Resource.sameContent x y = false := by
  have hdiff := (mem_diffKind_iff.mp hx).2
  by_contra hsame
  rw [Bool.not_eq_false] at hsame
  rw [(differsIn_eq_false_iff h).mpr ⟨y, hy, hid, hsame⟩] at hdiff
  cases hdiff

/-- What is not in a difference has a counterpart in the other list. -/
theorem exists_counterpart {xs ys : List α} (h : (ids ys).Nodup) {x : α} (hx : x ∈ xs)
    (hdiff : x ∉ diffKind xs ys) :
    ∃ y ∈ ys, Resource.id y = Resource.id x ∧ Resource.sameContent x y = true := by
  rw [mem_diffKind_iff, not_and, Bool.not_eq_true] at hdiff
  exact (differsIn_eq_false_iff h).mp (hdiff hx)

end

section
variable {k : Kind} {s d : List k.Member}

/-- The two differences patch the destination so that it replicates the source. -/
theorem replicates_patch_diffKind (hs : (ids s).Nodup) (hd : (ids d).Nodup) :
    Replicates (patch d (· ∈ ids (diffKind d s)) (diffKind s d)) s := by
  -- What stays has a counterpart in the source, by which it is known there.
  have hstays : ∀ x ∈ d, Resource.id x ∉ ids (diffKind d s) →
      ∃ y ∈ s, Resource.id y = Resource.id x ∧ Resource.sameContent x y = true :=
    fun x hx hkept => exists_counterpart hs hx fun hdel => hkept (mem_ids_of_mem hdel)
  constructor
  case unique =>
    have hkept : (ids (d.filter fun x => Resource.id x ∉ ids (diffKind d s))).Nodup :=
      hd.sublist (List.filter_sublist.map _)
    have hadded : (ids (diffKind s d)).Nodup := hs.sublist ((diffKind_sublist s d).map _)
    rw [ids, patch, List.map_append]
    refine hkept.append hadded ?_
    -- What stays and what is added cannot share an identifier: the former has a counterpart in
    -- the source, which would be the latter.
    intro i hi hi'
    obtain ⟨x, hx, rfl⟩ := mem_ids_iff.mp hi
    obtain ⟨y, hy, hid⟩ := mem_ids_iff.mp hi'
    rw [List.mem_filter, decide_eq_true_eq] at hx
    obtain ⟨z, hz, hzid, hsame⟩ := hstays x hx.1 hx.2
    have hyz : y = z := eq_of_id_eq hs (mem_diffKind_iff.mp hy).1 hz (hid.trans hzid.symm)
    have hfalse := sameContent_eq_false_of_mem_diffKind hd hy hx.1 hid.symm
    rw [hyz, Resource.sameContent_comm, hsame] at hfalse
    cases hfalse
  case same_ids =>
    intro i
    simp only [mem_ids_iff (i := i), mem_patch_iff]
    constructor
    · rintro ⟨x, ⟨hx, hkept⟩ | hx, rfl⟩
      · obtain ⟨y, hy, hid, -⟩ := hstays x hx hkept
        exact ⟨y, hy, hid⟩
      · exact ⟨x, (mem_diffKind_iff.mp hx).1, rfl⟩
    · rintro ⟨x, hx, rfl⟩
      by_cases hadded : x ∈ diffKind s d
      · exact ⟨x, .inr hadded, rfl⟩
      · -- The counterpart of `x` in the destination stays, because it is no deletion.
        obtain ⟨y, hy, hid, hsame⟩ := exists_counterpart hd hx hadded
        refine ⟨y, .inl ⟨hy, ?_⟩, hid⟩
        intro hdel
        obtain ⟨z, hz, hzid⟩ := mem_ids_iff.mp hdel
        have hzy : z = y := eq_of_id_eq hd (mem_diffKind_iff.mp hz).1 hy hzid
        have hfalse := sameContent_eq_false_of_mem_diffKind hs hz hx (by rw [hzy, hid])
        rw [hzy, Resource.sameContent_comm, hsame] at hfalse
        cases hfalse
  case sameContent =>
    intro x hx y hy hid
    rcases mem_patch_iff.mp hx with ⟨hx, hkept⟩ | hx
    · obtain ⟨z, hz, hzid, hsame⟩ := hstays x hx hkept
      rw [eq_of_id_eq hs hy hz (hid.symm.trans hzid.symm)]
      exact hsame
    · rw [eq_of_id_eq hs hy (mem_diffKind_iff.mp hx).1 hid.symm]
      exact Resource.sameContent_refl x

/-- An identifier is in both differences exactly when both lists hold it with different
    content. -/
theorem mem_ids_diffKind_and_iff (hs : (ids s).Nodup) (hd : (ids d).Nodup) (i : Uuid) :
    (i ∈ ids (diffKind d s) ∧ i ∈ ids (diffKind s d)) ↔
      ∃ x ∈ s, ∃ y ∈ d, Resource.id x = i ∧ Resource.id y = i ∧
        Resource.sameContent x y = false := by
  simp only [mem_ids_iff]
  constructor
  · rintro ⟨⟨y, hy, rfl⟩, x, hx, hid⟩
    have hyd := (mem_diffKind_iff.mp hy).1
    exact ⟨x, (mem_diffKind_iff.mp hx).1, y, hyd, hid, rfl,
      sameContent_eq_false_of_mem_diffKind hd hx hyd hid.symm⟩
  · rintro ⟨x, hx, y, hy, rfl, hid, hdiff⟩
    refine ⟨⟨y, ?_, hid⟩, x, ?_, rfl⟩
    · -- A counterpart of `y` in the source could only be `x`.
      by_contra hkept
      obtain ⟨z, hz, hzid, hsame⟩ := exists_counterpart hs hy hkept
      rw [eq_of_id_eq hs hz hx (hzid.trans hid), Resource.sameContent_comm, hdiff] at hsame
      cases hsame
    · by_contra hkept
      obtain ⟨z, hz, hzid, hsame⟩ := exists_counterpart hd hx hkept
      rw [eq_of_id_eq hd hz hy (hzid.trans hid.symm), hdiff] at hsame
      cases hsame

variable {out : Uuid → Prop} [DecidablePred out] {new : List k.Member}

/-- Whatever patch replicates the source, it takes out every deletion. -/
theorem Replicates.removed (hs : (ids s).Nodup) (h : Replicates (patch d out new) s)
    {i : Uuid} (hi : i ∈ ids (diffKind d s)) : out i := by
  obtain ⟨x, hx, rfl⟩ := mem_ids_iff.mp hi
  by_contra hkept
  -- If it stayed, the source would hold its identifier with its content.
  have hpatch : x ∈ patch d out new :=
    mem_patch_iff.mpr (.inl ⟨(mem_diffKind_iff.mp hx).1, hkept⟩)
  obtain ⟨y, hy, hid⟩ := mem_ids_iff.mp ((h.same_ids _).mp (mem_ids_of_mem hpatch))
  have hfalse := sameContent_eq_false_of_mem_diffKind hs hx hy hid
  rw [h.sameContent x hpatch y hy hid.symm] at hfalse
  cases hfalse

/-- Whatever patch replicates the source, it puts a counterpart of every insertion in. -/
theorem Replicates.added (hd : (ids d).Nodup) (h : Replicates (patch d out new) s)
    {x : k.Member} (hx : x ∈ diffKind s d) :
    ∃ y ∈ new, Resource.id y = Resource.id x ∧ Resource.sameContent y x = true := by
  have hxs := (mem_diffKind_iff.mp hx).1
  obtain ⟨y, hy, hid⟩ := mem_ids_iff.mp ((h.same_ids _).mpr (mem_ids_of_mem hxs))
  have hsame := h.sameContent y hy x hxs hid
  rcases mem_patch_iff.mp hy with ⟨hyd, -⟩ | hadded
  · -- The destination did not hold it with that content, so it was not there before.
    have hfalse := sameContent_eq_false_of_mem_diffKind hd hx hyd hid
    rw [Resource.sameContent_comm, hsame] at hfalse
    cases hfalse
  · exact ⟨y, hadded, hid, hsame⟩

/-- For each kind and any two lists with unique identifiers, taking the deletions out of the
    destination and putting the insertions behind replicates the source.  The deletions are part
    of the destination and the insertions part of the source, in order, and an identifier is in
    both exactly when both lists hold it with different content.  Every other patch that
    replicates the source takes out all deletions and puts a counterpart of each insertion in. -/
theorem diffKind_least_patch (k : Kind) {s d : List k.Member} (hs : (ids s).Nodup)
    (hd : (ids d).Nodup) :
    let deletions := diffKind d s
    let insertions := diffKind s d
    Replicates (patch d (· ∈ ids deletions) insertions) s ∧
      deletions.Sublist d ∧ insertions.Sublist s ∧
      (∀ i, (i ∈ ids deletions ∧ i ∈ ids insertions) ↔
        ∃ x ∈ s, ∃ y ∈ d, Resource.id x = i ∧ Resource.id y = i ∧
          Resource.sameContent x y = false) ∧
      ∀ (removed : Uuid → Prop) [DecidablePred removed] (added : List k.Member),
        Replicates (patch d removed added) s →
          (∀ i ∈ ids deletions, removed i) ∧
            ∀ x ∈ insertions, ∃ y ∈ added,
              Resource.id y = Resource.id x ∧ Resource.sameContent y x = true := by
  intro deletions insertions
  refine ⟨replicates_patch_diffKind hs hd, diffKind_sublist d s, diffKind_sublist s d,
    mem_ids_diffKind_and_iff hs hd, fun removed _ added h => ?_⟩
  exact ⟨fun i hi => h.removed hs hi, fun x hx => h.added hd hx⟩

/-- A type that was renamed is taken out and put in again, and one that is gone is taken out;
    there is no patch that takes out less. -/
theorem renamed_type_patched :
    let gone : Uuid := ⟨List.replicate 32 1, rfl⟩
    let s : List (Kind.Member .objectType) := [(⟨.zero, "group"⟩ : ObjectType)]
    let d : List (Kind.Member .objectType) :=
      [(⟨.zero, "team"⟩ : ObjectType), (⟨gone, "user"⟩ : ObjectType)]
    ((ids s).Nodup ∧ (ids d).Nodup ∧ diffKind d s = d ∧ diffKind s d = s) ∧
      Replicates (patch d (· ∈ ids (diffKind d s)) (diffKind s d)) s ∧
      ∀ (removed : Uuid → Prop) [DecidablePred removed] (added : List (Kind.Member .objectType)),
        Replicates (patch d removed added) s → ∀ i ∈ ids (diffKind d s), removed i := by
  intro gone s d
  have hs : (ids s).Nodup := by decide
  have hd : (ids d).Nodup := by decide
  have h := diffKind_least_patch .objectType hs hd
  refine ⟨⟨hs, hd, by rfl, by rfl⟩, h.1, fun removed _ added hpatch => ?_⟩
  exact (h.2.2.2.2 removed added hpatch).1

end

end TenantSync
