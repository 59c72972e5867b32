import TenantSync.Proofs.Graph.Rules

/-!
# Drift between two graphs

Seen from one graph, an entity of another is kept when the graph holds its kind and identifier
with equal content, and changed when it holds them with different content.  With unique
identifiers the difference of two graphs is what the other one does not keep
(`entities_diff`).
-/

namespace TenantSync

section
variable {α : Type} [Resource α]

/-- With unique identifiers it does not matter which entity with an identifier is looked up. -/
theorem differsIn_eq_not_any {ys : List α} (h : (ys.map Resource.id).Nodup) (x : α) :
    differsIn ys x =
      !ys.any fun y => Resource.id y == Resource.id x && Resource.sameContent x y := by
  rw [differsIn]
  cases hl : lastWithId? (Resource.id x) ys with
  | none =>
    -- No entity has the identifier, so the search finds none either.
    have hne := lastWithId?_eq_none_iff.mp hl
    simp only [Bool.true_eq, Bool.not_eq_true', List.any_eq_false, Bool.and_eq_true, beq_iff_eq]
    exact fun y hy hc => hne y hy hc.1
  | some y =>
    obtain ⟨hy, hid⟩ := mem_of_lastWithId? hl
    simp only [Bool.not_inj_iff]
    rw [Bool.eq_iff_iff, List.any_eq_true]
    constructor
    · intro hc
      exact ⟨y, hy, by simp only [hid, hc, beq_self_eq_true, Bool.and_self]⟩
    · -- Whatever the search finds has the same identifier, so it is `y`.
      rintro ⟨z, hz, hc⟩
      rw [Bool.and_eq_true, beq_iff_eq] at hc
      rw [List.inj_on_of_nodup_map h hy hz (hid.trans hc.1.symm)]
      exact hc.2

end

namespace Graph

/-- Whether the graph holds the kind and identifier of an entity with equal content. -/
def keeps (s : Graph) (e : Entity) : Bool :=
  (s.entities e.kind).any fun y => y.id == e.id && e.sameContent y

/-- Whether the graph holds the kind and identifier of an entity with different content. -/
def changes (s : Graph) (e : Entity) : Bool :=
  (s.entities e.kind).any fun y => y.id == e.id && !e.sameContent y

/-- What is found under the kind and the identifier of an entity has its key. -/
private theorem any_counterpart_iff {s : Graph} {e : Entity} {p : Entity → Bool} :
    ((s.entities e.kind).any fun y => y.id == e.id && p y) = true ↔
      ∃ y ∈ s, y.key = e.key ∧ p y = true := by
  simp only [List.any_eq_true, Bool.and_eq_true, beq_iff_eq]
  constructor
  · rintro ⟨y, hy, hid, hc⟩
    obtain ⟨hy, hk⟩ := mem_entities_iff.mp hy
    exact ⟨y, hy, Entity.key_eq_iff.mpr ⟨hk, hid⟩, hc⟩
  · rintro ⟨y, hy, hkey, hc⟩
    obtain ⟨hk, hid⟩ := Entity.key_eq_iff.mp hkey
    exact ⟨y, mem_entities_iff.mpr ⟨hy, hk⟩, hid, hc⟩

/-- A graph keeps what it holds under the same kind and identifier with the same content. -/
theorem keeps_iff {s : Graph} {e : Entity} :
    s.keeps e = true ↔ ∃ y ∈ s, y.key = e.key ∧ e.sameContent y = true :=
  any_counterpart_iff

/-- A graph changes what it holds under the same kind and identifier with other content. -/
theorem changes_iff {s : Graph} {e : Entity} :
    s.changes e = true ↔ ∃ y ∈ s, y.key = e.key ∧ e.sameContent y = false := by
  rw [changes, any_counterpart_iff]
  simp only [Bool.not_eq_true']

/-- A graph keeps its own entities. -/
theorem keeps_of_mem {s : Graph} {e : Entity} (h : e ∈ s) : s.keeps e = true :=
  keeps_iff.mpr ⟨e, h, rfl, e.sameContent_refl⟩

/-- What is neither kept nor changed has no counterpart. -/
theorem not_holds_of_not_keeps {s : Graph} {e : Entity} (hk : s.keeps e = false)
    (hc : s.changes e = false) : ¬ s.Holds e.key := by
  rintro ⟨y, hy, hkey⟩
  cases hs : e.sameContent y with
  | true => exact absurd (keeps_iff.mpr ⟨y, hy, hkey, hs⟩) (by simp [hk])
  | false => exact absurd (changes_iff.mpr ⟨y, hy, hkey, hs⟩) (by simp [hc])

/-- With unique identifiers nothing is both kept and changed. -/
theorem not_keeps_of_changes {s : Graph} (hs : s.UniqueIds) {e : Entity}
    (h : s.changes e = true) : s.keeps e = false := by
  obtain ⟨y, hy, hkey, hdiff⟩ := changes_iff.mp h
  by_contra hk
  obtain ⟨z, hz, hkey', hsame⟩ := keeps_iff.mp (by simpa using hk)
  rw [eq_of_key_eq hs hy hz (hkey.trans hkey'.symm), hsame] at hdiff
  exact nomatch hdiff

/-- Seen from either graph, counterparts keep each other. -/
theorem keeps_of_counterpart {g : Graph} {x y : Entity} (hx : x ∈ g) (hkey : x.key = y.key)
    (hc : x.sameContent y = true) : g.keeps y = true :=
  keeps_iff.mpr ⟨x, hx, hkey, Entity.sameContent_comm x y ▸ hc⟩

/-- The difference of two lists of a kind, seen through the constructor of the kind. -/
private theorem map_diffKind {α : Type} [Resource α] (c : α → Entity)
    (hid : ∀ a, (c a).id = Resource.id a)
    (hc : ∀ a b, (c a).sameContent (c b) = Resource.sameContent a b) (xs : List α) {ys : List α}
    (h : ((ys.map c).map Entity.id).Nodup) :
    (diffKind xs ys).map c =
      (xs.map c).filter fun e => !(ys.map c).any fun y => y.id == e.id && e.sameContent y := by
  -- The identifiers are the same with or without the constructor.
  have hn : (ys.map Resource.id).Nodup := by
    rw [List.map_map] at h
    exact List.map_congr_left (fun a _ => hid a) ▸ h
  rw [List.filter_map, diffKind]
  congr 1
  apply List.filter_congr
  intro x _
  simp only [differsIn_eq_not_any hn, Function.comp_apply, List.any_map, Function.comp_def, hid, hc]

/-- The difference of two graphs is what the second does not keep of the first. -/
theorem entities_diff (a : Graph) {b : Graph} (hb : b.UniqueIds) (k : Kind) :
    (a.diff b).entities k = (a.entities k).filter fun e => !b.keeps e := by
  -- Within the list of a kind, the search for a counterpart goes through that list.
  have hkind : ∀ e ∈ a.entities k, (!b.keeps e) =
      !(b.entities k).any fun y => y.id == e.id && e.sameContent y := by
    intro e he
    rw [keeps, kind_of_mem_entities he]
  rw [List.filter_congr hkind]
  cases k with
  | objectType => exact map_diffKind .objectType (fun _ => rfl) (fun _ _ => rfl) _ (hb .objectType)
  | object => exact map_diffKind .object (fun _ => rfl) (fun _ _ => rfl) _ (hb .object)
  | edgeType => exact map_diffKind .edgeType (fun _ => rfl) (fun _ _ => rfl) _ (hb .edgeType)
  | edge => exact map_diffKind .edge (fun _ => rfl) (fun _ _ => rfl) _ (hb .edge)

/-- The difference of two graphs is what the second does not keep of the first. -/
theorem mem_diff_iff {a b : Graph} (hb : b.UniqueIds) {e : Entity} :
    e ∈ a.diff b ↔ e ∈ a ∧ b.keeps e = false := by
  rw [mem_iff, entities_diff a hb, List.mem_filter, Bool.not_eq_true', mem_iff]

/-- The empty graph is the one without entities. -/
theorem eq_empty_iff {g : Graph} : g = {} ↔ ∀ e, e ∉ g := by
  constructor
  · rintro rfl (_ | _ | _ | _) he <;> exact nomatch he
  · intro h
    have hnil : ∀ k, g.entities k = [] := fun k =>
      List.eq_nil_iff_forall_not_mem.mpr fun e he => h e (mem_entities_iff.mp he).1
    -- A graph is its four lists, and all are empty.
    obtain ⟨ts, os, us, es⟩ := g
    have ht := hnil .objectType
    have ho := hnil .object
    have hu := hnil .edgeType
    have he := hnil .edge
    simp only [entities, List.map_eq_nil_iff] at ht ho hu he
    subst ht ho hu he
    rfl

/-- Nothing differs exactly when the second graph keeps the whole first one. -/
theorem diff_eq_empty_iff {a b : Graph} (hb : b.UniqueIds) :
    a.diff b = {} ↔ ∀ e ∈ a, b.keeps e = true := by
  rw [eq_empty_iff]
  refine forall_congr' fun e => ?_
  rw [mem_diff_iff hb, not_and, Bool.not_eq_false]

end Graph

end TenantSync
