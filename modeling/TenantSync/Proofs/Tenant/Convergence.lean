import TenantSync.Proofs.Tenant.Sync

/-!
# When a run converges

A run goes wrong for one reason alone if both tenants follow the rules and the source is well
formed: something that the destination keeps refers to something that changed.  What changed is
deleted before it is created anew, and the store does not give up what is still referred to.

- `sync_converges_iff`: with default options the destination mirrors the source exactly without
  such an entity, and `renamed_type_blocks_sync` has one,
- `full_sync_criterion`: the same criterion for any full run, with the lists of the destination
  after a success and what is left after a failure,
- `synced_stays_synced`: whatever may have disturbed a run, its success means that the destination
  mirrors the source, and another run finds nothing to do.
-/

namespace TenantSync

open TenantSync.Graph

/-! ## What a failed run leaves behind -/

namespace RunEnds

variable {stops readable : Prop} {source destination : String} {o : Options} {s g : Graph}
  {t t' : Tenant} {sent : List (Mutation × Bool)} {out : Except SyncFailure Report}

/-- With a well-formed source, an undisturbed full run can only fail by a deletion: it then has
    created nothing, and deleted nothing but what it planned to delete. -/
theorem blocked
    (h : RunEnds stops (Tenant.Answer stops) readable source destination o s g t sent t' out)
    (hg : t.graph = g) (ho : o.Full) (hstop : ¬ stops) (hread : readable)
    (hfailing : t.failing = []) (hs : s.WellFormed) (hd : g.UniqueIds)
    {f : SyncFailure} (hout : out = .error f) :
    f.contexts.head? = some (.applying .delete destination) ∧
      (∃ entries : List Tenant.Entry, t'.record = t.record ++ entries ∧
        ∀ r ∈ entries, r.operation = .delete) ∧
      ∃ es, es.Sublist (Operation.delete.plan (deletions s g)) ∧
        t'.graph = g.applyAll .delete es := by
  subst hg
  cases h with
  | unread hbad => exact absurd hread (hbad.resolve_left hstop)
  | undeleted hdel hc hf =>
    cases hout
    rw [ho.deletionSteps] at hdel
    refine ⟨hf, ⟨_, hdel.record_eq hstop, fun r hr => ?_⟩, hdel.graph_eq_applyAll⟩
    obtain ⟨x, hx, rfl⟩ := List.mem_map.mp hr
    -- What was sent was planned, and only deletions were planned.
    obtain ⟨e, -, he⟩ := List.mem_map.mp (hdel.sent_prefix.subset (List.mem_map_of_mem hx))
    rw [← he]
    rfl
  | uncreated hdel hc hins hc' =>
    rw [ho.deletionSteps] at hdel
    rw [ho.insertionSteps] at hins
    rw [hdel.complete_creations_iff hc hins hstop hfailing] at hc'
    -- A well-formed source leaves nothing that the store could refuse to create.
    exact absurd ((accepts_create_iff hs.unique_ids hd).mpr (hs.creatable hd)) hc'
  | done => exact nomatch hout

end RunEnds

namespace Tenant

variable {s d : Tenant}

/-! ## Small tenants -/

/-- An identifier that ends in a given digit. -/
def numbered (digit : Fin 16) : Uuid := ⟨List.replicate 31 0 ++ [digit], by simp⟩

/-- A tenant with one object type of the given name and one object of that type. -/
def withType (name endpoint : String) : Tenant :=
  .ofGraph endpoint 1
    { objectTypes := [⟨numbered 1, name⟩], objects := [⟨numbered 10, numbered 1, none⟩] }

/-- A tenant with one type answers everything. -/
theorem withType_faultless (name endpoint : String) : (withType name endpoint).Faultless :=
  ⟨Nat.one_pos, rfl, rfl⟩

/-- The graph of a tenant with one type is well-formed. -/
theorem withType_wellFormed (name endpoint : String) :
    (withType name endpoint).graph.WellFormed where
  unique_ids := by rintro (_ | _ | _ | _) <;> simp [withType, ofGraph, entities]
  unique_names := List.pairwise_singleton ..
  unique_aliases := List.pairwise_singleton ..
  closed := by
    rw [forall_mem_iff]
    simp [withType, ofGraph, Entity.refs, ← hasObjectType_iff, hasObjectType]

/-- A tenant that holds nothing. -/
def empty (endpoint : String) : Tenant := .ofGraph endpoint 1 {}

/-- A tenant that holds nothing answers everything. -/
theorem empty_faultless (endpoint : String) : (empty endpoint).Faultless :=
  ⟨Nat.one_pos, rfl, rfl⟩

/-- The graph of a tenant that holds nothing is well-formed. -/
theorem empty_wellFormed (endpoint : String) : (empty endpoint).graph.WellFormed where
  unique_ids := by rintro (_ | _ | _ | _) <;> exact List.nodup_nil
  unique_names := .nil
  unique_aliases := .nil
  closed := fun x hx => absurd hx (eq_empty_iff.mp rfl x)

/-- A tenant with users and another type, and with a user of the given name. -/
def withUser (other : ObjectType) (name endpoint : String) : Tenant :=
  .ofGraph endpoint 1
    { objectTypes := [⟨numbered 1, "user"⟩, other]
      objects := [⟨numbered 10, numbered 1, some name⟩] }

/-- A tenant with a user answers everything. -/
theorem withUser_faultless (other : ObjectType) (name endpoint : String) :
    (withUser other name endpoint).Faultless :=
  ⟨Nat.one_pos, rfl, rfl⟩

/-- It follows the rules if its types differ in identifier and name. -/
theorem withUser_wellFormed {other : ObjectType} (hid : numbered 1 ≠ other.id)
    (hname : "user" ≠ other.typeName) (name endpoint : String) :
    (withUser other name endpoint).graph.WellFormed where
  unique_ids := by rintro (_ | _ | _ | _) <;> simp [withUser, ofGraph, entities, Entity.id, hid]
  unique_names := by simp [withUser, ofGraph, hname]
  unique_aliases := List.pairwise_singleton ..
  closed := by
    rw [forall_mem_iff]
    simp [withUser, ofGraph, Entity.refs, ← hasObjectType_iff, hasObjectType]

/-- A source. -/
def renewed : Tenant := withUser ⟨numbered 2, "group"⟩ "anna" "src"

/-- The destination as it was left before: it keeps the type of users, its user has changed, and
    its other type is gone from the source. -/
def outdated : Tenant := withUser ⟨numbered 3, "team"⟩ "ann" "dst"

/-- The renewed tenant answers everything. -/
theorem renewed_faultless : renewed.Faultless := withUser_faultless ..

/-- The outdated tenant answers everything. -/
theorem outdated_faultless : outdated.Faultless := withUser_faultless ..

/-- The renewed tenant's graph is well-formed. -/
theorem renewed_wellFormed : renewed.graph.WellFormed :=
  withUser_wellFormed (by decide) (by decide) ..

/-- The outdated tenant's graph is well-formed. -/
theorem outdated_wellFormed : outdated.graph.WellFormed :=
  withUser_wellFormed (by decide) (by decide) ..

/-- All that is kept is a type, and a type refers to nothing. -/
theorem outdated_unblocked : ∀ x ∈ outdated.graph, renewed.graph.keeps x = true →
    ∀ e ∈ outdated.graph, renewed.graph.changes e = true → ¬ x.RefersTo e := by
  have huser : renewed.graph.keeps (.object ⟨numbered 10, numbered 1, some "ann"⟩) = false := by
    decide
  rw [forall_mem_iff]
  simp [outdated, withUser, ofGraph, Entity.RefersTo, Entity.refs, huser]

/-- Bringing the destination up to date succeeds. -/
theorem renewal_isOk : (renewed.sync outdated {} .fresh (.frozen 0)).1.isOk = true := by
  rw [sync_isOk_iff renewed_faultless outdated_faultless renewed_wellFormed.unique_ids
    outdated_wellFormed.unique_ids ⟨rfl, rfl⟩,
    renewed_wellFormed.unobstructed_iff outdated_wellFormed.unique_ids]
  exact outdated_unblocked

/-- An object of the first type. -/
def user : Object := ⟨numbered 10, numbered 1, none⟩

/-- An object of the second type. -/
def group : Object := ⟨numbered 11, numbered 2, none⟩

/-- Two types, an object of each and an edge from one object to the other. -/
def related (a b : Object) : Graph where
  objectTypes := [⟨numbered 1, "user"⟩, ⟨numbered 2, "group"⟩]
  objects := [user, group]
  edgeTypes := [⟨numbered 5, "member", a.typeId, b.typeId, []⟩]
  edges := [⟨numbered 12, numbered 5, a.id, b.id⟩]

/-- Filling an empty tenant succeeds. -/
theorem fill_isOk :
    ((withType "group" "src").sync (empty "dst") {} .fresh (.frozen 0)).1.isOk = true := by
  rw [sync_isOk_iff (withType_faultless _ _) (empty_faultless _)
    (withType_wellFormed _ _).unique_ids (empty_wellFormed _).unique_ids ⟨rfl, rfl⟩,
    (withType_wellFormed _ _).unobstructed_iff (empty_wellFormed _).unique_ids]
  exact fun x hx => absurd hx (eq_empty_iff.mp rfl x)

/-! ## The criterion -/

/-- Between tenants that follow the rules, and with a well-formed source, a full run succeeds
    exactly when nothing kept refers to anything changed.  After a success the list of each kind
    holds what was kept, in the order of the destination, and then what was missing, in the order
    of the source.  After a failure nothing was created and everything kept is still there. -/
theorem full_sync_criterion (hs : s.Faultless) (hd : d.Faultless) (hsg : s.graph.WellFormed)
    (hdg : d.graph.WellFormed) {o : Options} (ho : o.Full) (clock : Clock) :
    ((s.sync d o .fresh clock).1.isOk = true ↔
      ∀ x ∈ d.graph, s.graph.keeps x = true → ∀ e ∈ d.graph, s.graph.changes e = true →
        ¬ x.RefersTo e) ∧
    ((s.sync d o .fresh clock).1.isOk = true →
      ∀ k, (s.sync d o .fresh clock).2.world.2.graph.entities k =
        (d.graph.entities k).filter s.graph.keeps ++ (insertions s.graph d.graph).entities k) ∧
    ∀ f, (s.sync d o .fresh clock).1 = .error f →
      f.contexts.head? = some (.applying .delete d.endpoint) ∧
      (∃ entries : List Entry,
        (s.sync d o .fresh clock).2.world.2.record = d.record ++ entries ∧
          ∀ r ∈ entries, r.operation = .delete) ∧
      ∀ x ∈ d.graph, s.graph.keeps x = true → x ∈ (s.sync d o .fresh clock).2.world.2.graph := by
  have hids := hsg.unique_ids
  refine ⟨?_, fun hok k => ?_, fun f hf => ?_⟩
  · rw [sync_isOk_iff hs hd hids hdg.unique_ids ho, hsg.unobstructed_iff hdg.unique_ids]
  · rw [graph_of_sync_ok hs.pages hd.pages ho hok, entities_goal hids hdg.unique_ids]
  · -- What a failed run deleted is part of its plan, and no kept entity is planned.
    obtain ⟨-, _, ⟨n, rfl⟩, hends⟩ := sync_ends hs.pages hd.pages o .never clock
    obtain ⟨hhead, hrecord, es, hes, hgraph⟩ :=
      hends.blocked rfl ho id (hs.readable hd) hd.failing hsg hdg.unique_ids hf
    refine ⟨hhead, hrecord, fun x hx hk => ?_⟩
    rw [hgraph]
    exact ((Between.refl s.graph hdg.unique_ids).deleted hids hes).kept x hx hk

/-- The kept type comes first, then the one that was missing, and the user has its new name. -/
theorem renewal_meets_criterion :
    (renewed.sync outdated {} .fresh (.frozen 0)).1.isOk = true ∧
      ∀ k, (renewed.sync outdated {} .fresh (.frozen 0)).2.world.2.graph.entities k =
        match k with
        | .objectType => [.objectType ⟨numbered 1, "user"⟩, .objectType ⟨numbered 2, "group"⟩]
        | .object => [.object ⟨numbered 10, numbered 1, some "anna"⟩]
        | .edgeType | .edge => [] := by
  have h := full_sync_criterion renewed_faultless outdated_faultless renewed_wellFormed
    outdated_wellFormed (o := {}) ⟨rfl, rfl⟩ (.frozen 0)
  have hok := h.1.mpr outdated_unblocked
  refine ⟨hok, fun k => ?_⟩
  rw [h.2.1 hok k]
  cases k <;> decide

/-- With default options the destination comes to mirror the source exactly when nothing kept
    refers to anything changed. -/
theorem sync_converges_iff (hs : s.Faultless) (hd : d.Faultless) (hsg : s.graph.WellFormed)
    (hdg : d.graph.WellFormed) (clock : Clock) :
    ((s.sync d {} .fresh clock).1.isOk = true ∧
        (s.sync d {} .fresh clock).2.world.2.graph.Mirrors s.graph) ↔
      ∀ x ∈ d.graph, s.graph.keeps x = true → ∀ e ∈ d.graph, s.graph.changes e = true →
        ¬ x.RefersTo e := by
  have hfull : ({} : Options).Full := ⟨rfl, rfl⟩
  rw [← hsg.unobstructed_iff hdg.unique_ids,
    ← sync_isOk_iff hs hd hsg.unique_ids hdg.unique_ids hfull, and_iff_left_iff_imp]
  intro hok
  rw [graph_of_sync_ok hs.pages hd.pages hfull hok]
  exact goal_mirrors hsg.unique_ids hdg.unique_ids

/-- A destination with something to keep, something to change and something to lose. -/
theorem renewal_converges :
    (renewed.sync outdated {} .fresh (.frozen 0)).1.isOk = true ∧
      (renewed.sync outdated {} .fresh (.frozen 0)).2.world.2.graph.Mirrors renewed.graph :=
  (sync_converges_iff renewed_faultless outdated_faultless renewed_wellFormed
    outdated_wellFormed (.frozen 0)).mpr outdated_unblocked

/-- A type was renamed in the source and the destination has an object of it: the type cannot be
    deleted, so it is never created anew and the run fails. -/
theorem renamed_type_blocks_sync :
    (withType "group" "src").Faultless ∧ (withType "team" "dst").Faultless ∧
      (withType "group" "src").graph.WellFormed ∧ (withType "team" "dst").graph.WellFormed ∧
      ¬ ((withType "group" "src").sync (withType "team" "dst") {} .fresh
        (.frozen 0)).1.isOk = true := by
  refine ⟨withType_faultless _ _, withType_faultless _ _, withType_wellFormed _ _,
    withType_wellFormed _ _, ?_⟩
  rw [sync_isOk_iff (withType_faultless _ _) (withType_faultless _ _)
    (withType_wellFormed _ _).unique_ids (withType_wellFormed _ _).unique_ids ⟨rfl, rfl⟩]
  intro hfree
  -- The object is the same on both sides, so it is kept; its type has another name.
  refine hfree.removable (.object ⟨numbered 10, numbered 1, none⟩) ?_ ?_
    (.objectType ⟨numbered 1, "team"⟩) ?_ ?_ ?_
  · exact List.mem_singleton.mpr rfl
  · decide
  · exact List.mem_singleton.mpr rfl
  · decide
  · decide

/-! ## Success is stable -/

/-- Whatever failures were injected and whenever the run may have been cancelled: if a full run
    succeeds, the destination mirrors the source, and another run between the two tenants reports
    that there was nothing to do and sends nothing. -/
theorem synced_stays_synced (hs : 0 < s.pageSize) (hd : 0 < d.pageSize)
    (hsg : s.graph.UniqueIds) (hdg : d.graph.UniqueIds) {o : Options} (ho : o.Full)
    {token : CancelToken} {clock : Clock} (hok : (s.sync d o token clock).1.isOk = true)
    (o' : Options) (clock' : Clock) :
    let once := s.sync d o token clock
    let again := once.2.world.1.sync once.2.world.2 o' .fresh clock'
    once.2.world.2.graph.Mirrors s.graph ∧
      (∃ report, again.1 = .ok report ∧
        report.deletions? = (if o'.insertOnly then none else some {}) ∧ report.insertions = {} ∧
        report.deleted = {} ∧ report.inserted = {}) ∧
      again.2.mutations = [] ∧ again.2.world.2.record = once.2.world.2.record := by
  intro once again
  obtain ⟨⟨m, hsource⟩, _, ⟨n, rfl⟩, hends⟩ := sync_ends hs hd o (.any token) clock
  obtain ⟨hus, hud⟩ := hends.readable_of_ok hok
  obtain ⟨g, record, hdestination⟩ := hends.frame
  have hmirror : once.2.world.2.graph.Mirrors s.graph := by
    rw [show once.2.world.2.graph = goal s.graph d.graph from graph_of_sync_ok hs hd ho hok]
    exact goal_mirrors hsg hdg
  refine ⟨hmirror, ?_⟩
  -- The second run finds the same tenants, but for the destination's graph and record.
  have hsource' : once.2.world.1 = { s with objectPages := m } := hsource
  have hdestination' : once.2.world.2 =
      { d with graph := g, record, objectPages := n } := hdestination
  obtain ⟨-, _, ⟨n', rfl⟩, hagain⟩ :=
    sync_ends (s := once.2.world.1) (d := once.2.world.2) (by rw [hsource']; exact hs)
      (by rw [hdestination']; exact hd) o' .never clock'
  -- Seen from there, the mirror leaves both differences empty.
  obtain ⟨hsent, hworld, hreport⟩ := hagain.of_no_difference id
    (by rw [hsource', hdestination']; exact ⟨hus, hud⟩)
    (by rw [hsource']; exact hmirror.deletions_eq_empty hsg)
    (by rw [hsource']; exact hmirror.insertions_eq_empty hsg)
  have hrecord := congrArg Tenant.record hworld
  exact ⟨hreport, hsent, hrecord⟩

/-- An empty tenant, once filled, stays filled. -/
theorem filled_stays_synced :
    let once := (withType "group" "src").sync (empty "dst") {} .fresh (.frozen 0)
    let again := once.2.world.1.sync once.2.world.2 {} .fresh (.frozen 1)
    once.2.world.2.graph.Mirrors (withType "group" "src").graph ∧ again.2.mutations = [] := by
  have h := synced_stays_synced (withType_faultless "group" "src").pages
    (empty_faultless "dst").pages (withType_wellFormed _ _).unique_ids
    (empty_wellFormed _).unique_ids ⟨rfl, rfl⟩ fill_isOk {} (.frozen 1)
  exact ⟨h.1, h.2.2.1⟩

end Tenant

end TenantSync
