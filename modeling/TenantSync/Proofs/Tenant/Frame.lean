import TenantSync.Proofs.Tenant.InsertOnly
import TenantSync.Proofs.Tenant.Passage

/-!
# What a run leaves alone

`Tenant.Untouched` says what no run may touch, in whatever state it is: the source, every entity of
the destination that the source holds with equal content, everything that was there if the run only
inserts, and the whole destination if it is dry.  `passed_untouched` says that every run keeps to
that all the way, with whatever failures and whenever it is cancelled.

Content is compared more coarsely than records: two edge types with the same attributes in another
order agree.  A kept entity is nevertheless never rewritten, it stays exactly the record that it
was.
-/

namespace TenantSync

open TenantSync.Graph

open Tenant (Answer)

/-- What the rules of a store allow keeps identifiers unique. -/
theorem Graph.UniqueIds.apply {g : Graph} (hg : g.UniqueIds) {m : Mutation}
    (hrule : g.refusal? m = none) : (g.apply m).UniqueIds := by
  cases m with
  | create e => exact hg.add (insertRefusal?_eq_none_iff.mp hrule).2
  | delete k id => exact hg.of_sublist fun j => entities_drop_sublist g k j id

namespace RunEnds

variable {stops readable : Prop} {source destination : String} {o : Options} {s g : Graph}
  {t t' : Tenant} {sent : List (Mutation × Bool)} {out : Except SyncFailure Report}

/-- Runs keep the identifiers of the destination unique. -/
theorem uniqueIds (h : RunEnds stops (Answer stops) readable source destination o s g t sent t' out)
    (ht : t.graph.UniqueIds) : t'.graph.UniqueIds := by
  refine h.preserve (I := fun u => u.graph.UniqueIds) (fun u m ok u' hstep hu => ?_) ht
  cases hstep with
  | done _ hrule => exact hu.apply hrule
  | refused => exact hu
  | stopped => exact hu

/-- A run that only inserts leaves everything where it was. -/
theorem isPrefix_of_insertOnly
    (h : RunEnds stops (Answer stops) readable source destination o s g t sent t' out)
    (hg : t.graph = g) (ho : o.insertOnly = true) (k : Kind) :
    g.entities k <+: t'.graph.entities k := by
  obtain ⟨es, -, -, hgraph⟩ := h.created hg ho
  rw [hgraph, entities_applyAll_create]
  exact List.prefix_append _ _

/-- Whatever the run was told to do, it leaves what the source keeps as it is. -/
theorem mem_of_keeps
    (h : RunEnds stops (Answer stops) readable source destination o s g t sent t' out)
    (hg : t.graph = g) (hs : s.UniqueIds) (hd : g.UniqueIds) {x : Entity} (hx : x ∈ g)
    (hk : s.keeps x = true) : x ∈ t'.graph := by
  -- A dry run changes nothing, and a run that only inserts takes nothing away.
  by_cases hdry : o.dryRun = true
  · rwa [(h.of_dryRun hdry).2, hg]
  by_cases hins : o.insertOnly = true
  · exact (h.isPrefix_of_insertOnly hg hins x.kind).subset hx
  -- A full run deletes only what the source does not keep.
  · have hfull : o.Full := ⟨by simpa using hdry, by simpa using hins⟩
    exact (h.between hg hfull hs hd (Between.refl s hd)).kept x hx hk

end RunEnds

namespace Tenant

/-- What a run from `s` to `d` must not touch on its way through the state `v` of both tenants. -/
structure Untouched (s d : Tenant) (o : Options) (v : Tenant × Tenant) : Prop where
  /-- Of the source, only the pages that were asked for are counted. -/
  source : s.Unchanged v.1
  unique : v.2.graph.UniqueIds
  /-- What the source holds with equal content stays the record that it was. -/
  kept : ∀ x ∈ d.graph, s.graph.keeps x = true → x ∈ v.2.graph
  /-- What is inserted comes after what was there. -/
  insert_only : o.insertOnly = true → ∀ k, d.graph.entities k <+: v.2.graph.entities k
  /-- Nothing is changed in the destination, nor is it asked to. -/
  dry_run : o.dryRun = true → d.Unchanged v.2

/-- No run touches what it must not touch, in any state that it passes through. -/
theorem passed_untouched {s d : Tenant} (hs : s.graph.UniqueIds) (hd : d.graph.UniqueIds)
    (o : Options) (token : CancelToken) (clock : Clock) :
    ∀ v ∈ s.passed d o token clock, Untouched s d o v := by
  intro v hv
  -- The run might have ended in this state, and then left the destination as it is here.
  obtain ⟨hsource, d₀, _, _, hd₀, hends⟩ := passed_ends hv
  have hgraph : d₀.graph = d.graph := by
    obtain ⟨n, rfl⟩ := hd₀
    rfl
  exact
    { source := hsource
      unique := hends.uniqueIds (hgraph ▸ hd)
      kept := fun x hx hk => hends.mem_of_keeps hgraph hs hd hx hk
      insert_only := hends.isPrefix_of_insertOnly hgraph
      dry_run := fun hdry => by rwa [(hends.of_dryRun hdry).2] }

/-- An object is inserted, and its type stays the record that it was. -/
theorem type_untouched_by_insertion :
    let s := withType "group" "src"
    let d := withBareType "group" "dst"
    s.graph.UniqueIds ∧ d.graph.UniqueIds ∧
      ∀ v ∈ s.passed d { insertOnly := true } .fresh (.frozen 0),
        Untouched s d { insertOnly := true } v :=
  ⟨(withType_wellFormed _ _).unique_ids, (withBareType_wellFormed _ _).unique_ids,
    passed_untouched (withType_wellFormed _ _).unique_ids (withBareType_wellFormed _ _).unique_ids
      _ _ _⟩

end Tenant

end TenantSync
