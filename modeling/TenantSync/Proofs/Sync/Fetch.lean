import TenantSync.Proofs.Session.Reading
import TenantSync.Sync.Fetch

/-!
# Snapshots are exact

What the four listings of a client read is what a snapshot holds (`fetchSnapshot_reads`).
Taking one sends no mutation, and it fails only if a listing does or the run is stopped.
-/

namespace TenantSync

variable {σ α β : Type} {stops : Prop} {W : σ → Prop} {P Q : Prop} {x : α} {y : β}

namespace CancelToken.FreshUnless

variable {r : Run σ}

/-- Looking at the token keeps a run's token fresh unless it stops. -/
theorem looked (h : r.token.FreshUnless stops) : r.look.token.FreshUnless stops := h.look

/-- Reading the clock keeps it fresh unless the run stops. -/
theorem tick (h : r.token.FreshUnless stops) : r.tick.token.FreshUnless stops := h

/-- A log line keeps it fresh unless the run stops. -/
theorem write (h : r.token.FreshUnless stops) (l : LogLine) :
    (r.write l).token.FreshUnless stops :=
  h.afterLine l

/-- An event keeps it fresh unless the run stops. -/
theorem tell (h : r.token.FreshUnless stops) (e : Event) : (r.tell e).token.FreshUnless stops :=
  h.afterEvent _

/-- Noting a call keeps it fresh unless the run stops. -/
theorem note (h : r.token.FreshUnless stops) (m : Mutation) (ok : Bool) :
    (r.note m ok).token.FreshUnless stops :=
  h

/-- After a call, the run has the session's token. -/
theorem resume (h : r.token.FreshUnless stops) {s : Session σ} (hs : s.token.FreshUnless stops) :
    (r.resume s).token.FreshUnless stops :=
  h.merge hs

end CancelToken.FreshUnless

namespace SyncM

/-- The step reads `x` from any world in `W`, stays there and sends no mutation. -/
def Reads (stops : Prop) (W : σ → Prop) (P : Prop) (x : α) (m : SyncM σ α) : Prop :=
  ∀ r : Run σ, W r.world → r.token.FreshUnless stops →
    W (m.run r).2.world ∧ (m.run r).2.token.FreshUnless stops ∧
      (m.run r).2.mutations = r.mutations ∧ Yields stops P x (m.run r).1

namespace Reads

/-- What a reading step leaves behind, with its run given as an equation. -/
theorem of_run {m : SyncM σ α} (hm : Reads stops W P x m) {r r' : Run σ}
    {out : Except SyncFailure α} (hrun : m.run r = (out, r')) (hw : W r.world)
    (ht : r.token.FreshUnless stops) :
    W r'.world ∧ r'.token.FreshUnless stops ∧ r'.mutations = r.mutations ∧
      Yields stops P x out := by
  have h := hm r hw ht
  rwa [hrun] at h

/-- Returning a value is reading it, without a condition. -/
theorem pure : Reads stops W True x (Pure.pure x) :=
  fun _ hw ht => ⟨hw, ht, rfl, trivial, rfl⟩

/-- An event reads nothing. -/
theorem emit (e : Event) : Reads stops W True () (SyncM.emit e) :=
  fun _ hw ht => ⟨hw, ht.tell e, Run.tell_mutations _ e, trivial, rfl⟩

/-- A log line reads nothing. -/
theorem log (level : Level) (component : Component) (text : String) :
    Reads stops W True () (SyncM.log level component text) :=
  fun _ hw ht => ⟨hw, ht.write _, Run.write_mutations _ _, trivial, rfl⟩

/-- Two readings make a reading that answers when both do. -/
theorem bind {m : SyncM σ α} {f : α → SyncM σ β} (hm : Reads stops W P x m)
    (hf : Reads stops W Q y (f x)) : Reads stops W (P ∧ Q) y (m >>= f) := by
  intro r hw ht
  rw [run_bind]
  rcases hr : m.run r with ⟨_ | x', r'⟩ <;> obtain ⟨hw', ht', hsent, hout⟩ := hm.of_run hr hw ht
  -- => A first step that fails decides the whole.
  case error => exact ⟨hw', ht', hsent, hout.imp_right fun hp h => hp h.1⟩
  case ok =>
    obtain ⟨hp, rfl⟩ := hout
    obtain ⟨hw'', ht'', hsent', hout'⟩ := hf r' hw' ht'
    exact ⟨hw'', ht'', hsent'.trans hsent, hout'.and hp⟩

/-- The condition of a reading can be put in another way. -/
theorem congr {m : SyncM σ α} (h : P ↔ Q) (hm : Reads stops W P x m) : Reads stops W Q x m := by
  obtain rfl := propext h
  exact hm

/-- Naming what one is doing keeps what is read. -/
theorem within {m : SyncM σ α} (a : Activity) (hm : Reads stops W P x m) :
    Reads stops W P x (m.within a) := by
  intro r hw ht
  obtain ⟨hw', ht', hsent, hout⟩ := hm r hw ht
  rw [run_within]
  exact ⟨hw', ht', hsent, hout.mapError _⟩

/-- A client's reading is a reading of the run: what it logs is no mutation. -/
theorem call {c : Call σ α} (hc : Call.Reads stops W P x c) :
    Reads stops W P x (SyncM.call c) := by
  intro r hw ht
  obtain ⟨hw', ht', hout⟩ := hc r.session hw ht
  rw [run_call]
  exact ⟨hw', ht.resume ht', r.resume_mutations _, hout.mapError _⟩

end Reads

end SyncM

/-- The listings of a client read the four lists of a graph; that of a kind answers only under
    the condition of the kind. -/
structure Client.Lists (stops : Prop) (W : σ → Prop) (P : Kind → Prop) (g : Graph)
    (c : Client σ) : Prop where
  objectTypes : Call.Reads stops W (P .objectType) g.objectTypes c.listObjectTypes
  objects : Call.Reads stops W (P .object) g.objects
    (collectPages c.pageBound .object c.listObjects)
  edgeTypes : Call.Reads stops W (P .edgeType) g.edgeTypes c.listEdgeTypes
  edges : Call.Reads stops W (P .edge) g.edges (collectPages c.pageBound .edge c.listEdges)

/-- A snapshot holds what the listings read. -/
theorem fetchSnapshot_reads {P : Kind → Prop} {g : Graph} {c : Client σ}
    (h : c.Lists stops W P g) : SyncM.Reads stops W (∀ k, P k) g (fetchSnapshot c) := by
  -- The four listings have one condition each, and the events none.
  have hall : P .objectType ∧ True ∧ P .object ∧ True ∧ P .edgeType ∧ True ∧ P .edge ∧
      True ∧ True ↔ ∀ k, P k := by
    constructor
    · rintro ⟨h₁, -, h₂, -, h₃, -, h₄, -⟩ (_ | _ | _ | _) <;> assumption
    · exact fun hk => ⟨hk _, trivial, hk _, trivial, hk _, trivial, hk _, trivial, trivial⟩
  refine SyncM.Reads.congr hall ?_
  rw [fetchSnapshot]
  refine ((SyncM.Reads.call h.objectTypes).within _).bind ((SyncM.Reads.emit _).bind ?_)
  refine ((SyncM.Reads.call h.objects).within _).bind ((SyncM.Reads.emit _).bind ?_)
  refine ((SyncM.Reads.call h.edgeTypes).within _).bind ((SyncM.Reads.emit _).bind ?_)
  refine ((SyncM.Reads.call h.edges).within _).bind ((SyncM.Reads.emit _).bind ?_)
  exact SyncM.Reads.pure

end TenantSync
