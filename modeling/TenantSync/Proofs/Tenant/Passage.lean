import TenantSync.Proofs.Sync.Passage
import TenantSync.Proofs.Tenant.Sync

/-!
# The states between two in-memory tenants

`Tenant.passed` lists the states of both tenants that a synchronisation passes through, from the
first to the last: one after each call to either of them.  `passed_ends` says all that is needed
about them: the source is unchanged, and the destination is as a run may leave it that is stopped
somewhere.  It holds for tenants of any kind, also when their pages hold nothing.
-/

namespace TenantSync

open Tenant (Answer)

namespace Tenant

/-- A synchronisation between two tenants together with the states that it passes through. -/
def watchedSync (s d : Tenant) (o : Options) (token : CancelToken) (clock : Clock) :
    Except SyncFailure Report × Run ((Tenant × Tenant) × List (Tenant × Tenant)) :=
  (synchronize ((client s.endpoint).zoom .first).watched
    ((client d.endpoint).zoom .second).watched o).run (Run.start ((s, d), [(s, d)]) token clock)

/-- The states that a synchronisation passes through. -/
def passed (s d : Tenant) (o : Options) (token : CancelToken) (clock : Clock) :
    List (Tenant × Tenant) :=
  (s.watchedSync d o token clock).2.world.2

variable {s d : Tenant} {o : Options} {token : CancelToken} {clock : Clock}

/-- Watching does not change what a synchronisation does. -/
theorem sync_eq_watchedSync (s d : Tenant) (o : Options) (token : CancelToken) (clock : Clock) :
    s.sync d o token clock =
      ((s.watchedSync d o token clock).1, (s.watchedSync d o token clock).2.bare) :=
  synchronize_annotates (Client.watched_annotates _) (Client.watched_annotates _) o
    (Run.start ((s, d), [(s, d)]) token clock)

/-- A watched client serves what the client does, and at every state passed. -/
theorem Serves.watched {σ : Type} {stops : Prop} {W : σ → Prop} {t : Tenant} {c : Client σ}
    (h : t.Serves stops W c) : t.Serves stops (Throughout W) c.watched where
  objectTypes := h.objectTypes.watched
  objects hc := (h.objects hc).watched
  edgeTypes := h.edgeTypes.watched
  edges hc := (h.edges hc).watched
  pageBound w hw := h.pageBound w.1 hw.now

/-- How the destination answers when both tenants are seen together. -/
def AnswerSecond (stops : Prop) (w : Tenant × Tenant) (m : Mutation) (ok : Bool)
    (w' : Tenant × Tenant) : Prop :=
  Answer stops w.2 m ok w'.2 ∧ w'.1 = w.1

/-- The destination's client answers for the second tenant of the pair. -/
theorem destination_answers (stops : Prop) (endpoint : String) :
    ((client endpoint).zoom (.second : Lens (Tenant × Tenant) Tenant)).Answers stops
      (AnswerSecond stops) := by
  intro m s ht
  obtain ⟨ht', hstep, u, hu⟩ := (client_answers stops endpoint).zoom Lens.second_lawful m s ht
  exact ⟨ht', hstep, by rw [hu]; rfl⟩

/-- A watched synchronisation reads both tenants and then ends in one of the ways of `RunEnds`. -/
theorem watchedSync_ends (s d : Tenant) (o : Options) (token : CancelToken) (clock : Clock) :
    ∃ w sent, Throughout (BothUnchanged s d) w ∧
      RunEnds True (Noted (AnswerSecond True)) ((∀ k, s.Readable k) ∧ ∀ k, d.Readable k)
        s.endpoint d.endpoint o s.graph d.graph w sent (s.watchedSync d o token clock).2.world
        (s.watchedSync d o token clock).1 := by
  have hstart : Throughout (BothUnchanged s d) ((s, d), [(s, d)]) :=
    ⟨rfl, List.forall_mem_singleton.mpr ⟨.refl s, .refl d⟩⟩
  obtain ⟨w, sent, hw, -, hends⟩ := synchronize_ends (o := o) (source_serves s d).watched.lists
    (destination_serves s d).watched.lists (destination_answers True d.endpoint).watched
    (r := Run.start ((s, d), [(s, d)]) token clock) hstart (.any token)
  exact ⟨w, sent, hw, hends⟩

/-- The last state that a synchronisation passes through is the one it leaves. -/
theorem getLast?_passed (s d : Tenant) (o : Options) (token : CancelToken) (clock : Clock) :
    (s.passed d o token clock).getLast? = some (s.sync d o token clock).2.world := by
  obtain ⟨w, sent, hw, hends⟩ := watchedSync_ends s d o token clock
  rw [sync_eq_watchedSync]
  refine hends.preserve (I := fun w => w.2.getLast? = some w.1) (fun _ _ _ w' hstep _ => ?_) hw.1
  rw [hstep.2, List.getLast?_concat]

/-- In every state that a synchronisation passes through, the source is unchanged, and the
    destination is as it might be if the run had been stopped there. -/
theorem passed_ends {v : Tenant × Tenant} (hv : v ∈ s.passed d o token clock) :
    s.Unchanged v.1 ∧ ∃ d₀ sent out, d.Unchanged d₀ ∧
      RunEnds True (Answer True) True s.endpoint d.endpoint o s.graph d.graph d₀ sent v.2 out := by
  obtain ⟨w, sent, hw, hends⟩ := watchedSync_ends s d o token clock
  obtain hread | ⟨sent, out, hends⟩ := hends.passed hv
  · -- The state was there before both tenants had been read.
    obtain ⟨hv₁, hv₂⟩ := hw.2 v hread
    exact ⟨hv₁, v.2, [], .error ⟨[], .call .endless⟩, hv₂, .unread (.inl trivial)⟩
  · refine ⟨hends.preserve (I := fun w => s.Unchanged w.1) ?_ hw.now.1, w.1.2, sent, out, hw.now.2,
      hends.map Prod.snd fun _ _ _ _ h => h.1⟩
    intro w m ok w' hstep hsource
    rwa [hstep.2]

end Tenant

end TenantSync
