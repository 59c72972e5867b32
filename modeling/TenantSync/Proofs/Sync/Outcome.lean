import TenantSync.Proofs.Sync.Sweep

/-!
# How a run can end

`RunEnds` lists the ways in which a run can end once both snapshots are taken: a deletion
failed, a creation failed, or everything succeeded and there is a report.  In each case it says
what was swept and from where to where.

`synchronize_ends` says that a run between clients that list two graphs either fails to read
them, and then nothing is sent, or ends in one of these ways.
-/

namespace TenantSync

/-- The mutations of the deletion phase; none if the run only inserts. -/
def Options.deletionSteps (o : Options) (s d : Graph) : List Mutation :=
  if o.insertOnly then [] else o.steps .delete (Graph.deletions s d)

/-- The mutations of the insertion phase. -/
def Options.insertionSteps (o : Options) (s d : Graph) : List Mutation :=
  o.steps .create (Graph.insertions s d)

section
variable {σ : Type} {stops : Prop} {R : σ → Mutation → Bool → σ → Prop}

/-- `RunEnds stops R readable source destination o s d w sent w' out`: a run between the two
    endpoints, which hold the graphs `s` and `d`, may find the world `w` once it has read them,
    send the mutations `sent` with these outcomes, leave the world `w'` and return `out`.
    `readable` says whether the graphs can be read at all. -/
inductive RunEnds (stops : Prop) (R : σ → Mutation → Bool → σ → Prop) (readable : Prop)
    (source destination : String) (o : Options) (s d : Graph) :
    σ → List (Mutation × Bool) → σ → Except SyncFailure Report → Prop where
  | unread {w : σ} {f : SyncFailure} (hread : stops ∨ ¬ readable) :
      RunEnds stops R readable source destination o s d w [] w (.error f)
  | undeleted {w w' : σ} {sent : List (Mutation × Bool)} {e : Ending} {f : SyncFailure}
      (hdel : Sweep stops o.mode R (o.deletionSteps s d) w sent w' e) (hc : ¬ Complete sent e)
      (hf : f.contexts.head? = some (.applying .delete destination)) :
      RunEnds stops R readable source destination o s d w sent w' (.error f)
  | uncreated {w w' w'' : σ} {sent sent' : List (Mutation × Bool)} {e e' : Ending}
      {f : SyncFailure} (hdel : Sweep stops o.mode R (o.deletionSteps s d) w sent w' e)
      (hc : Complete sent e) (hins : Sweep stops o.mode R (o.insertionSteps s d) w' sent' w'' e')
      (hc' : ¬ Complete sent' e') (hf : f.contexts.head? = some (.applying .create destination)) :
      RunEnds stops R readable source destination o s d w (sent ++ sent') w'' (.error f)
  | done {w w' w'' : σ} {sent sent' : List (Mutation × Bool)} {e e' : Ending} (hread : readable)
      (hdel : Sweep stops o.mode R (o.deletionSteps s d) w sent w' e) (hc : Complete sent e)
      (hins : Sweep stops o.mode R (o.insertionSteps s d) w' sent' w'' e')
      (hc' : Complete sent' e') {deleted inserted : Counts}
      (hdeleted : o.dryRun = true ∨ o.insertOnly = true ∨ (Graph.deletions s d).isEmpty = true →
        deleted = {})
      (hinserted : o.dryRun = true ∨ (Graph.insertions s d).isEmpty = true → inserted = {})
      (elapsed : Nat) :
      RunEnds stops R readable source destination o s d w (sent ++ sent') w''
        (.ok { sourceEndpoint := source
               destinationEndpoint := destination
               source := s.counts
               destination := d.counts
               deletions? := if o.insertOnly then none else some (Graph.deletions s d).counts
               insertions := (Graph.insertions s d).counts
               deleted, inserted
               dryRun := o.dryRun
               insertOnly := o.insertOnly
               elapsed })

namespace RunEnds

variable {τ : Type} {readable : Prop} {source destination : String} {o : Options} {s d : Graph}
  {w w' : σ} {sent : List (Mutation × Bool)} {out : Except SyncFailure Report}

/-- The same run seen on a part of the world. -/
theorem map {S : τ → Mutation → Bool → τ → Prop} (f : σ → τ)
    (hf : ∀ w m ok w', R w m ok w' → S (f w) m ok (f w'))
    (h : RunEnds stops R readable source destination o s d w sent w' out) :
    RunEnds stops S readable source destination o s d (f w) sent (f w') out := by
  cases h with
  | unread hread => exact .unread hread
  | undeleted hdel hc hfail => exact .undeleted (hdel.map f hf) hc hfail
  | uncreated hdel hc hins hc' hfail =>
    exact .uncreated (hdel.map f hf) hc (hins.map f hf) hc' hfail
  | done hread hdel hc hins hc' hdeleted hinserted elapsed =>
    exact .done hread (hdel.map f hf) hc (hins.map f hf) hc' hdeleted hinserted elapsed

/-- What every answer keeps, a run keeps. -/
theorem preserve {I : σ → Prop} (hI : ∀ w m ok w', R w m ok w' → I w → I w')
    (h : RunEnds stops R readable source destination o s d w sent w' out) (hw : I w) : I w' := by
  cases h with
  | unread => exact hw
  | undeleted hdel => exact hdel.preserve hI hw
  | uncreated hdel _ hins | done _ hdel _ hins => exact hins.preserve hI (hdel.preserve hI hw)

/-- Who succeeds could read. -/
theorem readable_of_ok
    (h : RunEnds stops R readable source destination o s d w sent w' out)
    (hok : out.isOk = true) : readable := by
  cases h with
  | unread | undeleted | uncreated => exact nomatch hok
  | done hread => exact hread

/-- A dry run sends nothing. -/
theorem of_dryRun (h : RunEnds stops R readable source destination o s d w sent w' out)
    (ho : o.dryRun = true) : sent = [] ∧ w' = w := by
  -- A dry run has no steps to carry out in either phase.
  have hdelSteps : o.deletionSteps s d = [] := by
    simp only [Options.deletionSteps, Options.steps, ho, if_true, ite_self]
  have hinsSteps : o.insertionSteps s d = [] := by
    simp only [Options.insertionSteps, Options.steps, ho, if_true]
  cases h with
  | unread => exact ⟨rfl, rfl⟩
  | undeleted hdel =>
    rw [hdelSteps] at hdel
    exact ⟨hdel.of_nil.1, hdel.of_nil.2.1⟩
  | uncreated hdel _ hins | done _ hdel _ hins =>
    rw [hdelSteps] at hdel
    rw [hinsSteps] at hins
    obtain ⟨rfl, rfl, -⟩ := hdel.of_nil
    obtain ⟨rfl, rfl, -⟩ := hins.of_nil
    exact ⟨rfl, rfl⟩

/-- Between graphs that do not differ, a run that nobody stops reports that nothing was to do and
    does nothing. -/
theorem of_no_difference
    (h : RunEnds stops R readable source destination o s d w sent w' out) (hstop : ¬ stops)
    (hread : readable) (hdel : Graph.deletions s d = {}) (hins : Graph.insertions s d = {}) :
    sent = [] ∧ w' = w ∧ ∃ report, out = .ok report ∧
      report.deletions? = (if o.insertOnly then none else some {}) ∧ report.insertions = {} ∧
      report.deleted = {} ∧ report.inserted = {} := by
  -- Nothing is planned in either phase, so both sweeps are empty and complete.
  have hdelSteps : o.deletionSteps s d = [] := by
    rw [Options.deletionSteps, Options.steps, hdel]
    split
    · rfl
    · split <;> rfl
  have hinsSteps : o.insertionSteps s d = [] := by
    rw [Options.insertionSteps, Options.steps, hins]
    split <;> rfl
  cases h with
  | unread hbad => exact absurd hread (hbad.resolve_left hstop)
  | undeleted hsweep hc =>
    rw [hdelSteps] at hsweep
    exact absurd hsweep.of_nil.2.2 hc
  | uncreated _ _ hsweep hc' =>
    rw [hinsSteps] at hsweep
    exact absurd hsweep.of_nil.2.2 hc'
  | done _ hsweep _ hsweep' _ hdeleted hinserted =>
    rw [hdelSteps] at hsweep
    rw [hinsSteps] at hsweep'
    obtain ⟨rfl, rfl, -⟩ := hsweep.of_nil
    obtain ⟨rfl, rfl, -⟩ := hsweep'.of_nil
    refine ⟨rfl, rfl, _, rfl, ?_, ?_, ?_, ?_⟩
    · simp only [hdel]
      rfl
    · simp only [hins]
      rfl
    · exact hdeleted (.inr (.inr (by rw [hdel]; rfl)))
    · exact hinserted (.inr (by rw [hins]; rfl))

end RunEnds

variable {source destination : Client σ} {o : Options} {r : Run σ}

/-- What the deletion phase reports; an insert-only run skips it with success. -/
theorem deletionPhase_swept (hc : destination.Answers stops R) (s d : Graph)
    (ht : r.token.FreshUnless stops) :
    ∃ sent e,
      Swept stops o.mode R (o.deletionSteps s d) r sent
        ((deletionPhase destination o s d).run r).2 e ∧
      match ((deletionPhase destination o s d).run r).1 with
      | .ok (planned?, deleted) => Complete sent e ∧
          planned? = (if o.insertOnly then none else some (Graph.deletions s d).counts) ∧
          (o.dryRun = true ∨ o.insertOnly = true ∨ (Graph.deletions s d).isEmpty = true →
            deleted = {})
      | .error f => ¬ Complete sent e ∧
          f.contexts.head? = some (.applying .delete destination.endpoint) := by
  simp only [deletionPhase, Options.deletionSteps]
  -- An insert-only run has no deletions to sweep over.
  by_cases hins : o.insertOnly = true
  · simp only [hins, if_true, SyncM.run_pure]
    exact ⟨[], .finished, .refl ht, ⟨rfl, nofun⟩, trivial, fun _ => trivial⟩
  simp only [hins, Bool.false_eq_true, if_false, SyncM.run_bind]
  obtain ⟨sent, e, hswept, hrep⟩ :=
    changePhase_swept hc o .delete "nothing to delete" (Graph.deletions s d) ht
  refine ⟨sent, e, ?_⟩
  rcases hrun : (changePhase destination o .delete "nothing to delete" (Graph.deletions s d)).run r
    with ⟨f | ⟨planned, deleted⟩, r'⟩ <;> rw [hrun] at hswept hrep
  · exact ⟨hswept, hrep.2, hrep.1⟩
  · exact ⟨hswept, hrep.2.1, congrArg some hrep.1, fun h => hrep.2.2 (by simpa [hins] using h)⟩

/-- Both phases together end in one of the ways of `RunEnds`. -/
theorem carryOut_ends (source : Client σ) (o : Options) {readable : Prop} (hread : readable)
    (hc : destination.Answers stops R) (started : Int) (s d : Graph)
    (ht : r.token.FreshUnless stops) :
    ∃ sent, ((carryOut source destination o started s d).run r).2.mutations = r.mutations ++ sent ∧
      RunEnds stops R readable source.endpoint destination.endpoint o s d r.world sent
        ((carryOut source destination o started s d).run r).2.world
        ((carryOut source destination o started s d).run r).1 := by
  obtain ⟨sent, e, hswept, hrep⟩ := deletionPhase_swept (o := o) hc s d ht
  simp only [carryOut, SyncM.run_bind]
  rcases hrun : (deletionPhase destination o s d).run r with ⟨f | ⟨planned?, deleted⟩, r'⟩ <;>
    rw [hrun] at hswept hrep
  case error => exact ⟨sent, hswept.mutations, .undeleted hswept.sweep hrep.1 hrep.2⟩
  case ok =>
    obtain ⟨hcomplete, rfl, hdeleted⟩ := hrep
    obtain ⟨sent', e', hswept', hrep'⟩ :=
      changePhase_swept hc o .create "nothing to insert" (Graph.insertions s d) hswept.token
    -- The insertions were computed from the snapshots, not from what the deletions left.
    refine ⟨sent ++ sent', ?_⟩
    rcases hrun' : (changePhase destination o .create "nothing to insert"
      (Graph.insertions s d)).run r' with ⟨f | ⟨planned, inserted⟩, r''⟩ <;>
      rw [hrun'] at hswept' hrep'
    case error =>
      simp only [hrun']
      exact ⟨by rw [hswept'.mutations, hswept.mutations, List.append_assoc],
        .uncreated hswept.sweep hcomplete hswept'.sweep hrep'.2 hrep'.1⟩
    case ok =>
      obtain ⟨rfl, hcomplete', hinserted⟩ := hrep'
      simp only [hrun', SyncM.run_now, SyncM.run_emit, SyncM.run_log,
        SyncM.run_pure, Run.write_mutations, Run.tell_mutations, Run.write_world, Run.tell_world]
      exact ⟨hswept'.mutations.trans (by rw [hswept.mutations, List.append_assoc]),
        .done hread hswept.sweep hcomplete hswept'.sweep hcomplete' hdeleted hinserted _⟩

/-- A run between clients that list the graphs `s` and `d` ends in one of these ways. -/
theorem synchronize_ends {W : σ → Prop} {P Q : Kind → Prop} {s d : Graph}
    (hs : source.Lists stops W P s) (hd : destination.Lists stops W Q d)
    (hc : destination.Answers stops R) (hw : W r.world) (ht : r.token.FreshUnless stops) :
    ∃ w sent, W w ∧
      ((synchronize source destination o).run r).2.mutations = r.mutations ++ sent ∧
      RunEnds stops R ((∀ k, P k) ∧ ∀ k, Q k) source.endpoint destination.endpoint o s d w sent
        ((synchronize source destination o).run r).2.world
        ((synchronize source destination o).run r).1 := by
  simp only [synchronize, SyncM.run_bind, SyncM.run_now, SyncM.run_log, SyncM.run_emit]
  have hsource := (fetchSnapshot_reads hs).within (.fetchingSnapshot .source)
  have hdestination := (fetchSnapshot_reads hd).within (.fetchingSnapshot .destination)
  -- The source is read first; whatever fails from here on, nothing was sent yet.
  rcases hrun : (SyncM.within (.fetchingSnapshot .source) (fetchSnapshot source)).run _
    with ⟨f | s', r'⟩ <;>
    obtain ⟨hw', ht', hsent, hout⟩ := hsource.of_run hrun hw ((ht.tick.write _).tell _)
  case error =>
    exact ⟨r'.world, [], hw', by simpa using hsent, .unread (hout.imp_right fun hp h => hp h.1)⟩
  case ok =>
    obtain ⟨hp, rfl⟩ := hout
    dsimp only
    rcases hrun' : (SyncM.within (.fetchingSnapshot .destination) (fetchSnapshot destination)).run _
      with ⟨f | d', r''⟩ <;>
      obtain ⟨hw'', ht'', hsent', hout'⟩ := hdestination.of_run hrun' hw' (ht'.tell _)
    case error =>
      exact ⟨r''.world, [], hw'', by simpa [hsent] using hsent',
        .unread (hout'.imp_right fun hq h => hq h.2)⟩
    case ok =>
      -- Both snapshots are exact, so the phases work on the graphs themselves.
      obtain ⟨hq, rfl⟩ := hout'
      obtain ⟨sent, hmut, hends⟩ :=
        carryOut_ends source o (And.intro hp hq) hc r.clock.now s' d' ht''
      exact ⟨r''.world, sent, hw'', by simpa [hsent, hsent'] using hmut, hends⟩

end

end TenantSync
