import TenantSync.Proofs.Tenant.InsertOnly

/-!
# What a run asks for that only inserts

A run that only inserts is meant to create what the destination lacks.  It goes by the difference of
the two graphs, and that also holds the new form of whatever changed.  With the deletion phase left
out, the old form is still there, so the run asks the destination for something that it has, and is
refused.

`insertOnly_calls` says that nothing else goes wrong: every call is for something missing exactly if
nothing changed, and where something did, the run fails.  `changed_type_is_asked_for` shows a run
that asks for what is there.
-/

namespace TenantSync

open TenantSync.Graph

open Tenant (Answer)

namespace Sweep

variable {stops : Prop} {mode : FailureMode}

/-- Who collects failures and is not stopped goes through the whole plan. -/
theorem sent_eq_of_collectErrors {σ : Type} {R : σ → Mutation → Bool → σ → Prop}
    {plan : List Mutation} {w w' : σ} {sent : List (Mutation × Bool)} {e : Ending}
    (h : Sweep stops mode R plan w sent w' e) (hstop : ¬ stops) (hmode : mode = .collectErrors) :
    sent.map Prod.fst = plan := by
  induction h with
  | finished => rfl
  | interrupted _ _ _ hs => exact absurd hs hstop
  | applied _ _ ih | failed _ _ _ ih => exact congrArg _ ih
  | aborted _ hfast => exact nomatch hmode.symm.trans hfast

/-- As long as a store only takes entities, it takes none under a key that it holds. -/
theorem refused_of_holds {es : List Entity} {t t' : Tenant} {sent : List (Mutation × Bool)}
    {e : Ending}
    (h : Sweep stops mode (Answer stops) (es.map Operation.create.mutation) t sent t' e)
    {x : Entity} (hheld : t.graph.Holds x.key) {ok : Bool} (hsent : (.create x, ok) ∈ sent) :
    ok = false := by
  -- The plan has to be a variable for the induction; it goes on to hold creations only.
  generalize hplan : es.map Operation.create.mutation = plan at h
  induction h generalizing es with
  | finished | interrupted => exact nomatch hsent
  | aborted =>
    obtain ⟨-, rfl⟩ := Prod.mk.inj (List.mem_singleton.mp hsent)
    rfl
  | applied hstep hrest ih =>
    obtain ⟨y, es, rfl, rfl, rfl⟩ := List.map_eq_cons_iff.mp hplan
    cases hstep with
    | done _ hrule =>
      rcases List.mem_cons.mp hsent with heq | hsent
      · -- The entity that holds the key would clash with the one that was taken.
        obtain ⟨z, hz, hkey⟩ := hheld
        obtain ⟨rfl⟩ := Mutation.create.inj (Prod.mk.inj heq).1
        exact absurd (Entity.clashes_of_key_eq hkey)
          ((insertRefusal?_eq_none_iff.mp hrule).2 z hz)
      · exact ih (hheld.add y) hsent rfl
  | failed _ hstep hrest ih =>
    obtain ⟨y, es, rfl, rfl, rfl⟩ := List.map_eq_cons_iff.mp hplan
    rcases List.mem_cons.mp hsent with heq | hsent
    · exact (Prod.mk.inj heq).2
    · cases hstep <;> exact ih hheld hsent rfl

end Sweep

/-- How the insertions of a run end that only inserts: it has swept its plan, or it had nothing to
    do, or it did not come to that. -/
theorem RunEnds.of_insertOnly {σ : Type} {stops readable : Prop}
    {R : σ → Mutation → Bool → σ → Prop} {source destination : String} {o : Options} {s g : Graph}
    {w w' : σ} {sent : List (Mutation × Bool)} {out : Except SyncFailure Report}
    (h : RunEnds stops R readable source destination o s g w sent w' out)
    (ho : o.insertOnly = true) :
    (sent = [] ∧ (stops ∨ ¬ readable) ∧ out.isOk = false) ∨
      ∃ e, Sweep stops o.mode R (o.insertionSteps s g) w sent w' e ∧
        (out.isOk = true ↔ Complete sent e) := by
  -- There is nothing to delete, so the run ends where its insertions do, if it comes that far.
  have hdelSteps : o.deletionSteps s g = [] := by
    simp only [Options.deletionSteps, ho, if_true]
  cases h with
  | unread hbad => exact .inl ⟨rfl, hbad, rfl⟩
  | undeleted hdel hc =>
    rw [hdelSteps] at hdel
    exact absurd hdel.of_nil.2.2 hc
  | uncreated hdel _ hins hc' =>
    rw [hdelSteps] at hdel
    obtain ⟨rfl, rfl, -⟩ := hdel.of_nil
    exact .inr ⟨_, hins, iff_of_false Bool.false_ne_true hc'⟩
  | done _ hdel _ hins hc' =>
    rw [hdelSteps] at hdel
    obtain ⟨rfl, rfl, -⟩ := hdel.of_nil
    exact .inr ⟨_, hins, iff_of_true rfl hc'⟩

/-- A run that only inserts asks for nothing but what differs in the source, and where the
    destination holds the key, it has changed and the call fails. -/
theorem RunEnds.asks {stops readable : Prop} {source destination : String} {o : Options}
    {s g : Graph} {t t' : Tenant} {sent : List (Mutation × Bool)} {out : Except SyncFailure Report}
    (h : RunEnds stops (Answer stops) readable source destination o s g t sent t' out)
    (hg : t.graph = g) (hd : g.UniqueIds) (ho : o.insertOnly = true) {x : Mutation × Bool}
    (hx : x ∈ sent) :
    ∃ e ∈ s, x.1 = .create e ∧ (g.Holds e.key → g.changes e = true ∧ x.2 = false) := by
  subst hg
  obtain ⟨rfl, -, -⟩ | ⟨_, hins, -⟩ := h.of_insertOnly ho
  · exact nomatch hx
  -- A dry run does not come to the point of asking.
  by_cases hdry : o.dryRun = true
  · rw [Options.insertionSteps, Options.steps, if_pos hdry] at hins
    obtain ⟨rfl, -, -⟩ := hins.of_nil
    exact nomatch hx
  rw [Options.insertionSteps, Options.steps, if_neg hdry] at hins
  obtain ⟨m, ok⟩ := x
  obtain ⟨e, he, rfl⟩ := List.mem_map.mp (hins.sent_prefix.subset (List.mem_map_of_mem hx))
  obtain ⟨hes, hkept⟩ := (mem_insertions_iff hd).mp ((Operation.mem_plan_iff _).mp he)
  refine ⟨e, hes, rfl, fun hheld => ⟨?_, hins.refused_of_holds hheld hx⟩⟩
  -- What the destination neither keeps nor holds in another form, it does not hold.
  by_contra hc
  exact not_holds_of_not_keeps hkept (by simpa using hc) hheld

/-- Next to something that changed, a run that only inserts does not succeed. -/
theorem RunEnds.fails_of_changes {stops readable : Prop} {source destination : String} {o : Options}
    {s g : Graph} {t t' : Tenant} {sent : List (Mutation × Bool)} {out : Except SyncFailure Report}
    (h : RunEnds stops (Answer stops) readable source destination o s g t sent t' out)
    (hg : t.graph = g) (hd : g.UniqueIds) (ho : o.insertOnly = true) (hdry : o.dryRun = false)
    {e : Entity} (he : e ∈ s) (hc : g.changes e = true) :
    out.isOk = false ∧
      (o.mode = .collectErrors → ¬ stops → readable → (.create e, false) ∈ sent) := by
  have hplanned : Mutation.create e ∈ Operation.create.mutations (insertions s g) :=
    List.mem_map_of_mem ((Operation.mem_plan_iff _).mpr
      ((mem_insertions_iff hd).mpr ⟨he, not_keeps_of_changes hd hc⟩))
  have hheld : g.Holds e.key := by
    obtain ⟨y, hy, hkey, -⟩ := changes_iff.mp hc
    exact ⟨y, hy, hkey⟩
  -- Whenever it is asked for, it is refused.
  have hrefused : ∀ ok, (.create e, ok) ∈ sent → ok = false := by
    intro ok hsent
    obtain ⟨e', -, heq, himp⟩ := h.asks hg hd ho hsent
    obtain rfl := Mutation.create.inj heq
    exact (himp hheld).2
  obtain ⟨rfl, hbad, hout⟩ | ⟨ending, hins, hok⟩ := h.of_insertOnly ho
  · exact ⟨hout, fun _ hstop hread => absurd hread (hbad.resolve_left hstop)⟩
  simp only [Options.insertionSteps, Options.steps, hdry, Bool.false_eq_true, if_false] at hins
  constructor
  -- Success would mean that the creation succeeded; and who collects failures comes to it.
  · by_contra hsuccess
    have hcomplete := hok.mp (by simpa using hsuccess)
    rw [← hins.successes_eq hcomplete] at hplanned
    obtain ⟨⟨m, ok⟩, hsent, rfl⟩ := List.mem_map.mp hplanned
    obtain ⟨hsent, htrue⟩ := List.mem_filter.mp hsent
    exact absurd (hrefused ok hsent) (by simpa using htrue)
  · intro hmode hstop _
    rw [← hins.sent_eq_of_collectErrors hstop hmode] at hplanned
    obtain ⟨⟨m, ok⟩, hsent, rfl⟩ := List.mem_map.mp hplanned
    obtain rfl := hrefused ok hsent
    exact hsent

namespace Tenant

/-- If identifiers are unique in the destination, a run that only inserts calls for nothing but
    creations of entities of the source.  If it calls for one that the destination holds under the
    same key, that has changed and the call fails.  So if nothing changed, all calls are for what is
    missing.  If something did, the run does not succeed, and if it collects its failures and
    nothing else disturbs it, it does ask for that. -/
theorem insertOnly_calls {s d : Tenant} (hd : d.graph.UniqueIds)
    {o : Options} (ho : o.insertOnly = true) (hdry : o.dryRun = false) (token : CancelToken)
    (clock : Clock) :
    let run := s.sync d o token clock
    (∀ x ∈ run.2.mutations, ∃ e ∈ s.graph, x.1 = .create e ∧
      (d.graph.Holds e.key → d.graph.changes e = true ∧ x.2 = false)) ∧
    ((∀ e ∈ s.graph, d.graph.changes e = false) →
      ∀ x ∈ run.2.mutations, ∃ e ∈ s.graph, x.1 = .create e ∧ ¬ d.graph.Holds e.key) ∧
    ∀ e ∈ s.graph, d.graph.changes e = true → run.1.isOk = false ∧
      (o.mode = .collectErrors → token = .fresh → (∀ k, s.Readable k) → (∀ k, d.Readable k) →
        (.create e, false) ∈ run.2.mutations) := by
  intro run
  -- What is asked for holds under any token; only the last part needs a fresh one.
  obtain ⟨-, _, ⟨n, rfl⟩, hends⟩ := sync_ends_readable s d o (.any token) clock
  have hasks : ∀ x ∈ run.2.mutations, ∃ e ∈ s.graph, x.1 = .create e ∧
      (d.graph.Holds e.key → d.graph.changes e = true ∧ x.2 = false) :=
    fun x hx => hends.asks rfl hd ho hx
  refine ⟨hasks, fun hsame x hx => ?_, fun e he hc => ⟨?_, ?_⟩⟩
  · obtain ⟨e, he, heq, himp⟩ := hasks x hx
    refine ⟨e, he, heq, fun hheld => ?_⟩
    rw [hsame e he] at himp
    exact nomatch (himp hheld).1
  · exact (hends.fails_of_changes rfl hd ho hdry he hc).1
  · rintro hmode rfl hsread hdread
    obtain ⟨-, _, ⟨n, rfl⟩, hends⟩ := sync_ends_readable s d o .never clock
    exact (hends.fails_of_changes rfl hd ho hdry he hc).2 hmode id ⟨hsread, hdread⟩

/-- The destination has the type, and a run that only inserts calls for its object alone. -/
theorem missing_object_is_asked_for :
    let s := withType "group" "src"
    let d := withBareType "group" "dst"
    d.graph.UniqueIds ∧
      ∀ x ∈ (s.sync d { insertOnly := true } .fresh (.frozen 0)).2.mutations,
        ∃ e ∈ s.graph, x.1 = .create e ∧ ¬ d.graph.Holds e.key := by
  have hd := (withBareType_wellFormed "group" "dst").unique_ids
  have hsame : ∀ e ∈ (withType "group" "src").graph,
      (withBareType "group" "dst").graph.changes e = false := by
    rw [forall_mem_iff]
    decide
  exact ⟨hd, (insertOnly_calls hd rfl rfl .fresh (.frozen 0)).2.1 hsame⟩

/-- The destination has the type under an old name, and a run that only inserts calls for it
    nevertheless. -/
theorem changed_type_is_asked_for :
    let s := withBareType "group" "src"
    let d := withBareType "team" "dst"
    s.graph.UniqueIds ∧ d.graph.UniqueIds ∧
      ∃ x ∈ (s.sync d { insertOnly := true } .fresh (.frozen 0)).2.mutations,
        ∃ e, x.1 = .create e ∧ d.graph.Holds e.key :=
  ⟨(withBareType_wellFormed _ _).unique_ids, (withBareType_wellFormed _ _).unique_ids,
    (.create (.objectType ⟨numbered 1, "group"⟩), false), by decide +kernel,
    .objectType ⟨numbered 1, "group"⟩, rfl, by decide⟩

end Tenant

end TenantSync
