import TenantSync.Proofs.Sync.Cut

/-!
# Cancelled runs

All steps of a run are clean cuts (`carriedOut_cut`), so a run that is cancelled after an event
keeps what happened by then and adds nothing (`synchronize_cut`).  That is said of the same run
over marked clients, which does not differ from the run as it is (`synchronize_echo`).  The reports
of two runs differ in how long the runs took, and in nothing else (`Report.undated`).
-/

namespace TenantSync

variable {σ : Type} {books : List (Mutation × Bool) → σ → Prop} {cut : Option Nat} {k : Clock}

/-- The part of a run that cancelling can cut off is cut off cleanly. -/
theorem carriedOut_cut {source source' destination destination' : Client σ}
    (hs : source.MarksLists books k source') (hd : destination.Marks books k destination')
    (o : Options) :
    CleanCut books cut k (carriedOut source destination o)
      (carriedOut source' destination' o) :=
  StepRelation.carriedOut (Q := CleanCut.steps books cut k) hs.related hd.related o

/-! ## Reports -/

/-- A report but for how long the run took. -/
def Report.undated (report : Report) : Report := { report with elapsed := 0 }

/-- An event but for how long the run took. -/
def Event.undated : Event → Event
  | .finished report => .finished report.undated
  | e => e

/-- Two runs that came to the same, but for how long they took. -/
structure Alike (out out' : Except SyncFailure Report × Run σ) : Prop where
  result : out'.1.map Report.undated = out.1.map Report.undated
  events : (traceEvents out'.2.trace).map Event.undated =
    (traceEvents out.2.trace).map Event.undated
  mutations : out'.2.mutations = out.2.mutations
  world : out'.2.world = out.2.world

/-- A run that failed has no report. -/
theorem Alike.of_error (f : SyncFailure) (r : Run σ) : Alike (.error f, r) (.error f, r.echo cut k) where
  result := rfl
  events := congrArg _ (traceEvents_unmarkedTrace _)
  mutations := traceMutations_unmarkedTrace _
  world := rfl

/-- Reporting only says how long the run took. -/
theorem conclude_undated (started : Int) (report : Report) (r : Run σ) :
    ((conclude started report).run r).1.map Report.undated = .ok report.undated := rfl

/-- Concluding a run changes nothing. -/
theorem conclude_world (started : Int) (report : Report) (r : Run σ) :
    ((conclude started report).run r).2.world = r.world := rfl

/-- Reporting adds an event and a line to the trace. -/
theorem conclude_trace (started : Int) (report : Report) (r : Run σ) :
    ∃ elapsed line, line ≠ callLine ∧ ((conclude started report).run r).2.trace =
      r.trace ++ [.event (.finished { report with elapsed }), .line line] :=
  ⟨_, _, ne_callLine _ _ (by decide), List.append_assoc ..⟩

/-- A live run stays live while it concludes, and its books stay as they are. -/
theorem Run.Live.conclude {r : Run σ} (h : r.Live books) (started : Int) (report : Report) :
    ((conclude started report).run r).2.Live books :=
  Run.Live.write (Run.Live.tell (r := r.tick) ⟨h.token, h.booked⟩ _) _

/-- Concluding neither calls a client nor changes anything, so a quiet trace stays quiet. -/
theorem Quiet.conclude {r : Run σ} (h : Quiet cut r.trace) (started : Int) (report : Report) :
    Quiet cut ((conclude started report).run r).2.trace := by
  obtain ⟨elapsed, line, hline, htrace⟩ := conclude_trace started report r
  rw [htrace]
  exact h.append (by simp [Item.Idle, hline])

/-- Who reports comes to the same at any time. -/
theorem conclude_alike (started started' : Int) (report : Report) (r : Run σ) :
    Alike ((conclude started report).run r) ((conclude started' report).run (r.echo cut k)) := by
  -- The elapsed times differ, and with them the lines, but neither is compared.
  obtain ⟨elapsed, line, -, htrace⟩ := conclude_trace started report r
  obtain ⟨elapsed', line', -, htrace'⟩ := conclude_trace started' report (r.echo cut k)
  refine ⟨?_, ?_, ?_, ?_⟩
  · rw [conclude_undated, conclude_undated]
  · rw [htrace, htrace', traceEvents_append, traceEvents_append, Run.echo,
      traceEvents_unmarkedTrace, List.map_append, List.map_append]
    rfl
  · rw [Run.mutations, Run.mutations, htrace, htrace', traceMutations_append,
      traceMutations_append, Run.echo, traceMutations_unmarkedTrace]
    rfl
  · rw [conclude_world, conclude_world]
    rfl

/-- The report is the same for both runs if their clocks are. -/
theorem conclude_echo (started : Int) (report : Report) (r : Run σ) :
    (conclude started report).run (r.echo cut r.clock) =
      (((conclude started report).run r).1,
        ((conclude started report).run r).2.echo cut r.clock.tick) := by
  have htick : (r.echo cut r.clock).tick = r.tick.echo cut r.clock.tick := rfl
  rw [run_conclude, run_conclude, htick]
  dsimp only
  rw [Run.echo_tell, Run.echo_write _ (ne_callLine _ _ (by decide))]
  rfl

/-! ## Runs -/

section
variable {source source' destination destination' : Client σ} {w : σ}

/-- A run starts live, with empty books. -/
theorem Run.Live.start (hw : books [] w) (clock : Clock) :
    (Run.start w .fresh clock).tick.Live books :=
  ⟨rfl, hw⟩

/-- An empty trace is quiet. -/
theorem Quiet.nil (cut : Option Nat) : Quiet cut [] := by
  intro n _ x hx
  exact absurd ((afterEvent_suffix n []).subset hx) List.not_mem_nil

/-- The same run over unmarked clients, if nobody cancels it either. -/
theorem synchronize_echo (hw : books [] w) (clock : Clock)
    (hs : source.MarksLists books clock.tick source')
    (hd : destination.Marks books clock.tick destination') (o : Options) :
    let full := (synchronize source destination o).run (.start w .fresh clock)
    (synchronize source' destination' o).run (.start w .fresh clock) =
        (full.1, full.2.echo none full.2.clock) := by
  intro full
  have hcut : CleanCut books none clock.tick _ _ := carriedOut_cut hs hd o
  obtain ⟨-, hclock, -⟩ := hcut.live _ (Run.Live.start hw clock)
  have hfull : full = _ := run_synchronize_eq_conclude source destination o _
  rw [run_synchronize_eq_conclude, hfull]
  -- A run that nobody cancels comes to no halt.
  rcases hcut.echo _ (Run.Live.start hw clock) (Quiet.nil _) with ⟨hrun, -⟩ | ⟨-, n, hn, -⟩
  case inr => exact nomatch hn
  have hstart : (Run.start w .fresh clock).tick.echo none clock.tick =
      (Run.start w .fresh clock).tick := rfl
  rw [hstart] at hrun
  rw [hrun]
  rcases hout : (carriedOut source destination o).run (Run.start w .fresh clock).tick
    with ⟨f | report, r⟩ <;> rw [hout] at hclock <;> replace hclock : r.clock = clock.tick := hclock
  · rw [← hclock]
  · rw [← hclock]
    exact conclude_echo _ report r

/-- The books of a run that nobody cancels are kept. -/
theorem synchronize_live (hw : books [] w) (clock : Clock)
    (hs : source.MarksLists books k source') (hd : destination.Marks books k destination')
    (o : Options) :
    ((synchronize source destination o).run (.start w .fresh clock)).2.Live books := by
  have hcut : CleanCut books none k _ _ := carriedOut_cut hs hd o
  have hlive := (hcut.live _ (Run.Live.start hw clock)).1
  rw [run_synchronize_eq_conclude]
  rcases hout : (carriedOut source destination o).run (Run.start w .fresh clock).tick
    with ⟨f | report, r⟩ <;> rw [hout] at hlive <;> dsimp only
  · exact hlive
  · exact hlive.conclude _ _

/-- How a run that is cancelled after an event fares next to one that is not: it does the same, or
    it stands still where the other one has its first call after the event. -/
theorem synchronize_cut_cases (hw : books [] w) (clock clock' : Clock)
    (hs : source.MarksLists books clock'.tick source')
    (hd : destination.Marks books clock'.tick destination') (o : Options) (n : Nat) :
    let full := (synchronize source destination o).run (.start w .fresh clock)
    let cut := (synchronize source' destination' o).run (.start w (.afterEvents n) clock')
    (Alike full cut ∧ Quiet (some n) full.2.trace) ∨
      ((∃ f, cut.1 = .error f) ∧ Halted books (some n) full.2.trace cut.2) := by
  intro full cut
  have hcut : CleanCut books (some n) clock'.tick _ _ := carriedOut_cut hs hd o
  have hfull : full = _ := run_synchronize_eq_conclude source destination o _
  have hcut' : cut = _ := run_synchronize_eq_conclude source' destination' o _
  have hstart : (Run.start w .fresh clock).tick.echo (some n) clock'.tick =
      (Run.start w (.afterEvents n) clock').tick := by
    cases n <;> rfl
  have hecho := hcut.echo _ (Run.Live.start hw clock) (Quiet.nil _)
  rw [hstart] at hecho
  rw [hfull, hcut']
  rcases hecho with ⟨hrun, hquiet⟩ | ⟨⟨f', hf'⟩, hhalt⟩
  · -- Both have done the same, so both report or neither does.
    rw [hrun]
    rcases hout : (carriedOut source destination o).run (Run.start w .fresh clock).tick
      with ⟨f | report, r⟩ <;> rw [hout] at hquiet <;> dsimp only
    · exact .inl ⟨.of_error f r, hquiet⟩
    · exact .inl ⟨conclude_alike _ _ report r, hquiet.conclude _ _⟩
  · -- The second run has failed; the first may still report.
    rcases hrun : (carriedOut source' destination' o).run (Run.start w (.afterEvents n) clock').tick
      with ⟨f | report, r'⟩ <;> rw [hrun] at hf' hhalt
    case ok => exact nomatch hf'
    rcases hout : (carriedOut source destination o).run (Run.start w .fresh clock).tick
      with ⟨f' | report, r⟩ <;> rw [hout] at hhalt <;> dsimp only
    · exact .inr ⟨⟨f, rfl⟩, hhalt⟩
    · obtain ⟨elapsed, line, -, htrace⟩ :=
        conclude_trace (Run.start w .fresh clock).clock.now report r
      exact .inr ⟨⟨f, rfl⟩, hhalt.mono ⟨_, htrace.symm⟩⟩

/-- A run that is cancelled after an event keeps what happened by then.  Nothing is sent any more,
    and it ends as the other run does unless that one makes a call after the event. -/
theorem synchronize_cut (hw : books [] w) (clock clock' : Clock)
    (hs : source.MarksLists books clock'.tick source')
    (hd : destination.Marks books clock'.tick destination') (o : Options) (n : Nat) :
    let full := (synchronize source destination o).run (.start w .fresh clock)
    let cut := (synchronize source' destination' o).run (.start w (.afterEvents n) clock')
    ((traceEvents cut.2.trace).take n).map Event.undated =
        ((traceEvents full.2.trace).take n).map Event.undated ∧
      cut.2.mutations = traceMutations (throughEvent n full.2.trace) ∧
      books cut.2.mutations cut.2.world ∧
      (.line callLine ∉ afterEvent n full.2.trace →
        cut.1.map Report.undated = full.1.map Report.undated) ∧
      (.line callLine ∈ afterEvent n full.2.trace → ∃ f, cut.1 = .error f) := by
  intro full cut
  obtain ⟨halike, hquiet⟩ |
    ⟨herror, n', hn, common, rest, htrace, hcall, hle, hquiet, hcut, hbooks⟩ :=
    synchronize_cut_cases hw clock clock' hs hd o n
  · refine ⟨?_, ?_, ?_, fun _ => halike.result, fun h => ?_⟩
    · rw [List.map_take, halike.events, List.map_take]
    · exact halike.mutations.trans hquiet.traceMutations_eq
    · rw [halike.mutations, halike.world]
      exact (synchronize_live hw clock hs hd o).booked
    · exact absurd rfl (hquiet n rfl _ h).1
  · -- The second run has what is common to both, and all mutations in it were sent by the event.
    obtain rfl : n = n' := Option.some.inj hn
    have hsent : cut.2.mutations = traceMutations common := by
      rw [Run.mutations, hcut, traceMutations_unmarkedTrace]
    refine ⟨?_, ?_, ?_, fun h => ?_, fun _ => herror⟩
    · rw [hcut, htrace, traceEvents_unmarkedTrace, traceEvents_append,
        List.take_append_of_le_length hle]
    · rw [hsent, htrace, throughEvent_append hle, hquiet.traceMutations_eq]
    · rw [hsent]
      exact hbooks
    · rw [htrace, afterEvent_append hle] at h
      exact absurd (List.mem_append_right _ hcall) h

end

end TenantSync
