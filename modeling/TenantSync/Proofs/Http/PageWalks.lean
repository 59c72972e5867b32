import TenantSync.Paging.Walk
import TenantSync.Proofs.Http.Retrying

/-!
# The two walks through a collection

A client walks through the collections of types by itself (`Service.getAll`); the engine walks
through those of objects and edges (`collectPages`).  Over one collection the two stay in step: the
same requests, the same replies taken, the same waits and readings of the clock, and in the end the
same entities or the same cause of failure.  Neither is ever ended by the limit on the number of
pages, because a page that is read takes an answer that was prepared.
-/

namespace TenantSync

open Http

variable {α : Type}

namespace Http

/-! ## A page takes an answer -/

namespace Service

variable {s : Service} {url : Url} {σ τ : Session Connection}

/-- How many answers the host of an address has left. -/
def answersLeft (url : Url) (c : Connection) : Nat := (c.network.host url).answers.length

/-- Whatever is heard, no answers are added. -/
theorem Takes.answersLeft_le {heard : Except LinkFault Response} (h : Takes url heard σ τ) :
    answersLeft url τ.world ≤ answersLeft url σ.world := by
  rw [answersLeft, answersLeft, h.answers]
  split
  · exact List.length_tail ▸ Nat.sub_le _ _
  · exact Nat.le_refl _

/-- A reply that is a success was prepared. -/
theorem Takes.answersLeft_lt {r : Response} (h : Takes url (.ok r) σ τ)
    (hr : r.status.isSuccess = true) :
    answersLeft url τ.world < answersLeft url σ.world := by
  have hheard := h.heard
  rw [Network.hears] at hheard
  rw [answersLeft, answersLeft, h.answers]
  -- Where something is heard the network is up, and the answer was the host's next one.
  cases hup : σ.world.network.up with
  | false =>
    rw [hup] at hheard
    cases hheard
  | true =>
    rw [hup] at hheard
    simp only [if_true] at hheard ⊢
    -- A host without prepared answers has no success to give.
    cases hanswers : (σ.world.network.host url).answers with
    | nil =>
      rw [hanswers] at hheard
      cases hheard
      cases hr
    | cons reply rest => exact Nat.lt_succ_self _

/-- Waiting for another attempt leaves the connection alone. -/
theorem waitToRetry_world (s : Service) (url : Url) (i : Nat) (heard : Except LinkFault Response)
    (σ : Session Connection) : ((s.waitToRetry url i heard).run σ).2.world = σ.world := by
  rw [run_waitToRetry]
  dsimp only
  split <;> rfl

/-- How a read succeeds: with the reply to its first attempt, or later. -/
theorem readFrom_eq_ok {i : Nat} {r : Response} (h : (s.readFrom url i).run σ = (.ok r, τ)) :
    Takes url (.ok r) σ τ ∨
      i < s.resilience.retry.maxAttempts ∧ ∃ heard ρ ρ', Takes url heard σ ρ ∧
        ρ'.world = ρ.world ∧ (s.readFrom url (i + 1)).run ρ' = (.ok r, τ) := by
  rcases hask : (s.ask url i).run σ with ⟨f | heard, ρ⟩
  case error =>
    rw [readFrom_of_error hask] at h
    cases h
  case ok =>
    -- The reply is the one returned, unless it is worth another attempt and one is left.
    by_cases hagain : s.resilience.retry.Repeats heard ∧ i < s.resilience.retry.maxAttempts
    · have hworld := s.waitToRetry_world url i heard ρ
      rw [readFrom_of_repeated hask hagain.1 hagain.2, Call.run_bind] at h
      rcases hwait : (s.waitToRetry url i heard).run ρ with ⟨f | _, ρ'⟩ <;> rw [hwait] at h hworld
      case error => cases h
      case ok => exact .inr ⟨hagain.2, heard, ρ, ρ', ask_takes hask, hworld, h⟩
    · rw [readFrom_of_settled hask fun hr => Nat.le_of_not_lt fun hi => hagain ⟨hr, hi⟩] at h
      cases heard with
      | error f => cases h
      | ok r' =>
        cases h
        exact .inl (ask_takes hask)

/-- A read that succeeds has taken an answer that was prepared. -/
theorem answersLeft_readFrom (left : Nat) {i : Nat}
    (hleft : left = s.resilience.retry.maxAttempts - i) {r : Response}
    (h : (s.readFrom url i).run σ = (.ok r, τ)) (hr : r.status.isSuccess = true) :
    answersLeft url τ.world < answersLeft url σ.world := by
  -- By induction on the attempts that are left; the last one takes an answer in any case.
  induction left generalizing i σ with
  | zero =>
    obtain htakes | ⟨hi, -⟩ := readFrom_eq_ok h
    · exact htakes.answersLeft_lt hr
    · omega
  | succ left ih =>
    obtain htakes | ⟨hi, heard, ρ, ρ', htakes, hworld, hrest⟩ := readFrom_eq_ok h
    · exact htakes.answersLeft_lt hr
    · have hlt := ih (by omega) hrest
      rw [hworld] at hlt
      exact Nat.lt_of_lt_of_le hlt htakes.answersLeft_le

/-- An answer that is no success always makes the same failure. -/
theorem exists_checkStatus_eq_error (s : Service) (method : Method) (url : Url) {r : Response}
    (hr : ¬ r.status.isSuccess = true) :
    ∃ f, ∀ σ, (s.checkStatus method url r).run σ = (.error f, σ) := by
  rw [checkStatus, if_neg hr]
  split <;> split <;> exact ⟨_, fun _ => rfl⟩

/-- A page that was read has taken an answer. -/
theorem answersLeft_getPage {collection : String} {d : Json.Decoder α} {cursor : Cursor}
    {page : Page α} (h : (s.getPage collection d cursor).run σ = (.ok page, τ)) :
    answersLeft s.base τ.world < answersLeft s.base σ.world := by
  rw [getPage, Call.run_bind] at h
  rcases hread : (s.getWithRetry (s.pageUrl collection cursor)).run σ with ⟨f | r, ρ⟩ <;>
    rw [hread] at h
  case error => cases h
  case ok =>
    dsimp only at h
    rw [Call.run_bind] at h
    by_cases hr : r.status.isSuccess = true
    · have hlt := answersLeft_readFrom _ rfl hread hr
      rw [checkStatus, if_pos hr, Call.run_pure] at h
      -- What is left of the page is pure.
      dsimp only at h
      rw [Call.run_within, Call.run_ofExcept] at h
      have hτ : ρ = τ := congrArg Prod.snd h
      rw [← hτ]
      exact hlt
    · obtain ⟨f, hf⟩ := s.exists_checkStatus_eq_error .get (s.pageUrl collection cursor) hr
      rw [hf] at h
      cases h

/-- The bound for walks is above the number of answers that are left. -/
theorem answersLeft_lt_pageBound (c : Connection) : answersLeft s.base c < pageBound c :=
  Nat.lt_succ_of_le Network.length_answers_le_prepared

/-! ## No limit ends a walk -/

section
variable (k : Kind) (collection : String) (d : Json.Decoder α)

/-- The client's walk is the same under all limits beyond the answers that are left. -/
theorem getRest_of_answersLeft {bound bound' : Nat} (h : answersLeft s.base σ.world < bound)
    (h' : answersLeft s.base σ.world < bound') (cursor : Cursor) (trail : Trail) (done : List α) :
    (s.getRest collection d bound cursor trail done).run σ =
      (s.getRest collection d bound' cursor trail done).run σ := by
  -- Each page takes an answer, so the answers run out before either limit does.
  induction bound generalizing bound' cursor trail done σ with
  | zero => exact absurd h (Nat.not_lt_zero _)
  | succ bound ih =>
    obtain ⟨bound', rfl⟩ := Nat.exists_eq_add_one.mpr (Nat.zero_lt_of_lt h')
    rw [getRest, getRest, Call.run_bind, Call.run_bind]
    rcases hpage : (s.getPage collection d cursor).run σ with ⟨f | page, τ⟩
    case error => rfl
    case ok =>
      have hlt := answersLeft_getPage hpage
      dsimp only
      split
      · rw [Call.run_bind, Call.run_bind, Call.run_within]
        cases trail.advance page.next with
        | error fault => rfl
        | ok trail => exact ih (σ := τ) (by omega) (by omega) _ _ _
      · rfl

/-- The engine's walk is the same under all limits beyond the answers that are left. -/
theorem walkPages_of_answersLeft {bound bound' : Nat} (h : answersLeft s.base σ.world < bound)
    (h' : answersLeft s.base σ.world < bound') (cursor : Cursor) (trail : Trail) (done : List α)
    (pages : Nat) :
    (walkPages k (s.getPage collection d) bound cursor trail done pages).run σ =
      (walkPages k (s.getPage collection d) bound' cursor trail done pages).run σ := by
  -- Each page takes an answer, so the answers run out before either limit does.
  induction bound generalizing bound' cursor trail done pages σ with
  | zero => exact absurd h (Nat.not_lt_zero _)
  | succ bound ih =>
    obtain ⟨bound', rfl⟩ := Nat.exists_eq_add_one.mpr (Nat.zero_lt_of_lt h')
    rw [walkPages, walkPages, Call.run_bind, Call.run_bind, Call.run_within]
    rcases hpage : (s.getPage collection d cursor).run σ with ⟨f | page, τ⟩
    case error => rfl
    case ok =>
      have hlt := answersLeft_getPage hpage
      dsimp only [Except.mapError]
      split
      · rw [Call.run_bind, Call.run_bind, Call.run_within]
        cases trail.advance page.next with
        | error fault => rfl
        | ok trail => exact ih (σ := τ) (by omega) (by omega) _ _ _ _
      · rfl

/-! ## The walks in step -/

/-- Two ends of a walk: the same is left of the world, the waits and the clock, and the outcomes are
    the same or failures with the same cause. -/
structure InStep (a b : Except Fault (List α) × Session Connection) : Prop where
  world : a.2.world = b.2.world
  waits : a.2.waits = b.2.waits
  clock : a.2.clock = b.2.clock
  outcome : a.1.mapError Failure.cause = b.1.mapError Failure.cause

/-- Runs in step return the same entities, if they return any. -/
theorem InStep.ok_iff {a b : Except Fault (List α) × Session Connection} (h : InStep a b)
    (es : List α) : a.1 = .ok es ↔ b.1 = .ok es := by
  have mapError_iff : ∀ out : Except Fault (List α),
      out.mapError Failure.cause = .ok es ↔ out = .ok es := by
    intro out
    cases out <;> dsimp only [Except.mapError] <;> simp
  rw [← mapError_iff, h.outcome, mapError_iff]

/-- From page to page both walks read the same, see the same cursors and end alike. -/
theorem walkPages_inStep (bound : Nat) (cursor : Cursor) (trail : Trail) (done : List α)
    (pages : Nat) (σ : Session Connection) :
    InStep ((walkPages k (s.getPage collection d) bound cursor trail done pages).run σ)
      ((s.getRest collection d bound cursor trail done).run σ) := by
  induction bound generalizing cursor trail done pages σ with
  | zero => exact ⟨rfl, rfl, rfl, rfl⟩
  | succ bound ih =>
    rw [walkPages, getRest, Call.run_bind, Call.run_bind, Call.run_within]
    rcases (s.getPage collection d cursor).run σ with ⟨f | page, τ⟩
    case error => exact ⟨rfl, rfl, rfl, rfl⟩
    case ok =>
      dsimp only [Except.mapError]
      split
      · rw [Call.run_bind, Call.run_bind, Call.run_within, Call.run_within]
        cases trail.advance page.next with
        | error fault => exact ⟨rfl, rfl, rfl, rfl⟩
        | ok trail => exact ih _ _ _ _ _
      · -- The engine writes a line about its walk, which changes neither.
        exact ⟨rfl, rfl, rfl, rfl⟩

end

/-- Over any collection, under any settings, with any replies and whenever the run is told to stop:
    the client's walk and the engine's walk by the same client leave the same network behind, which
    has received the same requests and given the same replies, and they end with the same entities
    or fail from the same cause.  So they do without a limit on the number of pages. -/
theorem page_walks_agree (s : Service) (k : Kind) (collection : String) (d : Json.Decoder α)
    (σ : Session Connection) :
    let all := (s.getAll collection d).run σ
    let paged := (collectPages pageBound k (s.getPage collection d)).run σ
    InStep paged all ∧ (∀ es, paged.1 = .ok es ↔ all.1 = .ok es) ∧
      ∀ bound, pageBound σ.world ≤ bound →
        (s.getRest collection d bound .begin .start []).run σ = all ∧
        (walkPages k (s.getPage collection d) bound .begin .start [] 0).run σ = paged := by
  intro all paged
  have hstep : InStep paged all := walkPages_inStep k collection d _ _ _ _ _ σ
  have hlt : answersLeft s.base σ.world < pageBound σ.world := answersLeft_lt_pageBound _
  refine ⟨hstep, hstep.ok_iff, fun bound hbound => ⟨?_, ?_⟩⟩
  · exact getRest_of_answersLeft collection d (Nat.lt_of_lt_of_le hlt hbound) hlt _ _ _
  · exact walkPages_of_answersLeft k collection d (Nat.lt_of_lt_of_le hlt hbound) hlt _ _ _ _

end Service

end Http

end TenantSync
