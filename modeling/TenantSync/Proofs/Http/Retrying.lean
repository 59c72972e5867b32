import Mathlib.Data.ENat.Lattice
import TenantSync.Proofs.Http.Serving

/-!
# How often a read is repeated

A read hears one reply after another until a reply is not worth another attempt or no attempt is
left (`Course`).  `reads_within_budget` says so of every retry policy, every network and every
moment at which the run is told to stop: how many requests arrive, how long the client waits
between them, what it returns, and that nothing more is sent once an attempt is interrupted.
-/

namespace TenantSync.Http

open Network (asked unsigned asksForToken)

/-! ## The policy -/

namespace RetryPolicy

variable (p : RetryPolicy)

/-- What is heard is worth another attempt: there is no answer, or one with a status that is
    retried. -/
def Repeats : Except LinkFault Response → Prop
  | .ok r => p.retries r.status.code = true
  | .error _ => True

instance : DecidablePred p.Repeats
  | .ok r => inferInstanceAs (Decidable (p.retries r.status.code = true))
  | .error _ => inferInstanceAs (Decidable True)

/-- How long to wait after an attempt, in microseconds: as long as the answer asks for, up to a
    limit, and else as long as the attempt's number says. -/
def waitFor (attempt : Nat) (heard : Except LinkFault Response) : Nat :=
  match heard.toOption.bind Service.retryAfter? with
  | some wanted => min wanted p.maxDelay
  | none => p.backoff attempt * 1000

variable {hears : Nat → Option (Except LinkFault Response)}

/-- A reply is heard at a position that is not worth another attempt. -/
def Settles (hears : Nat → Option (Except LinkFault Response)) (i : Nat) : Prop :=
  ∃ heard, hears i = some heard ∧ ¬ p.Repeats heard

/-- The position of the first reply that is not worth another attempt, counted from one; infinite
    if there is none. -/
noncomputable def settledAt (hears : Nat → Option (Except LinkFault Response)) : ℕ∞ :=
  ⨅ (i : Nat) (_ : p.Settles hears i), ((i + 1 : Nat) : ℕ∞)

end RetryPolicy

/-! ## What a read hears -/

/-- What a read hears that may be repeated `left` times. -/
inductive Course (p : RetryPolicy) : Nat → (Nat → Option (Except LinkFault Response)) →
    List (Except LinkFault Response) → Prop where
  | last {left : Nat} {hears : Nat → Option (Except LinkFault Response)}
      {heard : Except LinkFault Response} :
      hears 0 = some heard → (p.Repeats heard → left = 0) → Course p left hears [heard]
  | again {left : Nat} {hears : Nat → Option (Except LinkFault Response)}
      {heard : Except LinkFault Response} {rest : List (Except LinkFault Response)} :
      hears 0 = some heard → p.Repeats heard → Course p left (fun i => hears (i + 1)) rest →
      Course p (left + 1) hears (heard :: rest)

namespace Course

variable {p : RetryPolicy} {left : Nat} {hears : Nat → Option (Except LinkFault Response)}
  {heard : List (Except LinkFault Response)}

/-- A read that comes to an end has heard something. -/
theorem ne_nil (h : Course p left hears heard) : heard ≠ [] := by
  cases h <;> exact List.cons_ne_nil _ _

/-- A read hears the replies in order. -/
theorem map_some (h : Course p left hears heard) :
    heard.map some = (List.range heard.length).map hears := by
  induction h with
  | last hfirst _ =>
    rw [List.map_singleton, ← hfirst]
    rfl
  | again hfirst _ _ ih =>
    -- What the rest hears is what is heard from the next reply on.
    rw [List.map_cons, ih, List.length_cons, List.range_succ_eq_map, List.map_cons, List.map_map,
      hfirst]
    rfl

/-- A read has heard no more than its attempts. -/
theorem length_le (h : Course p left hears heard) : heard.length ≤ left + 1 := by
  induction h with
  | last => exact Nat.le_add_left _ _
  | again _ _ _ ih => exact Nat.succ_le_succ ih

/-- A read does not go on behind a reply that settles it. -/
theorem length_le_of_settles (h : Course p left hears heard) {i : Nat}
    (hi : p.Settles hears i) : heard.length ≤ i + 1 := by
  induction h generalizing i with
  | last => exact Nat.le_add_left _ _
  | @again left hears heard rest hfirst hrepeats _ ih =>
    obtain ⟨reply, hreply, hsettled⟩ := hi
    cases i with
    -- => The first reply cannot settle the read, as it was worth another attempt.
    | zero =>
      rw [hfirst] at hreply
      cases hreply
      exact absurd hrepeats hsettled
    | succ i => exact Nat.succ_le_succ (ih ⟨reply, hreply, hsettled⟩)

/-- A read goes on until a reply settles it or nothing is left. -/
theorem ends (h : Course p left hears heard) :
    heard.length = left + 1 ∨ ∃ i, p.Settles hears i ∧ heard.length = i + 1 := by
  induction h with
  | @last left hears heard hfirst hleft =>
    -- The last reply is worth no other attempt, or there was none left.
    by_cases hrepeats : p.Repeats heard
    · exact .inl (by rw [hleft hrepeats]; rfl)
    · exact .inr ⟨0, ⟨heard, hfirst, hrepeats⟩, rfl⟩
  | again _ _ _ ih =>
    obtain hall | ⟨i, hsettles, hlength⟩ := ih
    · exact .inl (congrArg Nat.succ hall)
    · exact .inr ⟨i + 1, hsettles, congrArg Nat.succ hlength⟩

/-- It hears replies up to the first that is not worth another attempt, or as many as it has
    attempts. -/
theorem length_eq (h : Course p left hears heard) :
    (heard.length : ℕ∞) = min (p.settledAt hears) ((left + 1 : Nat) : ℕ∞) := by
  refine le_antisymm (le_min ?_ (Nat.cast_le.mpr h.length_le)) ?_
  · exact le_iInf₂ fun i hi => Nat.cast_le.mpr (h.length_le_of_settles hi)
  · obtain hall | ⟨i, hsettles, hlength⟩ := h.ends
    · rw [hall]
      exact min_le_right _ _
    · rw [hlength]
      exact (min_le_left _ _).trans (iInf₂_le i hsettles)

end Course

/-! ## Attempts -/

namespace Service

variable (s : Service) (url : Url)

/-- What a read returns that hears its last reply after a number of attempts. -/
def verdict (attempts : Nat) : Except LinkFault Response → Except Fault Response
  | .ok r => .ok r
  | .error f => .error ((Failure.of (.link url f)).within (.attempting url attempts))

/-- The request of an attempt. -/
def reading (token : String) : Request := ⟨.get, url, some token, .none⟩

/-- The line that announces an attempt. -/
def announce (attempt : Nat) : Call Connection Unit :=
  if s.resilience.logRequests then Call.log .debug .http s!"GET {url} (attempt {attempt})"
  else pure ()

/-- How an attempt begins: it comes by a token. -/
def obtain (attempt : Nat) : Call Connection String := do
  s.announce url attempt
  s.bearer

/-- What is said before another attempt. -/
def retryText (attempt : Nat) : Except LinkFault Response → String
  | .ok r => s!"GET {url} returned {r.status}, retrying in {s.waitAfter attempt r / 1000}ms"
  | .error _ =>
    s!"GET {url} failed: {LinkFault.headline url}, retrying in {s.usualWait attempt / 1000}ms"

/-- What lies between an attempt and another. -/
def waitToRetry (attempt : Nat) (heard : Except LinkFault Response) : Call Connection Unit := do
  Call.log .warn .http (s.retryText url attempt heard)
  pause (s.resilience.retry.waitFor attempt heard)

/-- A read from an attempt on. -/
def readFrom (attempt : Nat) : Call Connection Response :=
  s.getFrom url (s.resilience.retry.maxAttempts - attempt) attempt

variable {s url} {i : Nat} {σ τ : Session Connection} {heard : Except LinkFault Response}
  {f : Fault}

/-- An attempt gets a token and sends the request. -/
theorem ask_eq : s.ask url i =
    s.obtain url i >>= fun token => send (.requestCancelled url) (reading url token) := by
  rw [ask, obtain, announce]
  cases s.resilience.logRequests <;> rfl

/-- Without a token the attempt fails as getting the token did. -/
theorem run_ask_of_error (h : (s.obtain url i).run σ = (.error f, τ)) :
    (s.ask url i).run σ = (.error f, τ) := by
  rw [ask_eq, Call.run_bind, h]

/-- With a token the attempt hears what comes of the request. -/
theorem run_ask_of_ok {token : String} (h : (s.obtain url i).run σ = (.ok token, τ)) :
    (s.ask url i).run σ =
      let met := τ.world.network.meet τ.token.look.cancelled (reading url token)
      (met.1.heard (.requestCancelled url),
        { τ with
          world := { τ.world with network := met.2 }
          token := met.1.token τ.token }) := by
  rw [ask_eq, Call.run_bind, h]
  exact run_send_eq _ _ _

/-- After an answer the client waits as the answer and the policy say. -/
theorem waitFor_ok (r : Response) :
    s.resilience.retry.waitFor i (.ok r) = s.waitAfter i r := by
  rw [RetryPolicy.waitFor, waitAfter]
  show (match retryAfter? r with | some wanted => _ | none => _) = _
  cases retryAfter? r <;> rfl

/-- An attempt that fails ends the read there and then. -/
theorem readFrom_of_error (h : (s.ask url i).run σ = (.error f, τ)) :
    (s.readFrom url i).run σ = (.error f, τ) := by
  rw [readFrom]
  cases s.resilience.retry.maxAttempts - i with
  | zero => rw [getFrom, Call.run_bind, h]
  | succ left => rw [getFrom, Call.run_bind, h]

/-- A reply that is not worth another attempt, or the last one, decides the read. -/
theorem readFrom_of_settled (h : (s.ask url i).run σ = (.ok heard, τ))
    (hlast : s.resilience.retry.Repeats heard → s.resilience.retry.maxAttempts ≤ i) :
    (s.readFrom url i).run σ = (verdict url i heard, τ) := by
  rw [readFrom]
  -- Without attempts left the loop only passes its verdict; otherwise the reply must not be worth
  -- another.
  cases hleft : s.resilience.retry.maxAttempts - i with
  | zero =>
    rw [getFrom, Call.run_bind, h]
    cases heard <;> rfl
  | succ left =>
    have hsettled : ¬ s.resilience.retry.Repeats heard := fun hr => by
      have := hlast hr
      omega
    rw [getFrom, Call.run_bind, h]
    cases heard with
    | error f => exact absurd trivial hsettled
    | ok r =>
      have hstatus : ¬ s.resilience.retry.retries r.status.code = true := hsettled
      dsimp only
      rw [if_neg hstatus]
      rfl

/-- Any other reply is followed by a wait and the next attempt. -/
theorem readFrom_of_repeated (h : (s.ask url i).run σ = (.ok heard, τ))
    (hrepeats : s.resilience.retry.Repeats heard) (hi : i < s.resilience.retry.maxAttempts) :
    (s.readFrom url i).run σ =
      (s.waitToRetry url i heard >>= fun _ => s.readFrom url (i + 1)).run τ := by
  -- One attempt is left, so the loop is opened once more.
  have hleft : s.resilience.retry.maxAttempts - i =
      (s.resilience.retry.maxAttempts - (i + 1)) + 1 := by omega
  rw [readFrom, hleft, getFrom, Call.run_bind, h]
  cases heard with
  | error f => rfl
  | ok r =>
    have hstatus : s.resilience.retry.retries r.status.code = true := hrepeats
    dsimp only
    rw [if_pos hstatus, waitToRetry, waitFor_ok]
    rfl

/-- A client that is to wait writes a line, looks whether it is told to stop, and waits. -/
theorem run_waitToRetry :
    (s.waitToRetry url i heard).run σ =
      let line : LogLine := ⟨.warn, .http, s.retryText url i heard⟩
      let σ' : Session Connection :=
        { σ with log := σ.log ++ [line], token := (σ.token.afterLine line).look }
      if σ'.token.cancelled then (.error (Failure.of .waitCancelled), σ')
      else (.ok (),
        { σ' with waits := σ.waits ++ [s.resilience.retry.waitFor i heard] }) := by
  rw [waitToRetry, Call.run_bind, Call.run_log, pause]
  dsimp only
  rw [Call.run_bind, Call.run_cancelled]
  dsimp only
  split <;> rfl

/-- The announcement of an attempt takes nothing from the network. -/
theorem run_obtain (s : Service) (url : Url) (i : Nat) (σ : Session Connection) :
    ∃ σ' : Session Connection, σ'.world = σ.world ∧ σ'.waits = σ.waits ∧ σ'.clock = σ.clock ∧
      (σ.token.cancelled = true → σ'.token.cancelled = true) ∧
      (s.obtain url i).run σ = s.bearer.run σ' := by
  rw [obtain, announce]
  cases s.resilience.logRequests with
  | false => exact ⟨σ, rfl, rfl, rfl, fun hc => hc, rfl⟩
  | true =>
    obtain ⟨σ', hworld, hclock, hwaits, hcancelled, hrun⟩ :=
      run_log_bind .debug .http s!"GET {url} (attempt {i})" (fun _ => s.bearer) σ
    exact ⟨σ', hworld, hwaits, hclock, hcancelled, hrun⟩

/-- Getting a token takes no other answers and does not wait. -/
theorem obtain_spares (s : Service) (url : Url) (i : Nat) (σ : Session Connection) :
    σ.world.network.Spares ((s.obtain url i).run σ).2.world.network ∧
      ((s.obtain url i).run σ).2.waits = σ.waits := by
  obtain ⟨σ', hworld, hwaits, -, -, hrun⟩ := s.run_obtain url i σ
  rw [hrun, ← hworld, ← hwaits]
  exact s.bearer_spares σ'

/-- An attempt that hears something has taken a reply. -/
structure Takes (url : Url) (heard : Except LinkFault Response) (σ τ : Session Connection) :
    Prop where
  heard : σ.world.network.hears url 0 = some heard
  later : τ.world.network.hears url = fun k => σ.world.network.hears url (k + 1)
  up : τ.world.network.up = σ.world.network.up
  asked : asked τ.world.network = asked σ.world.network ++
    if σ.world.network.up then [⟨.get, url, none, .none⟩] else []
  answers : (τ.world.network.host url).answers = if σ.world.network.up
    then (σ.world.network.host url).answers.tail else (σ.world.network.host url).answers
  waits : τ.waits = σ.waits

/-- An attempt that hears something has taken just this from the host and has not waited. -/
theorem ask_takes (h : (s.ask url i).run σ = (.ok heard, τ)) : Takes url heard σ τ := by
  obtain ⟨hspares, hwaits⟩ := s.obtain_spares url i σ
  rcases hobtain : (s.obtain url i).run σ with ⟨f | token, ρ⟩ <;> rw [hobtain] at hspares hwaits
  case error =>
    rw [run_ask_of_error hobtain] at h
    cases h
  case ok =>
    rw [run_ask_of_ok hobtain] at h
    obtain ⟨hheard, rfl⟩ := Prod.ext_iff.mp h
    have htoken : asksForToken (reading url token) = false := rfl
    -- The request for a token before it spares the host's answers, so this one takes the first.
    obtain ⟨hfirst, hasked, hanswers⟩ := Network.meet_of_heard htoken hheard
    exact
      { heard := by rw [← hspares.hears]; exact hfirst
        later := funext fun k => by rw [← hspares.hears]; exact Network.hears_meet htoken hheard k
        up := Network.up_meet.trans hspares.up
        asked := by rw [← hspares.asked, ← hspares.up]; exact hasked
        answers := by rw [← hspares.answers, ← hspares.up]; exact hanswers
        waits := hwaits }

/-! ## Whole reads -/

section
variable (s : Service) (url : Url)

/-- An attempt is interrupted: there is no token, the run is found cancelled before the request is
    sent or while the host leaves the client waiting, or it is found cancelled when the client is
    to wait for another attempt. -/
inductive Interrupts (i : Nat) (σ : Session Connection) : Fault → Session Connection → Prop where
  | tokenless {f : Fault} {τ : Session Connection} :
      (s.obtain url i).run σ = (.error f, τ) → Interrupts i σ f τ
  | stopped {token : String} {ρ : Session Connection} {met : Fate × Network} :
      (s.obtain url i).run σ = (.ok token, ρ) →
      ρ.world.network.meet ρ.token.look.cancelled (reading url token) = met →
      met.1.Stops →
      Interrupts i σ (Failure.of (.requestCancelled url))
        { ρ with world := { ρ.world with network := met.2 }, token := met.1.token ρ.token }
  | waiting {heard : Except LinkFault Response} {ρ : Session Connection} {line : LogLine} :
      (s.ask url i).run σ = (.ok heard, ρ) → s.resilience.retry.Repeats heard →
      i < s.resilience.retry.maxAttempts →
      line = ⟨.warn, .http, s.retryText url i heard⟩ →
      (ρ.token.afterLine line).look.cancelled = true →
      Interrupts i σ (Failure.of .waitCancelled)
        { ρ with log := ρ.log ++ [line], token := (ρ.token.afterLine line).look }

/-- After an attempt comes another one. -/
def GoesOn (i : Nat) (σ τ : Session Connection) : Prop :=
  ∃ heard ρ, (s.ask url i).run σ = (.ok heard, ρ) ∧ s.resilience.retry.Repeats heard ∧
    i < s.resilience.retry.maxAttempts ∧ (s.waitToRetry url i heard).run ρ = (.ok (), τ)

/-- The attempts that a read comes to, from the first one on, and the surroundings in which each
    of them begins. -/
inductive ComesTo (σ : Session Connection) : Nat → Session Connection → Prop where
  | first : ComesTo σ 1 σ
  | next {i : Nat} {τ ρ : Session Connection} :
      ComesTo σ i τ → GoesOn s url i τ ρ → ComesTo σ (i + 1) ρ

end

/-- An interrupted attempt ends the read. -/
theorem Interrupts.run_readFrom (h : s.Interrupts url i σ f τ) :
    (s.readFrom url i).run σ = (.error f, τ) := by
  -- A read is interrupted before its request, during it, or while it waits for the next.
  cases h with
  | tokenless h => exact readFrom_of_error (run_ask_of_error h)
  | stopped hobtain hmet hstops =>
    refine readFrom_of_error ?_
    rw [run_ask_of_ok hobtain, hmet]
    dsimp only
    rw [hstops.heard]
  | waiting hask hrepeats hi hline hcancelled =>
    subst hline
    rw [readFrom_of_repeated hask hrepeats hi, Call.run_bind, run_waitToRetry]
    dsimp only
    rw [if_pos hcancelled]

/-- A read is what remains of it when it has come to an attempt. -/
theorem ComesTo.run_eq (h : s.ComesTo url σ i τ) :
    (s.getWithRetry url).run σ = (s.readFrom url i).run τ := by
  induction h with
  | first => rfl
  | next _ hgoes ih =>
    obtain ⟨heard, ρ', hask, hrepeats, hi, hwait⟩ := hgoes
    rw [ih, readFrom_of_repeated hask hrepeats hi, Call.run_bind, hwait]

/-- An attempt that is not interrupted hears something. -/
theorem exists_heard (h : ∀ f τ, ¬ s.Interrupts url i σ f τ) :
    ∃ heard τ, (s.ask url i).run σ = (.ok heard, τ) := by
  -- Without a token or under a cancelled one, the read would be interrupted.
  rcases hobtain : (s.obtain url i).run σ with ⟨f | token, ρ⟩
  case error => exact absurd (.tokenless hobtain) (h f ρ)
  case ok =>
    obtain ⟨heard, hheard⟩ := Fate.exists_heard_of_not_stops
      (fun hstops => h _ _ (.stopped hobtain rfl hstops)) (.requestCancelled url)
    rw [run_ask_of_ok hobtain]
    dsimp only
    rw [hheard]
    exact ⟨heard, _, rfl⟩

/-- Nor is the wait after it interrupted. -/
theorem exists_goesOn (h : ∀ f τ, ¬ s.Interrupts url i σ f τ)
    (hask : (s.ask url i).run σ = (.ok heard, τ)) (hrepeats : s.resilience.retry.Repeats heard)
    (hi : i < s.resilience.retry.maxAttempts) :
    ∃ ρ, (s.waitToRetry url i heard).run τ = (.ok (), ρ) ∧ ρ.world = τ.world ∧
      ρ.waits = τ.waits ++ [s.resilience.retry.waitFor i heard] := by
  rw [run_waitToRetry]
  dsimp only
  rw [if_neg fun hcancelled => h _ _ (.waiting hask hrepeats hi rfl hcancelled)]
  exact ⟨_, rfl, rfl, rfl⟩

/-- What a read does from an attempt on if none is interrupted that it comes to. -/
theorem ComesTo.exists_course (left : Nat) (hleft : left = s.resilience.retry.maxAttempts - i)
    {start : Session Connection}
    (h : ∀ i σ, s.ComesTo url start i σ → ∀ f τ, ¬ s.Interrupts url i σ f τ)
    (hcomes : s.ComesTo url start i σ) :
    ∃ heard last, Course s.resilience.retry left (σ.world.network.hears url) heard ∧
      heard.getLast? = some last ∧
      ((s.readFrom url i).run σ).1 = verdict url (i + heard.length - 1) last ∧
      asked ((s.readFrom url i).run σ).2.world.network = asked σ.world.network ++
        (if σ.world.network.up then List.replicate heard.length ⟨.get, url, none, .none⟩
          else []) ∧
      ((s.readFrom url i).run σ).2.waits = σ.waits ++
        heard.dropLast.mapIdx fun k reply => s.resilience.retry.waitFor (i + k) reply := by
  -- By induction on the attempts that are left; each reply is heard by the network as it is now.
  induction left generalizing i σ with
  | zero =>
    obtain ⟨heard, τ, hask⟩ := exists_heard (h i σ hcomes)
    have htakes := ask_takes hask
    rw [readFrom_of_settled hask fun _ => by omega]
    refine ⟨[heard], heard, .last htakes.heard fun _ => rfl, rfl, rfl, htakes.asked, ?_⟩
    rw [htakes.waits]
    exact (List.append_nil _).symm
  | succ left ih =>
    obtain ⟨heard, τ, hask⟩ := exists_heard (h i σ hcomes)
    have htakes := ask_takes hask
    by_cases hrepeats : s.resilience.retry.Repeats heard
    · have hi : i < s.resilience.retry.maxAttempts := by omega
      obtain ⟨ρ, hwait, hworld, hwaits⟩ := exists_goesOn (h i σ hcomes) hask hrepeats hi
      obtain ⟨rest, last, hcourse, hlast, hout, hasked, hwaits'⟩ :=
        ih (by omega) (hcomes.next ⟨heard, τ, hask, hrepeats, hi, hwait⟩)
      rw [readFrom_of_repeated hask hrepeats hi, Call.run_bind, hwait]
      rw [hworld, htakes.later] at hcourse
      -- The attempt's request and wait come before those of the course that follows it.
      refine ⟨heard :: rest, last, .again htakes.heard hrepeats hcourse, ?_, ?_, ?_, ?_⟩
      · rw [List.getLast?_cons, hlast]
        rfl
      · rw [hout, List.length_cons]
        congr 1
        omega
      · rw [hasked, hworld, htakes.asked, htakes.up, List.append_assoc]
        cases σ.world.network.up <;> rfl
      · rw [hwaits', hwaits, htakes.waits, List.append_assoc,
          List.dropLast_cons_of_ne_nil hcourse.ne_nil, List.mapIdx_cons]
        simp only [Nat.add_right_comm i 1]
        rfl
    · rw [readFrom_of_settled hask fun hr => absurd hr hrepeats]
      refine ⟨[heard], heard, .last htakes.heard fun hr => absurd hr hrepeats, rfl, rfl,
        htakes.asked, ?_⟩
      rw [htakes.waits]
      exact (List.append_nil _).symm

/-- A run that was cancelled before does not wait for another attempt. -/
theorem cancelled_wait {link : LinkFault} (hask : (s.ask url i).run σ = (.ok (.error link), τ))
    (hcancelled : τ.token.cancelled = true) :
    ((s.readFrom url i).run σ).2.world = τ.world ∧ ∃ f, ((s.readFrom url i).run σ).1 = .error f := by
  by_cases hi : i < s.resilience.retry.maxAttempts
  · rw [readFrom_of_repeated hask trivial hi, Call.run_bind, run_waitToRetry]
    dsimp only
    rw [if_pos (CancelToken.look_cancelled (CancelToken.afterLine_cancelled hcancelled _))]
    exact ⟨rfl, _, rfl⟩
  · rw [readFrom_of_settled hask fun _ => Nat.le_of_not_lt hi]
    exact ⟨rfl, _, rfl⟩

/-- An attempt of a run that was cancelled before sends nothing, and the read fails. -/
theorem cancelled_attempt (hcancelled : σ.token.cancelled = true) :
    ((s.readFrom url i).run σ).2.world.network = σ.world.network ∧
      ∃ f, ((s.readFrom url i).run σ).1 = .error f := by
  obtain ⟨σ', hworld, -, -, hcancelled', hobtain⟩ := s.run_obtain url i σ
  rw [← hworld]
  have htoken := s.bearer_spec σ'
  split at htoken
  · -- There is a token, and the request is withheld if there is a way to the host.
    have hask := run_ask_of_ok (hobtain.trans htoken)
    rw [CancelToken.look_cancelled (hcancelled' hcancelled), Network.meet_cancelled] at hask
    dsimp only at hask
    cases hup : σ'.world.network.up with
    | true =>
      rw [hup] at hask
      rw [readFrom_of_error hask]
      exact ⟨rfl, _, rfl⟩
    | false =>
      rw [hup] at hask
      obtain ⟨hend, hfails⟩ := cancelled_wait hask (hcancelled' hcancelled)
      exact ⟨by rw [hend], hfails⟩
  · -- The request for a token is withheld, or there is no way to the host.
    obtain ⟨cancelled, hfound, -, hend, -, -, hout⟩ := htoken
    rw [hfound (hcancelled' hcancelled), Network.meet_cancelled] at hend hout
    have hnone : ∀ now,
        Fate.token? now (if σ'.world.network.up then .withheld else .unreachable) = none := by
      cases σ'.world.network.up <;> exact fun _ => rfl
    rw [hnone] at hout
    obtain ⟨f, hf⟩ := hout
    have hask : (s.ask url i).run σ = (.error f, (s.bearer.run σ').2) :=
      run_ask_of_error (hobtain.trans (Prod.ext hf rfl))
    rw [readFrom_of_error hask]
    exact ⟨by rw [hend], _, rfl⟩

/-- A read hears replies until one is not worth another attempt or the attempts are used up.  As
    long as no attempt is interrupted that it comes to, as many requests for its address arrive as
    replies are heard, the client waits once after each reply but the last, and what it returns is
    made of that one.  A read that is interrupted fails there and then.  Nothing more is sent from
    an attempt on that begins when the run was cancelled. -/
theorem reads_within_budget (s : Service) (url : Url) (σ : Session Connection) :
    let policy := s.resilience.retry
    let hears := σ.world.network.hears url
    let out := (s.getWithRetry url).run σ
    ((∀ i τ, s.ComesTo url σ i τ → ∀ f ρ, ¬ s.Interrupts url i τ f ρ) →
      ∃ (heard : List (Except LinkFault Response)) (last : Except LinkFault Response),
        heard.map some = (List.range heard.length).map hears ∧
        (heard.length : ℕ∞) = min (policy.settledAt hears) ((max 1 policy.maxAttempts : Nat) : ℕ∞) ∧
        asked out.2.world.network = asked σ.world.network ++
          (if σ.world.network.up then List.replicate heard.length ⟨.get, url, none, .none⟩
            else []) ∧
        out.2.waits = σ.waits ++
          heard.dropLast.mapIdx (fun k reply => policy.waitFor (k + 1) reply) ∧
        heard.getLast? = some last ∧ out.1 = verdict url heard.length last) ∧
    (∀ i τ f ρ, s.ComesTo url σ i τ → s.Interrupts url i τ f ρ → out = (.error f, ρ)) ∧
    ∀ i τ, s.ComesTo url σ i τ → τ.token.cancelled = true →
      out.2.world.network = τ.world.network ∧ ∃ f, out.1 = .error f := by
  intro policy hears out
  refine ⟨fun h => ?_, fun i τ f ρ hcomes hinterrupts => ?_, fun i τ hcomes hcancelled => ?_⟩
  · obtain ⟨heard, last, hcourse, hlast, hout, hasked, hwaits⟩ :=
      ComesTo.exists_course _ rfl h .first
    -- The first attempt is made in any case.
    have hbudget : policy.maxAttempts - 1 + 1 = max 1 policy.maxAttempts := by omega
    refine ⟨heard, last, hcourse.map_some, ?_, hasked, ?_, hlast, ?_⟩
    · rw [hcourse.length_eq, ← hbudget]
    · simp only [Nat.add_comm _ 1]
      exact hwaits
    · rw [Nat.add_sub_cancel_left] at hout
      exact hout
  · exact hcomes.run_eq.trans hinterrupts.run_readFrom
  · have hrun : out = (s.readFrom url i).run τ := hcomes.run_eq
    rw [hrun]
    exact cancelled_attempt hcancelled

/-! ## Hosts that answer -/

variable {answers : List Reply} {reply : Reply}

/-- Where a host serves, an attempt hears the next reply. -/
theorem ask_serving (hurl : s.base.authority = url.authority)
    (hserving : Serving s (reply :: answers) σ.world σ.token σ.clock)
    (hreply : reply.heard? = some heard) :
    ∃ τ, (s.ask url i).run σ = (.ok heard, τ) ∧ Serving s answers τ.world τ.token τ.clock := by
  obtain ⟨_, τ, hrun, rfl, hτ, -⟩ := ask_exchanges hurl i hreply answers σ hserving
  exact ⟨τ, hrun, hτ⟩

/-- Nobody interrupts it. -/
theorem not_interrupts_of_serving (hurl : s.base.authority = url.authority)
    (hserving : Serving s (reply :: answers) σ.world σ.token σ.clock)
    (hreply : reply.heard? = some heard) : ¬ s.Interrupts url i σ f τ := by
  -- The attempt is answered and leaves the run uncancelled, which no interruption does.
  obtain ⟨ρ, hask, hρ⟩ := ask_serving hurl hserving hreply (i := i)
  rintro (h | ⟨hobtain, hmet, hstops⟩ | ⟨hask', -, -, rfl, hcancelled⟩)
  · rw [run_ask_of_error h] at hask
    cases hask
  · rw [run_ask_of_ok hobtain, hmet] at hask
    dsimp only at hask
    rw [hstops.heard] at hask
    cases hask
  · rw [hask] at hask'
    cases hask'
    rw [hρ.uncancelled] at hcancelled
    cases hcancelled

/-- In a run that nobody cancels, the wait for another attempt succeeds and sends nothing. -/
theorem waitToRetry_exchanges :
    Call.Exchanges s [] [] (fun _ => True) (s.waitToRetry url i heard) :=
  (Call.Exchanges.log _ _ _).after fun _ _ => pause_exchanges _

/-- A read that a host serves keeps being served, as long as there are replies for its attempts. -/
theorem ComesTo.serving (hurl : s.base.authority = url.authority)
    (hheard : ∀ reply ∈ answers, (reply.heard?).isSome = true)
    (henough : s.resilience.retry.maxAttempts ≤ answers.length)
    (hserving : Serving s answers σ.world σ.token σ.clock) (h : s.ComesTo url σ i τ) :
    Serving s (answers.drop (i - 1)) τ.world τ.token τ.clock ∧
      1 ≤ i ∧ i ≤ max 1 s.resilience.retry.maxAttempts := by
  induction h with
  | first => exact ⟨hserving, le_rfl, le_max_left _ _⟩
  | @next i τ ρ _ hgoes ih =>
    obtain ⟨hτ, hpos, -⟩ := ih
    obtain ⟨heard, ρ', hask, -, hi, hwait⟩ := hgoes
    have hlt : i - 1 < answers.length := by omega
    obtain ⟨heard', hheard'⟩ := Option.isSome_iff_exists.mp (hheard _ (List.getElem_mem hlt))
    rw [← List.cons_getElem_drop_succ (h := hlt)] at hτ
    obtain ⟨_, hask', hρ'⟩ := ask_serving hurl hτ hheard' (i := i)
    rw [hask] at hask'
    cases hask'
    -- The wait leaves the surroundings as they are.
    obtain ⟨_, _, hwait', -, hρ, -⟩ := waitToRetry_exchanges _ ρ' hρ'
    rw [hwait] at hwait'
    cases hwait'
    rw [Nat.sub_add_cancel hpos] at hρ
    exact ⟨hρ, by omega, by omega⟩

/-- After a lost connection and a busy host that asks for a second, the third attempt of three is
    answered. -/
theorem third_attempt_answered :
    let service : Service :=
      ⟨{ scheme := .http, host := "svc", path := [""] }, "http://svc", ⟨"id", "secret"⟩, {}⟩
    let url := service.collectionUrl "objecttypes"
    let busy : Response := ⟨⟨503⟩, [("Retry-After", "1")], none⟩
    let answer : Response := ⟨⟨200⟩, [], some "\x7b\x7d"⟩
    let network : Network :=
      { up := true, hosts := [("svc", { answers := [.drop, .answer busy, .answer answer] })] }
    ∃ τ, (service.getWithRetry url).run ⟨⟨network, none⟩, .fresh, .frozen 0, [], []⟩ =
        (.ok answer, τ) ∧
      asked τ.world.network = List.replicate 3 ⟨.get, url, none, .none⟩ ∧
      τ.waits = [service.usualWait 1, 1000000] := by
  intro service url busy answer network
  have hserving : Serving service [.drop, .answer busy, .answer answer] ⟨network, none⟩ .fresh
      (.frozen 0) := ⟨rfl, rfl, rfl, List.forall_mem_nil _, grantedToken_grants⟩
  have hheard : ∀ reply ∈ [Reply.drop, .answer busy, .answer answer],
      (reply.heard?).isSome = true := by decide
  have huninterrupted : ∀ i τ,
      service.ComesTo url ⟨⟨network, none⟩, .fresh, .frozen 0, [], []⟩ i τ →
      ∀ f ρ, ¬ service.Interrupts url i τ f ρ := by
    intro i τ hcomes f ρ
    have hurl : service.base.authority = url.authority := rfl
    obtain ⟨hτ, hpos, hle⟩ := hcomes.serving hurl hheard le_rfl hserving
    have hle : i ≤ 3 := hle
    obtain rfl | rfl | rfl : i = 1 ∨ i = 2 ∨ i = 3 := by omega
    · exact not_interrupts_of_serving rfl hτ rfl
    · exact not_interrupts_of_serving rfl hτ rfl
    · exact not_interrupts_of_serving rfl hτ rfl
  -- The first two replies are worth another attempt, the third is not.
  have hsettled : service.resilience.retry.settledAt (network.hears url) = (3 : Nat) := by
    refine le_antisymm (iInf₂_le 2 ⟨.ok answer, rfl, by decide⟩) (le_iInf₂ fun i hi => ?_)
    obtain ⟨reply, hreply, hsettles⟩ := hi
    obtain rfl | rfl | hi : i = 0 ∨ i = 1 ∨ 2 ≤ i := by omega
    · cases hreply
      exact absurd trivial hsettles
    · cases hreply
      exact absurd rfl hsettles
    · exact Nat.cast_le.mpr (by omega)
  have hread :=
    (reads_within_budget service url ⟨⟨network, none⟩, .fresh, .frozen 0, [], []⟩).1 huninterrupted
  generalize (service.getWithRetry url).run _ = out at hread ⊢
  obtain ⟨heard, last, hheard, hlength, hasked, hwaits, hlast, hout⟩ := hread
  have hlength : heard.length = 3 := by
    rw [hsettled] at hlength
    exact Nat.cast_injective (hlength.trans (min_self _))
  rw [hlength] at hheard hasked hout
  have hheard : heard = [.error .dropped, .ok busy, .ok answer] :=
    List.map_injective_iff.mpr (Option.some_injective _) hheard
  subst hheard
  cases hlast
  have hwanted : retryAfter? busy = some 1000000 := by decide +kernel
  have hbusy : service.resilience.retry.waitFor 2 (.ok busy) = 1000000 := by
    rw [waitFor_ok, waitAfter, hwanted]
    rfl
  exact ⟨out.2, Prod.ext hout rfl, hasked, hwaits.trans (congrArg (fun w => [_, w]) hbusy)⟩

end Service

end TenantSync.Http
