import TenantSync.Session.Log

/-! # Cancellation

A run can be told to stop.  The token that says so may carry a trigger: it is then
cancelled right after a given number of progress events, when a log line holds a given
text, or between two looks at it.  Whoever cancels from outside does so between two looks,
so `Trigger.afterLooks` covers every moment at which that can happen. -/

namespace TenantSync

/-- What cancels a token by itself. -/
inductive Trigger where
  | never
  | afterEvents (n : Nat)
  | onLog (text : String)
  /-- Before the look at the token that follows `n` others. -/
  | afterLooks (n : Nat)
  deriving DecidableEq, Repr

/-- Whether a run was told to stop. -/
structure CancelToken where
  cancelled : Bool
  trigger : Trigger
  deriving DecidableEq, Repr

namespace CancelToken

/-- A token that nothing cancels. -/
def fresh : CancelToken := ⟨false, .never⟩

/-- A token that is cancelled after `n` events; with none to wait for it is so from the start. -/
def afterEvents (n : Nat) : CancelToken := ⟨n == 0, .afterEvents n⟩

/-- A token that is cancelled as soon as a log line holds a text. -/
def onLog (text : String) : CancelToken := ⟨false, .onLog text⟩

/-- Whether the characters of `needle` stand in a row in a text. -/
def occursIn (needle : List Char) : List Char → Bool
  | [] => needle.isEmpty
  | c :: cs => needle.isPrefixOf (c :: cs) || occursIn needle cs

/-- The token after a line was written to the log. -/
def afterLine (t : CancelToken) (l : LogLine) : CancelToken :=
  match t.trigger with
  | .onLog text => { t with cancelled := t.cancelled || occursIn text.toList l.full.toList }
  | _ => t

/-- The token after the `n`th event. -/
def afterEvent (t : CancelToken) (n : Nat) : CancelToken :=
  match t.trigger with
  | .afterEvents m => { t with cancelled := t.cancelled || n == m }
  | _ => t

/-- Stops the run. -/
def cancel (t : CancelToken) : CancelToken := { t with cancelled := true }

/-- The token as the next look at it finds it. -/
def look (t : CancelToken) : CancelToken :=
  match t.trigger with
  | .afterLooks 0 => t.cancel
  | .afterLooks (n + 1) => { t with trigger := .afterLooks n }
  | _ => t

/-! A token stays cancelled. -/

variable {t : CancelToken}

/-- Looking at it does not revoke a cancellation. -/
theorem look_cancelled (h : t.cancelled = true) : t.look.cancelled = true := by
  rw [look]
  split <;> first | rfl | exact h

/-- Nor does a line in the log. -/
theorem afterLine_cancelled (h : t.cancelled = true) (l : LogLine) :
    (t.afterLine l).cancelled = true := by
  rw [afterLine]
  split
  · exact Bool.or_eq_true_iff.mpr (.inl h)
  · exact h

/-- Nor does an event. -/
theorem afterEvent_cancelled (h : t.cancelled = true) (n : Nat) :
    (t.afterEvent n).cancelled = true := by
  rw [afterEvent]
  split
  · exact Bool.or_eq_true_iff.mpr (.inl h)
  · exact h

end CancelToken

end TenantSync
