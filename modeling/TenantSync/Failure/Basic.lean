import TenantSync.Failure.Activity

/-! # Failures

A `Failure` is a cause together with the activities it interrupted, outermost first.
`Failure.reasons` is the chain of messages a reader sees and `Failure.text` the chain on
one line. -/

namespace TenantSync

/-- A part of the machinery outside this program that explains failures in its own words. -/
inductive Foreign where
  | transport
  | decoder
  | database
  deriving DecidableEq, Repr

/-- One link of the explanation of a failure. -/
inductive Reason where
  | plain (text : String)
  /-- An explanation in the words of other machinery, from the outside in. -/
  | foreign (origin : Foreign) (texts : List String)
  deriving DecidableEq, Repr

/-- The messages of a reason. -/
def Reason.texts : Reason → List String
  | plain text => [text]
  | foreign _ texts => texts

/-- Causes that explain themselves. -/
class Explained (κ : Type) where
  reasons : κ → List Reason

/-- A cause and what it interrupted, outermost first. -/
structure Failure (κ : Type) where
  contexts : List Activity
  cause : κ
  deriving DecidableEq

namespace Failure

variable {κ : Type}

/-- A failure that interrupted nothing that was named. -/
def of (cause : κ) : Failure κ := ⟨[], cause⟩

/-- The failure as seen from the activity around it. -/
def within (a : Activity) (f : Failure κ) : Failure κ := ⟨a :: f.contexts, f.cause⟩

/-- The same failure with its cause seen in a wider range of causes. -/
def map {μ : Type} (g : κ → μ) (f : Failure κ) : Failure μ := ⟨f.contexts, g f.cause⟩

/-- The explanation of a failure, outermost first. -/
def reasons [Explained κ] (f : Failure κ) : List Reason :=
  f.contexts.map (fun a => .plain a.message) ++ Explained.reasons f.cause

/-- The messages of a failure, outermost first. -/
def messages [Explained κ] (f : Failure κ) : List String := f.reasons.flatMap Reason.texts

/-- The messages of a failure on one line. -/
def text [Explained κ] (f : Failure κ) : String := ": ".intercalate f.messages

/-- Names the activity around a computation that can fail. -/
def during {α : Type} (a : Activity) : Except (Failure κ) α → Except (Failure κ) α
  | .ok x => .ok x
  | .error f => .error (f.within a)

end Failure

end TenantSync
