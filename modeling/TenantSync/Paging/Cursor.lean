/-! # Cursors, pages and trails

A collection is read page by page.  Each page names the cursor of the page after it; the
empty cursor asks for the first page.  A `Trail` remembers which cursors were asked: a
next cursor must be neither empty nor one of them, for else the walk would start again or
go round in a circle. -/

namespace TenantSync

/-- Where a page starts.  The empty text is the beginning of the collection. -/
structure Cursor where
  value : String
  deriving DecidableEq, Repr, Inhabited

namespace Cursor

/-- The beginning of a collection. -/
def begin : Cursor := ⟨""⟩

/-- Whether a cursor asks for the first page. -/
def isBegin (c : Cursor) : Bool := c.value.isEmpty

/-- A cursor as messages show it. -/
def text (c : Cursor) : String := if c.isBegin then "<begin>" else c.value

instance : ToString Cursor := ⟨text⟩

/-- The test for the first page is met by its own cursor alone. -/
theorem isBegin_iff {c : Cursor} : c.isBegin = true ↔ c = begin := by
  cases c
  simp [isBegin, begin]

end Cursor

/-- One page of entities and where the next one starts, if there is one. -/
structure Page (α : Type) where
  entities : List α
  hasNext : Bool
  /-- Meaningful only when `hasNext` holds. -/
  next : Cursor
  deriving DecidableEq, Inhabited

/-- Why a walk cannot go on to the cursor that a page names. -/
inductive TrailFault where
  | noCursor
  | asked (c : Cursor)
  deriving DecidableEq, Repr

/-- The wording of a trail fault. -/
def TrailFault.message : TrailFault → String
  | noCursor => "page reported more results but no next cursor"
  | asked c => s!"pagination did not advance: cursor {c} was already requested"

/-- The cursors that one walk has asked for so far. -/
structure Trail where
  asked : List Cursor
  deriving DecidableEq, Inhabited

namespace Trail

/-- A walk begins at the beginning. -/
def start : Trail := ⟨[Cursor.begin]⟩

/-- Accepts a cursor that is neither empty nor asked before. -/
def advance (t : Trail) (next : Cursor) : Except TrailFault Trail :=
  if next.isBegin then .error .noCursor
  else if next ∈ t.asked then .error (.asked next)
  else .ok ⟨next :: t.asked⟩

/-- A trail goes on exactly with a cursor that names a page and was not followed yet. -/
theorem advance_eq_ok_iff {t t' : Trail} {c : Cursor} :
    t.advance c = .ok t' ↔ c.isBegin = false ∧ c ∉ t.asked ∧ t' = ⟨c :: t.asked⟩ := by
  unfold advance
  split
  · rename_i h
    simp [h]
  · rename_i h
    split
    · rename_i hm
      simp [hm]
    · rename_i hm
      simp only [Except.ok.injEq, Bool.not_eq_true] at h ⊢
      exact ⟨fun e => ⟨h, hm, e.symm⟩, fun e => e.2.2.symm⟩

end Trail

end TenantSync
