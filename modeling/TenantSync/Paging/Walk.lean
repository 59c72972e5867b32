import TenantSync.Graph.Kind
import TenantSync.Session.Call

/-! # Walking a collection

`collectPages` asks for the pages of a collection from the beginning to the end and
returns their entities in order.  The number of pages is limited by a bound that the
collection cannot exceed, so the limit is never what ends a walk. -/

namespace TenantSync

/-- Asks for pages from a cursor on; `done` are the entities of the `pages` pages before. -/
def walkPages {σ α : Type} (k : Kind) (ask : Cursor → Call σ (Page α)) :
    Nat → Cursor → Trail → List α → Nat → Call σ (List α)
  | 0, _, _, _, _ => Call.fail .endless
  | bound + 1, cursor, trail, done, pages => do
    let page ← (ask cursor).within (.fetchingPage k cursor)
    let done := done ++ page.entities
    let pages := pages + 1
    if page.hasNext then
      let trail ←
        (Call.ofExcept .trail (trail.advance page.next)).within (.paging k.plural cursor)
      walkPages k ask bound page.next trail done pages
    else
      Call.log .debug .fetch s!"Fetched {done.length} {k.plural} in {pages} page(s)"
      return done

/-- All entities of a collection, page by page. -/
def collectPages {σ α : Type} (bound : σ → Nat) (k : Kind) (ask : Cursor → Call σ (Page α)) :
    Call σ (List α) := do
  walkPages k ask (bound (← Call.world)) Cursor.begin Trail.start [] 0

end TenantSync
