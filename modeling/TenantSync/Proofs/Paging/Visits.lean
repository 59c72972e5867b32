import Mathlib.Data.Finset.Card
import Mathlib.Data.List.Chain
import TenantSync.Proofs.Sync.Annotation

/-!
# Visits to a source of pages

A source gives pages by their cursors, in whatever way it likes: it may keep a state, fail, or
answer the same cursor differently each time.  A walk that keeps a record of its visits
(`withVisits`) does what it does without, and the record shows that it follows the cursors that it
is given, never asks for a page twice, and returns all entities exactly if it gets through to a last
page (`page_walk_follows_cursors`).

The trail of a walk holds the cursors of the visits so far (`LeadTo`), so if only finitely many
cursors are ever named the walk comes to an end.  The bound on the number of pages is a window on a
walk and has no influence on it: a walk that ends within one bound is the same under any larger one.
-/

namespace TenantSync

variable {σ α : Type}

/-- A visit to a source of pages: the cursor that it was asked for and what it replied. -/
structure Visit (α : Type) where
  cursor : Cursor
  reply : Except Fault (Page α)

namespace Visit

/-- The entities that the visit brought. -/
def entities (v : Visit α) : List α :=
  match v.reply with
  | .ok page => page.entities
  | .error _ => []

/-- The visit brought a page after which there is no other. -/
def IsLast (v : Visit α) : Prop := ∃ page, v.reply = .ok page ∧ page.hasNext = false

/-- The visit brought a page after which there is another, with the cursor `next`. -/
def Names (v : Visit α) (next : Cursor) : Prop :=
  ∃ page, v.reply = .ok page ∧ page.hasNext = true ∧ page.next = next

/-- The page after which there is another has a cursor that a walk cannot go on to: it is empty, or
    it was asked for. -/
def Misleads (asked : List Cursor) (v : Visit α) : TrailFault → Prop
  | .noCursor => v.Names .begin
  | .asked next => v.Names next ∧ next ≠ .begin ∧ next ∈ asked

/-- A reply names one cursor at most. -/
theorem Names.unique {v : Visit α} {c c' : Cursor} (h : v.Names c) (h' : v.Names c') : c = c' := by
  obtain ⟨page, hreply, -, rfl⟩ := h
  obtain ⟨page', hreply', -, rfl⟩ := h'
  cases hreply.symm.trans hreply'
  rfl

/-- A last page names no cursor. -/
theorem IsLast.not_names {v : Visit α} (h : v.IsLast) (c : Cursor) : ¬ v.Names c := by
  obtain ⟨page, hreply, hlast⟩ := h
  rintro ⟨page', hreply', hmore, -⟩
  cases hreply.symm.trans hreply'
  exact absurd hmore (by rw [hlast]; decide)

end Visit

/-- The source, together with a record of the visits to it. -/
def withVisits (ask : Cursor → Call σ (Page α)) (cursor : Cursor) :
    Call (σ × List (Visit α)) (Page α) :=
  (ask cursor).annotated fun reply _ visits => visits ++ [⟨cursor, reply⟩]

/-- The visits lead from the beginning to a cursor: after every page there is another, and its
    cursor is neither empty nor asked for before. -/
inductive LeadTo : List (Visit α) → Cursor → Prop where
  | start : LeadTo [] .begin
  | step {visits : List (Visit α)} {cursor : Cursor} {page : Page α} :
      LeadTo visits cursor → page.hasNext = true → page.next ≠ .begin →
      page.next ∉ visits.map Visit.cursor ++ [cursor] →
      LeadTo (visits ++ [⟨cursor, .ok page⟩]) page.next

/-- The record of a walk through pages of the kind `k` that may make as many visits as the bound
    says, next to what comes of it. -/
structure FollowsCursors (k : Kind) (bound : Nat) (visits : List (Visit α))
    (out : Except Fault (List α)) : Prop where
  /-- The walk starts at the beginning. -/
  begins : 0 < bound → (visits.map Visit.cursor).head? = some .begin
  /-- From then on it asks for the cursor that the page before it names. -/
  follows : visits.IsChain fun v w => v.Names w.cursor
  /-- It never asks for a page twice, -/
  distinct : (visits.map Visit.cursor).Nodup
  /-- and it does not start again. -/
  nonempty : ∀ v ∈ visits.tail, v.cursor ≠ .begin
  /-- It succeeds exactly if it gets through to a last page, with the entities of all pages. -/
  succeeds_iff : ∀ es, out = .ok es ↔ es = visits.flatMap Visit.entities ∧
    ∃ earlier last, visits = earlier ++ [last] ∧ LeadTo earlier last.cursor ∧ last.IsLast
  /-- A visit that fails ends it, -/
  fails : ∀ v ∈ visits, ∀ f, v.reply = .error f →
    out = .error (f.within (.fetchingPage k v.cursor))
  /-- and so does a page that misleads. -/
  misled : ∀ before v after fault, visits = before ++ v :: after →
    v.Misleads ((before ++ [v]).map Visit.cursor) fault →
    out = .error ((Failure.of (.trail fault)).within (.paging k.plural v.cursor))
  /-- Nothing else makes it fail, as long as the bound allows another visit. -/
  fails_only : ∀ f, out = .error f →
    (∃ v ∈ visits, ∃ f', v.reply = .error f') ∨
    (∃ earlier v fault, visits = earlier ++ [v] ∧ v.Misleads (visits.map Visit.cursor) fault) ∨
    f = Failure.of .endless ∧ visits.length = bound
  within_bound : visits.length ≤ bound
  /-- If no cursors are named but those of a finite set and the empty one, then at most one more
      visit is made than there are cursors, and a larger bound has no part in how it ends. -/
  ends : ∀ cursors : Finset Cursor,
    (∀ v ∈ visits, ∀ next, v.Names next → next = .begin ∨ next ∈ cursors) →
    visits.length ≤ cursors.card + 1 ∧
      (cursors.card < bound → out ≠ .error (Failure.of .endless))

/-! ## Visits that lead on -/

namespace LeadTo

variable {visits : List (Visit α)} {cursor : Cursor}

/-- What was asked for, with the cursor that is to come. -/
theorem head? (h : LeadTo visits cursor) :
    (visits.map Visit.cursor ++ [cursor]).head? = some .begin := by
  induction h with
  | start => rfl
  | step _ _ _ _ ih =>
    rw [List.map_append, List.head?_append, List.map_singleton, ih]
    rfl

/-- No cursor is asked for twice on the way. -/
theorem nodup (h : LeadTo visits cursor) : (visits.map Visit.cursor ++ [cursor]).Nodup := by
  induction h with
  | start => exact List.nodup_singleton _
  | step _ _ _ hnew ih =>
    rw [List.map_append, List.map_singleton]
    exact List.nodup_append_comm.mp (List.nodup_cons.mpr ⟨hnew, ih⟩)

/-- The walk never returns to the beginning. -/
theorem begin_not_mem_tail (h : LeadTo visits cursor) :
    .begin ∉ (visits.map Visit.cursor ++ [cursor]).tail := by
  have hhead := h.head?
  have hnodup := h.nodup
  -- The beginning is the first cursor asked for, and no cursor is asked for twice.
  cases hall : visits.map Visit.cursor ++ [cursor] with
  | nil => exact List.not_mem_nil
  | cons c cs =>
    rw [hall] at hhead hnodup
    cases hhead
    exact (List.nodup_cons.mp hnodup).1

/-- Every visit names the cursor of the next one, and the last visit the cursor that is to come. -/
theorem isChain (h : LeadTo visits cursor) :
    visits.IsChain (fun v w => v.Names w.cursor) ∧
      ∀ v ∈ visits.getLast?, v.Names cursor := by
  induction h with
  | start => exact ⟨List.isChain_nil, by simp⟩
  | @step visits cursor page _ hmore _ _ ih =>
    -- The last visit so far names the cursor of the new one.
    refine ⟨List.isChain_append.mpr ⟨ih.1, List.isChain_singleton _, ?_⟩, ?_⟩
    · rintro v hv w hw
      obtain rfl : _ = w := by simpa using hw
      exact ih.2 v hv
    · rw [List.getLast?_concat]
      rintro v ⟨⟩
      exact ⟨page, rfl, hmore, rfl⟩

/-- No visit misleads. -/
theorem leads_on (h : LeadTo visits cursor) {before after : List (Visit α)} {v : Visit α}
    (hsplit : visits = before ++ v :: after) :
    ∃ next, v.Names next ∧ next ≠ .begin ∧ next ∉ (before ++ [v]).map Visit.cursor := by
  induction h generalizing after with
  | start => exact absurd hsplit (by simp)
  | @step visits cursor page _ hmore hnonempty hnew ih =>
    obtain rfl | ⟨after, w, rfl⟩ := List.eq_nil_or_concat' after
    · -- This is the visit that was made last.
      obtain ⟨rfl, hv⟩ := List.append_inj' hsplit rfl
      obtain rfl : _ = v := List.head_eq_of_cons_eq hv
      refine ⟨page.next, ⟨page, rfl, hmore, rfl⟩, hnonempty, ?_⟩
      rwa [List.map_append]
    · rw [← List.cons_append, ← List.append_assoc] at hsplit
      exact ih (List.append_inj' hsplit rfl).1

/-- A cursor that a walk went on to, or is to go on to, is named by one of its visits. -/
theorem exists_names (h : LeadTo visits cursor) {c : Cursor}
    (hc : c ∈ (visits.map Visit.cursor ++ [cursor]).tail) : ∃ v ∈ visits, v.Names c := by
  induction h with
  | start => exact absurd hc List.not_mem_nil
  | @step visits cursor page _ hmore _ _ ih =>
    -- The cursor is an earlier one or that of the last page.
    rw [List.map_append, List.map_singleton, List.tail_append_of_ne_nil (by simp),
      List.mem_append] at hc
    obtain hc | hc := hc
    · obtain ⟨v, hv, hname⟩ := ih hc
      exact ⟨v, List.mem_append_left _ hv, hname⟩
    · obtain rfl := List.mem_singleton.mp hc
      exact ⟨_, List.mem_append_right _ (List.mem_singleton_self _), page, rfl, hmore, rfl⟩

/-- If finitely many cursors are named, no more visits lead on than there are cursors. -/
theorem length_le_card (h : LeadTo visits cursor) {cursors : Finset Cursor}
    (hnamed : ∀ v ∈ visits, ∀ next, v.Names next → next = .begin ∨ next ∈ cursors) :
    visits.length ≤ cursors.card := by
  -- What was asked for after the beginning is pairwise distinct and among the cursors.
  have hsub : (visits.map Visit.cursor ++ [cursor]).tail.toFinset ⊆ cursors := by
    intro c hc
    rw [List.mem_toFinset] at hc
    obtain ⟨v, hv, hname⟩ := h.exists_names hc
    refine (hnamed v hv c hname).resolve_left ?_
    rintro rfl
    exact h.begin_not_mem_tail hc
  calc visits.length
      = (visits.map Visit.cursor ++ [cursor]).tail.length := by simp
    _ = (visits.map Visit.cursor ++ [cursor]).tail.toFinset.card :=
        (List.toFinset_card_of_nodup h.nodup.tail).symm
    _ ≤ cursors.card := Finset.card_le_card hsub

/-- None of the visits could have been where a walk ends. -/
theorem goes_on (h : LeadTo visits cursor) {v : Visit α} (hv : v ∈ visits) :
    ¬ v.IsLast ∧ ∀ f, v.reply ≠ .error f := by
  obtain ⟨before, after, hsplit⟩ := List.append_of_mem hv
  obtain ⟨next, hname, -⟩ := h.leads_on hsplit
  refine ⟨fun hlast => hlast.not_names next hname, fun f hf => ?_⟩
  obtain ⟨page, hreply, -⟩ := hname
  cases hf.symm.trans hreply

/-- No visit that was followed by another misleads. -/
theorem not_misleads (h : LeadTo visits cursor) {before after : List (Visit α)} {v : Visit α}
    (hsplit : visits = before ++ v :: after) (fault : TrailFault) :
    ¬ v.Misleads ((before ++ [v]).map Visit.cursor) fault := by
  obtain ⟨next, hname, hnonempty, hnew⟩ := h.leads_on hsplit
  cases fault with
  | noCursor => exact fun hbegin => hnonempty (hname.unique hbegin)
  | asked c =>
    rintro ⟨hc, -, hmem⟩
    exact hnew (hname.unique hc ▸ hmem)

end LeadTo

/-! ## What a walk records -/

/-- How a walk ends with a visit, after earlier ones. -/
inductive Concludes (k : Kind) (earlier : List (Visit α)) (v : Visit α) :
    Except Fault (List α) → Prop where
  | last : v.IsLast → Concludes k earlier v (.ok ((earlier ++ [v]).flatMap Visit.entities))
  | failed {f : Fault} : v.reply = .error f →
      Concludes k earlier v (.error (f.within (.fetchingPage k v.cursor)))
  | misled {fault : TrailFault} : v.Misleads ((earlier ++ [v]).map Visit.cursor) fault →
      Concludes k earlier v
        (.error ((Failure.of (.trail fault)).within (.paging k.plural v.cursor)))

/-- How a walk ends that may make as many visits as the bound says. -/
inductive WalkEnds (k : Kind) (bound : Nat) :
    List (Visit α) → Except Fault (List α) → Prop where
  | concluded {earlier : List (Visit α)} {v : Visit α} {out : Except Fault (List α)} :
      LeadTo earlier v.cursor → earlier.length < bound → Concludes k earlier v out →
      WalkEnds k bound (earlier ++ [v]) out
  | cut {visits : List (Visit α)} {cursor : Cursor} :
      LeadTo visits cursor → visits.length = bound →
      WalkEnds k bound visits (.error (Failure.of .endless))

/-- A trail that holds what was asked for refuses the pages that mislead. -/
theorem Trail.advance_cases {trail : Trail} {asked : List Cursor}
    (h : ∀ c, c ∈ trail.asked ↔ c ∈ asked) (cursor : Cursor) {page : Page α}
    (hmore : page.hasNext = true) :
    (∃ fault, trail.advance page.next = .error fault ∧
      Visit.Misleads asked ⟨cursor, .ok page⟩ fault) ∨
    page.next ≠ .begin ∧ page.next ∉ asked ∧
      trail.advance page.next = .ok ⟨page.next :: trail.asked⟩ := by
  have hnames : (⟨cursor, .ok page⟩ : Visit α).Names page.next := ⟨page, rfl, hmore, rfl⟩
  -- The trail refuses a missing cursor first, and then one that was asked for.
  by_cases hbegin : page.next.isBegin = true
  · refine .inl ⟨.noCursor, by rw [advance, if_pos hbegin], ?_⟩
    rwa [Cursor.isBegin_iff.mp hbegin] at hnames
  · have hne : page.next ≠ .begin := mt Cursor.isBegin_iff.mpr hbegin
    by_cases hmem : page.next ∈ trail.asked
    · refine .inl ⟨.asked page.next, ?_, hnames, hne, (h _).mp hmem⟩
      rw [advance, if_neg hbegin, if_pos hmem]
    · refine .inr ⟨hne, mt (h _).mpr hmem, ?_⟩
      rw [advance, if_neg hbegin, if_neg hmem]

section
variable (k : Kind) (ask : Cursor → Call σ (Page α))

/-- What the loop does from any point of a walk, by induction on the requests left to it. -/
theorem walkPages_ends (bound : Nat) (cursor : Cursor) (trail : Trail) (done : List α)
    (pages : Nat) {s : Session (σ × List (Visit α))} (hlead : LeadTo s.world.2 cursor)
    (htrail : ∀ c, c ∈ trail.asked ↔ c ∈ s.world.2.map Visit.cursor ++ [cursor])
    (hdone : done = s.world.2.flatMap Visit.entities) :
    WalkEnds k (s.world.2.length + bound)
      ((walkPages k (withVisits ask) bound cursor trail done pages).run s).2.world.2
      ((walkPages k (withVisits ask) bound cursor trail done pages).run s).1 := by
  induction bound generalizing cursor trail done pages s with
  | zero => exact .cut hlead rfl
  | succ bound ih =>
    have hlt : s.world.2.length < s.world.2.length + (bound + 1) := by omega
    -- The visit is in the record when the source has replied.
    have hrecord : ((withVisits ask cursor).run s).2.world.2 =
        s.world.2 ++ [⟨cursor, ((withVisits ask cursor).run s).1⟩] := rfl
    rw [walkPages, Call.run_bind, Call.run_within]
    rcases hvisit : (withVisits ask cursor).run s with ⟨f | page, t⟩ <;> rw [hvisit] at hrecord
    case error =>
      dsimp only [Except.mapError] at hrecord ⊢
      rw [hrecord]
      exact .concluded hlead hlt (.failed rfl)
    case ok =>
      dsimp only [Except.mapError] at hrecord ⊢
      have hentities : done ++ page.entities = t.world.2.flatMap Visit.entities := by
        rw [hrecord, hdone, List.flatMap_append]
        simp [Visit.entities]
      by_cases hmore : page.hasNext = true
      · rw [if_pos hmore, Call.run_bind, Call.run_within]
        obtain ⟨fault, hadvance, hmisled⟩ | ⟨hne, hnew, hadvance⟩ :=
          Trail.advance_cases htrail cursor hmore
        · rw [hadvance]
          change WalkEnds _ _ t.world.2 _
          rw [hrecord]
          refine .concluded hlead hlt (.misled ?_)
          rwa [List.map_append]
        · rw [hadvance]
          -- The walk goes on, and the trail has grown with the record.
          have hgo := ih page.next ⟨page.next :: trail.asked⟩ _ (pages + 1) (s := t)
            (by rw [hrecord]; exact hlead.step hmore hne hnew)
            (fun c => by
              rw [List.mem_cons, htrail, hrecord, List.map_append]
              simp only [List.map_singleton, List.mem_append, List.mem_singleton]
              tauto)
            hentities
          rw [hrecord, List.length_append, List.length_singleton, Nat.add_assoc,
            Nat.add_comm 1] at hgo
          exact hgo
      · rw [if_neg hmore, Call.run_bind, Call.run_log]
        change WalkEnds _ _ t.world.2 (.ok (done ++ page.entities))
        rw [hentities, hrecord]
        exact .concluded hlead hlt (.last ⟨page, rfl, by simpa using hmore⟩)

/-- A walk that ends is the same under any larger bound. -/
theorem walkPages_of_le {bound bound' : Nat} (hle : bound ≤ bound') (cursor : Cursor)
    (trail : Trail) (done : List α) (pages : Nat) (s : Session σ)
    (h : ((walkPages k ask bound cursor trail done pages).run s).1 ≠
      .error (Failure.of .endless)) :
    (walkPages k ask bound' cursor trail done pages).run s =
      (walkPages k ask bound cursor trail done pages).run s := by
  induction bound generalizing bound' cursor trail done pages s with
  | zero => exact absurd rfl h
  | succ bound ih =>
    obtain ⟨bound', rfl⟩ := Nat.exists_eq_add_one.mpr (Nat.zero_lt_of_lt hle)
    rw [walkPages, Call.run_bind] at h
    rw [walkPages, walkPages, Call.run_bind, Call.run_bind]
    -- The two loops are in step as long as the shorter one does not run out.
    rcases hvisit : ((ask cursor).within (.fetchingPage k cursor)).run s with ⟨f | page, t⟩
    · rfl
    · rw [hvisit] at h
      dsimp only at h ⊢
      by_cases hmore : page.hasNext = true
      · rw [if_pos hmore, Call.run_bind] at h
        rw [if_pos hmore, if_pos hmore, Call.run_bind, Call.run_bind]
        rcases hadvance : ((Call.ofExcept .trail (trail.advance page.next)).within
            (.paging k.plural cursor)).run t with ⟨f | trail', t'⟩
        · rfl
        · rw [hadvance] at h
          exact ih (Nat.le_of_succ_le_succ hle) _ _ _ _ _ h
      · rw [if_neg hmore, if_neg hmore]

end

/-! ## Any walk -/

namespace Visit.Misleads

/-- A reply misleads in one way at most. -/
theorem unique {asked : List Cursor} {v : Visit α} {fault fault' : TrailFault}
    (h : v.Misleads asked fault) (h' : v.Misleads asked fault') : fault = fault' := by
  -- A reply that names no cursor names the empty one, which was not asked for.
  cases fault with
  | noCursor =>
    cases fault' with
    | noCursor => rfl
    | asked c => exact absurd (h'.1.unique h) h'.2.1
  | asked c =>
    cases fault' with
    | noCursor => exact absurd (h.1.unique h') h.2.1
    | asked c' => rw [h.1.unique h'.1]

/-- A reply that misleads names a cursor. -/
theorem exists_names {asked : List Cursor} {v : Visit α} {fault : TrailFault}
    (h : v.Misleads asked fault) : ∃ c, v.Names c := by
  cases fault with
  | noCursor => exact ⟨_, h⟩
  | asked c => exact ⟨c, h.1⟩

end Visit.Misleads

namespace Concludes

variable {k : Kind} {earlier : List (Visit α)} {v : Visit α} {out : Except Fault (List α)}

/-- A walk succeeds with all the entities exactly when its last reply is a last page. -/
theorem ok_iff (h : Concludes k earlier v out) (es : List α) :
    out = .ok es ↔ es = (earlier ++ [v]).flatMap Visit.entities ∧ v.IsLast := by
  -- Of the ways to conclude, only a last page succeeds.
  cases h with
  | last hlast => exact ⟨fun heq => ⟨(Except.ok.inj heq).symm, hlast⟩, fun heq => by rw [heq.1]⟩
  | failed hreply =>
    refine ⟨nofun, ?_⟩
    rintro ⟨-, page, hok, -⟩
    cases hreply.symm.trans hok
  | misled hmisled =>
    obtain ⟨c, hname⟩ := hmisled.exists_names
    exact ⟨nofun, fun heq => absurd hname (heq.2.not_names c)⟩

/-- A failed last request fails the walk, with the page it was for. -/
theorem of_failed (h : Concludes k earlier v out) {f : Fault} (hf : v.reply = .error f) :
    out = .error (f.within (.fetchingPage k v.cursor)) := by
  -- A reply that failed is neither a last page nor one that misleads.
  cases h with
  | last hlast =>
    obtain ⟨page, hreply, -⟩ := hlast
    cases hf.symm.trans hreply
  | failed hreply =>
    cases hf.symm.trans hreply
    rfl
  | misled hmisled =>
    obtain ⟨_, page, hreply, -⟩ := hmisled.exists_names
    cases hf.symm.trans hreply

/-- A misleading last reply fails the walk, with the cursor it was asked at. -/
theorem of_misled (h : Concludes k earlier v out) {fault : TrailFault}
    (hmisled : v.Misleads ((earlier ++ [v]).map Visit.cursor) fault) :
    out = .error ((Failure.of (.trail fault)).within (.paging k.plural v.cursor)) := by
  obtain ⟨c, hname⟩ := hmisled.exists_names
  cases h with
  | last hlast => exact absurd hname (hlast.not_names c)
  | failed hreply =>
    obtain ⟨page, hok, -⟩ := hname
    cases hreply.symm.trans hok
  | misled hmisled' => rw [hmisled.unique hmisled']

/-- The bound has no part in it. -/
theorem ne_endless (h : Concludes k earlier v out) : out ≠ .error (Failure.of .endless) := by
  cases h with
  | last => exact nofun
  | failed | misled =>
    intro heq
    cases congrArg Failure.contexts (Except.error.inj heq)

end Concludes

section
variable {k : Kind} {bound : Nat} {visits earlier : List (Visit α)} {v : Visit α}
  {out : Except Fault (List α)}

/-- The last visit in the record is the one that the earlier ones lead to. -/
theorem Concludes.followsCursors (hends : Concludes k earlier v out)
    (hlead : LeadTo earlier v.cursor) (hlt : earlier.length < bound) :
    FollowsCursors k bound (earlier ++ [v]) out := by
  -- With the concluding visit, the record asks for the cursors that led to it and its own.
  have hcursors : (earlier ++ [v]).map Visit.cursor = earlier.map Visit.cursor ++ [v.cursor] :=
    List.map_append
  refine
    { begins := fun _ => hcursors ▸ hlead.head?
      follows := ?_
      distinct := hcursors ▸ hlead.nodup
      nonempty := ?_
      succeeds_iff := fun es => ?_
      fails := fun w hw f hf => ?_
      misled := fun before w after fault hsplit hmisled => ?_
      fails_only := fun f hf => ?_
      within_bound := ?_
      ends := fun cursors hnamed => ⟨?_, fun _ => hends.ne_endless⟩ }
  · refine List.isChain_append.mpr ⟨hlead.isChain.1, List.isChain_singleton _, ?_⟩
    rintro w hw _ ⟨⟩
    exact hlead.isChain.2 w hw
  · intro w hw heq
    refine hlead.begin_not_mem_tail ?_
    rw [← hcursors, ← List.map_tail, ← heq]
    exact List.mem_map_of_mem hw
  · rw [hends.ok_iff]
    refine and_congr_right fun _ => ⟨fun hlast => ⟨_, _, rfl, hlead, hlast⟩, ?_⟩
    rintro ⟨earlier', last, heq, -, hlast⟩
    obtain ⟨-, heq⟩ := List.append_inj' heq rfl
    cases heq
    exact hlast
  -- The earlier visits were followed by others, so only the last one can have failed.
  · obtain hw | hw := List.mem_append.mp hw
    · exact absurd hf ((hlead.goes_on hw).2 f)
    · obtain rfl := List.mem_singleton.mp hw
      exact hends.of_failed hf
  -- A visit followed by another does not mislead, so it is the last one.
  · obtain rfl | ⟨after, u, rfl⟩ := List.eq_nil_or_concat' after
    · obtain ⟨rfl, heq⟩ := List.append_inj' hsplit rfl
      cases heq
      exact hends.of_misled hmisled
    · rw [← List.cons_append, ← List.append_assoc] at hsplit
      exact absurd hmisled (hlead.not_misleads (List.append_inj' hsplit rfl).1 fault)
  · have hmem : v ∈ earlier ++ [v] := List.mem_append_right _ (List.mem_singleton_self _)
    cases hends with
    | last => cases hf
    | failed hreply => exact .inl ⟨v, hmem, _, hreply⟩
    | misled hmisled => exact .inr (.inl ⟨earlier, v, _, rfl, hmisled⟩)
  · rw [List.length_append, List.length_singleton]
    exact hlt
  · rw [List.length_append, List.length_singleton]
    refine Nat.succ_le_succ (hlead.length_le_card fun w hw => ?_)
    exact hnamed w (List.mem_append_left _ hw)

/-- A walk that is cut off at the bound was still led on. -/
theorem LeadTo.followsCursors {cursor : Cursor} (hlead : LeadTo visits cursor)
    (hlength : visits.length = bound) :
    FollowsCursors k bound visits (.error (Failure.of .endless)) := by
  -- The walk was cut off, so no visit of the record is a last page, failed or misled.
  refine
    { begins := fun hpos => ?_
      follows := hlead.isChain.1
      distinct := hlead.nodup.of_append_left
      nonempty := ?_
      succeeds_iff := fun es => ⟨nofun, ?_⟩
      fails := fun w hw f hf => absurd hf ((hlead.goes_on hw).2 f)
      misled := fun _ _ _ fault hsplit hmisled =>
        absurd hmisled (hlead.not_misleads hsplit fault)
      fails_only := fun f hf => .inr (.inr ⟨(Except.error.inj hf).symm, hlength⟩)
      within_bound := hlength.le
      ends := fun cursors hnamed => ?_ }
  · cases visits with
    | nil => exact absurd hlength (Nat.ne_of_lt hpos)
    | cons v rest => exact hlead.head?
  · intro w hw heq
    cases visits with
    | nil => exact absurd hw List.not_mem_nil
    | cons v rest =>
      refine hlead.begin_not_mem_tail (List.mem_append_left _ ?_)
      rw [← heq]
      exact List.mem_map_of_mem hw
  · rintro ⟨-, earlier, last, rfl, -, hlast⟩
    exact absurd hlast (hlead.goes_on (List.mem_append_right _ (List.mem_singleton_self _))).1
  · have hle := hlead.length_le_card hnamed
    exact ⟨Nat.le_succ_of_le hle, fun hlt _ => by omega⟩

/-- A loop that ends in this way has followed the cursors. -/
theorem WalkEnds.followsCursors (h : WalkEnds k bound visits out) :
    FollowsCursors k bound visits out := by
  cases h with
  | concluded hlead hlt hends => exact hends.followsCursors hlead hlt
  | cut hlead hlength => exact hlead.followsCursors hlength

end

/-- Whatever a source of pages does, a walk through its pages follows the cursors that it is given.
    Keeping a record of the visits changes nothing, and neither does a larger bound once the walk
    ends. -/
theorem page_walk_follows_cursors (bound : σ → Nat) (k : Kind) (ask : Cursor → Call σ (Page α))
    (s : Session σ) :
    let out := (collectPages bound k ask).run s
    let recorded := (collectPages (fun w => bound w.1) k (withVisits ask)).run (s.map (·, []))
    recorded.1 = out.1 ∧ recorded.2.map Prod.fst = out.2 ∧
      FollowsCursors k (bound s.world) recorded.2.world.2 out.1 ∧
      ∀ larger : σ → Nat, bound s.world ≤ larger s.world →
        out.1 ≠ .error (Failure.of .endless) → (collectPages larger k ask).run s = out := by
  intro out recorded
  -- Forgetting the record leaves the walk as it is.
  have hprojects : Call.Projects Prod.fst (collectPages (fun w => bound w.1) k (withVisits ask))
      (collectPages bound k ask) :=
    .collectPages (f := Prod.fst) (fun _ => rfl) k fun cursor =>
      (Call.Annotates.annotated _ (ask cursor)).projects
  have hsame : out = (recorded.1, recorded.2.map Prod.fst) := hprojects (s.map (·, []))
  have hends : WalkEnds k (bound s.world) recorded.2.world.2 recorded.1 := by
    have h := walkPages_ends k ask (bound s.world) .begin .start [] 0 (s := s.map (·, [])) .start
      (fun c => Iff.rfl) rfl
    rwa [show (s.map (·, ([] : List (Visit α)))).world.2.length + bound s.world = bound s.world
      from Nat.zero_add _] at h
  rw [hsame]
  refine ⟨rfl, rfl, hends.followsCursors, fun larger hle hne => ?_⟩
  have hout : (collectPages bound k ask).run s = (recorded.1, recorded.2.map Prod.fst) := hsame
  rw [← hout] at hne ⊢
  exact walkPages_of_le k ask hle _ _ _ _ _ hne

end TenantSync
