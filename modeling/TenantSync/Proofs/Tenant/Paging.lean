import Mathlib.Algebra.Order.Floor.Div
import TenantSync.Proofs.Session.Keeping
import TenantSync.Proofs.Tenant.Listing

/-!
# What it takes to read an in-memory tenant

A snapshot of a tenant holds exactly its four lists, and taking it serves as many pages of objects
as the objects fill, at least one (`snapshot_is_lossless`).  With pages that hold nothing there is a
snapshot only of a tenant that has neither objects nor edges.

`Call.Adds W count n c` says what a call costs that succeeds: started in a world of `W`, it makes
the count grow by `n`.  Costs add up along a run (`Call.Adds.bind`, `SyncM.Adds.bind`), where what
was read before decides what comes next.
-/

namespace TenantSync

variable {σ α β γ : Type} {W : σ → Prop} {count : σ → Nat} {m n : Nat} {P : Prop} {x : α}

/-! ## What a success costs -/

namespace Call

/-- Whenever the call succeeds in a world of `W`, it has made the count grow by `n`. -/
def Adds (W : σ → Prop) (count : σ → Nat) (n : Nat) (c : Call σ α) : Prop :=
  ∀ s y s', W s.world → c.run s = (.ok y, s') → count s'.world = count s.world + n

/-- Whether somebody may cancel the run does not matter for what a call reads when it succeeds. -/
theorem Reads.of_ok {c : Call σ α} (h : Reads True W P x c) {s s' : Session σ} {y : α}
    (hw : W s.world) (hrun : c.run s = (.ok y, s')) : W s'.world ∧ y = x := by
  have hread := h s hw (.any _)
  rw [hrun] at hread
  exact ⟨hread.1, hread.2.2.2⟩

namespace Adds

/-- A call that keeps the count adds nothing to it. -/
theorem of_keeps {c : Call σ α} (h : Keeps count c) : Adds W count 0 c := by
  intro s y s' _ hrun
  have hkept := h s
  rw [hrun] at hkept
  exact hkept

/-- A call that always fails adds any number in case of success. -/
theorem of_fails {c : Call σ α} (h : ∀ s, ∃ f s', c.run s = (.error f, s')) :
    Adds W count n c := by
  intro s y s' _ hrun
  obtain ⟨f, t, hfails⟩ := h s
  rw [hfails] at hrun
  cases hrun

/-- Naming what one is doing keeps what is added. -/
theorem within {c : Call σ α} (a : Activity) (h : Adds W count n c) :
    Adds W count n (c.within a) := by
  intro s y s' hw hrun
  rw [run_within] at hrun
  rcases hc : c.run s with ⟨f | z, t⟩ <;> rw [hc] at hrun
  · cases hrun
  · obtain rfl : t = s' := congrArg Prod.snd hrun
    exact h s z t hw hc

/-- What is read by the first of two calls decides what the second is. -/
theorem bind {c : Call σ α} {f : α → Call σ β} (hread : Reads True W P x c)
    (hc : Adds W count m c) (hf : Adds W count n (f x)) : Adds W count (m + n) (c >>= f) := by
  intro s z s' hw hrun
  rw [run_bind] at hrun
  -- Both calls have succeeded, and the second found what the first read.
  rcases hfirst : c.run s with ⟨e | y, t⟩ <;> rw [hfirst] at hrun
  · cases hrun
  · obtain ⟨hwt, rfl⟩ := hread.of_ok hw hfirst
    have hm := hc s y t hw hfirst
    have hn := hf t z s' hwt hrun
    omega

/-- After what costs nothing, the rest makes the cost. -/
theorem after {c : Call σ α} {f : α → Call σ β} (hread : Reads True W P x c) (hc : Keeps count c)
    (hf : Adds W count n (f x)) : Adds W count n (c >>= f) := by
  have hall := bind hread (of_keeps hc) hf
  rwa [Nat.zero_add] at hall

end Adds

end Call

namespace SyncM

/-- Whenever the step succeeds in a world of `W`, it has made the count grow by `n`. -/
def Adds (W : σ → Prop) (count : σ → Nat) (n : Nat) (c : SyncM σ α) : Prop :=
  ∀ r y r', W r.world → c.run r = (.ok y, r') → count r'.world = count r.world + n

/-- What a reading step that succeeded has read. -/
theorem Reads.of_ok {c : SyncM σ α} (h : Reads True W P x c) {r r' : Run σ} {y : α}
    (hw : W r.world) (hrun : c.run r = (.ok y, r')) : W r'.world ∧ y = x := by
  obtain ⟨hw', -, -, -, hy⟩ := h.of_run hrun hw (.any _)
  exact ⟨hw', hy⟩

namespace Adds

/-- Returning a value adds nothing. -/
theorem pure (y : α) : Adds W count 0 (Pure.pure y : SyncM σ α) := by
  intro r z r' _ hrun
  obtain rfl : r = r' := congrArg Prod.snd hrun
  rfl

/-- An event adds nothing. -/
theorem emit (e : Event) : Adds W count 0 (SyncM.emit e : SyncM σ Unit) := by
  intro r z r' _ hrun
  obtain rfl : r.tell e = r' := congrArg Prod.snd hrun
  rfl

/-- A client's call costs the run what it costs the client. -/
theorem call {c : Call σ α} (h : Call.Adds W count n c) (a : Activity) :
    Adds W count n ((SyncM.call c).within a) := by
  intro r y r' hw hrun
  rw [run_within, run_call] at hrun
  rcases hc : c.run r.session with ⟨f | z, s⟩ <;> rw [hc] at hrun
  · cases hrun
  · obtain rfl : r.resume s = r' := congrArg Prod.snd hrun
    exact h r.session z s hw hc

/-- Two steps add up. -/
theorem bind {c : SyncM σ α} {f : α → SyncM σ β} (hread : Reads True W P x c)
    (hc : Adds W count m c) (hf : Adds W count n (f x)) : Adds W count (m + n) (c >>= f) := by
  intro r z r' hw hrun
  rw [run_bind] at hrun
  -- Both steps have succeeded, and the second found what the first read.
  rcases hfirst : c.run r with ⟨e | y, t⟩ <;> rw [hfirst] at hrun
  · cases hrun
  · obtain ⟨hwt, rfl⟩ := hread.of_ok hw hfirst
    have hm := hc r y t hw hfirst
    have hn := hf t z r' hwt hrun
    omega

/-- A step that adds nothing can come first. -/
theorem after {c : SyncM σ α} {f : α → SyncM σ β} (hread : Reads True W P x c)
    (hc : Adds W count 0 c) (hf : Adds W count n (f x)) : Adds W count n (c >>= f) := by
  have hall := bind hread hc hf
  rwa [Nat.zero_add] at hall

end Adds

end SyncM

namespace Tenant

/-! ## How many pages a list fills -/

/-- The number of pages that the rest of a list fills; even nothing takes a page. -/
def pagesFor (size rest : Nat) : Nat := max 1 (rest ⌈/⌉ size)

/-- What fits on a page takes one. -/
theorem pagesFor_of_le {size rest : Nat} (h : rest ≤ size) : pagesFor size rest = 1 := by
  rw [pagesFor, Nat.ceilDiv_eq_add_pred_div]
  rcases Nat.eq_zero_or_pos size with rfl | hsize
  · simp
  · have hdiv : (rest + size - 1) / size ≤ 1 := Nat.lt_succ_iff.mp (Nat.div_lt_of_lt_mul (by omega))
    omega

/-- A page that is full leaves the pages for what comes after it. -/
theorem pagesFor_add {size rest : Nat} (hsize : 0 < size) (hrest : 0 < rest) :
    pagesFor size (size + rest) = 1 + pagesFor size rest := by
  have hstep : (size + rest + size - 1) / size = (rest + size - 1) / size + 1 := by
    rw [show size + rest + size - 1 = (rest + size - 1) + size by omega, Nat.add_div_right _ hsize]
  have hsome : 1 ≤ (rest + size - 1) / size := (Nat.one_le_div_iff hsize).mpr (by omega)
  rw [pagesFor, pagesFor, Nat.ceilDiv_eq_add_pred_div, Nat.ceilDiv_eq_add_pred_div, hstep]
  omega

/-- A walk that gets through a list has asked for as many pages as the list fills. -/
theorem walkPages_adds {k : Kind} {ask : Cursor → Call σ (Page α)} {size : Nat} {items : List α}
    (hsize : 0 < size ∨ items = [])
    (hask : ∀ start ≤ items.length,
      Call.Reads True W P (pageAt size items start) (ask (cursorAt start)))
    (hadds : ∀ cursor, Call.Adds W count 1 (ask cursor))
    (bound start pages : Nat) (trail : Trail) (done : List α) (hstart : start ≤ items.length)
    (hwalk : start = 0 ∨ size ≤ items.length) :
    Call.Adds W count (pagesFor size (items.length - start))
      (walkPages k ask bound (cursorAt start) trail done pages) := by
  induction bound generalizing start pages trail done with
  | zero => exact .of_fails fun s => ⟨_, _, rfl⟩
  | succ bound ih =>
    have hread := (hask start hstart).within (.fetchingPage k (cursorAt start))
    have hpage := (hadds (cursorAt start)).within (.fetchingPage k (cursorAt start))
    rw [walkPages]
    by_cases hmore : start + size < items.length
    · -- This page is full, and the walk goes on behind it if the trail lets it.
      replace hsize : 0 < size := hsize.resolve_right fun he => by simp [he] at hmore
      have hrest : items.length - start = size + (items.length - (start + size)) := by omega
      rw [pageAt_of_lt hsize hmore] at hread
      rw [hrest, pagesFor_add hsize (by omega)]
      refine .bind hread hpage ?_
      simp only [if_true]
      cases trail.advance (cursorAt (start + size)) with
      | error fault => exact .of_fails fun s => ⟨_, _, rfl⟩
      | ok trail =>
        have hgo := ih (start + size) (pages + 1) trail
          (done ++ (items.take (start + size)).drop start) (by omega) (by omega)
        exact .after (Call.Reads.pure.within _) ((Call.Keeps.pure trail).within _) hgo
    · -- This page is the last one.
      rw [pageAt_of_le hstart hwalk (by omega)] at hread
      rw [pagesFor_of_le (by omega)]
      refine .bind hread hpage (n := 0) (.of_keeps ?_)
      exact (Call.Keeps.log _ _ _).bind fun _ => .pure _

/-! ## The pages of a tenant -/

section
variable {t : Tenant}

/-- Opening a listing asks for no page of objects. -/
theorem openListing_keeps (k : Kind) : Call.Keeps objectPages (openListing k) := by
  intro s
  rw [run_openListing]

/-- A page of objects that is served is counted. -/
theorem listObjects_adds (cursor : Cursor) :
    Call.Adds t.Unchanged objectPages 1 (listObjects cursor) := by
  refine .after (openListing_reads .object) (openListing_keeps .object) ?_
  rintro s page s' - hrun
  simp only [Call.run_bind, Call.run_world, Call.run_setWorld, Call.run_ofExcept] at hrun
  -- The page is counted before its cursor is read.
  cases hoffset : offset s.world.graph.objects.length cursor with
  | error fault =>
    rw [hoffset] at hrun
    cases hrun
  | ok start =>
    rw [hoffset] at hrun
    obtain rfl := congrArg Prod.snd hrun
    rfl

/-- Listing the object types asks for no page of objects. -/
theorem listObjectTypes_keeps : Call.Keeps objectPages listObjectTypes :=
  (openListing_keeps _).bind fun _ => Call.Keeps.world.bind fun _ => .pure _

/-- Listing the edge types asks for no page of objects. -/
theorem listEdgeTypes_keeps : Call.Keeps objectPages listEdgeTypes :=
  (openListing_keeps _).bind fun _ => Call.Keeps.world.bind fun _ => .pure _

/-- A page of edges is no page of objects. -/
theorem listEdges_keeps (cursor : Cursor) : Call.Keeps objectPages (listEdges cursor) :=
  (openListing_keeps _).bind fun _ => Call.Keeps.world.bind fun _ =>
    (Call.Keeps.ofExcept _ _).bind fun _ => .pure _

/-- All objects of a tenant take as many pages as they fill. -/
theorem collectObjects_adds (hsize : 0 < t.pageSize ∨ t.graph.objects = []) (endpoint : String) :
    Call.Adds t.Unchanged objectPages (pagesFor t.pageSize t.graph.objects.length)
      (collectPages (client endpoint).pageBound .object listObjects) := by
  intro s page s' hw hrun
  rw [collectPages, Call.run_bind, Call.run_world] at hrun
  -- Each cursor the listing gives out is read back as its position.
  have hread : ∀ start ≤ t.graph.objects.length,
      Call.Reads True t.Unchanged (.object ∉ t.unlisted) (pageAt t.pageSize t.graph.objects start)
        (listObjects (cursorAt start)) :=
    fun start hstart => listObjects_reads (offset_cursorAt hstart)
  exact walkPages_adds hsize hread listObjects_adds _ 0 _ _ _ (Nat.zero_le _) (.inl rfl) s page s'
    hw hrun

/-- The client of a tenant serves the tenant itself. -/
theorem serves_self {stops : Prop} (endpoint : String) :
    t.Serves stops t.Unchanged (client endpoint) where
  objectTypes := listObjectTypes_reads
  objects := listObjects_reads
  edgeTypes := listEdgeTypes_reads
  edges := listEdges_reads
  pageBound := by
    rintro w ⟨n, rfl⟩
    rfl

/-- All four listings answer if pages hold something or there is nothing to hold. -/
theorem forall_readable_iff (hlisted : t.unlisted = []) :
    (∀ k, t.Readable k) ↔ 0 < t.pageSize ∨ t.graph.objects = [] ∧ t.graph.edges = [] := by
  constructor
  · intro h
    by_cases hsize : 0 < t.pageSize
    · exact .inl hsize
    · have hobjects := ((h .object).2 (by decide)).resolve_left hsize
      have hedges := ((h .edge).2 (by decide)).resolve_left hsize
      exact .inr ⟨by simpa [Graph.entities] using hobjects, by simpa [Graph.entities] using hedges⟩
  · intro h k
    refine ⟨by simp [hlisted], fun hpaged => h.imp_right fun hnone => ?_⟩
    -- Only objects and edges come in pages.
    cases k with
    | object => simp [Graph.entities, hnone.1]
    | edge => simp [Graph.entities, hnone.2]
    | objectType | edgeType => exact absurd hpaged (by decide)

/-- Taking a snapshot takes the pages that the objects fill. -/
theorem fetchSnapshot_adds (hsize : 0 < t.pageSize ∨ t.graph.objects = []) (endpoint : String) :
    SyncM.Adds t.Unchanged objectPages (pagesFor t.pageSize t.graph.objects.length)
      (fetchSnapshot (client endpoint)) := by
  have hlists : (client endpoint).Lists True t.Unchanged t.Readable t.graph :=
    (serves_self endpoint).lists
  rw [fetchSnapshot]
  -- Only the listing of the objects is counted.
  refine .after ((SyncM.Reads.call hlists.objectTypes).within _)
    (.call (.of_keeps listObjectTypes_keeps) _) (.after (.emit _) (.emit _) ?_)
  refine .bind (n := 0) ((SyncM.Reads.call hlists.objects).within _)
    (.call (collectObjects_adds hsize endpoint) _) (.after (.emit _) (.emit _) ?_)
  refine .after ((SyncM.Reads.call hlists.edgeTypes).within _)
    (.call (.of_keeps listEdgeTypes_keeps) _) (.after (.emit _) (.emit _) ?_)
  refine .after ((SyncM.Reads.call hlists.edges).within _)
    (.call (.of_keeps (.collectPages _ _ listEdges_keeps)) _) (.after (.emit _) (.emit _) ?_)
  exact .pure _

end

/-- A snapshot of a tenant that nobody disturbs holds exactly its four lists in order; taking it
    serves as many pages of objects as the objects fill, at least one, and leaves all else as it
    was.  If pages hold nothing, there is a snapshot only of a tenant that has neither objects nor
    edges. -/
theorem snapshot_is_lossless {t : Tenant} (hlisted : t.unlisted = []) {r : Run Tenant}
    (hworld : r.world = t) (htoken : r.token = .fresh) :
    (0 < t.pageSize ∨ t.graph.objects = [] ∧ t.graph.edges = [] →
      ∃ r', (fetchSnapshot (client t.endpoint)).run r = (.ok t.graph, r') ∧
        r'.world = { t with
          objectPages := t.objectPages + max 1 (t.graph.objects.length ⌈/⌉ t.pageSize) }) ∧
    (t.pageSize = 0 → ¬ (t.graph.objects = [] ∧ t.graph.edges = []) →
      ∃ f r', (fetchSnapshot (client t.endpoint)).run r = (.error f, r')) := by
  have hwhole : t.Unchanged r.world := ⟨t.objectPages, hworld⟩
  have hreads : SyncM.Reads False t.Unchanged (∀ k, t.Readable k) t.graph
      (fetchSnapshot (client t.endpoint)) := fetchSnapshot_reads (serves_self t.endpoint).lists
  -- Reading gives the graph or fails, and it fails only where a page can hold nothing.
  rcases hrun : (fetchSnapshot (client t.endpoint)).run r with ⟨out, r'⟩
  obtain ⟨⟨n, hn⟩, -, -, hout⟩ := hreads.of_run hrun hwhole fun _ => htoken
  rw [forall_readable_iff hlisted] at hout
  constructor
  · intro hsize
    cases out with
    | error f => exact absurd hsize (hout.resolve_left id)
    | ok g =>
      obtain rfl : g = t.graph := hout.2
      have hcount := fetchSnapshot_adds (hsize.imp_right And.left) t.endpoint r _ r' hwhole hrun
      rw [hn, hworld] at hcount
      obtain rfl : n = t.objectPages + pagesFor t.pageSize t.graph.objects.length := hcount
      exact ⟨r', rfl, hn⟩
  · intro hzero hsome
    cases out with
    | error f => exact ⟨f, r', rfl⟩
    | ok g =>
      rcases hout.1 with hsize | hnone
      · omega
      · exact absurd hnone hsome

/-- A tenant that holds some objects, all alike, and serves pages of a given size. -/
def ofObjects (pageSize number : Nat) : Tenant :=
  .ofGraph "paged" pageSize { objects := List.replicate number default }

/-- Objects that fill their pages exactly leave no empty page behind. -/
theorem four_objects_fill_two_pages :
    ((ofObjects 2 4).unlisted = [] ∧ 0 < (ofObjects 2 4).pageSize) ∧
      ∃ r', (fetchSnapshot (client "paged")).run (.start (ofObjects 2 4) .fresh default) =
        (.ok (ofObjects 2 4).graph, r') ∧ r'.world.objectPages = 2 := by
  have hsize : 0 < (ofObjects 2 4).pageSize := by decide
  obtain ⟨r', hrun, hworld⟩ := (snapshot_is_lossless (t := ofObjects 2 4) rfl
    (r := .start (ofObjects 2 4) .fresh default) rfl rfl).1 (.inl hsize)
  refine ⟨⟨rfl, hsize⟩, r', hrun, ?_⟩
  rw [hworld]
  decide

end Tenant

end TenantSync
