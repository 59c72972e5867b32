import TenantSync.Proofs.Sync.Fetch
import TenantSync.Tenant.Basic

/-!
# The listings of an in-memory tenant

Every listing of a tenant reads exactly the list that the tenant holds, in order.  It fails when
the tenant was told to fail it, when its pages hold nothing although there is something to hold,
or when the run is cancelled, and it changes nothing but the count of the pages that were asked
for (`Serves.lists`; `Serves.lists_of_pages` where a page holds anything at all).

Cursors are decimal offsets, so this rests on reading back the number that was written
(`Numeral.parse_toString`).
-/

namespace TenantSync

/-! ## Offsets as cursors -/

namespace Numeral

/-- Reading digits goes on where a first part left off. -/
theorem digits_append (bound acc : Nat) (xs ys : List Char) :
    digits bound acc (xs ++ ys) = (digits bound acc xs).bind fun a => digits bound a ys := by
  induction xs generalizing acc with
  | nil => rfl
  | cons c xs ih =>
    simp only [List.cons_append, digits]
    split
    · rfl
    · split
      · exact ih _
      · rfl

/-- A digit's character is read as the digit. -/
private theorem digit?_digitChar {d : Nat} (h : d < 10) : digit? d.digitChar = some d := by
  have hall : ∀ d : Fin 10, digit? d.val.digitChar = some d.val := by decide
  exact hall ⟨d, h⟩

/-- The digits of a number that is not too large are read as that number. -/
theorem digits_toDigits {bound n : Nat} (h : n ≤ bound) :
    digits bound 0 (Nat.toDigits 10 n) = .ok n := by
  induction n using Nat.strongRecOn with
  | ind n ih =>
    by_cases hlt : n < 10
    · rw [Nat.toDigits_of_lt_base hlt]
      simp [digits, digit?_digitChar hlt, h]
    · -- All digits but the last are those of `n / 10`, which is read first.
      have hlast : n % 10 < 10 := Nat.mod_lt _ (by decide)
      have hval : n / 10 * 10 + n % 10 = n := by omega
      rw [Nat.toDigits_of_base_le (by decide) (by omega), digits_append,
        ih (n / 10) (by omega) (by omega)]
      simp [Except.bind, digits, digit?_digitChar hlast, hval, h]

/-- Decimal digits hold no sign. -/
private theorem plus_not_mem_toDigits (n : Nat) : '+' ∉ Nat.toDigits 10 n := by
  intro h
  have hd := Nat.isDigit_of_mem_toDigits (by decide) (by decide) h
  exact absurd hd (by decide)

/-- A number in range is read from its decimal text. -/
theorem parse_toString {bound n : Nat} (h : n ≤ bound) : parse bound (toString n) = .ok n := by
  have hlist : (toString n).toList = Nat.toDigits 10 n := Nat.toList_repr
  rw [parse, hlist]
  -- A number is written with at least one digit and without a sign.
  split
  · exact absurd ‹_› Nat.toDigits_ne_nil
  · exact absurd (by simp [*]) (plus_not_mem_toDigits n)
  · exact absurd (by simp [*]) (plus_not_mem_toDigits n)
  · exact digits_toDigits h

end Numeral

namespace Tenant

/-- The cursor of the page that starts at an offset. -/
def cursorAt (start : Nat) : Cursor := if start = 0 then .begin else ⟨toString start⟩

/-- The cursor of position 0 is the one to begin with. -/
theorem isBegin_cursorAt {start : Nat} : (cursorAt start).isBegin = true ↔ start = 0 := by
  rw [cursorAt]
  split
  · rename_i h
    simp [h, Cursor.isBegin, Cursor.begin]
  · rename_i h
    simp [h, Cursor.isBegin, Nat.repr_ne_empty]

/-- A cursor can be read back whatever the length of the list is. -/
theorem offset_cursorAt {start length : Nat} (h : start ≤ length) :
    offset length (cursorAt start) = .ok start := by
  rw [offset]
  split
  · rename_i hb
    rw [isBegin_cursorAt.mp hb]
  · rename_i hb
    rw [isBegin_cursorAt] at hb
    rw [cursorAt, if_neg hb, Numeral.parse_toString (by omega)]

/-- Different offsets have different cursors. -/
theorem cursorAt_injective {m n : Nat} (h : cursorAt m = cursorAt n) : m = n := by
  have hm := offset_cursorAt (Nat.le_max_left m n)
  rw [h, offset_cursorAt (Nat.le_max_right m n)] at hm
  exact (Except.ok.inj hm).symm

/-! ## Pages -/

section Pages
variable {α : Type} {size start : Nat} {items : List α}

/-- A page that is not the last names the offset behind it. -/
theorem pageAt_of_lt (hsize : 0 < size) (h : start + size < items.length) :
    pageAt size items start = ⟨(items.take (start + size)).drop start, true,
      cursorAt (start + size)⟩ := by
  have hbehind : behindPage size items.length start = start + size := by
    rw [behindPage, if_neg (by omega)]
  have hstop : min (start + size) items.length = start + size := by omega
  simp only [pageAt, hbehind, hstop, if_pos h, cursorAt, if_neg (by omega : ¬ start + size = 0)]

/-- The last page holds all the rest. -/
theorem pageAt_of_le (hstart : start ≤ items.length) (hwalk : start = 0 ∨ size ≤ items.length)
    (h : items.length ≤ start + size) :
    pageAt size items start = ⟨items.drop start, false, .begin⟩ := by
  have hbehind : behindPage size items.length start = start + size := by
    rw [behindPage, if_neg (by omega)]
  have hstop : min (start + size) items.length = items.length := by omega
  simp only [pageAt, hbehind, hstop, Nat.lt_irrefl, if_false, List.take_length]

end Pages

section Walks
variable {σ α : Type} {stops : Prop} {W : σ → Prop} {P : Prop} {k : Kind}
  {ask : Cursor → Call σ (Page α)} {size : Nat} {items : List α}

/-- A walk from an offset on adds exactly the rest of the list. -/
theorem walkPages_reads (hsize : 0 < size ∨ items = [])
    (hask : ∀ start ≤ items.length,
      Call.Reads stops W P (pageAt size items start) (ask (cursorAt start)))
    (bound start pages : Nat) (trail : Trail) (hstart : start ≤ items.length)
    (hwalk : start = 0 ∨ size ≤ items.length)
    (htrail : ∀ c ∈ trail.asked, ∃ i ≤ start, c = cursorAt i)
    (hbound : items.length < start + bound) :
    Call.Reads stops W P items
      (walkPages k ask bound (cursorAt start) trail (items.take start) pages) := by
  -- The trail holds only cursors of offsets passed, and every step passes at least one more.
  induction bound generalizing start pages trail with
  | zero => omega
  | succ bound ih =>
    have hpage := (hask start hstart).within (.fetchingPage k (cursorAt start))
    rw [walkPages]
    by_cases hmore : start + size < items.length
    · -- Another page follows: its cursor is new, and the rest is read from there.
      replace hsize : 0 < size := hsize.resolve_right fun he => by simp [he] at hmore
      have hadv : trail.advance (cursorAt (start + size)) =
          .ok ⟨cursorAt (start + size) :: trail.asked⟩ := by
        refine Trail.advance_eq_ok_iff.mpr ⟨?_, fun hc => ?_, rfl⟩
        · rw [← Bool.not_eq_true, isBegin_cursorAt]
          omega
        · obtain ⟨i, hi, he⟩ := htrail _ hc
          have := cursorAt_injective he
          omega
      have hdone : items.take start ++ (items.take (start + size)).drop start =
          items.take (start + size) := by
        have := List.take_append_drop start (items.take (start + size))
        rwa [List.take_take, Nat.min_eq_left (by omega)] at this
      have hrest := ih (start + size) (pages + 1) ⟨cursorAt (start + size) :: trail.asked⟩
        (by omega) (by omega) ?_ (by omega)
      · rw [pageAt_of_lt hsize hmore] at hpage
        refine (hpage.bind (Q := True ∧ P) ?_).congr (by simp)
        simp only [if_true, hadv, hdone]
        exact (Call.Reads.pure.within _).bind hrest
      · intro c hc
        rcases List.mem_cons.mp hc with rfl | hc
        · exact ⟨start + size, by omega, rfl⟩
        · obtain ⟨i, hi, rfl⟩ := htrail c hc
          exact ⟨i, by omega, rfl⟩
    · -- This page is the last one, and the walk stops with what it has.
      rw [pageAt_of_le hstart hwalk (by omega)] at hpage
      refine (hpage.bind (Q := True ∧ True) ?_).congr (by simp)
      simp only [List.take_append_drop]
      exact (Call.Reads.log _ _ _).bind Call.Reads.pure

/-- A walk that is given the same page again and again, with more to follow, comes to no end. -/
theorem walkPages_reads_nothing (page : Page α) (hnext : page.hasNext = true)
    (hask : ∀ c, c = .begin ∨ c = page.next → Call.Reads stops W P page (ask c)) (bound : Nat)
    {cursor : Cursor} (hcursor : cursor = .begin ∨ cursor = page.next) (trail : Trail)
    (done : List α) (pages : Nat) :
    Call.Reads stops W False items (walkPages k ask bound cursor trail done pages) := by
  induction bound generalizing cursor trail done pages with
  | zero => exact .fail _
  | succ bound ih =>
    refine (((hask cursor hcursor).within _).bind (Q := False) ?_).congr (iff_of_eq (and_false _))
    simp only [hnext, if_true]
    -- Whether or not the trail has seen the cursor, the walk does not end here.
    cases trail.advance page.next with
    | error fault => exact ((Call.Reads.fail (x := trail) _).within _).bind_of_false
    | ok trail =>
      refine Call.Reads.congr (iff_of_eq (true_and _)) ?_
      exact (Call.Reads.pure.within _).bind (ih (.inr rfl) _ _ _)

/-- A page without room, of a list that is not empty, promises another one. -/
theorem pageAt_zero (h : items ≠ []) : pageAt 0 items 0 = ⟨[], true, ⟨toString 0⟩⟩ := by
  have hlen : 0 < items.length := List.length_pos_iff.mpr h
  simp [pageAt, behindPage, hlen]

/-- A walk from the beginning reads the whole list, unless its pages hold nothing and there is
    something to hold. -/
theorem collectPages_reads {bound : σ → Nat}
    (hask : ∀ c start, start ≤ items.length → offset items.length c = .ok start →
      Call.Reads stops W P (pageAt size items start) (ask c))
    (hbound : ∀ w, W w → items.length < bound w) :
    Call.Reads stops W (P ∧ (0 < size ∨ items = [])) items (collectPages bound k ask) := by
  intro s hw ht
  rw [collectPages, Call.run_bind, Call.run_world]
  by_cases hsize : 0 < size ∨ items = []
  · have hread := walkPages_reads (k := k) hsize
      (fun start h => hask (cursorAt start) start h (offset_cursorAt h)) (bound s.world) 0 0
      Trail.start (Nat.zero_le _) (.inl rfl)
      (fun c hc => ⟨0, Nat.le_refl 0, List.mem_singleton.mp hc⟩) (by have := hbound _ hw; omega)
    exact hread.congr (and_iff_left hsize).symm s hw ht
  · -- The second page starts at the beginning again, and so do all that follow.
    obtain ⟨hzero, hne⟩ := not_or.mp hsize
    obtain rfl : size = 0 := by omega
    have hpage : ∀ c, c = .begin ∨ c = ⟨toString 0⟩ →
        Call.Reads stops W P ⟨[], true, ⟨toString 0⟩⟩ (ask c) := by
      intro c hc
      rw [← pageAt_zero hne]
      refine hask c 0 (Nat.zero_le _) ?_
      rcases hc with rfl | rfl
      · rfl
      · rw [offset, if_neg (by decide), Numeral.parse_toString (Nat.zero_le _)]
    have hread : Call.Reads stops W False items
        (walkPages k ask (bound s.world) .begin Trail.start [] 0) :=
      walkPages_reads_nothing ⟨[], true, ⟨toString 0⟩⟩ rfl hpage _ (.inl rfl) _ _ _
    exact hread.congr (iff_of_false id fun h => hsize h.2) s hw ht

end Walks

/-! ## The four listings -/

/-- The tenant, but for how many pages of objects were asked for. -/
def Unchanged (t w : Tenant) : Prop := ∃ n, w = { t with objectPages := n }

section Listings
variable {stops : Prop} {t : Tenant}

/-- A listing opens unless the tenant withholds its kind. -/
theorem openListing_reads (k : Kind) :
    Call.Reads stops t.Unchanged (k ∉ t.unlisted) () (openListing k) := by
  rintro s ⟨n, hw⟩ ht
  rw [run_openListing]
  refine ⟨⟨n, hw⟩, ht.look, ?_⟩
  have hunlisted : s.world.unlisted = t.unlisted := by rw [hw]
  rw [hunlisted]
  -- The token is looked at first, then the kinds that are withheld.
  by_cases hc : s.token.look.cancelled = true
  · rw [if_pos hc]
    exact .inl (ht.stops_of_look hc)
  rw [if_neg hc]
  by_cases hk : k ∈ t.unlisted
  · rw [if_pos hk]
    exact .inr (not_not_intro hk)
  · rw [if_neg hk]
    exact ⟨hk, rfl⟩

/-- The object types are read in one piece. -/
theorem listObjectTypes_reads :
    Call.Reads stops t.Unchanged (.objectType ∉ t.unlisted) t.graph.objectTypes
      listObjectTypes := by
  refine ((openListing_reads _).bind (Q := True) ?_).congr (and_iff_left trivial)
  rintro s ⟨n, hw⟩ ht
  simp only [Call.run_bind, Call.run_world, Call.run_pure]
  exact ⟨⟨n, hw⟩, ht, trivial, by rw [hw]⟩

/-- The edge types are read in one piece. -/
theorem listEdgeTypes_reads :
    Call.Reads stops t.Unchanged (.edgeType ∉ t.unlisted) t.graph.edgeTypes listEdgeTypes := by
  refine ((openListing_reads _).bind (Q := True) ?_).congr (and_iff_left trivial)
  rintro s ⟨n, hw⟩ ht
  simp only [Call.run_bind, Call.run_world, Call.run_pure]
  exact ⟨⟨n, hw⟩, ht, trivial, by rw [hw]⟩

/-- Objects are read one page at a time. -/
theorem listObjects_reads {c : Cursor} {start : Nat}
    (hc : offset t.graph.objects.length c = .ok start) :
    Call.Reads stops t.Unchanged (.object ∉ t.unlisted)
      (pageAt t.pageSize t.graph.objects start) (listObjects c) := by
  refine ((openListing_reads _).bind (Q := True) ?_).congr (and_iff_left trivial)
  rintro s ⟨n, hw⟩ ht
  simp only [Call.run_bind, Call.run_world, Call.run_setWorld, hw, hc]
  exact ⟨⟨n + 1, rfl⟩, ht, trivial, rfl⟩

/-- Edges are read one page at a time. -/
theorem listEdges_reads {c : Cursor} {start : Nat}
    (hc : offset t.graph.edges.length c = .ok start) :
    Call.Reads stops t.Unchanged (.edge ∉ t.unlisted)
      (pageAt t.pageSize t.graph.edges start) (listEdges c) := by
  refine ((openListing_reads _).bind (Q := True) ?_).congr (and_iff_left trivial)
  rintro s ⟨n, hw⟩ ht
  simp only [Call.run_bind, Call.run_world, hw, hc]
  exact ⟨⟨n, hw⟩, ht, trivial, rfl⟩

/-- Whether the listing of a kind answers unless the run is cancelled: it was not told to fail, and
    if the kind comes in pages, these hold something or there is nothing to hold. -/
def Readable (t : Tenant) (k : Kind) : Prop :=
  k ∉ t.unlisted ∧ (k ∈ [Kind.object, Kind.edge] → 0 < t.pageSize ∨ t.graph.entities k = [])

/-- The calls of a client read the lists of a tenant, the paged ones page by page. -/
structure Serves {σ : Type} (stops : Prop) (W : σ → Prop) (t : Tenant) (c : Client σ) : Prop where
  objectTypes : Call.Reads stops W (.objectType ∉ t.unlisted) t.graph.objectTypes c.listObjectTypes
  objects : ∀ {cursor start}, offset t.graph.objects.length cursor = .ok start →
    Call.Reads stops W (.object ∉ t.unlisted) (pageAt t.pageSize t.graph.objects start)
      (c.listObjects cursor)
  edgeTypes : Call.Reads stops W (.edgeType ∉ t.unlisted) t.graph.edgeTypes c.listEdgeTypes
  edges : ∀ {cursor start}, offset t.graph.edges.length cursor = .ok start →
    Call.Reads stops W (.edge ∉ t.unlisted) (pageAt t.pageSize t.graph.edges start)
      (c.listEdges cursor)
  pageBound : ∀ w, W w → c.pageBound w = t.graph.objects.length + t.graph.edges.length + 2

/-- The client of a tenant serves it, also when the tenant is a part of a larger state. -/
theorem client_serves {σ : Type} {l : Lens σ Tenant} {W : σ → Prop}
    (hget : ∀ w, W w → t.Unchanged (l.get w)) (hset : ∀ w u, W w → t.Unchanged u → W (l.set u w))
    (endpoint : String) : t.Serves stops W ((client endpoint).zoom l) where
  objectTypes := listObjectTypes_reads.zoom hget hset
  objects hc := (listObjects_reads hc).zoom hget hset
  edgeTypes := listEdgeTypes_reads.zoom hget hset
  edges hc := (listEdges_reads hc).zoom hget hset
  pageBound w hw := by
    obtain ⟨n, hn⟩ := hget w hw
    simp only [Client.zoom, client, hn]

/-- Who serves a tenant lists its graph. -/
theorem Serves.lists {σ : Type} {W : σ → Prop} {c : Client σ} (h : t.Serves stops W c) :
    c.Lists stops W t.Readable t.graph := by
  refine {
    objectTypes := h.objectTypes.congr (by simp [Readable])
    objects := (collectPages_reads (fun _ _ _ hc => h.objects hc)
      fun w hw => ?_).congr (by simp [Readable, Graph.entities])
    edgeTypes := h.edgeTypes.congr (by simp [Readable])
    edges := (collectPages_reads (fun _ _ _ hc => h.edges hc)
      fun w hw => ?_).congr (by simp [Readable, Graph.entities]) }
  -- The bound exceeds the number of entities, which is all a walk needs.
  all_goals
    rw [h.pageBound w hw]
    omega

/-- Where pages hold something, a listing answers unless it was told to fail. -/
theorem readable_iff (hsize : 0 < t.pageSize) (k : Kind) : t.Readable k ↔ k ∉ t.unlisted :=
  and_iff_left fun _ => .inl hsize

/-- Who serves a tenant whose pages hold something lists its graph; a kind's listing answers unless
    it was told to fail. -/
theorem Serves.lists_of_pages {σ : Type} {W : σ → Prop} {c : Client σ} (h : t.Serves stops W c)
    (hsize : 0 < t.pageSize) : c.Lists stops W (· ∉ t.unlisted) t.graph :=
  ⟨h.lists.objectTypes.congr (readable_iff hsize _), h.lists.objects.congr (readable_iff hsize _),
    h.lists.edgeTypes.congr (readable_iff hsize _), h.lists.edges.congr (readable_iff hsize _)⟩

end Listings

end Tenant

end TenantSync
