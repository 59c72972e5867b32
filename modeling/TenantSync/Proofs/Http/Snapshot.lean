import TenantSync.Proofs.Http.Serving
import TenantSync.Proofs.Web.Form
import TenantSync.Proofs.Wire.Documents
import TenantSync.Sync.Fetch

/-!
# Snapshots over the network

A host serves a collection as a `Walk`: page after page, each after some troubles that a client
gets over by asking again, each but the last with the cursor of the next one.  Whatever the pages,
cursors and troubles are, a snapshot holds exactly the entities of the four walks, and what the
host is asked are the pages in order, each as often as there is a reply for it
(`snapshot_of_walks`).
-/

namespace TenantSync

open Http
open Http.Network (asked unsigned asksForToken)

/-! ## Walks -/

/-- How a host serves one page: what goes wrong first, and the answer with its entities. -/
structure Leg (α : Type) where
  troubles : List Reply
  entities : List α
  answer : Response

namespace Leg

variable {α : Type} (leg : Leg α)

/-- The replies of a host that serves the page. -/
def replies : List Reply := leg.troubles ++ [.answer leg.answer]

end Leg

/-- How a host serves a collection: the pages to the last one.  What the last page names as the
    cursor of the next one has no meaning. -/
inductive Walk (α : Type) where
  | last (leg : Leg α) (named? : Option String)
  | more (leg : Leg α) (next : String) (rest : Walk α)

/-- A reply after which a client asks again. -/
def Transient (s : Service) (reply : Reply) : Prop :=
  reply = .drop ∨ ∃ r, reply = .answer r ∧ s.resilience.retry.retries r.status.code = true

/-- The page is served: there are fewer troubles than attempts, and the body of the answer is the
    document of the page, in which fields that have their default may be left out. -/
structure Leg.Serves {α : Type} (s : Service) (f : α → Entity) (leg : Leg α) (hasNext : Bool)
    (next? : Option String) : Prop where
  transient : ∀ reply ∈ leg.troubles, Transient s reply
  few : leg.troubles.length < max 1 s.resilience.retry.maxAttempts
  status : leg.answer.status = ⟨200⟩
  body : ∃ doc, Wire.Abridges (Wire.ofPage (leg.entities.map f) hasNext next?) doc ∧
    leg.answer.body? = some doc.text

namespace Walk

variable {α : Type}

/-- The entities of all pages. -/
def entities : Walk α → List α
  | last leg _ => leg.entities
  | more leg _ rest => leg.entities ++ rest.entities

/-- The replies for all pages. -/
def replies : Walk α → List Reply
  | last leg _ => leg.replies
  | more leg _ rest => leg.replies ++ rest.replies

/-- The cursors of the pages after the first. -/
def cursors : Walk α → List Cursor
  | last _ _ => []
  | more _ next rest => ⟨next⟩ :: rest.cursors

/-- For each reply the cursor of the page that it is for. -/
def attempts : Walk α → Cursor → List Cursor
  | last leg _, cursor => List.replicate leg.replies.length cursor
  | more leg next rest, cursor =>
    List.replicate leg.replies.length cursor ++ rest.attempts ⟨next⟩

/-- All pages are served. -/
def Serves (s : Service) (f : α → Entity) : Walk α → Prop
  | last leg named? => leg.Serves s f false named?
  | more leg next rest => leg.Serves s f true (some next) ∧ rest.Serves s f

/-- The walk is served, its cursors are pairwise distinct, and none is empty. -/
structure Leads (s : Service) (f : α → Entity) (w : Walk α) : Prop where
  serves : w.Serves s f
  distinct : w.cursors.Nodup
  nonempty : Cursor.begin ∉ w.cursors

/-- From the first page the walk leads on: the trail takes its cursor, which the rest does not come
    back to. -/
theorem Leads.step {s : Service} {f : α → Entity} {leg : Leg α} {next : String} {rest : Walk α}
    (hw : (more leg next rest).Leads s f) {trail : Trail}
    (htrail : ∀ c ∈ (more leg next rest).cursors, c ∉ trail.asked) :
    leg.Serves s f true (some next) ∧ rest.Leads s f ∧
      trail.advance ⟨next⟩ = .ok ⟨⟨next⟩ :: trail.asked⟩ ∧
      ∀ c ∈ rest.cursors, c ∉ (⟨⟨next⟩ :: trail.asked⟩ : Trail).asked := by
  obtain ⟨⟨hleg, hrest⟩, hdistinct, hnonempty⟩ := hw
  rw [cursors, List.nodup_cons] at hdistinct
  rw [cursors, List.mem_cons, not_or] at hnonempty
  rw [cursors, List.forall_mem_cons] at htrail
  -- The trail refuses the beginning and the cursors it holds; this is neither.
  have hbegin : (⟨next⟩ : Cursor).isBegin = false := by
    rw [← Bool.not_eq_true, Cursor.isBegin_iff]
    exact Ne.symm hnonempty.1
  refine ⟨hleg, ⟨hrest, hdistinct.2, hnonempty.2⟩,
    Trail.advance_eq_ok_iff.mpr ⟨hbegin, htrail.1, rfl⟩, fun c hc hmem => ?_⟩
  obtain rfl | hmem := List.mem_cons.mp hmem
  · exact hdistinct.1 hc
  · exact htrail.2 c hc hmem

/-- Every page of a walk but the first has a cursor, and every page takes a reply at least. -/
theorem cursors_length_lt (w : Walk α) : w.cursors.length < w.replies.length := by
  induction w with
  | last => simp [cursors, replies, Leg.replies]
  | more leg next rest ih =>
    simp only [cursors, replies, Leg.replies, List.length_append, List.length_cons, List.length_nil]
    omega

end Walk

/-! ## Requests for pages -/

/-- The request asks for the page at a cursor of a collection: its query, read as the fields of a
    form, holds the cursor, except for the first page, and the size of a page. -/
structure AsksForPage (s : Service) (collection : String) (cursor : Cursor) (r : Request) :
    Prop where
  method : r.method = .get
  body : r.body = .none
  url : ∃ query, r.url = { s.base.join ["authz", collection] with query? := some query } ∧
    Form.decode query = some
      ((if cursor = .begin then [] else [("starting_after", cursor.value)]) ++
        [("limit", toString s.resilience.pageSize)])

namespace Http.Service

open Call

variable {s : Service} {α : Type}

/-- The request for a page, without its token. -/
def pageRequest (s : Service) (collection : String) (cursor : Cursor) : Request :=
  ⟨.get, s.pageUrl collection cursor, none, .none⟩

/-- The request for a page asks for it. -/
theorem asksForPage_pageRequest (collection : String) (cursor : Cursor) :
    AsksForPage s collection cursor (s.pageRequest collection cursor) := by
  refine ⟨rfl, rfl, _, rfl, ?_⟩
  rw [Form.decode_encode]
  by_cases h : cursor = .begin
  · rw [if_pos h, if_pos (Cursor.isBegin_iff.mpr h)]
  · rw [if_neg h, if_neg (mt Cursor.isBegin_iff.mp h)]

/-- A client asks again as long as there is trouble, and once more. -/
theorem getFrom_exchanges (url : Url) (hurl : s.base.authority = url.authority)
    {troubles : List Reply} (htroubles : ∀ reply ∈ troubles, Transient s reply) {r : Response}
    (hr : s.resilience.retry.retries r.status.code = false) {left : Nat}
    (hleft : troubles.length ≤ left) (attempt : Nat) :
    Exchanges s (troubles ++ [.answer r])
      (List.replicate (troubles ++ [Reply.answer r]).length ⟨.get, url, none, .none⟩) (· = r)
      (s.getFrom url left attempt) := by
  induction troubles generalizing left attempt with
  | nil =>
    -- The answer is taken, whether attempts are left or not.
    have hask := ask_exchanges hurl attempt (rfl : (Reply.answer r).heard? = some (.ok r))
    cases left with
    | zero =>
      rw [getFrom]
      refine hask.before ?_
      rintro _ rfl
      exact Exchanges.pure rfl
    | succ left =>
      rw [getFrom]
      refine hask.before ?_
      rintro _ rfl
      simp only [hr]
      exact Exchanges.pure rfl
  | cons reply troubles ih =>
    rw [List.forall_mem_cons] at htroubles
    -- There is an attempt left for each trouble, and one is taken by the first.
    obtain ⟨left, rfl⟩ := Nat.exists_eq_add_one.mpr (Nat.zero_lt_of_lt hleft)
    have hagain := ih htroubles.2 (Nat.le_of_succ_le_succ hleft) (attempt + 1)
    rw [getFrom]
    obtain rfl | ⟨trouble, rfl, hretry⟩ := htroubles.1
    · refine (ask_exchanges hurl attempt (rfl : Reply.drop.heard? = some (.error .dropped))).bind ?_
      rintro _ rfl
      refine (Exchanges.log _ _ _).after fun _ _ => ?_
      exact (pause_exchanges _).after fun _ _ => hagain
    · refine (ask_exchanges hurl attempt
        (rfl : (Reply.answer trouble).heard? = some (.ok trouble))).bind ?_
      rintro _ rfl
      simp only [hretry, if_true]
      refine (Exchanges.log _ _ _).after fun _ _ => ?_
      exact (pause_exchanges _).after fun _ _ => hagain

/-- A page is read from the answer behind its troubles. -/
theorem getPage_exchanges {f : α → Entity} {d : Json.Decoder α}
    (hd : ∀ x, Wire.Understands d (Wire.ofEntity (f x)) x) {leg : Leg α} {hasNext : Bool}
    {next? : Option String} (hleg : leg.Serves s f hasNext next?)
    (hok : s.resilience.retry.retries 200 = false) (collection : String) (cursor : Cursor) :
    Exchanges s leg.replies (List.replicate leg.replies.length (s.pageRequest collection cursor))
      (· = ⟨leg.entities, hasNext, ⟨next?.getD ""⟩⟩) (s.getPage collection d cursor) := by
  obtain ⟨doc, hdoc, hbody⟩ := hleg.body
  -- The body is a page document, perhaps with more fields, and is decoded as the page.
  have hread : readBody (Wire.page d) leg.answer =
      .ok ⟨leg.entities, hasNext, ⟨next?.getD ""⟩⟩ := by
    simp only [readBody, hbody]
    exact Json.decode_text (Wire.Understands.page (fun x _ => hd x) hasNext next? doc hdoc)
  have hsuccess : leg.answer.status.isSuccess = true := by
    rw [hleg.status]
    rfl
  -- The troubles before the answer fit into the attempts there are.
  have hfew : leg.troubles.length ≤ s.resilience.retry.maxAttempts - 1 := by
    have h := hleg.few
    omega
  have hget := getFrom_exchanges (s := s) (s.pageUrl collection cursor) rfl hleg.transient
    (r := leg.answer) (by rw [hleg.status]; exact hok) hfew 1
  rw [getPage]
  refine hget.before ?_
  rintro _ rfl
  refine (checkStatus_exchanges _ _ hsuccess).after ?_
  rintro _ rfl
  exact (Exchanges.ofExcept (Q := (· = _)) _ hread rfl).within _

/-- The requests for the pages of a walk, each as often as there is a reply for it. -/
def walkRequests (s : Service) (collection : String) (w : Walk α) (cursor : Cursor) :
    List Request :=
  (w.attempts cursor).map (s.pageRequest collection)

/-- A page is asked for once for each of its replies, and then the walk goes on. -/
theorem walkRequests_more (collection : String) (leg : Leg α) (next : String) (rest : Walk α)
    (cursor : Cursor) :
    s.walkRequests collection (.more leg next rest) cursor =
      List.replicate leg.replies.length (s.pageRequest collection cursor) ++
        s.walkRequests collection rest ⟨next⟩ := by
  rw [walkRequests, Walk.attempts, List.map_append, List.map_replicate, walkRequests]

/-- The client's own walk through a collection. -/
theorem getRest_exchanges {f : α → Entity} {d : Json.Decoder α}
    (hd : ∀ x, Wire.Understands d (Wire.ofEntity (f x)) x)
    (hok : s.resilience.retry.retries 200 = false) (collection : String) {w : Walk α}
    (hw : w.Leads s f) {bound : Nat} (hbound : w.cursors.length < bound) (cursor : Cursor)
    {trail : Trail} (htrail : ∀ c ∈ w.cursors, c ∉ trail.asked) (done : List α) :
    Exchanges s w.replies (s.walkRequests collection w cursor) (· = done ++ w.entities)
      (s.getRest collection d bound cursor trail done) := by
  -- The trail holds what was asked so far.  The cursors to come are not in it, so no page is
  -- refused for leading back.
  induction w generalizing bound cursor trail done with
  | last leg named? =>
    obtain ⟨bound, rfl⟩ := Nat.exists_eq_add_one.mpr (Nat.zero_lt_of_lt hbound)
    rw [walkRequests, Walk.attempts, List.map_replicate, getRest]
    refine (getPage_exchanges hd hw.serves hok collection cursor).before ?_
    rintro _ rfl
    exact Exchanges.pure rfl
  | more leg next rest ih =>
    obtain ⟨bound, rfl⟩ := Nat.exists_eq_add_one.mpr (Nat.zero_lt_of_lt hbound)
    obtain ⟨hleg, hrest, hadvance, hlater⟩ := hw.step htrail
    have hgo := ih hrest (Nat.lt_of_succ_lt_succ hbound) ⟨next⟩ hlater (done ++ leg.entities)
    rw [walkRequests_more, Walk.replies, getRest]
    refine (getPage_exchanges hd hleg hok collection cursor).bind ?_
    rintro _ rfl
    refine ((Exchanges.ofExcept (Q := (· = _)) _ hadvance rfl).within _).after ?_
    rintro _ rfl
    rw [Walk.entities, ← List.append_assoc]
    exact hgo

/-- Every page takes a reply, so the bound is never what ends a walk. -/
theorem cursors_length_lt_pageBound {w : Walk α} {c : Connection}
    (h : w.replies.length ≤ c.network.prepared) : w.cursors.length < pageBound c := by
  have hlt := w.cursors_length_lt
  rw [pageBound]
  omega

/-- None of the cursors was followed before the walk. -/
theorem not_mem_start {f : α → Entity} {w : Walk α} (hw : w.Leads s f) :
    ∀ c ∈ w.cursors, c ∉ Trail.start.asked := by
  intro c hc hmem
  rw [Trail.start, List.mem_singleton] at hmem
  exact hw.nonempty (hmem ▸ hc)

/-- A collection is read page by page, with one request for each reply. -/
theorem getAll_exchanges {f : α → Entity} {d : Json.Decoder α}
    (hd : ∀ x, Wire.Understands d (Wire.ofEntity (f x)) x)
    (hok : s.resilience.retry.retries 200 = false) (collection : String) {w : Walk α}
    (hw : w.Leads s f) :
    Exchanges s w.replies (s.walkRequests collection w .begin) (· = w.entities)
      (s.getAll collection d) := by
  refine Exchanges.world_bind fun c hc => ?_
  have h := getRest_exchanges hd hok collection hw (cursors_length_lt_pageBound hc) .begin
    (not_mem_start hw) []
  rwa [List.nil_append] at h

/-- The engine's walk through a collection, which asks the client for one page after another. -/
theorem walkPages_exchanges {f : α → Entity} {d : Json.Decoder α}
    (hd : ∀ x, Wire.Understands d (Wire.ofEntity (f x)) x)
    (hok : s.resilience.retry.retries 200 = false) (collection : String) (k : Kind) {w : Walk α}
    (hw : w.Leads s f) {bound : Nat} (hbound : w.cursors.length < bound) (cursor : Cursor)
    {trail : Trail} (htrail : ∀ c ∈ w.cursors, c ∉ trail.asked) (done : List α) (pages : Nat) :
    Exchanges s w.replies (s.walkRequests collection w cursor) (· = done ++ w.entities)
      (walkPages k (s.getPage collection d) bound cursor trail done pages) := by
  -- By induction on the walk: one page, and the rest of the walk from the cursor it names.
  induction w generalizing bound cursor trail done pages with
  | last leg named? =>
    obtain ⟨bound, rfl⟩ := Nat.exists_eq_add_one.mpr (Nat.zero_lt_of_lt hbound)
    rw [walkRequests, Walk.attempts, List.map_replicate, walkPages]
    refine ((getPage_exchanges hd hw.serves hok collection cursor).within _).before ?_
    rintro _ rfl
    exact (Exchanges.log _ _ _).after fun _ _ => Exchanges.pure rfl
  | more leg next rest ih =>
    obtain ⟨bound, rfl⟩ := Nat.exists_eq_add_one.mpr (Nat.zero_lt_of_lt hbound)
    -- The next cursor is a new one, so the trail advances.
    obtain ⟨hleg, hrest, hadvance, hlater⟩ := hw.step htrail
    have hgo := ih hrest (Nat.lt_of_succ_lt_succ hbound) ⟨next⟩ hlater (done ++ leg.entities)
      (pages + 1)
    rw [walkRequests_more, Walk.replies, walkPages]
    refine ((getPage_exchanges hd hleg hok collection cursor).within _).bind ?_
    rintro _ rfl
    refine ((Exchanges.ofExcept (Q := (· = _)) _ hadvance rfl).within _).after ?_
    rintro _ rfl
    rw [Walk.entities, ← List.append_assoc]
    exact hgo

/-- So it is when the engine asks for the pages. -/
theorem collectPages_exchanges {f : α → Entity} {d : Json.Decoder α}
    (hd : ∀ x, Wire.Understands d (Wire.ofEntity (f x)) x)
    (hok : s.resilience.retry.retries 200 = false) (collection : String) (k : Kind) {w : Walk α}
    (hw : w.Leads s f) :
    Exchanges s w.replies (s.walkRequests collection w .begin) (· = w.entities)
      (collectPages pageBound k (s.getPage collection d)) := by
  refine Exchanges.world_bind fun c hc => ?_
  have h := walkPages_exchanges hd hok collection k hw (cursors_length_lt_pageBound hc) .begin
    (not_mem_start hw) [] 0
  rwa [List.nil_append] at h

end Http.Service

/-! ## Snapshots -/

open Http.Service

/-- How a host serves the four collections. -/
structure Walks where
  objectTypes : Walk ObjectType
  objects : Walk Object
  edgeTypes : Walk EdgeType
  edges : Walk Edge

namespace Walks

/-- The entities of the four collections. -/
def graph (w : Walks) : Graph :=
  ⟨w.objectTypes.entities, w.objects.entities, w.edgeTypes.entities, w.edges.entities⟩

/-- The replies for one collection after another. -/
def replies (w : Walks) : List Reply :=
  w.objectTypes.replies ++ w.objects.replies ++ w.edgeTypes.replies ++ w.edges.replies

/-- For each reply the collection and the cursor of the page that it is for. -/
def attempts (w : Walks) : List (String × Cursor) :=
  (w.objectTypes.attempts .begin).map ("objecttypes", ·) ++
    (w.objects.attempts .begin).map ("objects", ·) ++
    (w.edgeTypes.attempts .begin).map ("edgetypes", ·) ++
    (w.edges.attempts .begin).map ("edges", ·)

/-- All four walks lead to their ends. -/
structure Leads (s : Service) (w : Walks) : Prop where
  objectTypes : w.objectTypes.Leads s .objectType
  objects : w.objects.Leads s .object
  edgeTypes : w.edgeTypes.Leads s .edgeType
  edges : w.edges.Leads s .edge

end Walks

variable {s : Service} {w : Walks}

/-- A snapshot is read kind by kind, with one request for each reply. -/
theorem fetchSnapshot_exchanges (hw : w.Leads s) (hok : s.resilience.retry.retries 200 = false) :
    SyncM.Exchanges s w.replies
      (s.walkRequests "objecttypes" w.objectTypes .begin ++
        s.walkRequests "objects" w.objects .begin ++
        s.walkRequests "edgetypes" w.edgeTypes .begin ++ s.walkRequests "edges" w.edges .begin)
      (· = w.graph) (fetchSnapshot s.client) := by
  have htypes := SyncM.Exchanges.call
    (getAll_exchanges Wire.Understands.objectType hok "objecttypes" hw.objectTypes)
  have hobjects := SyncM.Exchanges.call
    (collectPages_exchanges Wire.Understands.object hok "objects" .object hw.objects)
  have hedgeTypes := SyncM.Exchanges.call
    (getAll_exchanges Wire.Understands.edgeType hok "edgetypes" hw.edgeTypes)
  have hedges := SyncM.Exchanges.call
    (collectPages_exchanges Wire.Understands.edge hok "edges" .edge hw.edges)
  -- Each listing takes its part of the replies and leaves the rest to those after it.
  rw [fetchSnapshot, Walks.replies]
  simp only [List.append_assoc]
  refine (htypes.within _).bind ?_
  rintro _ rfl
  refine (SyncM.Exchanges.emit _).after fun _ _ => (hobjects.within _).bind ?_
  rintro _ rfl
  refine (SyncM.Exchanges.emit _).after fun _ _ => (hedgeTypes.within _).bind ?_
  rintro _ rfl
  refine (SyncM.Exchanges.emit _).after fun _ _ => (hedges.within _).before ?_
  rintro _ rfl
  exact (SyncM.Exchanges.emit _).after fun _ _ => .pure rfl

/-- A host serves four collections as walks of any pages, with any distinct cursors, and before each
    page there are fewer troubles than attempts.  While tokens are granted and nobody cancels the
    run, a snapshot holds exactly the entities of the four walks in order, and the requests are for
    the pages in order, each as often as there is a reply for it. -/
theorem snapshot_of_walks (s : Service) (w : Walks) (hw : w.Leads s)
    (hok : s.resilience.retry.retries 200 = false) (r : Run Connection) {rest : List Reply}
    (hserving : Serving s (w.replies ++ rest) r.world r.token r.clock) :
    ∃ r' sent, (fetchSnapshot s.client).run r = (.ok w.graph, r') ∧
      asked r'.world.network = asked r.world.network ++ sent ∧
      List.Forall₂ (fun page request => AsksForPage s page.1 page.2 request) w.attempts sent := by
  obtain ⟨_, r', hrun, rfl, -, hasked⟩ := fetchSnapshot_exchanges hw hok rest r hserving
  refine ⟨r', _, hrun, hasked, ?_⟩
  have hpages : ∀ (collection : String) (cursors : List Cursor),
      List.Forall₂ (fun page request => AsksForPage s page.1 page.2 request)
        (cursors.map (collection, ·)) (cursors.map (s.pageRequest collection)) := by
    intro collection cursors
    rw [List.forall₂_map_left_iff, List.forall₂_map_right_iff, List.forall₂_same]
    exact fun cursor _ => asksForPage_pageRequest collection cursor
  exact List.rel_append (List.rel_append (List.rel_append (hpages _ _) (hpages _ _)) (hpages _ _))
    (hpages _ _)

/-- A host that serves the given entities on a page, after some troubles. -/
def Leg.serving {α : Type} (f : α → Entity) (troubles : List Reply) (entities : List α)
    (hasNext : Bool) (next? : Option String) : Leg α where
  troubles
  entities
  answer := ⟨⟨200⟩, [], some (Wire.ofPage (entities.map f) hasNext next?).text⟩

/-- A page is served after troubles that are fewer than the attempts. -/
theorem Leg.serving_serves {α : Type} {f : α → Entity} {troubles : List Reply}
    (h : ∀ reply ∈ troubles, Transient s reply)
    (hfew : troubles.length < max 1 s.resilience.retry.maxAttempts) (entities : List α)
    (hasNext : Bool) (next? : Option String) :
    (Leg.serving f troubles entities hasNext next?).Serves s f hasNext next? :=
  ⟨h, hfew, rfl, _, .same _, rfl⟩

/-- Two pages of types with a cursor that needs escaping, after a lost connection and a busy host,
    and no other entities. -/
theorem snapshot_of_two_pages :
    let service : Service :=
      ⟨{ scheme := .http, host := "svc", path := [""] }, "http://svc", ⟨"id", "secret"⟩, {}⟩
    let busy : Reply := .answer ⟨⟨503⟩, [("Retry-After", "1")], none⟩
    let w : Walks :=
      { objectTypes := .more
          (.serving .objectType [.drop, busy] [⟨.zero, "group"⟩] true (some "a&=#%")) "a&=#%"
          (.last (.serving .objectType [] [⟨.zero, "team"⟩] false none) none)
        objects := .last (.serving .object [] [] false none) none
        edgeTypes := .last (.serving .edgeType [] [] false none) none
        edges := .last (.serving .edge [] [] false none) none }
    let network : Network := { up := true, hosts := [("svc", { answers := w.replies })] }
    ∃ r' sent, (fetchSnapshot service.client).run (Run.start ⟨network, none⟩ .fresh (.frozen 0)) =
        (.ok { objectTypes := [⟨.zero, "group"⟩, ⟨.zero, "team"⟩] }, r') ∧
      asked r'.world.network = sent ∧
      List.Forall₂ (fun page request => AsksForPage service page.1 page.2 request)
        [("objecttypes", .begin), ("objecttypes", .begin), ("objecttypes", .begin),
          ("objecttypes", ⟨"a&=#%"⟩), ("objects", .begin), ("edgetypes", .begin),
          ("edges", .begin)] sent := by
  intro service busy w network
  have hnone : ∀ {α : Type} (f : α → Entity) (es : List α) (hasNext : Bool)
      (next? : Option String), (Leg.serving f [] es hasNext next?).Serves service f hasNext next? :=
    fun f => Leg.serving_serves (List.forall_mem_nil _) (by decide)
  -- The first page is preceded by a dropped connection and a busy answer.
  have htroubles : ∀ reply ∈ [.drop, busy], Transient service reply := by
    rw [List.forall_mem_cons, List.forall_mem_singleton]
    exact ⟨.inl rfl, .inr ⟨_, rfl, by decide⟩⟩
  have hw : w.Leads service :=
    { objectTypes := ⟨⟨Leg.serving_serves htroubles (by decide) _ _ _, hnone _ _ _ _⟩, by decide,
        by decide⟩
      objects := ⟨hnone _ _ _ _, by decide, by decide⟩
      edgeTypes := ⟨hnone _ _ _ _, by decide, by decide⟩
      edges := ⟨hnone _ _ _ _, by decide, by decide⟩ }
  have hserving : Serving service (w.replies ++ []) ⟨network, none⟩ .fresh (.frozen 0) :=
    ⟨rfl, rfl, (List.append_nil _).symm, List.forall_mem_nil _, grantedToken_grants⟩
  exact snapshot_of_walks service w hw (by decide)
    (Run.start ⟨network, none⟩ .fresh (.frozen 0)) hserving

end TenantSync
