import TenantSync.Proofs.Graph.Plan
import TenantSync.Proofs.Http.Serving
import TenantSync.Proofs.Wire.Documents

/-!
# Changes on the wire

A set of changes reaches a service that accepts every request as one request for each entity, in
the order of the operation.  What is posted decodes to the entity that was to be created, and what
is deleted is addressed by its kind and identifier (`applied_changes_on_the_wire`).
-/

namespace TenantSync

open Http
open Http.Network (asked unsigned asksForToken)

namespace Http

/-- The reply accepts a request. -/
def Accepts (reply : Reply) : Prop := ∃ r, reply = .answer r ∧ r.status.isSuccess = true

/-- The reply accepts a request and returns the entity; fields with their default may be left
    out of its document. -/
def Echoes (e : Entity) (reply : Reply) : Prop :=
  ∃ r doc, reply = .answer r ∧ r.status.isSuccess = true ∧
    Wire.Abridges (Wire.ofEntity e) doc ∧ r.body? = some doc.text

/-- The request posts an entity to the collection of its kind: the body decodes to the entity, and
    so does the value under the name of its kind. -/
structure Creates (s : Service) (e : Entity) (r : Request) : Prop where
  method : r.method = .post
  url : r.url = s.base.join ["authz", Service.collection e.kind]
  body : ∃ doc v, r.body = .json doc ∧ Json.decode (Wire.wrapped e.kind) doc.text = .ok e ∧
    doc.field? (Wire.wrapper e.kind) = some v ∧ Json.decode (Wire.entity e.kind) v.text = .ok e

/-- The request deletes an entity under its identifier from the collection of its kind. -/
structure Deletes (s : Service) (e : Entity) (r : Request) : Prop where
  method : r.method = .delete
  url : r.url = s.base.join ["authz", Service.collection e.kind, e.id.text]
  body : r.body = .none

namespace Service

open Call

variable {s : Service} {reply : Reply}

/-- A mutation is sent once, and if it is accepted its answer is passed on. -/
theorem mutate_exchanges {method : Method} {url : Url} {body : Body} {r : Response}
    (hurl : s.base.authority = url.authority)
    (htoken : ∀ token?, asksForToken ⟨method, url, token?, body⟩ = false)
    (hok : r.status.isSuccess = true) :
    Exchanges s [.answer r] [⟨method, url, none, body⟩] (· = r) (s.mutate method url body) := by
  refine Exchanges.announced _ (bearer_exchanges.after fun token _ => ?_)
  refine (send_exchanges (.requestCancelled url) hurl (htoken (some token)) rfl).before ?_
  rintro _ rfl
  exact checkStatus_exchanges method url hok

/-- The request for an operation on an entity, without its token. -/
def request (s : Service) (op : Operation) (e : Entity) : Request := s.change none (op.mutation e)

/-- What is posted for an entity creates it. -/
theorem creates_request (e : Entity) : Creates s e (s.request .create e) :=
  ⟨rfl, rfl, _, _, rfl, Wire.decode_creation e, Wire.field?_creation e, Wire.decode_ofEntity e⟩

/-- What is sent for the deletion of an entity deletes it. -/
theorem deletes_request (e : Entity) : Deletes s e (s.request .delete e) := ⟨rfl, rfl, rfl⟩

/-- A post that is echoed returns what the echo is understood as. -/
theorem post_exchanges {α : Type} {d : Json.Decoder α} {e : Entity} {x : α}
    (hd : Wire.Understands d (Wire.ofEntity e) x) (h : Echoes e reply) :
    Exchanges s [reply] [s.request .create e] (· = x) (s.post d e) := by
  obtain ⟨r, doc, rfl, hok, hdoc, hbody⟩ := h
  -- The reply holds a document of the entity, perhaps with more fields, which decodes to it.
  have hread : readBody d r = .ok x := by
    simp only [readBody, hbody]
    exact Json.decode_text (hd doc hdoc)
  refine (mutate_exchanges (authority_join _ _)
    (fun token? => asksForToken_change token? (.create e)) hok).before ?_
  rintro _ rfl
  exact (Exchanges.ofExcept (Q := (· = x)) _ hread rfl).within _

/-- Whichever kind an entity has, its creation is one post of it. -/
theorem create_exchanges {e : Entity} (h : Echoes e reply) :
    Exchanges s [reply] [s.request .create e] (fun _ => True) (s.client.create e) := by
  cases e with
  | objectType t =>
    exact (post_exchanges (.objectType t) h).before fun _ _ => Exchanges.pure trivial
  | object o => exact (post_exchanges (.object o) h).before fun _ _ => Exchanges.pure trivial
  | edgeType t => exact (post_exchanges (.edgeType t) h).before fun _ _ => Exchanges.pure trivial
  | edge e => exact (post_exchanges (.edge e) h).before fun _ _ => Exchanges.pure trivial

/-- A deletion is one request, and if it is accepted the call succeeds. -/
theorem delete_exchanges {e : Entity} (h : Accepts reply) :
    Exchanges s [reply] [s.request .delete e] (fun _ => True) (s.delete e.kind e.id) := by
  obtain ⟨r, rfl, hok⟩ := h
  exact (mutate_exchanges (authority_join _ _) (fun _ => rfl) hok).before fun _ _ =>
    Exchanges.pure trivial

/-- How a service replies to an operation on an entity when it accepts every request. -/
def Serves : Operation → Entity → Reply → Prop
  | .create, e, reply => Echoes e reply
  | .delete, _, reply => Accepts reply

/-- A mutation that a service serves is one request. -/
theorem client_mutate_exchanges {op : Operation} {e : Entity} (h : Serves op e reply) :
    Exchanges s [reply] [s.request op e] (fun _ => True) (s.client.mutate (op.mutation e)) := by
  cases op with
  | create => exact create_exchanges h
  | delete => exact delete_exchanges h

end Service

end Http

/-! ## Sets of changes -/

open Http.Service

variable {s : Service} {op : Operation} (mode : FailureMode)

/-- One entity after another is applied, each by one request. -/
theorem applyEntities_exchanges (k : Kind) (total : Nat) {es : List Entity} {replies : List Reply}
    (h : List.Forall₂ (Serves op) es replies) (applied : Nat) (pass : Pass) :
    SyncM.Exchanges s replies (es.map (s.request op))
      (fun out => out.1 = applied + es.length ∧ out.2.applied = pass.applied ∧
        out.2.failures = pass.failures)
      (applyEntities s.client mode op k total es applied pass) := by
  induction h generalizing applied pass with
  | nil => exact .pure ⟨rfl, rfl, rfl⟩
  | @cons e reply es replies he _ ih =>
    rw [applyEntities]
    -- Only the mutation itself takes a reply; what is told about it takes none.
    refine SyncM.Exchanges.cancelled.after ?_
    rintro _ rfl
    refine (SyncM.Exchanges.attempt (client_mutate_exchanges he)).bind ?_
    rintro _ ⟨_, rfl, -⟩
    refine (SyncM.Exchanges.note _ _).after fun _ _ => ?_
    refine (SyncM.Exchanges.log _ _ _).after fun _ _ => ?_
    refine (SyncM.Exchanges.emit _).after fun _ _ => ?_
    refine (ih (applied + 1) _).mono fun out hout => ⟨?_, hout.2⟩
    rw [hout.1, List.length_cons]
    omega

/-- The books of a pass in which everything succeeded and which is through with some kinds. -/
def Pass.Books (changes : Graph) (through : List Kind) (p : Pass) : Prop :=
  p.failures = [] ∧ ∀ k, p.applied.get k = if k ∈ through then changes.counts.get k else 0

/-- When a pass is through with all kinds, it has applied all that there was. -/
theorem Pass.Books.applied_eq {changes : Graph} {through : List Kind} {p : Pass}
    (h : p.Books changes through) (hall : ∀ k, k ∈ through) : p.applied = changes.counts := by
  -- Counts are the same when they are for each kind.
  have hget : ∀ k, p.applied.get k = changes.counts.get k := fun k => by
    rw [h.2 k, if_pos (hall k)]
  have h₁ := hget .objectType
  have h₂ := hget .object
  have h₃ := hget .edgeType
  have h₄ := hget .edge
  simp only [Counts.get] at h₁ h₂ h₃ h₄
  rcases hp : p.applied with ⟨_, _, _, _⟩
  rcases hc : changes.counts with ⟨_, _, _, _⟩
  simp_all

/-- The entities of a kind are applied by one request each, and the books say so. -/
theorem applyKind_exchanges {changes : Graph} {k : Kind} {through : List Kind} {pass : Pass}
    {replies : List Reply} (h : List.Forall₂ (Serves op) (changes.entities k) replies)
    (hpass : pass.Books changes through) :
    SyncM.Exchanges s replies ((changes.entities k).map (s.request op))
      (·.Books changes (k :: through)) (applyKind s.client mode op changes k pass) := by
  by_cases hempty : (changes.entities k).isEmpty = true
  · -- Nothing happens, and nothing had to be counted.
    have hnil := List.isEmpty_iff.mp hempty
    have hcount : changes.counts.get k = 0 := by
      rw [← Graph.length_entities, hnil, List.length_nil]
    rw [hnil] at h
    cases h
    simp only [applyKind, hnil]
    refine .pure ⟨hpass.1, fun j => ?_⟩
    rw [hpass.2 j]
    by_cases hj : j = k
    · simp [hj, hcount]
    · simp [hj]
  · -- The count of this kind is set, and the others stay.
    simp only [applyKind, hempty]
    refine (SyncM.Exchanges.emit _).after fun _ _ => ?_
    refine (applyEntities_exchanges mode k _ h 0 pass).before fun out hout => ?_
    refine (SyncM.Exchanges.emit _).after fun _ _ => .pure ?_
    refine ⟨hout.2.2.trans hpass.1, fun j => ?_⟩
    by_cases hj : j = k
    · subst hj
      simp [hout.1]
    · rw [Counts.get_set_of_ne _ _ hj, hout.2.1, hpass.2 j]
      simp [hj]

/-- What a list that is put together from two is related to is put together likewise. -/
theorem forall₂_append_inv {α β : Type} {R : α → β → Prop} {xs ys : List α} {zs : List β}
    (h : List.Forall₂ R (xs ++ ys) zs) :
    ∃ us vs, zs = us ++ vs ∧ List.Forall₂ R xs us ∧ List.Forall₂ R ys vs := by
  induction xs generalizing zs with
  | nil => exact ⟨[], zs, rfl, .nil, h⟩
  | cons x xs ih =>
    cases h with
    | cons hx hrest =>
      obtain ⟨us, vs, rfl, hus, hvs⟩ := ih hrest
      exact ⟨_ :: us, vs, rfl, .cons hx hus, hvs⟩

/-- Kinds are applied one after the other. -/
theorem applyKinds_exchanges {changes : Graph} (ks : List Kind) {through : List Kind} {pass : Pass}
    {replies : List Reply} (h : List.Forall₂ (Serves op) (ks.flatMap changes.entities) replies)
    (hpass : pass.Books changes through) :
    SyncM.Exchanges s replies ((ks.flatMap changes.entities).map (s.request op))
      (·.Books changes (ks.reverse ++ through)) (applyKinds s.client mode op changes ks pass) := by
  induction ks generalizing through pass replies with
  | nil =>
    cases h
    exact .pure hpass
  | cons k ks ih =>
    -- The replies for this kind, and those for the kinds after it.
    rw [List.flatMap_cons] at h ⊢
    obtain ⟨ours, theirs, rfl, hours, htheirs⟩ := forall₂_append_inv h
    rw [List.map_append, List.reverse_cons, List.append_assoc]
    exact (applyKind_exchanges mode hours hpass).bind fun _ hpass' => ih htheirs hpass'

/-- A set of changes is applied by one request for each entity, in the order of the operation. -/
theorem applyChanges_exchanges {changes : Graph} {replies : List Reply}
    (h : List.Forall₂ (Serves op) (op.plan changes) replies) :
    SyncM.Exchanges s replies ((op.plan changes).map (s.request op)) (· = changes.counts)
      (applyChanges s.client mode op changes) := by
  have hempty : ({} : Pass).Books changes [] := ⟨rfl, fun k => by cases k <;> rfl⟩
  refine (applyKinds_exchanges mode op.order h hempty).before fun pass hpass => ?_
  rw [hpass.1]
  exact .pure (hpass.applied_eq fun k => by simp [op.mem_order k])

/-- The entities of a set of changes, parents first. -/
def Graph.parentsFirst (g : Graph) : List Entity :=
  g.objectTypes.map .objectType ++ g.objects.map .object ++ g.edgeTypes.map .edgeType ++
    g.edges.map .edge

/-- The entities of a set of changes, children first. -/
def Graph.childrenFirst (g : Graph) : List Entity :=
  g.edges.map .edge ++ g.edgeTypes.map .edgeType ++ g.objects.map .object ++
    g.objectTypes.map .objectType

/-- Creations go through the kinds with parents first. -/
theorem plan_create (g : Graph) : Operation.create.plan g = g.parentsFirst := by
  simp [Operation.plan, Operation.order, Graph.parentsFirst, Graph.entities]

/-- Deletions go through the kinds with children first. -/
theorem plan_delete (g : Graph) : Operation.delete.plan g = g.childrenFirst := by
  simp [Operation.plan, Operation.order, Graph.childrenFirst, Graph.entities]

/-- A service that accepts every request and echoes what is posted sees one request for each entity
    of a set of changes, in the order of the operation, and the operation reports all of them as
    applied.  A creation posts a document that decodes to exactly the entity, and so does the
    document of any entity; a deletion names the entity by its kind and identifier. -/
theorem applied_changes_on_the_wire (s : Service) (mode : FailureMode) (changes : Graph)
    (r : Run Connection) {replies rest : List Reply}
    (hserving : Serving s (replies ++ rest) r.world r.token r.clock) :
    (List.Forall₂ Echoes changes.parentsFirst replies →
      ∃ r' sent, (applyChanges s.client mode .create changes).run r = (.ok changes.counts, r') ∧
        asked r'.world.network = asked r.world.network ++ sent ∧
        List.Forall₂ (Creates s) changes.parentsFirst sent) ∧
    (List.Forall₂ (fun _ reply => Accepts reply) changes.childrenFirst replies →
      ∃ r' sent, (applyChanges s.client mode .delete changes).run r = (.ok changes.counts, r') ∧
        asked r'.world.network = asked r.world.network ++ sent ∧
        List.Forall₂ (Deletes s) changes.childrenFirst sent) ∧
    ∀ e : Entity, Json.decode (Wire.entity e.kind) (Wire.ofEntity e).text = .ok e := by
  refine ⟨fun h => ?_, fun h => ?_, Wire.decode_ofEntity⟩
  -- The plan is the changes with parents first, and each of its entities has one request.
  · rw [← plan_create] at h ⊢
    have hserves : List.Forall₂ (Serves .create) (Operation.create.plan changes) replies := h
    obtain ⟨_, r', hrun, rfl, -, hasked⟩ := applyChanges_exchanges mode hserves rest r hserving
    refine ⟨r', _, hrun, hasked, ?_⟩
    exact List.forall₂_map_right_iff.mpr (List.forall₂_same.mpr fun e _ => creates_request e)
  -- Deletions go the other way round, with children first.
  · rw [← plan_delete] at h ⊢
    have hserves : List.Forall₂ (Serves .delete) (Operation.delete.plan changes) replies := h
    obtain ⟨_, r', hrun, rfl, -, hasked⟩ := applyChanges_exchanges mode hserves rest r hserving
    refine ⟨r', _, hrun, hasked, ?_⟩
    exact List.forall₂_map_right_iff.mpr (List.forall₂_same.mpr fun e _ => deletes_request e)

/-- A type and an object of it with an empty alias, on a host that echoes both. -/
theorem type_and_object_posted :
    let service : Service :=
      ⟨{ scheme := .http, host := "svc", path := [""] }, "http://svc", ⟨"id", "secret"⟩, {}⟩
    let type : Entity := .objectType ⟨.zero, "group"⟩
    let object : Entity := .object ⟨.zero, .zero, some ""⟩
    let changes : Graph :=
      { objectTypes := [⟨.zero, "group"⟩], objects := [⟨.zero, .zero, some ""⟩] }
    let echo : Entity → Reply := fun e => .answer ⟨⟨201⟩, [], some (Wire.ofEntity e).text⟩
    let network : Network :=
      { up := true, hosts := [("svc", { answers := [echo type, echo object] })] }
    ∃ r' sent₁ sent₂, (applyChanges service.client .failFast .create changes).run
        (Run.start ⟨network, none⟩ .fresh (.frozen 0)) = (.ok ⟨1, 1, 0, 0⟩, r') ∧
      asked r'.world.network = [sent₁, sent₂] ∧ Creates service type sent₁ ∧
        Creates service object sent₂ := by
  intro service type object changes echo network
  -- The host answers each creation with the entity's own document.
  have hechoes : ∀ e, Echoes e (echo e) := fun e => ⟨_, _, rfl, rfl, .same _, rfl⟩
  have hserving : Serving service ([echo type, echo object] ++ []) ⟨network, none⟩ .fresh
      (.frozen 0) :=
    ⟨rfl, rfl, rfl, List.forall_mem_nil _, grantedToken_grants⟩
  have h := applied_changes_on_the_wire service .failFast changes
    (Run.start ⟨network, none⟩ .fresh (.frozen 0)) hserving
  obtain ⟨r', sent, hrun, hasked, hsent⟩ := h.1 (.cons (hechoes type) (.cons (hechoes object) .nil))
  -- The requests come in the order of the plan, the type before its object.
  obtain ⟨sent₁, _, htype, hobjects, rfl⟩ := List.forall₂_cons_left_iff.mp hsent
  obtain ⟨sent₂, _, hobject, hnone, rfl⟩ := List.forall₂_cons_left_iff.mp hobjects
  cases hnone
  exact ⟨r', sent₁, sent₂, hrun, hasked, htype, hobject⟩

end TenantSync
