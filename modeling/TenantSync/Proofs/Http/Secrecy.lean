import TenantSync.Http.Links
import TenantSync.Progress.Reporter
import TenantSync.Proofs.Http.Serving
import TenantSync.Proofs.Sync.Projection

/-!
# The secret stays in the form

A client's secret leaves it in one place only: in the field of that name in the form that asks for a
token.  A network forgets what stood there when its requests are veiled (`Network.veiled`), and a
service with a blank secret does to the veiled network what the service itself does to the network
(`Service.client_projects`).  Two runs that differ in the secrets of their clients alone are
therefore one and the same run over the veiled network (`secret_only_in_token_form`).

The network need not cooperate: any replies may be prepared, also such as make requests fail, so
that the texts of the faults, which quote addresses and the bodies of answers, are covered.
-/

namespace TenantSync

open Http
open Http.Network (asksForToken)

/-! ## Requests with the secret left out -/

namespace Http

/-- The name of the field of a form that holds the secret. -/
def secretField : String := "client_secret"

/-- The body without what its field for the secret holds. -/
def Body.veiled : Body → Body
  | .form fields => .form (fields.map fun field =>
      if field.1 = secretField then (secretField, "") else field)
  | body => body

/-- The request as those see it who must not know the secret: if it asks for a token, the field for
    the secret is blank. -/
def Request.veiled (r : Request) : Request :=
  if asksForToken r then { r with body := r.body.veiled } else r

/-- The network, of which the requests that arrived are veiled. -/
def Network.veiled (n : Network) : Network := { n with arrived := n.arrived.map Request.veiled }

/-- The connection over the veiled network. -/
def Connection.veiled (c : Connection) : Connection := { c with network := c.network.veiled }

/-- Both connections over the veiled network. -/
def Links.veiled (l : Links) : Links := { l with network := l.network.veiled }

namespace Request

/-- Only the body is veiled. -/
theorem exists_veiled_eq (r : Request) : ∃ body, r.veiled = { r with body } := by
  rw [veiled]
  split
  · exact ⟨_, rfl⟩
  · exact ⟨r.body, rfl⟩

/-- A request without a form has nothing to veil. -/
theorem veiled_of_body {r : Request} (h : r.body.veiled = r.body) : r.veiled = r := by
  rw [veiled, h]
  exact ite_self r

end Request

/-- What a network replies depends on where a request goes, and not on what it carries. -/
theorem Network.deliver_veiled (n : Network) (r : Request) :
    n.veiled.deliver r.veiled = ((n.deliver r).1, (n.deliver r).2.veiled) := by
  -- The veil only changes a request's body, which does not decide on its answer.
  obtain ⟨body, hbody⟩ := r.exists_veiled_eq
  have harrived : (n.arrived ++ [r]).map Request.veiled = n.veiled.arrived ++ [r.veiled] :=
    List.map_append
  have hveiled : (n.deliver r).2.veiled =
      { (n.deliver r).2 with arrived := n.veiled.arrived ++ [r.veiled] } := by
    rw [veiled, arrived_deliver, harrived]
  rw [hveiled, hbody]
  rfl

/-! ## Services with another secret -/

namespace Service

/-- The service with another secret. -/
def withSecret (s : Service) (secret : String) : Service :=
  { s with credentials := { s.credentials with clientSecret := secret } }

/-- The service with a blank secret. -/
def veiled (s : Service) : Service := s.withSecret ""

/-- Whether there is a service at an address does not depend on the secret. -/
theorem ofAddress_withSecret (address : String) (credentials : Credentials)
    (resilience : Resilience) (secret : String) :
    ofAddress address { credentials with clientSecret := secret } resilience =
      (ofAddress address credentials resilience).map (·.withSecret secret) := by
  rw [ofAddress, ofAddress]
  cases Url.ofTenant address <;> rfl

/-- Veiled, the request for a token is the one that a service with a blank secret sends. -/
theorem veiled_tokenRequest (s : Service) : s.tokenRequest.veiled = s.veiled.tokenRequest := by
  have hform : s.tokenRequest.body.veiled = s.veiled.tokenRequest.body := by
    simp [tokenRequest, Body.veiled, secretField, veiled, withSecret]
  rw [Request.veiled, if_pos asksForToken_tokenRequest, hform]
  rfl

end Service

end Http

/-! ## Calls over the veiled network -/

namespace Http.Service

open Call (Projects)

variable {α : Type}

/-- The veiled request is delivered over the veiled network as the request is over the network. -/
theorem exchange_projects (stopped : Cause) (r : Request) :
    Projects Network.veiled (exchange stopped r) (exchange stopped r.veiled) := by
  refine Projects.world_bind fun n => ?_
  have hup : n.veiled.up = n.up := rfl
  rw [hup]
  split
  · exact .pure _
  -- The reply is the same, and what is left is the network veiled.
  rw [n.deliver_veiled]
  generalize n.deliver r = delivered
  obtain ⟨reply, n'⟩ := delivered
  refine Projects.unlessCancelled ((Projects.setWorld _).bind fun _ => ?_)
  cases reply with
  | answer response => exact .pure _
  | drop => exact .pure _
  | hang => exact Projects.cancel.bind fun _ => .fail _

/-- What is heard of a veiled request is what is heard of the request itself. -/
theorem send_projects (stopped : Cause) (r : Request) :
    Projects Connection.veiled (send stopped r) (send stopped r.veiled) := by
  refine Projects.zoom (fun _ => ?_) (fun _ _ => ?_) (exchange_projects stopped r)
  · rfl
  · rfl

/-- A request without a form is the same to those who must not know the secret. -/
theorem send_projects_of_body (stopped : Cause) {r : Request} (h : r.body.veiled = r.body) :
    Projects Connection.veiled (send stopped r) (send stopped r) := by
  have hsend := send_projects stopped r
  rwa [Request.veiled_of_body h] at hsend

/-- A grant is kept alike. -/
theorem keepToken_projects (g : Wire.Grant) :
    Projects Connection.veiled (keepToken g) (keepToken g) := by
  refine Projects.now.bind fun now => ?_
  dsimp only
  split
  · exact .fail _
  · exact Projects.world_bind fun c => (Projects.setWorld _).bind fun _ => .pure _

variable (s : Service)

/-- The secret is sent, and nothing else is made of it. -/
theorem requestToken_projects :
    Projects Connection.veiled s.requestToken s.veiled.requestToken := by
  refine (Projects.log _ _ _).bind fun _ => ?_
  -- The only request whose body the secret is in; the line before it names the client alone.
  have hsend := send_projects (.tokenCancelled s.tokenUrl) s.tokenRequest
  rw [veiled_tokenRequest] at hsend
  refine hsend.bind fun out => ?_
  cases out with
  | error f => exact (Projects.fail _).within _
  | ok r =>
    dsimp only
    split
    · exact ((Projects.ofExcept _ _).within _).bind fun g => keepToken_projects g
    · exact .fail _

/-- A client comes by a token alike, whatever its secret. -/
theorem bearer_projects : Projects Connection.veiled s.bearer s.veiled.bearer := by
  refine Projects.world_bind fun c => ?_
  have htoken : c.veiled.token? = c.token? := rfl
  rw [htoken]
  cases c.token? with
  | none => exact s.requestToken_projects
  | some t =>
    refine Projects.now.bind fun now => ?_
    split
    · exact .pure _
    · exact (Projects.log _ _ _).bind fun _ => s.requestToken_projects

/-! ### Reading -/

/-- A pause does not look at the secret. -/
theorem pause_projects (microseconds : Nat) :
    Projects Connection.veiled (pause microseconds) (pause microseconds) :=
  .unlessCancelled (.wait _)

/-- An attempt does not look at the secret, but for the token. -/
theorem ask_projects (url : Url) (attempt : Nat) :
    Projects Connection.veiled (s.ask url attempt) (s.veiled.ask url attempt) :=
  .announced _ (s.bearer_projects.bind fun _ => send_projects_of_body _ rfl)

/-- All attempts of a read go alike. -/
theorem getFrom_projects (url : Url) (left attempt : Nat) :
    Projects Connection.veiled (s.getFrom url left attempt)
      (s.veiled.getFrom url left attempt) := by
  induction left generalizing attempt with
  | zero =>
    refine (s.ask_projects url attempt).bind fun out => ?_
    cases out with
    | ok r => exact .pure _
    | error f => exact (Projects.fail _).within _
  | succ left ih =>
    refine (s.ask_projects url attempt).bind fun out => ?_
    -- Whatever the trouble was, the next attempt comes after a line in the log and a wait.
    have hagain : ∀ (text : String) (wait : Nat), Projects Connection.veiled
        (do
          Call.log .warn .http text
          pause wait
          s.getFrom url left (attempt + 1))
        (do
          Call.log .warn .http text
          pause wait
          s.veiled.getFrom url left (attempt + 1)) := fun _ _ =>
      (Projects.log _ _ _).bind fun _ => (pause_projects _).bind fun _ => ih _
    cases out with
    | ok r =>
      have hpolicy : s.veiled.resilience = s.resilience := rfl
      dsimp only
      rw [hpolicy]
      split
      · exact hagain _ _
      · exact .pure _
    | error f => exact hagain _ _

/-- What is made of a status does not depend on the secret. -/
theorem checkStatus_projects (method : Method) (url : Url) (r : Response) :
    Projects Connection.veiled (s.checkStatus method url r)
      (s.veiled.checkStatus method url r) := by
  rw [checkStatus, checkStatus]
  split
  · exact .pure _
  dsimp only
  split <;> exact .fail _

/-- A page is read alike. -/
theorem getPage_projects (collection : String) (d : Json.Decoder α) (cursor : Cursor) :
    Projects Connection.veiled (s.getPage collection d cursor)
      (s.veiled.getPage collection d cursor) := by
  refine (s.getFrom_projects _ _ _).bind fun r => ?_
  exact (s.checkStatus_projects _ _ r).bind fun r => (Projects.ofExcept _ _).within _

/-- The pages behind a cursor are read alike. -/
theorem getRest_projects (collection : String) (d : Json.Decoder α) (bound : Nat)
    (cursor : Cursor) (trail : Trail) (done : List α) :
    Projects Connection.veiled (s.getRest collection d bound cursor trail done)
      (s.veiled.getRest collection d bound cursor trail done) := by
  induction bound generalizing cursor trail done with
  | zero => exact .fail _
  | succ bound ih =>
    refine (s.getPage_projects collection d cursor).bind fun page => ?_
    split
    · exact ((Projects.ofExcept _ _).within _).bind fun trail => ih _ _ _
    · exact .pure _

/-- A whole collection is read alike. -/
theorem getAll_projects (collection : String) (d : Json.Decoder α) :
    Projects Connection.veiled (s.getAll collection d) (s.veiled.getAll collection d) :=
  Projects.world_bind fun _ => s.getRest_projects collection d _ _ _ _

/-! ### Changing -/

/-- A mutation goes alike, since its body holds no secret. -/
theorem mutate_projects (method : Method) (url : Url) {body : Body} (h : body.veiled = body) :
    Projects Connection.veiled (s.mutate method url body) (s.veiled.mutate method url body) := by
  refine .announced _ (s.bearer_projects.bind fun _ => ?_)
  refine (send_projects_of_body _ h).bind fun out => ?_
  cases out with
  | error f => exact (Projects.fail _).within _
  | ok r => exact s.checkStatus_projects method url r

/-- What is posted does not show the secret. -/
theorem post_projects {α : Type} (d : Json.Decoder α) (e : Entity) :
    Projects Connection.veiled (s.post d e) (s.veiled.post d e) :=
  (s.mutate_projects _ _ rfl).bind fun _ => (Projects.ofExcept _ _).within _

/-- With a blank secret a client does to the veiled network what it does to the network with its
    own. -/
theorem client_projects : s.client.Projects Connection.veiled s.veiled.client where
  endpoint := rfl
  listObjectTypes := s.getAll_projects _ _
  listEdgeTypes := s.getAll_projects _ _
  listObjects := s.getPage_projects _ _
  listEdges := s.getPage_projects _ _
  createObjectType _ _ := s.post_projects _ _
  createObject _ _ _ := s.post_projects _ _
  createEdgeType _ _ _ _ _ := s.post_projects _ _
  createEdge _ _ _ _ := s.post_projects _ _
  delete _ _ := (s.mutate_projects _ _ rfl).bind fun _ => .pure _
  pageBound _ := rfl

/-- The client of the source does the same to the veiled links. -/
theorem source_projects :
    (s.client.zoom Links.source).Projects Links.veiled (s.veiled.client.zoom Links.source) := by
  refine Client.Projects.zoom (fun _ => ?_) (fun _ _ => ?_) s.client_projects
  · rfl
  · rfl

/-- The client of the destination does the same to the veiled links. -/
theorem destination_projects :
    (s.client.zoom Links.destination).Projects Links.veiled
      (s.veiled.client.zoom Links.destination) := by
  refine Client.Projects.zoom (fun _ => ?_) (fun _ _ => ?_) s.client_projects
  · rfl
  · rfl

end Http.Service

/-! ## Runs with other secrets -/

/-- A run between two services. -/
def Http.syncServices (source destination : Service) (o : Options) (links : Links)
    (token : CancelToken) (clock : Clock) : Except SyncFailure Report × Run Links :=
  (synchronize (source.client.zoom Links.source) (destination.client.zoom Links.destination) o).run
    (Run.start links token clock)

/-- Over the veiled network, a run with blank secrets is the run with any others. -/
theorem syncServices_veiled (source destination : Service) (o : Options) (links : Links)
    (token : CancelToken) (clock : Clock) :
    let run := syncServices source destination o links token clock
    syncServices source.veiled destination.veiled o links.veiled token clock =
      (run.1, run.2.map Links.veiled) :=
  synchronize_projects source.source_projects destination.destination_projects o
    (Run.start links token clock)

/-- Nothing but the form that asks for a token depends on the secrets of the clients: with any other
    secrets a run between the same services, with the same options, over the same network, with the
    same tokens and stopped in the same way returns the same report or the same failure with all its
    texts, leaves the same trace, hence prints and logs the same lines, keeps the same tokens, and
    sends the same requests in the same order but for the field of the secret. -/
theorem secret_only_in_token_form (source destination : Service) (a b a' b' : String) (o : Options)
    (links : Links) (token : CancelToken) (clock : Clock) :
    let run := syncServices (source.withSecret a) (destination.withSecret b) o links token clock
    let run' := syncServices (source.withSecret a') (destination.withSecret b') o links token clock
    run.1 = run'.1 ∧ run.2.trace = run'.2.trace ∧
      (∀ reporter : Reporter, reporter.printed run.2.trace = reporter.printed run'.2.trace ∧
        reporter.logged run.2.trace = reporter.logged run'.2.trace) ∧
      run.2.token = run'.2.token ∧ run.2.clock = run'.2.clock ∧
      run.2.world.sourceToken? = run'.2.world.sourceToken? ∧
      run.2.world.destinationToken? = run'.2.world.destinationToken? ∧
      run.2.world.network.arrived.map Request.veiled =
        run'.2.world.network.arrived.map Request.veiled := by
  intro run run'
  -- Both are the run with blank secrets over the veiled network.
  have hveiled := syncServices_veiled (source.withSecret a) (destination.withSecret b) o links token
    clock
  have hveiled' := syncServices_veiled (source.withSecret a') (destination.withSecret b') o links
    token clock
  have hrun : (run.1, run.2.map Links.veiled) = (run'.1, run'.2.map Links.veiled) :=
    hveiled.symm.trans hveiled'
  obtain ⟨hresult, hleft⟩ := Prod.mk.inj hrun
  obtain ⟨hworld, htoken, hclock, htrace⟩ := Run.mk.inj hleft
  obtain ⟨hnetwork, hsource, hdestination⟩ := Links.mk.inj hworld
  refine ⟨hresult, htrace, fun reporter => ?_, htoken, hclock, hsource, hdestination, ?_⟩
  · rw [htrace]
    exact ⟨rfl, rfl⟩
  · exact congrArg Network.arrived hnetwork

end TenantSync
