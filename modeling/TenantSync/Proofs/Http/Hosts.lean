import TenantSync.Http.Service

/-!
# Hosts and what they have left

A request takes a reply from the host that its address leads to and leaves all other hosts as they
are (`Network.host_deliver`); one for a token takes no other answers (`Network.answers_deliver`).
`Network.asked` is what has arrived besides the requests for tokens.
-/

namespace TenantSync.Http

/-- What a client hears when a host replies, unless the host leaves it waiting. -/
def Reply.heard? : Reply → Option (Except LinkFault Response)
  | .answer r => some (.ok r)
  | .drop => some (.error .dropped)
  | .hang => none

namespace Network

variable {n : Network} {u : Url} {r : Request}

/-- The host that answers requests to an address. -/
def host (n : Network) (u : Url) : Host :=
  ((n.hosts.find? (·.1 == n.entryName u)).map (·.2)).getD {}

/-- Addresses with the same authority lead to the same host. -/
theorem host_congr {v : Url} (h : u.authority = v.authority) : n.host u = n.host v := by
  rw [host, host, entryName, entryName, h]

/-- The host that a request is addressed to replies with the next answer of the queue for it. -/
theorem reply_deliver : (n.deliver r).1 = (Host.take (n.host r.url) (asksForToken r)).1 := rfl

/-- Deliveries change what hosts have left, but no host comes or goes. -/
theorem entryName_deliver : (n.deliver r).2.entryName u = n.entryName u := by
  -- The entry that is replaced keeps its name.
  have hnames : ∀ name, (n.deliver r).2.hosts.any (·.1 == name) = n.hosts.any (·.1 == name) := by
    intro name
    simp only [deliver, List.any_map]
    congr 1
    funext entry
    dsimp only [Function.comp]
    split <;> simp_all
  simp only [entryName, hnames]

/-- What is found after an entry was replaced. -/
theorem find?_replace (hosts : List (String × Host)) (name : String) (h : Host) :
    ((hosts.map fun entry => if entry.1 == name then (name, h) else entry).find?
        (·.1 == name)).map (·.2) = (hosts.find? (·.1 == name)).map fun _ => h := by
  induction hosts with
  | nil => rfl
  | cons entry hosts ih =>
    rw [List.map_cons, List.find?_cons, List.find?_cons]
    -- The first entry of that name is both found and replaced.
    by_cases hname : (entry.1 == name) = true
    · simp [hname]
    · simp only [hname, Bool.false_eq_true, if_false]
      exact ih

/-- Entries of other names stay. -/
theorem find?_replace_of_ne {name other : String} (hne : name ≠ other)
    (hosts : List (String × Host)) (h : Host) :
    (hosts.map fun entry => if entry.1 == name then (name, h) else entry).find? (·.1 == other) =
      hosts.find? (·.1 == other) := by
  induction hosts with
  | nil => rfl
  | cons entry hosts ih =>
    rw [List.map_cons, List.find?_cons, List.find?_cons, ih]
    -- An entry that is replaced is not the one that is looked for.
    by_cases hname : entry.1 = name
    · have hother : (name == other) = false := beq_eq_false_iff_ne.mpr hne
      simp [hname, hother]
    · simp [hname]

/-- A host with nothing prepared has nothing left. -/
theorem take_default (token : Bool) : (Host.take {} token).2 = {} := by
  cases token <;> rfl

/-- The host that was asked has one answer less, -/
theorem host_deliver_of_eq (h : n.entryName u = n.entryName r.url) :
    (n.deliver r).2.host u = (Host.take (n.host u) (asksForToken r)).2 := by
  rw [host, host, entryName_deliver, h, deliver]
  dsimp only
  rw [find?_replace]
  cases n.hosts.find? (·.1 == n.entryName r.url) with
  | none => exact (take_default _).symm
  | some entry => rfl

/-- That host has one answer less afterwards. -/
theorem host_deliver (h : u.authority = r.url.authority) :
    (n.deliver r).2.host u = (Host.take (n.host u) (asksForToken r)).2 :=
  host_deliver_of_eq (by rw [entryName, entryName, h])

/-- and the others are as before. -/
theorem host_deliver_of_ne (h : n.entryName u ≠ n.entryName r.url) :
    (n.deliver r).2.host u = n.host u := by
  rw [host, host, entryName_deliver, deliver]
  dsimp only
  rw [find?_replace_of_ne h.symm]

/-- A request for a token takes none of the other answers. -/
theorem answers_take_token (h : Host) : (Host.take h true).2.answers = h.answers := by
  rw [Host.take, if_pos rfl]
  split <;> rfl

/-- A request for a token leaves all other answers as they are. -/
theorem answers_deliver (h : asksForToken r = true) :
    ((n.deliver r).2.host u).answers = (n.host u).answers := by
  by_cases hname : n.entryName u = n.entryName r.url
  · rw [host_deliver_of_eq hname, h, answers_take_token]
  · rw [host_deliver_of_ne hname]

/-- A host has no more answers than were prepared altogether. -/
theorem length_answers_le_prepared : (n.host u).answers.length ≤ n.prepared := by
  rw [host, prepared]
  cases hfind : n.hosts.find? (·.1 == n.entryName u) with
  | none => exact Nat.zero_le _
  | some entry =>
    have hmem := List.mem_of_find?_eq_some hfind
    -- The answers of one host are among those of all.
    have hsub := List.sublist_flatten_of_mem (List.mem_map_of_mem (f := fun h => h.2.answers) hmem)
    rw [← List.flatMap_def] at hsub
    exact hsub.length_le

/-- A request without its token. -/
def unsigned (r : Request) : Request := { r with bearer? := none }

/-- What arrived besides the requests for tokens. -/
def asked (n : Network) : List Request := (n.arrived.filter fun r => !asksForToken r).map unsigned

/-- Requests for tokens are not counted among what was asked. -/
theorem asked_deliver :
    (n.deliver r).2.asked = n.asked ++ if asksForToken r then [] else [unsigned r] := by
  rw [asked, arrived_deliver, List.filter_append, List.map_append, ← asked]
  cases h : asksForToken r <;> simp [h]

end Network

/-- A request for a token is known by its address. -/
theorem Service.asksForToken_tokenRequest {s : Service} :
    Network.asksForToken s.tokenRequest = true := by
  simp [Network.asksForToken, tokenRequest, tokenUrl, Url.join]

end TenantSync.Http
