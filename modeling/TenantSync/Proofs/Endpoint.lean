import TenantSync.Endpoint
import TenantSync.Proofs.Secret.Hollow

/-!
# What an endpoint is put together from

What `Endpoint.resolve` makes of a side that names a saved context, for each of the three parts of
an endpoint.  Whatever it is made from, an endpoint has the address of a tenant and a client; its
secret is empty exactly if it is read where a context names a place that holds none
(`Endpoint.resolved_credentials`).
-/

namespace TenantSync

/-! ## The parts of an endpoint -/

/-- A text that is not blank is not empty. -/
theorem isEmpty_of_not_isBlankText {s : String} (h : isBlankText s = false) :
    s.isEmpty = false := by
  cases hs : s.isEmpty with
  | false => rfl
  | true =>
    rw [String.isEmpty_iff.mp hs] at h
    cases h

namespace Endpoint

section
variable (side : Side) (flags : EndpointFlags) {c : Store.SavedContext}

/-- The address is the one that is given, if it is not blank, and else the saved one; it must be
    one of a tenant. -/
theorem address_eq_ok_iff {url : String} :
    address side flags (some c) = .ok url ↔
      url = (flags.url?.filter fun u => !isBlankText u).getD c.url ∧
        ∃ v, Url.ofTenant url = .ok v := by
  rw [address]
  generalize flags.url?.filter (fun u => !isBlankText u) = given?
  -- Whether the flag is given or not, one text is left to be read.
  have hor : given?.or (some c.url) = some (given?.getD c.url) := by cases given? <;> rfl
  rw [Option.map_some, hor]
  cases hread : Url.ofTenant (given?.getD c.url) with
  | error f =>
    simp only [hread]
    constructor
    · intro h
      cases h
    · rintro ⟨rfl, v, hv⟩
      cases hread.symm.trans hv
  | ok v =>
    simp only [hread]
    constructor
    · intro h
      obtain rfl : given?.getD c.url = url := Except.ok.inj h
      exact ⟨rfl, v, hread⟩
    · rintro ⟨rfl, -⟩
      rfl

/-- With a usable saved address, only an address that is given can be wrong. -/
theorem exists_address_iff (hc : ∃ v, Url.ofTenant c.url = .ok v) :
    (∃ url, address side flags (some c) = .ok url) ↔
      ∀ u, flags.url? = some u → isBlankText u = false → ∃ v, Url.ofTenant u = .ok v := by
  have hread : (∃ url, address side flags (some c) = .ok url) ↔
      ∃ v, Url.ofTenant ((flags.url?.filter fun u => !isBlankText u).getD c.url) = .ok v := by
    constructor
    · rintro ⟨url, h⟩
      obtain ⟨rfl, hv⟩ := (address_eq_ok_iff side flags).mp h
      exact hv
    · intro hv
      exact ⟨_, (address_eq_ok_iff side flags).mpr ⟨rfl, hv⟩⟩
  rw [hread]
  -- The saved URL is readable, so the flag decides, if it is given and not blank.
  cases hgiven : flags.url? with
  | none => simpa using hc
  | some u =>
    cases hblank : isBlankText u with
    | true => simpa [Option.filter, hblank] using hc
    | false => simp [Option.filter, hblank]

/-- With a saved client that is not blank there always is one. -/
theorem clientId_of_saved (hc : isBlankText c.clientId = false) :
    clientId side flags (some c) =
      .ok ((flags.clientId?.filter fun id => !isBlankText id).getD c.clientId) := by
  rw [clientId]
  -- Whichever is taken is not blank, so it passes the check for an empty one.
  cases hgiven : flags.clientId?.filter (fun id => !isBlankText id) with
  | none =>
    have hsaved := isEmpty_of_not_isBlankText hc
    simp [Option.filter, hsaved]
  | some id =>
    have hid : isBlankText id = false := by simpa using (Option.filter_eq_some_iff.mp hgiven).2
    have hnonempty := isEmpty_of_not_isBlankText hid
    simp [Option.filter, hnonempty]

/-- With a secret that was saved as it is there always is one. -/
theorem clientSecret_of_saved {raw : String} (hc : c.clientSecret = .ofLiteral raw)
    (lookup : String → Option String) (m : Machine) :
    clientSecret side flags (some c) lookup m = .ok ((givenSecret? flags lookup).getD raw) := by
  rw [clientSecret]
  -- The saved secret is looked at only where the environment has none.
  cases givenSecret? flags lookup with
  | some secret => rfl
  | none =>
    have hsaved : savedSecret? (some c) = some (.ofLiteral raw) := by simp [savedSecret?, hc]
    rw [hsaved]
    simp only [Secret.Location.resolve_ofLiteral]
    rfl

/-- A side with a usable saved context has an endpoint exactly when it has an address. -/
theorem resolve_eq_ok_iff {raw : String} (hid : isBlankText c.clientId = false)
    (hsecret : c.clientSecret = .ofLiteral raw) (lookup : String → Option String) (m : Machine)
    {e : Endpoint} :
    resolve side flags (some c) lookup m = .ok e ↔
      address side flags (some c) = .ok e.url ∧
        e.credentials = ⟨(flags.clientId?.filter fun id => !isBlankText id).getD c.clientId,
          (givenSecret? flags lookup).getD raw⟩ := by
  rw [resolve, clientId_of_saved side flags hid, clientSecret_of_saved side flags hsecret lookup m]
  -- Neither credential can fail, so the endpoint stands or falls with its address.
  obtain ⟨url', credentials⟩ := e
  cases address side flags (some c) with
  | error f =>
    constructor
    · intro h
      cases h
    · rintro ⟨h, -⟩
      cases h
  | ok url =>
    constructor
    · intro h
      obtain ⟨rfl, rfl⟩ := Endpoint.mk.inj (Except.ok.inj h)
      exact ⟨rfl, rfl⟩
    · rintro ⟨hurl, rfl⟩
      obtain rfl := Except.ok.inj hurl
      rfl

end

/-! ## No part is missing -/

section
variable {side : Side} {flags : EndpointFlags} {context? : Option Store.SavedContext}
variable {lookup : String → Option String} {m : Machine}

/-- An address is one of a tenant, wherever it is from. -/
theorem ofTenant_of_address {url : String} (h : address side flags context? = .ok url) :
    ∃ v, Url.ofTenant url = .ok v := by
  rw [address] at h
  split at h
  · cases h
  · split at h
    · rename_i v hread
      obtain rfl := Except.ok.inj h
      exact ⟨v, hread⟩
    · cases h

/-- A client has a name, wherever it is from. -/
theorem clientId_ne_empty {id : String} (h : clientId side flags context? = .ok id) : id ≠ "" := by
  rw [clientId] at h
  split at h
  · cases h
  · rename_i id' hfound
    obtain rfl : id' = id := Except.ok.inj h
    simpa using (Option.filter_eq_some_iff.mp hfound).2

/-- A saved secret is one of the context, at a location that is not that of no secret. -/
theorem savedSecret?_eq_some_iff {l : Secret.Location} :
    savedSecret? context? = some l ↔
      (∃ c, context? = some c ∧ c.clientSecret = l) ∧ l.isEmpty = false := by
  rw [savedSecret?, Option.filter_eq_some_iff, Option.map_eq_some_iff, Bool.not_eq_true']

/-- A secret is empty exactly if it is not in the environment and none is where it was saved. -/
theorem clientSecret_eq_empty_iff {secret : String}
    (h : clientSecret side flags context? lookup m = .ok secret) :
    secret = "" ↔
      givenSecret? flags lookup = none ∧ ∃ c, context? = some c ∧ c.clientSecret.Hollow m := by
  rw [clientSecret] at h
  cases hgiven : givenSecret? flags lookup with
  | some given =>
    rw [hgiven] at h
    obtain rfl : given = secret := Except.ok.inj h
    -- An empty variable counts as none, so a given secret is never empty.
    have hne : given ≠ "" := by simpa using (Option.filter_eq_some_iff.mp hgiven).2
    simp [hne]
  | none =>
    rw [hgiven] at h
    cases hsaved : savedSecret? context? with
    | none =>
      rw [hsaved] at h
      cases h
    | some l =>
      obtain ⟨⟨c, rfl, rfl⟩, hl⟩ := savedSecret?_eq_some_iff.mp hsaved
      rw [hsaved] at h
      simp only [Failure.during_eq_ok_iff, mapError_eq_ok_iff] at h
      -- What is saved is empty exactly where its location is hollow.
      have hempty := Secret.Location.resolve_eq_ok_empty_iff (m := m) hl
      rw [h, Except.ok.injEq] at hempty
      simpa using hempty

/-- An endpoint has the address of a tenant and a client that has a name.  Its secret is empty
    exactly if the environment holds none and the context names a place where there is none. -/
theorem resolved_credentials {e : Endpoint}
    (h : resolve side flags context? lookup m = .ok e) :
    (∃ u, Url.ofTenant e.url = .ok u) ∧
      e.credentials.clientId ≠ "" ∧
      (e.credentials.clientSecret = "" ↔
        givenSecret? flags lookup = none ∧
          ∃ c, context? = some c ∧ c.clientSecret.Hollow m) := by
  rw [resolve] at h
  obtain ⟨url, hurl, h⟩ := bind_eq_ok_iff.mp h
  obtain ⟨id, hid, h⟩ := bind_eq_ok_iff.mp h
  obtain ⟨secret, hsecret, h⟩ := bind_eq_ok_iff.mp h
  obtain rfl := Except.ok.inj h
  exact ⟨ofTenant_of_address hurl, clientId_ne_empty hid, clientSecret_eq_empty_iff hsecret⟩

end

/-- A context whose secret was given as it is. -/
def contextWith (secret : String) : Store.SavedContext :=
  ⟨"local", "http://[::1]", "client", .ofLiteral secret, 0, 0⟩

/-- What a side has that names such a context and says nothing more. -/
theorem resolve_contextWith (secret : String) (m : Machine) :
    resolve .source {} (some (contextWith secret)) (fun _ => none) m =
      .ok ⟨"http://[::1]", ⟨"client", secret⟩⟩ := by
  -- Reading the URL is evaluated once; what it reads does not matter.
  have hread : (Url.ofTenant "http://[::1]").toOption.isSome = true := by decide +kernel
  have hurl : ∃ v, Url.ofTenant "http://[::1]" = .ok v := by
    cases hv : Url.ofTenant "http://[::1]" with
    | error f =>
      rw [hv] at hread
      cases hread
    | ok v => exact ⟨v, rfl⟩
  have hid : isBlankText "client" = false := by decide
  rw [resolve_eq_ok_iff (c := contextWith secret) .source {} hid rfl]
  exact ⟨(address_eq_ok_iff .source {}).mpr ⟨rfl, hurl⟩, rfl⟩

/-- No part is missing of what a context with a secret gives, and the place of the secret holds
    one. -/
theorem resolved_credentials_of_contextWith :
    ∃ e, resolve .source {} (some (contextWith "s3cret")) (fun _ => none) {} = .ok e ∧
      (∃ u, Url.ofTenant e.url = .ok u) ∧
      e.credentials = ⟨"client", "s3cret"⟩ ∧
      ¬ (contextWith "s3cret").clientSecret.Hollow {} := by
  have h := resolve_contextWith "s3cret" {}
  obtain ⟨hurl, -, hsecret⟩ := resolved_credentials h
  have hne : "s3cret" ≠ "" := by decide
  refine ⟨_, h, hurl, rfl, ?_⟩
  intro hhollow
  exact hne (hsecret.mpr ⟨rfl, _, rfl, hhollow⟩)

/-- A marker with nothing behind it passes for a secret, and the endpoint is one without. -/
theorem bare_marker_leaves_no_secret :
    (contextWith "").clientSecret.text = "dev-literal://" ∧
      resolve .source {} (some (contextWith "")) (fun _ => none) {} =
        .ok ⟨"http://[::1]", ⟨"client", ""⟩⟩ :=
  ⟨by decide, resolve_contextWith "" {}⟩

end Endpoint

end TenantSync
