import TenantSync.Http.Service
import TenantSync.Proofs.Web.Address

/-!
# Requests below the path of a tenant

A service sends its requests to paths below that of its tenant.  The slash that makes a directory of
that path is written behind the address before it is read; if there is a query or a fragment, the
slash is a part of it, and requests go to the directory above unless the path has a slash of its own
(`Http.Service.requests_below_tenant`).
-/

namespace TenantSync

/-! ## Paths as texts -/

namespace Url

variable {u v : Url}

/-- The segments of a path as they are written. -/
def written (path : List String) : List Char := path.flatMap fun seg => '/' :: seg.toList

/-- The path of an address is written with a slash before each segment. -/
theorem toList_pathText (u : Url) : u.pathText.toList = written u.path := by
  rw [pathText, String.toList_join, List.flatMap_map, written]
  congr 1
  funext seg
  simp [toString]

/-- Segments are written one after the other. -/
theorem written_append (xs ys : List String) : written (xs ++ ys) = written xs ++ written ys :=
  List.flatMap_append

/-- A single segment is written behind its slash. -/
theorem written_singleton (seg : String) : written [seg] = '/' :: seg.toList := by simp [written]

/-- Joined segments are written in place of the last one. -/
theorem toList_pathText_join (u : Url) (segs : List String) :
    (u.join segs).pathText.toList = written u.path.dropLast ++ written segs := by
  rw [toList_pathText, join, written_append]

/-- The path that relative paths are resolved against: that of the address up to its last slash. -/
def directoryText (u : Url) : String := (u.join [""]).pathText

/-- The directory of an address is its path up to the last slash. -/
theorem toList_directoryText (u : Url) :
    u.directoryText.toList = written u.path.dropLast ++ ['/'] := by
  rw [directoryText, toList_pathText_join]
  rfl

/-- The path up to the last slash is the whole path with a slash only if the path ends in one. -/
theorem directoryText_eq_iff (h : u.path = v.path) (hne : v.path ≠ []) :
    u.directoryText = withSlash v.pathText ↔ v.endsWithSlash := by
  rw [← String.toList_inj, toList_directoryText, Address.toList_withSlash, toList_pathText, h,
    Url.endsWithSlash]
  obtain hnil | ⟨init, last, hpath⟩ := List.eq_nil_or_concat' v.path
  · exact absurd hnil hne
  rw [hpath, List.dropLast_concat, List.getLast?_concat, Option.some.injEq, written_append]
  constructor
  · intro heq
    -- What is left of the path is shorter by its last segment.
    by_contra hlast
    have hpos : 0 < last.toList.length := by
      rw [String.length_toList]
      exact Nat.pos_of_ne_zero fun hzero => hlast (String.length_eq_zero_iff.mp hzero)
    have hlength := congrArg List.length heq
    rw [written_singleton] at hlength
    split at hlength <;>
      simp only [List.length_append, List.length_cons, List.length_nil] at hlength <;> omega
  · rintro rfl
    simp [written_singleton]

/-- An address whose path is made a directory is resolved against with the whole path. -/
theorem directoryText_of_directory (h : u.path = Address.directory v.path)
    (hslash : ∀ last ∈ v.path.getLast?, '/' ∉ last.toList) :
    u.directoryText = withSlash v.pathText := by
  by_cases hends : v.path.getLast? = some ""
  · rw [Address.directory, if_pos hends] at h
    refine (directoryText_eq_iff h ?_).mpr hends
    intro hnil
    rw [hnil] at hends
    cases hends
  · rw [Address.directory, if_neg hends] at h
    rw [← String.toList_inj, toList_directoryText, Address.toList_withSlash, toList_pathText, h,
      List.dropLast_concat, if_neg]
    -- The path ends with its last segment, which holds no slash and is not empty.
    obtain hnil | ⟨init, last, hpath⟩ := List.eq_nil_or_concat' v.path
    · simp [hnil, written]
    · rw [hpath, List.getLast?_concat] at hslash
      rw [hpath, List.getLast?_concat, Option.some.injEq, ← String.toList_inj] at hends
      rw [hpath, written_append, written_singleton]
      intro hlast
      rw [← getLast?_of_suffix ⟨written init ++ ['/'], by simp⟩ hends] at hlast
      exact hslash last rfl (List.mem_of_getLast? hlast)

/-- With one more segment than the whole path with a slash, it is another path. -/
theorem directoryText_ne_of_concat (h : u.path = v.path ++ [""]) (hv : v.endsWithSlash) :
    u.directoryText ≠ withSlash v.pathText := by
  obtain ⟨init, hpath⟩ := List.getLast?_eq_some_iff.mp hv
  have hne : v.path ≠ [] := by simp [hpath]
  rw [← (directoryText_eq_iff rfl hne).mpr hv, ne_eq, ← String.toList_inj, toList_directoryText,
    toList_directoryText, h, List.dropLast_concat, hpath, List.dropLast_concat, written_append]
  simp [written_singleton]

/-- The path of an address without a query and a fragment is kept as a whole, unless the address
    ends in a backslash. -/
theorem exists_directoryText_iff {s : String} (h : Address.parse (withSlash s) = .ok (.web u))
    (honly : Address.PathOnly s.toList)
    (hkept : ∀ c ∈ s.toList.getLast?, Address.isPadding c = false) :
    ∃ v, Address.parse s = .ok (.web v) ∧
      (u.directoryText = withSlash v.pathText ↔ s.toList.getLast? ≠ some '\\') := by
  cases hlast : s.toList.getLast? with
  | none =>
    -- The empty text is no address, with or without a slash.
    obtain rfl : s = "" := by simpa using hlast
    have hslash : Address.parse (withSlash "") = .error .relative := rfl
    rw [hslash] at h
    cases h
  | some c =>
    have hpadding := hkept c hlast
    by_cases hc : c = '/'
    · subst hc
      rw [withSlash, if_pos hlast] at h
      have hends := Address.endsWithSlash_of_parse honly hlast h
      have hkeeps := (directoryText_eq_iff rfl (Address.path_ne_nil_of_parse h)).mpr hends
      exact ⟨u, h, iff_of_true hkeeps (by decide)⟩
    · rw [withSlash, if_neg (by simp [hlast, hc])] at h
      by_cases hback : c = '\\'
      · subst hback
        obtain ⟨v, hv, hends, hpath⟩ := Address.exists_parse_of_backslash honly hlast h
        exact ⟨v, hv, iff_of_false (directoryText_ne_of_concat hpath hends) (by simp)⟩
      · have hslash : Address.isSlash c = false := by simp [Address.isSlash, hc, hback]
        obtain ⟨v, hv, hpath, hfree⟩ := Address.exists_parse_of_last honly hlast hpadding hslash h
        exact ⟨v, hv, iff_of_true (directoryText_of_directory hpath hfree) (by simp [hback])⟩

end Url

/-! ## Requests -/

namespace Http.Service

variable {s : Service}

/-- The address of a tenant is read with a slash at its end. -/
theorem parse_of_ofTenant {text : String} {u : Url} (h : Url.ofTenant text = .ok u) :
    Address.parse (withSlash (trim text)) = .ok (.web u) := by
  rw [Url.ofTenant] at h
  split at h
  · cases h
  · split at h
    · cases h
    · rename_i v hread
      obtain rfl : v = u := Except.ok.inj h
      exact hread
    · cases h

/-- Every request goes to a path that continues the given one. -/
def RequestsBelow (s : Service) (path : String) : Prop :=
  (∀ k, (s.collectionUrl (collection k)).pathText = path ++ "authz/" ++ collection k) ∧
    (∀ k id, (s.entityUrl (collection k) id).pathText =
      path ++ "authz/" ++ collection k ++ "/" ++ id.text) ∧
    s.tokenUrl.pathText = path ++ "oidc/token"

/-- All requests go where relative paths are resolved, and nowhere else. -/
theorem requestsBelow_iff {path : String} :
    s.RequestsBelow path ↔ s.base.directoryText = path := by
  constructor
  · rintro ⟨-, -, htoken⟩
    -- The path of the token request alone tells what stands in front of it.
    rw [← String.toList_inj] at htoken ⊢
    have hparts : Url.written ["oidc", "token"] = ['/'] ++ "oidc/token".toList := by decide
    rw [tokenUrl, Url.toList_pathText_join, String.toList_append, hparts, ← List.append_assoc]
      at htoken
    rw [Url.toList_directoryText]
    exact List.append_cancel_right htoken
  · rintro rfl
    refine ⟨fun k => ?_, fun k id => ?_, ?_⟩ <;>
      rw [← String.toList_inj] <;>
      simp [collectionUrl, entityUrl, tokenUrl, Url.toList_pathText_join,
        Url.toList_directoryText, Url.written]

/-- The base of a service ends in a slash exactly if the address of the tenant has neither a query
    nor a fragment, or its path ends in a slash by itself.  Exactly then do requests go below the
    whole path of the tenant, unless the address ends in a backslash.  Of an address that ends in a
    control character, of which the slash makes a part of the path, only the former is said. -/
theorem requests_below_tenant {text : String} (h : Url.ofTenant text = .ok s.base) :
    (s.base.endsWithSlash ↔
      Address.PathOnly (trim text).toList ∨
        ∃ v, Address.parse (trim text) = .ok (.web v) ∧ v.endsWithSlash) ∧
    ((Address.PathOnly (trim text).toList →
        ∀ c ∈ (trim text).toList.getLast?, Address.isPadding c = false) →
      ∃ v, Address.parse (trim text) = .ok (.web v) ∧
        (s.RequestsBelow (withSlash v.pathText) ↔
          (Address.PathOnly (trim text).toList → (trim text).toList.getLast? ≠ some '\\') ∧
          (¬ Address.PathOnly (trim text).toList → v.endsWithSlash))) := by
  have hparse := parse_of_ofTenant h
  -- Only behind a bare path does the slash that is added end the path itself.
  by_cases honly : Address.PathOnly (trim text).toList
  · have hends := Address.endsWithSlash_of_pathOnly hparse honly
    refine ⟨iff_of_true hends (.inl honly), fun hkept => ?_⟩
    obtain ⟨v, hv, hkeeps⟩ := Url.exists_directoryText_iff hparse honly (hkept honly)
    refine ⟨v, hv, ?_⟩
    rw [requestsBelow_iff, hkeeps]
    simp [honly]
  · obtain ⟨v, hv, hpath⟩ := Address.exists_parse_of_not_pathOnly hparse honly
    -- With a query or fragment the slash goes there, and the path stays as it is.
    have hbase : s.base.endsWithSlash ↔ v.endsWithSlash := by
      rw [Url.endsWithSlash, Url.endsWithSlash, hpath]
    refine ⟨?_, fun _ => ⟨v, hv, ?_⟩⟩
    · rw [hbase]
      simp [honly, hv]
    · rw [requestsBelow_iff, Url.directoryText_eq_iff hpath (Address.path_ne_nil_of_parse hv)]
      simp [honly]

/-- A service at the given address of a local tenant. -/
def localService (path : List String) (query? : Option String) : Service :=
  ⟨{ scheme := .http, host := "[::1]", path, query? }, "local", ⟨"id", "secret"⟩, {}⟩

/-- Without a query, a path without a slash is kept. -/
theorem requests_below_plain_path :
    Url.ofTenant "http://[::1]/api" = .ok (localService ["api", ""] none).base ∧
      (localService ["api", ""] none).RequestsBelow "/api/" := by
  -- The text is read by evaluation; the general statement then gives the rest.
  have h : Url.ofTenant "http://[::1]/api" = .ok (localService ["api", ""] none).base := by
    decide +kernel
  have htrim : trim "http://[::1]/api" = "http://[::1]/api" := by decide +kernel
  have honly : Address.PathOnly "http://[::1]/api".toList := by decide +kernel
  have hlast : "http://[::1]/api".toList.getLast? = some 'i' := by decide +kernel
  have hread : Address.parse "http://[::1]/api" = .ok (.web (localService ["api"] none).base) := by
    decide +kernel
  have hkeeps := (requests_below_tenant h).2
  rw [htrim, hlast] at hkeeps
  obtain ⟨v, hv, hkeeps⟩ := hkeeps (fun _ c hc => by obtain rfl := Option.some.inj hc; decide)
  obtain rfl : v = (localService ["api"] none).base := by
    rw [hread] at hv
    injection hv with hv
    injection hv with hv
    exact hv.symm
  exact ⟨h, hkeeps.mpr ⟨fun _ => by decide, fun hmore => absurd honly hmore⟩⟩

/-- A query takes the slash, and the path of the tenant is left out of that of a request. -/
theorem query_takes_the_slash :
    Url.ofTenant "http://[::1]/api?v=1" = .ok (localService ["api"] (some "v=1/")).base ∧
      (localService ["api"] (some "v=1/")).base.pathText = "/api" ∧
      (localService ["api"] (some "v=1/")).tokenUrl.pathText = "/oidc/token" := by
  decide +kernel

end Http.Service

end TenantSync
