import TenantSync.Secret.Resolve

/-!
# Locations are told apart and read back

No marker is the beginning of another one, so at most one scheme matches a location and schemes may
be tried in any order (`Scheme.find?_eq_of?`).  A secret that is given as it is comes back character
for character on every machine, whatever it begins with (`Location.resolve_ofLiteral`), and what a
user types is a location that can be used (`secret_locations_are_lossless`).

`Location.Known` says which locations may be saved: those that begin with a known marker, and that
of no secret.
-/

namespace TenantSync

namespace Secret

/-! ## Markers -/

namespace Scheme

variable {s t : Scheme} {location rest : String}

/-- Behind a marker stands what was put there. -/
@[simp] theorem value?_append (s : Scheme) (rest : String) :
    s.value? (s.marker ++ rest) = some rest := by
  have hmarker : s.marker.toList.isPrefixOf (s.marker ++ rest).toList = true := by
    rw [String.toList_append, List.isPrefixOf_iff_prefix]
    exact List.prefix_append ..
  rw [Scheme.value?, if_pos hmarker, String.toList_append, ← String.length_toList, List.drop_left,
    String.ofList_toList]

/-- A marker is found exactly where the location begins with it. -/
theorem isSome_value?_iff :
    (s.value? location).isSome = true ↔ s.marker.toList <+: location.toList := by
  rw [Scheme.value?, ← List.isPrefixOf_iff_prefix]
  cases s.marker.toList.isPrefixOf location.toList <;> simp

/-- A location that begins with a marker is the marker and what stands behind it. -/
theorem exists_eq_append (h : s.marker.toList <+: location.toList) :
    ∃ rest, location = s.marker ++ rest := by
  obtain ⟨cs, hcs⟩ := h
  refine ⟨String.ofList cs, ?_⟩
  rw [← String.toList_inj, String.toList_append, String.toList_ofList, hcs]

/-- No marker is the beginning of another one. -/
theorem eq_of_marker_begins (h : s.marker.toList <+: t.marker.toList) : s = t := by
  revert h
  cases s <;> cases t <;> decide

/-- A text begins with one marker at most. -/
theorem eq_of_begins {cs : List Char} (hs : s.marker.toList <+: cs) (ht : t.marker.toList <+: cs) :
    s = t := by
  -- Of two beginnings of one text, the shorter is the beginning of the longer.
  rcases List.prefix_or_prefix_of_prefix hs ht with h | h
  · exact eq_of_marker_begins h
  · exact (eq_of_marker_begins h).symm

/-- Whoever tries every scheme, in whatever order, finds the one whose marker is there. -/
theorem find?_eq_some_iff {order : List Scheme} (hall : ∀ s, s ∈ order) :
    order.find? (fun s => (s.value? location).isSome) = some s ↔
      s.marker.toList <+: location.toList := by
  constructor
  · intro h
    have hfound := List.find?_some h
    exact isSome_value?_iff.mp hfound
  · intro h
    have hfound : (order.find? fun s => (s.value? location).isSome).isSome = true := by
      rw [List.isSome_find?, List.any_eq_true]
      exact ⟨s, hall s, isSome_value?_iff.mpr h⟩
    -- Some scheme of the order is found, and no other marker begins the same text.
    obtain ⟨t, ht⟩ := Option.isSome_iff_exists.mp hfound
    have hmarker := List.find?_some ht
    rw [ht, eq_of_begins (isSome_value?_iff.mp hmarker) h]

/-- A location's scheme is the one whose marker it starts with. -/
theorem of?_eq_some_iff : of? location = some s ↔ s.marker.toList <+: location.toList :=
  find?_eq_some_iff mem_all

/-- A location has no scheme when it starts with no marker. -/
theorem of?_eq_none_iff :
    of? location = none ↔ ∀ s : Scheme, ¬ s.marker.toList <+: location.toList := by
  simp only [of?, List.find?_eq_none, isSome_value?_iff]
  exact ⟨fun h s => h s (mem_all s), fun h s _ => h s⟩

/-- The order in which schemes are tried does not matter. -/
theorem find?_eq_of? {order : List Scheme} (hall : ∀ s, s ∈ order) :
    order.find? (fun s => (s.value? location).isSome) = of? location := by
  ext s
  rw [find?_eq_some_iff hall, of?_eq_some_iff]

/-- A marker with anything behind it is recognized. -/
@[simp] theorem of?_append (s : Scheme) (rest : String) : of? (s.marker ++ rest) = some s := by
  rw [of?_eq_some_iff, String.toList_append]
  exact List.prefix_append ..

end Scheme

/-! ## Locations that may be saved -/

namespace Location

/-- A location that begins with a known marker, or that of no secret. -/
def Known (l : Location) : Prop :=
  l.text = "" ∨ ∃ s ∈ Scheme.all, s.marker.toList <+: l.text.toList

instance (l : Location) : Decidable l.Known := inferInstanceAs (Decidable (_ ∨ _))

/-- What is behind the marker is the location's content. -/
@[simp] theorem parts_append (s : Scheme) (rest : String) :
    parts ⟨s.marker ++ rest⟩ = .ok (s, rest) := by
  simp only [parts, Scheme.of?_append, Scheme.value?_append]
  rfl

/-- A location with a marker is not empty. -/
@[simp] theorem isEmpty_append (s : Scheme) (rest : String) :
    isEmpty ⟨s.marker ++ rest⟩ = false := by
  cases s <;> simp [isEmpty, Scheme.marker]

/-- A location of a known scheme passes the check. -/
theorem validate_of_known {l : Location} (h : l.Known) : l.validate = .ok () := by
  obtain ⟨text⟩ := l
  rcases h with rfl | ⟨s, -, hmarker⟩
  · rfl
  · obtain ⟨rest, rfl⟩ := Scheme.exists_eq_append hmarker
    rw [validate, parts_append, isEmpty_append]
    rfl

/-- A location of no known scheme fails the check. -/
theorem validate_of_not_known {l : Location} (h : ¬ l.Known) :
    l.validate = .error (Failure.of .unknownScheme) := by
  rw [Known, not_or] at h
  have hempty : l.isEmpty = false := by simpa [isEmpty] using h.1
  have hof : Scheme.of? l.text = none :=
    Scheme.of?_eq_none_iff.mpr fun s hs => h.2 ⟨s, Scheme.mem_all s, hs⟩
  rw [validate, parts, hempty, hof]
  rfl

/-! ## Secrets that are given as they are -/

/-- A location with a marker is read by the scheme of the marker. -/
theorem resolve_append (s : Scheme) (rest : String) (m : Machine) :
    resolve ⟨s.marker ++ rest⟩ m = Failure.during (.resolvingSecret s) (read m rest s) := by
  rw [resolve, isEmpty_append, parts_append]
  rfl

/-- A location made for a literal secret is not empty, even when the secret is. -/
@[simp] theorem isEmpty_ofLiteral (secret : String) : (ofLiteral secret).isEmpty = false :=
  isEmpty_append ..

/-- A secret that is given as it is is read as it is. -/
@[simp] theorem resolve_ofLiteral (secret : String) (m : Machine) :
    (ofLiteral secret).resolve m = .ok secret := by
  rw [ofLiteral, resolve_append]
  rfl

/-! ## What a user types -/

variable {text : String}

/-- What begins with a marker is taken as a location. -/
theorem ofUserInput_append (s : Scheme) (rest : String) :
    ofUserInput (s.marker ++ rest) = ⟨s.marker ++ rest⟩ := by
  rw [ofUserInput, Scheme.of?_append, Option.isSome_some, Bool.or_true, if_pos rfl]

/-- What begins with no marker is taken as the secret itself. -/
theorem ofUserInput_of_unmarked (hne : text ≠ "")
    (h : ∀ s : Scheme, ¬ s.marker.toList <+: text.toList) : ofUserInput text = ofLiteral text := by
  have hempty : text.isEmpty = false := by simpa using hne
  rw [ofUserInput, hempty, Scheme.of?_eq_none_iff.mpr h]
  rfl

/-- What is taken from a user is no location, the location that was typed, or a secret in one. -/
theorem ofUserInput_cases (text : String) :
    (text = "" ∧ ofUserInput text = ⟨""⟩) ∨
      (∃ (s : Scheme) (rest : String), text = s.marker ++ rest ∧
        ofUserInput text = ⟨s.marker ++ rest⟩) ∨
      (text ≠ "" ∧ ofUserInput text = ofLiteral text) := by
  -- An empty text is left alone, a marked one is taken as it is, any other is a literal.
  by_cases hne : text = ""
  · subst hne
    exact .inl ⟨rfl, rfl⟩
  by_cases hmarked : ∃ s : Scheme, s.marker.toList <+: text.toList
  · obtain ⟨s, hs⟩ := hmarked
    obtain ⟨rest, rfl⟩ := Scheme.exists_eq_append hs
    exact .inr (.inl ⟨s, rest, rfl, ofUserInput_append s rest⟩)
  · exact .inr (.inr ⟨hne, ofUserInput_of_unmarked hne (not_exists.mp hmarked)⟩)

/-- What a user types may always be saved. -/
theorem known_ofUserInput (text : String) : (ofUserInput text).Known := by
  rcases ofUserInput_cases text with ⟨-, h⟩ | ⟨s, rest, -, h⟩ | ⟨-, h⟩ <;> rw [h]
  · exact .inl rfl
  · exact .inr ⟨s, Scheme.mem_all s, by simp⟩
  · exact .inr ⟨.devLiteral, Scheme.mem_all _, by simp [ofLiteral]⟩

/-- A location that was taken from a user is taken as it is. -/
theorem ofUserInput_text_ofUserInput (text : String) :
    ofUserInput (ofUserInput text).text = ofUserInput text := by
  rcases ofUserInput_cases text with ⟨-, h⟩ | ⟨s, rest, -, h⟩ | ⟨-, h⟩ <;> rw [h]
  · rfl
  · exact ofUserInput_append s rest
  · exact ofUserInput_append .devLiteral text

end Location

/-- Locations of secrets are unambiguous: a text begins with one marker at most, and whoever tries
    every scheme finds the same one in whatever order.  They are lossless: what a user types is a
    valid location, which is taken as it is from then on; a secret without a marker comes back as
    it was typed, and one that is given as it is comes back whatever it begins with. -/
theorem secret_locations_are_lossless (text : String) :
    (∀ s t : Scheme, s.marker.toList <+: text.toList → t.marker.toList <+: text.toList → s = t) ∧
      (∀ order : List Scheme, (∀ s, s ∈ order) →
        order.find? (fun s => (s.value? text).isSome) = Scheme.of? text) ∧
      (Location.ofUserInput text).validate = .ok () ∧
      Location.ofUserInput (Location.ofUserInput text).text = Location.ofUserInput text ∧
      (text ≠ "" → (∀ s : Scheme, ¬ s.marker.toList <+: text.toList) →
        ∀ m, (Location.ofUserInput text).resolve m = .ok text) ∧
      ∀ m, (Location.ofLiteral text).resolve m = .ok text := by
  refine ⟨fun s t hs ht => Scheme.eq_of_begins hs ht, fun order hall => Scheme.find?_eq_of? hall,
    ?_, Location.ofUserInput_text_ofUserInput text, ?_, Location.resolve_ofLiteral text⟩
  · exact Location.validate_of_known (Location.known_ofUserInput text)
  · intro hne hunmarked m
    rw [Location.ofUserInput_of_unmarked hne hunmarked]
    exact Location.resolve_ofLiteral text m

/-- A secret that nearly begins with a marker is none with a marker, and comes back. -/
theorem nearly_marked_secret_comes_back :
    ("dev-literal:/x" ≠ "" ∧ ∀ s : Scheme, ¬ s.marker.toList <+: "dev-literal:/x".toList) ∧
      ∀ m, (Location.ofUserInput "dev-literal:/x").resolve m = .ok "dev-literal:/x" := by
  have hne : "dev-literal:/x" ≠ "" := by decide
  have hunmarked : ∀ s : Scheme, ¬ s.marker.toList <+: "dev-literal:/x".toList := by
    intro s
    cases s <;> decide
  exact ⟨⟨hne, hunmarked⟩,
    (secret_locations_are_lossless "dev-literal:/x").2.2.2.2.1 hne hunmarked⟩

end Secret

end TenantSync
