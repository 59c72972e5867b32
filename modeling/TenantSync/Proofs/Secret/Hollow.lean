import Mathlib.Data.List.TakeWhile
import TenantSync.Proofs.Secret.Location

/-!
# Locations that hold no secret

A location that names a place may still hold nothing.  An environment variable that is empty is
refused, but nothing may stand behind the markers of secrets that are given as they are or in base
64, and a mounted file may hold nothing but ends of lines: such a location is `Location.Hollow`, and
these are the only ones that are read as the empty text (`Location.resolve_eq_ok_empty_iff`).
-/

namespace TenantSync

/-- Two steps succeed exactly if the second succeeds on what the first one gives. -/
theorem bind_eq_ok_iff {ε α β : Type} {x : Except ε α} {f : α → Except ε β} {y : β} :
    x >>= f = .ok y ↔ ∃ a, x = .ok a ∧ f a = .ok y := by
  cases x with
  | error e => simp [bind, Except.bind]
  | ok a => simp [bind, Except.bind]

/-- What is read under another name is what is read. -/
@[simp] theorem Failure.during_eq_ok_iff {κ α : Type} {a : Activity} {x : Except (Failure κ) α}
    {y : α} : Failure.during a x = .ok y ↔ x = .ok y := by
  cases x <;> simp [Failure.during]

/-- Naming the fault makes no success of a failure. -/
@[simp] theorem mapError_eq_ok_iff {ε ε' α : Type} {f : ε → ε'} {x : Except ε α} {y : α} :
    x.mapError f = .ok y ↔ x = .ok y := by
  cases x <;> simp [Except.mapError]

/-- A text without its last characters is empty exactly if all of them may be left out. -/
theorem trimRight_eq_empty_iff {p : Char → Bool} {s : String} :
    trimRight p s = "" ↔ s.toList.all p = true := by
  rw [trimRight, ← String.toList_inj, String.toList_ofList, String.toList_empty,
    List.reverse_eq_nil_iff, List.dropWhile_eq_nil_iff, List.all_eq_true]
  simp only [List.mem_reverse]

/-! ## Nothing in base 64 -/

namespace Base64

/-- The last group, unless nothing is left for it, holds a byte at least. -/
theorem lastGroup_ne_nil {offset : Nat} {group : List UInt8} (hne : group ≠ []) :
    lastGroup offset group ≠ .ok [] := by
  intro h
  obtain ⟨symbols, -, h⟩ := bind_eq_ok_iff.mp h
  obtain ⟨vs, -, h⟩ := bind_eq_ok_iff.mp h
  obtain ⟨hempty, -⟩ | ⟨-, h⟩ := ite_eq_iff.mp h
  · exact hne (List.isEmpty_iff.mp hempty)
  obtain ⟨-, h⟩ | ⟨htwo, h⟩ := ite_eq_iff.mp h
  · cases h
  obtain ⟨-, h⟩ | ⟨-, h⟩ := ite_eq_iff.mp h
  · cases h
  obtain ⟨-, h⟩ | ⟨-, h⟩ := ite_eq_iff.mp h
  · cases h
  -- There are two symbols at least, so a byte is taken.
  have hnone := Except.ok.inj h
  rw [List.take_eq_nil_iff] at hnone
  simp only [bytes, reduceCtorEq, or_false] at hnone
  omega

/-- Where there are symbols, there is a byte. -/
theorem groups_ne_nil {offset : Nat} {input : List UInt8} (hne : input ≠ []) :
    groups offset input ≠ .ok [] := by
  intro h
  unfold groups at h
  -- A whole group decodes to bytes, and so does what is left at the end.
  split at h
  · obtain ⟨vs, -, h⟩ := bind_eq_ok_iff.mp h
    split at h
    · obtain ⟨bs, -, h⟩ := bind_eq_ok_iff.mp h
      cases h
    · cases h
  · exact lastGroup_ne_nil hne h

/-- Only nothing is read as no bytes. -/
theorem decode_eq_nil_iff {input : List UInt8} : decode input = .ok [] ↔ input = [] := by
  constructor
  · intro h
    by_contra hne
    rw [decode] at h
    -- The last byte tells how the text ends; only an empty text has none.
    split at h
    · split at h
      · cases h
      · exact groups_ne_nil hne h
    · rename_i hnone
      exact hne (List.getLast?_eq_none_iff.mp hnone)
  · rintro rfl
    rfl

end Base64

/-! ## No bytes as text -/

/-- Whatever the first byte is, it begins a character or is refused. -/
theorem Utf8.decodeFrom_ne_nil {i : Nat} {bytes : List UInt8} (hne : bytes ≠ []) :
    decodeFrom i bytes ≠ .ok [] := by
  have hmap : ∀ (r : Except Fault (List Char)) (c : Char), r.map (c :: ·) ≠ .ok [] := by
    intro r c h
    cases r <;> cases h
  unfold decodeFrom
  -- Every branch puts a character in front of what follows, or is a failure.
  repeat' split
  all_goals
    first
    | exact absurd rfl hne
    | exact hmap _ _
    | exact fun h => by cases h

/-- Only no bytes are read as the empty text. -/
theorem Utf8.decode_eq_empty_iff {bytes : List UInt8} : decode bytes = .ok "" ↔ bytes = [] := by
  constructor
  · intro h
    by_contra hne
    rw [decode] at h
    -- No bytes but none decode to no characters.
    obtain ⟨cs, hchars, h⟩ := bind_eq_ok_iff.mp h
    have hempty : String.ofList cs = "" := Except.ok.inj h
    obtain rfl : cs = [] := by simpa using congrArg String.toList hempty
    exact decodeFrom_ne_nil hne hchars
  · rintro rfl
    rfl

/-- Only the empty text has no bytes. -/
theorem toList_toUTF8_eq_nil_iff {s : String} : s.toUTF8.toList = [] ↔ s = "" := by
  -- The loop only ever adds to what it has collected.
  have hgrows : ∀ (bs : ByteArray) (i : Nat) (done : List UInt8), done ≠ [] →
      ByteArray.toList.loop bs i done ≠ [] := by
    intro bs i done
    fun_induction ByteArray.toList.loop bs i done with
    | case1 i done hi ih => exact fun _ => ih (List.cons_ne_nil _ _)
    | case2 i done hi => simp
  constructor
  · intro h
    by_contra hne
    have hsize : 0 < s.toUTF8.size := by
      rw [String.toUTF8_eq_toByteArray, String.size_toByteArray, Nat.pos_iff_ne_zero]
      exact fun hzero => hne (String.utf8ByteSize_eq_zero_iff.mp hzero)
    rw [ByteArray.toList, ByteArray.toList.loop.eq_def, if_pos hsize] at h
    exact hgrows _ _ _ (List.cons_ne_nil _ _) h
  · rintro rfl
    rw [ByteArray.toList, ByteArray.toList.loop.eq_def]
    rfl

namespace Secret

/-! ## What the schemes read -/

section
variable {m : Machine} {path : String}

/-- Only nothing in base 64 is read as the empty text. -/
theorem read_dev_eq_empty_iff : read m path .dev = .ok "" ↔ path = "" := by
  rw [read, bind_eq_ok_iff]
  simp only [Failure.during_eq_ok_iff, Reading.ofExcept, mapError_eq_ok_iff,
    Utf8.decode_eq_empty_iff, exists_eq_right, Base64.decode_eq_nil_iff, toList_toUTF8_eq_nil_iff]

/-- The ends of lines behind a mounted secret are no part of it. -/
theorem read_kubernetes_eq_empty_iff :
    read m path .kubernetes = .ok "" ↔ ∃ content,
      m.readText (mountedFile (mount m) path) = .ok content ∧
        content.toList.all endsLine = true := by
  have hdone : ∀ text : String, (pure (trimRight endsLine text) : Reading String) = .ok "" ↔
      text.toList.all endsLine = true := by
    intro text
    show Except.ok _ = Except.ok _ ↔ _
    rw [Except.ok.injEq, trimRight_eq_empty_iff]
  rw [read, bind_eq_ok_iff]
  simp only [Failure.during_eq_ok_iff, Reading.ofExcept, mapError_eq_ok_iff, hdone]

/-- A variable that is empty is refused. -/
theorem read_env_ne_empty : read m path .env ≠ .ok "" := by
  intro h
  rw [read] at h
  -- An empty variable is refused like one that is not set.
  split at h
  · cases h
  · split at h
    · cases h
    · rename_i value _ hvalue
      obtain rfl : value = "" := Except.ok.inj h
      exact hvalue rfl

end

namespace Location

/-- The location names a place where there is no secret: nothing stands behind a marker for secrets
    that are given as they are or in base 64, or a mounted file holds nothing but ends of lines. -/
inductive Hollow (m : Machine) : Location → Prop where
  | literal : Hollow m ⟨Scheme.devLiteral.marker⟩
  | encoded : Hollow m ⟨Scheme.dev.marker⟩
  | mounted {path content : String} :
      m.readText (mountedFile (mount m) path) = .ok content → content.toList.all endsLine = true →
      Hollow m ⟨Scheme.kubernetes.marker ++ path⟩

/-- A location that is not that of no secret is read as the empty text exactly if it is hollow. -/
theorem resolve_eq_ok_empty_iff {m : Machine} {l : Location} (hl : l.isEmpty = false) :
    l.resolve m = .ok "" ↔ l.Hollow m := by
  constructor
  · intro h
    -- A location that is read has a scheme; the rest of its text decides.
    by_cases hmarked : ∃ s : Scheme, s.marker.toList <+: l.text.toList
    · obtain ⟨text⟩ := l
      obtain ⟨s, hs⟩ := hmarked
      obtain ⟨path, rfl⟩ := Scheme.exists_eq_append hs
      rw [resolve_append, Failure.during_eq_ok_iff] at h
      cases s with
      | aws => cases h
      | dev =>
        obtain rfl := read_dev_eq_empty_iff.mp h
        exact .encoded
      | devLiteral =>
        obtain rfl : path = "" := Except.ok.inj h
        exact .literal
      | kubernetes =>
        obtain ⟨content, hread, hends⟩ := read_kubernetes_eq_empty_iff.mp h
        exact .mounted hread hends
      | env => exact absurd h read_env_ne_empty
    · rw [resolve, hl, parts, Scheme.of?_eq_none_iff.mpr (not_exists.mp hmarked)] at h
      cases h
  · intro h
    cases h with
    | literal => exact resolve_ofLiteral "" m
    | encoded =>
      rw [← String.append_empty (s := Scheme.dev.marker), resolve_append, Failure.during_eq_ok_iff]
      exact read_dev_eq_empty_iff.mpr rfl
    | mounted hread hends =>
      rw [resolve_append, Failure.during_eq_ok_iff]
      exact read_kubernetes_eq_empty_iff.mpr ⟨_, hread, hends⟩

end Location

end Secret

end TenantSync
