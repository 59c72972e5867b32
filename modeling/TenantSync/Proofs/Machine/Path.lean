import Mathlib.Data.List.Basic
import TenantSync.Machine.FileTree

/-!
# Where paths lead

`Path.placeFrom` follows the names of a path from a directory without looking at any file.  Joining
a path with a relative one follows the names of both (`Path.placeFrom_join`), and whatever files
there are, a path is located nowhere else (`FileTree.eq_of_locate_eq_ok`).
-/

namespace TenantSync

namespace Path

variable {at' : Place} {name : String} {cwd : Place} {a b p : String}

/-- The place to which the names of a path lead: from the root if the path is absolute, and else
    from a directory. -/
def placeFrom (cwd : Place) (p : String) : Place :=
  (names p).foldl follow (if isAbsolute p then [] else cwd)

/-- A name that leads one step down. -/
def Descends (name : String) : Prop := name ≠ "" ∧ name ≠ "." ∧ name ≠ ".."

instance : DecidablePred Descends := fun _ => inferInstanceAs (Decidable (_ ∧ _))

/-! ## One name -/

/-- An idle name stays where it is. -/
@[simp] theorem follow_of_isIdle (h : isIdle name = true) : follow at' name = at' := by
  rw [follow, if_pos h]

/-- Two dots lead one directory up. -/
@[simp] theorem follow_parent : follow at' ".." = at'.dropLast := rfl

/-- Any other name leads one directory down. -/
theorem follow_of_descends (h : Descends name) : follow at' name = at' ++ [name] := by
  obtain ⟨hempty, hdot, hparent⟩ := h
  simp [follow, isIdle, hempty, hdot, hparent]

/-- A name leads one step down, or nowhere else, or back. -/
theorem length_follow_le (at' : Place) (h : ¬ Descends name) :
    (follow at' name).length ≤ at'.length := by
  simp only [Descends, not_and_or, not_not] at h
  obtain rfl | rfl | rfl := h
  · simp [follow, isIdle]
  · simp [follow, isIdle]
  · simp

/-! ## The names of a path -/

/-- The names on both sides of a slash. -/
theorem names_append_slash : names (a ++ "/" ++ b) = names a ++ names b := by
  have hslash : (a ++ "/" ++ b).toList = a.toList ++ '/' :: b.toList := by
    simp
  rw [names, hslash, List.splitOn_append_cons_self, List.map_append]
  rfl

/-- Behind a slash at the end stands a name that is none. -/
theorem names_concat_slash : names (a ++ "/") = names a ++ [""] := by
  have h := names_append_slash (a := a) (b := "")
  rwa [String.append_empty] at h

/-- A text without a slash is a name. -/
theorem names_of_not_mem (h : '/' ∉ p.toList) : names p = [p] := by
  rw [names, List.splitOn_eq_singleton h, List.map_singleton, String.ofList_toList]

/-- A path without a slash is relative. -/
theorem isAbsolute_eq_false_of_not_mem (h : '/' ∉ p.toList) : isAbsolute p = false := by
  rw [isAbsolute]
  cases hcs : p.toList with
  | nil => rfl
  | cons c cs =>
    rw [hcs, List.mem_cons, not_or] at h
    simpa using Ne.symm h.1

/-- What starts a path decides whether it is absolute. -/
theorem isAbsolute_append (h : a ≠ "") : isAbsolute (a ++ b) = isAbsolute a := by
  have hne : a.toList ≠ [] := by simpa using h
  obtain ⟨c, cs, hcs⟩ := List.exists_cons_of_ne_nil hne
  rw [isAbsolute, isAbsolute, String.toList_append, hcs]
  rfl

/-- A path that ends in a slash is something followed by that slash. -/
theorem exists_eq_append_slash (h : p.toList.getLast? = some '/') : ∃ start, p = start ++ "/" := by
  obtain ⟨cs, hcs⟩ := List.getLast?_eq_some_iff.mp h
  refine ⟨String.ofList cs, ?_⟩
  rw [← String.toList_inj, hcs]
  simp

/-! ## Joined paths -/

/-- A relative path below another one leads where its names lead from there. -/
theorem placeFrom_join (h : isAbsolute b = false) :
    placeFrom cwd (join a b) = (names b).foldl follow (placeFrom cwd a) := by
  by_cases hempty : a = ""
  · subst hempty
    have hjoin : join "" b = b := by simp [join]
    rw [hjoin, placeFrom, h]
    rfl
  rw [join, h]
  have hisEmpty : a.isEmpty = false := by simpa using hempty
  simp only [hisEmpty, Bool.false_eq_true, if_false]
  split
  · -- The slash is there already; the name behind it is none.
    rename_i hlast
    obtain ⟨start, rfl⟩ := exists_eq_append_slash hlast
    rw [placeFrom, placeFrom, isAbsolute_append hempty, names_append_slash, names_concat_slash,
      List.foldl_append, List.foldl_append, List.foldl_cons, List.foldl_nil,
      follow_of_isIdle (by decide)]
  · have hab : toString a ++ toString "/" ++ toString b = a ++ "/" ++ b := rfl
    rw [hab, placeFrom, placeFrom, String.append_assoc, isAbsolute_append hempty,
      ← String.append_assoc, names_append_slash, List.foldl_append]

/-- A name below a path leads where the path does and then where the name does. -/
theorem placeFrom_join_name (h : '/' ∉ name.toList) :
    placeFrom cwd (join a name) = follow (placeFrom cwd a) name := by
  rw [placeFrom_join (isAbsolute_eq_false_of_not_mem h), names_of_not_mem h]
  rfl

end Path

/-! ## Located paths -/

namespace FileTree

variable {t : FileTree} {here place cwd : Place} {path text : String}

/-- A walk that succeeds ends where following the names alone would. -/
theorem eq_of_walk_eq_ok {ns : List String} (h : t.walk here ns = .ok place) :
    place = ns.foldl Path.follow here := by
  induction ns generalizing here with
  | nil => exact (Except.ok.inj h).symm
  | cons name rest ih =>
    rw [walk] at h
    -- Each step is checked before it is taken; where the walk succeeds, all checks have passed.
    cases hpass : t.passThrough here with
    | error f =>
      rw [hpass] at h
      cases h
    | ok u =>
      rw [hpass] at h
      by_cases hlong : name.utf8ByteSize > longestName
      · simp only [hlong] at h
        cases h
      · simp only [hlong] at h
        exact ih h

/-- A path is located where its names lead. -/
theorem eq_of_locate_eq_ok (h : t.locate cwd path = .ok place) :
    place = Path.placeFrom cwd path := by
  rw [locate] at h
  -- Paths that are empty, too long or hold a null are refused before the walk.
  split at h
  · cases h
  split at h
  · cases h
  split at h
  · cases h
  exact eq_of_walk_eq_ok h

/-- What is read is the text of the file at the place to which the path leads. -/
theorem exists_file_of_readText_eq_ok (h : t.readText cwd path = .ok text) :
    ∃ bytes, t.node? (Path.placeFrom cwd path) = some (.file bytes) ∧
      Utf8.decode bytes = .ok text := by
  rw [readText] at h
  cases hplace : t.locate cwd path with
  | error f =>
    rw [hplace] at h
    cases h
  | ok place =>
    rw [hplace] at h
    obtain rfl := eq_of_locate_eq_ok hplace
    simp only [bind, Except.bind] at h
    -- Of what can stand at a place, only a file has a text, and it has to decode.
    split at h
    · cases h
    · cases h
    · cases h
    · rename_i bytes hnode
      split at h
      · rename_i decoded hdecoded
        obtain rfl : decoded = text := Except.ok.inj h
        exact ⟨bytes, hnode, hdecoded⟩
      · cases h

end FileTree

end TenantSync
