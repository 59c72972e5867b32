import TenantSync.Proofs.Machine.Path
import TenantSync.Proofs.Secret.Hollow

/-!
# Files of mounted secrets

The secret of a path is mounted in a directory of its own, whose name is made from the path.  The
name holds no slash, so it leads one step down from the mount unless nothing is left of the path or
only one or two dots (`descends_mountedName_iff`).  `mounted_secrets_stay_inside_iff` says so of the
file that is read.
-/

namespace TenantSync.Secret

variable {cwd : Place} {mounted path : String}

/-- A file is that of a secret in a directory: it is called `value` and stands one step further
    down, in a directory with a name of its own. -/
def Inside (cwd : Place) (mounted file : String) : Prop :=
  ∃ name, '/' ∉ name.toList ∧ Path.Descends name ∧
    Path.placeFrom cwd file = Path.placeFrom cwd mounted ++ [name, "value"]

/-- A path from which no name can be made: it consists of at most two dots and slashes. -/
def Pointing (path : String) : Prop := path.length ≤ 2 ∧ ∀ c ∈ path.toList, c = '.' ∨ c = '/'

instance (path : String) : Decidable (Pointing path) :=
  @instDecidableAnd _ _ _ (List.decidableBAll (fun c => c = '.' ∨ c = '/') path.toList)

/-! ## Names of mounted secrets -/

/-- The name of a mounted directory holds no slash. -/
theorem slash_not_mem_mountedName : '/' ∉ (mountedName path).toList := by
  rw [mountedName, String.toList_ofList, List.mem_map]
  rintro ⟨c, -, hc⟩
  split at hc
  · cases hc
  split at hc
  · cases hc
  · contradiction

/-- A name of some dots is made from as many dots and slashes. -/
theorem mountedName_eq_dots_iff {n : Nat} :
    mountedName path = String.ofList (List.replicate n '.') ↔
      path.length = n ∧ ∀ c ∈ path.toList, c = '.' ∨ c = '/' := by
  -- Only dots and slashes become dots.
  have hdot : ∀ c : Char,
      (if c = '_' then '-' else if c = '/' then '.' else c) = '.' ↔ c = '.' ∨ c = '/' := by
    intro c
    split
    · rename_i h
      subst h
      decide
    · split
      · rename_i h
        simp [h]
      · rename_i h
        simp [h]
  rw [← String.toList_inj, mountedName, String.toList_ofList, String.toList_ofList,
    List.eq_replicate_iff, List.length_map, String.length_toList, List.forall_mem_map]
  simp only [hdot]

/-- The name leads one step down unless it is none, a dot or two dots. -/
theorem descends_mountedName_iff : Path.Descends (mountedName path) ↔ ¬ Pointing path := by
  have hempty : "" = String.ofList (List.replicate 0 '.') := rfl
  have hdot : "." = String.ofList (List.replicate 1 '.') := rfl
  have hparent : ".." = String.ofList (List.replicate 2 '.') := rfl
  have hlength : path.length ≤ 2 ↔ path.length = 0 ∨ path.length = 1 ∨ path.length = 2 := by
    omega
  simp only [Path.Descends, Ne, hempty, hdot, hparent, mountedName_eq_dots_iff, Pointing, hlength]
  tauto

/-! ## Files of mounted secrets -/

/-- The name is followed from the mount, and then the file is found. -/
theorem placeFrom_mountedFile :
    Path.placeFrom cwd (mountedFile mounted path) =
      Path.follow (Path.placeFrom cwd mounted) (mountedName path) ++ ["value"] := by
  rw [mountedFile, Path.placeFrom_join_name (by decide),
    Path.placeFrom_join_name slash_not_mem_mountedName, Path.follow_of_descends (by decide)]

/-- A mounted secret's file is inside the mount unless its path points out of it. -/
theorem inside_mountedFile_iff :
    Inside cwd mounted (mountedFile mounted path) ↔ ¬ Pointing path := by
  rw [← descends_mountedName_iff, Inside, placeFrom_mountedFile]
  constructor
  · rintro ⟨name, -, -, hplace⟩
    -- Two names stand behind the mount only if the first one leads down.
    by_contra h
    have hlength := congrArg List.length hplace
    have hle := Path.length_follow_le (Path.placeFrom cwd mounted) h
    simp only [List.length_append, List.length_cons, List.length_nil] at hlength
    omega
  · intro h
    refine ⟨_, slash_not_mem_mountedName, h, ?_⟩
    rw [Path.follow_of_descends h, List.append_assoc]
    rfl

/-- What is read as a mounted secret is the text of its file without the ends of lines. -/
theorem exists_file_of_resolve_eq_ok {m : Machine} {secret : String}
    (h : Location.resolve ⟨Scheme.kubernetes.marker ++ path⟩ m = .ok secret) :
    ∃ bytes content,
      m.files.node? (Path.placeFrom m.directory (mountedFile (mount m) path)) =
          some (.file bytes) ∧
        Utf8.decode bytes = .ok content ∧ secret = trimRight endsLine content := by
  rw [Location.resolve_append, Failure.during_eq_ok_iff, read, bind_eq_ok_iff] at h
  obtain ⟨content, hread, hsecret⟩ := h
  rw [Failure.during_eq_ok_iff, Reading.ofExcept, mapError_eq_ok_iff] at hread
  obtain ⟨bytes, hnode, hdecode⟩ := FileTree.exists_file_of_readText_eq_ok hread
  exact ⟨bytes, content, hnode, hdecode, (Except.ok.inj hsecret).symm⟩

/-- A mounted secret is read from one file, and that file is `value` in a directory of its own in
    the mount exactly if the path does not consist of at most two dots and slashes. -/
theorem mounted_secrets_stay_inside_iff (path : String) :
    (∀ (cwd : Place) (mounted : String),
      Inside cwd mounted (mountedFile mounted path) ↔ ¬ Pointing path) ∧
      ∀ (m : Machine) (secret : String),
        Location.resolve ⟨Scheme.kubernetes.marker ++ path⟩ m = .ok secret →
          ∃ bytes content,
            m.files.node? (Path.placeFrom m.directory (mountedFile (mount m) path)) =
                some (.file bytes) ∧
              Utf8.decode bytes = .ok content ∧ secret = trimRight endsLine content :=
  ⟨fun _ _ => inside_mountedFile_iff, fun _ _ => exists_file_of_resolve_eq_ok⟩

/-- A machine where secrets are mounted in a directory, and one file. -/
def machineWith (place : Place) (bytes : List UInt8) : Machine :=
  { environment := [(mountVariable, "/run/secrets")]
    files := (({} : FileTree).plant place (.file bytes)).plant ["run", "secrets"] .directory }

/-- The secret of a path with two parts is in the mount: three letters and the end of a line. -/
theorem path_of_two_parts_is_read :
    let place : Place := ["run", "secrets", "tenant.client-key", "value"]
    let m := machineWith place [107, 101, 121, 10]
    Location.resolve ⟨Scheme.kubernetes.marker ++ "tenant/client_key"⟩ m = .ok "key" ∧
      ∃ bytes content, m.files.node? place = some (.file bytes) ∧
        Utf8.decode bytes = .ok content ∧ "key" = trimRight endsLine content := by
  intro place m
  -- Reading the secret is evaluated; the general statement then says where it comes from.
  have hread : Location.resolve ⟨Scheme.kubernetes.marker ++ "tenant/client_key"⟩ m =
      .ok "key" := by
    decide +kernel
  have hplace : Path.placeFrom m.directory (mountedFile (mount m) "tenant/client_key") = place := by
    decide +kernel
  have hfile := (mounted_secrets_stay_inside_iff "tenant/client_key").2 m "key" hread
  rw [hplace] at hfile
  exact ⟨hread, hfile⟩

/-- Two slashes are made into the name that leads back, so a file outside of the mount is read. -/
theorem two_slashes_leave_the_mount :
    ¬ Inside [] "/run/secrets" (mountedFile "/run/secrets" "//") ∧
      Path.placeFrom [] (mountedFile "/run/secrets" "//") = ["run", "value"] ∧
      Location.resolve ⟨Scheme.kubernetes.marker ++ "//"⟩
        (machineWith ["run", "value"] [107, 101, 121, 10]) = .ok "key" := by
  have hpointing : Pointing "//" := by decide +kernel
  refine ⟨fun h => inside_mountedFile_iff.mp h hpointing, ?_, ?_⟩
  · decide +kernel
  · decide +kernel

end TenantSync.Secret
