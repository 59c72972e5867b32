import Mathlib.Data.List.DropRight
import TenantSync.Web.Address

/-!
# Addresses and what is written behind them

Which part of an address a slash behind it belongs to is decided by what stands before it.  Behind a
query or a fragment it is a part of those, and the path is what it was
(`Address.exists_parse_of_not_pathOnly`).  Elsewhere it is a part of the path and makes a directory
of the last segment, if that is none already (`Address.exists_parse_of_last`); only behind a
backslash it begins another segment (`Address.exists_parse_of_backslash`).
-/

namespace TenantSync

/-! ## Lists with something behind them -/

section
variable {α : Type} {p : α → Bool} {xs ys : List α} {x : α}

/-- Dropping as many as were taken is dropping while they fit. -/
theorem drop_length_takeWhile (p : α → Bool) (xs : List α) :
    xs.drop (xs.takeWhile p).length = xs.dropWhile p := by
  have hparts : (xs.takeWhile p ++ xs.dropWhile p).drop (xs.takeWhile p).length =
      xs.dropWhile p := List.drop_left
  rwa [List.takeWhile_append_dropWhile] at hparts

/-- Where an element is not taken, it does not matter what comes behind it. -/
theorem takeWhile_append_of_mem (hx : x ∈ xs) (hp : p x = false) :
    (xs ++ ys).takeWhile p = xs.takeWhile p := by
  rw [List.takeWhile_append, if_neg]
  intro hall
  have hself : xs.takeWhile p = xs := (List.takeWhile_prefix p).eq_of_length hall
  have hx' := List.takeWhile_eq_self_iff.mp hself x hx
  simp [hp] at hx'

/-- Dropping stops before what is appended, if an element to stop at comes first. -/
theorem dropWhile_append_of_mem (hx : x ∈ xs) (hp : p x = false) :
    (xs ++ ys).dropWhile p = xs.dropWhile p ++ ys := by
  rw [List.dropWhile_append, if_neg]
  intro hnil
  have hx' := List.dropWhile_eq_nil_iff.mp (List.isEmpty_iff.mp hnil) x hx
  simp [hp] at hx'

/-- An element to stop at is never dropped. -/
theorem mem_dropWhile_of_not (hx : x ∈ xs) (hp : p x = false) : x ∈ xs.dropWhile p := by
  rw [← List.takeWhile_append_dropWhile (p := p) (l := xs), List.mem_append] at hx
  rcases hx with hx | hx
  · have hx' := List.mem_takeWhile_imp hx
    simp [hp] at hx'
  · exact hx

/-- An element at the end that is not taken is left. -/
theorem takeWhile_concat_of_not (hp : p x = false) :
    (xs ++ [x]).takeWhile p = xs.takeWhile p := by
  rw [List.takeWhile_append]
  split
  · rename_i hall
    have hself : xs.takeWhile p = xs := (List.takeWhile_prefix p).eq_of_length hall
    simp [hself, hp]
  · rfl

/-- An element to stop at is not dropped as the last one either. -/
theorem dropWhile_concat_of_not (hp : p x = false) :
    (xs ++ [x]).dropWhile p = xs.dropWhile p ++ [x] := by
  rw [List.dropWhile_append]
  split
  · rename_i hnil
    simp [List.isEmpty_iff.mp hnil, hp]
  · rfl

/-- A part at the end of a list ends as the list does. -/
theorem getLast?_of_suffix (h : ys <:+ xs) (hys : ys ≠ []) : ys.getLast? = xs.getLast? := by
  obtain ⟨front, rfl⟩ := h
  rw [List.getLast?_append_of_ne_nil _ hys]

/-- What stands behind the last separator holds none, and is nothing only where the list ends in a
    separator or is empty. -/
theorem exists_splitOn_eq [BEq α] [LawfulBEq α] (sep : α) (xs : List α) :
    ∃ init last, xs.splitOn sep = init ++ [last] ∧ sep ∉ last ∧
      (last = [] ↔ xs = [] ∨ xs.getLast? = some sep) := by
  by_cases hmem : sep ∈ xs
  -- Cut at the last separator; what is behind it is the last part.
  · obtain ⟨as, bs, hparts, has⟩ := List.eq_append_cons_of_mem (List.mem_reverse.mpr hmem)
    have hxs : xs = bs.reverse ++ sep :: as.reverse := by
      rw [← List.reverse_reverse xs, hparts]
      simp
    have hlast : sep ∉ as.reverse := fun h => has (List.mem_reverse.mp h)
    refine ⟨bs.reverse.splitOn sep, as.reverse, ?_, hlast, ?_⟩
    · rw [hxs, List.splitOn_append_cons_self, List.splitOn_eq_singleton hlast]
    · constructor
      · intro hnil
        rw [hxs, hnil, List.getLast?_append]
        exact .inr rfl
      · rintro (hnil | hends)
        · simp [hnil] at hmem
        · by_contra hne
          rw [hxs, ← getLast?_of_suffix ⟨bs.reverse ++ [sep], by simp⟩ hne] at hends
          exact hlast (List.mem_of_getLast? hends)
  · refine ⟨[], xs, List.splitOn_eq_singleton hmem, hmem, ?_⟩
    constructor
    · exact .inl
    · rintro (hnil | hends)
      · exact hnil
      · exact absurd (List.mem_of_getLast? hends) hmem

end

namespace Percent

variable {reserved : Char → Bool} {cs : List Char}

/-- Only an empty text encodes to nothing. -/
theorem encode_eq_nil_iff : encode reserved cs = [] ↔ cs = [] := by
  cases cs with
  | nil => simp [encode]
  | cons c cs =>
    -- An escaped character has at least one byte, hence three characters.
    have hchar : encodeChar c ≠ [] := by
      obtain ⟨b, bs, hbytes⟩ := List.exists_cons_of_ne_nil (String.utf8EncodeChar_ne_nil (c := c))
      simp [encodeChar, encodeByte, hbytes]
    rw [encode, List.flatMap_cons]
    split <;> simp [hchar]

/-- A percent sign and two digits are no slash. -/
theorem slash_not_mem_encode (h : '/' ∉ cs) : '/' ∉ encode reserved cs := by
  have hdigit : ∀ d : Fin 16, '/' ≠ Hex.upper d := by decide
  intro hmem
  rw [encode, List.mem_flatMap] at hmem
  obtain ⟨c, hc, hmem⟩ := hmem
  -- An escape consists of a percent sign and digits; what is kept was there before.
  split at hmem
  · rw [encodeChar, List.mem_flatMap] at hmem
    obtain ⟨b, -, hmem⟩ := hmem
    simp [encodeByte, hdigit] at hmem
  · obtain rfl : '/' = c := by simpa using hmem
    exact h hc

end Percent

namespace Address

/-! ## The path -/

/-- The directories that a segment leads to. -/
def enter (done : List (List Char)) (seg : List Char) : List (List Char) :=
  if isDoubleDot seg then parent done else if isSingleDot seg then done else done ++ [seg]

/-- The last segment is looked at when all others have been entered. -/
theorem resolveDots_concat (done init : List (List Char)) (last : List Char) :
    resolveDots done (init ++ [last]) =
      if isDoubleDot last || isSingleDot last then enter (init.foldl enter done) last ++ [[]]
      else enter (init.foldl enter done) last := by
  induction init generalizing done with
  | nil =>
    rw [List.nil_append, List.foldl_nil, resolveDots, enter]
    cases isDoubleDot last <;> cases isSingleDot last <;> rfl
  | cons seg init ih =>
    -- `resolveDots` tells the last segment from the others by what comes next.
    have hnext : ∃ next rest, init ++ [last] = next :: rest := by
      cases init with
      | nil => exact ⟨last, [], rfl⟩
      | cons next rest => exact ⟨next, rest ++ [last], rfl⟩
    obtain ⟨next, rest, hinit⟩ := hnext
    rw [List.foldl_cons, ← ih, List.cons_append, hinit, resolveDots, ← hinit, enter]
    cases isDoubleDot seg <;> cases isSingleDot seg <;> rfl

/-- A path that ends in a slash is what its last directory is. -/
theorem resolveDots_concat_nil (done segs : List (List Char)) :
    resolveDots done (segs ++ [[]]) = segs.foldl enter done ++ [[]] := by
  rw [resolveDots_concat]
  rfl

/-- Whether a character is a slash, of either kind. -/
def isSlash (c : Char) : Bool := c = '/' || c = '\\'

/-- Both slashes count as one. -/
theorem isSlash_iff {c : Char} : isSlash c = true ↔ c = '/' ∨ c = '\\' := by simp [isSlash]

/-- A slash behind a path begins another segment. -/
theorem segments_concat_slash {c : Char} (hc : isSlash c = true) (cs : List Char) :
    segments (c :: cs ++ ['/']) = segments (c :: cs) ++ [[]] := by
  rcases isSlash_iff.mp hc with rfl | rfl <;>
    simp [segments, List.splitOn_append_cons_self]

/-- With a slash behind it, the last segment of a path is a directory.  The path stays as it was if
    the segment is one of dots, which leads to a directory anyway. -/
theorem path_concat_slash {c : Char} (hc : isSlash c = true) {cs last : List Char}
    {init : List (List Char)} (hsegs : segments (c :: cs) = init ++ [last]) :
    ∃ (dirs : List String) (seg : List Char), seg = Percent.encode Percent.inPath last ∧
      ((last ≠ [] ∧ path (c :: cs) = dirs ++ [""] ∧ path (c :: cs ++ ['/']) = dirs ++ [""]) ∨
        (path (c :: cs) = dirs ++ [String.ofList seg] ∧
          path (c :: cs ++ ['/']) = dirs ++ [String.ofList seg, ""])) := by
  have hpath : path (c :: cs) = (resolveDots [] (init.map (Percent.encode Percent.inPath) ++
      [Percent.encode Percent.inPath last])).map String.ofList := by
    rw [path, hsegs, List.map_append, List.map_singleton]
  have hslash : path (c :: cs ++ ['/']) =
      ((init.map (Percent.encode Percent.inPath) ++
        [Percent.encode Percent.inPath last]).foldl enter [] ++ [[]]).map String.ofList := by
    have hnothing : Percent.encode Percent.inPath [] = [] := rfl
    rw [path, segments_concat_slash hc, hsegs, List.map_append, List.map_append,
      List.map_singleton, List.map_singleton, hnothing, resolveDots_concat_nil]
  have hne : isDoubleDot (Percent.encode Percent.inPath last) ||
      isSingleDot (Percent.encode Percent.inPath last) → last ≠ [] := by
    rintro hdots rfl
    cases hdots
  rw [resolveDots_concat] at hpath
  rw [List.foldl_append, List.foldl_cons, List.foldl_nil] at hslash
  generalize Percent.encode Percent.inPath last = seg at hpath hslash hne
  generalize (init.map (Percent.encode Percent.inPath)).foldl enter [] = done at hpath hslash
  cases hdots : isDoubleDot seg || isSingleDot seg with
  | true =>
    rw [hdots, if_pos rfl] at hpath
    exact ⟨(enter done seg).map String.ofList, seg, rfl,
      .inl ⟨hne hdots, by simpa using hpath, by simpa using hslash⟩⟩
  | false =>
    -- A segment that is not one of dots is kept, and the slash begins another one.
    have henter : enter done seg = done ++ [seg] := by
      rw [Bool.or_eq_false_iff] at hdots
      simp [enter, hdots]
    rw [hdots, if_neg Bool.false_ne_true, henter] at hpath
    rw [henter] at hslash
    exact ⟨done.map String.ofList, seg, rfl, .inr ⟨by simpa using hpath, by simpa using hslash⟩⟩

/-- The last segment of a path holds no slash, and is nothing only if the path ends in one. -/
theorem exists_segments_eq {c d : Char} {cs : List Char} (hc : isSlash c = true)
    (hlast : (c :: cs).getLast? = some d) :
    ∃ init last, segments (c :: cs) = init ++ [last] ∧ '/' ∉ last ∧
      (last = [] ↔ isSlash d = true) := by
  -- The leading slash opens the path; it is no part of the first segment.
  have hsegs : segments (c :: cs) = (cs.map fun c => if c = '\\' then '/' else c).splitOn '/' := by
    rcases isSlash_iff.mp hc with rfl | rfl <;> rfl
  -- A backslash counts as a slash, also at the end.
  have hends : (if d = '\\' then '/' else d) = '/' ↔ isSlash d = true := by
    by_cases hd : d = '\\' <;> simp [isSlash, hd]
  obtain ⟨init, last, hsplit, hslash, hnil⟩ :=
    exists_splitOn_eq '/' (cs.map fun c => if c = '\\' then '/' else c)
  refine ⟨init, last, hsegs.trans hsplit, hslash, hnil.trans ?_⟩
  cases cs with
  | nil =>
    obtain rfl : c = d := by simpa using hlast
    simp [hc]
  | cons b bs =>
    rw [List.getLast?_cons_cons] at hlast
    rw [List.getLast?_map, hlast, Option.map_some, Option.some.injEq, hends]
    simp

/-- The segments of a path with a slash at its end. -/
def directory (path : List String) : List String :=
  if path.getLast? = some "" then path else path ++ [""]

/-- There is a segment in every path. -/
theorem path_ne_nil (cs : List Char) : path cs ≠ [] := by
  rw [path, ne_eq, List.map_eq_nil_iff]
  generalize (segments cs).map (Percent.encode Percent.inPath) = segs
  -- The last segment is kept, or leaves an empty one in its place.
  rcases List.eq_nil_or_concat' segs with rfl | ⟨init, last, rfl⟩
  · simp [resolveDots]
  · rw [resolveDots_concat]
    cases hdots : isDoubleDot last || isSingleDot last with
    | true => simp
    | false =>
      rw [Bool.or_eq_false_iff] at hdots
      simp [enter, hdots]

/-- A path that does not end in a slash is made a directory by one. -/
theorem path_concat_slash_of_not {c d : Char} {cs : List Char} (hc : isSlash c = true)
    (hlast : (c :: cs).getLast? = some d) (hd : isSlash d = false) :
    path (c :: cs ++ ['/']) = directory (path (c :: cs)) ∧
      ∀ last ∈ (path (c :: cs)).getLast?, '/' ∉ last.toList := by
  obtain ⟨init, last, hsegs, hslash, hnil⟩ := exists_segments_eq hc hlast
  have hne : last ≠ [] := by simpa [hd] using hnil
  -- The last segment is dots, which become an empty one anyway, or a name.
  obtain ⟨dirs, seg, rfl, ⟨-, hpath, hmore⟩ | ⟨hpath, hmore⟩⟩ := path_concat_slash hc hsegs
  · rw [hpath, hmore, directory]
    simp
  · have hne' : String.ofList (Percent.encode Percent.inPath last) ≠ "" := by
      rw [ne_eq, ← String.toList_inj, String.toList_ofList, String.toList_empty,
        Percent.encode_eq_nil_iff]
      exact hne
    rw [hpath, hmore, directory]
    simp [hne', Percent.slash_not_mem_encode hslash]

/-- A path that ends in a slash has another segment with one more. -/
theorem path_concat_slash_of_slash {c d : Char} {cs : List Char} (hc : isSlash c = true)
    (hlast : (c :: cs).getLast? = some d) (hd : isSlash d = true) :
    (path (c :: cs)).getLast? = some "" ∧ path (c :: cs ++ ['/']) = path (c :: cs) ++ [""] := by
  obtain ⟨init, last, hsegs, -, hnil⟩ := exists_segments_eq hc hlast
  obtain rfl : last = [] := hnil.mpr hd
  obtain ⟨dirs, seg, rfl, ⟨hne, -⟩ | ⟨hpath, hmore⟩⟩ := path_concat_slash hc hsegs
  · exact absurd rfl hne
  · rw [hpath, hmore]
    simp [Percent.encode]

/-- With a slash at its end, a path ends in one. -/
theorem getLast?_path_concat_slash {c : Char} (hc : isSlash c = true) (cs : List Char) :
    (path (c :: cs ++ ['/'])).getLast? = some "" := by
  obtain ⟨init, last, hsegs, -⟩ := exists_segments_eq hc (List.getLast?_eq_some_getLast (by simp))
  obtain ⟨dirs, seg, -, ⟨-, -, hmore⟩ | ⟨-, hmore⟩⟩ := path_concat_slash hc hsegs <;>
    rw [hmore] <;> simp

/-! ## The parts of an address -/

deriving instance DecidableEq for Parsed

/-- Whether a character ends the path: a query or a fragment begins there. -/
def endsPath (c : Char) : Bool := c = '?' || c = '#'

/-- A path ends at a query or a fragment. -/
theorem endsPath_iff {c : Char} : endsPath c = true ↔ c = '?' ∨ c = '#' := by simp [endsPath]

/-- There is neither a query nor a fragment. -/
def PathOnly (cs : List Char) : Prop := ∀ c ∈ cs, endsPath c = false

instance (cs : List Char) : Decidable (PathOnly cs) :=
  List.decidableBAll (fun c => endsPath c = false) cs

/-- A slash at the end leaves a text without a query or fragment. -/
theorem PathOnly.concat_slash {cs : List Char} (honly : PathOnly cs) : PathOnly (cs ++ ['/']) := by
  intro c hc
  rcases List.mem_append.mp hc with hc | hc
  · exact honly c hc
  · obtain rfl := List.mem_singleton.mp hc
    decide

/-- What stands between the slashes in front and the path. -/
def authorityChars (cs : List Char) : List Char :=
  (cs.dropWhile isSlash).takeWhile fun c => !endsAuthority true c

/-- What stands behind that. -/
def tailChars (cs : List Char) : List Char :=
  (cs.dropWhile isSlash).dropWhile fun c => !endsAuthority true c

/-- The path as it is written. -/
def pathChars (cs : List Char) : List Char := (tailChars cs).takeWhile fun c => !endsPath c

/-- In an address of the web, the authority ends at a slash, a query or a fragment. -/
theorem endsAuthority_eq (c : Char) : endsAuthority true c = (isSlash c || endsPath c) := by
  simp only [endsAuthority, isSlash, endsPath, Bool.true_and]
  cases decide (c = '/') <;> cases decide (c = '?') <;> cases decide (c = '#') <;>
    cases decide (c = '\\') <;> rfl

/-- The path ends where a query or a fragment begins. -/
theorem path_splitTail (cs : List Char) :
    (splitTail cs).path = cs.takeWhile fun c => !endsPath c := by
  show List.takeWhile _ (List.takeWhile _ cs) = _
  rw [List.takeWhile_takeWhile]
  congr 1
  funext c
  simp [endsPath]

/-- Reading the rest of such an address is reading its authority and splitting what follows. -/
theorem special_eq (cs : List Char) :
    special cs = (authority (authorityChars cs)).map fun a => (a, splitTail (tailChars cs)) := by
  show (authority (authorityChars cs) >>= fun a =>
    pure (a, splitTail ((cs.dropWhile isSlash).drop (authorityChars cs).length))) = _
  rw [authorityChars, drop_length_takeWhile, ← authorityChars, ← tailChars]
  cases authority (authorityChars cs) <;> rfl

section
variable {scheme : WebScheme} {cs : List Char} {u : Url}

/-- A web address is read if its authority is. -/
theorem exists_web_iff :
    (∃ v, web scheme cs = .ok v) ↔ ∃ a, authority (authorityChars cs) = .ok a := by
  rw [web, special_eq]
  cases authority (authorityChars cs) with
  | error f =>
    constructor <;> rintro ⟨v, hv⟩ <;> cases hv
  | ok a => exact ⟨fun _ => ⟨a, rfl⟩, fun _ => ⟨_, rfl⟩⟩

/-- The address read has the path its characters give. -/
theorem path_of_web (h : web scheme cs = .ok u) : u.path = path (pathChars cs) := by
  rw [web, special_eq] at h
  -- The address is read only if its authority is.
  cases hauth : authority (authorityChars cs) with
  | error f =>
    rw [hauth] at h
    cases h
  | ok a =>
    rw [hauth] at h
    obtain rfl := Except.ok.inj h
    rw [pathChars, ← path_splitTail]

/-- There is a host in every address that is read. -/
theorem dropWhile_isSlash_ne_nil (h : web scheme cs = .ok u) : cs.dropWhile isSlash ≠ [] := by
  intro hnil
  obtain ⟨a, ha⟩ := exists_web_iff.mp ⟨u, h⟩
  rw [authorityChars, hnil] at ha
  cases ha

end

/-! ## What is written behind an address -/

section
variable {cs : List Char}

/-- What ends a path is no slash. -/
theorem isSlash_eq_false {c : Char} (hc : endsPath c = true) : isSlash c = false := by
  rcases endsPath_iff.mp hc with rfl | rfl <;> decide

/-- Behind a query or a fragment nothing belongs to the authority, -/
theorem authorityChars_append {c : Char} (hmem : c ∈ cs) (hc : endsPath c = true)
    (more : List Char) : authorityChars (cs ++ more) = authorityChars cs := by
  have hslash := isSlash_eq_false hc
  have hmem' := mem_dropWhile_of_not hmem hslash
  rw [authorityChars, dropWhile_append_of_mem hmem hslash, takeWhile_append_of_mem hmem',
    ← authorityChars]
  simp [endsAuthority_eq, hc]

/-- and nothing to the path. -/
theorem pathChars_append {c : Char} (hmem : c ∈ cs) (hc : endsPath c = true)
    (more : List Char) : pathChars (cs ++ more) = pathChars cs := by
  have hslash := isSlash_eq_false hc
  have hends : (!endsAuthority true c) = false := by simp [endsAuthority_eq, hc]
  -- The path ends within `cs`, so none of its parts sees what is appended.
  have hmem' := mem_dropWhile_of_not hmem hslash
  have hmem'' : c ∈ tailChars cs := mem_dropWhile_of_not hmem' hends
  have htailChars : tailChars (cs ++ more) = tailChars cs ++ more := by
    rw [tailChars, dropWhile_append_of_mem hmem hslash, dropWhile_append_of_mem hmem' hends,
      ← tailChars]
  rw [pathChars, htailChars, takeWhile_append_of_mem hmem'' (by simp [hc]), ← pathChars]

/-- A slash at the end outlives the dropping of the leading ones, if anything else does. -/
theorem dropWhile_isSlash_concat (hcs : cs.dropWhile isSlash ≠ []) :
    (cs ++ ['/']).dropWhile isSlash = cs.dropWhile isSlash ++ ['/'] := by
  rw [List.dropWhile_append, if_neg]
  exact fun hnil => hcs (List.isEmpty_iff.mp hnil)

/-- A slash at the end does not belong to the authority, -/
theorem authorityChars_concat_slash (hcs : cs.dropWhile isSlash ≠ []) :
    authorityChars (cs ++ ['/']) = authorityChars cs := by
  rw [authorityChars, dropWhile_isSlash_concat hcs, takeWhile_concat_of_not (by decide),
    ← authorityChars]

/-- Where there is neither a query nor a fragment, the path is the rest. -/
theorem pathChars_eq_tailChars (honly : PathOnly cs) : pathChars cs = tailChars cs := by
  rw [pathChars, List.takeWhile_eq_self_iff]
  intro c hc
  have hmem : c ∈ cs := List.dropWhile_subset _ (List.dropWhile_subset _ hc)
  rw [honly c hmem]
  rfl

/-- but to the path, where there is neither a query nor a fragment. -/
theorem pathChars_concat_slash (hcs : cs.dropWhile isSlash ≠ []) (honly : PathOnly cs) :
    pathChars (cs ++ ['/']) = pathChars cs ++ ['/'] := by
  rw [pathChars_eq_tailChars honly.concat_slash, pathChars_eq_tailChars honly, tailChars,
    dropWhile_isSlash_concat hcs, dropWhile_concat_of_not (by decide), ← tailChars]

/-- A path begins with a slash, unless it is left out. -/
theorem isSlash_of_pathChars {c : Char} {rest : List Char} (h : pathChars cs = c :: rest) :
    isSlash c = true := by
  have hmem : c ∈ pathChars cs := h ▸ List.mem_cons_self
  have hc := List.mem_takeWhile_imp hmem
  obtain ⟨more, hmore⟩ := List.takeWhile_prefix (fun c => !endsPath c) (l := tailChars cs)
  have hends := List.head?_dropWhile_not (fun c => !endsAuthority true c) (cs.dropWhile isSlash)
  rw [← tailChars, ← hmore, ← pathChars, h] at hends
  simpa [endsAuthority_eq, hc] using hends

/-- Where it is the rest, it ends as the address does. -/
theorem getLast?_pathChars (honly : PathOnly cs) (hne : pathChars cs ≠ []) :
    (pathChars cs).getLast? = cs.getLast? := by
  have hsuffix : pathChars cs <:+ cs := by
    rw [pathChars_eq_tailChars honly, tailChars]
    exact (List.dropWhile_suffix _).trans (List.dropWhile_suffix _)
  exact getLast?_of_suffix hsuffix hne

/-- A slash at the end belongs to a path. -/
theorem pathChars_ne_nil {c : Char} (hcs : cs.dropWhile isSlash ≠ [])
    (honly : PathOnly cs) (hlast : cs.getLast? = some c) (hc : isSlash c = true) :
    pathChars cs ≠ [] := by
  rw [← getLast?_of_suffix (List.dropWhile_suffix _) hcs] at hlast
  have hmem : c ∈ pathChars cs := by
    rw [pathChars_eq_tailChars honly]
    exact mem_dropWhile_of_not (List.mem_of_getLast? hlast) (by simp [endsAuthority_eq, hc])
  exact List.ne_nil_of_mem hmem

/-- With a slash behind it an address is read with the same authority. -/
theorem exists_web_of_concat_slash {scheme : WebScheme} {u : Url} (honly : PathOnly cs)
    (h : web scheme (cs ++ ['/']) = .ok u) :
    cs.dropWhile isSlash ≠ [] ∧ u.path = path (pathChars cs ++ ['/']) ∧
      ∃ v, web scheme cs = .ok v ∧ v.path = path (pathChars cs) := by
  -- If there were only slashes, there would be no authority to read.
  have hcs : cs.dropWhile isSlash ≠ [] := by
    intro hnil
    refine dropWhile_isSlash_ne_nil h ?_
    rw [List.dropWhile_append, hnil]
    rfl
  have hauth := exists_web_iff.mp ⟨u, h⟩
  rw [authorityChars_concat_slash hcs] at hauth
  obtain ⟨v, hv⟩ := exists_web_iff.mpr hauth
  refine ⟨hcs, ?_, v, hv, path_of_web hv⟩
  rw [path_of_web h, pathChars_concat_slash hcs honly]

end

/-! ## Whole addresses -/

section
variable {cs more rest : List Char} {scheme : String}

/-- A text with a scheme is a name, a colon and the rest. -/
theorem splitScheme?_eq_some_iff :
    splitScheme? cs = some (scheme, rest) ↔
      ∃ name, cs = name ++ ':' :: rest ∧ (∀ c ∈ name, isSchemeChar c = true) ∧
        (name.head?.map Char.isAlpha).getD false = true ∧
        String.ofList (name.map Char.toLower) = scheme := by
  constructor
  · intro h
    simp only [splitScheme?, drop_length_takeWhile] at h
    split at h
    · rename_i rest' hhead hcolon
      obtain ⟨rfl, rfl⟩ := Prod.mk.inj (Option.some.inj h)
      refine ⟨cs.takeWhile isSchemeChar, ?_, fun c hc => List.mem_takeWhile_imp hc, hhead, rfl⟩
      rw [← hcolon, List.takeWhile_append_dropWhile]
    · cases h
  · rintro ⟨name, rfl, hname, hhead, rfl⟩
    have hcolon : isSchemeChar ':' = false := by decide
    -- The name is all of the characters before the colon, as the colon is none of them.
    have htake : (name ++ ':' :: rest).takeWhile isSchemeChar = name := by
      rw [List.takeWhile_append_of_pos hname, List.takeWhile_cons, hcolon]
      simp
    simp only [splitScheme?, htake, List.drop_left, hhead]

/-- What is written behind an address is no part of its scheme. -/
theorem splitScheme?_append_iff (hmore : ':' ∉ more) :
    splitScheme? (cs ++ more) = some (scheme, rest) ↔
      ∃ rest', splitScheme? cs = some (scheme, rest') ∧ rest = rest' ++ more := by
  simp only [splitScheme?_eq_some_iff]
  constructor
  · rintro ⟨name, hparts, hname⟩
    -- The colon lies in the first part, since the second has none.
    rcases List.append_eq_append_iff.mp hparts with ⟨as, -, hcolon⟩ | ⟨bs, hcs, hcolon⟩
    · simp [hcolon] at hmore
    · cases bs with
      | nil => simp [← (show _ = more from hcolon)] at hmore
      | cons b bs =>
        obtain ⟨rfl, rfl⟩ := List.cons.inj hcolon
        exact ⟨bs, ⟨name, hcs, hname⟩, rfl⟩
  · rintro ⟨rest', ⟨name, rfl, hname⟩, rfl⟩
    exact ⟨name, by simp, hname⟩

/-- Web addresses are those with one of two schemes. -/
theorem parse_eq_web_iff {s : String} {u : Url} :
    parse s = .ok (.web u) ↔
      ∃ (scheme : WebScheme) (rest : List Char),
        splitScheme? (strip s) = some (scheme.text, rest) ∧ web scheme rest = .ok u := by
  -- Wrapping a result up does not change whether it is one.
  have hweb : ∀ r : Except AddressFault Url, r.map Parsed.web = .ok (.web u) ↔ r = .ok u := by
    intro r
    cases r <;> simp [Except.map]
  have hother : ∀ {α : Type} (r : Except AddressFault α) (scheme : String),
      r.map (fun _ => Parsed.other scheme) ≠ .ok (.web u) := by
    intro α r scheme
    cases r <;> simp [Except.map]
  constructor
  · intro h
    rw [parse] at h
    split at h
    · cases h
    · rename_i rest hscheme
      exact ⟨.http, rest, hscheme, (hweb _).mp h⟩
    · rename_i rest hscheme
      exact ⟨.https, rest, hscheme, (hweb _).mp h⟩
    · exact absurd h (hother _ _)
    · split at h
      · exact absurd h (hother _ _)
      · exact absurd h (hother _ _)
  · rintro ⟨scheme, rest, hscheme, h⟩
    rw [parse, hscheme]
    cases scheme with
    | http => exact (hweb _).mpr h
    | https => exact (hweb _).mpr h

end

/-! ## Blanks around an address -/

section
variable {s : String} {cs : List Char} {c : Char}

/-- Blanks that are dropped around an address. -/
def isPadding (c : Char) : Bool := c.toNat ≤ 0x20

/-- Stripping trims both ends and drops what is ignored within. -/
theorem strip_eq (s : String) :
    strip s =
      ((s.toList.dropWhile isPadding).rdropWhile isPadding).filter fun c => !isDropped c := rfl

/-- What is dropped wherever it stands is blank. -/
theorem isDropped_eq_false (hc : isPadding c = false) : isDropped c = false := by
  cases hdropped : isDropped c with
  | false => rfl
  | true =>
    rcases (by simpa [isDropped, or_assoc] using hdropped : c = '\t' ∨ c = '\n' ∨ c = '\r') with
      rfl | rfl | rfl <;> cases hc

/-- Blanks at the end are what may be missing behind what is kept. -/
theorem exists_dropWhile_eq (s : String) :
    ∃ blanks, (∀ c ∈ blanks, isPadding c = true) ∧
      s.toList.dropWhile isPadding =
        (s.toList.dropWhile isPadding).rdropWhile isPadding ++ blanks :=
  ⟨(s.toList.dropWhile isPadding).rtakeWhile isPadding, fun _ => List.mem_rtakeWhile_imp,
    List.rdropWhile_append_rtakeWhile.symm⟩

/-- The last character of an address is kept unless it is blank. -/
theorem strip_concat (hs : s.toList = cs ++ [c]) (hc : isPadding c = false) :
    strip s = ((cs.dropWhile isPadding).filter fun c => !isDropped c) ++ [c] := by
  have hkept := isDropped_eq_false hc
  rw [strip_eq, hs, dropWhile_concat_of_not hc, List.rdropWhile_concat_neg _ _ _ (by simp [hc]),
    List.filter_append]
  simp [hkept]

/-- A slash behind an address that does not end in a blank is all that is added. -/
theorem strip_append_slash (hs : s.toList = cs ++ [c]) (hc : isPadding c = false) :
    strip (s ++ "/") = strip s ++ ['/'] := by
  have hslash : (s ++ "/").toList = s.toList ++ ['/'] := String.toList_append
  rw [strip_concat hslash (by decide), strip_concat hs hc, hs, dropWhile_concat_of_not hc,
    List.filter_append]
  simp [isDropped_eq_false hc]

/-- Behind an address that ends in blanks, a slash makes them a part of it. -/
theorem exists_strip_append_slash (s : String) :
    ∃ more, ':' ∉ more ∧ strip (s ++ "/") = strip s ++ more := by
  have hslash : (s ++ "/").toList = s.toList ++ ['/'] := String.toList_append
  -- The blanks at the end are now within the text, where only some are dropped.
  obtain ⟨blanks, hblanks, hparts⟩ := exists_dropWhile_eq s
  refine ⟨blanks.filter (fun c => !isDropped c) ++ ['/'], ?_, ?_⟩
  · intro hmem
    rcases List.mem_append.mp hmem with hmem | hmem
    · have hcolon := hblanks ':' (List.mem_of_mem_filter hmem)
      simp [isPadding] at hcolon
    · simp at hmem
  · rw [strip_concat hslash (by decide), hparts, List.filter_append, strip_eq]
    simp

/-- Only blanks are dropped. -/
theorem mem_strip (hmem : c ∈ s.toList) (hc : isPadding c = false) : c ∈ strip s := by
  have hkept := isDropped_eq_false hc
  have hmem' := mem_dropWhile_of_not hmem hc
  obtain ⟨blanks, hblanks, hparts⟩ := exists_dropWhile_eq s
  rw [hparts, List.mem_append] at hmem'
  rw [strip_eq, List.mem_filter]
  -- The character is not among the blanks at the end.
  rcases hmem' with hmem' | hmem'
  · exact ⟨hmem', by simp [hkept]⟩
  · simp [hblanks c hmem'] at hc

/-- Stripping adds no character. -/
theorem mem_of_mem_strip (h : c ∈ strip s) : c ∈ s.toList := by
  rw [strip_eq] at h
  exact List.dropWhile_subset _ ((List.rdropWhile_prefix _ _).subset (List.mem_of_mem_filter h))

end

/-! ## A slash behind an address -/

section
variable {s : String} {u : Url} {c : Char}

/-- Behind a query or a fragment, a slash does not change the path. -/
theorem exists_parse_of_endsPath (hmem : c ∈ s.toList) (hc : endsPath c = true)
    (h : parse (s ++ "/") = .ok (.web u)) :
    ∃ v, parse s = .ok (.web v) ∧ u.path = v.path := by
  have hpadding : isPadding c = false := by
    rcases endsPath_iff.mp hc with rfl | rfl <;> decide
  have hscheme : isSchemeChar c = false ∧ c ≠ ':' := by
    rcases endsPath_iff.mp hc with rfl | rfl <;> decide
  obtain ⟨more, hmore, hstrip⟩ := exists_strip_append_slash s
  obtain ⟨scheme, rest', hsplit, hweb⟩ := parse_eq_web_iff.mp h
  rw [hstrip, splitScheme?_append_iff hmore] at hsplit
  obtain ⟨rest, hsplit, rfl⟩ := hsplit
  -- The query or fragment does not stand before the colon of the scheme.
  have hmem' : c ∈ rest := by
    obtain ⟨name, hparts, hname, -⟩ := splitScheme?_eq_some_iff.mp hsplit
    have hstripped := mem_strip hmem hpadding
    rw [hparts, List.mem_append, List.mem_cons] at hstripped
    rcases hstripped with hinside | rfl | hbehind
    · have hplain := hname c hinside
      simp [hscheme.1] at hplain
    · exact absurd rfl hscheme.2
    · exact hbehind
  have hauth := exists_web_iff.mp ⟨u, hweb⟩
  rw [authorityChars_append hmem' hc] at hauth
  obtain ⟨v, hv⟩ := exists_web_iff.mpr hauth
  refine ⟨v, parse_eq_web_iff.mpr ⟨scheme, rest, hsplit, hv⟩, ?_⟩
  rw [path_of_web hweb, path_of_web hv, pathChars_append hmem' hc]

/-- What stands behind the scheme begins no query or fragment where the address has none. -/
theorem pathOnly_of_splitScheme? {scheme : String} {cs rest : List Char} (honly : PathOnly cs)
    (h : splitScheme? cs = some (scheme, rest)) : PathOnly rest := by
  obtain ⟨name, rfl, -⟩ := splitScheme?_eq_some_iff.mp h
  intro c hc
  exact honly c (by simp [hc])

/-- Without a query and a fragment, an address whose text ends in a slash has a path that does. -/
theorem endsWithSlash_of_parse (honly : PathOnly s.toList)
    (hlast : s.toList.getLast? = some '/') (h : parse s = .ok (.web u)) : u.endsWithSlash := by
  obtain ⟨front, hs⟩ := List.getLast?_eq_some_iff.mp hlast
  obtain ⟨scheme, rest', hsplit, hweb⟩ := parse_eq_web_iff.mp h
  -- The slash is no padding, so it is still the last character to be read.
  have hstrip := strip_concat hs (by decide)
  have honly' := fun c hc => honly c (mem_of_mem_strip hc)
  rw [hstrip] at hsplit honly'
  rw [splitScheme?_append_iff (by decide)] at hsplit
  obtain ⟨rest, hsplit, rfl⟩ := hsplit
  have hrest := pathOnly_of_splitScheme? (fun c hc => honly' c (by simp [hc])) hsplit
  obtain ⟨-, hpath, -⟩ := exists_web_of_concat_slash hrest hweb
  rw [Url.endsWithSlash, hpath]
  cases hchars : pathChars rest with
  | nil => decide
  | cons c cs => exact getLast?_path_concat_slash (isSlash_of_pathChars hchars) cs

/-- An address that does not end in a blank is read with a slash behind it exactly as without one,
    but for the path. -/
theorem exists_parse_of_concat (honly : PathOnly s.toList)
    (hlast : s.toList.getLast? = some c) (hpadding : isPadding c = false)
    (h : parse (s ++ "/") = .ok (.web u)) :
    ∃ v rest, parse s = .ok (.web v) ∧ v.path = path (pathChars rest) ∧
      u.path = path (pathChars rest ++ ['/']) ∧ rest.dropWhile isSlash ≠ [] ∧
      rest.getLast? = some c ∧ PathOnly rest := by
  obtain ⟨front, hs⟩ := List.getLast?_eq_some_iff.mp hlast
  obtain ⟨scheme, rest', hsplit, hweb⟩ := parse_eq_web_iff.mp h
  rw [strip_append_slash hs hpadding, splitScheme?_append_iff (by decide)] at hsplit
  obtain ⟨rest, hsplit, rfl⟩ := hsplit
  have hrest := pathOnly_of_splitScheme? (fun c hc => honly c (mem_of_mem_strip hc)) hsplit
  obtain ⟨hne, hu, v, hv, hpath⟩ := exists_web_of_concat_slash hrest hweb
  refine ⟨v, rest, parse_eq_web_iff.mpr ⟨scheme, rest, hsplit, hv⟩, hpath, hu, hne, ?_, hrest⟩
  obtain ⟨name, hparts, -⟩ := splitScheme?_eq_some_iff.mp hsplit
  -- What follows the scheme still ends in the last character.
  have hsuffix : rest <:+ strip s := by
    rw [hparts]
    exact ⟨name ++ [':'], by simp⟩
  have hne' : rest ≠ [] := by
    rintro rfl
    exact hne rfl
  rw [getLast?_of_suffix hsuffix hne', strip_concat hs hpadding, List.getLast?_concat]

/-- The slash makes a directory of the path, -/
theorem exists_parse_of_last (honly : PathOnly s.toList)
    (hlast : s.toList.getLast? = some c) (hpadding : isPadding c = false)
    (hc : isSlash c = false) (h : parse (s ++ "/") = .ok (.web u)) :
    ∃ v, parse s = .ok (.web v) ∧ u.path = directory v.path ∧
      ∀ last ∈ v.path.getLast?, '/' ∉ last.toList := by
  obtain ⟨v, rest, hv, hpath, hu, hne, hend, hrest⟩ := exists_parse_of_concat honly hlast hpadding h
  refine ⟨v, hv, ?_⟩
  rw [hu, hpath]
  -- Without a path there is nothing a slash could end.
  cases hchars : pathChars rest with
  | nil => decide
  | cons b bs =>
    have hends := getLast?_pathChars hrest (by simp [hchars])
    rw [hchars, hend] at hends
    exact path_concat_slash_of_not (isSlash_of_pathChars hchars) hends hc

/-- and another one if the address ends in a backslash. -/
theorem exists_parse_of_backslash (honly : PathOnly s.toList)
    (hlast : s.toList.getLast? = some '\\') (h : parse (s ++ "/") = .ok (.web u)) :
    ∃ v, parse s = .ok (.web v) ∧ v.endsWithSlash ∧ u.path = v.path ++ [""] := by
  obtain ⟨v, rest, hv, hpath, hu, hne, hend, hrest⟩ :=
    exists_parse_of_concat honly hlast (by decide) h
  refine ⟨v, hv, ?_⟩
  rw [Url.endsWithSlash, hu, hpath]
  -- The backslash belongs to the path, so there is one.
  have hchars := pathChars_ne_nil hne hrest hend (by decide)
  have hends := (getLast?_pathChars hrest hchars).trans hend
  obtain ⟨b, bs, hparts⟩ := List.exists_cons_of_ne_nil hchars
  rw [hparts] at hends ⊢
  exact path_concat_slash_of_slash (isSlash_of_pathChars hparts) hends (by decide)

/-- There is a segment in the path of every web address. -/
theorem path_ne_nil_of_parse (h : parse s = .ok (.web u)) : u.path ≠ [] := by
  obtain ⟨scheme, rest, -, hweb⟩ := parse_eq_web_iff.mp h
  rw [path_of_web hweb]
  exact path_ne_nil _

end

/-! ## A slash at the end -/

section
variable {s : String} {u : Url} {c : Char}

/-- A text gets a slash at its end unless it has one. -/
theorem toList_withSlash (s : String) :
    (withSlash s).toList =
      if s.toList.getLast? = some '/' then s.toList else s.toList ++ ['/'] := by
  rw [withSlash]
  split
  · rfl
  · exact String.toList_append

/-- The path of an address with a query or a fragment is what it is without the slash. -/
theorem exists_parse_of_not_pathOnly (h : parse (withSlash s) = .ok (.web u))
    (hmore : ¬ PathOnly s.toList) : ∃ v, parse s = .ok (.web v) ∧ u.path = v.path := by
  obtain ⟨c, hmem, hc⟩ : ∃ c ∈ s.toList, endsPath c = true := by simpa [PathOnly] using hmore
  rw [withSlash] at h
  split at h
  · exact ⟨u, h, rfl⟩
  · exact exists_parse_of_endsPath hmem hc h

/-- That of any other address ends in the slash. -/
theorem endsWithSlash_of_pathOnly (h : parse (withSlash s) = .ok (.web u))
    (honly : PathOnly s.toList) : u.endsWithSlash := by
  refine endsWithSlash_of_parse ?_ ?_ h
  · rw [toList_withSlash]
    split
    · exact honly
    · exact honly.concat_slash
  · rw [toList_withSlash]
    split
    · assumption
    · exact List.getLast?_concat

end

end Address

end TenantSync
