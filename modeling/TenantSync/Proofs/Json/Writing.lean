import Mathlib.Data.List.Forall2
import TenantSync.Json.Decoder
import TenantSync.Json.Value

/-!
# What is written can be read

`Json.text` writes documents without blanks and escapes what a string must not hold.
`Json.Decoder.Reads d cs x` says that a decoder reads the characters `cs` as `x`, whatever stands
behind them.  Readings of the parts of a document make a reading of the whole: of a list from its
items (`Reads.list`) and of a record from its fields (`Reads.record`), for which `Fills` follows
what is collected field by field.
-/

namespace TenantSync.Json

/-! ## Strings -/

/-- A short escape is read back as the character it stands for. -/
theorem stringBody_shortEscape {c e : Char} (h : shortEscape? c = some e) (rest : List Char) :
    stringBody ('\\' :: c :: rest) = (stringBody rest).map fun (s, r) => (e :: s, r) := by
  have hu : c ≠ 'u' := by
    rintro rfl
    exact nomatch h
  rw [stringBody]
  · simp only [h]
  all_goals simp_all

/-- The four digits a control character is written with are its code. -/
theorem hex4_control {n : Nat} (h : n < 0x20) :
    hex4 '0' '0' (Hex.lower (Hex.digit (n / 16))) (Hex.lower (Hex.digit n)) = some n := by
  have hzero : Hex.value? '0' = some 0 := by decide
  simp only [hex4, hzero, Hex.value?_lower, Hex.digit]
  simp
  omega

/-- Control characters are written as the number of a character. -/
theorem stringBody_control {n : Nat} (h : n < 0x20) (rest : List Char) :
    stringBody ('\\' :: 'u' :: '0' :: '0' :: Hex.lower (Hex.digit (n / 16)) ::
        Hex.lower (Hex.digit n) :: rest) =
      (stringBody rest).map fun (s, r) => (Char.ofNat n :: s, r) := by
  have hlow : isLowSurrogate n = false := by simp [isLowSurrogate]; omega
  have hhigh : isHighSurrogate n = false := by simp [isHighSurrogate]; omega
  -- Behind it another character may be written as its number, but the two are no pair.
  by_cases hnext : ∃ e f g h cs, rest = '\\' :: 'u' :: e :: f :: g :: h :: cs
  · obtain ⟨e, f, g, h', cs, rfl⟩ := hnext
    rw [stringBody]
    simp only [hex4_control h, hlow, hhigh, Bool.false_eq_true, if_false]
  · rw [stringBody]
    · simp only [hex4_control h, hlow, hhigh, Bool.false_eq_true, if_false]
    · exact fun e f g h cs hrest => hnext ⟨e, f, g, h, cs, hrest⟩

/-- What `escape` writes is read as the character it was. -/
theorem stringBody_escape (c : Char) (rest : List Char) :
    stringBody (escape c ++ rest) = (stringBody rest).map fun (s, r) => (c :: s, r) := by
  unfold escape
  -- Seven characters have a letter that stands for them.
  iterate 7
    split
    · subst_vars
      exact stringBody_shortEscape rfl rest
  split
  case isTrue hcontrol =>
    have h := stringBody_control hcontrol rest
    rwa [Char.ofNat_toNat] at h
  case isFalse hquote hbackslash _ _ _ _ _ hprint =>
    -- Neither a quotation mark nor a backslash, so it ends nothing and starts no escape.
    rw [List.singleton_append, stringBody]
    · simp only [hprint, if_false]
    all_goals simp_all

/-- Reading undoes escaping, up to the closing quote. -/
theorem stringBody_flatMap_escape (s rest : List Char) :
    stringBody (s.flatMap escape ++ '"' :: rest) = .ok (s, rest) := by
  induction s with
  | nil => simp [stringBody]
  | cons c s ih =>
    rw [List.flatMap_cons, List.append_assoc, stringBody_escape, ih]
    rfl

/-- A string with its quotation marks and what stands behind it. -/
theorem quote_append (s : String) (rest : List Char) :
    quote s ++ rest = '"' :: (s.toList.flatMap escape ++ '"' :: rest) := by
  simp [quote]

/-! ## Documents -/

/-- A character that is not blank stays in front. -/
theorem skipBlanks_cons {c : Char} (h : isBlank c = false) (cs : List Char) :
    skipBlanks (c :: cs) = c :: cs := by
  simp [skipBlanks, h]

/-- A character with which a document can start: no blank and none that ends a list. -/
def Opens (c : Char) : Prop := isBlank c = false ∧ c ≠ ']'

instance (c : Char) : Decidable (Opens c) := inferInstanceAs (Decidable (_ ∧ _))

/-- Every value's text opens with a character no separator is. -/
theorem chars_eq_cons (j : Json) : ∃ c cs, j.chars = c :: cs ∧ Opens c := by
  cases j with
  | null => exact ⟨'n', _, rfl, by decide⟩
  | bool b =>
    cases b with
    | false => exact ⟨'f', _, rfl, by decide⟩
    | true => exact ⟨'t', _, rfl, by decide⟩
  | string s => exact ⟨'"', _, rfl, by decide⟩
  | array items => exact ⟨'[', _, rfl, by decide⟩
  | object fields => exact ⟨'\x7b', _, rfl, by decide⟩

/-- Parts with commas before them are more characters than parts. -/
theorem length_le_length_commas {α : Type} (f : α → List Char) (xs : List α) :
    xs.length ≤ (xs.flatMap fun x => ',' :: f x).length := by
  induction xs with
  | nil => exact Nat.zero_le _
  | cons x xs ih =>
    simp only [List.flatMap_cons, List.length_append, List.length_cons]
    omega

/-- An element's text is no longer than the list that holds it. -/
theorem length_le_of_mem_commas {α : Type} (f : α → List Char) {xs : List α} {x : α}
    (hx : x ∈ xs) : (f x).length ≤ (xs.flatMap fun x => ',' :: f x).length := by
  have hsub := List.sublist_flatten_of_mem (List.mem_map_of_mem (f := fun x => ',' :: f x) hx)
  have hlen := hsub.length_le
  rw [← List.flatMap_def, List.length_cons] at hlen
  omega

/-- A non-empty array is its first element and a comma before each other one. -/
theorem charsList_cons (j : Json) (js : List Json) :
    charsList (j :: js) = j.chars ++ js.flatMap fun j => ',' :: j.chars := by
  induction js generalizing j with
  | nil => simp [charsList]
  | cons i js ih => rw [charsList, ih i, List.flatMap_cons, List.cons_append]

/-- A field with its name. -/
def fieldChars (f : String × Json) : List Char := quote f.1 ++ ':' :: f.2.chars

/-- A non-empty object is its first member and a comma before each other one. -/
theorem charsFields_cons (f : String × Json) (fs : List (String × Json)) :
    charsFields (f :: fs) = fieldChars f ++ fs.flatMap fun f => ',' :: fieldChars f := by
  induction fs generalizing f with
  | nil => simp [charsFields, fieldChars]
  | cons g fs ih =>
    rw [charsFields, ih g, List.flatMap_cons]
    simp only [fieldChars, List.append_assoc, List.cons_append]

namespace Decoder

variable {α β ρ : Type}

/-- The decoder reads the characters as a value, whatever stands behind them. -/
def Reads (d : Decoder α) (cs : List Char) (x : α) : Prop :=
  ∀ n rest, cs.length < n → d n (cs ++ rest) = .ok (x, rest)

namespace Reads

/-- A string's text is read as the string. -/
theorem string (s : String) : Decoder.string.Reads (Json.string s).chars s := by
  intro n rest _
  rw [chars, quote_append, Decoder.string, skipBlanks_cons (by decide)]
  simp only [stringBody_flatMap_escape, Except.map, String.ofList_toList]

/-- A boolean's text is read as the boolean. -/
theorem bool (b : Bool) : Decoder.bool.Reads (Json.bool b).chars b := by
  intro n rest _
  cases b <;> rfl

/-- Where a value may be missing, `null` is read as missing. -/
theorem null (d : Decoder α) : (Decoder.nullable d).Reads Json.null.chars none := by
  intro n rest _
  rfl

/-- A value that may be absent is read like one that may not, unless it looks absent. -/
theorem nullable {d : Decoder α} {c : Char} {cs : List Char} {x : α} (h : d.Reads (c :: cs) x)
    (hc : isBlank c = false) (hn : c ≠ 'n') : (Decoder.nullable d).Reads (c :: cs) (some x) := by
  intro n rest hlen
  have hread := h n rest hlen
  rw [List.cons_append] at hread ⊢
  rw [Decoder.nullable, skipBlanks_cons hc]
  -- An absent value begins with an `n`.
  split
  · simp_all
  · rw [hread]
    rfl

/-- A value the refinement accepts is read as what it is refined to. -/
theorem refine {d : Decoder α} {f : α → Option β} {cs : List Char} {x : α} {y : β}
    (h : d.Reads cs x) (hf : f x = some y) : (Decoder.refine d f).Reads cs y := by
  intro n rest hlen
  rw [Decoder.refine, h n rest hlen]
  simp only [bind, Except.bind, hf]
  rfl

end Reads

/-! ## Lists -/

/-- After an element, the comma is dropped and the next element stands in front. -/
theorem nextItem_comma {c : Char} (hc : Opens c) (cs : List Char) :
    nextItem false ',' (c :: cs) = .ok (c :: cs) := by
  simp only [nextItem, skipBlanks_cons hc.1, Bool.false_eq_true, if_false, if_true]
  split
  case h_1 h => exact nomatch h
  case h_2 h => exact absurd (List.cons.inj h).1 hc.2
  case h_3 => rfl

/-- An item and those after it. -/
theorem items_cons {d : Decoder α} {n bound : Nat} {first : Bool} {c : Char}
    {cs next mid rest : List Char} {x : α} {xs : List α} (hc : Opens c)
    (hnext : nextItem first c cs = .ok next) (hx : d n next = .ok (x, mid))
    (hxs : items d n bound false mid = .ok (xs, rest)) :
    items d n (bound + 1) first (c :: cs) = .ok (x :: xs, rest) := by
  rw [items, skipBlanks_cons hc.1]
  -- The character opens a value, so it is neither the end of the text nor the closing bracket.
  split
  case h_1 h => exact nomatch h
  case h_2 h => exact absurd (List.cons.inj h).1 hc.2
  case h_3 h =>
    obtain ⟨rfl, rfl⟩ := List.cons.inj h
    simp only [hnext, hx, hxs, bind, Except.bind]
    rfl

/-- Behind the first item of a list every item has a comma before it. -/
theorem items_commas {d : Decoder α} {js : List Json} {xs : List α}
    (h : List.Forall₂ (fun j x => d.Reads j.chars x) js xs) {n bound : Nat}
    (hn : ∀ j ∈ js, j.chars.length < n) (hbound : js.length < bound) (rest : List Char) :
    items d n bound false (js.flatMap (fun j => ',' :: j.chars) ++ ']' :: rest) =
      .ok (xs, rest) := by
  induction h generalizing bound with
  | nil =>
    obtain ⟨bound, rfl⟩ := Nat.exists_eq_add_one.mpr hbound
    rfl
  | @cons j x js xs hj _ ih =>
    obtain ⟨bound, rfl⟩ := Nat.exists_eq_add_one.mpr (Nat.zero_lt_of_lt hbound)
    -- The element behind the comma opens a value, which the loop needs to see.
    obtain ⟨c, cs, hcs, hc⟩ := j.chars_eq_cons
    have hread := hj n (js.flatMap (fun j => ',' :: j.chars) ++ ']' :: rest)
      (hn j List.mem_cons_self)
    have hrest := ih (fun j hj => hn j (List.mem_cons_of_mem _ hj)) (Nat.lt_of_succ_lt_succ hbound)
    rw [List.flatMap_cons, List.append_assoc, List.cons_append]
    rw [hcs] at hread ⊢
    exact items_cons (by decide) (nextItem_comma hc _) hread hrest

/-- The loop over an array's elements reads all of them, as long as its bound exceeds their text. -/
theorem items_charsList {d : Decoder α} {js : List Json} {xs : List α}
    (h : List.Forall₂ (fun j x => d.Reads j.chars x) js xs) {n : Nat}
    (hn : (charsList js).length < n) (rest : List Char) :
    items d n n true (charsList js ++ ']' :: rest) = .ok (xs, rest) := by
  obtain ⟨n, rfl⟩ := Nat.exists_eq_add_one.mpr (Nat.zero_lt_of_lt hn)
  cases h with
  | nil => rfl
  | @cons j x js xs hj hjs =>
    obtain ⟨c, cs, hcs, hc⟩ := j.chars_eq_cons
    -- The same number bounds the depth of an item and the number of items.  Both are less than the
    -- characters of the list, and the first item takes one of them.
    rw [charsList_cons, List.length_append] at hn
    have hread := hj (n + 1) (js.flatMap (fun j => ',' :: j.chars) ++ ']' :: rest) (by omega)
    have hpos : 0 < j.chars.length := by simp [hcs]
    have hcommas : (js.flatMap fun j => ',' :: j.chars).length < n := by omega
    have hrest := items_commas hjs (n := n + 1)
      (fun i hi => Nat.lt_succ_of_lt
        (Nat.lt_of_le_of_lt (length_le_of_mem_commas chars hi) hcommas))
      (Nat.lt_of_le_of_lt (length_le_length_commas chars js) hcommas) rest
    rw [charsList_cons, List.append_assoc]
    rw [hcs] at hread ⊢
    exact items_cons hc rfl hread hrest

/-- An array's text is read element by element. -/
theorem Reads.list {d : Decoder α} {js : List Json} {xs : List α}
    (h : List.Forall₂ (fun j x => d.Reads j.chars x) js xs) :
    (Decoder.list d).Reads (Json.array js).chars xs := by
  intro n rest hlen
  simp only [chars, List.length_cons, List.length_append] at hlen
  simp only [chars, List.cons_append, List.append_assoc, List.nil_append]
  rw [Decoder.list, skipBlanks_cons (by decide)]
  exact items_charsList h (by omega) rest

/-! ## Records -/

section
variable {fields : List (Field ρ)}

/-- Reading fields one after another: each is among the fields of the record and was not set
    before, and its value is read. -/
inductive Fills (fields : List (Field ρ)) : ρ → List (String × Json) → ρ → Prop
  | nil (r : ρ) : Fills fields r [] r
  | cons {f : Field ρ} {r r' : ρ} {put : ρ → ρ} {name : String} {v : Json}
      {fs : List (String × Json)} :
      (fields.find? fun f => f.name.toList = name.toList) = some f → f.isSet r = false →
      f.read.Reads v.chars put → Fills fields (put r) fs r' → Fills fields r ((name, v) :: fs) r'

/-- A colon in front is taken. -/
theorem colon_cons (cs : List Char) : colon (':' :: cs) = .ok cs := rfl

/-- A field begins with the quotation mark of its name. -/
theorem fieldChars_append (f : String × Json) (rest : List Char) :
    fieldChars f ++ rest =
      '"' :: (f.1.toList.flatMap escape ++ '"' :: ':' :: (f.2.chars ++ rest)) := by
  rw [fieldChars, List.append_assoc, quote_append, List.cons_append]

/-- No blank stands before a member. -/
theorem skipBlanks_fieldChars (f : String × Json) (rest : List Char) :
    skipBlanks (fieldChars f ++ rest) = fieldChars f ++ rest := by
  rw [fieldChars_append, skipBlanks_cons (by decide)]

/-- A member no earlier one has set is stored through the field of its name. -/
theorem member_fieldChars {f : Field ρ} {r : ρ} {put : ρ → ρ} {name : String} {v : Json}
    (hf : (fields.find? fun f => f.name.toList = name.toList) = some f)
    (hset : f.isSet r = false) (hread : f.read.Reads v.chars put) {n : Nat}
    (hn : (fieldChars (name, v)).length < n) (rest : List Char) :
    member fields n r (fieldChars (name, v) ++ rest) = .ok (put r, rest) := by
  have hlen : v.chars.length < n := by
    simp only [fieldChars, List.length_append, List.length_cons] at hn
    omega
  rw [fieldChars_append]
  simp only [member, stringBody_flatMap_escape, bind, Except.bind, hf, hset, colon_cons,
    hread n rest hlen, Bool.false_eq_true, if_false]
  rfl

/-- A field and those after it. -/
theorem members_cons {n bound : Nat} {first : Bool} {r r' r'' : ρ} {c : Char}
    {cs mid rest : List Char} (hc : Opens c) (hend : c ≠ '\x7d')
    (hnext : member fields n r (if first then c :: cs else skipBlanks cs) = .ok (r', mid))
    (hfirst : first = true ∨ c = ',')
    (hrest : members fields n bound false r' mid = .ok (r'', rest)) :
    members fields n (bound + 1) first r (c :: cs) = .ok (r'', rest) := by
  rw [members, skipBlanks_cons hc.1]
  split
  case h_1 h => exact nomatch h
  case h_2 h => exact absurd (List.cons.inj h).1 hend
  case h_3 h =>
    obtain ⟨rfl, rfl⟩ := List.cons.inj h
    -- Only the first field has no comma before it.
    cases first with
    | true => simp_all [bind, Except.bind, pure, Except.pure]
    | false => simp_all [bind, Except.bind, pure, Except.pure]

/-- Behind the first field of a record every field has a comma before it. -/
theorem members_commas {r r' : ρ} {fs : List (String × Json)} (h : Fills fields r fs r')
    {n bound : Nat} (hn : ∀ f ∈ fs, (fieldChars f).length < n) (hbound : fs.length < bound)
    (rest : List Char) :
    members fields n bound false r (fs.flatMap (fun f => ',' :: fieldChars f) ++ '\x7d' :: rest) =
      .ok (r', rest) := by
  induction h generalizing bound with
  | nil =>
    obtain ⟨bound, rfl⟩ := Nat.exists_eq_add_one.mpr hbound
    rfl
  | @cons f r r' put name v fs hf hset hread _ ih =>
    obtain ⟨bound, rfl⟩ := Nat.exists_eq_add_one.mpr (Nat.zero_lt_of_lt hbound)
    -- The member's text is shorter than the limit, and so is that of those behind it.
    have hmember := member_fieldChars hf hset hread (hn _ List.mem_cons_self)
      (fs.flatMap (fun f => ',' :: fieldChars f) ++ '\x7d' :: rest)
    have hrest := ih (fun f hf => hn f (List.mem_cons_of_mem _ hf)) (Nat.lt_of_succ_lt_succ hbound)
    rw [List.flatMap_cons, List.append_assoc, List.cons_append]
    refine members_cons (by decide) (by decide) ?_ (.inr rfl) hrest
    rw [if_neg Bool.false_ne_true, skipBlanks_fieldChars]
    exact hmember

/-- The loop over an object's members stores all of them, as long as its bound exceeds their text.
    -/
theorem members_charsFields {r r' : ρ} {fs : List (String × Json)} (h : Fills fields r fs r')
    {n : Nat} (hn : (charsFields fs).length < n) (rest : List Char) :
    members fields n n true r (charsFields fs ++ '\x7d' :: rest) = .ok (r', rest) := by
  obtain ⟨n, rfl⟩ := Nat.exists_eq_add_one.mpr (Nat.zero_lt_of_lt hn)
  cases h with
  | nil => rfl
  | @cons f _ _ put name v fs hf hset hread hfs =>
    -- As for lists, the same number bounds the depth of a field and the number of fields.
    rw [charsFields_cons, List.length_append] at hn
    have hmember := member_fieldChars hf hset hread (n := n + 1) (by omega)
      (fs.flatMap (fun f => ',' :: fieldChars f) ++ '\x7d' :: rest)
    have hpos : 0 < (fieldChars (name, v)).length := by
      simp only [fieldChars, List.length_append, List.length_cons]
      omega
    have hcommas : (fs.flatMap fun f => ',' :: fieldChars f).length < n := by omega
    have hrest := members_commas hfs (n := n + 1)
      (fun f hf => Nat.lt_succ_of_lt
        (Nat.lt_of_le_of_lt (length_le_of_mem_commas fieldChars hf) hcommas))
      (Nat.lt_of_le_of_lt (length_le_length_commas fieldChars fs) hcommas) rest
    rw [charsFields_cons, List.append_assoc]
    rw [fieldChars_append] at hmember ⊢
    exact members_cons (by decide) (by decide) hmember (.inl rfl) hrest

/-- A record is read from its fields if what they collect makes a value. -/
theorem Reads.record {s : Shape ρ α} {fs : List (String × Json)} {r : ρ} {x : α}
    (h : Fills s.fields s.empty fs r) (hfinish : s.finish r = some x) :
    (Decoder.record s).Reads (Json.object fs).chars x := by
  intro n rest hlen
  simp only [chars, List.length_cons, List.length_append] at hlen
  have hmembers := members_charsFields h (n := n) (by omega) rest
  simp only [chars, List.cons_append, List.append_assoc, List.nil_append]
  simp only [Decoder.record, skipBlanks_cons (c := '\x7b') (by decide), hmembers, bind, Except.bind,
    hfinish]
  rfl

end

end Decoder

/-- A document whose characters are read as a value decodes to it. -/
theorem decode_text {α : Type} {d : Decoder α} {j : Json} {x : α} (h : d.Reads j.chars x) :
    decode d j.text = .ok x := by
  have hread := h (2 * j.chars.length + 2) [] (by omega)
  rw [List.append_nil] at hread
  simp only [decode, text, String.toList_ofList, hread, bind, Except.bind]
  rfl

end TenantSync.Json
