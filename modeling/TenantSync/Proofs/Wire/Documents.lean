import TenantSync.Proofs.Json.Writing
import TenantSync.Wire.Decode
import TenantSync.Wire.Encode

/-!
# Documents of entities and pages

The document that is written for an entity is read as that entity (`decode_ofEntity`), for every
identifier, text and list of attributes.  The same is true of pages and of documents in which a
service leaves out fields that have their default (`Abridges`).
-/

namespace TenantSync

/-! ## Identifiers -/

namespace Uuid

/-- Lower-case digits have their own values. -/
theorem mapM_value?_lower (ds : List (Fin 16)) :
    (ds.map Hex.lower).mapM Hex.value? = some ds := by
  induction ds with
  | nil => rfl
  | cons d ds ih =>
    rw [List.map_cons, List.mapM_cons, Hex.value?_lower, ih]
    rfl

/-- An id's bare digits are read as the id. -/
theorem ofBare?_lower (u : Uuid) : ofBare? (u.digits.map Hex.lower) = some u := by
  rw [ofBare?, mapM_value?_lower]
  exact dif_pos u.length_digits

/-- The hyphens stand behind the 8th, 12th, 16th and 20th digit. -/
theorem ofHyphenated?_groups {a b c d e : List Char} (ha : a.length = 8) (hb : b.length = 4)
    (hc : c.length = 4) (hd : d.length = 4) :
    ofHyphenated? (a ++ '-' :: b ++ '-' :: c ++ '-' :: d ++ '-' :: e) =
      ofBare? (a ++ b ++ c ++ d ++ e) := by
  have hdrop : ∀ {n : Nat} {g : List Char}, g.length ≤ n → g.drop n = [] :=
    List.drop_eq_nil_of_le
  rw [ofHyphenated?, if_pos]
  · -- What is left without the hyphens are the groups.
    congr 1
    simp (disch := omega) [List.drop_append, ha, hb, hc, hd, hdrop]
  · simp [List.getElem?_append, ha, hb, hc, hd]

/-- An id's hyphenated form is read as the id. -/
theorem ofHyphenated?_chars (u : Uuid) : ofHyphenated? u.chars = some u := by
  have hlen := u.length_digits
  rw [chars, ofHyphenated?_groups (by simp [hlen]) (by simp [hlen]) (by simp [hlen])
    (by simp [hlen])]
  -- The groups are the digits from end to end.
  have hgroups : ∀ i n m, (u.digits.drop i).take n ++ (u.digits.drop (i + n)).take m =
      (u.digits.drop i).take (n + m) := by
    intro i n m
    rw [List.take_add, List.drop_drop]
  simp only [← List.map_append]
  rw [hgroups 0 8 4, hgroups 0 12 4, hgroups 0 16 4, hgroups 0 20 12]
  rw [List.drop_zero, List.take_of_length_le (by omega), ofBare?_lower]

/-- An id's text is read as the id. -/
theorem parse?_text (u : Uuid) : parse? u.text = some u := by
  have hlen : u.chars.length = 36 := by
    simp [chars, u.length_digits]
  rw [parse?, text, String.toList_ofList, hlen]
  exact u.ofHyphenated?_chars

end Uuid

namespace Wire

open TenantSync.Json TenantSync.Json.Decoder

/-! ## Documents with fields left out -/

/-- What a field that is left out is taken to be. -/
def defaults : List (String × Json) :=
  [("alias", .null), ("direct", .bool false), ("inherit", .bool false), ("propagate", .bool false),
    ("attributes", .array []), ("data", .array []), ("has_next", .bool false), ("next", .null),
    ("next", .string "")]

mutual

/-- A document in which, at any depth, fields that have their default may be left out. -/
inductive Abridges : Json → Json → Prop
  | same (j : Json) : Abridges j j
  | array {js is : List Json} : AbridgesAll js is → Abridges (.array js) (.array is)
  | object {fs gs : List (String × Json)} :
      AbridgesFields fs gs → Abridges (.object fs) (.object gs)

/-- The same for the items of a list, none of which is left out. -/
inductive AbridgesAll : List Json → List Json → Prop
  | nil : AbridgesAll [] []
  | cons {j i : Json} {js is : List Json} :
      Abridges j i → AbridgesAll js is → AbridgesAll (j :: js) (i :: is)

/-- The same for the fields of a record. -/
inductive AbridgesFields : List (String × Json) → List (String × Json) → Prop
  | nil : AbridgesFields [] []
  | keep {name : String} {v w : Json} {fs gs : List (String × Json)} :
      Abridges v w → AbridgesFields fs gs → AbridgesFields ((name, v) :: fs) ((name, w) :: gs)
  | leave {f : String × Json} {fs gs : List (String × Json)} :
      f ∈ defaults → AbridgesFields fs gs → AbridgesFields (f :: fs) gs

end

/-- Nothing needs to be left out of a list. -/
theorem AbridgesAll.refl (js : List Json) : AbridgesAll js js := by
  induction js with
  | nil => exact .nil
  | cons j js ih => exact .cons (.same j) ih

/-- Nothing needs to be left out of an object. -/
theorem AbridgesFields.refl (fs : List (String × Json)) : AbridgesFields fs fs := by
  induction fs with
  | nil => exact .nil
  | cons f fs ih => exact .keep (.same f.2) ih

namespace Abridges

/-- What abridges an object is an object of some of its fields. -/
theorem object_inv {fs : List (String × Json)} {j : Json} (h : Abridges (.object fs) j) :
    ∃ gs, j = .object gs ∧ AbridgesFields fs gs := by
  cases h with
  | same => exact ⟨fs, rfl, .refl fs⟩
  | object hfs => exact ⟨_, rfl, hfs⟩

/-- What abridges an array is an array whose elements abridge the elements. -/
theorem array_inv {js : List Json} {j : Json} (h : Abridges (.array js) j) :
    ∃ is, j = .array is ∧ AbridgesAll js is := by
  cases h with
  | same => exact ⟨js, rfl, .refl js⟩
  | array hjs => exact ⟨_, rfl, hjs⟩

/-- A string has no shorter form. -/
theorem string_inv {s : String} {j : Json} (h : Abridges (.string s) j) : j = .string s := by
  cases h
  rfl

/-- A boolean has no shorter form. -/
theorem bool_inv {b : Bool} {j : Json} (h : Abridges (.bool b) j) : j = .bool b := by
  cases h
  rfl

/-- There is no form shorter than `null`. -/
theorem null_inv {j : Json} (h : Abridges .null j) : j = .null := by
  cases h
  rfl

end Abridges

/-- The document of a text that may be absent. -/
def ofText? : Option String → Json
  | some s => .string s
  | none => .null

/-- A decoder reads all abridgements of a document as one value. -/
def Understands {α : Type} (d : Decoder α) (j : Json) (x : α) : Prop :=
  ∀ i, Abridges j i → d.Reads i.chars x

namespace Understands

variable {α β : Type} {d : Decoder α}

/-- A string is understood as itself. -/
theorem string (s : String) : Understands Decoder.string (.string s) s := by
  intro i hi
  rw [hi.string_inv]
  exact Reads.string s

/-- A boolean is understood as itself. -/
theorem bool (b : Bool) : Understands Decoder.bool (.bool b) b := by
  intro i hi
  rw [hi.bool_inv]
  exact Reads.bool b

/-- An id is understood as itself. -/
theorem uuid (u : Uuid) : Understands Wire.uuid (ofUuid u) u := by
  intro i hi
  rw [hi.string_inv]
  exact (Reads.string u.text).refine u.parse?_text

/-- A text that may be missing is understood, missing or not. -/
theorem text? (s? : Option String) :
    Understands (Decoder.nullable Decoder.string) (ofText? s?) s? := by
  intro i hi
  cases s? with
  | none =>
    rw [hi.null_inv]
    exact Reads.null _
  | some s =>
    rw [hi.string_inv]
    exact (Reads.string s).nullable (by decide) (by decide)

/-- A list is understood when each element is. -/
theorem list {xs : List α} {f : α → Json} (h : ∀ x ∈ xs, Understands d (f x) x) :
    Understands (Decoder.list d) (.array (xs.map f)) xs := by
  intro i hi
  obtain ⟨is, rfl, his⟩ := hi.array_inv
  clear hi
  refine Reads.list ?_
  induction xs generalizing is with
  | nil =>
    cases his
    exact .nil
  | cons x xs ih =>
    cases his with
    | cons hj hjs =>
      -- Items are abridged, but none is left out.
      exact .cons (h x List.mem_cons_self _ hj)
        (ih (fun y hy => h y (List.mem_cons_of_mem _ hy)) _ hjs)

end Understands

section
variable {ρ α β : Type} {s : Shape ρ α} {fs : List (String × Json)} {r : ρ} {x : α}
  {name : String} {v : Json} {y : β} {get : ρ → Option β} {put : β → ρ → ρ} {d : Decoder β}
  {required : Bool}

/-- With what the record holds already, any abridgement of the remaining fields makes the value. -/
def Collects (s : Shape ρ α) (fs : List (String × Json)) (r : ρ) (x : α) : Prop :=
  ∀ gs, AbridgesFields fs gs → ∃ r', Fills s.fields r gs r' ∧ s.finish r' = some x

/-- A record is understood when its fields, abridged, are collected into it. -/
theorem Understands.record (h : Collects s fs s.empty x) :
    Understands (Decoder.record s) (.object fs) x := by
  intro i hi
  obtain ⟨gs, rfl, hgs⟩ := hi.object_inv
  obtain ⟨r, hfills, hfinish⟩ := h gs hgs
  exact Reads.record hfills hfinish

namespace Collects

/-- Nothing is left to collect once the record is finished. -/
theorem done (h : s.finish r = some x) : Collects s [] r x := by
  intro gs hgs
  cases hgs
  exact ⟨r, .nil r, h⟩

/-- The field at a position is found by its name if no field before it has that name. -/
theorem find_field {f : Decoder.Field ρ} {fields later : List (Decoder.Field ρ)} {i : Nat}
    (hf : fields.drop i = f :: later) (hname : f.name ∉ (fields.take i).map (·.name)) :
    (fields.find? fun g => g.name.toList = f.name.toList) = some f := by
  rw [← List.take_append_drop i fields, List.find?_append, hf, List.find?_cons_of_pos (by simp)]
  rw [List.find?_eq_none.mpr, Option.none_or]
  intro g hg heq
  exact hname (List.mem_map.mpr ⟨g, hg, String.toList_inj.mp (of_decide_eq_true heq)⟩)

/-- A field that is there. -/
theorem fill (i : Nat) {w : Json} {gs : List (String × Json)} {later : List (Decoder.Field ρ)}
    (hf : s.fields.drop i = .of name required get put d :: later)
    (hname : name ∉ (s.fields.take i).map (·.name)) (hget : get r = none) (hw : d.Reads w.chars y)
    (h : ∃ r', Fills s.fields (put y r) gs r' ∧ s.finish r' = some x) :
    ∃ r', Fills s.fields r ((name, w) :: gs) r' ∧ s.finish r' = some x := by
  obtain ⟨r', hfills, hfinish⟩ := h
  refine ⟨r', .cons (find_field hf hname) ?_ ?_ hfills, hfinish⟩
  · simp only [Decoder.Field.of, hget, Option.isSome_none]
  · intro n rest hlen
    simp only [Decoder.Field.of, hw n rest hlen]
    rfl

/-- A field that has no default is there. -/
theorem needed (i : Nat) {later : List (Decoder.Field ρ)}
    (hf : s.fields.drop i = .of name required get put d :: later)
    (hname : name ∉ (s.fields.take i).map (·.name)) (hget : get r = none) (hv : Understands d v y)
    (hneeded : name ∉ defaults.map Prod.fst) (h : Collects s fs (put y r) x) :
    Collects s ((name, v) :: fs) r x := by
  intro gs hgs
  -- Only what has a default can be left out.
  cases hgs with
  | keep hw hfs => exact fill i hf hname hget (hv _ hw) (h _ hfs)
  | leave hdefault => exact absurd (List.mem_map_of_mem hdefault) hneeded

/-- A field that has a default may be there or not.  `holding` is the record with what it may hold
    for the field, and `fits` says what that may be in the end. -/
theorem optional (i : Nat) (holding : Option β → ρ) (fits : Option β → Prop)
    {later : List (Decoder.Field ρ)} (hf : s.fields.drop i = .of name required get put d :: later)
    (hname : name ∉ (s.fields.take i).map (·.name)) (hget : get r = none) (hv : Understands d v y)
    (hnone : holding none = r) (hsome : holding (some y) = put y r) (hthere : fits (some y))
    (hleft : (name, v) ∈ defaults → fits none)
    (h : ∀ y?, fits y? → Collects s fs (holding y?) x) : Collects s ((name, v) :: fs) r x := by
  intro gs hgs
  -- The field is read if it is there, and left out only where it is the default.
  cases hgs with
  | keep hw hfs =>
    have hrest := h _ hthere _ hfs
    rw [hsome] at hrest
    exact fill i hf hname hget (hv _ hw) hrest
  | leave hdefault hfs =>
    have hrest := h _ (hleft hdefault) _ hfs
    rwa [hnone] at hrest

end Collects

end

/-! ## Entities -/

namespace Understands

/-- An attribute's document is understood as the attribute. -/
theorem attr (a : Attribute) : Understands Wire.attr (ofAttribute a) a := by
  refine record ?_
  -- A flag that is left out counts as false, and only false flags are left out.
  refine .needed 0 rfl (by decide) rfl (string a.name) (by decide) ?_
  refine .optional 1 (fun d? => ⟨some a.name, d?, none, none⟩) (·.getD false = a.direct)
    rfl (by decide) rfl (bool a.direct) rfl rfl rfl (by simp [defaults]) fun d? hd => ?_
  refine .optional 2 (fun i? => ⟨some a.name, d?, i?, none⟩) (·.getD false = a.inherit)
    rfl (by decide) rfl (bool a.inherit) rfl rfl rfl (by simp [defaults]) fun i? hi => ?_
  refine .optional 3 (fun p? => ⟨some a.name, d?, i?, p?⟩) (·.getD false = a.propagate)
    rfl (by decide) rfl (bool a.propagate) rfl rfl rfl (by simp [defaults]) fun p? hp => ?_
  refine .done ?_
  simp [hd, hi, hp]

/-- An object type's document is understood as the object type. -/
theorem objectType (t : ObjectType) :
    Understands Wire.objectType (ofEntity (.objectType t)) t := by
  refine record ?_
  refine .needed 0 rfl (by decide) rfl (uuid t.id) (by decide) ?_
  refine .needed 1 rfl (by decide) rfl (string t.typeName) (by decide) ?_
  exact .done rfl

/-- An object's document is understood as the object. -/
theorem object (o : Object) : Understands Wire.object (ofEntity (.object o)) o := by
  have hdoc : ofEntity (.object o) = .object [("id", ofUuid o.id), ("type_id", ofUuid o.typeId),
      ("alias", ofText? o.alias?)] := by
    rw [ofEntity]
    cases o.alias? <;> rfl
  rw [hdoc]
  refine record ?_
  refine .needed 0 rfl (by decide) rfl (uuid o.id) (by decide) ?_
  refine .needed 1 rfl (by decide) rfl (uuid o.typeId) (by decide) ?_
  refine .optional 2 (fun a? => ⟨some o.id, some o.typeId, a?⟩) (·.getD none = o.alias?)
    rfl (by decide) rfl (text? o.alias?) rfl rfl rfl ?_ fun a? ha => ?_
  · -- An empty alias has no default to be left out for.
    cases o.alias? <;> simp [defaults, ofText?]
  · refine .done ?_
    simp [ha]

/-- An edge type's document is understood as the edge type. -/
theorem edgeType (t : EdgeType) : Understands Wire.edgeType (ofEntity (.edgeType t)) t := by
  refine record ?_
  refine .needed 0 rfl (by decide) rfl (uuid t.id) (by decide) ?_
  refine .needed 1 rfl (by decide) rfl (string t.typeName) (by decide) ?_
  refine .needed 2 rfl (by decide) rfl (uuid t.sourceTypeId) (by decide) ?_
  refine .needed 3 rfl (by decide) rfl (uuid t.targetTypeId) (by decide) ?_
  refine .optional 4
    (fun as? => ⟨some t.id, some t.typeName, some t.sourceTypeId, some t.targetTypeId, as?⟩)
    (·.getD [] = t.attributes) rfl (by decide) rfl (list fun a _ => attr a) rfl rfl rfl ?_
    fun as? has => ?_
  · -- Only an empty list of attributes is left out.
    simp [defaults, eq_comm]
  · refine .done ?_
    simp [has]

/-- An edge's document is understood as the edge. -/
theorem edge (e : Edge) : Understands Wire.edge (ofEntity (.edge e)) e := by
  refine record ?_
  refine .needed 0 rfl (by decide) rfl (uuid e.id) (by decide) ?_
  refine .needed 1 rfl (by decide) rfl (uuid e.edgeTypeId) (by decide) ?_
  refine .needed 2 rfl (by decide) rfl (uuid e.sourceId) (by decide) ?_
  refine .needed 3 rfl (by decide) rfl (uuid e.targetId) (by decide) ?_
  exact .done rfl

/-- Every entity's document is understood as the entity. -/
theorem entity (e : Entity) : Understands (Wire.entity e.kind) (ofEntity e) e := by
  intro i hi
  cases e with
  | objectType t => exact (objectType t i hi).refine (f := some ∘ Entity.objectType) rfl
  | object o => exact (object o i hi).refine (f := some ∘ Entity.object) rfl
  | edgeType t => exact (edgeType t i hi).refine (f := some ∘ Entity.edgeType) rfl
  | edge e => exact (edge e i hi).refine (f := some ∘ Entity.edge) rfl

end Understands

/-- What is written for an entity decodes to it. -/
theorem decode_ofEntity (e : Entity) : decode (Wire.entity e.kind) (ofEntity e).text = .ok e :=
  decode_text (Understands.entity e _ (.same _))

/-- Reads the body of a create request: an entity under the name of its kind. -/
def wrapped (k : Kind) : Decoder Entity := record {
  empty := (none : Option Entity)
  fields := [.of (wrapper k) true id (fun e _ => some e) (Wire.entity k)]
  finish := id }

/-- The body of a create request decodes to the entity that is created. -/
theorem decode_creation (e : Entity) : decode (wrapped e.kind) (creation e).text = .ok e := by
  -- The wrapper has one field, which holds the entity.
  have hread : (Decoder.Field.of (wrapper e.kind) true id (fun e _ => some e)
      (Wire.entity e.kind)).read.Reads
      (ofEntity e).chars (fun _ => some e) := by
    intro n rest hlen
    simp only [Decoder.Field.of, Understands.entity e _ (.same _) n rest hlen]
    rfl
  refine decode_text (Reads.record (r := some e) ?_ rfl)
  exact .cons (Collects.find_field (i := 0) rfl (by simp)) rfl hread (.nil _)

/-- Under the name of its kind stands the document of the entity. -/
theorem field?_creation (e : Entity) :
    (creation e).field? (wrapper e.kind) = some (ofEntity e) := by
  simp [creation, field?]

/-! ## Pages -/

/-- The document of a page: its entities and the cursor of the page after it, if there is one.  On
    the last page the cursor has no meaning and may be anything. -/
def ofPage (entities : List Entity) (hasNext : Bool) (next? : Option String) : Json :=
  .object [("data", .array (entities.map ofEntity)), ("has_next", .bool hasNext),
    ("next", ofText? next?)]

/-- A page's document is understood as its entities and what it says about the next page. -/
theorem Understands.page {α : Type} {d : Decoder α} {f : α → Entity} {xs : List α}
    (h : ∀ x ∈ xs, Understands d (ofEntity (f x)) x) (hasNext : Bool) (next? : Option String) :
    Understands (Wire.page d) (ofPage (xs.map f) hasNext next?)
      ⟨xs, hasNext, ⟨next?.getD ""⟩⟩ := by
  rw [ofPage, List.map_map]
  refine record ?_
  refine .optional 0 (fun xs? => ⟨xs?, none, none⟩) (·.getD [] = xs) rfl (by simp) rfl (list h)
    rfl rfl rfl ?_ fun xs? hxs => ?_
  · simp [defaults, eq_comm]
  refine .optional 1 (fun b? => ⟨xs?, b?, none⟩) (·.getD false = hasNext) rfl
    (by simp [Decoder.Field.of]) rfl (bool hasNext) rfl rfl rfl (by simp [defaults]) fun b? hb => ?_
  refine .optional 2 (fun n? => ⟨xs?, b?, n?⟩) (fun n? => (n?.getD none).getD "" = next?.getD "")
    rfl (by simp [Decoder.Field.of]) rfl (text? next?) rfl rfl rfl ?_ fun n? hn => ?_
  · -- A cursor that is left out, absent or empty is the empty one.
    cases next? <;> simp [defaults, ofText?, eq_comm]
  · refine .done ?_
    simp [hxs, hb, hn]

end Wire

end TenantSync
