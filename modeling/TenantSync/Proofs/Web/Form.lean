import TenantSync.Text.Utf8
import TenantSync.Web.Form

/-!
# Form fields are read back

`Form.decode` reads fields the way a server does: it takes the parts between ampersands, splits
each at its first equals sign, replaces plus signs by blanks, resolves percent signs and reads the
bytes as UTF-8.  What `Form.encode` writes is read back unchanged for every text
(`Form.decode_encode`).
-/

namespace TenantSync

/-! ## Characters and their bytes -/

namespace Utf8

variable {a b c d : UInt8}

/-- The bytes that continue a character are those from 0x80 to 0xBF. -/
theorem continues_iff : continues b = true ↔ 0x80 ≤ b.toNat ∧ b.toNat < 0xC0 := by
  simp [continues, UInt8.le_iff_toNat_le, UInt8.lt_iff_toNat_lt]

/-- Whether a byte is below another can be told from their numbers. -/
theorem not_lt_of_le (h : b.toNat ≤ a.toNat) : ¬ a < b := by
  rw [UInt8.lt_iff_toNat_lt]
  exact Nat.not_lt.mpr h

/-- An ASCII byte is a character of its own. -/
theorem decodeFrom_one (i : Nat) (rest : List UInt8) (ha : a.toNat < 0x80) :
    decodeFrom i (a :: rest) = (decodeFrom (i + 1) rest).map (Char.ofNat a.toNat :: ·) := by
  rw [decodeFrom.eq_def]
  exact if_pos (UInt8.lt_iff_toNat_lt.mpr ha)

/-- A lead byte of two and one that continues it are a character. -/
theorem decodeFrom_two (i : Nat) (rest : List UInt8) (ha : 0xC2 ≤ a.toNat ∧ a.toNat < 0xE0)
    (hb : 0x80 ≤ b.toNat ∧ b.toNat < 0xC0) :
    decodeFrom i (a :: b :: rest) =
      (decodeFrom (i + 2) rest).map (Char.ofNat (a.toNat % 32 * 64 + low b) :: ·) := by
  have hone : ¬ a < 0x80 := not_lt_of_le (show 0x80 ≤ a.toNat by omega)
  have htwo : 0xC2 ≤ a ∧ a < 0xE0 := by
    rw [UInt8.le_iff_toNat_le, UInt8.lt_iff_toNat_lt]
    exact ha
  rw [decodeFrom, if_neg hone, if_pos htwo, if_pos (continues_iff.mpr hb)]

/-- A lead byte of three and the two behind it are a character. -/
theorem decodeFrom_three (i : Nat) (rest : List UInt8) (ha : 0xE0 ≤ a.toNat ∧ a.toNat < 0xF0)
    (hb : secondOfThree a b = true) (hc : 0x80 ≤ c.toNat ∧ c.toNat < 0xC0) :
    decodeFrom i (a :: b :: c :: rest) =
      (decodeFrom (i + 3) rest).map
        (Char.ofNat ((a.toNat % 16 * 64 + low b) * 64 + low c) :: ·) := by
  have hone : ¬ a < 0x80 := not_lt_of_le (show 0x80 ≤ a.toNat by omega)
  have htwo : ¬ (0xC2 ≤ a ∧ a < 0xE0) := fun h => absurd h.2 (not_lt_of_le ha.1)
  have hthree : 0xE0 ≤ a ∧ a < 0xF0 := by
    rw [UInt8.le_iff_toNat_le, UInt8.lt_iff_toNat_lt]
    exact ha
  rw [decodeFrom, if_neg hone, if_neg htwo, if_pos hthree]
  simp only [hb, continues_iff.mpr hc, Bool.not_true, Bool.false_eq_true, if_false, if_true]

/-- A lead byte of four and the three behind it are a character. -/
theorem decodeFrom_four (i : Nat) (rest : List UInt8) (ha : 0xF0 ≤ a.toNat ∧ a.toNat < 0xF5)
    (hb : secondOfFour a b = true) (hc : 0x80 ≤ c.toNat ∧ c.toNat < 0xC0)
    (hd : 0x80 ≤ d.toNat ∧ d.toNat < 0xC0) :
    decodeFrom i (a :: b :: c :: d :: rest) =
      (decodeFrom (i + 4) rest).map
        (Char.ofNat (((a.toNat % 8 * 64 + low b) * 64 + low c) * 64 + low d) :: ·) := by
  -- The lead byte is too large for a shorter character.
  have hone : ¬ a < 0x80 := not_lt_of_le (show 0x80 ≤ a.toNat by omega)
  have htwo : ¬ (0xC2 ≤ a ∧ a < 0xE0) := fun h =>
    absurd h.2 (not_lt_of_le (show 0xE0 ≤ a.toNat by omega))
  have hthree : ¬ (0xE0 ≤ a ∧ a < 0xF0) := fun h => absurd h.2 (not_lt_of_le ha.1)
  have hfour : 0xF0 ≤ a ∧ a < 0xF5 := by
    rw [UInt8.le_iff_toNat_le, UInt8.lt_iff_toNat_lt]
    exact ha
  rw [decodeFrom, if_neg hone, if_neg htwo, if_neg hthree, if_pos hfour]
  simp only [hb, continues_iff.mpr hc, continues_iff.mpr hd, Bool.not_true, Bool.false_eq_true,
    if_false, if_true]

/-- The second of three bytes may neither make the character too short nor a surrogate. -/
theorem secondOfThree_iff : secondOfThree a b = true ↔ (0x80 ≤ b.toNat ∧ b.toNat < 0xC0) ∧
    (a.toNat = 0xE0 → 0xA0 ≤ b.toNat) ∧ (a.toNat = 0xED → b.toNat < 0xA0) := by
  simp [secondOfThree, continues_iff, UInt8.le_iff_toNat_le, UInt8.lt_iff_toNat_lt,
    ← UInt8.toNat_inj]
  omega

/-- The second of four may make it neither too short nor too large. -/
theorem secondOfFour_iff : secondOfFour a b = true ↔ (0x80 ≤ b.toNat ∧ b.toNat < 0xC0) ∧
    (a.toNat = 0xF0 → 0x90 ≤ b.toNat) ∧ (a.toNat = 0xF4 → b.toNat < 0x90) := by
  simp [secondOfFour, continues_iff, UInt8.le_iff_toNat_le, UInt8.lt_iff_toNat_lt,
    ← UInt8.toNat_inj]
  omega

/-- A number below 256 is kept by its byte. -/
theorem toNat_ofNat_of_lt {n : Nat} (h : n < 256) : (UInt8.ofNat n).toNat = n := by
  rw [UInt8.toNat_ofNat']
  omega

/-- The bytes of a character are read as the character. -/
theorem decodeFrom_encodeChar (i : Nat) (c : Char) (rest : List UInt8) :
    decodeFrom i (String.utf8EncodeChar c ++ rest) =
      (decodeFrom (i + (String.utf8EncodeChar c).length) rest).map (c :: ·) := by
  have hchar : Char.ofNat c.val.toNat = c := c.ofNat_toNat
  have hvalid : c.val.toNat < 0xD800 ∨ 0xDFFF < c.val.toNat ∧ c.val.toNat < 0x110000 := c.valid
  rw [String.utf8EncodeChar]
  generalize c.val.toNat = n at hchar hvalid
  -- One case for each number of bytes.  The bytes hold the digits of the number to base 64, and
  -- what is read puts the digits together again.
  split
  · have ha := toNat_ofNat_of_lt (n := n) (by omega)
    rw [List.singleton_append, decodeFrom_one i rest (by omega), ha, hchar]
    rfl
  split
  · have ha := toNat_ofNat_of_lt (n := n / 64 % 32 + 192) (by omega)
    have hb := toNat_ofNat_of_lt (n := n % 64 + 128) (by omega)
    have hn : (n / 64 % 32 + 192) % 32 * 64 + (n % 64 + 128) % 64 = n := by omega
    rw [List.cons_append, List.singleton_append, decodeFrom_two i rest (by omega) (by omega),
      low, ha, hb, hn, hchar]
    rfl
  split
  · have ha := toNat_ofNat_of_lt (n := n / 4096 % 16 + 224) (by omega)
    have hb := toNat_ofNat_of_lt (n := n / 64 % 64 + 128) (by omega)
    have hc := toNat_ofNat_of_lt (n := n % 64 + 128) (by omega)
    have hn : ((n / 4096 % 16 + 224) % 16 * 64 + (n / 64 % 64 + 128) % 64) * 64 +
        (n % 64 + 128) % 64 = n := by omega
    have hsecond : secondOfThree (UInt8.ofNat (n / 4096 % 16 + 224))
        (UInt8.ofNat (n / 64 % 64 + 128)) = true := by
      -- The number is no surrogate and needs three bytes.
      rw [secondOfThree_iff, ha, hb]
      omega
    rw [List.cons_append, List.cons_append, List.singleton_append,
      decodeFrom_three i rest (by omega) hsecond (by omega), low, low, ha, hb, hc, hn, hchar]
    rfl
  · have ha := toNat_ofNat_of_lt (n := n / 262144 % 8 + 240) (by omega)
    have hb := toNat_ofNat_of_lt (n := n / 4096 % 64 + 128) (by omega)
    have hc := toNat_ofNat_of_lt (n := n / 64 % 64 + 128) (by omega)
    have hd := toNat_ofNat_of_lt (n := n % 64 + 128) (by omega)
    have hn : (((n / 262144 % 8 + 240) % 8 * 64 + (n / 4096 % 64 + 128) % 64) * 64 +
        (n / 64 % 64 + 128) % 64) * 64 + (n % 64 + 128) % 64 = n := by omega
    have hsecond : secondOfFour (UInt8.ofNat (n / 262144 % 8 + 240))
        (UInt8.ofNat (n / 4096 % 64 + 128)) = true := by
      -- The number is that of a character and needs four bytes.
      rw [secondOfFour_iff, ha, hb]
      omega
    rw [List.cons_append, List.cons_append, List.cons_append, List.singleton_append,
      decodeFrom_four i rest (by omega) hsecond (by omega) (by omega), low, low, low, ha, hb, hc,
      hd, hn, hchar]
    rfl

/-- Decoding undoes the encoding of any text, character by character. -/
theorem decodeFrom_flatMap_encodeChar (i : Nat) (cs : List Char) :
    decodeFrom i (cs.flatMap String.utf8EncodeChar) = .ok cs := by
  induction cs generalizing i with
  | nil => simp [decodeFrom]
  | cons c cs ih =>
    rw [List.flatMap_cons, decodeFrom_encodeChar, ih]
    rfl

end Utf8

/-! ## Parts -/

namespace Percent

/-- An encoded byte is decoded as that byte. -/
theorem decode_encodeByte (b : UInt8) (rest : List Char) :
    decode (encodeByte b ++ rest) = b :: decode rest := by
  have hb := b.toNat_lt
  have hnum : (Hex.digit (b.toNat / 16)).val * 16 + (Hex.digit b.toNat).val = b.toNat := by
    simp only [Hex.digit]
    omega
  simp only [encodeByte, List.cons_append, List.nil_append, decode, Hex.value?_upper, hnum]
  rw [UInt8.ofNat_toNat]

/-- Encoded bytes are decoded as those bytes. -/
theorem decode_flatMap_encodeByte (bs : List UInt8) (rest : List Char) :
    decode (bs.flatMap encodeByte ++ rest) = bs ++ decode rest := by
  induction bs with
  | nil => rfl
  | cons b bs ih =>
    rw [List.flatMap_cons, List.append_assoc, decode_encodeByte, ih, List.cons_append]

/-- A character that starts no escape is decoded as its own bytes. -/
theorem decode_cons {c : Char} (h : c ≠ '%') (rest : List Char) :
    decode (c :: rest) = String.utf8EncodeChar c ++ decode rest := by
  rw [decode]
  simp_all

end Percent

namespace Form

/-- A blank is written as a plus sign. -/
def unplus (c : Char) : Char := if c = '+' then ' ' else c

/-- Reads a name or a value. -/
def decodePart (cs : List Char) : Option String :=
  (Utf8.decode (Percent.decode (cs.map unplus))).toOption

/-- Reads a field; the first equals sign ends its name. -/
def decodeField (cs : List Char) : Option (String × String) := do
  let name ← decodePart (cs.takeWhile (· ≠ '='))
  let value ← decodePart ((cs.dropWhile (· ≠ '=')).drop 1)
  return (name, value)

/-- Reads the fields of a form or a query; empty ones do not count. -/
def decode (text : String) : Option (List (String × String)) :=
  ((text.toList.splitOn '&').filter (!·.isEmpty)).mapM decodeField

/-- Digits are none of the characters with a meaning of their own. -/
theorem upper_ne (d : Fin 16) : Hex.upper d ≠ '+' ∧ Hex.upper d ≠ '&' ∧ Hex.upper d ≠ '=' := by
  revert d
  decide

/-- What is percent-encoded has none of the characters with a meaning of their own. -/
theorem ne_of_mem_encodeChar {c x : Char} (hx : x ∈ Percent.encodeChar c) :
    x ≠ '+' ∧ x ≠ '&' ∧ x ≠ '=' := by
  obtain ⟨b, -, hx⟩ := List.mem_flatMap.mp hx
  simp only [Percent.encodeByte, List.mem_cons, List.not_mem_nil, or_false] at hx
  rcases hx with rfl | rfl | rfl
  · decide
  · exact upper_ne _
  · exact upper_ne _

/-- A plain character is none of those that are not. -/
theorem ne_of_isPlain {c x : Char} (hc : isPlain c = true) (hx : isPlain x = false) : c ≠ x := by
  rintro rfl
  exact Bool.false_ne_true (hx.symm.trans hc)

/-- The separators do not occur in a name or a value. -/
theorem ne_of_mem_encodePart {cs : List Char} {x : Char} (hx : x ∈ encodePart cs) :
    x ≠ '&' ∧ x ≠ '=' := by
  obtain ⟨c, -, hx⟩ := List.mem_flatMap.mp hx
  -- A plain character is neither; an escape consists of a percent sign and digits.
  split at hx
  case isTrue hplain =>
    rw [List.mem_singleton.mp hx]
    exact ⟨ne_of_isPlain hplain (by decide), ne_of_isPlain hplain (by decide)⟩
  case isFalse =>
    split at hx
    · rw [List.mem_singleton.mp hx]
      decide
    · exact (ne_of_mem_encodeChar hx).2

/-- Encoding a part keeps the bytes of its text. -/
theorem decode_encodePart_chars (cs : List Char) :
    Percent.decode ((encodePart cs).map unplus) = cs.flatMap String.utf8EncodeChar := by
  induction cs with
  | nil => rfl
  | cons c cs ih =>
    rw [encodePart, List.flatMap_cons, ← encodePart, List.map_append, List.flatMap_cons, ← ih]
    split
    -- A plus sign is not plain, so replacing plus signs leaves plain characters alone.
    case isTrue hplain =>
      have hunplus : unplus c = c := if_neg (ne_of_isPlain hplain (by decide))
      rw [List.map_singleton, hunplus, List.singleton_append]
      exact Percent.decode_cons (ne_of_isPlain hplain (by decide)) _
    case isFalse =>
      split
      case isTrue hblank =>
        subst hblank
        exact Percent.decode_cons (by decide) _
      case isFalse =>
        have hunplus : (Percent.encodeChar c).map unplus = Percent.encodeChar c := by
          refine (List.map_congr_left fun x hx => ?_).trans (List.map_id _)
          exact if_neg (ne_of_mem_encodeChar hx).1
        rw [hunplus]
        exact Percent.decode_flatMap_encodeByte _ _

/-- A part is decoded to the text it was encoded from. -/
theorem decodePart_encodePart (s : String) : decodePart (encodePart s.toList) = some s := by
  rw [decodePart, decode_encodePart_chars, Utf8.decode, Utf8.decodeFrom_flatMap_encodeChar]
  simp [Except.map, Except.toOption]

/-! ## Fields -/

/-- A field in its written form. -/
def encodeField (f : String × String) : List Char :=
  encodePart f.1.toList ++ '=' :: encodePart f.2.toList

/-- The fields are joined by ampersands. -/
theorem encodeChars_eq (fs : List (String × String)) :
    encodeChars fs = ['&'].intercalate (fs.map encodeField) := by
  induction fs with
  | nil => rfl
  | cons f fs ih =>
    -- There is no ampersand behind the last field.
    cases fs with
    | nil => simp [encodeChars, encodeField, List.intercalate]
    | cons g fs =>
      simp only [encodeChars, ih, List.map_cons, List.intercalate_cons_cons, encodeField,
        List.append_assoc, List.cons_append, List.nil_append]

/-- A field is decoded to the name and value it was encoded from. -/
theorem decodeField_encodeField (f : String × String) : decodeField (encodeField f) = some f := by
  have hname : ∀ x ∈ encodePart f.1.toList, decide (x ≠ '=') = true := fun x hx =>
    decide_eq_true (ne_of_mem_encodePart hx).2
  rw [decodeField, encodeField, List.takeWhile_append_of_pos hname,
    List.dropWhile_append_of_pos hname]
  simp [decodePart_encodePart]

/-- The fields of a form are decoded to those it was encoded from. -/
theorem mapM_decodeField (fs : List (String × String)) :
    (fs.map encodeField).mapM decodeField = some fs := by
  induction fs with
  | nil => rfl
  | cons f fs ih =>
    rw [List.map_cons, List.mapM_cons, decodeField_encodeField, ih]
    rfl

/-- Fields with any names and values are read back as they were. -/
theorem decode_encode (fs : List (String × String)) : decode (encode fs) = some fs := by
  cases fs with
  | nil => rfl
  | cons f fs =>
    -- Fields hold no ampersand, so splitting gives back what was joined.
    have hsplit : ∀ part ∈ (f :: fs).map encodeField, '&' ∉ part := by
      intro part hpart hmem
      obtain ⟨g, -, rfl⟩ := List.mem_map.mp hpart
      rw [encodeField, List.mem_append, List.mem_cons] at hmem
      obtain hmem | hmem | hmem := hmem
      · exact (ne_of_mem_encodePart hmem).1 rfl
      · exact absurd hmem (by decide)
      · exact (ne_of_mem_encodePart hmem).1 rfl
    -- Each holds an equals sign, so none is dropped.
    have hparts : ∀ part ∈ (f :: fs).map encodeField, (!part.isEmpty) = true := by
      intro part hpart
      obtain ⟨g, -, rfl⟩ := List.mem_map.mp hpart
      simp [encodeField]
    rw [decode, encode, String.toList_ofList, encodeChars_eq,
      List.splitOn_intercalate '&' hsplit (by simp), List.filter_eq_self.mpr hparts,
      mapM_decodeField]

end Form

end TenantSync
