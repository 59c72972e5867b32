import TenantSync.Proofs.Web.Form

/-!
# The order of texts and the order of their bytes

Texts are ordered by their characters, and a database orders them by their bytes.  Both are the
same order, because the bytes of a character are digits to base 64 behind a first byte that tells
how many there are (`before_bytes_of_lt`).
-/

namespace TenantSync.Utf8

/-- The bytes of a text. -/
def bytes (s : String) : List UInt8 := s.toUTF8.data.toList

/-- The order of bytes: the first place where two lists differ decides, and an end comes before
    everything else. -/
def Before (xs ys : List UInt8) : Prop := List.Lex (· < ·) xs ys

/-- Two texts of bytes are in order when their first bytes are. -/
theorem Before.of_lt {m n : Nat} {xs ys : List UInt8} (hmn : m < n) (hn : n < 256) :
    Before (UInt8.ofNat m :: xs) (UInt8.ofNat n :: ys) := by
  apply List.Lex.rel
  rw [UInt8.lt_iff_toNat_lt, toNat_ofNat_of_lt hn, toNat_ofNat_of_lt (by omega)]
  exact hmn

/-- One byte after the other decides. -/
theorem Before.of_le {m n : Nat} {xs ys : List UInt8} (hmn : m ≤ n) (hn : n < 256)
    (hrest : m = n → Before xs ys) : Before (UInt8.ofNat m :: xs) (UInt8.ofNat n :: ys) := by
  rcases Nat.lt_or_eq_of_le hmn with hlt | rfl
  · exact .of_lt hlt hn
  · exact List.Lex.cons (hrest rfl)

/-- The bytes of a character: one to four, by the size of its number. -/
theorem encodeChar_cases (c : Char) :
    let n := c.val.toNat
    (n ≤ 0x7F ∧ String.utf8EncodeChar c = [UInt8.ofNat n]) ∨
    ((0x7F < n ∧ n ≤ 0x7FF) ∧ String.utf8EncodeChar c =
      [UInt8.ofNat (n / 64 % 32 + 192), UInt8.ofNat (n % 64 + 128)]) ∨
    ((0x7FF < n ∧ n ≤ 0xFFFF) ∧ String.utf8EncodeChar c =
      [UInt8.ofNat (n / 4096 % 16 + 224), UInt8.ofNat (n / 64 % 64 + 128),
        UInt8.ofNat (n % 64 + 128)]) ∨
    ((0xFFFF < n ∧ n < 0x110000) ∧ String.utf8EncodeChar c =
      [UInt8.ofNat (n / 262144 % 8 + 240), UInt8.ofNat (n / 4096 % 64 + 128),
        UInt8.ofNat (n / 64 % 64 + 128), UInt8.ofNat (n % 64 + 128)]) := by
  intro n
  -- The last case has its upper bound from the character itself.
  have hvalid : n < 0xD800 ∨ 0xDFFF < n ∧ n < 0x110000 := c.valid
  rw [String.utf8EncodeChar]
  split
  case isTrue h => exact .inl ⟨h, rfl⟩
  split
  case isTrue h => exact .inr (.inl ⟨by omega, rfl⟩)
  split
  case isTrue h => exact .inr (.inr (.inl ⟨by omega, rfl⟩))
  case isFalse h => exact .inr (.inr (.inr ⟨by omega, rfl⟩))

/-- The bytes of a smaller character come before those of a greater one, whatever follows. -/
theorem before_encodeChar {c d : Char} (h : c < d) (xs ys : List UInt8) :
    Before (String.utf8EncodeChar c ++ xs) (String.utf8EncodeChar d ++ ys) := by
  have hlt : c.val.toNat < d.val.toNat := UInt32.lt_iff_toNat_lt.mp h
  -- The first byte tells how many there are, and more bytes belong to greater numbers.  With the
  -- same number of bytes these are digits to base 64, the most significant first.
  rcases encodeChar_cases c with ⟨hc, hcs⟩ | ⟨hc, hcs⟩ | ⟨hc, hcs⟩ | ⟨hc, hcs⟩ <;>
    rcases encodeChar_cases d with ⟨hd, hds⟩ | ⟨hd, hds⟩ | ⟨hd, hds⟩ | ⟨hd, hds⟩ <;>
    rw [hcs, hds]
  all_goals clear hcs hds
  all_goals generalize c.val.toNat = m at *
  all_goals generalize d.val.toNat = n at *
  any_goals omega
  · exact .of_lt (by omega) (by omega)
  · exact .of_lt (by omega) (by omega)
  · exact .of_lt (by omega) (by omega)
  · exact .of_lt (by omega) (by omega)
  · exact .of_le (by omega) (by omega) fun _ => .of_lt (by omega) (by omega)
  · exact .of_lt (by omega) (by omega)
  · exact .of_lt (by omega) (by omega)
  · exact .of_le (by omega) (by omega) fun _ => .of_le (by omega) (by omega) fun _ =>
      .of_lt (by omega) (by omega)
  · exact .of_lt (by omega) (by omega)
  · exact .of_le (by omega) (by omega) fun _ => .of_le (by omega) (by omega) fun _ =>
      .of_le (by omega) (by omega) fun _ => .of_lt (by omega) (by omega)

/-- The bytes of a text are those of its characters, one after the other. -/
theorem bytes_eq_flatMap (s : String) : bytes s = s.toList.flatMap String.utf8EncodeChar := by
  have h : s.toUTF8 = s.toList.utf8Encode := by
    rw [String.toUTF8, ← String.toByteArray_ofList, String.ofList_toList]
  rw [bytes, h, List.utf8Encode, List.toList_data_toByteArray]

/-- A character's encoding has a byte. -/
theorem encodeChar_ne_nil (c : Char) : String.utf8EncodeChar c ≠ [] := by
  rcases encodeChar_cases c with ⟨-, h⟩ | ⟨-, h⟩ | ⟨-, h⟩ | ⟨-, h⟩ <;> simp [h]

/-- Texts in the order of their characters have encodings in the order of their bytes. -/
theorem before_flatMap_encodeChar {cs ds : List Char} (h : List.Lex (· < ·) cs ds) :
    Before (cs.flatMap String.utf8EncodeChar) (ds.flatMap String.utf8EncodeChar) := by
  induction h with
  | @nil d ds =>
    obtain ⟨b, bs, hd⟩ := List.exists_cons_of_ne_nil (encodeChar_ne_nil d)
    rw [List.flatMap_nil, List.flatMap_cons, hd]
    exact List.Lex.nil
  | rel h => exact before_encodeChar h _ _
  | @cons c cs ds _ ih =>
    -- Equal characters have equal bytes, so what follows decides.
    rw [List.flatMap_cons, List.flatMap_cons]
    generalize String.utf8EncodeChar c = bs
    induction bs with
    | nil => exact ih
    | cons b bs ihbs => exact List.Lex.cons ihbs

/-- A smaller text comes first in the order of bytes. -/
theorem before_bytes_of_lt {s t : String} (h : s < t) : Before (bytes s) (bytes t) := by
  rw [bytes_eq_flatMap, bytes_eq_flatMap]
  exact before_flatMap_encodeChar h

end TenantSync.Utf8
