import Mathlib.Data.List.Basic
import Mathlib.Tactic.SplitIfs

/-!
# The order of texts and the order of their bytes

Texts are compared character by character, and their bytes in UTF-8 one by one.  The two comparisons
agree, since the bytes of a greater character are greater: either its first byte is, which also says
how many bytes there are, or the six bits of one of the bytes behind it are the first to differ.

* `utf8EncodeChar_append_lt`: two texts that differ in their first character.
* `utf8Bytes_lt_iff`: any two texts.
-/

namespace InterfaceSync.Text

/-- Digits to the base sixty-four are compared from the front. -/
theorem digits_lt {a b c d a' b' c' d' : ℕ} (hb : b < 64) (hc : c < 64) (hd : d < 64) (hb' : b' < 64)
    (hc' : c' < 64) (hd' : d' < 64)
    (h : 262144 * a + 4096 * b + 64 * c + d < 262144 * a' + 4096 * b' + 64 * c' + d') :
    a < a' ∨ a = a' ∧ (b < b' ∨ b = b' ∧ (c < c' ∨ c = c' ∧ d < d')) := by
  omega

/-- The bits of a number of twenty-one bits, the first three and then six at a time. -/
theorem eq_sixBits {v : ℕ} (bound : v < 0x110000) :
    v = 262144 * (v / 262144 % 8) + 4096 * (v / 4096 % 64) + 64 * (v / 64 % 64) + v % 64 := by
  omega

/-- Of two numbers of twenty-one bits the greater one has greater bits at the front. -/
theorem sixBits_lt {v w : ℕ} (h : v < w) (bound : w < 0x110000) :
    v / 262144 % 8 < w / 262144 % 8 ∨ v / 262144 % 8 = w / 262144 % 8 ∧
      (v / 4096 % 64 < w / 4096 % 64 ∨ v / 4096 % 64 = w / 4096 % 64 ∧
        (v / 64 % 64 < w / 64 % 64 ∨ v / 64 % 64 = w / 64 % 64 ∧ v % 64 < w % 64)) := by
  have hdigit (n : ℕ) : n % 64 < 64 := Nat.mod_lt n (by omega)
  refine digits_lt (hdigit _) (hdigit _) (hdigit v) (hdigit _) (hdigit _) (hdigit w) ?_
  rw [← eq_sixBits (Nat.lt_trans h bound), ← eq_sixBits bound]
  exact h

/-- **The bytes of a lesser character are lesser**, whatever stands behind the two. -/
theorem utf8EncodeChar_append_lt {c d : Char} (h : c < d) (rest other : List UInt8) :
    String.utf8EncodeChar c ++ rest < String.utf8EncodeChar d ++ other := by
  have hlt : c.val.toNat < d.val.toNat := h
  have hvalid : d.val.toNat < 0xd800 ∨ 0xdfff < d.val.toNat ∧ d.val.toNat < 0x110000 := d.valid
  unfold String.utf8EncodeChar
  generalize c.val.toNat = v at hlt
  generalize d.val.toNat = w at hlt hvalid
  have hbits := sixBits_lt hlt (by omega)
  simp only
  -- The cases are the numbers of bytes of the two characters.
  split_ifs
  all_goals
    simp only [List.cons_append, List.cons_lt_cons_iff, UInt8.lt_iff_toNat_lt, ← UInt8.toNat_inj,
      UInt8.toNat_ofNat']
    omega

theorem flatMap_utf8EncodeChar_lt {text other : List Char} (h : text < other) :
    text.flatMap String.utf8EncodeChar < other.flatMap String.utf8EncodeChar := by
  induction h with
  | @nil c rest =>
    obtain ⟨byte, bytes, hbytes⟩ := List.exists_cons_of_ne_nil (String.utf8EncodeChar_ne_nil (c := c))
    rw [List.flatMap_nil, List.flatMap_cons, hbytes]
    exact .nil
  | rel hcd =>
    rw [List.flatMap_cons, List.flatMap_cons]
    exact utf8EncodeChar_append_lt hcd _ _
  | cons _ ih =>
    rw [List.flatMap_cons, List.flatMap_cons]
    exact List.append_left_lt ih

/-- The bytes of a text. -/
def utf8Bytes (s : String) : List UInt8 := s.toUTF8.data.toList

theorem utf8Bytes_eq (s : String) : utf8Bytes s = s.toList.flatMap String.utf8EncodeChar := by
  have hencode : s.toUTF8 = (s.toList.flatMap String.utf8EncodeChar).toByteArray :=
    String.utf8Encode_toList.symm
  rw [utf8Bytes, hencode, List.data_toByteArray]

/-- **Texts stand in the order of their bytes.** -/
theorem utf8Bytes_lt_iff {s t : String} : utf8Bytes s < utf8Bytes t ↔ s < t := by
  have hmono {s t : String} (h : s < t) : utf8Bytes s < utf8Bytes t := by
    rw [utf8Bytes_eq, utf8Bytes_eq]
    exact flatMap_utf8EncodeChar_lt h
  constructor
  · intro h
    by_contra hnot
    have hle := String.not_lt.1 hnot
    by_cases hlt : t < s
    · exact List.lt_asymm h (hmono hlt)
    · rw [String.le_antisymm (String.not_lt.1 hlt) hle] at h
      exact List.lt_irrefl _ h
  · exact hmono

end InterfaceSync.Text
