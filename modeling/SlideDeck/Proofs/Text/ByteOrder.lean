import Mathlib.Data.List.Lex
import Mathlib.Data.List.MinMax
import Mathlib.Data.String.Basic

/-! The order of texts by their bytes. It is the order by characters, so that texts which are sorted
one way are sorted the other way too. -/

namespace SlideDeck.Text

def bytes (s : String) : List Nat := s.toUTF8.data.toList.map UInt8.toNat

def bytesOf (c : Char) : List Nat := (String.utf8EncodeChar c).map UInt8.toNat

theorem bytes_eq (s : String) : bytes s = s.toList.flatMap bytesOf := by
  rw [bytes, String.toUTF8, ← String.ofList_toList (s := s), String.toByteArray_ofList,
    List.utf8Encode, List.toList_data_toByteArray, String.ofList_toList, List.map_flatMap]
  rfl

/-- Numbers are compared by their digits to base 64, the last digit last. -/
theorem lt_iff_digits {m n : Nat} :
    m < n ↔ m / 64 < n / 64 ∨ m / 64 = n / 64 ∧ m % 64 < n % 64 := by omega

theorem bytesOf_append_lt {c d : Char} (h : c < d) (xs ys : List Nat) :
    bytesOf c ++ xs < bytesOf d ++ ys := by
  have hlt : c.val.toNat < d.val.toNat := h
  have hmax : d.val.toNat < 0x110000 := by
    have hvalid := d.valid
    simp only [UInt32.isValidChar, Nat.isValidChar] at hvalid
    omega
  unfold bytesOf String.utf8EncodeChar
  dsimp only
  generalize c.val.toNat = m at *
  generalize d.val.toNat = n at *
  -- Behind the first byte, which tells how many there are, the bytes are the digits.
  have hdigits := lt_iff_digits.1 hlt
  rw [lt_iff_digits (m := m / 64), Nat.div_div_eq_div_mul, Nat.div_div_eq_div_mul,
    lt_iff_digits (m := m / (64 * 64)), Nat.div_div_eq_div_mul, Nat.div_div_eq_div_mul] at hdigits
  split_ifs <;>
    simp only [List.map_cons, List.map_nil, List.cons_append, List.nil_append,
      List.cons_lt_cons_iff, UInt8.toNat_ofNat'] <;>
    simp (disch := omega) only [Nat.mod_eq_of_lt] <;> omega

theorem bytesOf_ne_nil (c : Char) : bytesOf c ≠ [] := by
  have hlength : (bytesOf c).length = c.utf8Size := by
    rw [bytesOf, List.length_map, String.length_utf8EncodeChar]
  have hsize := c.utf8Size_pos
  intro hnil
  rw [hnil, List.length_nil] at hlength
  omega

theorem flatMap_bytesOf_lt {cs ds : List Char} (h : cs < ds) :
    cs.flatMap bytesOf < ds.flatMap bytesOf := by
  induction h with
  | @nil d ds =>
    obtain ⟨b, bs, hbytes⟩ := List.exists_cons_of_ne_nil (bytesOf_ne_nil d)
    rw [List.flatMap_nil, List.flatMap_cons, hbytes]
    exact List.nil_lt_cons b _
  | rel h => exact bytesOf_append_lt h _ _
  | cons _ ih => exact List.append_left_lt ih

theorem bytes_strictMono : StrictMono bytes := by
  intro a b h
  rw [bytes_eq, bytes_eq]
  exact flatMap_bytesOf_lt (String.lt_iff.1 h)

theorem argmax_bytes_eq_some_iff {texts : List String} {s : String} :
    texts.argmax bytes = some s ↔ s ∈ texts ∧ ∀ t ∈ texts, t ≤ s := by
  -- The order of lists of numbers is decided in two ways.
  have hargmax : texts.argmax bytes = some s ↔ s ∈ texts ∧ (∀ t ∈ texts, bytes t ≤ bytes s) ∧
      ∀ t ∈ texts, bytes s ≤ bytes t → texts.idxOf s ≤ texts.idxOf t := by
    convert List.argmax_eq_some_iff (f := bytes) (l := texts) (m := s)
  rw [hargmax]
  refine and_congr_right fun _ =>
    ⟨fun h t ht => bytes_strictMono.le_iff_le.1 (h.1 t ht), fun h => ⟨fun t ht => ?_, ?_⟩⟩
  · exact bytes_strictMono.le_iff_le.2 (h t ht)
  · intro t ht hle
    rw [le_antisymm (bytes_strictMono.le_iff_le.1 hle) (h t ht)]

end SlideDeck.Text
