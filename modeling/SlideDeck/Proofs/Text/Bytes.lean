import Mathlib.Order.Bounds.Basic
import SlideDeck.Text.Bytes

/-! Places between the characters of a text, counted in bytes. A byte position stands for the last
place that is not behind it, and that is where a text is split. -/

namespace SlideDeck.Text

theorem utf8ByteSize_ofList (cs : List Char) : (String.ofList cs).utf8ByteSize = bytesIn cs := by
  induction cs with
  | nil => simp
  | cons c cs ih => simp [String.ofList_cons, ih]

theorem utf8ByteSize_eq (s : String) : s.utf8ByteSize = bytesIn s.toList := by
  rw [← utf8ByteSize_ofList, String.ofList_toList]

theorem extract_append (front piece rest : String) :
    (front ++ piece ++ rest).toByteArray.extract front.utf8ByteSize
      (front.utf8ByteSize + piece.utf8ByteSize) = piece.toByteArray := by
  have hsize : (front ++ piece).toByteArray.size = front.utf8ByteSize + piece.utf8ByteSize := by
    rw [String.size_toByteArray, String.utf8ByteSize_append]
  rw [String.toByteArray_append, ← hsize, ByteArray.extract_append_size_left,
    String.toByteArray_append]
  exact ByteArray.extract_append_eq_right String.size_toByteArray.symm ByteArray.size_append

/-! ## Splitting -/

theorem splitBytes_append (n : Nat) (cs : List Char) :
    (splitBytes n cs).1 ++ (splitBytes n cs).2 = cs := by
  fun_induction splitBytes n cs with
  | case1 => rfl
  | case2 n c cs h before after hsplit ih =>
    rw [hsplit] at ih
    exact congrArg (c :: ·) ih
  | case3 => rfl

theorem bytesIn_splitBytes_le (n : Nat) (cs : List Char) : bytesIn (splitBytes n cs).1 ≤ n := by
  fun_induction splitBytes n cs with
  | case1 => exact Nat.zero_le _
  | case2 n c cs h before after hsplit ih =>
    rw [hsplit] at ih
    exact (Nat.add_le_add_left ih _).trans_eq (Nat.add_sub_cancel' h)
  | case3 => exact Nat.zero_le _

theorem splitBytes_of_le {front : List Char} {n : Nat} (h : bytesIn front ≤ n) (rest : List Char) :
    splitBytes n (front ++ rest) =
      (front ++ (splitBytes (n - bytesIn front) rest).1, (splitBytes (n - bytesIn front) rest).2) := by
  induction front generalizing n with
  | nil => rfl
  | cons c front ih =>
    rw [bytesIn_cons] at h
    rw [List.cons_append, splitBytes, if_pos (by omega), ih (by omega), bytesIn_cons, Nat.sub_sub]
    rfl

/-! ## Places -/

def IsPlace (s : String) (n : Nat) : Prop := String.Pos.Raw.IsValid s ⟨n⟩

theorem isPlace_iff {s : String} {n : Nat} :
    IsPlace s n ↔ ∃ front rest : String, s = front ++ rest ∧ front.utf8ByteSize = n := by
  rw [IsPlace, String.Pos.Raw.isValid_iff_exists_append]
  refine exists₂_congr fun front rest => and_congr_right fun _ => ?_
  rw [String.Pos.Raw.ext_iff, String.byteIdx_rawEndPos, eq_comm]

/-- The place is the last one that is not behind the position. -/
def StandsFor (s : String) (position place : Nat) : Prop :=
  IsGreatest {n | IsPlace s n ∧ n ≤ position} place

theorem standsFor_splitBytes (s : String) (n : Nat) :
    StandsFor s n (bytesIn (splitBytes n s.toList).1) := by
  constructor
  · refine ⟨isPlace_iff.2 ⟨.ofList (splitBytes n s.toList).1, .ofList (splitBytes n s.toList).2, ?_,
      utf8ByteSize_ofList _⟩, bytesIn_splitBytes_le n _⟩
    rw [← String.ofList_append, splitBytes_append, String.ofList_toList]
  · rintro m ⟨hplace, hm⟩
    obtain ⟨front, rest, rfl, rfl⟩ := isPlace_iff.1 hplace
    rw [utf8ByteSize_eq] at hm ⊢
    rw [String.toList_append, splitBytes_of_le hm, bytesIn_append]
    exact Nat.le_add_right _ _

section

variable {s : String} {n m a b : Nat}

theorem StandsFor.mono (ha : StandsFor s n a) (hb : StandsFor s m b) (h : n ≤ m) : a ≤ b :=
  hb.2 ⟨ha.1.1, ha.1.2.trans h⟩

theorem StandsFor.min (ha : StandsFor s n a) (hb : StandsFor s m b) :
    StandsFor s (min n m) (min a b) := by
  rcases le_total n m with h | h
  · rwa [min_eq_left h, min_eq_left (ha.mono hb h)]
  · rwa [min_eq_right h, min_eq_right (hb.mono ha h)]

theorem StandsFor.max (ha : StandsFor s n a) (hb : StandsFor s m b) :
    StandsFor s (max n m) (max a b) := by
  rcases le_total n m with h | h
  · rwa [max_eq_right h, max_eq_right (ha.mono hb h)]
  · rwa [max_eq_left h, max_eq_left (hb.mono ha h)]

end

end SlideDeck.Text
