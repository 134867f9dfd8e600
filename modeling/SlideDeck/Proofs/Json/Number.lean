import SlideDeck.Json.Number

/-! Natural numbers of 64 bits are read from their own digits. -/

namespace SlideDeck.Json.Number

theorem digit?_of_isDigit {c : Char} (h : c.isDigit = true) :
    Text.digit? 10 c = some (c.toNat - '0'.toNat) := by
  have hc : '0'.toNat ≤ c.toNat ∧ c.toNat ≤ '9'.toNat := by simpa using Char.isDigit_iff_toNat.1 h
  have hsmall : c.toNat - '0'.toNat < 10 := by
    have hnine : '9'.toNat = '0'.toNat + 9 := rfl
    omega
  simp only [Text.digit?, decide_eq_true hc.1, decide_eq_true hc.2, Bool.and_self, if_true,
    if_pos hsmall]

theorem le_ofDigitChars (n : Nat) (ds : List Char) : n ≤ Nat.ofDigitChars 10 ds n := by
  rw [Nat.ofDigitChars_eq_ofDigitChars_zero]
  have hscaled : n ≤ 10 ^ ds.length * n := Nat.le_mul_of_pos_left n (Nat.pow_pos (by decide))
  exact Nat.le_trans hscaled (Nat.le_add_right _ _)

theorem takeDigits_of_lt {bound n : Nat} {ds : List Char} (hds : ∀ c ∈ ds, c.isDigit = true)
    (h : Nat.ofDigitChars 10 ds n < bound) :
    takeDigits bound n ds = (Nat.ofDigitChars 10 ds n, []) := by
  induction ds generalizing n with
  | nil => rfl
  | cons c ds ih =>
    obtain ⟨hc, hds⟩ := List.forall_mem_cons.1 hds
    rw [Nat.ofDigitChars_cons, Nat.mul_comm] at h ⊢
    have hfits := Nat.lt_of_le_of_lt (le_ofDigitChars _ ds) h
    simp only [takeDigits, digit?_of_isDigit hc, if_pos hfits, ih hds h]

theorem head?_toDigits {n : Nat} (h : 0 < n) : (Nat.toDigits 10 n).head? ≠ some '0' := by
  induction n using Nat.strongRecOn with
  | ind n ih =>
    rw [Nat.toDigits_eq_if (by decide)]
    split
    next hsmall =>
      have hdigit : ∀ d < 10, 0 < d → Nat.digitChar d ≠ '0' := by decide
      exact fun heq => hdigit n hsmall h (Option.some.inj heq)
    next hlarge =>
      have hpos : 0 < n / 10 := Nat.div_pos (Nat.le_of_not_lt hlarge) (by decide)
      have hhead := ih (n / 10) (Nat.div_lt_self h (by decide)) hpos
      obtain ⟨c, ds, hds⟩ := List.exists_cons_of_ne_nil (Nat.toDigits_ne_nil (n := n / 10) (b := 10))
      rw [hds] at hhead ⊢
      exact hhead

theorem startsWithDigit_toDigits (n : Nat) : startsWithDigit (Nat.toDigits 10 n) = true := by
  obtain ⟨c, ds, hds⟩ := List.exists_cons_of_ne_nil (Nat.toDigits_ne_nil (n := n) (b := 10))
  have hdigit : c.isDigit = true :=
    Nat.isDigit_of_mem_toDigits (by decide) (by decide) (hds ▸ List.mem_cons_self)
  rw [hds]
  exact hdigit

theorem read_toDigits {n : Nat} (h : n < naturals) :
    read (Nat.toDigits 10 n) = .ok (.whole n, []) := by
  obtain rfl | hpos := Nat.eq_zero_or_pos n
  · rfl
  have hhead := head?_toDigits hpos
  have hdigits : ∀ c ∈ Nat.toDigits 10 n, c.isDigit = true := fun c hc =>
    Nat.isDigit_of_mem_toDigits (by decide) (by decide) hc
  have htake : takeDigits naturals 0 (Nat.toDigits 10 n) = (n, []) := by
    have hvalue := Nat.ofDigitChars_ten_toDigits (n := n)
    rw [takeDigits_of_lt hdigits (by rwa [hvalue]), hvalue]
  obtain ⟨c, ds, hds⟩ := List.exists_cons_of_ne_nil (Nat.toDigits_ne_nil (n := n) (b := 10))
  rw [hds] at hhead hdigits htake ⊢
  have hc : c.isDigit = true := hdigits c List.mem_cons_self
  have hminus : c ≠ '-' := by
    rintro rfl
    cases hc
  have hzero : c ≠ '0' := fun heq => hhead (congrArg some heq)
  have hmagnitude : magnitude (c :: ds) = .ok (.whole n, []) := by
    unfold magnitude
    split
    next heq => cases heq
    next heq => exact absurd (List.cons.inj heq).1 hzero
    next =>
      rw [if_pos (show startsWithDigit (c :: ds) = true from hc), htake]
      rfl
  unfold read
  split
  next heq => exact absurd (List.cons.inj heq).1 hminus
  next => exact hmagnitude

end SlideDeck.Json.Number
