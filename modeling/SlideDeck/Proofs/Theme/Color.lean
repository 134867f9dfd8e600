import Mathlib.Data.List.Basic
import Mathlib.Tactic.SplitIfs
import SlideDeck.Proofs.Text.Trim
import SlideDeck.Theme.Color

/-! Colours by their text: which texts are read as a colour, and how that colour is written. -/

namespace SlideDeck.Color

open Text (trim digit?)

def hexDigits : List Char := "0123456789abcdefABCDEF".toList

/-- A digit stands for itself in lower case. A plus sign in front of a digit adds nothing to it, as
a zero does. -/
def standsFor (c : Char) : Char := if c = '+' then '0' else c.toLower

section Digits

variable {a b c : Char} {d : Nat} {n : UInt8}

theorem exists_digit? (h : c ∈ hexDigits) :
    ∃ d, digit? 16 c = some d ∧ d < 16 ∧ Nat.digitChar d = standsFor c := by
  have hall : hexDigits.all (fun c => (digit? 16 c).any fun d =>
      decide (d < 16 ∧ Nat.digitChar d = standsFor c)) = true := by decide
  obtain ⟨d, hd, hdigit⟩ := (Option.any_eq_true _ _).1 (List.all_eq_true.1 hall c h)
  exact ⟨d, hd, of_decide_eq_true hdigit⟩

theorem mem_hexDigits_of_digit? (h : digit? 16 c = some d) : c ∈ hexDigits := by
  have hsmall : ∀ n < 103, (digit? 16 (Char.ofNat n)).isSome = true → Char.ofNat n ∈ hexDigits := by
    decide
  have hcode : c.toNat < 103 := by
    unfold digit? at h
    simp only [Bool.and_eq_true, decide_eq_true_eq] at h
    have hz : '0'.toNat = 48 ∧ '9'.toNat = 57 ∧ 'a'.toNat = 97 ∧ 'z'.toNat = 122 ∧
      'A'.toNat = 65 ∧ 'Z'.toNat = 90 := by decide
    split_ifs at h <;> omega
  have hmem := hsmall c.toNat hcode
  rw [Char.ofNat_toNat] at hmem
  exact hmem (by rw [h]; rfl)

theorem digitChar_inj : ∀ d < 16, ∀ e < 16, Nat.digitChar d = Nat.digitChar e → d = e := by decide

theorem digit?_eq_some_iff :
    digit? 16 c = some d ↔ c ∈ hexDigits ∧ d < 16 ∧ Nat.digitChar d = standsFor c := by
  constructor
  · intro h
    have hc := mem_hexDigits_of_digit? h
    obtain ⟨e, hread, he, htext⟩ := exists_digit? hc
    obtain rfl : e = d := Option.some.inj (hread.symm.trans h)
    exact ⟨hc, he, htext⟩
  · rintro ⟨hc, hd, htext⟩
    obtain ⟨e, hread, he, htext'⟩ := exists_digit? hc
    rw [hread, digitChar_inj e he d hd (htext'.trans htext.symm)]

theorem channelText_eq (n : UInt8) :
    channelText n = [Nat.digitChar (n.toNat / 16), Nat.digitChar (n.toNat % 16)] := by
  have hn := n.toNat_lt
  by_cases hsmall : n.toNat < 16
  · have hlt : n < 16 := hsmall
    have hdigits := Nat.toDigits_of_lt_base hsmall
    have hzero : n.toNat / 16 = 0 := Nat.div_eq_of_lt hsmall
    rw [channelText, if_pos hlt, hdigits, hzero, Nat.mod_eq_of_lt hsmall]
    rfl
  · have hlt : ¬n < 16 := hsmall
    have hpos : 0 < n.toNat / 16 := Nat.div_pos (Nat.le_of_not_lt hsmall) (by decide)
    have hsplit := Nat.toDigits_append_toDigits (b := 16) (by decide) hpos
      (Nat.mod_lt n.toNat (by decide))
    rw [Nat.div_add_mod] at hsplit
    rw [channelText, if_neg hlt, ← hsplit, Nat.toDigits_of_lt_base (by omega),
      Nat.toDigits_of_lt_base (by omega)]
    rfl

def leading? (a : Char) : Option Nat := if a = '+' then some 0 else digit? 16 a

theorem leading?_eq_some_iff :
    leading? a = some d ↔ a ∈ '+' :: hexDigits ∧ d < 16 ∧ Nat.digitChar d = standsFor a := by
  unfold leading?
  split
  next ha =>
    subst ha
    have hzero : Nat.digitChar 0 = standsFor '+' := by decide
    constructor
    · intro h
      obtain rfl := Option.some.inj h
      exact ⟨List.mem_cons_self, by decide, hzero⟩
    · rintro ⟨-, hd, htext⟩
      rw [digitChar_inj 0 (by decide) d hd (hzero.trans htext.symm)]
  next ha => rw [digit?_eq_some_iff, List.mem_cons, or_iff_right ha]

theorem channel?_eq (a b : Char) : channel? [a, b] =
    (leading? a).bind fun d => (digit? 16 b).map fun e => .ofNat (16 * d + e) := by
  unfold leading?
  split
  next ha =>
    have hplus : Text.dropPlus [a, b] = [b] := by rw [ha]; rfl
    cases hb : digit? 16 b with
    | none => simp [channel?, Text.number?, hplus, Text.digitsFrom?, hb]
    | some e =>
      have he : e < 256 := by have := (digit?_eq_some_iff.1 hb).2.1; omega
      simp [channel?, Text.number?, hplus, Text.digitsFrom?, hb, Option.filter, he]
  next ha =>
    have hplus : Text.dropPlus [a, b] = [a, b] := by
      unfold Text.dropPlus
      split
      next cs hcs => exact absurd (List.cons.inj hcs).1 ha
      next => rfl
    cases hd : digit? 16 a with
    | none => simp [channel?, Text.number?, hplus, Text.digitsFrom?, hd]
    | some d =>
      cases hb : digit? 16 b with
      | none => simp [channel?, Text.number?, hplus, Text.digitsFrom?, hd, hb]
      | some e =>
        have hsmall : 16 * d + e < 256 := by
          have := (digit?_eq_some_iff.1 hd).2.1
          have := (digit?_eq_some_iff.1 hb).2.1
          omega
        simp [channel?, Text.number?, hplus, Text.digitsFrom?, hd, hb, Option.filter, Nat.mul_comm d,
          hsmall]

theorem channel?_eq_some_iff : channel? [a, b] = some n ↔
    a ∈ '+' :: hexDigits ∧ b ∈ hexDigits ∧ channelText n = [standsFor a, standsFor b] := by
  rw [channel?_eq, channelText_eq]
  constructor
  · intro h
    obtain ⟨d, hd, h⟩ := Option.bind_eq_some_iff.1 h
    obtain ⟨e, he, rfl⟩ := Option.map_eq_some_iff.1 h
    obtain ⟨ha, hd, htext⟩ := leading?_eq_some_iff.1 hd
    obtain ⟨hb, he, htext'⟩ := digit?_eq_some_iff.1 he
    have hsmall : 16 * d + e < 2 ^ 8 := by omega
    have hvalue : (UInt8.ofNat (16 * d + e)).toNat = 16 * d + e := UInt8.toNat_ofNat_of_lt' hsmall
    have hdiv : (16 * d + e) / 16 = d := by omega
    have hmod : (16 * d + e) % 16 = e := by omega
    rw [hvalue, hdiv, hmod, htext, htext']
    exact ⟨ha, hb, rfl⟩
  · rintro ⟨ha, hb, htext⟩
    have hn := n.toNat_lt
    obtain ⟨hfirst, hsecond⟩ : Nat.digitChar (n.toNat / 16) = standsFor a ∧
        Nat.digitChar (n.toNat % 16) = standsFor b := by simpa using htext
    have hd : leading? a = some (n.toNat / 16) :=
      leading?_eq_some_iff.2 ⟨ha, by omega, hfirst⟩
    have he : digit? 16 b = some (n.toNat % 16) := digit?_eq_some_iff.2 ⟨hb, by omega, hsecond⟩
    rw [hd, he, Option.bind_some, Option.map_some, Nat.div_add_mod, UInt8.ofNat_toNat]

end Digits

/-! ## Texts -/

/-- The text of a colour: a number sign or none, and three or six digits. Each of three digits
counts twice. -/
def Proper (text hex : List Char) : Prop :=
  ∃ sign digits, text = sign ++ digits ∧ (sign = [] ∨ sign = ['#']) ∧ (∀ c ∈ digits, c ∈ hexDigits) ∧
    (digits.length = 3 ∧ hex = digits.flatMap (fun c => [c.toLower, c.toLower]) ∨
      digits.length = 6 ∧ hex = digits.map Char.toLower)

/-- What is read as the digits of a colour. The first of the two digits of a channel can be a plus
sign. -/
def Spelled (digits hex : List Char) : Prop :=
  (digits.length = 3 ∧ (∀ c ∈ digits, c ∈ hexDigits) ∧
    hex = digits.flatMap fun c => [standsFor c, standsFor c]) ∨
  (digits.length = 6 ∧
    (∀ i c, digits[i]? = some c → c ∈ hexDigits ∨ c = '+' ∧ i % 2 = 0) ∧
    hex = digits.map standsFor)

/-- What is read as a colour: any number of number signs may stand in front of the digits. -/
def Accepted (text hex : List Char) : Prop :=
  ∃ signs digits, text = List.replicate signs '#' ++ digits ∧ Spelled digits hex

section Reading

variable {c : Color} {digits hex : List Char}

theorem channels_eq_some_iff {red green blue : Option UInt8} :
    (do return ⟨← red, ← green, ← blue⟩ : Option Color) = some c ↔
      red = some c.red ∧ green = some c.green ∧ blue = some c.blue := by
  obtain ⟨r, g, b⟩ := c
  cases red <;> cases green <;> cases blue <;> simp

theorem toHex_eq_iff : c.toHex = .ofList ('#' :: hex) ↔
    hex = channelText c.red ++ (channelText c.green ++ channelText c.blue) := by
  rw [toHex, String.ofList_inj, List.cons_inj_right, List.append_assoc]
  exact eq_comm

theorem spelled_three {r g b : Char} : Spelled [r, g, b] hex ↔
    (∀ c ∈ [r, g, b], c ∈ hexDigits) ∧ hex = [r, r, g, g, b, b].map standsFor := by
  simp [Spelled]

theorem spelled_six {r r' g g' b b' : Char} : Spelled [r, r', g, g', b, b'] hex ↔
    (∀ c ∈ [r, g, b], c ∈ '+' :: hexDigits) ∧ (∀ c ∈ [r', g', b'], c ∈ hexDigits) ∧
      hex = [r, r', g, g', b, b'].map standsFor := by
  have hplaces : (∀ (i : Nat) (c : Char), [r, r', g, g', b, b'][i]? = some c →
      c ∈ hexDigits ∨ c = '+' ∧ i % 2 = 0) ↔
      (∀ c ∈ [r, g, b], c ∈ '+' :: hexDigits) ∧ ∀ c ∈ [r', g', b'], c ∈ hexDigits := by
    constructor
    · intro h
      have h0 := h 0 r rfl
      have h1 := h 1 r' rfl
      have h2 := h 2 g rfl
      have h3 := h 3 g' rfl
      have h4 := h 4 b rfl
      have h5 := h 5 b' rfl
      simp_all [or_comm]
    · rintro ⟨hfirst, hsecond⟩ i c hc
      match i, hc with
      | 0, hc | 1, hc | 2, hc | 3, hc | 4, hc | 5, hc => simp_all [or_comm]
      | i + 6, hc => simp at hc
  simp only [Spelled, hplaces, and_assoc]
  simp

theorem length_of_spelled (h : Spelled digits hex) : digits.length = 3 ∨ digits.length = 6 := by
  rcases h with ⟨h, -⟩ | ⟨h, -⟩
  · exact .inl h
  · exact .inr h

theorem ofDigits?_eq_some_iff :
    ofDigits? digits = some c ↔ ∃ hex, Spelled digits hex ∧ c.toHex = .ofList ('#' :: hex) := by
  simp only [toHex_eq_iff, exists_eq_right]
  unfold ofDigits?
  split
  next r g b =>
    rw [channels_eq_some_iff, channel?_eq_some_iff, channel?_eq_some_iff, channel?_eq_some_iff,
      spelled_three]
    simp only [channelText_eq]
    constructor
    · rintro ⟨hred, hgreen, hblue⟩
      simp_all
    · rintro ⟨hmem, htext⟩
      simp_all
  next r r' g g' b b' =>
    rw [channels_eq_some_iff, channel?_eq_some_iff, channel?_eq_some_iff, channel?_eq_some_iff,
      spelled_six]
    simp only [channelText_eq]
    constructor
    · rintro ⟨hred, hgreen, hblue⟩
      simp_all
    · rintro ⟨hfirst, hsecond, htext⟩
      simp_all
  next hthree hsix =>
    refine iff_of_false (by simp) fun h => ?_
    rcases length_of_spelled h with hlength | hlength
    · obtain ⟨r, g, b, hdigits⟩ := List.length_eq_three.1 hlength
      exact hthree r g b hdigits
    · match digits, hlength with
      | [r, r', g, g', b, b'], _ => exact hsix r r' g g' b b' rfl

theorem head?_of_spelled (h : Spelled digits hex) : digits.head? ≠ some '#' := by
  have hsign : '#' ∉ '+' :: hexDigits := by decide
  intro hhead
  obtain ⟨rest, rfl⟩ := List.head?_eq_some_iff.1 hhead
  rcases h with ⟨-, hall, -⟩ | ⟨-, hall, -⟩
  · exact hsign (List.mem_cons_of_mem _ (hall '#' List.mem_cons_self))
  · rcases hall 0 '#' rfl with hmem | ⟨hplus, -⟩
    · exact hsign (List.mem_cons_of_mem _ hmem)
    · cases hplus

theorem read_eq_ok_iff {s : String} : read s = .ok c ↔
    ∃ hex, Accepted (trim s.toList) hex ∧ c.toHex = .ofList ('#' :: hex) := by
  have hread : read s = .ok c ↔ ofDigits? ((trim s.toList).dropWhile (· == '#')) = some c := by
    unfold read
    split
    next d hd => simp [hd]
    next hnone => simp [hnone]
  rw [hread, ofDigits?_eq_some_iff]
  constructor
  · rintro ⟨hex, hspelled, htext⟩
    refine ⟨hex, ⟨((trim s.toList).takeWhile (· == '#')).length, _, ?_, hspelled⟩, htext⟩
    rw [← Text.takeWhile_eq_replicate, List.takeWhile_append_dropWhile]
  · rintro ⟨hex, ⟨signs, digits, hsplit, hspelled⟩, htext⟩
    rw [hsplit, Text.dropWhile_replicate_append (head?_of_spelled hspelled)]
    exact ⟨hex, hspelled, htext⟩

theorem read_eq_error {s : String} (h : ∀ c, read s ≠ .ok c) : read s = .error (.color s) := by
  unfold read at h ⊢
  split at h
  next c hc => exact absurd rfl (h c)
  next => rfl

theorem mem_channelText {n : UInt8} {c : Char} (h : c ∈ channelText n) :
    c ∈ hexDigits ∧ standsFor c = c := by
  have hdigit : ∀ d < 16, Nat.digitChar d ∈ hexDigits ∧
      standsFor (Nat.digitChar d) = Nat.digitChar d := by decide
  have hn := n.toNat_lt
  rw [channelText_eq] at h
  rcases List.mem_pair.1 h with rfl | rfl
  · exact hdigit _ (by omega)
  · exact hdigit _ (by omega)

theorem exists_digits_toHex (c : Color) : ∃ digits : List Char, c.toHex = .ofList ('#' :: digits) ∧
    digits.length = 6 ∧ ∀ d ∈ digits, d ∈ "0123456789abcdef".toList := by
  have hdigit : ∀ n < 16, "0123456789abcdef".toList.contains (Nat.digitChar n) = true := by decide
  have hchannel (n : UInt8) : ∀ d ∈ channelText n, d ∈ "0123456789abcdef".toList := by
    have hn := n.toNat_lt
    rw [channelText_eq]
    intro d hd
    rcases List.mem_pair.1 hd with rfl | rfl
    · exact List.contains_iff_mem.1 (hdigit _ (by omega))
    · exact List.contains_iff_mem.1 (hdigit _ (by omega))
  refine ⟨_, toHex_eq_iff.2 rfl, by simp [channelText_eq], ?_⟩
  simp only [List.forall_mem_append]
  exact ⟨hchannel c.red, hchannel c.green, hchannel c.blue⟩

theorem read_toHex (c : Color) : read c.toHex = .ok c := by
  let hex := channelText c.red ++ (channelText c.green ++ channelText c.blue)
  have htext : c.toHex = .ofList ('#' :: hex) := toHex_eq_iff.2 rfl
  have hmem : ∀ d ∈ hex, d ∈ hexDigits ∧ standsFor d = d := by
    intro d hd
    rcases List.mem_append.1 hd with hd | hd
    · exact mem_channelText hd
    rcases List.mem_append.1 hd with hd | hd <;> exact mem_channelText hd
  have hspelled : Spelled hex hex := by
    refine .inr ⟨?_, fun i d hd => .inl (hmem d (List.mem_of_getElem? hd)).1, ?_⟩
    · simp [hex, channelText_eq]
    · have hsame : hex.map standsFor = hex.map id := List.map_congr_left fun d hd => (hmem d hd).2
      rw [hsame, List.map_id]
  have hsolid : ∀ d ∈ '#' :: hex, Text.isBlank d = false := by
    have hdigits : hexDigits.any Text.isBlank = false := by decide
    refine List.forall_mem_cons.2 ⟨by decide, fun d hd => ?_⟩
    exact Bool.eq_false_iff.2 (List.any_eq_false.1 hdigits d (hmem d hd).1)
  have htrim : trim c.toHex.toList = '#' :: hex := by
    rw [htext, String.toList_ofList, Text.trim_eq_self hsolid]
  exact read_eq_ok_iff.2 ⟨hex, ⟨1, hex, htrim, hspelled⟩, htext⟩

end Reading

section Proper

variable {text hex : List Char}

theorem standsFor_of_mem {c : Char} (h : c ∈ hexDigits) : standsFor c = c.toLower := by
  refine if_neg ?_
  rintro rfl
  revert h
  decide

theorem spelled_of_digits {digits : List Char} (h : ∀ c ∈ digits, c ∈ hexDigits) :
    Spelled digits hex ↔
      digits.length = 3 ∧ hex = digits.flatMap (fun c => [c.toLower, c.toLower]) ∨
        digits.length = 6 ∧ hex = digits.map Char.toLower := by
  have hlower : ∀ c ∈ digits, standsFor c = c.toLower := fun c hc => standsFor_of_mem (h c hc)
  have hdouble : digits.flatMap (fun c => [standsFor c, standsFor c]) =
      digits.flatMap fun c => [c.toLower, c.toLower] :=
    List.flatMap_congr fun c hc => by rw [hlower c hc]
  have hplaces : ∀ (i : Nat) (c : Char), digits[i]? = some c → c ∈ hexDigits ∨ c = '+' ∧ i % 2 = 0 :=
    fun i c hc => .inl (h c (List.mem_of_getElem? hc))
  rw [Spelled, hdouble, List.map_congr_left hlower, and_iff_right h, and_iff_right hplaces]

theorem proper_iff :
    Proper text hex ↔ Accepted text hex ∧ ¬['#', '#'] <+: text ∧ '+' ∉ text := by
  have hsign : '#' ∉ hexDigits := by decide
  have hplus : '+' ∉ hexDigits := by decide
  constructor
  · rintro ⟨sign, digits, rfl, hone, hdigits, hhex⟩
    have hspelled := (spelled_of_digits hdigits).2 hhex
    have hhead : ¬['#'] <+: digits := by
      rintro ⟨rest, rfl⟩
      exact hsign (hdigits '#' List.mem_cons_self)
    have hno : '+' ∉ digits := fun hmem => hplus (hdigits _ hmem)
    rcases hone with rfl | rfl
    · refine ⟨⟨0, digits, rfl, hspelled⟩, fun htwo => hhead ?_, hno⟩
      exact (List.prefix_append ['#'] ['#']).trans htwo
    · refine ⟨⟨1, digits, rfl, hspelled⟩, fun htwo => hhead ?_, by simpa using hno⟩
      exact (List.cons_prefix_cons.1 htwo).2
  · rintro ⟨⟨signs, digits, rfl, hspelled⟩, htwo, hnone⟩
    have hno : '+' ∉ digits := fun hmem => hnone (List.mem_append_right _ hmem)
    have hdigits : ∀ c ∈ digits, c ∈ hexDigits := by
      rcases hspelled with ⟨-, hall, -⟩ | ⟨-, hall, -⟩
      · exact hall
      · intro c hc
        obtain ⟨i, hi⟩ := List.mem_iff_getElem?.1 hc
        rcases hall i c hi with hmem | ⟨rfl, -⟩
        · exact hmem
        · exact absurd hc hno
    have hhex := (spelled_of_digits hdigits).1 hspelled
    match signs, htwo with
    | 0, _ => exact ⟨[], digits, rfl, .inl rfl, hdigits, hhex⟩
    | 1, _ => exact ⟨['#'], digits, rfl, .inr rfl, hdigits, hhex⟩
    | n + 2, htwo => exact absurd ⟨List.replicate n '#' ++ digits, rfl⟩ htwo

end Proper

/-- Trimmed of white space, a text is read as a colour exactly if it is accepted, and the colour is
written with the digits that stand in it; otherwise the fault holds the text as it was. The proper
texts are those that are accepted without a second number sign and without a plus sign. -/
theorem colors_read_as_written (s : String) :
    let text := trim s.toList
    (∀ c, read s = .ok c ↔ ∃ hex, Accepted text hex ∧ c.toHex = .ofList ('#' :: hex)) ∧
      ((∃ c, read s = .ok c) ∨ read s = .error (.color s)) ∧
      ∀ hex, Proper text hex ↔ Accepted text hex ∧ ¬['#', '#'] <+: text ∧ '+' ∉ text := by
  intro text
  refine ⟨fun c => read_eq_ok_iff, ?_, fun hex => proper_iff⟩
  by_cases h : ∃ c, read s = .ok c
  · exact .inl h
  · exact .inr (read_eq_error fun c hc => h ⟨c, hc⟩)

/-- Plus signs and a second number sign are read, though no proper text has them. -/
theorem improper_colors_read :
    (read "+1+2+3" = .ok ⟨1, 2, 3⟩ ∧ ¬∃ hex, Proper (trim "+1+2+3".toList) hex) ∧
      read "##fff" = .ok ⟨255, 255, 255⟩ ∧ ¬∃ hex, Proper (trim "##fff".toList) hex := by
  refine ⟨⟨by decide, ?_⟩, by decide, ?_⟩
  · rintro ⟨hex, h⟩
    exact (proper_iff.1 h).2.2 (by decide)
  · rintro ⟨hex, h⟩
    exact (proper_iff.1 h).2.1 (by decide)

end SlideDeck.Color
