import Mathlib.Tactic.SplitIfs
import SlideDeck.Json.Printer
import SlideDeck.Json5.Reading
import SlideDeck.Json5.Syntax

/-! JSON strings read as JSON5. They differ in two characters: the separators of lines and of
paragraphs may stand in a JSON string, and JSON5 takes them for the end of a line here. A string
without them stands for the same text in both. -/

namespace SlideDeck.Json5

def isSeparator (c : Char) : Bool := c = '\u2028' || c = '\u2029'

theorem number?_control : ∀ n < 32, isHexDigit (Json.hexDigit (n / 16)) = true ∧
    isHexDigit (Json.hexDigit n) = true ∧
    Text.number? 16 0x100000000 ['0', '0', Json.hexDigit (n / 16), Json.hexDigit n] = some n := by
  decide

theorem isLineEnd_of_not_isSeparator {c : Char} (h : isSeparator c = false) (hn : c ≠ '\n')
    (hr : c ≠ '\r') : isLineEnd c = false := by
  simp only [isSeparator, Bool.or_eq_false_iff, decide_eq_false_iff_not] at h
  simp [isLineEnd, hn, hr, h]

theorem charsOf_unit {digits : List Char} {n : Nat} (hn : hexNumber digits = .ok n)
    (hsmall : n < 0xD800) (ps : List Part) :
    charsOf (.unit digits :: ps) = (Char.ofNat n :: ·) <$> charsOf ps := by
  have htrail : isTrail n = false := by simp [isTrail]; omega
  have hlead : isLead n = false := by simp [isLead]; omega
  rw [charsOf, hn]
  change (if isTrail n = true then _ else if isLead n = true then _ else _) = _
  rw [htrail, hlead]
  rfl

theorem exists_part {c : Char} (h : isSeparator c = false) :
    ∃ p, (∀ cs, stringParts '"' (Json.escapeChar c ++ cs) = before p (stringParts '"' cs)) ∧
      ∀ ps, charsOf (p :: ps) = (c :: ·) <$> charsOf ps := by
  unfold Json.escapeChar
  split_ifs with h1 h2 h3 h4 h5 h6 h7 h8
  · exact ⟨.escape '"', fun _ => rfl, fun _ => by rw [h1]; rfl⟩
  · exact ⟨.escape '\\', fun _ => rfl, fun _ => by rw [h2]; rfl⟩
  · exact ⟨.escape 'n', fun _ => rfl, fun _ => by rw [h3]; rfl⟩
  · exact ⟨.escape 'r', fun _ => rfl, fun _ => by rw [h4]; rfl⟩
  · exact ⟨.escape 't', fun _ => rfl, fun _ => by rw [h5]; rfl⟩
  · exact ⟨.escape 'b', fun _ => rfl, fun _ => by rw [h6]; rfl⟩
  · exact ⟨.escape 'f', fun _ => rfl, fun _ => by rw [h7]; rfl⟩
  · obtain ⟨ha, hb, hnumber⟩ := number?_control c.toNat h8
    refine ⟨.unit ['0', '0', Json.hexDigit (c.toNat / 16), Json.hexDigit c.toNat], fun cs => ?_,
      fun ps => ?_⟩
    · have hzero : isHexDigit '0' = true := by decide
      simp [stringParts, hzero, ha, hb]
    · have hdigits : hexNumber ['0', '0', Json.hexDigit (c.toNat / 16), Json.hexDigit c.toNat] =
          .ok c.toNat := by rw [hexNumber, hnumber]
      rw [charsOf_unit hdigits (by omega), Char.ofNat_toNat]
  · have hline := isLineEnd_of_not_isSeparator h h3 h4
    exact ⟨.plain c, fun cs => by simp [stringParts, h1, h2, hline], fun ps => rfl⟩

theorem stringParts_of_isSeparator {c : Char} (h : isSeparator c = true) (cs : List Char) :
    stringParts '"' (Json.escapeChar c ++ cs) = none := by
  simp only [isSeparator, Bool.or_eq_true, decide_eq_true_eq] at h
  rcases h with rfl | rfl <;> rfl

theorem exists_stringParts {cs : List Char} (h : cs.any isSeparator = false) (rest : List Char) :
    ∃ ps, stringParts '"' (cs.flatMap Json.escapeChar ++ '"' :: rest) = some (ps, rest) ∧
      charsOf ps = .ok cs := by
  induction cs with
  | nil => exact ⟨[], rfl, rfl⟩
  | cons c cs ih =>
    obtain ⟨hc, hcs⟩ := Bool.or_eq_false_iff.1 h
    obtain ⟨p, hread, hp⟩ := exists_part hc
    obtain ⟨ps, hparts, hchars⟩ := ih hcs
    refine ⟨p :: ps, ?_, ?_⟩
    · rw [List.flatMap_cons, List.append_assoc, hread, hparts]
      rfl
    · rw [hp, hchars]
      rfl

theorem stringParts_eq_none {cs : List Char} (h : cs.any isSeparator = true) (rest : List Char) :
    stringParts '"' (cs.flatMap Json.escapeChar ++ rest) = none := by
  induction cs with
  | nil => cases h
  | cons c cs ih =>
    rw [List.flatMap_cons, List.append_assoc]
    cases hc : isSeparator c with
    | true => exact stringParts_of_isSeparator hc _
    | false =>
      obtain ⟨p, hread, -⟩ := exists_part hc
      rw [List.any_cons, hc, Bool.false_or] at h
      rw [hread, ih h]
      rfl

theorem quoted_append (s : String) (rest : List Char) :
    Json.quoted s ++ rest = '"' :: (s.toList.flatMap Json.escapeChar ++ '"' :: rest) := by
  simp [Json.quoted]

theorem skip_quoted (s : String) (rest : List Char) :
    skip (Json.quoted s ++ rest) = some (Json.quoted s ++ rest) := rfl

theorem skip_colon (cs : List Char) : skip (':' :: cs) = some (':' :: cs) := rfl

theorem skip_space (cs : List Char) : skip (' ' :: cs) = skip cs := rfl

theorem value_quote (fuel : Nat) (cs : List Char) :
    value (fuel + 1) ('"' :: cs) = (stringParts '"' cs).map fun r => (.text r.1, r.2) := rfl

theorem key_quoted {s : String} (h : s.toList.any isSeparator = false) (rest : List Char) :
    ∃ ps, key (Json.quoted s ++ rest) = some (ps, rest) ∧ textOf ps = .ok s := by
  obtain ⟨ps, hparts, hchars⟩ := exists_stringParts h rest
  refine ⟨ps, ?_, ?_⟩
  · rw [quoted_append, ← hparts]
    rfl
  · rw [textOf, hchars]
    exact congrArg Except.ok String.ofList_toList

theorem value_quoted {s : String} (h : s.toList.any isSeparator = false) (rest : List Char) :
    ∃ ps, (∀ fuel, value (fuel + 1) (Json.quoted s ++ rest) = some (.text ps, rest)) ∧
      textOf ps = .ok s := by
  obtain ⟨ps, hparts, hchars⟩ := exists_stringParts h rest
  refine ⟨ps, fun fuel => ?_, ?_⟩
  · rw [quoted_append, value_quote, hparts]
    rfl
  · rw [textOf, hchars]
    exact congrArg Except.ok String.ofList_toList

theorem value_quoted_eq_none {s : String} (h : s.toList.any isSeparator = true) (fuel : Nat)
    (rest : List Char) : value (fuel + 1) (Json.quoted s ++ rest) = none := by
  rw [quoted_append, value_quote, stringParts_eq_none h]
  rfl

section Record

def recordOfText (name text : String) : String :=
  .ofList ('\x7b' :: (Json.quoted name ++ ':' :: ' ' :: (Json.quoted text ++ ['\x7d'])))

variable {name text : String}

theorem members_single (hname : name.toList.any isSeparator = false)
    (htext : text.toList.any isSeparator = false) :
    ∃ k ps, textOf k = .ok name ∧ textOf ps = .ok text ∧ ∀ fuel,
      members (fuel + 2) (Json.quoted name ++ ':' :: ' ' :: (Json.quoted text ++ ['\x7d'])) =
        some ([(k, .text ps)], []) := by
  obtain ⟨ps, hvalue, hps⟩ := value_quoted htext ['\x7d']
  obtain ⟨k, hkey, hk⟩ := key_quoted hname (':' :: ' ' :: (Json.quoted text ++ ['\x7d']))
  have hend : skip ['\x7d'] = some ['\x7d'] := rfl
  refine ⟨k, ps, hk, hps, fun fuel => ?_⟩
  rw [quoted_append] at hkey ⊢
  rw [members, hkey]
  · simp [skip_colon, skip_space, skip_quoted, hvalue, hend]
  · simp

theorem members_eq_none (hname : name.toList.any isSeparator = false)
    (htext : text.toList.any isSeparator = true) (fuel : Nat) :
    members (fuel + 2) (Json.quoted name ++ ':' :: ' ' :: (Json.quoted text ++ ['\x7d'])) = none := by
  obtain ⟨k, hkey, -⟩ := key_quoted hname (':' :: ' ' :: (Json.quoted text ++ ['\x7d']))
  rw [quoted_append] at hkey ⊢
  rw [members, hkey]
  · simp [skip_colon, skip_space, skip_quoted, value_quoted_eq_none htext]
  · simp

theorem parse?_record {body : List Char} (h : skip body = some body) :
    ∃ fuel, parse? (.ofList ('\x7b' :: body)) =
      (members (fuel + 2) body).bind fun r =>
        (skip r.2).bind fun rest => if rest.isEmpty then some (.record r.1) else none := by
  have hstart : skip ('\x7b' :: body) = some ('\x7b' :: body) := rfl
  have hfuel : 2 * ('\x7b' :: body).length + 2 = 2 * body.length + 1 + 2 + 1 := by
    simp only [List.length_cons]
    omega
  refine ⟨2 * body.length + 1, ?_⟩
  rw [parse?, String.toList_ofList, hstart, hfuel]
  cases hmembers : members (2 * body.length + 1 + 2) body with
  | none => simp [value, h, hmembers]
  | some r =>
    simp only [value, h, hmembers, Option.bind_eq_bind, Option.bind_some]
    congr 1
    funext rest
    cases rest <;> rfl

theorem parse?_recordOfText (hname : name.toList.any isSeparator = false)
    (htext : text.toList.any isSeparator = false) :
    ∃ k ps, parse? (recordOfText name text) = some (.record [(k, .text ps)]) ∧
      textOf k = .ok name ∧ textOf ps = .ok text := by
  obtain ⟨k, ps, hk, hps, hmembers⟩ := members_single hname htext
  obtain ⟨fuel, hparse⟩ := parse?_record (skip_quoted name _)
  refine ⟨k, ps, ?_, hk, hps⟩
  rw [recordOfText, hparse, hmembers]
  rfl

theorem parse?_recordOfText_eq_none (hname : name.toList.any isSeparator = false)
    (htext : text.toList.any isSeparator = true) : parse? (recordOfText name text) = none := by
  obtain ⟨fuel, hparse⟩ := parse?_record (skip_quoted name _)
  rw [recordOfText, hparse, members_eq_none hname htext]
  rfl

end Record

end SlideDeck.Json5
