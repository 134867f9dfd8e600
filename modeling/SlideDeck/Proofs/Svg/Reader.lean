import Mathlib.Data.List.Nodup
import SlideDeck.Proofs.Svg.Escape
import SlideDeck.Svg.Reader

/-! Markup that was written is read back as the elements that it was written from, but for empty
texts, which leave no trace. No text that stands in an attribute or in an element can change what
is read around it. -/

namespace SlideDeck.Svg

namespace Place

variable {p q r : Place} {a b : List Char} {ts us : List Token}

/-- Characters take a reader from one place to another, and complete these tokens. -/
def Reads (p : Place) (a : List Char) (ts : List Token) (q : Place) : Prop :=
  ∀ rest, p.tokens? (a ++ rest) = (q.tokens? rest).map (ts ++ ·)

theorem tokens?_cons (p : Place) (c : Char) (cs : List Char) :
    p.tokens? (c :: cs) = (p.next c).bind fun (ts, q) => (q.tokens? cs).map (ts ++ ·) := by
  rw [tokens?]
  cases p.next c with
  | none => rfl
  | some step =>
    obtain ⟨ts, q⟩ := step
    cases hrest : q.tokens? cs <;> simp [hrest]

theorem Reads.nil (p : Place) : p.Reads [] [] p := fun rest => by simp

theorem Reads.append (h : p.Reads a ts q) (h' : q.Reads b us r) : p.Reads (a ++ b) (ts ++ us) r := by
  intro rest
  rw [List.append_assoc, h, h', Option.map_map]
  congr 1
  funext vs
  exact (List.append_assoc ts us vs).symm

theorem Reads.char {c : Char} (h : p.next c = some (ts, q)) : p.Reads [c] ts q := by
  intro rest
  rw [List.singleton_append, tokens?_cons, h, Option.bind_some]

theorem Reads.cons {c : Char} (h : p.next c = some ([], q)) (h' : q.Reads a ts r) :
    p.Reads (c :: a) ts r := (Reads.char h).append h'

theorem Reads.collect (f : List Char → Place) {cs : List Char}
    (h : ∀ raw, ∀ c ∈ cs, (f raw).next c = some ([], f (c :: raw))) (raw : List Char) :
    (f raw).Reads cs [] (f (cs.reverse ++ raw)) := by
  induction cs generalizing raw with
  | nil => exact .nil _
  | cons c cs ih =>
    have hrest := ih (fun raw x hx => h raw x (List.mem_cons_of_mem c hx)) (c :: raw)
    rw [List.reverse_cons, List.append_assoc, List.singleton_append]
    exact .cons (h raw c List.mem_cons_self) hrest

section Names

variable {s : String} {c : Char}

theorem isNameChar_of_isName (h : isName s.toList = true) : ∀ c ∈ s.toList, isNameChar c = true := by
  cases hs : s.toList with
  | nil => simp
  | cons c cs =>
    rw [hs] at h
    obtain ⟨hc, hcs⟩ := Bool.and_eq_true_iff.1 h
    intro x hx
    rcases List.mem_cons.1 hx with rfl | hx
    · simp [isNameChar, hc]
    · exact List.all_eq_true.1 hcs x hx

theorem name?_reverse (h : isName s.toList = true) : name? s.toList.reverse = some s := by
  rw [name?, List.reverse_reverse, if_pos h, String.ofList_toList]

theorem ne_of_isNameChar {x : Char} (hc : isNameChar c = true) (hx : isNameChar x = false) :
    c ≠ x := by
  rintro rfl
  rw [hc] at hx
  cases hx

theorem next_opening (hc : isNameChar c = true) (name : List Char) :
    (opening name).next c = some ([], .opening (c :: name)) := by
  have hblank : c ≠ ' ' := ne_of_isNameChar hc (by decide)
  have hslash : c ≠ '/' := ne_of_isNameChar hc (by decide)
  have hclose : c ≠ '>' := ne_of_isNameChar hc (by decide)
  simp [next, hblank, hslash, hclose]

theorem next_closing (hc : isNameChar c = true) (name : List Char) :
    (closing name).next c = some ([], .closing (c :: name)) :=
  if_neg (ne_of_isNameChar hc (by decide))

theorem next_attributeName (hc : isNameChar c = true) (tag : Tag) (name : List Char) :
    (attributeName tag name).next c = some ([], .attributeName tag (c :: name)) :=
  if_neg (ne_of_isNameChar hc (by decide))

end Names

section Tags

def IsBehind (p : Place) (tag : Tag) : Prop :=
  ∀ c, c = ' ' ∨ c = '/' ∨ c = '>' → p.next c = afterTag tag c

theorem reads_tagName {s : String} (h : isName s.toList = true) :
    ∃ q : Place, opened.Reads s.toList [] q ∧ q.IsBehind ⟨s, []⟩ := by
  have hchars := isNameChar_of_isName h
  refine ⟨.opening s.toList.reverse, ?_, fun c hc => ?_⟩
  · cases hs : s.toList with
    | nil => simp [hs, isName] at h
    | cons c cs =>
      rw [hs] at hchars
      have hslash : c ≠ '/' := ne_of_isNameChar (hchars c List.mem_cons_self) (by decide)
      have hstart : opened.next c = some ([], .opening [c]) := by simp [next, hslash]
      have hrest : (opening [c]).Reads cs [] (.opening (cs.reverse ++ [c])) :=
        .collect .opening (fun raw x hx => next_opening (hchars x (List.mem_cons_of_mem c hx)) raw) [c]
      rw [List.reverse_cons]
      exact .cons hstart hrest
  · have hends : (c = ' ' || c = '/' || c = '>') = true := by simpa [or_assoc] using hc
    simp only [next, hends, if_true, name?_reverse h, Option.bind_some]

theorem reads_value (tag : Tag) (name value : String)
    (hnew : name ∉ tag.attributes.map Prod.fst) :
    (quote tag name).Reads ('"' :: (escape value.toList ++ ['"'])) []
      (.behind ⟨tag.name, (name, value) :: tag.attributes⟩) := by
  have hquote : '"' ∉ escape value.toList := not_mem_escape (by decide) (by decide) _
  have hopen : '<' ∉ escape value.toList := not_mem_escape (by decide) (by decide) _
  have hvalue : (Place.value tag name []).Reads (escape value.toList) []
      (.value tag name (escape value.toList).reverse) := by
    have hnext (raw : List Char) : ∀ c ∈ escape value.toList,
        (Place.value tag name raw).next c = some ([], .value tag name (c :: raw)) := by
      intro c hc
      have hc' : c ≠ '"' := fun h => hquote (h ▸ hc)
      have hc'' : c ≠ '<' := fun h => hopen (h ▸ hc)
      simp [next, hc', hc'']
    simpa using Reads.collect (.value tag name) hnext []
  have hfresh : addAttribute tag name value =
      some ⟨tag.name, (name, value) :: tag.attributes⟩ := by
    refine if_neg ?_
    simpa using hnew
  have hend : (Place.value tag name (escape value.toList).reverse).next '"' =
      some ([], .behind ⟨tag.name, (name, value) :: tag.attributes⟩) := by
    simp [next, unescape?_escape, hfresh]
  exact .cons rfl (hvalue.append (.char hend))

theorem reads_attribute {p : Place} {tag : Tag} (hp : p.IsBehind tag) {a : String × String}
    (hname : isName a.1.toList = true) (hnew : a.1 ∉ tag.attributes.map Prod.fst) :
    p.Reads (Element.attributeText a) [] (.behind ⟨tag.name, a :: tag.attributes⟩) := by
  have hblank : p.next ' ' = some ([], .attributeName tag []) := hp ' ' (.inl rfl)
  have hchars : (attributeName tag []).Reads a.1.toList [] (.attributeName tag a.1.toList.reverse) := by
    have hcollect := Reads.collect (.attributeName tag)
      (fun raw c hc => next_attributeName (isNameChar_of_isName hname c hc) tag raw) []
    simpa using hcollect
  have hequals : (attributeName tag a.1.toList.reverse).next '=' = some ([], .quote tag a.1) := by
    simp [next, name?_reverse hname]
  exact .cons hblank (hchars.append (.cons hequals (reads_value tag a.1 a.2 hnew)))

theorem reads_attributes {p : Place} {tag : Tag} (hp : p.IsBehind tag)
    {attributes : List (String × String)}
    (hnames : ∀ a ∈ attributes, isName a.1.toList = true)
    (hdistinct : ((attributes.reverse ++ tag.attributes).map Prod.fst).Nodup) :
    ∃ q : Place, p.Reads (attributes.flatMap Element.attributeText) [] q ∧
      q.IsBehind ⟨tag.name, attributes.reverse ++ tag.attributes⟩ := by
  induction attributes generalizing p tag with
  | nil => exact ⟨p, .nil p, hp⟩
  | cons a attributes ih =>
    -- What has been read is last one first, so the attribute in front ends up behind.
    have hsplit : (a :: attributes).reverse ++ tag.attributes =
        attributes.reverse ++ a :: tag.attributes := by simp
    rw [hsplit] at hdistinct ⊢
    have hnew : a.1 ∉ tag.attributes.map Prod.fst := by
      rw [List.map_append, List.map_cons] at hdistinct
      exact (List.nodup_cons.1 (List.nodup_append.1 hdistinct).2.1).1
    have hfirst := reads_attribute hp (hnames a List.mem_cons_self) hnew
    obtain ⟨q, hrest, hq⟩ := ih (p := .behind ⟨tag.name, a :: tag.attributes⟩) (fun _ _ => rfl)
      (fun b hb => hnames b (List.mem_cons_of_mem a hb)) hdistinct
    exact ⟨q, by simpa using hfirst.append hrest, hq⟩

def ValidNames (tag : String) (names : List String) : Prop :=
  isName tag.toList = true ∧ (∀ name ∈ names, isName name.toList = true) ∧ names.Nodup

instance (tag : String) (names : List String) : Decidable (ValidNames tag names) :=
  inferInstanceAs (Decidable (_ ∧ _ ∧ _))

variable {tag : String} {attributes : List (String × String)} {raw : List Char} {ts : List Token}

theorem reads_openTag (h : ValidNames tag (attributes.map Prod.fst)) (hraw : texts? raw = some ts) :
    ∃ q : Place, (text raw).Reads (Element.openTag tag attributes) ts q ∧
      q.IsBehind ⟨tag, attributes.reverse⟩ := by
  obtain ⟨htag, hnames, hdistinct⟩ := h
  obtain ⟨p, hname, hp⟩ := reads_tagName htag
  have hvalid : ∀ a ∈ attributes, isName a.1.toList = true :=
    fun a ha => hnames a.1 (List.mem_map_of_mem ha)
  have hfresh : ((attributes.reverse ++ []).map Prod.fst).Nodup := by
    rw [List.append_nil, List.map_reverse]
    exact List.nodup_reverse.2 hdistinct
  obtain ⟨q, hattributes, hq⟩ := reads_attributes hp hvalid hfresh
  have hopen : (text raw).next '<' = some (ts, .opened) := by simp [next, hraw]
  refine ⟨q, ?_, by simpa using hq⟩
  simpa [Element.openTag] using (Reads.char hopen).append (hname.append hattributes)

theorem reads_opening (h : ValidNames tag (attributes.map Prod.fst)) (hraw : texts? raw = some ts) :
    (text raw).Reads (Element.openTag tag attributes ++ ['>']) (ts ++ [.opening tag attributes])
      (.text []) := by
  obtain ⟨q, hopen, hq⟩ := reads_openTag h hraw
  have hend : q.next '>' = some ([.opening tag attributes], .text []) := by
    simpa [afterTag] using hq '>' (.inr (.inr rfl))
  exact hopen.append (.char hend)

theorem reads_empty (h : ValidNames tag (attributes.map Prod.fst)) (hraw : texts? raw = some ts) :
    (text raw).Reads (Element.openTag tag attributes ++ ['/', '>']) (ts ++ [.empty tag attributes])
      (.text []) := by
  obtain ⟨q, hopen, hq⟩ := reads_openTag h hraw
  have hslash : q.next '/' = some ([], .slash ⟨tag, attributes.reverse⟩) := by
    simpa [afterTag] using hq '/' (.inr (.inl rfl))
  have hend : (slash ⟨tag, attributes.reverse⟩).next '>' =
      some ([.empty tag attributes], .text []) := by simp [next]
  exact hopen.append (.cons hslash (.char hend))

theorem reads_closing (h : isName tag.toList = true) (hraw : texts? raw = some ts) :
    (text raw).Reads ('<' :: '/' :: (tag.toList ++ ['>'])) (ts ++ [.closing tag]) (.text []) := by
  have hopen : (text raw).next '<' = some (ts, .opened) := by simp [next, hraw]
  have hslash : opened.next '/' = some ([], .closing []) := rfl
  have hname : (closing []).Reads tag.toList [] (.closing tag.toList.reverse) := by
    simpa using Reads.collect .closing
      (fun raw c hc => next_closing (isNameChar_of_isName h c hc) raw) []
  have hend : (closing tag.toList.reverse).next '>' = some ([.closing tag], .text []) := by
    simp [next, name?_reverse h]
  exact (Reads.char hopen).append (.cons hslash (hname.append (.char hend)))

end Tags

theorem reads_text (cs : List Char) : (text []).Reads (escape cs) [] (.text (escape cs).reverse) := by
  have hopen : '<' ∉ escape cs := not_mem_escape (by decide) (by decide) _
  have hclose : '>' ∉ escape cs := not_mem_escape (by decide) (by decide) _
  have hnext (raw : List Char) : ∀ c ∈ escape cs, (text raw).next c = some ([], .text (c :: raw)) := by
    intro c hc
    have hc' : c ≠ '<' := fun h => hopen (h ▸ hc)
    have hc'' : c ≠ '>' := fun h => hclose (h ▸ hc)
    simp [next, hc', hc'']
  simpa using Reads.collect .text hnext []

end Place

namespace Element

mutual

def tokens : Element → List Token
  | .leaf tag attributes => [.empty tag attributes]
  | .node tag attributes children => .opening tag attributes :: (tokensOfAll children ++ [.closing tag])
  | .text s => if s.isEmpty then [] else [.text s]

def tokensOfAll : List Element → List Token
  | [] => []
  | e :: es => tokens e ++ tokensOfAll es

end

mutual

def tidied : Element → List Element
  | .leaf tag attributes => [.leaf tag attributes]
  | .node tag attributes children => [.node tag attributes (tidiedAll children)]
  | .text s => if s.isEmpty then [] else [.text s]

def tidiedAll : List Element → List Element
  | [] => []
  | e :: es => tidied e ++ tidiedAll es

end

inductive Readable : Element → Prop
  | leaf {tag : String} {attributes : List (String × String)}
    (names : Place.ValidNames tag (attributes.map Prod.fst)) : Readable (.leaf tag attributes)
  | words {tag : String} {attributes : List (String × String)}
    (names : Place.ValidNames tag (attributes.map Prod.fst)) (s : String) :
    Readable (.node tag attributes [.text s])
  | node {tag : String} {attributes : List (String × String)} {children : List Element}
    (names : Place.ValidNames tag (attributes.map Prod.fst))
    (inside : ∀ e ∈ children, Readable e) : Readable (.node tag attributes children)

theorem texts?_escape (s : String) :
    Place.texts? (escape s.toList).reverse = some (Element.text s).tokens := by
  have hempty : s.toList.isEmpty = s.isEmpty := by
    rw [Bool.eq_iff_iff, List.isEmpty_iff, String.isEmpty_iff, String.toList_eq_nil_iff]
  rw [Place.texts?, List.reverse_reverse, unescape?_escape, Option.map_some, String.ofList_toList,
    hempty, tokens]

theorem reads_charsOfAll {es : List Element}
    (h : ∀ e ∈ es, (Place.text []).Reads e.chars e.tokens (.text [])) :
    (Place.text []).Reads (charsOfAll es) (tokensOfAll es) (.text []) := by
  induction es with
  | nil => exact .nil _
  | cons e es ih =>
    have hrest := ih fun x hx => h x (List.mem_cons_of_mem e hx)
    exact (h e List.mem_cons_self).append hrest

theorem Readable.reads {e : Element} (h : e.Readable) :
    (Place.text []).Reads e.chars e.tokens (.text []) := by
  -- A text alone is not read to its end: its token is complete where the next tag begins.
  have hraw : Place.texts? [] = some [] := rfl
  induction h with
  | leaf names => exact Place.reads_empty names hraw
  | words names s =>
    have hopen := Place.reads_opening names hraw
    have hclose := Place.reads_closing names.1 (texts?_escape s)
    have hall := hopen.append ((Place.reads_text s.toList).append hclose)
    simpa [chars, charsOfAll, tokens, tokensOfAll] using hall
  | node names inside ih =>
    have hopen := Place.reads_opening names hraw
    have hclose := Place.reads_closing names.1 hraw
    have hall := hopen.append ((reads_charsOfAll ih).append hclose)
    simpa [chars, tokens] using hall

mutual

theorem nest_tokens (e : Element) (read : List Element) (frames : List Frame) (ts : List Token) :
    nest read frames (e.tokens ++ ts) = nest (e.tidied.reverse ++ read) frames ts := by
  cases e with
  | leaf tag attributes => rfl
  | node tag attributes children =>
    rw [tokens, List.cons_append, nest, List.append_assoc, nest_tokensOfAll children]
    simp [nest, tidied]
  | text s =>
    unfold tokens tidied
    split <;> rfl

theorem nest_tokensOfAll (es read : List Element) (frames : List Frame) (ts : List Token) :
    nest read frames (tokensOfAll es ++ ts) = nest ((tidiedAll es).reverse ++ read) frames ts := by
  cases es with
  | nil => rfl
  | cons e es =>
    rw [tokensOfAll, List.append_assoc, nest_tokens e, nest_tokensOfAll es, tidiedAll,
      List.reverse_append, List.append_assoc]

end

theorem read?_render {tag : String} {attributes : List (String × String)} {children : List Element}
    (h : (node tag attributes children).Readable) :
    read? (node tag attributes children).render = some (.node tag attributes (tidiedAll children)) := by
  have htokens := h.reads []
  have hnest := nest_tokens (.node tag attributes children) [] [] []
  have hend : (Place.text []).tokens? [] = some [] := rfl
  rw [List.append_nil, hend, Option.map_some, List.append_nil] at htokens
  rw [List.append_nil] at hnest
  rw [read?, render, String.toList_ofList, htokens]
  simp [hnest, tidied, nest]

end Element

end SlideDeck.Svg
