import SlideDeck.Proofs.Markup.Heading
import SlideDeck.Proofs.Markup.Margins
import SlideDeck.Proofs.Text.Stretches

/-! A slide as the reading of its lines: stretches of pipe lines are tables, and every other line
stands for itself. The first heading is the title, and all else is a block in the order of the
lines. -/

namespace SlideDeck.Markup

open Text (isBlank lines trimmed)

def isPipe (line : String) : Bool := line.toList.head? == some '|'

def stretches (ls : List String) : List (List String) := ls.splitBy fun a b => isPipe a && isPipe b

def firstHeading? (ls : List String) : Option String :=
  (ls.findSome? Heading.read?).map Heading.text

def hasHeading (stretch : List String) : Bool := stretch.any fun l => (Heading.read? l).isSome

/-- The block that a stretch of lines is. A blank line is none. -/
def blockOf? : List String → Option Block
  | [] => none
  | l :: ls =>
    if isPipe l then some (table (l :: ls))
    else if l = "" then none
    else
      match Heading.read? l with
      | some h => some (.heading h.level (runs h.text))
      | none =>
        let bullet := ['-', ' '].isPrefixOf l.toList
        some (.text (runs (if bullet then .ofList (l.toList.drop 2) else l)) bullet)

/-- The stretches below the title: the first heading is left out if there is no title yet. -/
def belowTitle (title : Option String) (gs : List (List String)) : List (List String) :=
  if title.isSome then gs else gs.eraseP hasHeading

/-- The slide that lines without white space at their ends describe. -/
def reading (ls : List String) : Slide where
  title := firstHeading? ls
  blocks := (belowTitle none (stretches ls)).filterMap blockOf?

section Stretches

theorem stretches_append_cons (ps : List String) {l : String} (hl : isPipe l = false)
    (ls : List String) : stretches (ps ++ l :: ls) = stretches ps ++ [l] :: stretches ls :=
  Text.stretchesBy_append_cons ps hl ls

theorem stretches_of_pipes {ps : List String} (hne : ps ≠ []) (h : ∀ p ∈ ps, isPipe p = true) :
    stretches ps = [ps] := Text.stretchesBy_of_forall hne h

theorem pipes_or_single {ls g : List String} (hg : g ∈ stretches ls) :
    (g ≠ [] ∧ ∀ l ∈ g, isPipe l = true) ∨ ∃ l, g = [l] ∧ isPipe l = false :=
  Text.forall_or_single hg

theorem isChain_stretches (ls : List String) :
    (stretches ls).IsChain fun g g' => ¬((∀ l ∈ g, isPipe l = true) ∧ ∀ l ∈ g', isPipe l = true) :=
  Text.isChain_stretchesBy isPipe ls

end Stretches

section Lines

theorem Heading.read?_of_isPipe {l : String} (h : isPipe l = true) : read? l = none := by
  obtain ⟨rest, hl⟩ : ∃ rest, l.toList = '|' :: rest := by
    rw [isPipe, beq_iff_eq, List.head?_eq_some_iff] at h
    exact h
  simp [read?, hl]

theorem hasHeading_of_pipes {ps : List String} (h : ∀ p ∈ ps, isPipe p = true) :
    hasHeading ps = false := by
  refine List.any_eq_false.2 fun p hp => ?_
  simp [Heading.read?_of_isPipe (h p hp)]

theorem textBlock_eq (l : String) : textBlock l =
    .text (runs (if ['-', ' '].isPrefixOf l.toList then .ofList (l.toList.drop 2) else l))
      (['-', ' '].isPrefixOf l.toList) := by
  unfold textBlock
  split
  next rest hl => simp [hl]
  next hl =>
    have hnot : ['-', ' '].isPrefixOf l.toList = false := by
      rw [Bool.eq_false_iff, Ne, List.isPrefixOf_iff_prefix]
      rintro ⟨rest, hrest⟩
      exact hl rest hrest.symm
    simp [hnot]

theorem blockOf?_of_pipes {ps : List String} (hne : ps ≠ []) (h : ∀ p ∈ ps, isPipe p = true) :
    blockOf? ps = some (table ps) := by
  obtain ⟨p, ps, rfl⟩ := List.exists_cons_of_ne_nil hne
  exact if_pos (h p List.mem_cons_self)

end Lines

section Title

theorem belowTitle_append (title : Option String) {gs : List (List String)}
    (h : ∀ g ∈ gs, hasHeading g = false) (rest : List (List String)) :
    belowTitle title (gs ++ rest) = gs ++ belowTitle title rest := by
  unfold belowTitle
  split
  · rfl
  · exact List.eraseP_append_right rest fun g hg => by simp [h g hg]

theorem belowTitle_cons (title : Option String) (l : String) (gs : List (List String)) :
    belowTitle title ([l] :: gs) =
      belowTitle title [[l]] ++ belowTitle (title.or ((Heading.read? l).map Heading.text)) gs := by
  cases title with
  | some t => rfl
  | none => cases h : Heading.read? l <;> simp [belowTitle, hasHeading, h]

theorem firstHeading?_cons (l : String) (ls : List String) :
    firstHeading? (l :: ls) = ((Heading.read? l).map Heading.text).or (firstHeading? ls) := by
  cases h : Heading.read? l <;> simp [firstHeading?, h]

end Title

namespace Draft

variable {d : Draft}

def Piped (d : Draft) : Prop := ∀ l ∈ d.pending.reverse, isPipe l = true

theorem title_flush (d : Draft) : d.flush.title = d.title := by
  unfold flush
  split <;> rfl

theorem pending_flush (d : Draft) : d.flush.pending = [] := by
  unfold flush
  split
  next h => exact List.isEmpty_iff.1 h
  next => rfl

theorem blocks_flush (h : d.Piped) : d.flush.blocks.reverse =
    d.blocks.reverse ++ (stretches d.pending.reverse).filterMap blockOf? := by
  unfold flush
  split
  next hnil =>
    rw [List.isEmpty_iff.1 hnil]
    exact (List.append_nil _).symm
  next hne =>
    have hne' : d.pending.reverse ≠ [] := by simpa using hne
    rw [stretches_of_pipes hne' h, List.filterMap_cons, blockOf?_of_pipes hne' h]
    simp

theorem hasHeading_of_piped (h : d.Piped) :
    ∀ g ∈ stretches d.pending.reverse, hasHeading g = false := by
  intro g hg
  refine hasHeading_of_pipes fun l hl => h l ?_
  rw [← List.flatten_splitBy (fun a b => isPipe a && isPipe b) d.pending.reverse]
  exact List.mem_flatten_of_mem hg hl

end Draft

section Reading

variable {d : Draft} {l : String}

theorem readLine_of_isPipe (hl : isPipe l = true) :
    readLine d l = { d with pending := l :: d.pending } := if_pos (by simpa [isPipe] using hl)

theorem readLine_of_not_isPipe (hl : isPipe l = false) :
    (readLine d l).pending = [] ∧
      (readLine d l).title = d.title.or ((Heading.read? l).map Heading.text) ∧
      (readLine d l).blocks.reverse =
        d.flush.blocks.reverse ++ (belowTitle d.title [[l]]).filterMap blockOf? := by
  have hpipe : ¬l.toList.head? = some '|' := by simpa [isPipe] using hl
  have htitle := d.title_flush
  have hpending := d.pending_flush
  rw [readLine, if_neg hpipe]
  by_cases hblank : l = ""
  · subst hblank
    have hread : Heading.read? "" = none := rfl
    cases ht : d.title <;>
      simp [belowTitle, hasHeading, blockOf?, hread, htitle, hpending, hl, ht]
  have hempty : ¬l.isEmpty = true := by simpa using hblank
  rw [if_neg hempty]
  cases hread : Heading.read? l with
  | none =>
    have hblock : blockOf? [l] = some (textBlock l) := by
      simp [blockOf?, hl, hblank, hread, textBlock_eq]
    cases ht : d.title <;>
      simp [belowTitle, hasHeading, Draft.push, hread, htitle, hpending, hblock, ht]
  | some h =>
    have hblock : blockOf? [l] = some (.heading h.level (runs h.text)) := by
      simp [blockOf?, hl, hblank, hread]
    cases ht : d.title <;>
      simp [belowTitle, hasHeading, Draft.push, hread, htitle, hpending, hblock, ht]

/-- What is read on from a draft: the lines that wait stand in front of those to come. -/
theorem flush_foldl_readLine (h : d.Piped) (ls : List String) :
    (ls.foldl readLine d).flush.title = d.title.or (firstHeading? ls) ∧
      (ls.foldl readLine d).flush.blocks.reverse = d.blocks.reverse ++
        (belowTitle d.title (stretches (d.pending.reverse ++ ls))).filterMap blockOf? := by
  have hdue := Draft.hasHeading_of_piped h
  induction ls generalizing d with
  | nil =>
    have hbelow : belowTitle d.title (stretches d.pending.reverse) = stretches d.pending.reverse := by
      simpa [belowTitle] using belowTitle_append d.title hdue []
    rw [List.foldl_nil, List.append_nil, hbelow]
    exact ⟨by simp [firstHeading?, d.title_flush], Draft.blocks_flush h⟩
  | cons l ls ih =>
    rw [List.foldl_cons]
    cases hl : isPipe l with
    | true =>
      have hpiped : Draft.Piped { d with pending := l :: d.pending } := by
        intro p hp
        rw [List.reverse_cons, List.mem_append, List.mem_singleton] at hp
        rcases hp with hp | rfl
        · exact h p hp
        · exact hl
      have hrest := ih hpiped (Draft.hasHeading_of_piped hpiped)
      rw [readLine_of_isPipe hl, firstHeading?_cons, Heading.read?_of_isPipe hl]
      simpa using hrest
    | false =>
      obtain ⟨hpending, htitle, hblocks⟩ := readLine_of_not_isPipe (d := d) hl
      have hpiped : (readLine d l).Piped := by simp [Draft.Piped, hpending]
      obtain ⟨hresttitle, hrest⟩ := ih hpiped (Draft.hasHeading_of_piped hpiped)
      constructor
      · rw [hresttitle, htitle, firstHeading?_cons, Option.or_assoc]
      · rw [hrest, hblocks, Draft.blocks_flush h, hpending, htitle, stretches_append_cons _ hl,
          belowTitle_append d.title hdue, belowTitle_cons d.title l (stretches ls)]
        simp

end Reading

theorem slide_eq_reading (segment : String) : slide segment = reading (trimmedLines segment) := by
  have hstart : Draft.Piped .start := by simp [Draft.Piped, Draft.start]
  obtain ⟨htitle, hblocks⟩ := flush_foldl_readLine hstart (trimmedLines segment)
  rw [slide_eq, slideOf, htitle, hblocks]
  rfl

/-- A slide is the reading of its lines, each without the white space at its ends. A stretch is a
table with all pipe lines that follow one another, or a single other line; a heading line is made
of number signs, white space and its text. -/
theorem slide_reads_lines (segment : String) :
    slide segment = reading (trimmedLines segment) ∧
      (stretches (trimmedLines segment)).flatten = trimmedLines segment ∧
      (∀ g ∈ stretches (trimmedLines segment),
        (g ≠ [] ∧ ∀ l ∈ g, isPipe l = true) ∨ ∃ l, g = [l] ∧ isPipe l = false) ∧
      (stretches (trimmedLines segment)).IsChain
        (fun g g' => ¬((∀ l ∈ g, isPipe l = true) ∧ ∀ l ∈ g', isPipe l = true)) ∧
      ∀ l ∈ trimmedLines segment, ∀ h, Heading.read? l = some h ↔ IsHeading l h := by
  refine ⟨slide_eq_reading segment, List.flatten_splitBy _ _, fun g => pipes_or_single,
    isChain_stretches _, fun l hl h => Heading.read?_eq_some_iff fun c hc => ?_⟩
  obtain ⟨raw, -, rfl⟩ := List.mem_map.1 hl
  rw [Text.toList_trimmed] at hc
  exact Text.getLast?_trim hc

end SlideDeck.Markup
