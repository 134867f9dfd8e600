import SlideDeck.Proofs.Body.Lines
import SlideDeck.Proofs.Text.Stretches

/-! The bullets of a body. Bullet lines that follow one another form a group, and there is a span
for every group, from its first line to its last. No other line lies in that span. -/

namespace SlideDeck

theorem LineKind.isBullet_iff {kind : LineKind} : kind.isBullet = true ↔ kind = .text true := by
  cases kind <;> simp [isBullet]

def BodyLine.isBullet (l : BodyLine) : Bool := l.kind.isBullet

namespace Body

open Text (joined pickedStretches place stretchesBy units)

def bulletGroups (b : Body) : List (List BodyLine) := pickedStretches BodyLine.isBullet b.lines

def reach? (ls : List BodyLine) : Option Span :=
  ls.head?.bind fun first => ls.getLast?.map fun last => ⟨first.span.start, last.span.stop⟩

section Spans

theorem reach?_eq {g : List BodyLine} {first last : BodyLine} (hfirst : g.head? = some first)
    (hlast : g.getLast? = some last) : reach? g = some ⟨first.span.start, last.span.stop⟩ := by
  simp [reach?, hfirst, hlast]

theorem bulletSpansFrom_of_bullet {l : BodyLine} (hl : l.isBullet = true) (g ls : List BodyLine) :
    bulletSpansFrom (reach? g) (l :: ls) = bulletSpansFrom (reach? (g ++ [l])) ls := by
  have hkind : l.kind.isBullet = true := hl
  cases g with
  | nil => simp [bulletSpansFrom, hkind, reach?]
  | cons first g =>
    have hg : (first :: g).getLast? = some ((first :: g).getLast (List.cons_ne_nil first g)) :=
      List.getLast?_eq_some_getLast _
    have hconcat : (first :: g ++ [l]).getLast? = some l := List.getLast?_concat
    rw [reach?_eq rfl hg, reach?_eq rfl hconcat, bulletSpansFrom, if_pos hkind]

theorem bulletSpansFrom_of_other {l : BodyLine} (hl : l.isBullet = false) (group : Option Span)
    (ls : List BodyLine) :
    bulletSpansFrom group (l :: ls) = group.toList ++ bulletSpansFrom none ls := by
  have hkind : l.kind.isBullet = false := hl
  simp [bulletSpansFrom, hkind]

theorem toList_reach? {g : List BodyLine} (hg : ∀ l ∈ g, l.isBullet = true) :
    (reach? g).toList = (pickedStretches BodyLine.isBullet g).filterMap reach? := by
  cases g with
  | nil => rfl
  | cons first g =>
    rw [Text.pickedStretches_of_forall (List.cons_ne_nil first g) hg]
    cases h : reach? (first :: g) <;> simp [h]

theorem bulletSpansFrom_eq {g : List BodyLine} (hg : ∀ l ∈ g, l.isBullet = true)
    (ls : List BodyLine) :
    bulletSpansFrom (reach? g) ls =
      (pickedStretches BodyLine.isBullet (g ++ ls)).filterMap reach? := by
  -- `g` is the group that is open in front of `ls`.
  induction ls generalizing g with
  | nil =>
    rw [List.append_nil, ← toList_reach? hg]
    rfl
  | cons l ls ih =>
    cases hl : l.isBullet with
    | true =>
      have hopen : ∀ m ∈ g ++ [l], m.isBullet = true := by
        intro m hm
        rcases List.mem_append.1 hm with hm | hm
        · exact hg m hm
        · rwa [List.mem_singleton.1 hm]
      rw [bulletSpansFrom_of_bullet hl, ih hopen, List.append_assoc, List.singleton_append]
    | false =>
      have hrest : bulletSpansFrom none ls = _ := ih (g := []) (by simp)
      rw [bulletSpansFrom_of_other hl, hrest, toList_reach? hg,
        Text.pickedStretches_append_cons g hl ls, List.filterMap_append, List.nil_append]

theorem bulletSpans_eq (b : Body) : b.bulletSpans = b.bulletGroups.filterMap reach? :=
  bulletSpansFrom_eq (fun _ h => absurd h List.not_mem_nil) b.lines

end Spans

section Placed

variable {blocks : List Block}

def Source.isBullet (l : Source) : Bool := l.kind.isBullet

def placedGroups (blocks : List Block) : List (List Source × Span) :=
  place (joined Source.text "\n") "\n" 0 (stretchesBy Source.isBullet (sources blocks))

def placedBullets (blocks : List Block) : List (List Source × Span) :=
  (placedGroups blocks).filter fun (g, _) => g.all Source.isBullet

def linesIn (g : List Source) (span : Span) : List BodyLine :=
  (place Source.text "\n" span.start g).map fun (l, span) =>
    ⟨l.kind, span, rowBold span.start l.cells⟩

theorem mem_stretch_of_placed {g : List Source} {span : Span} (h : (g, span) ∈ placedGroups blocks) :
    g ∈ stretchesBy Source.isBullet (sources blocks) := by
  have hfst := List.mem_map_of_mem (f := Prod.fst) h
  rwa [placedGroups, Text.map_fst_place] at hfst

theorem stop_of_placed {g : List Source} {span : Span} (h : (g, span) ∈ placedGroups blocks) :
    span.stop = span.start + units (joined Source.text "\n" g) := Text.stop_of_mem_place h

theorem bulletGroups_ofBlocks (blocks : List Block) :
    (ofBlocks blocks).bulletGroups = (placedBullets blocks).map fun (g, span) => linesIn g span := by
  have hplaced : pickedStretches (fun q => q.1.isBullet)
      (place Source.text "\n" 0 (sources blocks)) = _ :=
    Text.pickedStretches_place Source.isBullet 0 (sources blocks)
  rw [bulletGroups, lines_ofBlocks, Text.pickedStretches_map]
  change (pickedStretches (fun q : Source × Span => q.1.isBullet) _).map _ = _
  rw [hplaced, List.map_map]
  rfl

theorem start_of_head?_linesIn {g : List Source} {span : Span} {l : BodyLine}
    (hl : (linesIn g span).head? = some l) : l.span.start = span.start := by
  rw [linesIn, List.head?_map] at hl
  obtain ⟨q, hq, rfl⟩ := Option.map_eq_some_iff.1 hl
  exact Text.start_of_head?_place hq

theorem stop_of_getLast?_linesIn {g : List Source} {span : Span}
    (h : (g, span) ∈ placedGroups blocks) {l : BodyLine}
    (hl : (linesIn g span).getLast? = some l) : l.span.stop = span.stop := by
  rw [linesIn, List.getLast?_map] at hl
  obtain ⟨q, hq, rfl⟩ := Option.map_eq_some_iff.1 hl
  exact (Text.stop_of_getLast?_place hq).trans (stop_of_placed h).symm

theorem reach?_linesIn {g : List Source} {span : Span} (h : (g, span) ∈ placedGroups blocks) :
    reach? (linesIn g span) = some span := by
  have hfst : (place Source.text "\n" span.start g).map Prod.fst = g := Text.map_fst_place _ g
  have hne : linesIn g span ≠ [] := by
    intro hnil
    rw [linesIn, List.map_eq_nil_iff] at hnil
    rw [hnil, List.map_nil] at hfst
    exact Text.nil_notMem_stretchesBy _ _ (hfst ▸ mem_stretch_of_placed h)
  have hfirst := List.head?_eq_some_head hne
  have hlast := List.getLast?_eq_some_getLast hne
  rw [reach?_eq hfirst hlast, start_of_head?_linesIn hfirst, stop_of_getLast?_linesIn h hlast]

theorem bulletSpans_ofBlocks (blocks : List Block) :
    (ofBlocks blocks).bulletSpans = (placedBullets blocks).map Prod.snd := by
  rw [bulletSpans_eq, bulletGroups_ofBlocks, List.filterMap_map, ← List.filterMap_eq_map]
  refine List.filterMap_congr fun q hq => ?_
  exact reach?_linesIn (List.mem_filter.1 hq).1

theorem apart_placedGroups (blocks : List Block) :
    (placedGroups blocks).Pairwise fun p q => p.2.stop < q.2.start := by
  have hunit : units "\n" = 1 := by decide
  refine (Text.pairwise_place _ "\n" 0 _).imp fun hpq => ?_
  omega

theorem slice_of_placed {g : List Source} {span : Span} (h : (g, span) ∈ placedGroups blocks) :
    span.slice (ofBlocks blocks).text = some (joined Source.text "\n" g) := by
  have hwhole := Text.slice_of_mem_place_zero h
  have hjoined : "\n".intercalate
      ((stretchesBy Source.isBullet (sources blocks)).map (joined Source.text "\n")) = _ :=
    Text.intercalate_joined (Text.nil_notMem_stretchesBy _ _)
  rw [Text.flatten_stretchesBy] at hjoined
  rwa [hjoined, joined, ← text_ofBlocks] at hwhole

theorem slice_bulletSpan {span : Span} (h : span ∈ (ofBlocks blocks).bulletSpans) :
    (span.slice (ofBlocks blocks).text).isSome = true := by
  rw [bulletSpans_ofBlocks] at h
  obtain ⟨q, hq, rfl⟩ := List.mem_map.1 h
  rw [slice_of_placed (List.mem_filter.1 hq).1, Option.isSome_some]

theorem mem_lines_iff {l : BodyLine} :
    l ∈ (ofBlocks blocks).lines ↔ ∃ g span, (g, span) ∈ placedGroups blocks ∧ l ∈ linesIn g span := by
  have hplaced : place Source.text "\n" 0 (stretchesBy Source.isBullet (sources blocks)).flatten = _ :=
    Text.place_flatten (Text.nil_notMem_stretchesBy _ _) 0
  rw [Text.flatten_stretchesBy] at hplaced
  rw [lines_ofBlocks, hplaced, List.map_flatMap, List.mem_flatMap]
  exact Prod.exists

theorem isBullet_of_mem_linesIn {g : List Source} {span : Span} (h : (g, span) ∈ placedGroups blocks)
    {l : BodyLine} (hl : l ∈ linesIn g span) : g.all Source.isBullet = l.isBullet := by
  obtain ⟨q, hq, rfl⟩ := List.mem_map.1 hl
  have hfst := List.mem_map_of_mem (f := Prod.fst) hq
  rw [Text.map_fst_place] at hfst
  exact Text.all_of_mem_stretch (mem_stretch_of_placed h) hfst

theorem encloses_of_mem_linesIn {g : List Source} {span : Span}
    (h : (g, span) ∈ placedGroups blocks) {l : BodyLine} (hl : l ∈ linesIn g span) :
    span.encloses l.span = true := by
  obtain ⟨q, hq, rfl⟩ := List.mem_map.1 hl
  exact (Text.ordered_place_of_slice (slice_of_placed h)).encloses_of_mem
    (List.mem_map_of_mem (f := Prod.snd) hq)

theorem filter_placedGroups {g : List Source} {span : Span} (h : (g, span) ∈ placedGroups blocks)
    {l : BodyLine} (hl : l ∈ linesIn g span) :
    ((placedGroups blocks).filter fun q => q.2.encloses l.span) = [(g, span)] := by
  have hline : l ∈ (ofBlocks blocks).lines := mem_lines_iff.2 ⟨g, span, h, hl⟩
  have hbounds := (ordered_lines blocks).bounds (List.mem_map_of_mem hline)
  exact Span.filter_encloses (apart_placedGroups blocks) h hbounds.2.1 (encloses_of_mem_linesIn h hl)

theorem mem_linesIn_iff {g : List Source} {span : Span} (h : (g, span) ∈ placedGroups blocks)
    {l : BodyLine} (hl : l ∈ (ofBlocks blocks).lines) :
    span.encloses l.span = true ↔ l ∈ linesIn g span := by
  refine ⟨fun hlies => ?_, encloses_of_mem_linesIn h⟩
  obtain ⟨g', span', h', hl'⟩ := mem_lines_iff.1 hl
  have hown : (g, span) ∈ (placedGroups blocks).filter fun q => q.2.encloses l.span :=
    List.mem_filter.2 ⟨h, hlies⟩
  rw [filter_placedGroups h' hl', List.mem_singleton] at hown
  obtain ⟨rfl, rfl⟩ := Prod.mk.inj hown
  exact hl'

theorem countP_bulletSpans {l : BodyLine} (hl : l ∈ (ofBlocks blocks).lines) :
    (ofBlocks blocks).bulletSpans.countP (·.encloses l.span) = if l.isBullet then 1 else 0 := by
  obtain ⟨g, span, h, hl⟩ := mem_lines_iff.1 hl
  have hswap : ((placedBullets blocks).countP fun q => q.2.encloses l.span) =
      ((placedGroups blocks).filter fun q => q.2.encloses l.span).countP
        fun q => q.1.all Source.isBullet := by
    rw [placedBullets, List.countP_filter, List.countP_filter]
    exact List.countP_congr fun q _ => by rw [Bool.and_comm]
  rw [bulletSpans_ofBlocks, List.countP_map]
  change (placedBullets blocks).countP (fun q => q.2.encloses l.span) = _
  rw [hswap, filter_placedGroups h hl, List.countP_singleton, isBullet_of_mem_linesIn h hl]

theorem map_slice_linesIn {g : List Source} {span : Span} (h : (g, span) ∈ placedGroups blocks) :
    ((linesIn g span).map fun l => l.span.slice (ofBlocks blocks).text) =
      (g.map Source.text).map some := by
  have hfst : (place Source.text "\n" span.start g).map Prod.fst = g := Text.map_fst_place _ g
  rw [linesIn, List.map_map]
  conv_rhs => rw [← hfst, List.map_map, List.map_map]
  refine List.map_congr_left fun q hq => ?_
  exact Text.slice_of_place (slice_of_placed h) hq

end Placed

/-- The span belongs to the group: it reaches from the first line to the last, it names the lines
with the newlines between them, and of the lines of the body only those of the group lie in it. -/
structure SpansGroup (body : Body) (span : Span) (group : List BodyLine) : Prop where
  start_eq : ∀ l ∈ group.head?, l.span.start = span.start
  stop_eq : ∀ l ∈ group.getLast?, l.span.stop = span.stop
  slice_eq : ∃ texts : List String,
    (group.map fun l => l.span.slice body.text) = texts.map some ∧
      span.slice body.text = some ("\n".intercalate texts)
  encloses_iff : ∀ l ∈ body.lines, span.encloses l.span = true ↔ l ∈ group

theorem spansGroup_of_placed {blocks : List Block} {g : List Source} {span : Span}
    (h : (g, span) ∈ placedGroups blocks) :
    (ofBlocks blocks).SpansGroup span (linesIn g span) where
  start_eq _ := start_of_head?_linesIn
  stop_eq _ := stop_of_getLast?_linesIn h
  slice_eq := ⟨g.map Source.text, map_slice_linesIn h, slice_of_placed h⟩
  encloses_iff _ := mem_linesIn_iff h

/-- The bullet lines of a body fall into groups, each of them as long as can be. There is one span
for each group, in order, and it belongs to the group. -/
theorem bullet_spans_group_lines (blocks : List Block) :
    let body := ofBlocks blocks
    body.bulletGroups.flatten = body.lines.filter BodyLine.isBullet ∧
      (∀ group ∈ body.bulletGroups, group ≠ [] ∧ (∀ l ∈ group, l.isBullet = true) ∧
        ∃ before behind, body.lines = before ++ (group ++ behind) ∧
          (∀ l ∈ before.getLast?, l.isBullet = false) ∧ ∀ l ∈ behind.head?, l.isBullet = false) ∧
      List.Forall₂ body.SpansGroup body.bulletSpans body.bulletGroups := by
  intro body
  refine ⟨Text.flatten_pickedStretches _ _, fun group => Text.mem_pickedStretches_iff.1, ?_⟩
  have hspans : body.bulletSpans = (placedBullets blocks).map Prod.snd := bulletSpans_ofBlocks blocks
  have hgroups : body.bulletGroups = _ := bulletGroups_ofBlocks blocks
  rw [hspans, hgroups, List.forall₂_map_left_iff, List.forall₂_map_right_iff, List.forall₂_same]
  exact fun q hq => spansGroup_of_placed (List.mem_filter.1 hq).1

section Lone

/-- The body has a bullet line without text, and the lines next to it are no bullets. -/
def HasLoneBullet (blocks : List Block) : Prop :=
  ∃ before behind, blocks.flatMap shownLines = before ++ (.text true, "") :: behind ∧
    (∀ l ∈ before.getLast?, l.1.isBullet = false) ∧ ∀ l ∈ behind.head?, l.1.isBullet = false

theorem hasLoneBullet_iff {blocks : List Block} :
    HasLoneBullet blocks ↔
      ∃ g ∈ pickedStretches Source.isBullet (sources blocks), joined Source.text "\n" g = "" := by
  have hshown : pickedStretches (fun l => l.1.isBullet) (blocks.flatMap shownLines) =
      (pickedStretches Source.isBullet (sources blocks)).map
        (List.map fun l => (l.kind, l.text)) := by
    rw [flatMap_shownLines, Text.pickedStretches_map]
    rfl
  have hlone : HasLoneBullet blocks ↔
      [(.text true, "")] ∈ pickedStretches (fun l => l.1.isBullet) (blocks.flatMap shownLines) := by
    rw [Text.mem_pickedStretches_iff]
    simp [HasLoneBullet, LineKind.isBullet]
  rw [hlone, hshown, List.mem_map]
  refine exists_congr fun g => and_congr_right fun hg => ?_
  obtain ⟨hne, hbullet, -⟩ := Text.mem_pickedStretches_iff.1 hg
  rw [Text.joined_eq_empty_iff (by decide) hne]
  constructor
  · intro hmap
    obtain ⟨l, rfl, hl⟩ := List.map_eq_singleton_iff.1 hmap
    exact ⟨l, rfl, congrArg Prod.snd hl⟩
  · rintro ⟨l, rfl, hl⟩
    have hkind : l.kind = .text true := LineKind.isBullet_iff.1 (hbullet l List.mem_cons_self)
    simp [hkind, hl]

theorem exists_empty_bulletSpan_iff {blocks : List Block} :
    (∃ span ∈ (ofBlocks blocks).bulletSpans, ¬span.start < span.stop) ↔ HasLoneBullet blocks := by
  have hpicked : pickedStretches Source.isBullet (sources blocks) =
      (placedBullets blocks).map Prod.fst := by
    have hfst : (placedGroups blocks).map Prod.fst = _ := Text.map_fst_place 0 _
    rw [pickedStretches, ← hfst, List.filter_map]
    rfl
  have hempty : ∀ q ∈ placedBullets blocks,
      (¬q.2.start < q.2.stop ↔ joined Source.text "\n" q.1 = "") := by
    intro q hq
    have hstop := stop_of_placed (List.mem_filter.1 hq).1
    rw [← Text.units_eq_zero_iff]
    omega
  rw [hasLoneBullet_iff, bulletSpans_ofBlocks, hpicked]
  constructor
  · rintro ⟨span, hspan, h⟩
    obtain ⟨q, hq, rfl⟩ := List.mem_map.1 hspan
    exact ⟨q.1, List.mem_map_of_mem hq, (hempty q hq).1 h⟩
  · rintro ⟨g, hg, h⟩
    obtain ⟨q, hq, rfl⟩ := List.mem_map.1 hg
    exact ⟨q.2, List.mem_map_of_mem hq, (hempty q hq).2 h⟩

end Lone

end Body

end SlideDeck
