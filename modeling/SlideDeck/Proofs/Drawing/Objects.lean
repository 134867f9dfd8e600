import Mathlib.Data.List.Basic
import SlideDeck.Drawing.Content
import SlideDeck.Drawing.Slide

/-! The objects of a slide and the commands for each of them. No two objects of a deck share an
id, so the text of an object depends on its own commands alone. -/

namespace SlideDeck.Drawing

theorem Role.name_inj {a b : Role} : a.name = b.name ↔ a = b := by
  cases a <;> cases b <;> decide

theorem numeral_toList_inj {i j : Nat} :
    (Text.numeral i).toList = (Text.numeral j).toList ↔ i = j := by
  refine ⟨fun h => ?_, fun h => h ▸ rfl⟩
  simp only [Text.numeral, String.toList_ofList] at h
  rw [← Nat.ofDigitChars_ten_toDigits (n := i), h, Nat.ofDigitChars_ten_toDigits]

theorem objectId_inj {idPrefix : String} {i j : Nat} {a b : Role} :
    objectId idPrefix i a.name = objectId idPrefix j b.name ↔ i = j ∧ a = b := by
  refine ⟨fun h => ?_, fun ⟨hi, ha⟩ => hi ▸ ha ▸ rfl⟩
  have hlist : (Text.numeral i).toList ++ '_' :: a.name.toList =
      (Text.numeral j).toList ++ '_' :: b.name.toList := by
    simpa [objectId, List.append_assoc] using congrArg String.toList h
  -- The underscore between number and role is the only one behind the prefix.
  have hdigits : '_' ∉ (Text.numeral i).toList := by
    rw [Text.numeral, String.toList_ofList]
    exact Nat.underscore_not_in_toDigits
  have hname : '_' ∉ a.name.toList := by cases a <;> decide
  obtain ⟨hi, -, ha⟩ := (List.append_cons_inj_of_notMem hdigits hname).1 hlist
  exact ⟨numeral_toList_inj.1 hi, Role.name_inj.1 (String.toList_inj.1 ha)⟩

def opsFor (id : String) (ops : List Op) : List Op := ops.filter fun op => op.objectId == id

@[simp] theorem opsFor_append (id : String) (as bs : List Op) :
    opsFor id (as ++ bs) = opsFor id as ++ opsFor id bs := List.filter_append as bs

def Op.inserted? : Op → Option String
  | .insertText _ text => some text
  | _ => none

def insertedInto (id : String) (ops : List Op) : List String :=
  (opsFor id ops).filterMap Op.inserted?

theorem insertedInto_concat (id : String) (ops : List Op) (op : Op) :
    insertedInto id (ops ++ [op]) =
      insertedInto id ops ++ if op.objectId = id then op.inserted?.toList else [] := by
  rw [insertedInto, opsFor_append, List.filterMap_append, insertedInto, opsFor, opsFor]
  by_cases h : op.objectId = id
  · cases hop : op.inserted? <;> simp [h, hop]
  · simp [h]

theorem insertedInto_concat_of_none (id : String) (ops : List Op) {op : Op}
    (h : op.inserted? = none) : insertedInto id (ops ++ [op]) = insertedInto id ops := by
  rw [insertedInto_concat, h]
  split <;> exact List.append_nil _

theorem inserted?_of_extent? {op : Op} {extent : Extent} (h : op.extent? = some extent) :
    op.inserted? = none := by
  cases op <;> simp_all [Op.extent?, Op.inserted?]

theorem after?_opsFor (id : String) (ops : List Op) :
    Content.after? id (opsFor id ops) = Content.after? id ops := by
  suffices h : ∀ c, (opsFor id ops).foldl (Content.step id) c = ops.foldl (Content.step id) c from
    h none
  induction ops with
  | nil => exact fun _ => rfl
  | cons op ops ih =>
    intro c
    by_cases hop : op.objectId = id
    · simp [opsFor, hop, ← ih]
    · have hskip : Content.step id c op = c := if_neg hop
      simp [opsFor, hop, hskip, ← ih]

namespace Sheet

variable (s : Sheet)

@[simp] theorem id_inj {a b : Role} : s.id a = s.id b ↔ a = b := by
  simp [id, objectId_inj]

theorem objectId_of_mem_surface : ∀ op ∈ s.surface, op.objectId = s.id .page := by
  simp [surface, Op.objectId]

theorem objectId_of_mem_filledShape (role : Role) (kind : ShapeKind) (frame : Rect)
    (color : Color) : ∀ op ∈ s.filledShape role kind frame color, op.objectId = s.id role := by
  simp [filledShape, Op.objectId]

theorem objectId_of_mem_title (slide : Slide) :
    ∀ op ∈ s.title slide, op.objectId = s.id .title := by
  simp [title, textBox, fillText, Op.objectId]

theorem objectId_of_mem_caption : ∀ op ∈ s.caption, op.objectId = s.id .caption := by
  unfold caption
  split <;> simp [textBox, fillText, Op.objectId]

def bodyStyles (body : Body) : List Op :=
  s.styleBody .all s.bodyChange ::
    (s.lineStyles body ++
      (s.boldStyles body ++ (.alignParagraphs (s.id .body) .all .start :: s.bullets body)))

theorem bodyText_eq (body : Body) :
    s.bodyText body =
      if body.text = "" then []
      else .insertText (s.id .body) body.text :: s.bodyStyles body := by
  simp [bodyText, bodyStyles]

theorem extent_of_mem_bodyStyles {body : Body} {op : Op} (h : op ∈ s.bodyStyles body) :
    op.objectId = s.id .body ∧
      (op.extent? = some .all ∨
        ∃ span, (span ∈ body.lines.map BodyLine.span ∨ span ∈ body.bold ∨
          span ∈ body.bulletSpans) ∧ op.extent? = some (.fixed span)) := by
  simp only [bodyStyles, List.mem_cons, List.mem_append] at h
  rcases h with rfl | h | h | rfl | h
  · exact ⟨rfl, .inl rfl⟩
  · obtain ⟨l, hl, hop⟩ := List.mem_filterMap.1 h
    obtain ⟨change, -, rfl⟩ := Option.map_eq_some_iff.1 hop
    exact ⟨rfl, .inr ⟨l.span, .inl (List.mem_map_of_mem (List.mem_filter.1 hl).1), rfl⟩⟩
  · obtain ⟨span, hspan, rfl⟩ := List.mem_map.1 h
    exact ⟨rfl, .inr ⟨span, .inr (.inl (List.mem_filter.1 hspan).1), rfl⟩⟩
  · exact ⟨rfl, .inl rfl⟩
  · unfold bullets at h
    split at h
    · simp at h
    · obtain ⟨span, hspan, rfl⟩ := List.mem_map.1 h
      exact ⟨rfl, .inr ⟨span, .inr (.inr hspan), rfl⟩⟩

theorem objectId_of_mem_body (slide : Slide) :
    ∀ op ∈ s.body slide, op.objectId = s.id .body := by
  intro op hop
  rw [body, bodyText_eq] at hop
  rcases List.mem_cons.1 hop with rfl | hop
  · rfl
  split at hop
  · simp at hop
  · rcases List.mem_cons.1 hop with rfl | hop
    · rfl
    · exact (s.extent_of_mem_bodyStyles hop).1

theorem opsFor_of_objectId {role owner : Role} {ops : List Op}
    (h : ∀ op ∈ ops, op.objectId = s.id owner) :
    opsFor (s.id role) ops = if owner = role then ops else [] := by
  unfold opsFor
  split
  next heq =>
    subst heq
    exact List.filter_eq_self.2 fun op hop => by simp [h op hop]
  next hne =>
    exact List.filter_eq_nil_iff.2 fun op hop => by simpa [h op hop] using hne

def opsOf (slide : Slide) : Role → List Op
  | .page => s.surface
  | .header =>
    if s.theme.isCover then []
    else s.filledShape .header .rectangle Regions.reference.header s.theme.colors.primary
  | .footer => s.filledShape .footer .rectangle Regions.reference.footer s.theme.footerFill
  | .card =>
    if s.theme.isCover then []
    else s.filledShape .card .roundRectangle Regions.reference.card s.theme.colors.card
  | .title => s.title slide
  | .caption => s.caption
  | .body => s.body slide

theorem opsFor_ops (slide : Slide) (role : Role) :
    opsFor (s.id role) (s.ops slide) = s.opsOf slide role := by
  have hshapes : opsFor (s.id role) s.shapes =
      if role = .header ∨ role = .footer ∨ role = .card then s.opsOf slide role else [] := by
    unfold shapes
    by_cases hcover : s.theme.isCover = true <;> cases role <;>
      simp [hcover, opsOf, s.opsFor_of_objectId (s.objectId_of_mem_filledShape _ _ _ _)]
  simp only [ops, opsFor_append, hshapes, s.opsFor_of_objectId s.objectId_of_mem_surface,
    s.opsFor_of_objectId (s.objectId_of_mem_title slide),
    s.opsFor_of_objectId s.objectId_of_mem_caption,
    s.opsFor_of_objectId (s.objectId_of_mem_body slide)]
  cases role <;> simp [opsOf]

end Sheet

end SlideDeck.Drawing
