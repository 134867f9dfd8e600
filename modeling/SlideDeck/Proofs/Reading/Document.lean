import SlideDeck.Json.Document
import SlideDeck.Proofs.Reading.Carried
import SlideDeck.Reading.Document

/-! Documents are read from what their JSON values are carried as. The kind of a block stands among
its fields, and is passed over when they are read. -/

namespace SlideDeck.Reading

open Fields.Takes (field)

section

variable {τ : Type} [Source τ] {put : Json → τ}

theorem Shows.run (h : Shows put) (r : Run) : Reads put run r.toJson r := by
  obtain ⟨text, bold⟩ := r
  refine h.record (.seq (.map ?_ Run.mk) ?_) rfl (by simp)
  · exact field (h.text text) (by simp) _
  · exact field (h.flag bold) (by simp) _

theorem Shows.runs (h : Shows put) (rs : List Run) : Reads put runs (.listOf Run.toJson rs) rs :=
  h.list fun r _ => h.run r

theorem Shows.cell (h : Shows put) (c : Cell) : Reads put cell c.toJson c :=
  h.record (.map (field (h.runs c.runs) (by simp) _) Cell.mk) rfl (by simp)

theorem Shows.row (h : Shows put) (r : Row) : Reads put row r.toJson r := by
  obtain ⟨cells, header⟩ := r
  refine h.record (.seq (.map ?_ Row.mk) ?_) rfl (by simp)
  · exact field (h.list fun c _ => h.cell c) (by simp) _
  · exact field (h.flag header) (by simp) _

end

theorem reads_block_of_form {kind : String} {form : BlockForm}
    (hform : blockForms.lookup kind = some form) {ms : List (String × Json)} {b : Block}
    (hfields : form.fields.Takes Reread.mk ms b) (hkeys : ms.map Prod.fst = form.fields.names)
    (hnames : ("type" :: ms.map Prod.fst).Nodup) :
    Reads id block (.record (("type", .text kind) :: ms)) b := by
  intro w hw
  obtain ⟨ns, rfl, hns⟩ := hw.exists_members
  obtain ⟨tag, htag, hcarried⟩ := hns.values _ List.mem_cons_self
  cases hcarried
  have hlookup : ns.lookup "type" = some (.text kind) :=
    Json.lookup_of_mem (hns.keys.nodup_iff.2 hnames) htag
  have hdistinct := List.nodup_cons.1 hnames
  have hread := hfields.ofMembers hkeys hdistinct.2 (hns.without hdistinct.1)
  simp only [id, block, hlookup, blockForm, hform, bind, Except.bind]
  exact hread

theorem reads_block (b : Block) : Reads id block b.toJson b := by
  have hruns := shows_reread.runs
  cases b with
  | heading level rs =>
    refine reads_block_of_form rfl (.seq (.map ?_ Block.heading) ?_) rfl (by simp)
    · exact field (shows_reread.byte level) (by simp) _
    · exact field (hruns rs) (by simp) _
  | text rs bullet =>
    refine reads_block_of_form rfl (.seq (.map ?_ Block.text) ?_) rfl (by simp)
    · exact field (hruns rs) (by simp) _
    · exact field (shows_reread.flag bullet) (by simp) _
  | table rows =>
    refine reads_block_of_form rfl (.map ?_ Block.table) rfl (by simp)
    exact field (shows_reread.list fun r _ => shows_reread.row r) (by simp) _

theorem reads_slide (s : Slide) : Reads id slide s.toJson s := by
  obtain ⟨title, blocks⟩ := s
  refine shows_json.record (.seq (.map ?_ Slide.mk) ?_) rfl (by simp)
  · exact field (shows_json.title title) (by simp) _
  · exact field (shows_json.list fun b _ => reads_block b) (by simp) _

theorem reads_document (d : Document) : Reads id document d.toJson d := by
  obtain ⟨slides⟩ := d
  refine shows_json.record (.map ?_ Document.mk) rfl (by simp)
  exact field (shows_json.list fun s _ => reads_slide s) (by simp) _

end SlideDeck.Reading
