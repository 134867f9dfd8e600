import SlideDeck.Proofs.Reading.Fields
import SlideDeck.Proofs.Settings.File
import SlideDeck.Proofs.Theme.Latest

/-! Files of settings that name the themes of single slides in another order. They can be read
together, and what is read differs in that order only. -/

namespace SlideDeck.SettingsFile

open Json5 Reading

def keyOf (m : List Part × Term) : Option String := (textOf m.1).toOption

/-- The same file, with the members of `slideThemes` in another order. Those with one key keep
theirs. A file may be a record or a list of its fields. -/
inductive Reordered : Term → Term → Prop
  | member (before behind : List (List Part × Term)) {key : List Part}
      (hkey : textOf key = .ok "slideThemes") {es es' : List (List Part × Term)}
      (h : Shuffled keyOf es es') :
      Reordered (.record (before ++ (key, .record es) :: behind))
        (.record (before ++ (key, .record es') :: behind))
  | item (theme : Term) (behind : List Term) {es es' : List (List Part × Term)}
      (h : Shuffled keyOf es es') :
      Reordered (.list (theme :: .record es :: behind)) (.list (theme :: .record es' :: behind))

def readEntry (m : List Part × Term) : Except Misfit (String × String) := do
  return (← textOf m.1, ← text m.2)

theorem members_eq (es : List (List Part × Term)) :
    members text (Term.record es) = es.mapM readEntry := by
  change (es.map fun m => (textOf m.1, m.2)).mapM _ = _
  rw [List.mapM_map]
  rfl

theorem keyOf_of_readEntry {m : List Part × Term} {e : String × String}
    (h : readEntry m = .ok e) : keyOf m = some e.1 := by
  rw [readEntry] at h
  cases hkey : textOf m.1 with
  | error misfit => simp [hkey, bind, Except.bind] at h
  | ok key =>
    cases htext : text m.2 with
    | error misfit => simp [hkey, htext, bind, Except.bind] at h
    | ok s =>
      obtain rfl : (key, s) = e := by
        simpa [hkey, htext, bind, Except.bind, pure, Except.pure] using h
      rw [keyOf, hkey, Except.toOption]

theorem members_shuffled {es es' : List (List Part × Term)} (h : Shuffled keyOf es es')
    {entries : List (String × String)} (hread : members text (Term.record es) = .ok entries) :
    ∃ entries', members text (Term.record es') = .ok entries' ∧
      Shuffled Prod.fst entries entries' := by
  rw [members_eq] at hread
  obtain ⟨hall, rfl⟩ := mapM_eq_ok_iff.1 hread
  refine ⟨es'.filterMap fun m => (readEntry m).toOption, ?_, .filterMap (h.congr fun m hm => ?_)⟩
  · rw [members_eq]
    exact mapM_eq_ok_iff.2 ⟨fun m hm => hall m (h.1.mem_iff.2 hm), rfl⟩
  · obtain ⟨e, he⟩ := hall m hm
    rw [keyOf_of_readEntry he, he, Except.toOption, Option.map_some]

def Rereads (f f' : SettingsFile) : Prop :=
  ∃ entries entries', f.slideThemes = some entries ∧ Shuffled Prod.fst entries entries' ∧
    f' = { f with slideThemes := some entries' }

section

variable {es es' : List (List Part × Term)} {form form' : Form Term}

theorem slideThemes_follows (h : Shuffled keyOf es es')
    (hform : Form.Replaced "slideThemes" 1 (.record es) (.record es') form form') :
    (Fields.option "slideThemes" (members text)).Follows
      (fun a a' => ∃ entries entries', a = some entries ∧ Shuffled Prod.fst entries entries' ∧
        a' = some entries') 1 form form' := by
  have hoptional (es : List (List Part × Term)) : Reading.optional (members text) (Term.record es) =
      (members text (Term.record es)).map some := rfl
  intro a ha
  obtain ⟨hold, hnew⟩ := Fields.read_field_replaced hform ha
  rw [hoptional] at hold hnew
  obtain ⟨entries, hentries, rfl⟩ := map_eq_ok_iff.1 hold
  obtain ⟨entries', hentries', hshuffled⟩ := members_shuffled h hentries
  exact ⟨some entries', hnew _ (map_eq_ok_iff.2 ⟨entries', hentries', rfl⟩), entries, entries', rfl,
    hshuffled, rfl⟩

theorem read_other (hform : Form.Replaced "slideThemes" 1 (.record es) (.record es') form form')
    {α : Type} {name : String} (hname : name ≠ "slideThemes") {first : Nat} (hfirst : first ≠ 1)
    (r : Reader Term α) :
    (Fields.option name r).read first form = (Fields.option name r).read first form' :=
  Fields.read_field_of_ne hform hname hfirst _ _

theorem settingsFields_follow (h : Shuffled keyOf es es')
    (hform : Form.Replaced "slideThemes" 1 (.record es) (.record es') form form') :
    settingsFields.Follows Rereads 0 form form' := by
  iterate 13 refine .seq_eq ?_ (read_other hform (by decide) (by decide) _)
  refine .seq (.map (Fields.follows_of_eq (read_other hform (by decide) (by decide) _)) ?_)
    (slideThemes_follows h hform)
  rintro theme _ rfl _ _ ⟨entries, entries', rfl, hshuffled, rfl⟩
  intros
  exact ⟨entries, entries', rfl, hshuffled, rfl⟩

end

theorem read_reordered {t t' : Term} (h : Reordered t t') {f : SettingsFile}
    (hread : Reading.settingsFile t = .ok f) :
    ∃ f', Reading.settingsFile t' = .ok f' ∧ Rereads f f' := by
  cases h with
  | @member before behind key hkey es es' h =>
    let readKey (m : List Part × Term) : Except Misfit String × Term := (textOf m.1, m.2)
    have hrecord (es : List (List Part × Term)) :
        Reading.settingsFile (Term.record (before ++ (key, .record es) :: behind)) =
          settingsFields.ofMembers
            (before.map readKey ++ (.ok "slideThemes", .record es) :: behind.map readKey) := by
      change settingsFields.ofMembers ((before ++ (key, .record es) :: behind).map readKey) = _
      rw [List.map_append, List.map_cons]
      simp only [readKey, hkey]
    rw [hrecord] at hread
    obtain ⟨hfields, hothers⟩ := Fields.ofMembers_eq_ok_iff.1 hread
    obtain ⟨f', hf', hrereads⟩ := settingsFields_follow h (.members _ _) f hfields
    rw [Fields.passOthers_replaced (by decide) _ _ _ (.record es')] at hothers
    exact ⟨f', (hrecord es').trans (Fields.ofMembers_eq_ok_iff.2 ⟨hf', hothers⟩), hrereads⟩
  | @item theme behind es es' h =>
    have hlist (vs : List Term) : Reading.settingsFile (Term.list vs) =
        settingsFields.ofItems "struct ConfigFile" vs := rfl
    rw [hlist] at hread
    obtain ⟨hfields, hend⟩ := Fields.ofItems_eq_ok_iff.1 hread
    obtain ⟨f', hf', hrereads⟩ := settingsFields_follow h
      (.items [theme] behind _ rfl) f hfields
    exact ⟨f', (hlist _).trans (Fields.ofItems_eq_ok_iff.2 ⟨hf', hend⟩), hrereads⟩

end SlideDeck.SettingsFile
