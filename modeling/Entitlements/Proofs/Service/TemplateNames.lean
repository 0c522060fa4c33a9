import Entitlements.Proofs.Service.Confinement
import Mathlib.Data.List.DropRight
import Mathlib.Data.List.Pairwise

/-!
# Names of templates

The names of templates have no blanks around them and say something, and within an organization
no two of them are the same in lower case. Whatever is called, by whomever, this stays so: a new
name is trimmed and looked for before its template is stored, and nothing else touches templates.
So a name leads to one template at most, whichever case it is written in. Templates stay for good,
and what they give only becomes less.
-/

namespace Entitlements

namespace Text

/-- What is trimmed has no blanks left to drop. -/
theorem trimChars_trimChars (cs : List Char) : trimChars (trimChars cs) = trimChars cs := by
  have hstart : (trimChars cs).dropWhile isBlank = trimChars cs := by
    have hfirst (h : 0 < (cs.dropWhile isBlank).length) :
        ¬ isBlank (cs.dropWhile isBlank)[0] = true :=
      List.dropWhile_eq_self_iff.mp (List.dropWhile_idempotent isBlank cs) h
    obtain ⟨rest, hrest⟩ : trimChars cs <+: cs.dropWhile isBlank :=
      List.rdropWhile_prefix isBlank _
    rw [List.dropWhile_eq_self_iff]
    intro h
    simp only [← hrest, List.length_append] at hfirst
    have hhead := hfirst (Nat.lt_of_lt_of_le h (Nat.le_add_right _ _))
    rwa [List.getElem_append_left h] at hhead
  have hend : (trimChars cs).rdropWhile isBlank = trimChars cs :=
    List.rdropWhile_idempotent isBlank _
  show ((trimChars cs).dropWhile isBlank).rdropWhile isBlank = trimChars cs
  rw [hstart, hend]

theorem trim_trim (s : String) : trim (trim s) = trim s := by
  simp only [trim, String.toList_ofList, trimChars_trimChars]

end Text

/-- The name says something and has no blanks around it. -/
structure Template.Clean (tpl : Template) : Prop where
  trimmed : Text.trim tpl.name = tpl.name
  nonblank : Text.isBlankText tpl.name = false

/-- The templates are of different organizations or have different names in lower case. -/
def Template.Apart (a b : Template) : Prop :=
  a.organization = b.organization → Text.lower a.name ≠ Text.lower b.name

theorem Template.Apart.symm {a b : Template} (h : a.Apart b) : b.Apart a :=
  fun ho => (h ho.symm).symm

instance : Std.Symm Template.Apart := ⟨fun _ _ => Template.Apart.symm⟩

theorem mem_of_mem_replaceOrAdd {α κ : Type} [BEq κ] {key : α → κ} {a b : α} {as : List α}
    (h : b ∈ replaceOrAdd key a as) : b ∈ as ∨ b = a := by
  induction as with
  | nil => exact .inr (List.mem_singleton.mp h)
  | cons c rest ih =>
    rw [replaceOrAdd] at h
    split at h
    · rcases List.mem_cons.mp h with rfl | h
      · exact .inr rfl
      · exact .inl (List.mem_cons_of_mem c h)
    · rcases List.mem_cons.mp h with rfl | h
      · exact .inl List.mem_cons_self
      · exact (ih h).imp_left (List.mem_cons_of_mem c)

/-- An element that is related to all others may come to stand anywhere among them. -/
theorem pairwise_replaceOrAdd {α κ : Type} [BEq κ] {key : α → κ} {R : α → α → Prop} [Std.Symm R]
    {a : α} {as : List α} (h : as.Pairwise R) (ha : ∀ b ∈ as, R a b) :
    (replaceOrAdd key a as).Pairwise R := by
  induction as with
  | nil => exact List.pairwise_singleton R a
  | cons c rest ih =>
    obtain ⟨hc, hrest⟩ := List.pairwise_cons.mp h
    obtain ⟨hac, harest⟩ := List.forall_mem_cons.mp ha
    rw [replaceOrAdd]
    split
    · exact List.pairwise_cons.mpr ⟨harest, hrest⟩
    · refine List.pairwise_cons.mpr ⟨fun b hb => ?_, ih hrest harest⟩
      rcases mem_of_mem_replaceOrAdd hb with hb | rfl
      · exact hc b hb
      · exact Std.Symm.symm _ _ hac

namespace Store

/-- The names of templates are clean, and no two of an organization are the same in lower case. -/
structure NamesTemplates (s : Store) : Prop where
  clean : ∀ tpl ∈ s.templates, tpl.Clean
  apart : s.templates.Pairwise Template.Apart

/-- No template was changed or dropped since, and templates give nothing that they did not give. -/
structure KeepsTemplates (s t : Store) : Prop where
  templates : s.templates <+: t.templates
  templateGrants : ∀ given ∈ t.templateGrants, given ∈ s.templateGrants

variable {s t u : Store}

theorem KeepsTemplates.refl (s : Store) : s.KeepsTemplates s := ⟨List.prefix_rfl, fun _ => id⟩

theorem KeepsTemplates.trans (h : s.KeepsTemplates t) (h' : t.KeepsTemplates u) :
    s.KeepsTemplates u where
  templates := h.templates.trans h'.templates
  templateGrants given hgiven := h.templateGrants given (h'.templateGrants given hgiven)

theorem NamesTemplates.of_sameData (hs : s.NamesTemplates) (h : s.SameData t) :
    t.NamesTemplates := by
  obtain ⟨j, a, rfl⟩ := h
  exact ⟨hs.clean, hs.apart⟩

theorem FreshUuids.of_sameData (hs : s.FreshUuids) (h : s.SameData t) : t.FreshUuids := by
  obtain ⟨j, a, rfl⟩ := h
  exact hs

theorem KeepsTemplates.of_sameData (h : s.SameData t) : s.KeepsTemplates t := by
  obtain ⟨j, a, rfl⟩ := h
  exact ⟨List.prefix_rfl, fun _ => id⟩

/-- A name that is not found is not taken in any case. -/
theorem apart_of_templateByName? {tpl : Template}
    (h : s.templateByName? tpl.organization tpl.name = none) :
    ∀ tpl' ∈ s.templates, tpl.Apart tpl' := by
  intro tpl' htpl' ho hname
  have hnot := List.find?_eq_none.mp h tpl' htpl'
  rw [ho, hname, beq_self_eq_true, beq_self_eq_true] at hnot
  exact hnot rfl

/-- A template whose name is clean and not taken may be added, in whichever place. -/
theorem NamesTemplates.addTemplate (hs : s.NamesTemplates) (tpl : Template)
    (hclean : tpl.Clean) (hfree : s.templateByName? tpl.organization tpl.name = none) :
    (s.addTemplate tpl).NamesTemplates where
  clean tpl' htpl' := by
    rcases mem_of_mem_replaceOrAdd htpl' with htpl' | rfl
    · exact hs.clean tpl' htpl'
    · exact hclean
  apart := pairwise_replaceOrAdd hs.apart (apart_of_templateByName? hfree)

/-- In its organization, the name of a template leads to the template in every case. -/
theorem NamesTemplates.templateByName? (hs : s.NamesTemplates) {tpl : Template}
    (htpl : tpl ∈ s.templates) {name : String} (hname : Text.lower name = Text.lower tpl.name) :
    s.templateByName? tpl.organization name = some tpl := by
  have htest : (tpl.organization == tpl.organization &&
      Text.lower tpl.name == Text.lower name) = true := by simp [hname]
  cases hfound : s.templateByName? tpl.organization name with
  | none => exact absurd htest (List.find?_eq_none.mp hfound tpl htpl)
  | some tpl' =>
    have htest' := List.find?_some hfound
    simp only [Bool.and_eq_true, beq_iff_eq] at htest'
    by_contra hne
    have hapart : tpl'.Apart tpl := hs.apart.forall (List.mem_of_find?_eq_some hfound) htpl
      fun h => hne (congrArg some h)
    exact hapart htest'.1 (htest'.2.trans hname)

end Store

variable {s t : Store}

/-- Templates are added at the end, and nothing is added to what they give. -/
theorem Effect.keepsTemplates {e : Effect} (he : e.Genuine s) : s.KeepsTemplates (e.on s) := by
  cases e with
  | templateAdded tpl =>
    refine ⟨?_, fun _ => id⟩
    show s.templates <+: replaceOrAdd (·.uuid) tpl s.templates
    rw [replaceOrAdd_of_forall_ne he]
    exact List.prefix_append _ _
  | templateGrantRemoved given =>
    exact ⟨List.prefix_rfl, fun given' hgiven => (mem_removeAll.mp hgiven).1⟩
  | grantAdded | grantRemoved | memberAdded | rootCleared =>
    exact ⟨List.prefix_rfl, fun _ => id⟩

namespace Service

theorem createTemplate_namesTemplates
    (name description? keyPattern? organizationKey? : Option String) (σ : Session)
    (hs : s.NamesTemplates) :
    Acting.Ensures Store.setting (createTemplate name description? keyPattern? organizationKey?)
      σ s (fun _ _ t => t.NamesTemplates) fun _ _ t => t.NamesTemplates := by
  have htrim : Text.trim (Text.trim (name.getD "")) = Text.trim (name.getD "") := Text.trim_trim _
  generalize htrimmed : Text.trim (name.getD "") = trimmed at htrim
  refine createTemplate_makes htrimmed description? keyPattern? organizationKey? σ s
    (fun _ _ _ ht => hs.of_sameData ht.sameData) ?_
  intro o at? _ t _ hblank hfree _ _ _ ht
  have hnonblank : Text.isBlankText trimmed = false := by
    rw [Text.isBlankText, htrim]
    exact Bool.eq_false_iff.mpr hblank
  obtain ⟨hclean, hapart⟩ := hs.addTemplate
    ⟨uuidOf (s.around.issued + 1), o.uuid, trimmed, description?, keyPattern?, at?, at?⟩
    ⟨htrim, hnonblank⟩ hfree
  refine Store.NamesTemplates.of_sameData ?_ ht
  exact ⟨hclean, hapart⟩

/-- A command leaves names of templates clean and apart. Should the identifier of a new template be
one that is taken, the new template takes the place of the old one. -/
theorem Command.namesTemplates_of_run (c : Command) (σ : Session) (hs : s.NamesTemplates) :
    (s.run (c.run.run.run σ)).2.NamesTemplates := by
  by_cases hdraws : c.DrawsUuid
  · cases c with
    | createTemplate name description? keyPattern? organizationKey? =>
      refine Acting.end_of_ensures (Q := fun _ t => t.NamesTemplates) ?_
      show Acting.Ensures Store.setting (Reply.template <$> Service.createTemplate name
        description? keyPattern? organizationKey?) σ s _ _
      rw [Acting.ensures_map]
      exact createTemplate_namesTemplates _ _ _ _ σ hs
    | _ => exact hdraws.elim
  · have hfresh : c.DrawsUuid → s.NextUuidFresh := fun h => absurd h hdraws
    have hend := Acting.end_of_ensures (c.run_ensures σ hfresh)
    rcases hend.2 with hsame | ⟨e, hask, -, -, hsame⟩
    · exact hs.of_sameData hsame
    · refine Store.NamesTemplates.of_sameData ?_ hsame
      cases e with
      | templateAdded tpl =>
        -- only a command that draws an identifier asks for a template
        cases c with
        | createTemplate => exact absurd trivial hdraws
        | changeUserPermission operation | changeGroupPermission operation =>
          simp only [Command.AsksFor] at hask
          cases operation <;> simp [Operation.effect?] at hask
        | _ => simp [Command.AsksFor] at hask
      | grantAdded | grantRemoved | memberAdded | templateGrantRemoved | rootCleared =>
        exact ⟨hs.clean, hs.apart⟩

theorem Command.Leaves.keepsTemplates {c : Command} {σ : Session} (h : c.Leaves σ s t)
    (hs : s.FreshUuids) : t.FreshUuids ∧ s.KeepsTemplates t := by
  rcases h with hsame | ⟨e, hask, hgenuine, -, hsame⟩
  · exact ⟨hs.of_sameData hsame, .of_sameData hsame⟩
  · exact ⟨(hs.on hask.proper).of_sameData hsame,
      (e.keepsTemplates hgenuine).trans (.of_sameData hsame)⟩

end Service

namespace World

variable {w : World}

/-- No move of anybody makes two templates of an organization go by one name. -/
theorem step_namesTemplates (h : w.store.NamesTemplates) (m : Move) :
    (w.step m).store.NamesTemplates := by
  cases m with
  | signIn login? => exact h.of_sameData (w.step_signIn login?).1
  | call session c =>
    rw [step]
    cases hσ : w.sessions[session]? with
    | none => exact h
    | some σ => exact c.namesTemplates_of_run σ h

/-- No move changes or drops a template or adds to what templates give, as long as identifiers
are fresh. -/
theorem step_keepsTemplates (h : w.store.FreshUuids) (m : Move) :
    (w.step m).store.FreshUuids ∧ w.store.KeepsTemplates (w.step m).store := by
  cases m with
  | signIn login? =>
    have hsame := (w.step_signIn login?).1
    exact ⟨h.of_sameData hsame, .of_sameData hsame⟩
  | call session c =>
    have hfresh : w.store.NextUuidFresh := h _ (Nat.lt_succ_self _)
    rcases w.step_call hfresh session c with hsame | ⟨σ, -, hleaves, -⟩
    · rw [hsame]
      exact ⟨h, .refl w.store⟩
    · exact hleaves.keepsTemplates h

theorem run_namesTemplates (h : w.store.NamesTemplates) (moves : List Move) :
    (w.run moves).store.NamesTemplates := by
  induction moves generalizing w with
  | nil => exact h
  | cons m rest ih => exact ih (step_namesTemplates h m)

theorem run_keepsTemplates (h : w.store.FreshUuids) (moves : List Move) :
    (w.run moves).store.FreshUuids ∧ w.store.KeepsTemplates (w.run moves).store := by
  induction moves generalizing w with
  | nil => exact ⟨h, .refl w.store⟩
  | cons m rest ih =>
    obtain ⟨hfresh, hkeeps⟩ := step_keepsTemplates h m
    obtain ⟨hfresh', hkeeps'⟩ := ih hfresh
    exact ⟨hfresh', hkeeps.trans hkeeps'⟩

/-- Whatever is done by however many sessions, names of templates stay clean and apart, so that in
its organization the name of a template leads to it and to no other in any case. As long as
identifiers are fresh, templates stay as they are from any moment on, and what they give only
becomes less. -/
theorem run_templates (h : w.store.NamesTemplates) (moves : List Move) :
    (w.run moves).store.NamesTemplates ∧
      (∀ tpl ∈ (w.run moves).store.templates, ∀ name,
        Text.lower name = Text.lower tpl.name →
          (w.run moves).store.templateByName? tpl.organization name = some tpl) ∧
      (w.store.FreshUuids → ∀ later,
        (w.run moves).store.KeepsTemplates (w.run (moves ++ later)).store) := by
  have hnames := run_namesTemplates h moves
  refine ⟨hnames, fun tpl htpl name hname => hnames.templateByName? htpl hname, ?_⟩
  intro hfresh later
  have hrun : w.run (moves ++ later) = (w.run moves).run later := List.foldl_append
  rw [hrun]
  exact (run_keepsTemplates (run_keepsTemplates hfresh moves).1 later).2

/-- The sample with a template of the default organization. -/
def sampleTemplated (around : Surroundings) : Store :=
  { Store.sample around with
    templates := [⟨uuidOf 0, Store.sampleDefault, "Standard", none, none, none, none⟩] }

/-- In the sample the user `root` makes a second template. -/
theorem run_templates_second :
    let w : World := ⟨sampleTemplated default, []⟩
    let moves : List Move := [.signIn (some "root"),
      .call 0 (.createTemplate (some " Strict ") none none none)]
    (w.store.NamesTemplates ∧ w.store.FreshUuids) ∧
      (w.run moves).store.templates.map (·.name) = ["Standard", "Strict"] ∧
      (w.run moves).store.NamesTemplates ∧
      ∀ later, (w.run moves).store.KeepsTemplates (w.run (moves ++ later)).store := by
  intro w moves
  have hnames : w.store.NamesTemplates := by
    refine ⟨fun tpl htpl => ?_, List.pairwise_singleton _ _⟩
    obtain rfl := List.mem_singleton.mp htpl
    exact ⟨by decide, by decide⟩
  have hfresh : w.store.FreshUuids := by
    intro n hn tpl htpl heq
    obtain rfl := List.mem_singleton.mp htpl
    exact Nat.ne_of_lt hn (uuidOf_injective heq)
  have htemplates := run_templates hnames moves
  exact ⟨⟨hnames, hfresh⟩, by decide, htemplates.1, htemplates.2.2 hfresh⟩

end World

end Entitlements
