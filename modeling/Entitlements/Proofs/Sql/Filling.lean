import Entitlements.Proofs.Sql.Marks
import Mathlib.Data.List.Forall2

/-!
# Values for marks

What goes beside the text of a statement has to fit the marks in it: in order there are as many
values as marks, under names there is one value for each name in the marks and for no other name, and
every mark is given what its column or clause calls for.
-/

namespace Entitlements.Sql

/-- The values beside a text fill its marks with what is called for at each of them. There are as
many values as marks, or a value for each name in the marks and for no other name. -/
def Binding.Fills (marks : List (String × Mark)) (called : List (String × Datum)) : Binding → Prop
  | .none => marks = []
  | .ordered values =>
    List.Forall₂ (fun (column, mark) d => mark = .next ∧ called.lookup column = some d) marks values
  | .named values =>
    (values.map Prod.fst).Nodup ∧
      (∀ name, name ∈ values.map Prod.fst ↔ .named name ∈ marks.map Prod.snd) ∧
      ∀ m ∈ marks, ∃ name d,
        m.2 = .named name ∧ (name, d) ∈ values ∧ called.lookup m.1 = some d

/-- The text can be read, and the values beside it fill its marks. -/
def Fragment.Fits (f : Fragment) (called : List (String × Datum)) : Prop :=
  ∃ marks, marksOf? f.text = some marks ∧ f.binding.Fills marks called

private theorem exists_mem_of_forall₂ {α β : Type} {R : α → β → Prop} {as : List α} {bs : List β}
    (h : List.Forall₂ R as bs) {a : α} (ha : a ∈ as) : ∃ b ∈ bs, R a b := by
  induction h with
  | nil => exact absurd ha List.not_mem_nil
  | cons hab _ ih =>
    rcases List.mem_cons.mp ha with rfl | ha
    · exact ⟨_, List.mem_cons_self, hab⟩
    · obtain ⟨b, hb, hab⟩ := ih ha
      exact ⟨b, List.mem_cons_of_mem _ hb, hab⟩

namespace Fragment

variable {f : Fragment} {cs : List Char} {marks : List (String × Mark)}
  {called : List (String × Datum)}

/-- The values that go under names, as often as there are places for them. -/
def named (f : Fragment) : List (String × Datum) :=
  f.filterMap fun
    | .named name d => some (name, d)
    | _ => none

theorem map_fst_collect (name : String) (d : Datum) (known : List (String × Datum)) :
    (collect name d known).map Prod.fst =
      if name ∈ known.map Prod.fst then known.map Prod.fst else known.map Prod.fst ++ [name] := by
  have hany : known.any (·.1 == name) = true ↔ name ∈ known.map Prod.fst := by
    simp
  unfold collect
  split
  next h => rw [if_pos (hany.mp h)]
  next h => rw [if_neg fun hmem => h (hany.mpr hmem), List.map_append, List.map_singleton]

theorem collect_subset (name : String) (d : Datum) (known : List (String × Datum)) :
    collect name d known ⊆ (name, d) :: known := by
  unfold collect
  split
  · exact List.subset_cons_self _ _
  · simp

/-- Whatever was collected before, of each name one value is collected. -/
private theorem foldl_collect (f : Fragment) (known : List (String × Datum))
    (hknown : (known.map Prod.fst).Nodup) :
    let all := f.foldl (fun known piece => match piece with
      | .named name d => collect name d known
      | _ => known) known
    (all.map Prod.fst).Nodup ∧ all ⊆ known ++ f.named ∧
      ∀ name, name ∈ all.map Prod.fst ↔
        name ∈ known.map Prod.fst ∨ name ∈ f.named.map Prod.fst := by
  induction f generalizing known with
  | nil => exact ⟨hknown, by simp, fun name => by simp [named]⟩
  | cons p f ih =>
    cases p with
    | words | place => exact ih known hknown
    | named name d =>
      have hnamed : named (.named name d :: f) = (name, d) :: named f := rfl
      have hone : ((collect name d known).map Prod.fst).Nodup := by
        rw [map_fst_collect]
        split
        next => exact hknown
        next h => exact List.nodup_append.mpr ⟨hknown, by simp, by grind⟩
      obtain ⟨hnodup, hsubset, hmem⟩ := ih _ hone
      refine ⟨hnodup, fun v hv => ?_, fun name' => (hmem name').trans ?_⟩
      · have hone := collect_subset name d known
        rw [hnamed]
        grind
      · rw [map_fst_collect, hnamed, List.map_cons, List.mem_cons]
        split <;> grind

theorem nodup_namedValues (f : Fragment) : (f.namedValues.map Prod.fst).Nodup :=
  (foldl_collect f [] List.nodup_nil).1

theorem namedValues_subset (f : Fragment) : f.namedValues ⊆ f.named :=
  (foldl_collect f [] List.nodup_nil).2.1

theorem mem_map_namedValues (f : Fragment) (name : String) :
    name ∈ f.namedValues.map Prod.fst ↔ name ∈ f.named.map Prod.fst :=
  ((foldl_collect f [] List.nodup_nil).2.2 name).trans (or_iff_right List.not_mem_nil)

/-- Where no name has two values, what goes under a name is the value of every place with it. -/
theorem mem_namedValues (values : List (String × Datum))
    (hvalues : ∀ v ∈ f.named, values.lookup v.1 = some v.2) {v : String × Datum}
    (hv : v ∈ f.named) : v ∈ f.namedValues := by
  obtain ⟨w, hw, hname⟩ :=
    List.mem_map.mp ((f.mem_map_namedValues v.1).mpr (List.mem_map_of_mem hv))
  have hsame : some w.2 = some v.2 := by
    rw [← hvalues w (f.namedValues_subset hw), ← hvalues v hv, hname]
  obtain rfl : w = v := Prod.ext hname (Option.some.inj hsame)
  exact hw

/-- A fragment with names, and no places besides, goes with values under names. -/
theorem binding_eq_named (hvalues : f.values = []) (hnamed : f.named ≠ []) :
    f.binding = .named f.namedValues := by
  have hne : f.namedValues ≠ [] := by
    obtain ⟨v, hv⟩ := List.exists_mem_of_ne_nil _ hnamed
    intro hnil
    have hname := (f.mem_map_namedValues v.1).mpr (List.mem_map_of_mem hv)
    rw [hnil] at hname
    exact absurd hname List.not_mem_nil
  unfold binding
  rw [hvalues]
  cases h : f.namedValues with
  | nil => exact absurd h hne
  | cons v vs => rfl

/-- The text of a fragment is spelled, and its marks are read in it. -/
theorem marksOf?_text (hf : f.Spells cs := by repeat' constructor)
    (hmarks : Reading.marks? {} (Token.all cs) = some marks := by decide +kernel) :
    marksOf? f.text = some marks := hf.marksOf?.trans hmarks

/-- A statement without marks goes alone. -/
theorem fits_none (hmarks : marksOf? f.text = some []) (hbinding : f.binding = .none := by rfl) :
    f.Fits called := ⟨[], hmarks, hbinding ▸ rfl⟩

/-- The values in order are compared with what is called for one by one. -/
theorem fits_ordered (hmarks : marksOf? f.text = some marks)
    (hbinding : f.binding = .ordered f.values := by rfl)
    (hfills : List.Forall₂ (fun m d => m.2 = .next ∧ called.lookup m.1 = some d) marks f.values :=
      by repeat' constructor) : f.Fits called := ⟨marks, hmarks, hbinding ▸ hfills⟩

/-- So are values under names, which have one value each. -/
theorem fits_named (values : List (String × Datum)) (hmarks : marksOf? f.text = some marks)
    (h : f.values = [] ∧ f.named ≠ [] ∧ List.Forall₂ (fun m v => m.2 = .named v.1 ∧
      values.lookup v.1 = some v.2 ∧ called.lookup m.1 = some v.2) marks f.named) :
    f.Fits called := by
  obtain ⟨hvalues, hnamed, hfills⟩ := h
  have hof (v : String × Datum) (hv : v ∈ f.named) : ∃ m ∈ marks, m.2 = .named v.1 ∧
      values.lookup v.1 = some v.2 ∧ called.lookup m.1 = some v.2 :=
    exists_mem_of_forall₂ (R := flip _) (.flip hfills) hv
  have hvalued (v : String × Datum) (hv : v ∈ f.named) : v ∈ f.namedValues := by
    refine f.mem_namedValues values (fun v hv => ?_) hv
    obtain ⟨-, -, -, hlookup, -⟩ := hof v hv
    exact hlookup
  refine ⟨marks, hmarks, ?_⟩
  rw [binding_eq_named hvalues hnamed]
  refine ⟨f.nodup_namedValues, fun name => (f.mem_map_namedValues name).trans ⟨?_, ?_⟩,
    fun m hm => ?_⟩
  · intro hname
    obtain ⟨v, hv, rfl⟩ := List.mem_map.mp hname
    obtain ⟨m, hm, hmark, -, -⟩ := hof v hv
    exact List.mem_map.mpr ⟨m, hm, hmark⟩
  · intro hname
    obtain ⟨m, hm, hmark⟩ := List.mem_map.mp hname
    obtain ⟨v, hv, hmark', -, -⟩ := exists_mem_of_forall₂ hfills hm
    obtain rfl : name = v.1 := Mark.named.inj (hmark.symm.trans hmark')
    exact List.mem_map_of_mem hv
  · obtain ⟨v, hv, hmark, -, hcalled⟩ := exists_mem_of_forall₂ hfills hm
    exact ⟨v.1, v.2, hmark, hvalued v hv, hcalled⟩

end Fragment

end Entitlements.Sql
