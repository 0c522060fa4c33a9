import Entitlements.Proofs.Sql.Patterns
import Entitlements.Proofs.Store.Listings

/-!
# What search texts find

Blanks around a search text do not count, and one of blanks only finds everything. Any other finds
the names that it stands in, whatever the case of either; a project is found by its key as well.
-/

namespace Entitlements

/-- The search text of a request without the blanks around it; empty where none is given. -/
def trimmedQuery (query? : Option String) : String := Text.trim (query?.getD "")

theorem searchText_eq_given? (query? : Option String) :
    searchText query? = given? (some (trimmedQuery query?)) := by
  cases query? with
  | none => rfl
  | some query => rfl

theorem given?_some_eq_none_iff {text : String} : given? (some text) = none ↔ text = "" := by
  simp [given?]

theorem given?_some_of_ne {text : String} (h : text ≠ "") : given? (some text) = some text := by
  simp [given?, h]

theorem given?_searchText_eq_none_iff {query? : Option String} :
    given? (searchText query?) = none ↔ trimmedQuery query? = "" := by
  rw [searchText_eq_given?]
  by_cases h : trimmedQuery query? = ""
  · rw [given?_some_eq_none_iff.mpr h]
    exact iff_of_true rfl h
  · rw [given?_some_of_ne h, given?_some_eq_none_iff]

/-- The search text is blank, or it stands in the name, whatever the case of either. -/
def NameHas (text name : String) : Prop :=
  text = "" ∨ (Text.lower text).toList <:+: (Text.lower name).toList

namespace Store

variable {query? : Option String}

theorem nameFits_searchText_iff {name : String} :
    nameFits (searchText query?) name = true ↔ NameHas (trimmedQuery query?) name := by
  rw [searchText_eq_given?, NameHas]
  by_cases h : trimmedQuery query? = ""
  · rw [h, given?_some_eq_none_iff.mpr rfl]
    exact iff_of_true rfl (.inl rfl)
  · rw [given?_some_of_ne h]
    simp [nameFits, h, Text.containsIgnoringCase, Text.isInfix_iff]

/-- A component is found by its name or its key. -/
theorem componentFits_searchText_iff {c : Component} :
    componentFits (searchText query?) c = true ↔
      NameHas (trimmedQuery query?) c.name ∨ c.key = trimmedQuery query? := by
  rw [componentFits, Bool.or_eq_true, nameFits_searchText_iff, beq_iff_eq]
  by_cases h : trimmedQuery query? = ""
  · simp [h, NameHas]
  · rw [searchText_eq_given?, given?_some_of_ne h, Option.some.injEq, eq_comm]

end Store

end Entitlements
