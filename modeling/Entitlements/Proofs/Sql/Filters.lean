import Entitlements.Proofs.Sql.Legible
import Entitlements.Proofs.Sql.Patterns
import Entitlements.Sql.Question
import Entitlements.Store.Select

/-!
# Searches by name

A search text narrows a listing by a condition that is added to its statement. Where the database
and the store in memory agree on what is lower case, the names that the condition lets through are
those that the store in memory finds: the ones with the search text inside, in any case. A text that
is missing or empty adds no condition.
-/

namespace Entitlements.Sql

/-- The condition that a statement comes to by symbols that are added to its condition or begin one.
There can be none still. -/
def Formula.extend? : Option Formula → List Symbol → Option (Option Formula)
  | before?, [] => some before?
  | some before, ss => (readOn [{}] before ss).map some
  | none, .name "WHERE" :: ss => (read? ss).map some
  | none, _ => none

/-- Of the rows that were picked before, the fragment keeps those on which the test is passed. -/
def Fragment.Keeps (lower : String → String) (f : Fragment) (before? : Option Formula)
    (row : String → Datum) (test : Bool) : Prop :=
  ∃ after?, f.symbols?.bind (Formula.extend? before?) = some after? ∧
    ((∀ condition ∈ after?, condition.Picks lower row) ↔
      (∀ condition ∈ before?, condition.Picks lower row) ∧ test = true)

section Names

variable {query? : Option String} {query name : String}

theorem eq_some_of_searched (h : searched query? = some query) : query? = some query :=
  (Option.filter_eq_some_iff.mp h).1

/-- Without a search text every name is found. -/
theorem nameFits_of_searched_none (h : searched query? = none) :
    Store.nameFits query? name = true := by
  cases query? with
  | none => rfl
  | some query =>
    have hempty : query.isEmpty = true := by simpa [searched] using h
    simp [Store.nameFits, hempty]

/-- With a search text, the names with the text inside are found. -/
theorem nameFits_of_searched_some (h : searched query? = some query) :
    Store.nameFits query? name = true ↔
      (Text.lower query).toList <:+: (Text.lower name).toList := by
  obtain ⟨rfl, hempty⟩ := Option.filter_eq_some_iff.mp h
  simp_all [Store.nameFits, Text.containsIgnoringCase, Text.isInfix_iff]

end Names

/-- The texts that match the pattern of a search text are those with it inside, in lower case. -/
theorem matches_containing_iff {query : String} {parts : List Like.Part} {cs : List Char}
    (hparts : Like.parts? (containing query).toList = some parts) :
    Like.Matches parts cs ↔ (Text.lower query).toList <:+: cs := by
  rw [parts?_containing] at hparts
  rw [← Option.some.inj hparts]
  exact Like.matches_within_runs_iff

/-- A condition on a name as it is read. -/
def likeSymbols (column : String) (value : Symbol) : List Symbol :=
  [.lower, .opening, .name column, .closing, .like, value, .escape, .value (.text "/")]

variable {lower : String → String} {row : String → Datum} {column name query : String}

/-- The pattern of a search text is read to its end, and the condition picks the names with the text
inside. -/
theorem readTest_likeSymbols (levels : List Formula.Level) (rest : List Symbol)
    (query column : String) :
    ∃ f, Formula.readTest levels (likeSymbols column (.value (.text (containing query))) ++ rest) =
        Formula.readOn levels f rest ∧
      ∀ (lower : String → String) row name, lower name = Text.lower name → row column = .text name →
        (f.Picks lower row ↔ (Text.lower query).toList <:+: (Text.lower name).toList) := by
  obtain ⟨parts, hparts⟩ : ∃ parts, Like.parts? (containing query).toList = some parts :=
    ⟨_, parts?_containing query⟩
  refine ⟨.like column parts, ?_, fun lower row name hlower hrow => ?_⟩
  · simp [likeSymbols, Formula.readTest, hparts]
  · simp [Formula.Picks, Formula.truth, hrow, hlower, Like.accept_iff_matches,
      matches_containing_iff hparts]

/-- No words keep all rows. -/
theorem Fragment.keeps_nil {test : Bool} (before? : Option Formula) (htest : test = true) :
    Fragment.Keeps lower [] before? row test := by
  refine ⟨before?, rfl, ?_⟩
  simp [htest]

/-- What was read of a fragment tells the rows that it keeps. -/
theorem Fragment.keeps_of_symbols {f : Fragment} {ss : List Symbol} {before? : Option Formula}
    (after : Formula) {test : Bool} (hsymbols : f.symbols? = some ss)
    (hextend : Formula.extend? before? ss = some (some after))
    (hafter : after.Picks lower row ↔
      (∀ condition ∈ before?, condition.Picks lower row) ∧ test = true) :
    f.Keeps lower before? row test := by
  refine ⟨some after, ?_, ?_⟩
  · rw [hsymbols, Option.bind_some, hextend]
  · simpa using hafter

/-- A condition is added to the one before. -/
theorem Formula.extend?_and (before : Formula) (ss : List Symbol) :
    extend? (some before) (.and :: ss) = (readTest [{ both? := some before }] ss).map some := by
  simp [extend?, readOn, Level.join]

/-- Groups are found by their names. -/
theorem nameFilter_keeps (query? : Option String) (before : Formula)
    (hlower : lower name = Text.lower name) (hrow : row "g.name" = .text name) :
    (nameFilter query?).Keeps lower (some before) row (Store.nameFits query? name) := by
  unfold nameFilter
  cases h : searched query? with
  | none => exact Fragment.keeps_nil _ (nameFits_of_searched_none h)
  | some query =>
    have hsymbols : Fragment.symbols? [.words " AND lower(g.name) LIKE ",
        .place (.text (containing query)), .words " ESCAPE '/'"] =
          some (.and :: (likeSymbols "g.name" (.value (.text (containing query))) ++ [])) :=
      Fragment.Spells.symbols? (.and :: likeSymbols "g.name" (.mark .next))
        (by repeat' constructor) (by decide +kernel)
    obtain ⟨f, hread, hf⟩ := readTest_likeSymbols [{ both? := some before }] [] query "g.name"
    refine Fragment.keeps_of_symbols (.both before f) hsymbols ?_ ?_
    · rw [Formula.extend?_and, hread]
      simp [Formula.readOn, Formula.Level.close, Formula.Level.join]
    · rw [Formula.picks_both_iff, hf lower row name hlower hrow, nameFits_of_searched_some h]
      simp

/-- Projects are found by their names or by their exact keys. -/
theorem projectFilter_keeps (query? : Option String) (before : Formula) {c : Component}
    (hlower : lower c.name = Text.lower c.name) (hname : row "c.name" = .text c.name)
    (hkey : row "c.kee" = .text c.key) :
    (projectFilter query?).Keeps lower (some before) row (Store.componentFits query? c) := by
  unfold projectFilter
  cases h : searched query? with
  | none =>
    exact Fragment.keeps_nil _ (by simp [Store.componentFits, nameFits_of_searched_none h])
  | some query =>
    have hsymbols : Fragment.symbols? [.words " AND (lower(c.name) LIKE ",
        .named "name" (.text (containing query)), .words " ESCAPE '/' OR c.kee = ",
        .named "key" (.text query), .words ")"] =
          some (.and :: .opening :: (likeSymbols "c.name" (.value (.text (containing query))) ++
            [.or, .name "c.kee", .equal, .value (.text query), .closing])) :=
      Fragment.Spells.symbols?
        (.and :: .opening :: (likeSymbols "c.name" (.mark (.named "name")) ++
          [.or, .name "c.kee", .equal, .mark (.named "key"), .closing]))
        (by repeat' constructor) (by decide +kernel)
    obtain ⟨f, hread, hf⟩ := readTest_likeSymbols [{}, { both? := some before }]
      [.or, .name "c.kee", .equal, .value (.text query), .closing] query "c.name"
    have hpicks : (Formula.equals "c.kee" (.text query)).Picks lower row ↔ c.key = query := by
      simp [Formula.picks_equals_iff, hkey]
    -- the parenthesis keeps the key from being an alternative to what stands before it
    refine Fragment.keeps_of_symbols
      (.both before (.either f (.equals "c.kee" (.text query)))) hsymbols ?_ ?_
    · rw [Formula.extend?_and, Formula.readTest, hread]
      simp [Formula.readOn, Formula.readTest, Formula.Level.close, Formula.Level.join]
    · rw [Formula.picks_both_iff, Formula.picks_either_iff, hf lower row c.name hlower hname,
        hpicks, eq_comm (a := c.key), Store.componentFits, Bool.or_eq_true,
        nameFits_of_searched_some h, eq_some_of_searched h]
      simp

/-- Everyone and groups are found by their names. -/
theorem templateHolderFilter_keeps (query? : Option String)
    (hlower : lower name = Text.lower name) (hrow : row "c.name" = .text name) :
    (templateHolderFilter query?).Keeps lower none row (Store.nameFits query? name) := by
  unfold templateHolderFilter
  cases h : searched query? with
  | none => exact Fragment.keeps_nil _ (nameFits_of_searched_none h)
  | some query =>
    have hsymbols : Fragment.symbols? [.words " WHERE lower(c.name) LIKE ",
        .named "query" (.text (containing query)), .words " ESCAPE '/'"] =
          some (.name "WHERE" ::
            (likeSymbols "c.name" (.value (.text (containing query))) ++ [])) :=
      Fragment.Spells.symbols? (.name "WHERE" :: likeSymbols "c.name" (.mark (.named "query")))
        (by repeat' constructor) (by decide +kernel)
    obtain ⟨f, hread, hf⟩ := readTest_likeSymbols [{}] [] query "c.name"
    refine Fragment.keeps_of_symbols f hsymbols ?_ ?_
    · rw [Formula.extend?, Formula.read?, hread]
      simp [Formula.readOn, Formula.Level.close, Formula.Level.join]
    · rw [hf lower row name hlower hrow, nameFits_of_searched_some h]
      simp

/-- The pattern of a search text can be read to its end and matches the texts with the search text,
in lower case, inside. Searches by it therefore keep the rows whose names the store in memory finds,
where the database makes the same of those names in lower case. -/
theorem search_keeps_iff (lower : String → String) :
    (∀ query, ∃ parts, Like.parts? (containing query).toList = some parts ∧
      ∀ s : String, Like.Matches parts s.toList ↔ (Text.lower query).toList <:+: s.toList) ∧
    ∀ (query? : Option String) (before : Formula) (row : String → Datum),
      (∀ g : Group, lower g.name = Text.lower g.name → row "g.name" = .text g.name →
        (nameFilter query?).Keeps lower (some before) row (Store.nameFits query? g.name)) ∧
      (∀ c : Component, lower c.name = Text.lower c.name → row "c.name" = .text c.name →
        row "c.kee" = .text c.key →
        (projectFilter query?).Keeps lower (some before) row (Store.componentFits query? c)) ∧
      ∀ g : TemplateGroup, lower g.name = Text.lower g.name → row "c.name" = .text g.name →
        (templateHolderFilter query?).Keeps lower none row (Store.nameFits query? g.name) := by
  refine ⟨fun query => ⟨_, parts?_containing query, fun s =>
    matches_containing_iff (parts?_containing query)⟩, fun query? before row => ⟨?_, ?_, ?_⟩⟩
  · intro g hlower hrow
    exact nameFilter_keeps query? before hlower hrow
  · intro c hlower hname hkey
    exact projectFilter_keeps query? before hlower hname hkey
  · intro g hlower hrow
    exact templateHolderFilter_keeps query? hlower hrow

/-- The marks of a pattern are found as they stand. -/
theorem search_keeps_marks :
    let g : Group := ⟨11, "org", "At 100%_/ done", none, none, none⟩
    (nameFilter (some "100%_/")).Keeps Text.lower (some (.notNull "g.name")) (fun _ => .text g.name)
      true := by
  intro g
  have hfits : Store.nameFits (some "100%_/") g.name = true := by decide +kernel
  have hkeeps := ((search_keeps_iff Text.lower).2 (some "100%_/") (.notNull "g.name")
    fun _ => .text g.name).1 g rfl rfl
  rwa [hfits] at hkeeps

end Entitlements.Sql
