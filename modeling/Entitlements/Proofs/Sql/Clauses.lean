import Entitlements.Proofs.Sql.Marks
import Entitlements.Sql.Like

/-!
# Conditions and rows in the text of a statement

A condition on rows is read from what goes to the database: from the text of a statement, with the
values beside it put at its marks. A condition is true or false of a row, or neither where nothing
would be compared. A statement picks the rows of which its condition is true. The row that a
statement writes is read from it in the same way.
-/

namespace Entitlements.Sql

/-- What a text is made of, for one who reads conditions in it. -/
inductive Symbol where
  /-- A word of no meaning to the reader, such as the name of a column. -/
  | name (s : String)
  /-- A value. -/
  | value (d : Datum)
  /-- A mark for a value that goes beside the text. -/
  | mark (m : Mark)
  | and
  | or
  | is
  | not
  | null
  | like
  | escape
  | lower
  | equal
  | opening
  | closing
  /-- A character of no meaning to the reader. -/
  | other (c : Char)
  deriving DecidableEq, Repr

namespace Symbol

/-- The words that mean something in a condition. -/
def reserved : List (String × Symbol) :=
  [("AND", and), ("OR", or), ("IS", is), ("NOT", not), ("NULL", null), ("LIKE", like),
    ("ESCAPE", escape), ("lower", lower)]

/-- A word as it is read. -/
def ofWord (w : String) : Symbol := (reserved.lookup w).getD (name w)

/-- A character between words as it is read. -/
def ofSign : Char → Symbol
  | '=' => equal
  | '(' => opening
  | ')' => closing
  | c => other c

/-- The symbols of a text. Quotation marks stand around a word or a slash only. -/
def all? : List Token → Option (List Symbol)
  | [] => some []
  | .sign ' ' :: rest => all? rest
  | .sign '\'' :: .word w :: .sign '\'' :: rest => (all? rest).map (value (.text (.ofList w)) :: ·)
  | .sign '\'' :: .sign '/' :: .sign '\'' :: rest => (all? rest).map (value (.text "/") :: ·)
  | .sign '%' :: .word ['s'] :: rest => (all? rest).map (mark .next :: ·)
  | .sign '%' :: .sign '(' :: .word w :: .sign ')' :: .word ['s'] :: rest =>
    (all? rest).map (mark (.named (.ofList w)) :: ·)
  | .sign c :: rest => if c == '\'' || c == '%' then none else (all? rest).map (ofSign c :: ·)
  | .word w :: rest => (all? rest).map (ofWord (.ofList w) :: ·)

/-- The symbols of a text that is made of the characters. -/
def ofText? (cs : List Char) : Option (List Symbol) := all? (Token.all cs)

/-- Values are put at the marks one after the other, and none is left. -/
def fill? : List Symbol → List Datum → Option (List Symbol)
  | [], [] => some []
  | [], _ :: _ => none
  | mark .next :: rest, d :: ds => (fill? rest ds).map (value d :: ·)
  | mark _ :: _, _ => none
  | s :: rest, ds => (fill? rest ds).map (s :: ·)

/-- The value under its name is put at a mark. -/
def fillNamed? (values : List (String × Datum)) : Symbol → Option Symbol
  | mark (.named key) => (values.lookup key).map value
  | mark .next => none
  | s => some s

end Symbol

/-- What goes beside a text is put at the marks in it. -/
def Binding.fill? : Binding → List Symbol → Option (List Symbol)
  | .none, ss => Symbol.fill? ss []
  | .ordered values, ss => Symbol.fill? ss values
  | .named values, ss => ss.mapM (Symbol.fillNamed? values)

/-- The symbols of a fragment, with its values at the marks. -/
def Fragment.symbols? (f : Fragment) : Option (List Symbol) :=
  (Symbol.ofText? f.text.toList).bind f.binding.fill?

/-- A condition on a row. -/
inductive Formula where
  /-- The column holds the value. -/
  | equals (column : String) (d : Datum)
  /-- The column holds a text that is made of the parts once it is in lower case. -/
  | like (column : String) (parts : List Like.Part)
  /-- The column holds nothing. -/
  | isNull (column : String)
  /-- The column holds something. -/
  | notNull (column : String)
  /-- Both hold. -/
  | both (a b : Formula)
  /-- One of them holds. -/
  | either (a b : Formula)
  deriving DecidableEq, Repr

namespace Formula

/-- What was read since a parenthesis was opened: the alternatives that are complete, and the
conditions that hold together with what is read next. -/
structure Level where
  /-- The alternatives. -/
  either? : Option Formula := none
  /-- The beginning of the last alternative. -/
  both? : Option Formula := none

/-- The last alternative with one more condition. -/
def Level.join (l : Level) (f : Formula) : Formula :=
  match l.both? with
  | some g => both g f
  | none => f

/-- All alternatives. -/
def Level.close (l : Level) (f : Formula) : Formula :=
  match l.either? with
  | some g => either g (l.join f)
  | none => l.join f

mutual

/-- Read on where a condition is due. -/
def readTest : List Level → List Symbol → Option Formula
  | levels, .opening :: rest => readTest ({} :: levels) rest
  | levels, .name c :: .equal :: .value d :: rest => readOn levels (equals c d) rest
  | levels, .name c :: .is :: .null :: rest => readOn levels (isNull c) rest
  | levels, .name c :: .is :: .not :: .null :: rest => readOn levels (notNull c) rest
  | levels, .lower :: .opening :: .name c :: .closing :: .like :: .value (.text pattern) ::
      .escape :: .value (.text "/") :: rest =>
    match Like.parts? pattern.toList with
    | some parts => readOn levels (like c parts) rest
    | none => none
  | _, _ => none

/-- Read on after a condition. -/
def readOn : List Level → Formula → List Symbol → Option Formula
  | [l], f, [] => some (l.close f)
  | l :: levels, f, .and :: rest => readTest ({ l with both? := some (l.join f) } :: levels) rest
  | l :: levels, f, .or :: rest => readTest ({ either? := some (l.close f) } :: levels) rest
  | l :: outer :: levels, f, .closing :: rest => readOn (outer :: levels) (l.close f) rest
  | _, _, _ => none

end

/-- The condition that symbols spell. -/
def read? (ss : List Symbol) : Option Formula := readTest [{}] ss

/-- Both, where each may be neither true nor false. -/
def and? : Option Bool → Option Bool → Option Bool
  | some false, _ => some false
  | _, some false => some false
  | some true, some true => some true
  | _, _ => none

/-- One of two, where each may be neither true nor false. -/
def or? : Option Bool → Option Bool → Option Bool
  | some true, _ => some true
  | _, some true => some true
  | some false, some false => some false
  | _, _ => none

/-- Whether the condition is true of a row, given what is lower case to the database. Nothing is
neither equal nor unequal to anything. -/
def truth (lower : String → String) (row : String → Datum) : Formula → Option Bool
  | equals c d => if row c = .null ∨ d = .null then none else some (row c == d)
  | like c parts =>
    match row c with
    | .text s => some (Like.accept parts (lower s).toList)
    | _ => none
  | isNull c => some (row c == .null)
  | notNull c => some (row c != .null)
  | both a b => and? (a.truth lower row) (b.truth lower row)
  | either a b => or? (a.truth lower row) (b.truth lower row)

/-- The row is picked by the condition. -/
def Picks (lower : String → String) (f : Formula) (row : String → Datum) : Prop :=
  f.truth lower row = some true

end Formula

/-- Where a statement looks, and for which rows. -/
structure Clause where
  /-- The table. -/
  table : String
  /-- The condition. -/
  condition : Formula

/-- The table and the condition in a statement on a single table. -/
def Clause.read? : List Symbol → Option Clause
  | .name "FROM" :: .name table :: .name "WHERE" :: rest => (Formula.read? rest).map (⟨table, ·⟩)
  | _ :: rest => read? rest
  | [] => none

/-- The statement picks the row of the table. -/
def Fragment.Selects (lower : String → String) (f : Fragment) (table : String)
    (row : String → Datum) : Prop :=
  ∃ condition, f.symbols?.bind Clause.read? = some ⟨table, condition⟩ ∧ condition.Picks lower row

/-- What a statement writes, and where. -/
structure Insertion where
  /-- The table. -/
  table : String
  /-- The values with their columns. -/
  row : List (String × Datum)

namespace Insertion

/-- The values of columns that were listed. There is one for each. -/
def readValues : List String → List Symbol → Option (List (String × Datum))
  | [c], [.value d, .closing] => some [(c, d)]
  | c :: cs, .value d :: .other ',' :: rest => (readValues cs rest).map ((c, d) :: ·)
  | _, _ => none

/-- Columns, and then their values. -/
def readColumns (listed : List String) : List Symbol → Option (List (String × Datum))
  | .name c :: .other ',' :: rest => readColumns (listed ++ [c]) rest
  | .name c :: .closing :: .name "VALUES" :: .opening :: rest => readValues (listed ++ [c]) rest
  | _ => none

/-- The table and the row in a statement that writes a single row. -/
def read? : List Symbol → Option Insertion
  | .name "INSERT" :: .name "INTO" :: .name table :: .opening :: rest =>
    (readColumns [] rest).map (⟨table, ·⟩)
  | _ => none

end Insertion

/-- The cells of a row. A column that is left out holds nothing. -/
def cells (row : List (String × Datum)) (column : String) : Datum := (row.lookup column).getD .null

/-- The statement writes the row into the table. -/
def Fragment.Inserts (f : Fragment) (table : String) (row : String → Datum) : Prop :=
  ∃ entries, f.symbols?.bind Insertion.read? = some ⟨table, entries⟩ ∧ cells entries = row

namespace Formula

variable {lower : String → String} {row : String → Datum} {a b : Formula}

/-- To be equal to something a column has to hold something. -/
theorem picks_equals_iff {column : String} {d : Datum} :
    (equals column d).Picks lower row ↔ row column = d ∧ d ≠ .null := by
  rw [Picks, truth]
  split
  next h =>
    refine iff_of_false nofun ?_
    rintro ⟨rfl, hd⟩
    exact hd (or_self_iff.mp h)
  next h =>
    rw [not_or] at h
    simp [h.2]

theorem picks_both_iff : (both a b).Picks lower row ↔ a.Picks lower row ∧ b.Picks lower row := by
  simp only [Picks, truth]
  rcases a.truth lower row with _ | _ | _ <;> rcases b.truth lower row with _ | _ | _ <;>
    simp [and?]

theorem picks_either_iff :
    (either a b).Picks lower row ↔ a.Picks lower row ∨ b.Picks lower row := by
  simp only [Picks, truth]
  rcases a.truth lower row with _ | _ | _ <;> rcases b.truth lower row with _ | _ | _ <;>
    simp [or?]

theorem picks_foldl_both_iff {f : Formula} {fs : List Formula} :
    (fs.foldl both f).Picks lower row ↔ ∀ g ∈ f :: fs, g.Picks lower row := by
  induction fs generalizing f with
  | nil => simp
  | cons g fs ih =>
    rw [List.foldl_cons, ih]
    simp [picks_both_iff, and_assoc]

end Formula

end Entitlements.Sql
