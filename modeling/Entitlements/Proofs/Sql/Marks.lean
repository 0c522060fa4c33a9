import Entitlements.Sql.Statement

/-!
# Marks in the text of a statement

The database is given the text of a statement with marks in it, and values beside it. Here the text
alone is read: what its marks are, and of which column or clause each mark is the value. A mark in
the row of an insertion belongs to the column that is listed at its position. A mark that the text
gives a name to belongs to that name. Every other mark belongs to the column or the clause named last
before it. A percent sign that begins no mark makes a text unreadable.
-/

namespace Entitlements.Sql

/-- A mark in the text of a statement. -/
inductive Mark where
  /-- The mark for the next value. -/
  | next
  /-- The mark for the value under a name. -/
  | named (name : String)
  deriving DecidableEq, Repr

/-- A part of a text. -/
inductive Token where
  /-- A word. A qualified name is one word. -/
  | word (cs : List Char)
  /-- A character between words. -/
  | sign (c : Char)
  deriving DecidableEq, Repr

namespace Token

/-- The character is part of a word. -/
def isInner (c : Char) : Bool := c.isAlphanum || c == '_' || c == '.'

/-- The tokens of a text with one more character at its beginning. -/
def cons (c : Char) : List Token → List Token
  | .word cs :: rest => if isInner c then .word (c :: cs) :: rest else .sign c :: .word cs :: rest
  | rest => if isInner c then .word [c] :: rest else .sign c :: rest

/-- The tokens of a text. -/
def all (text : List Char) : List Token := text.foldr cons []

/-- The name that is given to what stands before, together with its type. -/
def alias? : List Token → Option String
  | .sign ':' :: .sign ':' :: .word _ :: .sign ' ' :: .word ['A', 'S'] :: .sign ' ' ::
    .word name :: _ => some (.ofList name)
  | _ => none

end Token

/-- How far a text has been read. -/
structure Reading where
  /-- The column or the clause named last, since the last mark. -/
  column : String := ""
  /-- What was named since the last parenthesis was opened. -/
  listed : List String := []
  /-- The columns of an insertion that have no value yet. -/
  waiting : List String := []

namespace Reading

/-- The words that can stand between a column and the mark for its value. -/
def connectives : List String := ["lower", "IS", "DISTINCT", "FROM", "LIKE"]

/-- Go on by a word. -/
def word (r : Reading) (w : String) : Reading :=
  if w == "VALUES" then { r with waiting := r.listed }
  else if connectives.contains w then r
  else { r with column := w, listed := r.listed ++ [w] }

/-- What a mark belongs to, given what comes after it. -/
def mark (r : Reading) (rest : List Token) : String × Reading :=
  match r.waiting with
  | column :: waiting => (column, { r with waiting })
  | [] => ((Token.alias? rest).getD r.column, { r with column := "" })

/-- The marks with what they belong to. -/
def marks? (r : Reading) : List Token → Option (List (String × Mark))
  | [] => some []
  | .sign '%' :: .word ['s'] :: rest =>
    (marks? (r.mark rest).2 rest).map (((r.mark rest).1, .next) :: ·)
  | .sign '%' :: .sign '(' :: .word name :: .sign ')' :: .word ['s'] :: rest =>
    (marks? (r.mark rest).2 rest).map (((r.mark rest).1, .named (.ofList name)) :: ·)
  | .sign c :: rest =>
    if c == '%' then none
    else marks? (if c == '(' then { r with listed := [] } else r) rest
  | .word w :: rest => marks? (r.word (.ofList w)) rest

end Reading

/-- The marks in a text with the columns and clauses that they belong to. -/
def marksOf? (text : String) : Option (List (String × Mark)) :=
  Reading.marks? {} (Token.all text.toList)

/-- The text is made of these characters. -/
inductive Spells : String → List Char → Prop
  | literal (cs : List Char) : Spells (.ofList cs) cs
  | append {s t : String} {cs ds : List Char} (hs : Spells s cs) (ht : Spells t ds) :
    Spells (s ++ t) (cs ++ ds)

/-- The text of the fragment is made of these characters. -/
inductive Fragment.Spells : Fragment → List Char → Prop
  | nil : Fragment.Spells [] []
  | words {s : String} {f : Fragment} {cs ds : List Char} (hs : Sql.Spells s cs)
    (hf : Fragment.Spells f ds) : Fragment.Spells (.words s :: f) (cs ++ ds)
  | place {d : Datum} {f : Fragment} {cs : List Char} (hf : Fragment.Spells f cs) :
    Fragment.Spells (.place d :: f) ('%' :: 's' :: cs)
  | named {name : String} {d : Datum} {f : Fragment} {cs ds : List Char}
    (hs : Sql.Spells name cs) (hf : Fragment.Spells f ds) :
    Fragment.Spells (.named name d :: f) ('%' :: '(' :: (cs ++ ')' :: 's' :: ds))

theorem Spells.toList_eq {s : String} {cs : List Char} (h : Spells s cs) : s.toList = cs := by
  induction h with
  | append _ _ ihs iht => rw [String.toList_append, ihs, iht]
  | literal cs => exact String.toList_ofList

namespace Fragment

variable {f : Fragment} {cs : List Char}

@[simp] theorem toList_text_cons (p : Piece) (f : Fragment) :
    (text (p :: f)).toList = p.text.toList ++ f.text.toList := by
  simp [text]

/-- The text of a fragment is spelled as its pieces are. -/
theorem Spells.toList_text (h : f.Spells cs) : f.text.toList = cs := by
  induction h with
  | nil => simp [text]
  | words hs _ ih => rw [toList_text_cons, ih, Piece.text, hs.toList_eq]
  | place _ ih =>
    rw [toList_text_cons, ih, Piece.text]
    simp
  | named hs _ ih =>
    rw [toList_text_cons, ih, Piece.text, String.toList_append, String.toList_append, hs.toList_eq]
    simp

theorem Spells.marksOf? (h : f.Spells cs) : Sql.marksOf? f.text = Reading.marks? {} (Token.all cs) := by
  rw [Sql.marksOf?, h.toList_text]

end Fragment

end Entitlements.Sql
