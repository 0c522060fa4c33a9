import Entitlements.Text.Lower

/-!
# Search patterns

The patterns of the database's name searches: a percent sign stands for any run of characters, an
underscore for any one character, and a slash makes the character after it stand for itself. The
pattern of a search text asks for names that contain it in any case.
-/

namespace Entitlements.Sql

namespace Like

/-- One part of a pattern. -/
inductive Part where
  /-- Any run of characters. -/
  | run
  /-- Any one character. -/
  | one
  /-- One character that is given. -/
  | exactly (c : Char)
  deriving DecidableEq, Repr

/-- The parts of a pattern. There are none where nothing follows a slash. -/
def parts? : List Char → Option (List Part)
  | [] => some []
  | ['/'] => none
  | '/' :: c :: rest => (parts? rest).map (.exactly c :: ·)
  | c :: rest =>
    let part := if c == '%' then .run else if c == '_' then .one else .exactly c
    (parts? rest).map (part :: ·)

/-- A text is made of the given parts. -/
def accept : List Part → List Char → Bool
  | [], cs => cs.isEmpty
  | .run :: parts, [] => accept parts []
  | .run :: parts, c :: cs => accept parts (c :: cs) || accept (.run :: parts) cs
  | _ :: _, [] => false
  | .one :: parts, _ :: cs => accept parts cs
  | .exactly d :: parts, c :: cs => c == d && accept parts cs
termination_by parts cs => (parts.length, cs.length)

/-- A text matches a pattern, which has to be complete. -/
def matches? (pattern text : String) : Option Bool :=
  (parts? pattern.toList).map (accept · text.toList)

/-- A character as it stands for itself in a pattern. -/
def escape (c : Char) : List Char :=
  if c == '/' || c == '%' || c == '_' then ['/', c] else [c]

end Like

/-- The pattern of the texts that contain a search text, once both are in lower case. -/
def containing (query : String) : String :=
  String.ofList ('%' :: (Text.lower query).toList.flatMap Like.escape ++ ['%'])

end Entitlements.Sql
