/-!
# Tokens of patterns

A pattern is read token by token. A backslash forms one token with the character after it; at the
end of a pattern it dangles.
-/

namespace Entitlements.Pattern

/-- A token of a pattern. -/
inductive Token where
  /-- A character. -/
  | plain (c : Char)
  /-- A character after a backslash. -/
  | escaped (c : Char)
  /-- A backslash at the end. -/
  | dangling
  deriving DecidableEq, Repr, Inhabited

namespace Token

/-- The tokens of a text. -/
def lex : List Char → List Token
  | [] => []
  | ['\\'] => [.dangling]
  | '\\' :: c :: rest => .escaped c :: lex rest
  | c :: rest => .plain c :: lex rest

/-- The characters of a token. -/
def chars : Token → List Char
  | .plain c => [c]
  | .escaped c => ['\\', c]
  | .dangling => ['\\']

/-- No character of a text is lost. -/
theorem flatMap_chars_lex (cs : List Char) : (lex cs).flatMap chars = cs := by
  fun_induction lex cs <;> simp_all [chars]

end Token

end Entitlements.Pattern
