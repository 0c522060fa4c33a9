import Entitlements.Program

/-!
# Surroundings

What programs find around the store: a clock that stands still, identifiers that are numbered from
one, a log, and the service that knows tokens.
-/

namespace Entitlements

/-- The identifier of a number, which stands in its last group of digits. -/
def uuidOf (n : Nat) : String :=
  "00000000-0000-4000-8000-" ++ Instant.padded 12 n

/-- The number can be read off the identifier, so that no two numbers have one identifier. -/
theorem uuidOf_injective {m n : Nat} (h : uuidOf m = uuidOf n) : m = n := by
  have hread (n : Nat) : Nat.ofDigitChars 10 (Instant.padded 12 n).toList 0 = n := by
    simp [Instant.padded, Nat.ofDigitChars_append]
  have hdigits : Instant.padded 12 m = Instant.padded 12 n := (String.append_right_inj _).mp h
  rw [← hread m, hdigits, hread n]

/-- The surroundings of a store. -/
structure Surroundings where
  /-- The time of day. -/
  clock : Instant
  /-- How many identifiers were given out. -/
  issued : Nat := 0
  /-- The events recorded so far. -/
  events : List Event := []
  /-- What is known about tokens. -/
  tokens : List (String × Auth.Introspection) := []
  /-- What the store says when it does not answer. -/
  silence? : Option String := none
  deriving Inhabited

namespace Surroundings

/-- Record an event. -/
def record (e : Event) (s : Surroundings) : Surroundings := { s with events := s.events ++ [e] }

/-- Give out an identifier. -/
def issue (s : Surroundings) : String × Surroundings :=
  (uuidOf (s.issued + 1), { s with issued := s.issued + 1 })

/-- What is known about a token. -/
def introspect (s : Surroundings) (token : String) : Auth.Introspection :=
  (s.tokens.lookup token).getD Auth.Introspection.unknown

/-- Whether the store answers. -/
def probe (s : Surroundings) : Except String Unit :=
  match s.silence? with
  | some error => .error error
  | none => .ok ()

end Surroundings

end Entitlements
