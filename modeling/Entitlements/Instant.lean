/-!
# Instants

Dates with a time of day and, where known, the distance from universal time. Reading accepts the
extended and the basic notation of ISO 8601, fractions of a second of any length (six digits are
kept) and offsets; writing gives the extended notation, and microseconds only where there are
any.
-/

namespace Entitlements

/-- A date and a time of day with its offset from universal time in seconds. -/
structure Instant where
  /-- Days since 1 January 1970. -/
  day : Int
  /-- Seconds since midnight. -/
  second : Nat
  /-- Microseconds within the second. -/
  micro : Nat
  /-- Seconds ahead of universal time; none where it is not known. -/
  offset : Option Int
  deriving DecidableEq, Repr, Inhabited

namespace Instant

/-- Days since 1 January 1970 of a date of the Gregorian calendar. -/
def dayOf (year month dayOfMonth : Int) : Int :=
  let y := if month ≤ 2 then year - 1 else year
  let era := Int.fdiv y 400
  let yoe := y - era * 400
  let m := Int.fmod (month + 9) 12
  let doy := Int.fdiv (153 * m + 2) 5 + dayOfMonth - 1
  let doe := yoe * 365 + Int.fdiv yoe 4 - Int.fdiv yoe 100 + doy
  era * 146097 + doe - 719468

/-- Year, month and day of month of a number of days since 1 January 1970. -/
def dateOf (day : Int) : Int × Int × Int :=
  let z := day + 719468
  let era := Int.fdiv z 146097
  let doe := z - era * 146097
  let yoe := Int.fdiv (doe - Int.fdiv doe 1460 + Int.fdiv doe 36524 - Int.fdiv doe 146096) 365
  let doy := doe - (365 * yoe + Int.fdiv yoe 4 - Int.fdiv yoe 100)
  let mp := Int.fdiv (5 * doy + 2) 153
  let d := doy - Int.fdiv (153 * mp + 2) 5 + 1
  let m := if mp < 10 then mp + 3 else mp - 9
  let y := yoe + era * 400 + (if m ≤ 2 then 1 else 0)
  (y, m, d)

/-- A number with at least `width` digits. -/
def padded (width n : Nat) : String :=
  let ds := Nat.toDigits 10 n
  String.ofList (List.replicate (width - ds.length) '0' ++ ds)

/-- The offset as text. -/
def offsetText : Option Int → String
  | none => ""
  | some s =>
    let n := s.natAbs
    (if s < 0 then "-" else "+") ++ padded 2 (n / 3600) ++ ":" ++ padded 2 (n / 60 % 60) ++
      (if n % 60 = 0 then "" else ":" ++ padded 2 (n % 60))

/-- The text of an instant. -/
def text (t : Instant) : String :=
  let (y, m, d) := dateOf t.day
  padded 4 y.toNat ++ "-" ++ padded 2 m.toNat ++ "-" ++ padded 2 d.toNat ++ "T" ++
    padded 2 (t.second / 3600) ++ ":" ++ padded 2 (t.second / 60 % 60) ++ ":" ++
    padded 2 (t.second % 60) ++
    (if t.micro = 0 then "" else "." ++ padded 6 t.micro) ++ offsetText t.offset

/-- The same instant in universal time. An instant without an offset is taken as such. -/
def toUniversal (t : Instant) : Instant :=
  let seconds := t.day * 86400 + t.second - t.offset.getD 0
  ⟨Int.fdiv seconds 86400, (Int.fmod seconds 86400).toNat, t.micro, some 0⟩

/-- A number of exactly `width` digits in front of a text. -/
def takeNat? (width : Nat) (cs : List Char) : Option (Nat × List Char) :=
  let ds := cs.take width
  if ds.length = width && ds.all Char.isDigit then
    some (ds.foldl (fun n c => 10 * n + (c.toNat - 0x30)) 0, cs.drop width)
  else none

/-- Drop a separator that is there or not. -/
def skip (c : Char) : List Char → List Char
  | d :: rest => if c == d then rest else d :: rest
  | [] => []

/-- The first six digits of a fraction as microseconds, and what follows the fraction. -/
def takeFraction (cs : List Char) : Nat × List Char :=
  let ds := cs.takeWhile Char.isDigit
  let six := (ds ++ List.replicate 6 '0').take 6
  (six.foldl (fun n c => 10 * n + (c.toNat - 0x30)) 0, cs.dropWhile Char.isDigit)

/-- Hours with minutes and seconds where given: seconds, microseconds and the rest. -/
def takeTime? (cs : List Char) : Option (Nat × Nat × List Char) := do
  let (h, rest) ← takeNat? 2 cs
  match takeNat? 2 (skip ':' rest) with
  | none => return (h * 3600, 0, rest)
  | some (m, rest) =>
    match takeNat? 2 (skip ':' rest) with
    | none => return (h * 3600 + m * 60, 0, rest)
    | some (s, rest) =>
      match rest with
      | c :: more =>
        if c == '.' || c == ',' then
          let (micro, rest) := takeFraction more
          return (h * 3600 + m * 60 + s, micro, rest)
        else return (h * 3600 + m * 60 + s, 0, c :: more)
      | [] => return (h * 3600 + m * 60 + s, 0, [])

/-- The offset at the end of a text. -/
def readOffset? : List Char → Option (Option Int)
  | [] => some none
  | ['Z'] => some (some 0)
  | '+' :: rest =>
    match takeTime? rest with
    | some (s, _, []) => some (some (s : Int))
    | _ => none
  | '-' :: rest =>
    match takeTime? rest with
    | some (s, _, []) => some (some (-(s : Int)))
    | _ => none
  | _ => none

/-- The instant that a text writes. -/
def read? (s : String) : Option Instant := do
  let (y, rest) ← takeNat? 4 s.toList
  let (m, rest) ← takeNat? 2 (skip '-' rest)
  let (d, rest) ← takeNat? 2 (skip '-' rest)
  if y = 0 ∨ m = 0 ∨ 12 < m ∨ d = 0 ∨ 31 < d then none
  else
    let day := dayOf y m d
    match rest with
    | [] => return ⟨day, 0, 0, none⟩
    | _ :: rest =>
      let (second, micro, rest) ← takeTime? rest
      let offset ← readOffset? rest
      return ⟨day, second, micro, offset⟩

end Instant

end Entitlements
