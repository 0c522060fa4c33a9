import Entitlements.Setup.Settings

/-!
# The log

From which level on events are written, and in which form. A level is known by a name in any
case; a name that stands for nothing means the usual level. Two names stand for something else
than a level and cannot be used.
-/

namespace Entitlements.Setup

/-- How events are written. -/
inductive Renderer where
  /-- As objects, for programs. -/
  | json
  /-- As lines, for readers. -/
  | console
  deriving DecidableEq, Repr, Inhabited

/-- The name of a renderer. -/
def Renderer.name : Renderer → String
  | .json => "JSONRenderer"
  | .console => "ConsoleRenderer"

/-- How the log is set up. -/
structure Logging where
  /-- The number of the level from which on events are written. -/
  level : Nat
  /-- How events are written. -/
  renderer : Renderer
  deriving DecidableEq, Repr, Inhabited

/-- A name that stands for something else than a level. -/
inductive LevelFlaw where
  /-- It stands for the form of a line. -/
  | lineForm
  /-- It stands for the kinds of forms. -/
  | formKinds
  deriving DecidableEq, Repr, Inhabited

namespace Logging

/-- The level that is meant where a name stands for nothing. -/
def usualLevel : Nat := 20

/-- The level at which every event is written for debugging. -/
def debugLevel : Nat := 10

/-- The names of the levels. -/
def levels : List (String × Nat) :=
  [("CRITICAL", 50), ("FATAL", 50), ("ERROR", 40), ("WARNING", 30), ("WARN", 30),
    ("INFO", usualLevel), ("DEBUG", debugLevel), ("NOTSET", 0)]

/-- Small letters outside the ASCII range whose capitals lie within it. -/
def capitals : List (Char × String) :=
  [('ı', "I"), ('ſ', "S"), ('ß', "SS"), ('ﬀ', "FF"), ('ﬁ', "FI"), ('ﬂ', "FL"), ('ﬃ', "FFI"),
    ('ﬄ', "FFL"), ('ﬅ', "ST"), ('ﬆ', "ST")]

/-- A name in capitals, as far as capitals of the ASCII range go. -/
def capital (s : String) : String :=
  String.join (s.toList.map fun c => (capitals.lookup c).getD (String.singleton c.toUpper))

/-- The level of a name. -/
def levelOf (name : String) : Except LevelFlaw Nat :=
  match capital name with
  | "BASIC_FORMAT" => .error .lineForm
  | "_STYLES" => .error .formKinds
  | name => .ok ((levels.lookup name).getD usualLevel)

/-- The log as settings ask for it. -/
def ofSettings (s : Settings) : Except LevelFlaw Logging := do
  let level ← if s.debug then pure debugLevel else levelOf s.logLevel
  return ⟨level, if s.environment == .production then .json else .console⟩

end Logging

end Entitlements.Setup
