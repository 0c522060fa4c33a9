import Entitlements.Json.Reader
import Entitlements.Text.Utf8

/-!
# Percent-encoded text

Two hexadecimal digits after a percent sign stand for a byte. A percent sign without them stands
for itself. The bytes are read as UTF-8, errors replaced.
-/

namespace Entitlements.Http

open Entitlements.Text

/-- A plus sign stands for a space in queries and forms. -/
def plusToSpace (s : String) : String :=
  s.map fun c => if c == '+' then ' ' else c

/-- Replace every escape by its byte. -/
def unescape : List Char → List UInt8
  | '%' :: a :: b :: rest =>
    match Json.hexValue? a, Json.hexValue? b with
    | some h, some l => UInt8.ofNat (16 * h + l) :: unescape rest
    | _, _ => UInt8.ofNat 0x25 :: unescape (a :: b :: rest)
  | c :: rest => encode c.toString ++ unescape rest
  | [] => []

/-- The text that a percent-encoded text stands for. -/
def decodePercent (s : String) : String :=
  if s.contains '%' then decodeLenient (unescape s.toList) else s

/-- The text of a name or value in a query or a form. -/
def decodePart (s : String) : String :=
  decodePercent (plusToSpace s)

end Entitlements.Http
