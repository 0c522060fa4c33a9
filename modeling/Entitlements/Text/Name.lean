import Entitlements.Text.Classes
import Entitlements.Text.NameTable

/-!
# Names of characters

The character that a name or an alias stands for (Unicode 14). Names are listed in a table, in any
case of their letters, except for those that follow a rule: the name of a Hangul syllable spells
the syllable, and the names of ideographs and of some scripts end with the code point. Hangul
syllables and unified ideographs are known by capital letters only.
-/

namespace Entitlements.Text

/-- What follows the beginning of a name. -/
def after? (start : String) (name : List Char) : Option (List Char) :=
  if start.toList.isPrefixOf name then some (name.drop start.length) else none

/-! ## Listed names -/

/-- The first parts of a name. A part goes up to a blank or a hyphen. -/
def parts : Nat → List Char → List Char
  | 0, _ => []
  | _, [] => []
  | n + 1, c :: rest => c :: parts (if c == ' ' || c == '-' then n else n + 1) rest

/-- The names of a run, given the name before them. -/
def unfoldNames (before : List Char) : List (List Char) → List (List Char)
  | [] => []
  | [] :: rest => [] :: unfoldNames [] rest
  | (shared :: added) :: rest =>
    let name := parts (shared.toNat - 0x30) before ++ added
    name :: unfoldNames name rest

/-- Every entry gives one name, so that the names of a run keep to their code points. -/
theorem length_unfoldNames (before : List Char) (entries : List (List Char)) :
    (unfoldNames before entries).length = entries.length := by
  induction entries generalizing before with
  | nil => rfl
  | cons entry rest ih =>
    cases entry with
    | nil => exact congrArg (· + 1) (ih [])
    | cons shared added => exact congrArg (· + 1) (ih _)

/-- The character of a name in a run. -/
def NameRun.find? (r : NameRun) (name : List Char) : Option Char :=
  let entries := r.names.flatMap fun line => line.toList.splitOn ';'
  ((unfoldNames [] entries).idxOf? name).map fun i => Char.ofNat (r.first + i)

example : NameRun.find? ⟨0x30, ["0DIGIT ZERO;1ONE;1TWO"]⟩ "DIGIT TWO".toList = some '2' := by
  decide +kernel

/-! ## Names with code points -/

/-- A code point in four or five hexadecimal digits with capital letters. -/
def readCode? (cs : List Char) : Option Nat :=
  let digit? (c : Char) : Option Nat :=
    if c.isDigit then some (c.toNat - 0x30)
    else if 'A' ≤ c ∧ c ≤ 'F' then some (c.toNat - 0x37)
    else none
  if cs.length = 4 ∨ cs.length = 5 then cs.foldlM (fun n c => (digit? c).map (16 * n + ·)) 0
  else none

/-- What the name of a unified ideograph begins with. -/
def unifiedPrefix : String := "CJK UNIFIED IDEOGRAPH-"

/-- The unified ideographs. -/
def unifiedIdeographs : Ranges :=
  [(0x3400, 0x4DBF), (0x4E00, 0x9FFF), (0x20000, 0x2A6DF), (0x2A700, 0x2B738), (0x2B740, 0x2B81D),
    (0x2B820, 0x2CEA1), (0x2CEB0, 0x2EBE0), (0x30000, 0x3134A)]

/-- The unified ideograph of a code point. -/
def unifiedIdeograph? (code : List Char) : Option Char :=
  ((readCode? code).map Char.ofNat).filter unifiedIdeographs.covers

/-- What the names of other characters with their code points begin with. -/
def codedNames : List (String × Ranges) :=
  [("CJK COMPATIBILITY IDEOGRAPH-", [(0xF900, 0xFA6D), (0xFA70, 0xFAD9), (0x2F800, 0x2FA1D)]),
    ("KHITAN SMALL SCRIPT CHARACTER-", [(0x18B00, 0x18CD5)]),
    ("NUSHU CHARACTER-", [(0x1B170, 0x1B2FB)])]

/-- The character of a name that ends with its code point, without a zero in front. -/
def codedCharacter? (name : List Char) : Option Char :=
  codedNames.findSome? fun (start, characters) => do
    let code ← after? start name
    let n ← readCode? code
    if code.length = 5 && n < 0x10000 then none
    else (some (Char.ofNat n)).filter characters.covers

/-! ## Hangul syllables -/

/-- What the name of a Hangul syllable begins with. -/
def hangulPrefix : String := "HANGUL SYLLABLE "

/-- The consonants in front of a vowel. -/
def hangulInitials : List String :=
  ["G", "GG", "N", "D", "DD", "R", "M", "B", "BB", "S", "SS", "", "J", "JJ", "C", "K", "T", "P",
    "H"]

/-- The vowels. -/
def hangulVowels : List String :=
  ["A", "AE", "YA", "YAE", "EO", "E", "YEO", "YE", "O", "WA", "WAE", "OE", "YO", "U", "WEO", "WE",
    "WI", "YU", "EU", "YI", "I"]

/-- The consonants behind a vowel. -/
def hangulFinals : List String :=
  ["", "G", "GG", "GS", "N", "NJ", "NH", "D", "L", "LG", "LM", "LB", "LS", "LT", "LP", "LH", "M",
    "B", "BS", "S", "SS", "NG", "J", "C", "K", "T", "P", "H"]

/-- The place of the longest of the spellings that a text begins with, and what follows it. -/
def longest? (spellings : List String) (cs : List Char) : Option (Nat × List Char) :=
  let found := spellings.zipIdx.filter fun (s, _) => s.toList.isPrefixOf cs
  let longer (best? : Option (String × Nat)) (s : String × Nat) :=
    if best?.all (·.1.length < s.1.length) then some s else best?
  (found.foldl longer none).map fun (s, i) => (i, cs.drop s.length)

/-- The syllable of a spelling. -/
def hangulSyllable? (cs : List Char) : Option Char := do
  let (initial, cs) ← longest? hangulInitials cs
  let (vowel, cs) ← longest? hangulVowels cs
  let (final, cs) ← longest? hangulFinals cs
  if cs.isEmpty then some (Char.ofNat (0xAC00 + (initial * 21 + vowel) * 28 + final)) else none

/-! ## All names -/

/-- The character of a name. -/
def characterNamed? (name : List Char) : Option Char :=
  match after? hangulPrefix name, after? unifiedPrefix name with
  | some spelling, _ => hangulSyllable? spelling
  | none, some code => unifiedIdeograph? code
  | none, none =>
    let name := name.map Char.toUpper
    (codedCharacter? name).or (nameRuns.findSome? fun r => r.find? name)

end Entitlements.Text
