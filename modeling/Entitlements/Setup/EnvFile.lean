import Entitlements.Text.Classes

/-!
# Files of settings

A file of settings has a line `NAME=value` for every setting. The word `export` may stand in front
of a name, and a name without a value has none. Values in quotation marks can hold line ends and
escapes; a value without them ends where blanks and a number sign begin a comment. A line of
another form is left out. In a value, a name in braces after a dollar sign stands for the value of
that name in the surroundings or further up in the file.
-/

namespace Entitlements.Setup

open Entitlements.Text

/-- A name with its value, if it has one. -/
abbrev Binding := String × Option String

namespace EnvFile

/-- A blank within a line. -/
def isGap (c : Char) : Bool := isBlank c && c != '\n'

/-- Every way to end a line as a line feed. -/
def plainLines : List Char → List Char
  | '\r' :: '\n' :: rest => '\n' :: plainLines rest
  | '\r' :: rest => '\n' :: plainLines rest
  | c :: rest => c :: plainLines rest
  | [] => []

/-- What follows the line that is being read. -/
def nextLine (cs : List Char) : List Char := (cs.dropWhile (· != '\n')).drop 1

/-- Leave out the word that can stand in front of a name. -/
def dropExport (cs : List Char) : List Char :=
  let word := "export".toList
  let rest := cs.drop word.length
  if word.isPrefixOf cs && rest.head?.any isGap then rest.dropWhile isGap else cs

/-- The text up to the first mark that no backslash stands before, and what follows the mark. -/
def untilPlainMark (mark : Char) : List Char → Option (List Char × List Char)
  | [] => none
  | ['\\'] => none
  | '\\' :: c :: rest =>
    if c == mark then (untilPlainMark mark rest).map fun (text, rest) => ('\\' :: c :: text, rest)
    else (untilPlainMark mark (c :: rest)).map fun (text, rest) => ('\\' :: text, rest)
  | c :: rest =>
    if c == mark then some ([], rest)
    else (untilPlainMark mark rest).map fun (text, rest) => (c :: text, rest)

/-- The text up to the last mark, and what follows it. -/
def untilLastMark (mark : Char) : List Char → Option (List Char × List Char)
  | [] => none
  | c :: rest =>
    match untilLastMark mark rest with
    | some (text, rest) => some (c :: text, rest)
    | none => if c == mark then some ([], rest) else none

/-- The text up to the mark that ends a quotation, and what follows the mark. Marks after
backslashes are part of the text as long as another mark can end it. -/
def untilMark (mark : Char) (cs : List Char) : Option (List Char × List Char) :=
  (untilPlainMark mark cs).or (untilLastMark mark cs)

/-- What a character after a backslash stands for, between single marks. -/
def singleEscape? (c : Char) : Option Char :=
  if c == '\\' || c == '\'' then some c else none

/-- What a character after a backslash stands for, between double marks. -/
def doubleEscape? : Char → Option Char
  | 'a' => some '\x07'
  | 'b' => some '\x08'
  | 'f' => some '\x0c'
  | 'n' => some '\n'
  | 'r' => some '\r'
  | 't' => some '\t'
  | 'v' => some '\x0b'
  | '"' => some '"'
  | c => singleEscape? c

/-- Put what escapes stand for in their place. -/
def unescape (escape? : Char → Option Char) : List Char → List Char
  | '\\' :: c :: rest =>
    match escape? c with
    | some d => d :: unescape escape? rest
    | none => '\\' :: unescape escape? (c :: rest)
  | c :: rest => c :: unescape escape? rest
  | [] => []

/-- Leave out a comment: blanks, a number sign and all that follows. -/
def dropComment (cs : List Char) : List Char :=
  match cs with
  | [] => []
  | c :: rest =>
    if isBlank c && (cs.dropWhile isBlank).head? == some '#' then []
    else c :: dropComment rest

/-- Drop the blanks at the end. -/
def dropEnd (cs : List Char) : List Char := (cs.reverse.dropWhile isBlank).reverse

/-- A value, and what follows it. There is none where a quotation does not end. -/
def value? : List Char → Option (List Char × List Char)
  | '\'' :: rest =>
    (untilMark '\'' rest).map fun (text, rest) => (unescape singleEscape? text, rest)
  | '"' :: rest =>
    (untilMark '"' rest).map fun (text, rest) => (unescape doubleEscape? text, rest)
  | cs =>
    let line := cs.takeWhile (· != '\n')
    some (dropEnd (dropComment line), cs.drop line.length)

/-- A name in single marks or without any, and what follows it. -/
def name? : List Char → Option (List Char × List Char)
  | '\'' :: rest =>
    let name := rest.takeWhile (· != '\'')
    match rest.drop name.length with
    | _ :: rest => if name.isEmpty then none else some (name, rest)
    | [] => none
  | cs =>
    let name := cs.takeWhile fun c => !(c == '=' || c == '#' || isBlank c)
    if name.isEmpty then none else some (name, cs.drop name.length)

/-- What follows a line that has nothing left but blanks and a comment. -/
def lineEnd? (cs : List Char) : Option (List Char) :=
  match cs.dropWhile isGap with
  | [] => some []
  | '\n' :: rest => some rest
  | '#' :: rest => some (nextLine rest)
  | _ => none

/-- What a line that is no comment binds, and what follows it. A line of another form binds
nothing. -/
def binding (cs : List Char) : Option (String × Option (List Char)) × List Char :=
  let cs := dropExport cs
  match name? cs with
  | none => (none, nextLine cs)
  | some (name, rest) =>
    let afterName := rest.dropWhile isGap
    let (value, rest) : Option (Option (List Char)) × List Char := match afterName with
      | '=' :: more =>
        let more := more.dropWhile isGap
        match value? more with
        | some (v, rest) => (some (some v), rest)
        | none => (none, more)
      | _ => (some none, afterName)
    match value, lineEnd? rest with
    | some v, some rest => (some (String.ofList name, v), rest)
    | _, _ => (none, nextLine rest)

/-- The bindings of a text, read in so many steps. -/
def bindings : Nat → List Char → List (String × Option (List Char))
  | 0, _ => []
  | steps + 1, cs =>
    match cs.dropWhile isBlank with
    | [] => []
    | '#' :: rest => bindings steps (nextLine rest)
    | cs =>
      let (b?, rest) := binding cs
      b?.toList ++ bindings steps rest

/-- A reference to a name, with what stands for it where it has no value. -/
structure Reference where
  /-- The name. -/
  name : String
  /-- What stands for it where it has no value. -/
  fallback : String

/-- The reference after a dollar sign and a brace, and what follows its closing brace. -/
def reference? (cs : List Char) : Option (Reference × List Char) :=
  let name := cs.takeWhile fun c => !(c == '\x7d' || c == ':')
  match cs.drop name.length with
  | '\x7d' :: rest => some (⟨String.ofList name, ""⟩, rest)
  | ':' :: '-' :: more =>
    let fallback := more.takeWhile (· != '\x7d')
    match more.drop fallback.length with
    | _ :: rest => some (⟨String.ofList name, String.ofList fallback⟩, rest)
    | [] => none
  | _ => none

/-- Put the values of names in the place of references, in so many steps. -/
def expand (lookup : String → Option (Option String)) : Nat → List Char → List Char
  | 0, cs => cs
  | _, [] => []
  | steps + 1, '$' :: '\x7b' :: more =>
    match reference? more with
    | some (r, rest) =>
      let text := match lookup r.name with
        | some v => v.getD ""
        | none => r.fallback
      text.toList ++ expand lookup steps rest
    | none => '$' :: expand lookup steps ('\x7b' :: more)
  | steps + 1, c :: rest => c :: expand lookup steps rest

/-- Put a binding in the place of the one of the same name, or at the end. -/
def bind (b : Binding) : List Binding → List Binding
  | [] => [b]
  | a :: rest => if a.1 == b.1 then b :: rest else a :: bind b rest

/-- Resolve bindings one after the other. Those made so far come before the surroundings. -/
def resolve (env : List (String × String)) (known : List Binding) :
    List (String × Option (List Char)) → List Binding
  | [] => known
  | (name, v) :: rest =>
    let lookup (n : String) : Option (Option String) :=
      (known.lookup n).or ((env.lookup n).map some)
    let v := v.map fun cs => String.ofList (expand lookup cs.length cs)
    resolve env (bind (name, v) known) rest

/-- What a file of settings binds, each name once. -/
def read (env : List (String × String)) (text : String) : List Binding :=
  let cs := plainLines text.toList
  resolve env [] (bindings cs.length cs)

end EnvFile

end Entitlements.Setup
