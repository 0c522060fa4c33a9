import Entitlements.Text.Classes

/-!
# Arguments of the client

The client is told what to do by three words, in order, and by options that can stand anywhere
between them. An option can be shortened as long as only one option begins like it, and its value
follows it or an equals sign in it. After two hyphens by themselves no word is an option.
-/

namespace Entitlements.Client

/-- An option of the client. -/
inductive Flag where
  | help
  | projectId
  | projectKey
  | organization
  deriving DecidableEq, Repr, Inhabited

/-- The ways to write the options. -/
def Flag.spellings : List (String × Flag) :=
  [("-h", .help), ("--help", .help), ("--project-id", .projectId),
    ("--project-key", .projectKey), ("--organization", .organization)]

/-- What a word on the command line is. -/
inductive Word where
  /-- A word that is no option. -/
  | plain (s : String)
  /-- An option, with the value after its equals sign if there is one. -/
  | flag (f : Flag) (value? : Option String)
  /-- Something that looks like an option and is none. -/
  | stranger
  /-- Two hyphens by themselves. -/
  | divider
  deriving DecidableEq, Repr

/-- What the client is to do. -/
structure Invocation where
  /-- What to do: to add or to remove. -/
  operation : String
  /-- Whose permission it is about. -/
  login : String
  /-- The permission. -/
  permission : String
  /-- The project, by identifier. -/
  projectId? : Option String := none
  /-- The project, by key. -/
  projectKey? : Option String := none
  /-- The organization, by key. -/
  organization? : Option String := none
  deriving DecidableEq, Repr, Inhabited

/-- What a command line asks for. -/
inductive Request where
  /-- Do something. -/
  | invocation (i : Invocation)
  /-- Tell what can be asked for. -/
  | help
  /-- The command line cannot be understood. -/
  | misuse
  deriving DecidableEq, Repr, Inhabited

namespace Word

/-- A negative number, which is no option. -/
def isNegativeNumber (cs : List Char) : Bool :=
  let isDigit (c : Char) : Bool := (Text.digit? c).isSome
  match cs with
  | '-' :: ds =>
    let ds := if ds.getLast? == some '\n' then ds.dropLast else ds
    let fraction := ds.dropWhile isDigit
    match fraction with
    | [] => !ds.isEmpty
    | '.' :: places => !places.isEmpty && places.all isDigit
    | _ => false
  | _ => false

/-- A word in front of its first equals sign, and what follows the sign. -/
def splitValue (cs : List Char) : List Char × Option String :=
  let name := cs.takeWhile (· != '=')
  match cs.drop name.length with
  | [] => (name, none)
  | _ :: value => (name, some (String.ofList value))

/-- The options that a word can be short for. -/
def abbreviated (cs : List Char) : List Word :=
  match cs with
  | '-' :: '-' :: _ =>
    let (name, value?) := splitValue cs
    (Flag.spellings.filter fun (s, _) => name.isPrefixOf s.toList).map fun (_, f) =>
      .flag f value?
  | '-' :: 'h' :: rest =>
    [.flag .help (if rest.all (· == 'h') then none else some (String.ofList rest))]
  | _ => []

/-- What a word is that begins with a hyphen and more. There is no answer where it can be short
for several options. -/
def ofDashed? (s : String) : Option Word :=
  let (name, value?) := splitValue s.toList
  match Flag.spellings.lookup s, Flag.spellings.lookup (String.ofList name) with
  | some f, _ => some (.flag f none)
  | none, some f => some (.flag f value?)
  | none, none =>
    match abbreviated s.toList with
    | [w] => some w
    | [] =>
      some (if isNegativeNumber s.toList || s.toList.contains ' ' then .plain s else .stranger)
    | _ => none

/-- What the words are; none where one of them can be short for several options. -/
def readAll? : List String → Option (List Word)
  | [] => some []
  | s :: rest =>
    if s == "--" then some (.divider :: rest.map .plain)
    else do
      let w ← if s.startsWith "-" && s != "-" then ofDashed? s else some (.plain s)
      return w :: (← readAll? rest)

end Word

/-- What was understood of a command line so far. -/
structure Understanding where
  /-- The words that are no options. -/
  words : List String := []
  /-- The project, by identifier. -/
  projectId? : Option String := none
  /-- The project, by key. -/
  projectKey? : Option String := none
  /-- The organization, by key. -/
  organization? : Option String := none
  /-- The word before was taken as one of the three. -/
  justTook : Bool := false
  /-- Something is left over. -/
  leftover : Bool := false
  deriving Inhabited

namespace Understanding

/-- The number of words that say what to do. -/
def wordCount : Nat := 3

/-- What can be done. -/
def operations : List String := ["add", "remove"]

/-- Take a word that is no option. There is no going on where it is no operation and should be
one. -/
def take? (s : String) (u : Understanding) : Option Understanding :=
  if u.words.isEmpty && !operations.contains s then none
  else if u.words.length < wordCount then
    some { u with words := u.words ++ [s], justTook := true }
  else some { u with leftover := true, justTook := false }

/-- Note the value of an option that has one. -/
def set (f : Flag) (value : String) (u : Understanding) : Understanding :=
  let u := { u with justTook := false }
  match f with
  | .projectId => { u with projectId? := some value }
  | .projectKey => { u with projectKey? := some value }
  | .organization => { u with organization? := some value }
  | .help => u

/-- What is asked for once all words are read. -/
def request (u : Understanding) : Request :=
  match u.words, u.leftover with
  | [operation, login, permission], false =>
    .invocation ⟨operation, login, permission, u.projectId?, u.projectKey?, u.organization?⟩
  | _, _ => .misuse

/-- What words ask for. -/
def read (u : Understanding) : List Word → Request
  | [] => u.request
  | .plain s :: rest =>
    match u.take? s with
    | some u => u.read rest
    | none => .misuse
  | .divider :: rest =>
    let absorbed := u.justTook || (u.words.length < wordCount && !rest.isEmpty)
    read { u with leftover := u.leftover || !absorbed, justTook := false } rest
  | .stranger :: rest => read { u with leftover := true, justTook := false } rest
  | .flag .help none :: _ => .help
  | .flag .help (some _) :: _ => .misuse
  | .flag f (some value) :: rest => (u.set f value).read rest
  | .flag f none :: .plain value :: rest => (u.set f value).read rest
  | .flag _ none :: _ => .misuse

end Understanding

/-- What a command line asks for. -/
def Request.ofArguments (arguments : List String) : Request :=
  match Word.readAll? arguments with
  | none => .misuse
  | some words => Understanding.read {} words

end Entitlements.Client
