import Entitlements.Holder
import Entitlements.Json.Value
import Entitlements.Permission

/-!
# Refusals

A request that cannot be met is refused for a stated cause. Every cause belongs to a category,
which tells whether the caller, the thing asked for or the request itself is at fault.
-/

namespace Entitlements

/-- What kind of fault a refusal finds. Validation is a special case of a broken precondition. -/
inductive Category where
  /-- Any refusal. -/
  | general
  /-- The caller is not known. -/
  | unauthorized
  /-- The caller may not do this. -/
  | denied
  /-- There is no such thing. -/
  | notFound
  /-- The request does not fit the state of things. -/
  | precondition
  /-- A value of the request is not acceptable. -/
  | validation
  deriving DecidableEq, Repr, Inhabited

/-- A category with those that it is a special case of, nearest first. -/
def Category.lineage : Category → List Category
  | .general => [.general]
  | .validation => [.validation, .precondition, .general]
  | c => [c, .general]

/-- Why a change of permissions is refused although it is well formed. -/
inductive Rejection where
  /-- Nobody would administer the organization after a user loses the permission. -/
  | lastUser
  /-- Nobody would administer the organization after a group loses the permission. -/
  | lastGroup
  /-- Everyone would administer the organization. -/
  | anyoneAdministers
  deriving DecidableEq, Repr, Inhabited

/-- The words of a rejection. -/
def Rejection.reason : Rejection → String
  | .lastUser =>
    "Last user with '" ++ Permission.administer ++ "' permission. Permission cannot be removed."
  | .lastGroup =>
    "Last group with permission '" ++ Permission.administer ++ "'. Permission cannot be removed."
  | .anyoneAdministers =>
    "It is not possible to add the '" ++ Permission.administer ++ "' permission to the group '" ++
      Holder.anyoneName ++ "'"

/-- Largest number of rows of a page. -/
def maxPageSize : Nat := 500

/-- Least number of characters of a search for projects. -/
def minQueryLength : Nat := 3

/-- Why a request is refused. -/
inductive Refusal where
  /-- The request needs a user who has signed in. -/
  | notSignedIn
  /-- The token of the request leads to no user. -/
  | badToken
  /-- The caller lacks the permission that the request needs. -/
  | insufficientPrivileges
  /-- A reference of the request leads nowhere. -/
  | notFound (subject : String) (key : Json.Value)
  /-- A project is given by identifier and by key. -/
  | projectGivenTwice
  /-- A group is given by identifier and by name. -/
  | groupGivenTwice
  /-- A group is not given. -/
  | groupNotGiven
  /-- A template is given by identifier and by name. -/
  | templateGivenTwice
  /-- A template is not given. -/
  | templateNotGiven
  /-- The component carries no permissions. -/
  | notAProject (key qualifier : String)
  /-- The group and the project belong to different organizations. -/
  | otherOrganization (organizationKey projectKey : String)
  /-- The change breaks a rule of safety. -/
  | rejected (r : Rejection)
  /-- Everyone is not a group that users can join. -/
  | joiningAnyone
  /-- The permission does not make sense for an organization. -/
  | notGlobal (p : Permission)
  /-- The permission does not make sense for a project. -/
  | notForProjects (p : Permission)
  /-- Pages are counted from one. -/
  | pageIndex
  /-- A page has too many rows or none. -/
  | pageSize
  /-- A template needs a name. -/
  | blankTemplateName
  /-- The key pattern of a template breaks the grammar of patterns. -/
  | badKeyPattern (pattern : String)
  /-- The organization has a template of that name. -/
  | templateNameTaken (name : String)
  /-- A search for projects is too short. -/
  | shortQuery
  /-- A parameter of the request is not given. -/
  | parameterMissing (name : String)
  /-- A parameter of the request is no integer. -/
  | parameterNotInteger (name : String)
  /-- The body of the request is no object. -/
  | bodyNotObject
  /-- A refusal in the words of whoever made it. -/
  | stated (c : Category) (words : List Json.Value)
  deriving Inhabited

namespace Refusal

/-- The category of a refusal. -/
def category : Refusal → Category
  | .notSignedIn | .badToken => .unauthorized
  | .insufficientPrivileges => .denied
  | .notFound .. => .notFound
  | .projectGivenTwice | .groupGivenTwice | .groupNotGiven | .templateGivenTwice
  | .templateNotGiven | .notAProject .. | .otherOrganization .. | .rejected _
  | .joiningAnyone => .precondition
  | .notGlobal _ | .notForProjects _ | .pageIndex | .pageSize | .blankTemplateName
  | .badKeyPattern _ | .templateNameTaken _ | .shortQuery | .parameterMissing _
  | .parameterNotInteger _ | .bodyNotObject => .validation
  | .stated c _ => c

/-- Some words as one text: a single one stands for itself, several are listed. -/
def statedText : List Json.Value → String
  | [] => ""
  | [word] => word.display
  | words => "(" ++ String.intercalate ", " (Json.Value.quotedItems words) ++ ")"

/-- The words of a refusal. -/
def message : Refusal → String
  | .notSignedIn => "Authentication is required"
  | .badToken => "Invalid authentication token"
  | .insufficientPrivileges => "Insufficient privileges"
  | .notFound subject key => subject ++ " '" ++ key.display ++ "' is not found"
  | .projectGivenTwice => "Project id or project key can be provided, not both."
  | .groupGivenTwice => "Group id or group name must be provided, not both."
  | .groupNotGiven => "Group id or group name must be provided."
  | .templateGivenTwice => "Template name or template id must be provided, not both."
  | .templateNotGiven => "Template name or template id must be provided."
  | .notAProject key qualifier =>
    "Component '" ++ key ++ "' (qualifier '" ++ qualifier ++ "') is not a project"
  | .otherOrganization organizationKey projectKey =>
    "Organization of group and project must match. Group is in '" ++ organizationKey ++
      "' while project '" ++ projectKey ++ "' is not."
  | .rejected r => r.reason
  | .joiningAnyone => "No user can be added to the group '" ++ Holder.anyoneName ++ "'"
  | .notGlobal p =>
    "The 'permission' parameter for global permissions must be one of " ++
      String.intercalate ", " Permission.ofOrganization ++ ". '" ++ p ++ "' was passed."
  | .notForProjects p =>
    "The 'permission' parameter for project permissions must be one of " ++
      String.intercalate ", " Permission.ofProject ++ ". '" ++ p ++ "' was passed."
  | .pageIndex => "Page index must be strictly positive"
  | .pageSize => "Page size must be between 1 and " ++ toString maxPageSize
  | .blankTemplateName => "The template name must not be blank"
  | .badKeyPattern pattern =>
    "The 'projectKeyPattern' parameter must be a valid regular expression. '" ++ pattern ++
      "' was passed"
  | .templateNameTaken name =>
    "A template with the name '" ++ name ++ "' already exists (case insensitive)."
  | .shortQuery => "The 'q' parameter must have at least " ++ toString minQueryLength ++ " characters"
  | .parameterMissing name => "The '" ++ name ++ "' parameter is missing"
  | .parameterNotInteger name => "The '" ++ name ++ "' parameter must be an integer"
  | .bodyNotObject => "Request body must be a JSON object"
  | .stated _ words => statedText words

end Refusal

end Entitlements
