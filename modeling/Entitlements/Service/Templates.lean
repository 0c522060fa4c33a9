import Entitlements.Lookup
import Entitlements.Pattern.Judge
import Entitlements.Session

/-!
# Permission templates

Templates are made, read and changed by those who administer their organization. A template needs
a name that no other template of the organization has, in any case, and its key pattern has to be
a regular expression.
-/

namespace Entitlements.Service

/-- Refuse a key pattern that is no regular expression. -/
def validateKeyPattern (pattern? : Option String) : Except Fault Unit :=
  match given? pattern? with
  | none => .ok ()
  | some pattern =>
    match Pattern.judge pattern with
    | .ok _ => .ok ()
    | .error .malformed => .error (.refused (.badKeyPattern pattern))
    | .error (.beyond l) => .error (.pattern l)

/-- Make a template that lists nothing yet. -/
def createTemplate (name description? keyPattern? organizationKey? : Option String) :
    Acting Template := do
  Session.checkSignedIn
  let template ← transaction do
    let organization ← Session.lift (Lookup.organization organizationKey?)
    Session.checkAdministers (some (.organization organization.uuid))
    let name := Text.trim (name.getD "")
    if name.isEmpty then Refusal.blankTemplateName.raise
    liftExcept (validateKeyPattern keyPattern?)
    if (← Query.ask (.templateByName organization.uuid name)).isSome then
      (Refusal.templateNameTaken name).raise
    let now ← Request.ask .now
    let uuid ← Request.ask .freshUuid
    let at? := some now.toUniversal.text
    let template : Template :=
      ⟨uuid, organization.uuid, name, description?, keyPattern?, at?, at?⟩
    Query.ask (.insertTemplate template)
    return template
  Event.record (.templateCreated template.uuid template.name)
  return template

/-- Drop a permission of a user from a template. Nothing happens where the user has none. -/
def removeUserFromTemplate (login : String) (permission : Permission)
    (templateId? templateName? organizationKey? : Option String) : Acting Unit := do
  Session.checkSignedIn
  orRaise permission.validateForProject
  let (template, login) ← transaction do
    let template ← Session.lift (Lookup.template templateId? templateName? organizationKey?)
    Session.checkAdministers (some (.organization template.organization))
    let (id, login) ← Session.lift (Lookup.user login)
    Query.ask (.deleteTemplateGrant template.uuid (.user id login) permission)
    return (template, login)
  Event.record (.userRemovedFromTemplate template.uuid login permission)

/-- List everyone and the groups of a template with their permissions there. Without a search
text and a permission only those are listed that the template gives something; a search text asks
for names that contain it, and a permission for those who have it in the template. -/
def templateGroups (templateId? templateName? permission? query? : Option String) (page : Page)
    (organizationKey? : Option String) : Acting (Listing TemplateGroup) := do
  Session.checkSignedIn
  if let some permission := given? permission? then
    orRaise (Permission.validateForProject permission)
  orRaise page.validate
  let query? := searchText query?
  transaction do
    let template ← Session.lift (Lookup.template templateId? templateName? organizationKey?)
    Session.checkAdministers (some (.organization template.organization))
    let total ← Query.ask
      (.countTemplateGroups template.uuid template.organization permission? query?)
    let groups ← Query.ask (.searchTemplateGroups template.uuid template.organization
      permission? query? page.offset page.size)
    return ⟨groups, page, total⟩

end Entitlements.Service
