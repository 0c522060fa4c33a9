import Entitlements.Service.Accounts
import Entitlements.Service.Permissions
import Entitlements.Service.Projects
import Entitlements.Service.Templates

/-!
# Commands

All that a caller can ask of the service, and what each request answers.
-/

namespace Entitlements.Service

/-- A request of a caller. -/
inductive Command where
  /-- Add or remove a permission of a user. -/
  | changeUserPermission (operation : Operation) (login : String) (permission : Permission)
      (projectId? projectKey? organizationKey? : Option String)
  /-- Add or remove a permission of a group. -/
  | changeGroupPermission (operation : Operation) (permission : Permission)
      (groupId? : Option Int) (groupName? projectId? projectKey? organizationKey? : Option String)
  /-- Make a template. -/
  | createTemplate (name description? keyPattern? organizationKey? : Option String)
  /-- Drop a permission of a user from a template. -/
  | removeUserFromTemplate (login : String) (permission : Permission)
      (templateId? templateName? organizationKey? : Option String)
  /-- List the groups of a template. -/
  | templateGroups (templateId? templateName? permission? query? : Option String) (page : Page)
      (organizationKey? : Option String)
  /-- Make a user a member of a group. -/
  | addUserToGroup (login : String) (groupId? : Option Int)
      (groupName? organizationKey? : Option String)
  /-- List the groups of an organization. -/
  | searchGroups (query? : Option String) (page : Page) (organizationKey? : Option String)
  /-- List the projects that the caller administers. -/
  | searchMyProjects (query? : Option String) (page : Page)
  /-- Make a user an ordinary one. -/
  | unsetRoot (login? : Option String)
  deriving DecidableEq, Repr

/-- What a request answers. -/
inductive Reply where
  /-- What came of a change. -/
  | outcome (o : Outcome)
  /-- Whether something was done. -/
  | done (b : Bool)
  /-- A new template. -/
  | template (t : Template)
  /-- A page of template groups. -/
  | templateGroups (l : Listing TemplateGroup)
  /-- A page of groups. -/
  | groups (l : Listing GroupSize)
  /-- A page of projects. -/
  | projects (l : Listing Component)
  /-- Nothing to tell. -/
  | nothing
  deriving Repr

/-- Do what is asked on behalf of the caller. -/
def Command.run : Command → Acting Reply
  | .changeUserPermission operation login permission projectId? projectKey? organizationKey? =>
    .outcome <$>
      Service.changeUserPermission operation login permission projectId? projectKey?
        organizationKey?
  | .changeGroupPermission operation permission groupId? groupName? projectId? projectKey?
      organizationKey? =>
    .outcome <$>
      Service.changeGroupPermission operation permission groupId? groupName? projectId?
        projectKey? organizationKey?
  | .createTemplate name description? keyPattern? organizationKey? =>
    .template <$> Service.createTemplate name description? keyPattern? organizationKey?
  | .removeUserFromTemplate login permission templateId? templateName? organizationKey? => do
    Service.removeUserFromTemplate login permission templateId? templateName? organizationKey?
    return .nothing
  | .templateGroups templateId? templateName? permission? query? page organizationKey? =>
    .templateGroups <$>
      Service.templateGroups templateId? templateName? permission? query? page organizationKey?
  | .addUserToGroup login groupId? groupName? organizationKey? =>
    .done <$> Service.addUserToGroup login groupId? groupName? organizationKey?
  | .searchGroups query? page organizationKey? =>
    .groups <$> Service.searchGroups query? page organizationKey?
  | .searchMyProjects query? page => .projects <$> Service.searchMyProjects query? page
  | .unsetRoot login? => .done <$> Service.unsetRoot login?

end Entitlements.Service
