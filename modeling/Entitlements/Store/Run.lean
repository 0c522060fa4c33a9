import Entitlements.Store.Select

/-!
# Running programs on a store in memory

Writes take effect at once. Completing and abandoning a unit of work are counted, and neither
undoes anything. Identifiers are numbered and the time of day stands still.
-/

namespace Entitlements.Store

/-- Set the root flag of the first user of a login. -/
def setRoot (s : Store) (login : String) (root : Bool) : Bool × Store :=
  match s.userByLogin? login with
  | none => (false, s)
  | some u =>
    if u.root == root then (false, s)
    else
      (true, { s with users := modifyFirst (·.login == login) ({ · with root := root }) s.users })

/-- Note in the journal. -/
def note (f : Journal → Journal) (s : Store) : Store := { s with journal := f s.journal }

/-- What the store answers to a question, and what becomes of it. -/
def answer : (q : Query) → Store → Except Fault q.Answer × Store
  | .userByLogin login, s => (.ok (s.userByLogin? login), s)
  | .setRoot login root, s =>
    let (changed, s) := s.setRoot login root
    (.ok changed, s)
  | .organizationByKey key, s => (.ok (s.organizations.find? (·.key == key)), s)
  | .organizationByUuid uuid, s => (.ok (s.organizations.find? (·.uuid == uuid)), s)
  | .defaultOrganization, s => (s.defaultOrganization, s)
  | .componentByUuid uuid, s => (.ok (s.components.find? (·.uuid == uuid)), s)
  | .componentByKey key, s => (.ok (s.components.find? (·.key == key)), s)
  | .searchProjects user permission query? offset limit, s =>
    (.ok (page offset limit (s.projectsWith user permission query?)), s)
  | .countProjects user permission query?, s =>
    (.ok (s.projectsWith user permission query?).length, s)
  | .groupById id, s => (.ok (s.groups.find? (·.id == id)), s)
  | .groupByName organization name, s =>
    (.ok (s.groups.find? fun g => g.organization == organization && g.name == name), s)
  | .isMember group user, s => (.ok (s.members.contains (group, user)), s)
  | .addMember group user, s => (.ok (), s.addMember group user)
  | .searchGroups organization query? offset limit, s =>
    (.ok (s.groupSizes (page offset limit (s.groupsMatching organization query?))), s)
  | .countGroups organization query?, s =>
    (.ok (s.groupsMatching organization query?).length, s)
  | .lockOrganization organization, s =>
    (.ok (), s.note fun j => { j with locked := j.locked ++ [organization] })
  | .selectPermissions organization holder scope, s =>
    (.ok (s.permissionsOf organization holder scope), s)
  | .insertGrant g, s =>
    (.ok (), (s.addGrant g).note fun j => { j with inserted := j.inserted ++ [g] })
  | .deleteGrant g, s =>
    (.ok (), (s.removeGrant g).note fun j => { j with deleted := j.deleted ++ [g] })
  | .countAdministrators organization permission exceptUser exceptGroup, s =>
    (.ok (s.administrators organization permission exceptUser exceptGroup).length, s)
  | .loadSnapshot user, s => (.ok (s.snapshot user), s)
  | .templateByUuid uuid, s => (.ok (s.templates.find? (·.uuid == uuid)), s)
  | .templateByName organization name, s => (.ok (s.templateByName? organization name), s)
  | .insertTemplate t, s => (.ok (), s.addTemplate t)
  | .deleteTemplateGrant template holder permission, s =>
    (.ok (), s.removeTemplateGrant ⟨template, holder, permission⟩)
  | .searchTemplateGroups template organization permission? query? offset limit, s =>
    (.ok (page offset limit (s.templateGroupsMatching template organization permission? query?)), s)
  | .countTemplateGroups template organization permission? query?, s =>
    (.ok (s.templateGroupsMatching template organization permission? query?).length, s)

/-- What a request means for the store. -/
def serve : (r : Request) → Store → r.Answer × Store
  | .begin, s => ((), s)
  | .complete, s => (.ok (), s.note fun j => { j with commits := j.commits + 1 })
  | .abandon _, s => ((), s.note fun j => { j with rollbacks := j.rollbacks + 1 })
  | .query q, s => s.answer q
  | .log e, s => ((), { s with around := s.around.record e })
  | .now, s => (s.around.clock, s)
  | .freshUuid, s => let (uuid, around) := s.around.issue; (uuid, { s with around := around })
  | .introspect token, s => (s.around.introspect token, s)
  | .probe, s => (s.around.probe, s)

/-- Run a program on the store. -/
def run {α : Type} (s : Store) (p : Program α) : α × Store := p.run serve s

end Entitlements.Store
