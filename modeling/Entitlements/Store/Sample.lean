import Entitlements.Store.State

/-!
# A sample store

Two organizations with users, groups and components. The user `root` administers the default
organization, and the user `ghost` cannot sign in.
-/

namespace Entitlements.Store

/-- Nothing is stored. -/
def empty (around : Surroundings) : Store := { around := around }

/-- The identifier of the default organization of the sample. -/
def sampleDefault : String := "org-default"

/-- The identifier of the other organization of the sample. -/
def sampleOther : String := "org-other"

/-- The sample. -/
def sample (around : Surroundings) : Store :=
  { around := around
    organizations :=
      [⟨sampleDefault, "default-organization", "Default"⟩, ⟨sampleOther, "other", "Other"⟩]
    defaultOrganization? := some sampleDefault
    users :=
      [⟨1, "root", some "Administrator", none, true, true⟩,
        ⟨2, "alice", some "Alice", none, true, false⟩,
        ⟨3, "bob", some "Bob", none, true, false⟩,
        ⟨4, "ghost", none, none, false, false⟩]
    groups :=
      [⟨10, sampleDefault, "sonar-admins", none, none, none⟩,
        ⟨11, sampleDefault, "devs", some "Developers", none, none⟩,
        ⟨20, sampleOther, "ops", none, none, none⟩]
    components :=
      [⟨"proj-1", "project-one", "Project One", "TRK", "proj-1", sampleDefault⟩,
        ⟨"view-1", "portfolio", "Portfolio", "VW", "view-1", sampleDefault⟩,
        ⟨"dir-1", "project-one:src", "src", "DIR", "proj-1", sampleDefault⟩,
        ⟨"proj-2", "project-two", "Project Two", "TRK", "proj-2", sampleOther⟩]
    grants :=
      [⟨sampleDefault, .user 1 "root", Permission.administer, .organization sampleDefault⟩] }

end Entitlements.Store
