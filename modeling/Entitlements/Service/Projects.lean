import Entitlements.Lookup
import Entitlements.Session

/-!
# Projects

Users list the projects that they administer in person or through a group. What everyone holds,
and what is held on a whole organization, does not count.
-/

namespace Entitlements.Service

/-- Refuse a search text that is too short to search for. -/
def validateQueryLength (query? : Option String) : Except Refusal Unit :=
  if query?.any (·.length < minQueryLength) then .error .shortQuery else .ok ()

/-- List the projects that the caller administers. -/
def searchMyProjects (query? : Option String) (page : Page) : Acting (Listing Component) := do
  let caller ← Session.signedIn
  orRaise page.validate
  let query? := searchText query?
  orRaise (validateQueryLength query?)
  transaction do
    let total ← Query.ask (.countProjects caller Permission.administer query?)
    let projects ← Query.ask
      (.searchProjects caller Permission.administer query? page.offset page.size)
    return ⟨projects, page, total⟩

end Entitlements.Service
