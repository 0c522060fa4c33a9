import Entitlements.Auth.Token
import Entitlements.Proofs.Program.Asks
import Entitlements.Service.Command

/-!
# What only reads

Lookups, checks and searches ask the store nothing that changes what it holds, and of the other
commands only those about permissions write grants.
-/

namespace Entitlements

variable {α : Type}

/-- The query changes nothing that is stored and locks nothing. -/
def Query.Reads : Query → Prop
  | .setRoot .. | .addMember .. | .lockOrganization _ | .insertGrant _ | .deleteGrant _
  | .insertTemplate _ | .deleteTemplateGrant .. => False
  | _ => True

/-- The query only reads, and it looks at no account. -/
def Query.SkipsUsers : Query → Prop
  | .userByLogin _ | .countAdministrators .. => False
  | q => q.Reads

theorem Query.SkipsUsers.reads {q : Query} (h : q.SkipsUsers) : q.Reads := by
  cases q with
  | userByLogin | countAdministrators => trivial
  | _ => exact h

/-- The query looks for an organization that a request refers to. -/
def Query.NamesOrganization : Query → Prop
  | .organizationByKey _ | .organizationByUuid _ | .defaultOrganization => True
  | _ => False

/-- The query looks for what a request refers to, other than a user. -/
def Query.Refers : Query → Prop
  | .componentByUuid _ | .componentByKey _ | .groupById _ | .groupByName .. | .templateByUuid _
  | .templateByName .. => True
  | q => q.NamesOrganization

/-- The query looks for what a request refers to, which can be a user. -/
def Query.Looks : Query → Prop
  | .userByLogin _ => True
  | q => q.Refers

theorem Query.NamesOrganization.refers {q : Query} (h : q.NamesOrganization) : q.Refers := by
  cases q with
  | organizationByKey | organizationByUuid | defaultOrganization => exact h
  | _ => exact h.elim

theorem Query.Refers.looks {q : Query} (h : q.Refers) : q.Looks := by
  cases q with
  | userByLogin => trivial
  | _ => exact h

theorem Query.Refers.skipsUsers {q : Query} (h : q.Refers) : q.SkipsUsers := by
  cases q with
  | organizationByKey | organizationByUuid | defaultOrganization | componentByUuid
  | componentByKey | groupById | groupByName | templateByUuid | templateByName => trivial
  | _ => exact h.elim

theorem Query.Looks.reads {q : Query} (h : q.Looks) : q.Reads := by
  cases q with
  | userByLogin => trivial
  | _ => exact Query.SkipsUsers.reads (Query.Refers.skipsUsers h)

/-- How many rows a search skips, and how many it takes. -/
def Query.window? : Query → Option (Int × Int)
  | .searchProjects _ _ _ offset limit | .searchGroups _ _ offset limit
  | .searchTemplateGroups _ _ _ _ offset limit => some (offset, limit)
  | _ => none

theorem Query.Looks.window? {q : Query} (h : q.Looks) : q.window? = none := by
  cases q with
  | searchProjects | searchGroups | searchTemplateGroups => exact h.elim
  | _ => rfl

/-- The query changes no grant. -/
def Query.SparesGrants : Query → Prop
  | .insertGrant _ | .deleteGrant _ => False
  | _ => True

/-- The query changes no account, no membership and no grant. -/
def Query.SparesAccess : Query → Prop
  | .setRoot .. | .addMember .. | .insertGrant _ | .deleteGrant _ => False
  | _ => True

theorem Query.Reads.sparesAccess {q : Query} (h : q.Reads) : q.SparesAccess := by
  cases q with
  | setRoot | addMember | insertGrant | deleteGrant => exact h.elim
  | _ => trivial

theorem Query.SparesAccess.sparesGrants {q : Query} (h : q.SparesAccess) : q.SparesGrants := by
  cases q with
  | insertGrant | deleteGrant => exact h.elim
  | _ => trivial

theorem Query.Reads.sparesGrants {q : Query} (h : q.Reads) : q.SparesGrants :=
  h.sparesAccess.sparesGrants

theorem Work.AsksOnly.sparesGrants {w : Work α} (h : AsksOnly Query.Reads w) :
    AsksOnly Query.SparesGrants w := h.mono fun _ => Query.Reads.sparesGrants

theorem Work.AsksOnly.sparesAccess {w : Work α} (h : AsksOnly Query.Reads w) :
    AsksOnly Query.SparesAccess w := h.mono fun _ => Query.Reads.sparesAccess

theorem Acting.AsksOnly.sparesAccess {a : Acting α} (h : AsksOnly Query.Reads a) :
    AsksOnly Query.SparesAccess a := h.mono fun _ => Query.Reads.sparesAccess

theorem Acting.AsksOnly.sparesGrants {a : Acting α} (h : AsksOnly Query.Reads a) :
    AsksOnly Query.SparesGrants a := h.mono fun _ => Query.Reads.sparesGrants

/-- The request is a query that only reads. -/
def Request.Reads : Request → Prop
  | .query q => q.Reads
  | _ => False

theorem Work.MakesOnly.reads {w : Work α} (h : MakesOnly Request.Reads w) :
    AsksOnly Query.Reads w := h.asksOnly fun _ hq => hq

/-- The request is a query that only reads and looks at no account. -/
def Request.SkipsUsers : Request → Prop
  | .query q => q.SkipsUsers
  | _ => False

theorem Request.SkipsUsers.reads {r : Request} (h : r.SkipsUsers) : r.Reads := by
  cases r with
  | query q => exact Query.SkipsUsers.reads h
  | _ => exact h.elim

theorem Work.MakesOnly.skipsUsers {w : Work α} (h : MakesOnly Request.SkipsUsers w) :
    AsksOnly Query.SkipsUsers w := h.asksOnly fun _ hq => hq

/-- The request is a query of the kind. -/
def Request.Asks (P : Query → Prop) : Request → Prop
  | .query q => P q
  | _ => False

theorem Request.Asks.mono {P P' : Query → Prop} {r : Request} (h : r.Asks P)
    (hP : ∀ q, P q → P' q) : r.Asks P' := by
  cases r with
  | query q => exact hP q h
  | _ => exact h.elim

theorem Request.Asks.skipsUsers {r : Request} (h : r.Asks Query.Refers) : r.SkipsUsers := by
  cases r with
  | query q => exact Query.Refers.skipsUsers h
  | _ => exact h.elim

theorem Request.Asks.reads {r : Request} (h : r.Asks Query.Looks) : r.Reads := by
  cases r with
  | query q => exact Query.Looks.reads h
  | _ => exact h.elim

/-- What looks for no user looks for what a request refers to all the same. -/
theorem Work.MakesOnly.looks {w : Work α} (h : MakesOnly (Request.Asks Query.Refers) w) :
    MakesOnly (Request.Asks Query.Looks) w := h.mono fun _ hr => hr.mono fun _ => Query.Refers.looks

namespace Lookup

variable {R : Request → Prop}

theorem orNotFound_makesOnly (subject : String) (key : Json.Value) (a? : Option α) :
    Work.MakesOnly R (orNotFound subject key a?) := by
  cases a? with
  | none => exact .raise _
  | some a => exact .pure a

theorem user_looks (login : String) :
    Work.MakesOnly (Request.Asks Query.Looks) (user login) :=
  .bind (.query trivial) fun _ => .bind (orNotFound_makesOnly ..) fun _ => .pure _

theorem organization_namesOrganization (key? : Option String) :
    Work.MakesOnly (Request.Asks Query.NamesOrganization) (organization key?) := by
  unfold organization
  split
  · exact .query trivial
  · exact .bind (.query trivial) fun _ => orNotFound_makesOnly ..

theorem organization_refers (key? : Option String) :
    Work.MakesOnly (Request.Asks Query.Refers) (organization key?) :=
  (organization_namesOrganization key?).mono fun _ hr =>
    hr.mono fun _ => Query.NamesOrganization.refers

theorem projectOnly_makesOnly (c : Component) : Work.MakesOnly R (projectOnly c) := by
  unfold projectOnly
  split
  · exact .pure c
  · exact .raise _

theorem project?_refers (id? key? : Option String) :
    Work.MakesOnly (Request.Asks Query.Refers) (project? id? key?) := by
  unfold project?
  split
  · exact .raise _
  · exact .bind (.query trivial) fun _ => .bind (orNotFound_makesOnly ..) fun c =>
      .bind (projectOnly_makesOnly c) fun _ => .pure _
  · exact .bind (.query trivial) fun _ => .bind (orNotFound_makesOnly ..) fun c =>
      .bind (projectOnly_makesOnly c) fun _ => .pure _
  · exact .pure none

theorem group_refers (organizationKey? : Option String) (id? : Option Int)
    (name? : Option String) :
    Work.MakesOnly (Request.Asks Query.Refers) (group organizationKey? id? name?) := by
  unfold group
  split
  · exact .raise _
  · exact .bind (.query trivial) fun _ => .bind (orNotFound_makesOnly ..) fun _ =>
      .bind (.query trivial) fun _ => .bind (orNotFound_makesOnly ..) fun _ => .pure _
  · exact .raise _
  · refine .bind (organization_refers _) fun o => ?_
    split
    · exact .pure _
    · exact .bind (.query trivial) fun _ => .bind (orNotFound_makesOnly ..) fun _ => .pure _

theorem template_refers (id? name? organizationKey? : Option String) :
    Work.MakesOnly (Request.Asks Query.Refers) (template id? name? organizationKey?) := by
  unfold template
  split
  · exact .raise _
  · exact .bind (.query trivial) fun _ => orNotFound_makesOnly ..
  · exact .raise _
  · exact .bind (organization_refers _) fun _ => .bind (.query trivial) fun _ =>
      orNotFound_makesOnly ..

theorem organization_skipsUsers (key? : Option String) :
    Work.MakesOnly Request.SkipsUsers (organization key?) :=
  (organization_refers key?).mono fun _ => Request.Asks.skipsUsers

theorem project?_skipsUsers (id? key? : Option String) :
    Work.MakesOnly Request.SkipsUsers (project? id? key?) :=
  (project?_refers id? key?).mono fun _ => Request.Asks.skipsUsers

theorem group_skipsUsers (organizationKey? : Option String) (id? : Option Int)
    (name? : Option String) :
    Work.MakesOnly Request.SkipsUsers (group organizationKey? id? name?) :=
  (group_refers organizationKey? id? name?).mono fun _ => Request.Asks.skipsUsers

theorem template_skipsUsers (id? name? organizationKey? : Option String) :
    Work.MakesOnly Request.SkipsUsers (template id? name? organizationKey?) :=
  (template_refers id? name? organizationKey?).mono fun _ => Request.Asks.skipsUsers

theorem user_makesOnly (login : String) : Work.MakesOnly Request.Reads (user login) :=
  (user_looks login).mono fun _ => Request.Asks.reads

theorem organization_makesOnly (key? : Option String) :
    Work.MakesOnly Request.Reads (organization key?) :=
  (organization_skipsUsers key?).mono fun _ => Request.SkipsUsers.reads

theorem project?_makesOnly (id? key? : Option String) :
    Work.MakesOnly Request.Reads (project? id? key?) :=
  (project?_skipsUsers id? key?).mono fun _ => Request.SkipsUsers.reads

theorem group_makesOnly (organizationKey? : Option String) (id? : Option Int)
    (name? : Option String) :
    Work.MakesOnly Request.Reads (group organizationKey? id? name?) :=
  (group_skipsUsers organizationKey? id? name?).mono fun _ => Request.SkipsUsers.reads

theorem template_makesOnly (id? name? organizationKey? : Option String) :
    Work.MakesOnly Request.Reads (template id? name? organizationKey?) :=
  (template_skipsUsers id? name? organizationKey?).mono fun _ => Request.SkipsUsers.reads

section

variable {P : Query → Prop} (hP : ∀ q : Query, q.Looks → P q)
include hP

theorem user_asksOnly (login : String) : Work.AsksOnly P (user login) :=
  (user_looks login).asksOnly hP

theorem organization_asksOnly (key? : Option String) : Work.AsksOnly P (organization key?) :=
  (organization_refers key?).looks.asksOnly hP

theorem project?_asksOnly (id? key? : Option String) : Work.AsksOnly P (project? id? key?) :=
  (project?_refers id? key?).looks.asksOnly hP

theorem group_asksOnly (organizationKey? : Option String) (id? : Option Int)
    (name? : Option String) : Work.AsksOnly P (group organizationKey? id? name?) :=
  (group_refers organizationKey? id? name?).looks.asksOnly hP

theorem template_asksOnly (id? name? organizationKey? : Option String) :
    Work.AsksOnly P (template id? name? organizationKey?) :=
  (template_refers id? name? organizationKey?).looks.asksOnly hP

end

theorem user_reads (login : String) : Work.AsksOnly Query.Reads (user login) :=
  (user_makesOnly login).reads

theorem organization_reads (key? : Option String) :
    Work.AsksOnly Query.Reads (organization key?) := (organization_makesOnly key?).reads

theorem project?_reads (id? key? : Option String) :
    Work.AsksOnly Query.Reads (project? id? key?) := (project?_makesOnly id? key?).reads

theorem group_reads (organizationKey? : Option String) (id? : Option Int)
    (name? : Option String) : Work.AsksOnly Query.Reads (group organizationKey? id? name?) :=
  (group_makesOnly organizationKey? id? name?).reads

theorem template_reads (id? name? organizationKey? : Option String) :
    Work.AsksOnly Query.Reads (template id? name? organizationKey?) :=
  (template_makesOnly id? name? organizationKey?).reads

end Lookup

namespace Session

variable {P : Query → Prop}

/-- A session is made by looking for the user with the login. -/
theorem create_asksOnly (hP : ∀ login, P (.userByLogin login)) (login? : Option String) :
    Work.AsksOnly P (create login?) := by
  cases login? with
  | none => exact .pure _
  | some login =>
    unfold create
    dsimp only
    split
    · exact .pure _
    · exact .bind (.transaction (.query (hP login))) fun _ => .pure _

theorem create_reads (login? : Option String) : Work.AsksOnly Query.Reads (create login?) :=
  create_asksOnly (fun _ => trivial) login?

theorem signedIn_asksOnly : Acting.AsksOnly P signedIn := by
  refine .bind .get fun σ => ?_
  cases σ.principal.id? with
  | none => exact .raise _
  | some id => exact .pure id

theorem checkSignedIn_asksOnly : Acting.AsksOnly P checkSignedIn :=
  .bind signedIn_asksOnly fun _ => .pure ()

theorem checkRoot_asksOnly : Acting.AsksOnly P checkRoot :=
  .bind .get fun _ => .require _ _

theorem checkRoot_reads : Acting.AsksOnly Query.Reads checkRoot := checkRoot_asksOnly

/-- The permissions of the caller are asked for with the default organization. -/
theorem load_asksOnly (hdefault : P .defaultOrganization) (hload : ∀ id?, P (.loadSnapshot id?)) :
    Acting.AsksOnly P load := by
  refine .bind .get fun σ => ?_
  cases σ.snapshot? with
  | some s => exact .pure s
  | none =>
    refine .bind (.transaction ?_) fun _ => .bind (.modify _) fun _ => .pure _
    exact .bind (.query hdefault) fun _ => .bind (.query (hload _)) fun _ =>
      .bind (.modify _) fun _ => .pure _

theorem load_skipsUsers : Acting.AsksOnly Query.SkipsUsers load :=
  load_asksOnly trivial fun _ => trivial

theorem hasPermission_asksOnly (hload : Acting.AsksOnly P load) (p : Permission)
    (organization? : Option String) : Acting.AsksOnly P (hasPermission p organization?) :=
  .bind hload fun _ => .bind .get fun _ => .pure _

theorem hasPermission_skipsUsers (p : Permission) (organization? : Option String) :
    Acting.AsksOnly Query.SkipsUsers (hasPermission p organization?) :=
  hasPermission_asksOnly load_skipsUsers p organization?

theorem demand_asksOnly {check : Acting Bool} (h : Acting.AsksOnly P check) :
    Acting.AsksOnly P (demand check) :=
  .bind h fun _ => .require _ _

theorem checkAdministers_asksOnly (hload : Acting.AsksOnly P load) (scope? : Option Scope) :
    Acting.AsksOnly P (checkAdministers scope?) := by
  unfold checkAdministers
  split
  · exact demand_asksOnly (hasPermission_asksOnly hload _ _)
  · exact demand_asksOnly (.bind hload fun _ => .pure _)

theorem checkAdministers_skipsUsers (scope? : Option Scope) :
    Acting.AsksOnly Query.SkipsUsers (checkAdministers scope?) :=
  checkAdministers_asksOnly load_skipsUsers scope?

theorem checkAdministers_reads (scope? : Option Scope) :
    Acting.AsksOnly Query.Reads (checkAdministers scope?) :=
  (checkAdministers_skipsUsers scope?).mono fun _ => Query.SkipsUsers.reads

end Session

namespace Auth

variable {P : Query → Prop}

/-- The store is not asked about tokens. -/
theorem TokenReader.identify_asksOnly (reader : TokenReader) (token : String) :
    Work.AsksOnly P (reader.identify token) := by
  cases reader with
  | none | plain => exact .pure _
  | service =>
    refine .bind (.introspect token) fun answer => ?_
    cases answer with
    | claims fields => exact .pure _
    | refused error => exact .bind (.record _) fun _ => .pure _
    | failed => exact .throw _

theorem Identity.session_asksOnly (hP : ∀ login, P (.userByLogin login)) (i : Identity) :
    Work.AsksOnly P i.session := by
  unfold Identity.session
  split
  · exact Session.create_asksOnly hP _
  · exact .transaction (.pure _)

theorem authenticate_asksOnly (hP : ∀ login, P (.userByLogin login)) (reader : TokenReader)
    (credentials : String) : Work.AsksOnly P (authenticate reader credentials) := by
  unfold authenticate
  split
  · exact .bind (Session.create_asksOnly hP none) fun _ => .pure _
  · split
    · refine .bind (reader.identify_asksOnly _) fun i? => ?_
      cases i? with
      | none => exact .pure _
      | some i => exact .bind (i.session_asksOnly hP) fun _ => .pure _
    · exact .pure _

/-- Looking at credentials only reads. -/
theorem authenticate_reads (reader : TokenReader) (credentials : String) :
    Work.AsksOnly Query.Reads (authenticate reader credentials) :=
  authenticate_asksOnly (fun _ => trivial) reader credentials

end Auth

theorem Change.checkAll_asksOnly {P : Query → Prop} (hload : Acting.AsksOnly P Session.load)
    (changes : List Change) : Acting.AsksOnly P (checkAll changes) := by
  induction changes with
  | nil => exact .pure ()
  | cons c rest ih => exact .bind (Session.checkAdministers_asksOnly hload _) fun _ => ih

theorem Change.checkAll_skipsUsers (changes : List Change) :
    Acting.AsksOnly Query.SkipsUsers (checkAll changes) :=
  checkAll_asksOnly Session.load_skipsUsers changes

theorem Change.checkAll_reads (changes : List Change) :
    Acting.AsksOnly Query.Reads (checkAll changes) :=
  (checkAll_skipsUsers changes).mono fun _ => Query.SkipsUsers.reads

namespace Service

theorem searchGroups_reads (query? : Option String) (page : Page)
    (organizationKey? : Option String) :
    Acting.AsksOnly Query.Reads (searchGroups query? page organizationKey?) := by
  refine .bind Session.checkSignedIn_asksOnly fun _ => .bind (.orRaise _) fun _ => .transaction ?_
  exact .bind (.lift (Lookup.organization_reads _)) fun _ => .bind (.query trivial) fun _ =>
    .bind (.query trivial) fun _ => .pure _

theorem searchMyProjects_reads (query? : Option String) (page : Page) :
    Acting.AsksOnly Query.Reads (searchMyProjects query? page) := by
  refine .bind Session.signedIn_asksOnly fun _ => .bind (.orRaise _) fun _ =>
    .bind (.orRaise _) fun _ => .transaction ?_
  exact .bind (.query trivial) fun _ => .bind (.query trivial) fun _ => .pure _

theorem templateGroups_reads (templateId? templateName? permission? query? : Option String)
    (page : Page) (organizationKey? : Option String) :
    Acting.AsksOnly Query.Reads
      (templateGroups templateId? templateName? permission? query? page organizationKey?) := by
  refine .bind Session.checkSignedIn_asksOnly fun _ => ?_
  have hlist : Acting.AsksOnly Query.Reads (transaction do
      let template ← Session.lift (Lookup.template templateId? templateName? organizationKey?)
      Session.checkAdministers (some (.organization template.organization))
      let total ← Query.ask (.countTemplateGroups template.uuid template.organization
        permission? (searchText query?))
      let groups ← Query.ask (.searchTemplateGroups template.uuid template.organization
        permission? (searchText query?) page.offset page.size)
      return (⟨groups, page, total⟩ : Listing TemplateGroup)) :=
    .transaction (.bind (.lift (Lookup.template_reads _ _ _)) fun _ =>
      .bind (Session.checkAdministers_reads _) fun _ => .bind (.query trivial) fun _ =>
      .bind (.query trivial) fun _ => .pure _)
  dsimp only
  split
  · exact .bind (.orRaise _) fun _ => .bind (.orRaise _) fun _ => hlist
  · exact .bind (.orRaise _) fun _ => hlist

section

variable {P : Query → Prop} (hlooks : ∀ q : Query, q.Looks → P q)
  (hload : Acting.AsksOnly P Session.load)
include hlooks hload

theorem createTemplate_asksOnly (hinsert : ∀ t, P (.insertTemplate t))
    (name description? keyPattern? organizationKey? : Option String) :
    Acting.AsksOnly P (createTemplate name description? keyPattern? organizationKey?) := by
  refine .bind Session.checkSignedIn_asksOnly fun _ => .bind (.transaction ?_) fun _ =>
    .bind (.record _) fun _ => .pure _
  refine .bind (.lift (Lookup.organization_asksOnly hlooks _)) fun o =>
    .bind (Session.checkAdministers_asksOnly hload _) fun _ => ?_
  dsimp only
  split
  · exact .raise_bind _ _
  · refine .bind (.liftExcept _) fun _ => .bind (.query (hlooks _ trivial)) fun found => ?_
    split
    · exact .raise_bind _ _
    · exact .bind .now fun _ => .bind .freshUuid fun _ => .bind (.query (hinsert _)) fun _ =>
        .pure _

theorem removeUserFromTemplate_asksOnly
    (hdelete : ∀ template holder permission, P (.deleteTemplateGrant template holder permission))
    (login : String) (permission : Permission)
    (templateId? templateName? organizationKey? : Option String) :
    Acting.AsksOnly P
      (removeUserFromTemplate login permission templateId? templateName? organizationKey?) := by
  refine .bind Session.checkSignedIn_asksOnly fun _ => .bind (.orRaise _) fun _ =>
    .bind (.transaction ?_) fun _ => .record _
  exact .bind (.lift (Lookup.template_asksOnly hlooks _ _ _)) fun _ =>
    .bind (Session.checkAdministers_asksOnly hload _) fun _ =>
    .bind (.lift (Lookup.user_asksOnly hlooks _)) fun _ => .bind (.query (hdelete _ _ _)) fun _ =>
    .pure _

theorem addUserToGroup_asksOnly (hmember : ∀ group user, P (.isMember group user))
    (hadd : ∀ group user, P (.addMember group user)) (login : String) (groupId? : Option Int)
    (groupName? organizationKey? : Option String) :
    Acting.AsksOnly P (addUserToGroup login groupId? groupName? organizationKey?) := by
  refine .bind Session.checkSignedIn_asksOnly fun _ => .bind (.transaction ?_) fun joined? => ?_
  · refine .bind (.lift (Lookup.group_asksOnly hlooks _ _ _)) fun (o, group?) =>
      .bind (Session.checkAdministers_asksOnly hload _) fun _ => ?_
    cases group? with
    | none => exact .raise _
    | some group =>
      refine .bind (.lift (Lookup.user_asksOnly hlooks _)) fun _ =>
        .bind (.query (hmember _ _)) fun there => ?_
      cases there with
      | true => exact .pure _
      | false => exact .bind (.query (hadd _ _)) fun _ => .pure _
  · cases joined? with
    | none => exact .pure _
    | some joined => exact .bind (.record _) fun _ => .pure _

end

theorem unsetRoot_asksOnly {P : Query → Prop} (hset : ∀ login root, P (.setRoot login root))
    (login? : Option String) : Acting.AsksOnly P (unsetRoot login?) := by
  refine .bind Session.checkRoot_asksOnly fun _ => ?_
  cases given? login? with
  | none => exact .raise _
  | some login =>
    refine .bind (.transaction (.query (hset _ _))) fun changed => ?_
    cases changed with
    | true => exact .bind .get fun _ => .bind (.record _) fun _ => .pure _
    | false => exact .pure _

theorem createTemplate_sparesAccess
    (name description? keyPattern? organizationKey? : Option String) :
    Acting.AsksOnly Query.SparesAccess
      (createTemplate name description? keyPattern? organizationKey?) :=
  createTemplate_asksOnly (fun _ hq => hq.reads.sparesAccess)
    (Session.load_asksOnly trivial fun _ => trivial) (fun _ => trivial) _ _ _ _

theorem createTemplate_sparesGrants
    (name description? keyPattern? organizationKey? : Option String) :
    Acting.AsksOnly Query.SparesGrants
      (createTemplate name description? keyPattern? organizationKey?) :=
  (createTemplate_sparesAccess _ _ _ _).mono fun _ => Query.SparesAccess.sparesGrants

theorem removeUserFromTemplate_sparesGrants (login : String) (permission : Permission)
    (templateId? templateName? organizationKey? : Option String) :
    Acting.AsksOnly Query.SparesGrants
      (removeUserFromTemplate login permission templateId? templateName? organizationKey?) :=
  removeUserFromTemplate_asksOnly (fun _ hq => hq.reads.sparesGrants)
    (Session.load_asksOnly trivial fun _ => trivial) (fun _ _ _ => trivial) _ _ _ _ _

theorem addUserToGroup_sparesGrants (login : String) (groupId? : Option Int)
    (groupName? organizationKey? : Option String) :
    Acting.AsksOnly Query.SparesGrants
      (addUserToGroup login groupId? groupName? organizationKey?) :=
  addUserToGroup_asksOnly (fun _ hq => hq.reads.sparesGrants)
    (Session.load_asksOnly trivial fun _ => trivial) (fun _ _ => trivial) (fun _ _ => trivial)
    _ _ _ _

theorem unsetRoot_sparesGrants (login? : Option String) :
    Acting.AsksOnly Query.SparesGrants (unsetRoot login?) :=
  unsetRoot_asksOnly (fun _ _ => trivial) login?

end Service

end Entitlements
