import Entitlements.Proofs.Sql.Filling
import Entitlements.Sql.Question

/-!
# Arguments stay out of the text of a statement

The text of a statement depends on the shape of the question only: on the kinds of holders and
scopes in it, and on which of the values that can be missing are given and say something. All that
is asked for goes beside the text, and every mark in the text is given what its column or clause
calls for.
-/

namespace Entitlements

/-- A text that only says that there is one. -/
def outlineText : String := "?"

/-- What kind of holder it is. -/
def Holder.outline : Holder → Holder
  | .user _ _ => .user 0 outlineText
  | .group _ => .group 0
  | .anyone => .anyone

/-- What kind of scope it is. -/
def Scope.outline : Scope → Scope
  | .project _ _ => .project outlineText outlineText
  | .organization _ => .organization outlineText

/-- What kind of holder and of scope the grant has. -/
def Grant.outline (g : Grant) : Grant :=
  ⟨outlineText, g.holder.outline, outlineText, g.scope.outline⟩

/-- Whether the text is given and says something. -/
def outlineOf? (s? : Option String) : Option String := (Sql.searched s?).map fun _ => outlineText

namespace Query

/-- The shape of a question: which kinds of holders and scopes it names, and which values that can
be missing are given and say something. -/
def outline : Query → Query
  | .userByLogin _ => .userByLogin outlineText
  | .setRoot _ _ => .setRoot outlineText false
  | .organizationByKey _ => .organizationByKey outlineText
  | .organizationByUuid _ => .organizationByUuid outlineText
  | .defaultOrganization => .defaultOrganization
  | .componentByUuid _ => .componentByUuid outlineText
  | .componentByKey _ => .componentByKey outlineText
  | .searchProjects _ _ query? _ _ => .searchProjects 0 outlineText (outlineOf? query?) 0 0
  | .countProjects _ _ query? => .countProjects 0 outlineText (outlineOf? query?)
  | .groupById _ => .groupById 0
  | .groupByName _ _ => .groupByName outlineText outlineText
  | .isMember _ _ => .isMember 0 0
  | .addMember _ _ => .addMember 0 0
  | .searchGroups _ query? _ _ => .searchGroups outlineText (outlineOf? query?) 0 0
  | .countGroups _ query? => .countGroups outlineText (outlineOf? query?)
  | .lockOrganization _ => .lockOrganization outlineText
  | .selectPermissions _ holder scope =>
    .selectPermissions outlineText holder.outline scope.outline
  | .insertGrant g => .insertGrant g.outline
  | .deleteGrant g => .deleteGrant g.outline
  | .countAdministrators .. => .countAdministrators outlineText outlineText none none
  | .loadSnapshot user? => .loadSnapshot (user?.map fun _ => 0)
  | .templateByUuid _ => .templateByUuid outlineText
  | .templateByName _ _ => .templateByName outlineText outlineText
  | .insertTemplate _ =>
    .insertTemplate ⟨outlineText, outlineText, outlineText, none, none, none, none⟩
  | .deleteTemplateGrant _ holder _ => .deleteTemplateGrant outlineText holder.outline outlineText
  | .searchTemplateGroups _ _ permission? query? _ _ =>
    .searchTemplateGroups outlineText outlineText (outlineOf? permission?) (outlineOf? query?) 0 0
  | .countTemplateGroups _ _ permission? query? =>
    .countTemplateGroups outlineText outlineText (outlineOf? permission?) (outlineOf? query?)

end Query

namespace Sql

theorem searched_outlineOf? (s? : Option String) :
    searched (outlineOf? s?) = (searched s?).map fun _ => outlineText := by
  unfold outlineOf?
  cases searched s? with
  | none => rfl
  | some s => rfl

theorem map_text_nameFilter (query? : Option String) :
    (nameFilter (outlineOf? query?)).map Piece.text = (nameFilter query?).map Piece.text := by
  rw [nameFilter, nameFilter, searched_outlineOf?]
  cases searched query? <;> simp [Piece.text]

theorem map_text_projectFilter (query? : Option String) :
    (projectFilter (outlineOf? query?)).map Piece.text =
      (projectFilter query?).map Piece.text := by
  rw [projectFilter, projectFilter, searched_outlineOf?]
  cases searched query? <;> simp [Piece.text]

theorem map_text_templateHolderFilter (query? : Option String) :
    (templateHolderFilter (outlineOf? query?)).map Piece.text =
      (templateHolderFilter query?).map Piece.text := by
  rw [templateHolderFilter, templateHolderFilter, searched_outlineOf?]
  cases searched query? <;> simp [Piece.text]

theorem map_text_templatePermissionFilter (permission? query? : Option String) :
    (templatePermissionFilter (outlineOf? permission?) (outlineOf? query?)).map Piece.text =
      (templatePermissionFilter permission? query?).map Piece.text := by
  rw [templatePermissionFilter, templatePermissionFilter, searched_outlineOf?, searched_outlineOf?]
  cases searched permission? <;> cases searched query? <;> simp [Piece.text]

/-- The words of a statement are those of the shape of its question. -/
theorem text_outline (now now' : Instant) (q : Query) :
    (statement now q.outline).text = (statement now' q).text := by
  refine congrArg String.join ?_
  cases q with
  | searchProjects | countProjects =>
    simp only [Query.outline, statement, List.map_cons, List.map_append, map_text_projectFilter]
    rfl
  | searchGroups | countGroups =>
    simp only [Query.outline, statement, List.map_cons, List.map_append, map_text_nameFilter]
    rfl
  | searchTemplateGroups | countTemplateGroups =>
    simp only [Query.outline, statement, List.map_cons, List.map_append,
      map_text_templateHolderFilter, map_text_templatePermissionFilter]
    rfl
  | selectPermissions organization holder scope => cases holder <;> cases scope <;> rfl
  | deleteGrant g =>
    obtain ⟨organization, holder, permission, scope⟩ := g
    cases holder <;> cases scope <;> rfl
  | deleteTemplateGrant template holder permission => cases holder <;> rfl
  | loadSnapshot user? => cases user? <;> rfl
  | _ => rfl

/-- What a search for projects calls for. -/
def projectsCalled (user : Int) (permission : Permission) (query? : Option String) :
    List (String × Datum) :=
  [("c.qualifier", .text Component.projectQualifier), ("g.permission", .text permission),
    ("g.user_id", .int user), ("user_id", .int user)] ++
  match searched query? with
  | none => []
  | some query => [("c.name", .text (containing query)), ("c.kee", .text query)]

/-- What a search for groups calls for. -/
def groupsCalled (organization : String) (query? : Option String) : List (String × Datum) :=
  ("g.organization_uuid", .text organization) ::
  match searched query? with
  | none => []
  | some query => [("g.name", .text (containing query))]

/-- What a search for the groups of a template calls for. -/
def templateGroupsCalled (template organization : String) (permission? query? : Option String) :
    List (String × Datum) :=
  [("name", .text Holder.anyoneName), ("g.organization_uuid", .text organization),
    ("t.template_uuid", .text template)] ++
  (match searched query? with
    | none => []
    | some query => [("c.name", .text (containing query))]) ++
  match searched permission? with
  | none => []
  | some permission => [("t.permission", .text permission)]

/-- What a page calls for. -/
def pageCalled (offset limit : Int) : List (String × Datum) :=
  [("OFFSET", .int offset), ("LIMIT", .int limit)]

/-- What the columns and the clauses in the statement of a question call for. -/
def called (now : Instant) : Query → List (String × Datum)
  | .userByLogin login => [("login", .text login)]
  | .setRoot login root =>
    [("login", .text login), ("is_root", .bool root), ("updated_at", .time now)]
  | .organizationByKey key => [("kee", .text key)]
  | .organizationByUuid uuid => [("uuid", .text uuid)]
  | .defaultOrganization => [("ip.kee", .text defaultOrganizationProperty)]
  | .componentByUuid uuid => [("c.uuid", .text uuid)]
  | .componentByKey key => [("c.kee", .text key)]
  | .searchProjects user permission query? offset limit =>
    pageCalled offset limit ++ projectsCalled user permission query?
  | .countProjects user permission query? => projectsCalled user permission query?
  | .groupById id => [("g.id", .int id)]
  | .groupByName organization name =>
    [("g.organization_uuid", .text organization), ("g.name", .text name)]
  | .isMember group user | .addMember group user =>
    [("group_id", .int group), ("user_id", .int user)]
  | .searchGroups organization query? offset limit =>
    pageCalled offset limit ++ groupsCalled organization query?
  | .countGroups organization query? => groupsCalled organization query?
  | .lockOrganization organization => [("hashtextextended", .text (lockName organization))]
  | .selectPermissions organization holder scope =>
    [("organization_uuid", .text organization), ("user_id", .ofInt? (holderUser holder)),
      ("group_id", .ofInt? (holderGroup holder)), ("project_uuid", .ofText? scope.project?)]
  | .insertGrant g | .deleteGrant g => grantRow g now
  | .countAdministrators organization permission exceptUser exceptGroup =>
    [("g.organization_uuid", .text organization), ("g.permission", .text permission),
      ("g.user_id", .ofInt? exceptUser), ("g.group_id", .ofInt? exceptGroup)]
  | .loadSnapshot user? => [("user_id", .ofInt? user?)]
  | .templateByUuid uuid => [("uuid", .text uuid)]
  | .templateByName organization name =>
    [("organization_uuid", .text organization), ("name", .text name)]
  | .insertTemplate t =>
    [("uuid", .text t.uuid), ("organization_uuid", .text t.organization), ("name", .text t.name),
      ("description", .ofText? t.description), ("key_pattern", .ofText? t.keyPattern),
      ("created_at", .ofText? t.createdAt), ("updated_at", .ofText? t.updatedAt)]
  | .deleteTemplateGrant template holder permission =>
    [("template_uuid", .text template), ("user_id", .ofInt? (holderUser holder)),
      ("group_id", .ofInt? (holderGroup holder)), ("permission", .text permission)]
  | .searchTemplateGroups template organization permission? query? offset limit =>
    pageCalled offset limit ++ templateGroupsCalled template organization permission? query?
  | .countTemplateGroups template organization permission? query? =>
    templateGroupsCalled template organization permission? query?

open Fragment

/-- The marks of a page. -/
def pageMarks : List (String × Mark) := [("OFFSET", .named "offset"), ("LIMIT", .named "limit")]

/-- The marks of a search for projects, but for its text. -/
def projectMarks : List (String × Mark) :=
  [("c.qualifier", .named "qualifier"), ("g.permission", .named "permission"),
    ("g.user_id", .named "user_id"), ("user_id", .named "user_id")]

/-- The marks of a search text for projects. -/
def projectQueryMarks : List (String × Mark) := [("c.name", .named "name"), ("c.kee", .named "key")]

/-- The marks of a search for the groups of a template, but for its text and permission. -/
def templateGroupMarks : List (String × Mark) :=
  [("name", .named "anyone"), ("g.organization_uuid", .named "organization_uuid"),
    ("t.template_uuid", .named "template_uuid")]

/-- The marks that stand for a value only where one is given and says something. -/
def marksIf (s? : Option String) (ms : List (String × Mark)) : List (String × Mark) :=
  match searched s? with
  | none => []
  | some _ => ms

/-- The marks of a holder. -/
def holderMarks : Holder → List (String × Mark)
  | .user _ _ => [("user_id", .next)]
  | .group _ => [("group_id", .next)]
  | .anyone => []

/-- The marks of a scope, but for its organization. -/
def scopeMarks : Scope → List (String × Mark)
  | .project _ _ => [("project_uuid", .next)]
  | .organization _ => []

/-- The marks in the statement of a question. -/
def marks : Query → List (String × Mark)
  | .userByLogin _ => [("login", .next)]
  | .setRoot _ _ => [("is_root", .next), ("updated_at", .next), ("login", .next), ("is_root", .next)]
  | .organizationByKey _ => [("kee", .next)]
  | .organizationByUuid _ => [("uuid", .next)]
  | .defaultOrganization => [("ip.kee", .next)]
  | .componentByUuid _ => [("c.uuid", .next)]
  | .componentByKey _ => [("c.kee", .next)]
  | .searchProjects _ _ query? _ _ => projectMarks ++ marksIf query? projectQueryMarks ++ pageMarks
  | .countProjects _ _ query? => projectMarks ++ marksIf query? projectQueryMarks
  | .groupById _ => [("g.id", .next)]
  | .groupByName _ _ => [("g.organization_uuid", .next), ("g.name", .next)]
  | .isMember _ _ | .addMember _ _ => [("group_id", .next), ("user_id", .next)]
  | .searchGroups _ query? _ _ =>
    ("g.organization_uuid", .next) :: marksIf query? [("g.name", .next)] ++
      [("OFFSET", .next), ("LIMIT", .next)]
  | .countGroups _ query? => ("g.organization_uuid", .next) :: marksIf query? [("g.name", .next)]
  | .lockOrganization _ => [("hashtextextended", .next)]
  | .selectPermissions _ holder scope =>
    ("organization_uuid", .next) :: holderMarks holder ++ scopeMarks scope
  | .insertGrant _ =>
    [("organization_uuid", .next), ("holder_kind", .next), ("user_id", .next),
      ("group_id", .next), ("project_uuid", .next), ("permission", .next), ("created_at", .next)]
  | .deleteGrant g =>
    ("organization_uuid", .next) :: holderMarks g.holder ++ scopeMarks g.scope ++
      [("permission", .next)]
  | .countAdministrators .. =>
    [("g.organization_uuid", .named "org"), ("g.permission", .named "perm"),
      ("g.user_id", .named "excluded_user"), ("g.organization_uuid", .named "org"),
      ("g.permission", .named "perm"), ("g.group_id", .named "excluded_group")]
  | .loadSnapshot none => []
  | .loadSnapshot (some _) => [("user_id", .named "user_id"), ("user_id", .named "user_id")]
  | .templateByUuid _ => [("uuid", .next)]
  | .templateByName _ _ => [("organization_uuid", .next), ("name", .next)]
  | .insertTemplate _ =>
    [("uuid", .next), ("organization_uuid", .next), ("name", .next), ("description", .next),
      ("key_pattern", .next), ("created_at", .next), ("updated_at", .next)]
  | .deleteTemplateGrant _ holder _ =>
    ("template_uuid", .next) :: holderMarks holder ++ [("permission", .next)]
  | .searchTemplateGroups _ _ permission? query? _ _ =>
    templateGroupMarks ++ marksIf query? [("c.name", .named "query")] ++
      marksIf permission? [("t.permission", .named "permission")] ++ pageMarks
  | .countTemplateGroups _ _ permission? query? =>
    templateGroupMarks ++ marksIf query? [("c.name", .named "query")] ++
      marksIf permission? [("t.permission", .named "permission")]

/-- These are the marks that are read in the statement. -/
theorem marksOf?_statement (now : Instant) (q : Query) :
    marksOf? (statement now q).text = some (marks q) := by
  cases q with
  | searchProjects user permission query? | countProjects user permission query? =>
    simp only [statement, projectFilter, marks, marksIf]
    cases searched query? <;> dsimp only <;> exact marksOf?_text
  | searchGroups organization query? | countGroups organization query? =>
    simp only [statement, nameFilter, marks, marksIf]
    cases searched query? <;> dsimp only <;> exact marksOf?_text
  | searchTemplateGroups template organization permission? query?
  | countTemplateGroups template organization permission? query? =>
    simp only [statement, templateHolderFilter, templatePermissionFilter, marks, marksIf]
    cases searched query? <;> cases searched permission? <;> dsimp only <;> exact marksOf?_text
  | selectPermissions organization holder scope =>
    cases holder <;> cases scope <;> simp only [marks, holderMarks, scopeMarks] <;>
      exact marksOf?_text
  | deleteGrant g =>
    obtain ⟨organization, holder, permission, scope⟩ := g
    cases holder <;> cases scope <;> simp only [marks, holderMarks, scopeMarks] <;>
      exact marksOf?_text
  | deleteTemplateGrant template holder permission =>
    cases holder <;> simp only [marks, holderMarks] <;> exact marksOf?_text
  | loadSnapshot user? => cases user? <;> simp only [marks] <;> exact marksOf?_text
  | _ =>
    simp only [marks]
    exact marksOf?_text

/-- The values of a page under their names. -/
def pageValues (offset limit : Int) : List (String × Datum) :=
  [("offset", .int offset), ("limit", .int limit)]

/-- The values of a search for projects under their names, but for its text. -/
def projectValues (user : Int) (permission : Permission) : List (String × Datum) :=
  [("qualifier", .text Component.projectQualifier), ("permission", .text permission),
    ("user_id", .int user)]

/-- The values of a search text for projects under their names. -/
def projectQueryValues (query : String) : List (String × Datum) :=
  [("name", .text (containing query)), ("key", .text query)]

/-- The values of a search for the groups of a template under their names, but for its text and
permission. -/
def templateGroupValues (template organization : String) : List (String × Datum) :=
  [("anyone", .text Holder.anyoneName), ("organization_uuid", .text organization),
    ("template_uuid", .text template)]

/-- The values that are there only where one is given and says something. -/
def valuesIf (s? : Option String) (vs : String → List (String × Datum)) : List (String × Datum) :=
  match searched s? with
  | none => []
  | some s => vs s

/-- The values that go beside the statement of a question under names. -/
def valued : Query → List (String × Datum)
  | .searchProjects user permission query? offset limit =>
    projectValues user permission ++ valuesIf query? projectQueryValues ++ pageValues offset limit
  | .countProjects user permission query? =>
    projectValues user permission ++ valuesIf query? projectQueryValues
  | .countAdministrators organization permission exceptUser exceptGroup =>
    [("org", .text organization), ("perm", .text permission),
      ("excluded_user", .ofInt? exceptUser), ("excluded_group", .ofInt? exceptGroup)]
  | .loadSnapshot (some user) => [("user_id", .int user)]
  | .searchTemplateGroups template organization permission? query? offset limit =>
    templateGroupValues template organization ++
      valuesIf query? (fun query => [("query", .text (containing query))]) ++
      valuesIf permission? (fun permission => [("permission", .text permission)]) ++
      pageValues offset limit
  | .countTemplateGroups template organization permission? query? =>
    templateGroupValues template organization ++
      valuesIf query? (fun query => [("query", .text (containing query))]) ++
      valuesIf permission? (fun permission => [("permission", .text permission)])
  | _ => []

/-- Whatever is asked for, the values beside the statement fill its marks with what is called for. -/
theorem statement_fits (now : Instant) (q : Query) : (statement now q).Fits (called now q) := by
  have hmarks := marksOf?_statement now q
  have hnamed := @fits_named (statement now q) (marks q) (called now q) (valued q) hmarks
  cases q with
  | searchProjects user permission query? | countProjects user permission query? =>
    apply hnamed
    simp only [statement, projectFilter, called, projectsCalled, marks, marksIf, valued, valuesIf]
    cases searched query? <;> exact ⟨rfl, List.cons_ne_nil _ _, by repeat' constructor⟩
  | searchGroups organization query? | countGroups organization query? =>
    simp only [statement, nameFilter, called, groupsCalled, marks, marksIf] at hmarks ⊢
    generalize searched query? = s? at hmarks ⊢
    cases s? <;> exact fits_ordered hmarks
  | searchTemplateGroups template organization permission? query?
  | countTemplateGroups template organization permission? query? =>
    apply hnamed
    simp only [statement, templateHolderFilter, templatePermissionFilter, called,
      templateGroupsCalled, marks, marksIf, valued, valuesIf]
    cases searched query? <;> cases searched permission? <;>
      exact ⟨rfl, List.cons_ne_nil _ _, by repeat' constructor⟩
  | selectPermissions organization holder scope =>
    cases holder <;> cases scope <;> exact fits_ordered hmarks
  | deleteGrant g =>
    obtain ⟨organization, holder, permission, scope⟩ := g
    cases holder <;> cases scope <;> exact fits_ordered hmarks
  | deleteTemplateGrant template holder permission => cases holder <;> exact fits_ordered hmarks
  | countAdministrators => exact hnamed ⟨rfl, List.cons_ne_nil _ _, by repeat' constructor⟩
  | loadSnapshot user? =>
    cases user? with
    | none => exact fits_none hmarks
    | some user => exact hnamed ⟨rfl, List.cons_ne_nil _ _, by repeat' constructor⟩
  | _ => exact fits_ordered hmarks

/-- Two questions of one shape have statements of the same text, whenever they are asked, so nothing
that is asked for gets into it. The values beside the text fit its marks, and at every mark there is
what its column or clause calls for. -/
theorem statement_parameterized (now : Instant) (q : Query) :
    (∀ (now' : Instant) (q' : Query), q.outline = q'.outline →
      (statement now q).text = (statement now' q').text) ∧
    (statement now q).Fits (called now q) := by
  refine ⟨fun now' q' h => ?_, statement_fits now q⟩
  rw [← text_outline now now q, ← text_outline now now' q', h]

/-- A search text that looks like a part of a statement is asked for like any other one. -/
theorem statement_parameterized_quotes :
    let now : Instant := default
    let q : Query := .searchGroups "org-default" (some "' OR g.id = %s --") 0 100
    let q' : Query := .searchGroups "" (some "dev") 5 1
    q.outline = q'.outline ∧ (statement now q).text = (statement now q').text ∧
      (statement now q).Fits (called now q) := by
  intro now q q'
  have houtline : q.outline = q'.outline := by decide +kernel
  exact ⟨houtline, (statement_parameterized now q).1 now q' houtline,
    (statement_parameterized now q).2⟩

end Sql

end Entitlements
