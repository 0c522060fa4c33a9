import Entitlements.Proofs.Program.Preserves
import Entitlements.Proofs.Service.Reads

/-!
# What reads in units of work of its own

Signing in, checks and searches read within units of work, and never in more than two at a time.
Whatever condition they are to preserve, it is enough to know what the setting makes of reading and
of the beginning and the end of a unit. This is said once here, for as many units within each other
as there may be.
-/

namespace Entitlements

variable {α γ : Type} {E : Setting γ} {I J : γ → Prop} {n : Nat}

/-- The request reads from the store or asks about a token, or it says in the log that a token could
not be asked about. -/
def Request.Inquires : Request → Prop
  | .query q => q.Reads
  | .introspect _ | .log (.introspectionFailed _) => True
  | _ => False

theorem Request.Reads.inquires {r : Request} (h : r.Reads) : r.Inquires := by
  cases r with
  | query q => exact h
  | _ => exact h.elim

namespace Setting

/-- The request may be made under one condition and leads to the other. -/
def Leads (E : Setting γ) (J I : γ → Prop) (r : Request) : Prop :=
  ∀ g, J g → E.permits g r ∧ ∀ a h, E.answers g r a h → I h

/-- Under the condition it may be read, in so many units of work within each other as the number
says: a unit begins under some condition that goes on for reading in it, and however it ends the
condition outside is met again. -/
def Hosts (E : Setting γ) : Nat → (γ → Prop) → Prop
  | 0, I => ∀ r, r.Inquires → E.Allows I r
  | n + 1, I => (∀ r, r.Inquires → E.Allows I r) ∧
    ∀ g, I g → E.permits g .begin ∧ ∀ u h, E.answers g .begin u h →
      ∃ J, J h ∧ E.Hosts n J ∧ E.Leads J I .complete ∧ ∀ f, E.Leads J I (.abandon f)

theorem Hosts.allows (h : E.Hosts n I) {r : Request} (hr : r.Inquires) : E.Allows I r := by
  cases n with
  | zero => exact h r hr
  | succ n => exact h.1 r hr

end Setting

open Setting (Hosts)

namespace Work

/-- What only reads can be hosted. -/
theorem MakesOnly.hosted {w : Work α} (hw : MakesOnly Request.Reads w) (h : E.Hosts n I) :
    Preserves E I w :=
  hw.preserves fun _ hr => h.allows hr.inquires

/-- What is hosted under the condition within a unit of work is hosted as that unit. -/
theorem Preserves.hosted_transaction {w : Work α} (h : E.Hosts (n + 1) I)
    (hw : ∀ J, E.Hosts n J → Preserves E J w) : Preserves E I (transaction w) := by
  intro g hg
  obtain ⟨hpermits, hbegin⟩ := h.2 g hg
  rw [ensures_transaction]
  refine ⟨hpermits, fun u k hk => ?_⟩
  obtain ⟨J, hJ, hhosts, hcomplete, habandon⟩ := hbegin u k hk
  refine (hw J hhosts k hJ).mono (fun a k' hk' => ?_) fun f k' hk' => habandon f k' hk'
  obtain ⟨hpermits', hend⟩ := hcomplete k' hk'
  refine ⟨hpermits', fun c k'' hk'' => ?_⟩
  cases c <;> exact hend _ k'' hk''

end Work

namespace Acting

theorem Preserves.hosted_query {q : Query} (hq : q.Reads) (h : E.Hosts n I) :
    Preserves E I (Query.ask q : Acting q.Answer) :=
  .query (h.allows (r := .query q) hq)

/-- What is hosted under the condition within a unit of work is hosted as that unit. -/
theorem Preserves.hosted_transaction {a : Acting α} (h : E.Hosts (n + 1) I)
    (ha : ∀ J, E.Hosts n J → Preserves E J a) : Preserves E I (transaction a) := by
  intro σ g hg
  obtain ⟨hpermits, hbegin⟩ := h.2 g hg
  rw [ensures_transaction]
  refine ⟨hpermits, fun u k hk => ?_⟩
  obtain ⟨J, hJ, hhosts, hcomplete, habandon⟩ := hbegin u k hk
  refine (ha J hhosts σ k hJ).mono (fun a τ k' hk' => ?_) fun f τ k' hk' => habandon f k' hk'
  obtain ⟨hpermits', hend⟩ := hcomplete k' hk'
  refine ⟨hpermits', fun c k'' hk'' => ?_⟩
  cases c <;> exact hend _ k'' hk''

end Acting

namespace Session

/-- Signing in is a unit of work where there is a login. -/
theorem create_hosted (h : E.Hosts (n + 1) I) (login? : Option String) :
    Work.Preserves E I (create login?) := by
  cases login? with
  | none => exact .pure _
  | some login =>
    unfold create
    dsimp only
    split
    · exact .pure _
    · have hread : Work.MakesOnly Request.Reads (Query.ask (.userByLogin login)) := .query trivial
      exact .bind (.hosted_transaction h fun _ => hread.hosted) fun _ => .pure _

/-- The permissions of the caller are read in a unit of work of their own. -/
theorem load_hosted (h : E.Hosts (n + 1) I) : Acting.Preserves E I load := by
  refine .bind .get fun σ => ?_
  cases σ.snapshot? with
  | some s => exact .pure s
  | none =>
    refine .bind (.hosted_transaction h fun J hJ => ?_) fun _ => .bind (.modify _) fun _ => .pure _
    exact .bind (.hosted_query trivial hJ) fun _ => .bind (.hosted_query trivial hJ) fun _ =>
      .bind (.modify _) fun _ => .pure _

theorem signedIn_preserves : Acting.Preserves E I signedIn := by
  refine .bind .get fun σ => ?_
  cases σ.principal.id? with
  | none => exact .raise _
  | some id => exact .pure id

theorem checkSignedIn_preserves : Acting.Preserves E I checkSignedIn :=
  .bind signedIn_preserves fun _ => .pure ()

theorem demand_preserves {check : Acting Bool} (h : Acting.Preserves E I check) :
    Acting.Preserves E I (demand check) :=
  .bind h fun _ => .require _ _

/-- So a check is a unit of work, wherever it is made. -/
theorem checkAdministers_hosted (h : E.Hosts (n + 1) I) (scope? : Option Scope) :
    Acting.Preserves E I (checkAdministers scope?) := by
  have hload := load_hosted h
  unfold checkAdministers
  split
  · exact demand_preserves (.bind hload fun _ => .bind .get fun _ => .pure _)
  · exact demand_preserves (.bind hload fun _ => .pure _)

end Session

theorem Auth.authenticate_hosted (h : E.Hosts (n + 1) I) (reader : TokenReader)
    (credentials : String) : Work.Preserves E I (authenticate reader credentials) := by
  have hidentify (token : String) : Work.Preserves E I (reader.identify token) := by
    cases reader with
    | none | plain => exact .pure _
    | service =>
      refine .bind (.ask (h.allows (r := .introspect token) trivial)) fun answer => ?_
      cases answer with
      | claims fields => exact .pure _
      | refused error =>
        exact .bind (.ask (h.allows (r := .log (.introspectionFailed error)) trivial)) fun _ =>
          .pure _
      | failed => exact .throw _
  have hsession (i : Identity) : Work.Preserves E I i.session := by
    unfold Identity.session
    split
    · exact Session.create_hosted h _
    · exact .hosted_transaction h fun _ _ => .pure _
  unfold authenticate
  split
  · exact .bind (Session.create_hosted h none) fun _ => .pure _
  · split
    · refine .bind (hidentify _) fun i? => ?_
      cases i? with
      | none => exact .pure _
      | some i => exact .bind (hsession i) fun _ => .pure _
    · exact .pure _

theorem Change.checkAll_hosted (h : E.Hosts (n + 1) I) (changes : List Change) :
    Acting.Preserves E I (checkAll changes) := by
  induction changes with
  | nil => exact .pure ()
  | cons c rest ih => exact .bind (Session.checkAdministers_hosted h _) fun _ => ih

namespace Service

theorem searchGroups_hosted (h : E.Hosts (n + 1) I) (query? : Option String) (page : Page)
    (organizationKey? : Option String) :
    Acting.Preserves E I (searchGroups query? page organizationKey?) := by
  refine .bind Session.checkSignedIn_preserves fun _ => .bind (.orRaise _) fun _ =>
    .hosted_transaction h fun J hJ => ?_
  exact .bind (.lift ((Lookup.organization_makesOnly _).hosted hJ)) fun _ =>
    .bind (.hosted_query trivial hJ) fun _ => .bind (.hosted_query trivial hJ) fun _ => .pure _

theorem searchMyProjects_hosted (h : E.Hosts (n + 1) I) (query? : Option String) (page : Page) :
    Acting.Preserves E I (searchMyProjects query? page) := by
  refine .bind Session.signedIn_preserves fun _ => .bind (.orRaise _) fun _ =>
    .bind (.orRaise _) fun _ => .hosted_transaction h fun J hJ => ?_
  exact .bind (.hosted_query trivial hJ) fun _ => .bind (.hosted_query trivial hJ) fun _ => .pure _

/-- Whether the organization is administered is checked within the unit of work, which makes two. -/
theorem templateGroups_hosted (h : E.Hosts (n + 2) I)
    (templateId? templateName? permission? query? : Option String) (page : Page)
    (organizationKey? : Option String) :
    Acting.Preserves E I
      (templateGroups templateId? templateName? permission? query? page organizationKey?) := by
  refine .bind Session.checkSignedIn_preserves fun _ => ?_
  have hlist : Acting.Preserves E I (transaction do
      let template ← Session.lift (Lookup.template templateId? templateName? organizationKey?)
      Session.checkAdministers (some (.organization template.organization))
      let total ← Query.ask (.countTemplateGroups template.uuid template.organization
        permission? (searchText query?))
      let groups ← Query.ask (.searchTemplateGroups template.uuid template.organization
        permission? (searchText query?) page.offset page.size)
      return (⟨groups, page, total⟩ : Listing TemplateGroup)) := by
    refine .hosted_transaction h fun J hJ => ?_
    exact .bind (.lift ((Lookup.template_makesOnly _ _ _).hosted hJ)) fun _ =>
      .bind (Session.checkAdministers_hosted hJ _) fun _ => .bind (.hosted_query trivial hJ)
        fun _ => .bind (.hosted_query trivial hJ) fun _ => .pure _
  dsimp only
  split
  · exact .bind (.orRaise _) fun _ => .bind (.orRaise _) fun _ => hlist
  · exact .bind (.orRaise _) fun _ => hlist

end Service

end Entitlements
