import Entitlements.Proofs.Administration.LastAdministrator
import Entitlements.Proofs.Store.Reading
import Entitlements.Sql.Condition
import Mathlib.Logic.Function.Basic
import Mathlib.Logic.Relation

/-!
# Concurrent changes

Any number of writers apply batches of changes to one database. A writer reads what is committed
together with its own writes, which become visible to others when it commits and are dropped when
it rolls back. The lock of an organization is had by one writer at a time, and it is given back at
the end of the transaction. In the meantime users join groups, and nobody's account changes.

A writer holds the lock of every organization that it has written to. What it reads about an
organization that it holds therefore stays true until its own transaction ends, and so does what a
count assured of. The private views of all writers are as good as what is committed.
-/

namespace Entitlements

/-- What the row of a holder says. A row of a user names no login. -/
def Holder.row (h : Holder) : String × Option Int × Option Int :=
  (Sql.holderKind h, Sql.holderUser h, Sql.holderGroup h)

/-- The grants have one row. -/
def Grant.SameRow (g g' : Grant) : Prop :=
  g.organization = g'.organization ∧ g.holder.row = g'.holder.row ∧
    g.permission = g'.permission ∧ g.scope.project? = g'.scope.project?

instance (g g' : Grant) : Decidable (g.SameRow g') := inferInstanceAs (Decidable (_ ∧ _))

/-- A row tells a group and a user from everyone. -/
theorem Grant.SameRow.makesAdministrators {g g' : Grant} (h : g.SameRow g')
    (hg : g'.MakesAdministrators) : g.MakesAdministrators := by
  obtain ⟨-, hh, hp, hs⟩ := h
  refine ⟨hp.trans hg.1, hs.trans hg.2.1, fun hany => hg.2.2 ?_⟩
  rw [hany] at hh
  cases h' : g'.holder with
  | anyone => rfl
  | user id login => simp [h', Holder.row, Sql.holderKind] at hh
  | group id => simp [h', Holder.row, Sql.holderKind] at hh

/-- A count leaves aside whole rows. -/
theorem Assurance.Covers.sameRow {a : Assurance} {g g' : Grant} (hg : a.Covers g)
    (h : g.SameRow g') : a.Covers g' := by
  obtain ⟨ho, hh, -, -⟩ := h
  refine ⟨hg.1.trans ho, ?_⟩
  have hc := hg.2
  cases hu : g.holder <;> cases hu' : g'.holder <;>
    simp_all [Holder.row, Sql.holderKind, Sql.holderUser, Sql.holderGroup]

/-- A write of a transaction. -/
inductive Write where
  /-- A grant is stored. -/
  | insert (g : Grant)
  /-- The row of a grant is dropped. -/
  | delete (g : Grant)

namespace Write

/-- The grant that a write is about. -/
def grant : Write → Grant
  | insert g | delete g => g

/-- The store with a write. -/
def apply : Write → Store → Store
  | insert g, s => s.addGrant g
  | delete g, s => { s with grants := s.grants.filter fun g' => ¬ g.SameRow g' }

end Write

/-- A writer in the middle of its work. -/
structure Writer where
  /-- What it has still to do. -/
  rest : Program Unit
  /-- The organizations whose locks it has. -/
  held : List String
  /-- What it has written without having committed it. -/
  writes : List Write

/-- What the writer reads: what is committed, and its own writes. -/
def Writer.view (c : Writer) (committed : Store) : Store :=
  c.writes.foldl (fun s w => w.apply s) committed

/-- Writers at work on a database. -/
structure System (ι : Type) where
  /-- What is committed. -/
  committed : Store
  /-- The writers. -/
  writers : ι → Writer

/-- The request concerns neither what is stored nor the transaction's end. -/
def Request.IsAside : Request → Prop
  | .query _ | .complete | .abandon _ => False
  | _ => True

namespace Store

variable {s t : Store} {organization : String}

/-- Dropping a row leaves the organization with somebody who administers it, where the row makes
no administrators or is covered by a count that found somebody. -/
theorem Administered.delete {g : Grant} (h : s.Administered organization)
    (hg : g.MakesAdministrators → ∃ a, s.Assures a ∧ a.Covers g) :
    ((Write.delete g).apply s).Administered organization := by
  refine h.of_dropped g.SameRow (fun _ hu => hu) (List.Subset.refl _)
    (fun g' hg' hrow => List.mem_filter.mpr ⟨hg', decide_eq_true hrow⟩) ?_
  rintro ⟨g', hrow, ho, hadmin⟩
  obtain ⟨a, ha, hc⟩ := hg (hrow.makesAdministrators hadmin)
  exact ⟨a, ha, hc.1.trans (hrow.1.trans ho), fun _ h => hc.sameRow h⟩

/-- A write to one organization takes nothing away from another. -/
theorem keeps_apply_of_ne {w : Write} (h : w.grant.organization ≠ organization) :
    Keeps organization s (w.apply s) where
  active user hu := by cases w <;> exact hu
  members := by cases w <;> exact List.Subset.refl _
  grants g hg ho := by
    cases w with
    | insert g' => exact mem_insertNew.mpr (.inl hg)
    | delete g' =>
      have hrow : ¬ g'.SameRow g := fun hrow => h (hrow.1.trans ho)
      exact List.mem_filter.mpr ⟨hg, decide_eq_true hrow⟩

/-- A write has the same effect wherever there is more to begin with. -/
theorem Keeps.apply (h : Keeps organization s t) (w : Write) :
    Keeps organization (w.apply s) (w.apply t) where
  active user hu := by cases w <;> exact h.active user hu
  members := by cases w <;> exact h.members
  grants g hg ho := by
    cases w with
    | insert g' =>
      rcases mem_insertNew.mp hg with hg | rfl
      · exact mem_insertNew.mpr (.inl (h.grants g hg ho))
      · exact mem_insertNew.mpr (.inr rfl)
    | delete g' =>
      obtain ⟨hg, hrow⟩ := List.mem_filter.mp hg
      exact List.mem_filter.mpr ⟨h.grants g hg ho, hrow⟩

end Store

namespace Writer

open Store

variable {s t : Store} {organization : String}

/-- The writer holds the lock of every organization that it has written to. -/
def WritesHeld (c : Writer) : Prop := ∀ w ∈ c.writes, w.grant.organization ∈ c.held

theorem view_append (c : Writer) (rest : Program Unit) (w : Write) (s : Store) :
    Writer.view ⟨rest, c.held, c.writes ++ [w]⟩ s = w.apply (c.view s) := by
  rw [view, List.foldl_append]
  rfl

theorem WritesHeld.append {c : Writer} (h : c.WritesHeld) {rest : Program Unit} {w : Write}
    (hw : w.grant.organization ∈ c.held) :
    WritesHeld ⟨rest, c.held, c.writes ++ [w]⟩ := by
  intro w' hw'
  rcases List.mem_append.mp hw' with hw' | hw'
  · exact h w' hw'
  · rw [List.mem_singleton.mp hw']
    exact hw

theorem keeps_view {c : Writer} (h : Keeps organization s t) :
    Keeps organization (c.view s) (c.view t) := by
  unfold view
  induction c.writes generalizing s t with
  | nil => exact h
  | cons w rest ih => exact ih (h.apply w)

/-- A writer shows an organization that it does not hold as it is committed. -/
theorem keeps_view_of_not_held {c : Writer} (hw : c.WritesHeld) (h : organization ∉ c.held) :
    Keeps organization s (c.view s) := by
  have hother : ∀ w ∈ c.writes, w.grant.organization ≠ organization := by
    intro w hmem ho
    exact h (ho ▸ hw w hmem)
  unfold view
  generalize c.writes = writes at hother
  induction writes generalizing s with
  | nil => exact .refl s
  | cons w rest ih =>
    have hfirst : Keeps organization s (w.apply s) :=
      keeps_apply_of_ne (hother w List.mem_cons_self)
    exact hfirst.trans (ih fun w' hw' => hother w' (List.mem_cons_of_mem w hw'))

/-- What is true of a writer in the middle of its work: what it has still to do keeps the
discipline from a standing that it really has. -/
structure Stands (organization : String) (committed : Store) (c : Writer) (st : Standing) :
    Prop where
  obeys : c.rest.Ensures discipline st fun _ _ => True
  held : ∀ o ∈ st.held, o ∈ c.held
  assured : ∀ a, st.assurance? = some a → a.organization ∈ st.held
  backs : (c.view committed).Backs organization st
  writes : c.WritesHeld

variable {committed : Store} {c d : Writer} {st : Standing}

/-- The request that a writer is about to make is permitted. -/
theorem Stands.permits (h : c.Stands organization committed st) {r : Request}
    {next : r.Answer → Program Unit} (hrest : c.rest = .ask r next) : st.Permits r := by
  have hobeys := h.obeys
  rw [hrest] at hobeys
  exact hobeys.1

theorem Stands.obeys_next (h : c.Stands organization committed st) {r : Request}
    {next : r.Answer → Program Unit} (hrest : c.rest = .ask r next) (a : r.Answer) :
    (next a).Ensures discipline (st.after r a) fun _ _ => True := by
  have hobeys := h.obeys
  rw [hrest] at hobeys
  exact hobeys.2 a _ rfl

theorem Stands.held_after (h : c.Stands organization committed st) {r : Request} {a : r.Answer}
    (hr : ∀ o, r ≠ .query (.lockOrganization o)) : ∀ o ∈ (st.after r a).held, o ∈ c.held :=
  fun o ho => h.held o (st.mem_held_of_after hr ho)

/-- A writer that asks for something is permitted to, and goes on as it should whatever the answer
is, as long as it is right about what it sees then. -/
theorem Stands.next (h : c.Stands organization committed st) {r : Request}
    {next : r.Answer → Program Unit} (hrest : c.rest = .ask r next) (a : r.Answer)
    (hd : d.rest = next a) (hheld : ∀ o ∈ (st.after r a).held, o ∈ d.held)
    (hbacks : (d.view committed).Backs organization (st.after r a)) (hw : d.WritesHeld) :
    d.Stands organization committed (st.after r a) where
  obeys := hd ▸ h.obeys_next hrest a
  held := hheld
  assured _ hx := st.organization_mem_held_of_after hx
  backs := hbacks
  writes := hw

/-- What a writer sees of what it holds, and of what it does not hold, survives the commit of
another writer, which writes to none of the organizations that it does not hold. -/
theorem Stands.commit (h : d.Stands organization committed st) (hw : c.WritesHeld)
    (hdisjoint : ∀ o ∈ c.held, o ∉ d.held)
    (hview : (c.view committed).Administered organization) :
    d.Stands organization (c.view committed) st := by
  refine ⟨h.obeys, h.held, h.assured, ⟨?_, fun a ha => ?_⟩, h.writes⟩
  · by_cases ho : organization ∈ c.held
    · exact hview.mono (keeps_view_of_not_held h.writes (hdisjoint organization ho))
    · exact h.backs.administered.mono (keeps_view (keeps_view_of_not_held hw ho))
  · have hd : a.organization ∈ d.held := h.held _ (h.assured a ha)
    have hc : a.organization ∉ c.held := fun hc => hdisjoint _ hc hd
    exact (h.backs.assured a ha).mono (keeps_view (keeps_view_of_not_held hw hc))

/-- What others add to what is committed does no harm. -/
theorem Stands.grow {committed' : Store} (h : d.Stands organization committed st)
    (hk : ∀ o, Keeps o committed committed') : d.Stands organization committed' st := by
  refine ⟨h.obeys, h.held, h.assured, ⟨?_, fun a ha => ?_⟩, h.writes⟩
  · exact h.backs.administered.mono (keeps_view (hk organization))
  · exact (h.backs.assured a ha).mono (keeps_view (hk a.organization))

end Writer

namespace System

variable {ι : Type} [DecidableEq ι]

/-- One writer has gone on. -/
def set (sys : System ι) (i : ι) (c : Writer) : System ι :=
  { sys with writers := Function.update sys.writers i c }

/-- What can happen next. The database can fail any query and any commit, and can lose a writer. -/
inductive Step : System ι → System ι → Prop where
  /-- A writer gets a lock that no other writer has. -/
  | lock (sys : System ι) (i : ι) (o : String) (next : Except Fault Unit → Program Unit)
      (hrest : (sys.writers i).rest = .ask (.query (.lockOrganization o)) next)
      (hfree : ∀ j, j ≠ i → o ∉ (sys.writers j).held) :
      Step sys (sys.set i
        ⟨next (.ok ()), o :: (sys.writers i).held, (sys.writers i).writes⟩)
  /-- A writer reads what it sees. -/
  | read (sys : System ι) (i : ι) (q : Query) (next : Except Fault q.Answer → Program Unit)
      (hrest : (sys.writers i).rest = .ask (.query q) next) (hq : q.Reads)
      (hrow : ∀ o holder scope, q ≠ .selectPermissions o holder scope) :
      Step sys (sys.set i
        ⟨next (((sys.writers i).view sys.committed).answer q).1, (sys.writers i).held,
          (sys.writers i).writes⟩)
  /-- A writer reads which permissions a holder has; rows do not tell logins apart. -/
  | select (sys : System ι) (i : ι) (o : String) (holder : Holder) (scope : Scope)
      (next : Except Fault (List Permission) → Program Unit) (permissions : List Permission)
      (hrest : (sys.writers i).rest = .ask (.query (.selectPermissions o holder scope)) next)
      (hp : ∀ p, p ∈ permissions ↔ ∃ g ∈ ((sys.writers i).view sys.committed).grants,
        Grant.SameRow ⟨o, holder, p, scope⟩ g) :
      Step sys (sys.set i
        ⟨next (.ok permissions), (sys.writers i).held, (sys.writers i).writes⟩)
  /-- A writer stores a grant. -/
  | insert (sys : System ι) (i : ι) (g : Grant) (next : Except Fault Unit → Program Unit)
      (hrest : (sys.writers i).rest = .ask (.query (.insertGrant g)) next) :
      Step sys (sys.set i
        ⟨next (.ok ()), (sys.writers i).held, (sys.writers i).writes ++ [.insert g]⟩)
  /-- A writer drops the row of a grant. -/
  | delete (sys : System ι) (i : ι) (g : Grant) (next : Except Fault Unit → Program Unit)
      (hrest : (sys.writers i).rest = .ask (.query (.deleteGrant g)) next) :
      Step sys (sys.set i
        ⟨next (.ok ()), (sys.writers i).held, (sys.writers i).writes ++ [.delete g]⟩)
  /-- A query fails. -/
  | fail (sys : System ι) (i : ι) (q : Query) (next : Except Fault q.Answer → Program Unit)
      (f : Fault) (hrest : (sys.writers i).rest = .ask (.query q) next) :
      Step sys (sys.set i
        ⟨next (.error f), (sys.writers i).held, (sys.writers i).writes⟩)
  /-- A writer asks for something else, and is answered somehow. -/
  | aside (sys : System ι) (i : ι) (r : Request) (next : r.Answer → Program Unit) (a : r.Answer)
      (hrest : (sys.writers i).rest = .ask r next) (hr : r.IsAside) :
      Step sys (sys.set i
        ⟨next a, (sys.writers i).held, (sys.writers i).writes⟩)
  /-- A writer commits: its writes are visible to all, and its locks are free. -/
  | commit (sys : System ι) (i : ι) (next : Except Fault Unit → Program Unit)
      (hrest : (sys.writers i).rest = .ask .complete next) :
      Step sys (System.set ⟨(sys.writers i).view sys.committed, sys.writers⟩ i
        ⟨next (.ok ()), [], []⟩)
  /-- A commit fails, and nothing of the transaction is left. -/
  | commitFails (sys : System ι) (i : ι) (next : Except Fault Unit → Program Unit) (f : Fault)
      (hrest : (sys.writers i).rest = .ask .complete next) :
      Step sys (sys.set i ⟨next (.error f), [], []⟩)
  /-- A writer rolls back. -/
  | rollback (sys : System ι) (i : ι) (f : Fault) (next : Unit → Program Unit)
      (hrest : (sys.writers i).rest = .ask (.abandon f) next) :
      Step sys (sys.set i ⟨next (), [], []⟩)
  /-- A writer is lost, and with it its transaction. -/
  | lose (sys : System ι) (i : ι) : Step sys (sys.set i ⟨.done (), [], []⟩)
  /-- Users join groups; accounts stay as active as they are, and nobody else writes grants. -/
  | join (sys : System ι) (t : Store) (hgrants : t.grants = sys.committed.grants)
      (hmembers : sys.committed.members ⊆ t.members)
      (hactive : ∀ user, t.isActive user = sys.committed.isActive user) :
      Step sys ⟨t, sys.writers⟩

/-- Every writer is about to apply a batch of its own. -/
def start (committed : Store) (batches : ι → Session × List Change) : System ι where
  committed := committed
  writers i := ⟨(Call.batch (batches i).1 (batches i).2).program, [], []⟩

/-- Somebody administers the organization in what is committed, every writer is true to what it
has still to do, and no lock is had twice. -/
structure Sound (organization : String) (sys : System ι) : Prop where
  administered : sys.committed.Administered organization
  stands : ∀ i, ∃ st, (sys.writers i).Stands organization sys.committed st
  disjoint : ∀ i j, i ≠ j → ∀ o ∈ (sys.writers i).held, o ∉ (sys.writers j).held

variable {sys : System ι} {organization : String}

/-- Whatever becomes of what is committed when one writer goes on, the system is sound as long as
every writer is true to what it has still to do, and the one takes no lock from another. -/
theorem Sound.replace {committed : Store} (h : sys.Sound organization) {i : ι} {c : Writer}
    (hadmin : committed.Administered organization)
    (hothers : ∀ j, j ≠ i → ∃ st, (sys.writers j).Stands organization committed st)
    (hc : ∃ st, c.Stands organization committed st)
    (hheld : ∀ j, j ≠ i → ∀ o ∈ c.held, o ∉ (sys.writers j).held) :
    (System.set ⟨committed, sys.writers⟩ i c).Sound organization := by
  refine ⟨hadmin, fun j => ?_, fun j k hjk o => ?_⟩
  · by_cases hj : j = i
    · subst hj
      simpa [System.set] using hc
    · simpa [System.set, hj] using hothers j hj
  · by_cases hj : j = i
    · subst hj
      simpa [System.set, Ne.symm hjk] using hheld k (Ne.symm hjk) o
    · by_cases hk : k = i
      · subst hk
        simpa [System.set, hj] using fun ho hc' => hheld j hj o hc' ho
      · simpa [System.set, hj, hk] using h.disjoint j k hjk o

/-- A writer that has gone on without committing concerns nobody else. -/
theorem Sound.set (h : sys.Sound organization) {i : ι} {c : Writer}
    (hc : ∃ st, c.Stands organization sys.committed st)
    (hheld : ∀ j, j ≠ i → ∀ o ∈ c.held, o ∉ (sys.writers j).held) :
    (sys.set i c).Sound organization :=
  h.replace h.administered (fun j _ => h.stands j) hc hheld

/-- A writer without a transaction is true to whatever it has still to do. -/
theorem stands_outset {committed : Store} (h : committed.Administered organization)
    {rest : Program Unit} (hrest : rest.Ensures discipline .outset fun _ _ => True) :
    Writer.Stands organization committed ⟨rest, [], []⟩ .outset where
  obeys := hrest
  held _ ho := ho
  assured := nofun
  backs := ⟨h, nofun⟩
  writes := nofun

/-- Every step leaves a system sound. -/
theorem Sound.step (h : sys.Sound organization) {sys' : System ι} (hstep : Step sys sys') :
    sys'.Sound organization := by
  have hkeep : ∀ i j, j ≠ i → ∀ o ∈ (sys.writers i).held, o ∉ (sys.writers j).held :=
    fun i j hj o => h.disjoint i j (Ne.symm hj) o
  cases hstep with
  | lock i o next hrest hfree =>
    obtain ⟨st, hst⟩ := h.stands i
    refine h.set ⟨_, hst.next hrest (.ok ()) rfl ?_ ?_ ?_⟩ ?_
    · intro o' ho'
      rcases List.mem_cons.mp ho' with rfl | ho'
      · exact List.mem_cons_self
      · exact List.mem_cons_of_mem o (hst.held o' ho')
    · exact hst.backs.of_keeps (.refl _) rfl
    · exact fun w hw => List.mem_cons_of_mem o (hst.writes w hw)
    · intro j hj o' ho'
      rcases List.mem_cons.mp ho' with rfl | ho'
      · exact hfree j hj
      · exact hkeep i j hj o' ho'
  | read i q next hrest hq hrow =>
    obtain ⟨st, hst⟩ := h.stands i
    have hbacks := hst.backs.step (hst.permits hrest)
    have hview : (Store.serve (.query q) ((sys.writers i).view sys.committed)).2 = _ :=
      Store.answer_of_reads hq _
    rw [hview] at hbacks
    refine h.set ⟨_, hst.next hrest _ rfl (hst.held_after ?_) hbacks hst.writes⟩ (hkeep i)
    rintro o ⟨⟩
    exact hq
  | select i o holder scope next permissions hrest hp =>
    obtain ⟨st, hst⟩ := h.stands i
    exact h.set ⟨_, hst.next hrest (.ok permissions) rfl hst.held
      (hst.backs.of_keeps (.refl _) rfl) hst.writes⟩ (hkeep i)
  | insert i g next hrest =>
    obtain ⟨st, hst⟩ := h.stands i
    have hperm : g.organization ∈ st.held := hst.permits hrest
    refine h.set ⟨_, hst.next hrest (.ok ()) rfl hst.held ?_ ?_⟩ (hkeep i)
    · rw [Writer.view_append]
      exact hst.backs.of_keeps (Store.keeps_addGrant _ g) rfl
    · exact hst.writes.append (hst.held _ hperm)
  | delete i g next hrest =>
    obtain ⟨st, hst⟩ := h.stands i
    have hperm := hst.permits hrest
    refine h.set ⟨_, hst.next hrest (.ok ()) rfl hst.held ?_ ?_⟩ (hkeep i)
    · rw [Writer.view_append]
      refine ⟨hst.backs.administered.delete fun hg => ?_, nofun⟩
      obtain ⟨a, ha, hc⟩ := hperm.2 hg
      exact ⟨a, hst.backs.assured a ha, hc⟩
    · exact hst.writes.append (hst.held _ hperm.1)
  | fail i q next f hrest =>
    obtain ⟨st, hst⟩ := h.stands i
    have hafter : st.after (.query q) (.error f) = ⟨st.held, none⟩ := by cases q <;> rfl
    refine h.set ⟨_, hst.next hrest (.error f) rfl ?_ ?_ hst.writes⟩ (hkeep i)
    · rw [hafter]
      exact hst.held
    · rw [hafter]
      exact hst.backs.of_keeps (.refl _) rfl
  | aside i r next a hrest hr =>
    obtain ⟨st, hst⟩ := h.stands i
    refine h.set ⟨_, hst.next hrest a rfl (hst.held_after ?_) ?_ hst.writes⟩ (hkeep i)
    · rintro o rfl
      exact hr
    · refine hst.backs.of_keeps (.refl _) ?_
      cases r with
      | query | complete | abandon => exact hr.elim
      | _ => rfl
  | commit i next hrest =>
    obtain ⟨st, hst⟩ := h.stands i
    have hcommitted := hst.backs.administered
    refine h.replace hcommitted (fun j hj => ?_)
      ⟨_, stands_outset hcommitted (hst.obeys_next hrest (.ok ()))⟩ fun _ _ _ => nofun
    obtain ⟨st', hst'⟩ := h.stands j
    exact ⟨st', hst'.commit hst.writes (hkeep i j hj) hcommitted⟩
  | commitFails i next f hrest =>
    obtain ⟨st, hst⟩ := h.stands i
    exact h.set ⟨_, stands_outset h.administered (hst.obeys_next hrest (.error f))⟩
      fun _ _ _ => nofun
  | rollback i f next hrest =>
    obtain ⟨st, hst⟩ := h.stands i
    exact h.set ⟨_, stands_outset h.administered (hst.obeys_next hrest ())⟩ fun _ _ _ => nofun
  | lose i => exact h.set ⟨_, stands_outset h.administered trivial⟩ fun _ _ _ => nofun
  | join t hgrants hmembers hactive =>
    have hk : ∀ o, Store.Keeps o sys.committed t := fun o =>
      ⟨fun user hu => (hactive user).trans hu, hmembers, fun g hg _ => hgrants ▸ hg⟩
    refine ⟨h.administered.mono (hk organization), fun i => ?_, h.disjoint⟩
    obtain ⟨st, hst⟩ := h.stands i
    exact ⟨st, hst.grow hk⟩

omit [DecidableEq ι] in
theorem Sound.start {committed : Store} {batches : ι → Session × List Change}
    (hc : ∀ i, ∀ c ∈ (batches i).2, c.WellFormed) (h : committed.Administered organization) :
    (start committed batches).Sound organization where
  administered := h
  stands i := by
    have hbatch : (Call.batch (batches i).1 (batches i).2).WellFormed := hc i
    exact ⟨_, stands_outset h (Call.program_disciplined hbatch .outset)⟩
  disjoint _ _ _ _ := nofun

/-- No interleaving of batches takes the last administrator away: where somebody administers the
organization to begin with, somebody does in all that is ever committed. -/
theorem administered_of_reachable {committed : Store} {batches : ι → Session × List Change}
    (hc : ∀ i, ∀ c ∈ (batches i).2, c.WellFormed) (h : committed.Administered organization)
    (hsteps : Relation.ReflTransGen Step (start committed batches) sys) :
    sys.committed.Administered organization := by
  have hsound : sys.Sound organization := by
    induction hsteps with
    | refl => exact .start hc h
    | tail _ hstep ih => exact ih.step hstep
  exact hsound.administered

/-- The sample with `alice` as a second administrator. -/
def sharedSample : Store :=
  (Store.sample default).addGrant
    ⟨Store.sampleDefault, .user 2 "alice", Permission.administer, .organization Store.sampleDefault⟩

/-- Two writers that are about to take the permission to administer from `root` and from `alice`. -/
def rivals (first : Bool) : Session × List Change :=
  (⟨.user 1 "root" true, some ⟨[(Store.sampleDefault, Permission.administer)], []⟩,
      some Store.sampleDefault, []⟩,
    [⟨.remove, Store.sampleDefault, Permission.administer, none,
      if first then .user 1 "root" else .user 2 "alice"⟩])

/-- The first of the rivals has committed its removal, and the other one has got the lock; `alice`
still administers the organization. -/
theorem administered_of_reachable_rivals :
    ∃ sys, Relation.ReflTransGen Step (start sharedSample rivals) sys ∧
      sys.committed.grants = [⟨Store.sampleDefault, .user 2 "alice", Permission.administer,
        .organization Store.sampleDefault⟩] ∧
      (sys.writers false).held = [Store.sampleDefault] ∧
      sys.committed.Administered Store.sampleDefault := by
  have hfree (sys : System Bool) (i : Bool) (hheld : (sys.writers (!i)).held = []) (j : Bool)
      (hj : j ≠ i) : Store.sampleDefault ∉ (sys.writers j).held := by
    rw [Bool.eq_not_of_ne hj, hheld]
    exact List.not_mem_nil
  have hadmin : ∀ g ∈ sharedSample.grants, g.permission = Permission.administer := by decide
  have hrows (p : Permission) :
      p ∈ [Permission.administer] ↔ ∃ g ∈ sharedSample.grants, Grant.SameRow
        ⟨Store.sampleDefault, .user 1 "root", p, .organization Store.sampleDefault⟩ g := by
    constructor
    · intro hp
      obtain rfl := List.mem_singleton.mp hp
      exact ⟨_, List.mem_cons_self, by decide⟩
    · rintro ⟨g, hg, -, -, hp, -⟩
      exact List.mem_singleton.mpr (hp.trans (hadmin g hg))
  have hbegin := Step.aside (start sharedSample rivals) true .begin _ () rfl trivial
  have hlock := (Relation.ReflTransGen.single hbegin).tail
    (Step.lock _ true Store.sampleDefault _ rfl (hfree _ true rfl))
  have hselect := hlock.tail (Step.select _ true Store.sampleDefault (.user 1 "root")
    (.organization Store.sampleDefault) _ [Permission.administer] rfl hrows)
  have hcount := hselect.tail (Step.read _ true
    (.countAdministrators Store.sampleDefault Permission.administer (some 1) none) _ rfl trivial
    (fun _ _ _ => nofun))
  have hdelete := hcount.tail (Step.delete _ true _ _ rfl)
  have hlog := hdelete.tail (Step.aside _ true _ _ () rfl trivial)
  have hcommit := hlog.tail (Step.commit _ true _ rfl)
  have hbegin' := hcommit.tail (Step.aside _ false .begin _ () rfl trivial)
  have hlock' := hbegin'.tail
    (Step.lock _ false Store.sampleDefault _ rfl (hfree _ false rfl))
  have hstart : sharedSample.Administered Store.sampleDefault :=
    (Store.administered_sample default).mono (Store.keeps_addGrant _ _)
  refine ⟨_, hlock', by decide, rfl, administered_of_reachable ?_ hstart hlock'⟩
  intro first c hc
  rw [List.mem_singleton.mp hc]
  cases first <;> exact fun _ _ => nofun

end System

end Entitlements
