import Entitlements.Proofs.Administration.Warrants
import Entitlements.Proofs.Http.Respond
import Entitlements.Proofs.Program.Preserves
import Entitlements.Proofs.Service.Reads
import Entitlements.Proofs.Sql.Script
import Entitlements.Setup.Deployment

/-!
# Writes of grants on a database

A request writes one grant at most. It does so on a connection of its own that first locks the
organization and then reads what the holder has in the scope; what it reads, and the count of
administrators where there is one, warrant the write. All of this lies between taking the
connection and making permanent or dropping what was done on it.
-/

namespace Entitlements

variable {α β : Type}

namespace Sql

/-- The statement writes grants, by the words that it starts with. -/
def Fragment.WritesGrants : Fragment → Prop
  | .words s :: _ =>
    "INSERT INTO grants ".toList <+: s.toList ∨ "DELETE FROM grants ".toList <+: s.toList
  | _ => False

/-- What a text starts with, a longer one starts with. -/
theorem head?_toList_append {s : String} {c : Char} (h : s.toList.head? = some c) (t : String) :
    (s ++ t).toList.head? = some c := by
  rw [String.toList_append, List.head?_append, h]
  rfl

/-- Words that start with another letter than those of the writes write no grants. -/
theorem not_writesGrants_of_head? {s : String} {c : Char} (h : s.toList.head? = some c)
    (hinsert : c ≠ 'I') (hdelete : c ≠ 'D') (rest : Fragment) :
    ¬ Fragment.WritesGrants (.words s :: rest) := by
  have hfirst (t : String) (d : Char) (ht : t.toList.head? = some d) (hd : c ≠ d) :
      ¬ t.toList <+: s.toList := by
    rintro ⟨more, hmore⟩
    rw [← hmore, List.head?_append, ht] at h
    exact hd (Option.some.inj h).symm
  rintro (hstart | hstart)
  · exact hfirst _ 'I' (congrArg List.head? String.toList_ofList) hinsert hstart
  · exact hfirst _ 'D' (congrArg List.head? String.toList_ofList) hdelete hstart

/-- The statements that write grants are those of the questions that do. -/
theorem writesGrants_statement_iff (now : Instant) (q : Query) :
    (statement now q).WritesGrants ↔ ¬ q.SparesGrants := by
  have hwords {s : String} {c : Char} (h : s.toList.head? = some c) (hc : c ≠ 'I' ∧ c ≠ 'D')
      {rest : Fragment} {q : Query} (hq : q.SparesGrants) :
      Fragment.WritesGrants (.words s :: rest) ↔ ¬ q.SparesGrants :=
    iff_of_false (not_writesGrants_of_head? h hc.1 hc.2 rest) fun h => h hq
  have hselect : 'S' ≠ 'I' ∧ 'S' ≠ 'D' := by decide
  have hupdate : 'U' ≠ 'I' ∧ 'U' ≠ 'D' := by decide
  -- The cases are split by how the first words are put together.
  cases q with
  | insertGrant | deleteGrant | addMember | insertTemplate | deleteTemplateGrant =>
    simp [Fragment.WritesGrants, statement, Query.SparesGrants]
  | setRoot => exact hwords (congrArg List.head? String.toList_ofList) hupdate trivial
  | isMember | lockOrganization | selectPermissions | countProjects | countGroups
  | countTemplateGroups =>
    exact hwords (congrArg List.head? String.toList_ofList) hselect trivial
  | defaultOrganization | countAdministrators | loadSnapshot | searchTemplateGroups =>
    exact hwords (head?_toList_append (congrArg List.head? String.toList_ofList) _) hselect trivial
  | userByLogin | organizationByKey | organizationByUuid | componentByUuid | componentByKey
  | searchProjects | groupById | groupByName | templateByUuid | templateByName =>
    exact hwords (head?_toList_append (head?_toList_append
      (congrArg List.head? String.toList_ofList) _) _) hselect trivial
  | searchGroups =>
    exact hwords (head?_toList_append (head?_toList_append (head?_toList_append
      (congrArg List.head? String.toList_ofList) _) _) _) hselect trivial

/-- The act writes no grants. -/
def Act.SparesGrants : Act → Prop
  | .execute f => ¬ f.WritesGrants
  | _ => True

theorem Act.sparesGrants_execute {q : Query} (h : q.SparesGrants) (now : Instant) :
    (Act.execute (statement now q)).SparesGrants := by
  show ¬ (statement now q).WritesGrants
  rw [writesGrants_statement_iff]
  exact fun hn => hn h

/-- The questions are answered by the responses to their statements, from a place on. -/
def Answers (script : List Response) (start : Nat) (asked : List Asked) : Prop :=
  ∀ n a, asked[n]? = some a → a.answer = (responseTo script (start + n)).read a.query

/-- How a database was told to write grants. Its script has the responses to all statements. -/
inductive GrantWrites (now : Instant) (script : List Response) : List Act → Prop
  /-- No grant was written. -/
  | none {acts : List Act} (sparing : ∀ a ∈ acts, a.SparesGrants) : GrantWrites now script acts
  /-- One grant was written, on a connection that was asked before what warrants the write, and
  nothing else, and whose work was then made permanent or dropped. -/
  | one {before later : List Act} {asked : List Asked} {q : Query} {ending : Act}
      (warranted : Warrants asked q) (answered : Answers script (executed before) asked)
      (ended : ending = .commit ∨ ending = .rollback)
      (sparing : ∀ a ∈ before ++ later, a.SparesGrants) :
    GrantWrites now script
      (before ++ .acquire :: (asked.map (fun a => .execute (statement now a.query)) ++
        .execute (statement now q) :: ending :: later))

theorem forall_mem_concat {acts : List Act} (h : ∀ a ∈ acts, a.SparesGrants) {a : Act}
    (ha : a.SparesGrants) : ∀ b ∈ acts ++ [a], b.SparesGrants := by
  have hlast : ∀ b ∈ [a], b.SparesGrants := by simpa using ha
  exact List.forall_mem_append.mpr ⟨h, hlast⟩

theorem dropping_sparing (f : Fault) : ∀ a ∈ Database.dropping f, a.SparesGrants := by
  simp [Database.dropping, Act.SparesGrants]

/-- What comes after a write of grants is no other one. -/
theorem GrantWrites.concat {now : Instant} {script : List Response} {acts : List Act}
    (h : GrantWrites now script acts) {a : Act} (ha : a.SparesGrants) :
    GrantWrites now script (acts ++ [a]) := by
  cases h with
  | none sparing => exact .none (forall_mem_concat sparing ha)
  | @one before later asked q ending warranted answered ended sparing =>
    have hsparing : ∀ b ∈ before ++ (later ++ [a]), b.SparesGrants := by
      rw [← List.append_assoc]
      exact forall_mem_concat sparing ha
    simpa using GrantWrites.one warranted answered ended hsparing

/-- What comes after making a unit of work permanent spares the grants. -/
theorem ending_sparing {later : List Act}
    (h : later = [.release none] ∨ ∃ f, later = Database.dropping f) :
    ∀ a ∈ later, a.SparesGrants := by
  rcases h with rfl | ⟨f, rfl⟩
  · simp [Act.SparesGrants]
  · exact dropping_sparing f

/-- Where all acts but one spare the grants, of any two acts one does. -/
theorem pairwise_sparing {first rest : List Act} (hfirst : ∀ a ∈ first, a.SparesGrants) (a : Act)
    (hrest : ∀ a ∈ rest, a.SparesGrants) :
    (first ++ a :: rest).Pairwise fun a b => a.SparesGrants ∨ b.SparesGrants := by
  rw [List.pairwise_append, List.pairwise_cons]
  refine ⟨?_, ⟨fun b hb => .inr (hrest b hb), ?_⟩, fun b hb _ _ => .inl (hfirst b hb)⟩
  · exact List.pairwise_of_forall_mem_list fun b hb _ _ => .inl (hfirst b hb)
  · exact List.pairwise_of_forall_mem_list fun b hb _ _ => .inl (hrest b hb)

/-- No two acts write grants. -/
theorem GrantWrites.pairwise {now : Instant} {script : List Response} {acts : List Act}
    (h : GrantWrites now script acts) :
    acts.Pairwise fun a b => a.SparesGrants ∨ b.SparesGrants := by
  cases h with
  | none sparing => exact List.pairwise_of_forall_mem_list fun a ha b _ => .inl (sparing a ha)
  | @one before later asked q ending warranted answered ended sparing =>
    obtain ⟨hbefore, hlater⟩ := List.forall_mem_append.mp sparing
    have hasked : ∀ a ∈ asked.map fun a => Act.execute (statement now a.query), a.SparesGrants :=
      List.forall_mem_map.mpr fun a ha => Act.sparesGrants_execute (warranted.sparing a ha) now
    have hended : ending.SparesGrants := by
      rcases ended with rfl | rfl <;> trivial
    have hacquire : Act.acquire.SparesGrants := trivial
    have hfirst := List.forall_mem_append.mpr
      ⟨hbefore, List.forall_mem_cons.mpr ⟨hacquire, hasked⟩⟩
    have hpairwise := pairwise_sparing hfirst (.execute (statement now q))
      (List.forall_mem_cons.mpr ⟨hended, hlater⟩)
    rwa [List.append_assoc, List.cons_append] at hpairwise

namespace Database

variable {d d' : Database} {acts : List Act}

/-- The database was told nothing that writes grants since. -/
def Quiet (d d' : Database) : Prop :=
  ∃ acts, Told d acts d' ∧ ∀ a ∈ acts, a.SparesGrants

/-- The database was told to write one grant at most since. -/
def Written (d d' : Database) : Prop :=
  ∃ acts, Told d acts d' ∧ GrantWrites d.around.clock.toUniversal d.responses acts

theorem Quiet.refl (d : Database) : Quiet d d := ⟨[], .refl d, nofun⟩

theorem Quiet.written (h : Quiet d d') : Written d d' := by
  obtain ⟨acts, htold, hsparing⟩ := h
  exact ⟨acts, htold, .none hsparing⟩

theorem Quiet.tell (h : Quiet d d') {a : Act} (ha : a.statement? = none)
    (hspares : a.SparesGrants) :
    Quiet d (d'.tell a) := by
  obtain ⟨acts, htold, hsparing⟩ := h
  exact ⟨acts ++ [a], htold.tell ha, forall_mem_concat hsparing hspares⟩

theorem Written.tell (h : Written d d') {a : Act} (ha : a.statement? = none)
    (hspares : a.SparesGrants) : Written d (d'.tell a) := by
  obtain ⟨acts, htold, hwrites⟩ := h
  exact ⟨acts ++ [a], htold.tell ha, hwrites.concat hspares⟩

/-- What is asked without writing grants is answered without writing grants. -/
theorem Quiet.serve (h : Quiet d d') {r : Request}
    (hr : (Setting.asking Query.SparesGrants).permits () r) : Quiet d (Database.serve r d').2 := by
  cases r with
  | begin => exact h.tell rfl trivial
  | probe => exact h.tell rfl trivial
  | log | now | freshUuid | introspect =>
    obtain ⟨acts, htold, hsparing⟩ := h
    exact ⟨acts, ⟨htold.told, htold.responses, htold.clock⟩, hsparing⟩
  | query q =>
    obtain ⟨acts, htold, hsparing⟩ := h
    exact ⟨_, (htold.answer q).2, forall_mem_concat hsparing (Act.sparesGrants_execute hr _)⟩
  | abandon f =>
    obtain ⟨acts, htold, hsparing⟩ := h
    exact ⟨_, htold.abandon f, List.forall_mem_append.mpr ⟨hsparing, dropping_sparing f⟩⟩
  | complete =>
    obtain ⟨acts, htold, hsparing⟩ := h
    obtain ⟨later, htold', hlater⟩ := htold.complete
    have hcommit : ∀ a ∈ Act.commit :: later, a.SparesGrants :=
      List.forall_mem_cons.mpr ⟨trivial, ending_sparing hlater⟩
    exact ⟨_, htold', List.forall_mem_append.mpr ⟨hsparing, hcommit⟩⟩

theorem quiet_allows {r : Request} (hr : (Setting.asking Query.SparesGrants).permits () r) :
    (Setting.serving serve).Allows (Quiet d) r := by
  intro d' hd'
  refine ⟨trivial, ?_⟩
  intro a d'' hserved
  have hleft : (serve r d').2 = d'' := congrArg Prod.snd hserved
  rw [← hleft]
  exact hd'.serve hr

/-- What the database is told when a connection is taken and some questions are asked on it. -/
def asking (now : Instant) (asked : List Asked) : List Act :=
  .acquire :: asked.map fun a => .execute (statement now a.query)

theorem executed_asking (now : Instant) (asked : List Asked) :
    executed (asking now asked) = asked.length := by
  have hstatements : (asked.map fun a => Act.execute (statement now a.query)).filterMap
      Act.statement? = asked.map fun a => statement now a.query := by
    rw [List.filterMap_map]
    exact congrFun List.filterMap_eq_map' asked
  have hfirst : Act.acquire.statement? = none := rfl
  rw [executed, asking, List.filterMap_cons_none hfirst, hstatements, List.length_map]

/-- Within a unit of work the database was told what was asked, and answered it from its script. -/
structure Within (d : Database) (before : List Act) (asked : List Asked) (d' : Database) :
    Prop where
  told : Told d (before ++ asking d.around.clock.toUniversal asked) d'
  answered : Answers d.responses (executed before) asked

variable {before : List Act} {asked : List Asked}

/-- One question more is answered by the next response. -/
theorem Within.answer (h : Within d before asked d') (q : Query) :
    Within d before (asked ++ [⟨q, (d'.answer q).1⟩]) (d'.answer q).2 := by
  obtain ⟨hanswer, htold⟩ := h.told.answer q
  rw [executed_append, executed_asking] at hanswer
  refine ⟨by simpa [asking] using htold, fun n a hn => ?_⟩
  rcases Nat.lt_trichotomy n asked.length with hlt | heq | hgt
  · rw [List.getElem?_append_left hlt] at hn
    exact h.answered n a hn
  · rw [heq, List.getElem?_concat_length, Option.some.injEq] at hn
    rw [← hn, heq]
    exact hanswer
  · have hover : (asked ++ [(⟨q, (d'.answer q).1⟩ : Asked)]).length ≤ n := by
      rw [List.length_append, List.length_singleton]
      exact hgt
    rw [List.getElem?_eq_none hover] at hn
    cases hn

/-- Only questions are told within a unit of work. -/
theorem Within.serve (h : Within d before asked d') (r : Request) (hr : r.IsWithin) :
    ∃ asked', Setting.recording.answers asked r (Database.serve r d').1 asked' ∧
      Within d before asked' (Database.serve r d').2 := by
  cases r with
  | query q => exact ⟨_, rfl, h.answer q⟩
  | begin | complete | abandon | probe => exact hr.elim
  | log | now | freshUuid | introspect =>
    exact ⟨asked, rfl, ⟨h.told.told, h.told.responses, h.told.clock⟩, h.answered⟩

/-- A unit of work in which at most the last question writes a grant writes one at most. -/
theorem Within.written (h : Within d before asked d') (hbefore : ∀ a ∈ before, a.SparesGrants)
    (hasked : WritesLast asked) {ending : Act} {later : List Act} {d'' : Database}
    (htold : Told d
      (before ++ asking d.around.clock.toUniversal asked ++ ending :: later) d'')
    (hending : ending = .commit ∨ ending = .rollback) (hlater : ∀ a ∈ later, a.SparesGrants) :
    Written d d'' := by
  refine ⟨_, htold, ?_⟩
  cases hasked with
  | never hsparing =>
    have hexecuted : ∀ a ∈ asked.map fun a =>
        Act.execute (statement d.around.clock.toUniversal a.query), a.SparesGrants :=
      List.forall_mem_map.mpr fun a ha => Act.sparesGrants_execute (hsparing a ha) _
    have hended : ending.SparesGrants := by
      rcases hending with rfl | rfl <;> trivial
    refine .none (List.forall_mem_append.mpr ⟨List.forall_mem_append.mpr ⟨hbefore, ?_⟩, ?_⟩)
    · exact List.forall_mem_cons.mpr ⟨trivial, hexecuted⟩
    · exact List.forall_mem_cons.mpr ⟨hended, hlater⟩
  | @last asked q hwarrants a =>
    have hanswered : Answers d.responses (executed before) asked := by
      intro n b hn
      have hlt : n < asked.length := (List.getElem?_eq_some_iff.mp hn).1
      exact h.answered n b (by rw [List.getElem?_append_left hlt, hn])
    have hsparing : ∀ a ∈ before ++ later, a.SparesGrants :=
      List.forall_mem_append.mpr ⟨hbefore, hlater⟩
    have hone : GrantWrites d.around.clock.toUniversal d.responses _ :=
      .one hwarrants hanswered hending hsparing
    simpa [asking] using hone

/-- So does the whole unit of work, whichever way it ends. -/
theorem Quiet.transaction (h : Quiet d d') {w : Work α} (hw : Work.Records [] w) :
    Written d (d'.run (transaction w).run).2 := by
  obtain ⟨before, htold, hbefore⟩ := h
  have hbegun : Within d before [] (d'.tell .acquire) := ⟨htold.tell rfl, by simp [Answers]⟩
  obtain ⟨asked, hasked, hdone⟩ := hw.of_run (T := fun asked d' => Within d before asked d')
    (fun asked d' r hd' hr => hd'.serve r hr) hbegun
  have hbody : (d'.tell .acquire).run w.run =
      Program.run Database.serve w.run (d'.tell .acquire) := rfl
  rw [run_transaction, hbody]
  revert hasked hdone
  generalize Program.run Database.serve w.run (d'.tell .acquire) = body
  obtain ⟨f | a, left⟩ := body
  · intro hasked hdone
    have hlater : ∀ a ∈ [Act.rollback, .release (some f)], a.SparesGrants := by
      simp [Act.SparesGrants]
    exact hdone.written hbefore hasked (hdone.told.abandon f) (.inr rfl) hlater
  · intro hasked hdone
    obtain ⟨later, htold', hlater⟩ := hdone.told.complete
    have hwritten := hdone.written hbefore hasked htold' (.inl rfl) (ending_sparing hlater)
    dsimp only
    rcases hcomplete : left.complete with ⟨f | u, d''⟩
    · rw [hcomplete] at hwritten
      exact hwritten
    · rw [hcomplete] at hwritten
      exact hwritten

end Database

end Sql

namespace Acting

open Sql

variable {d : Database}

/-- Whoever acts so on a database that was told of no write of grants since writes one at most. -/
def WritesOnce (d : Database) (a : Acting α) : Prop :=
  ∀ σ d', d.Quiet d' →
    Ensures (.serving Database.serve) a σ d' (fun _ _ => d.Written) fun _ _ => d.Written

theorem AsksOnly.quiet {a : Acting α} (h : AsksOnly Query.SparesGrants a) :
    Preserves (.serving Database.serve) d.Quiet a := h.preserves fun _ => Database.quiet_allows

theorem WritesOnce.of_asksOnly {a : Acting α} (h : AsksOnly Query.SparesGrants a) :
    WritesOnce d a :=
  fun σ d' hd' => (h.quiet σ d' hd').mono (fun _ _ _ h => h.written) fun _ _ _ h => h.written

/-- What comes before the write only reads. -/
theorem WritesOnce.bind {a : Acting α} {k : α → Acting β} (ha : AsksOnly Query.SparesGrants a)
    (hk : ∀ b, WritesOnce d (k b)) : WritesOnce d (a >>= k) := by
  intro σ d' hd'
  rw [ensures_bind]
  exact (ha.quiet σ d' hd').mono (fun b τ d'' h => hk b τ d'' h) fun _ _ _ h => h.written

/-- What comes after it leaves the database as it is. -/
theorem WritesOnce.andThen {a : Acting α} {k : α → Acting β} (ha : WritesOnce d a)
    (hk : ∀ b, Preserves (.serving Database.serve) d.Written (k b)) : WritesOnce d (a >>= k) := by
  intro σ d' hd'
  rw [ensures_bind]
  exact (ha σ d' hd').mono hk fun _ _ _ h => h

theorem WritesOnce.map {a : Acting α} (f : α → β) (ha : WritesOnce d a) :
    WritesOnce d (f <$> a) := by
  rw [map_eq_pure_bind]
  exact ha.andThen fun b => .pure (f b)

theorem WritesOnce.transaction {w : Work α} (hw : Work.Records [] w) :
    WritesOnce d (Session.lift (transaction w)) := by
  intro σ d' hd'
  rw [ensures_lift]
  refine (Program.ensures_serving_iff _ _ _ _).mpr ?_
  have hwritten := hd'.transaction hw
  split <;> exact hwritten

end Acting

namespace Service

variable {d : Sql.Database}

theorem applyOne_writesOnce {c : Change} (hc : c.WellFormed) : (applyOne c).WritesOnce d := by
  have hbatch : (Change.applyBatch [c]).WritesOnce d :=
    .bind (Change.checkAll_reads [c]).sparesGrants fun _ =>
      .transaction (Change.applyAll_singleton_records hc)
  refine hbatch.andThen fun outcomes => ?_
  cases outcomes <;> exact .pure _

theorem changeUserPermission_writesOnce (operation : Operation) (login : String)
    (permission : Permission) (projectId? projectKey? organizationKey? : Option String) :
    (changeUserPermission operation login permission projectId? projectKey?
      organizationKey?).WritesOnce d := by
  refine .bind (.lift (.transaction ?_)) fun _ => .bind (.orRaise _) fun _ =>
    applyOne_writesOnce fun _ _ => nofun
  refine .bind (Lookup.user_reads _).sparesGrants fun _ =>
    .bind (Lookup.project?_reads _ _).sparesGrants fun project? => ?_
  cases project? with
  | some project => exact .pure _
  | none => exact .bind (Lookup.organization_reads _).sparesGrants fun _ => .pure _

theorem changeGroupPermission_writesOnce (operation : Operation) (permission : Permission)
    (groupId? : Option Int) (groupName? projectId? projectKey? organizationKey? : Option String) :
    (changeGroupPermission operation permission groupId? groupName? projectId? projectKey?
      organizationKey?).WritesOnce d := by
  refine .bind (.lift (.transaction ?_)) fun (o, group?, project?) => .bind (.orRaise _) fun _ =>
    .bind (.orRaise _) fun _ => applyOne_writesOnce fun id login => ?_
  · exact .bind (Lookup.group_reads _ _ _).sparesGrants fun _ =>
      .bind (Lookup.project?_reads _ _).sparesGrants fun _ => .pure _
  · cases group? <;> exact nofun

/-- A command writes one grant at most. -/
theorem Command.run_writesOnce (c : Command) : c.run.WritesOnce d := by
  cases c with
  | changeUserPermission => exact .map _ (changeUserPermission_writesOnce _ _ _ _ _ _)
  | changeGroupPermission => exact .map _ (changeGroupPermission_writesOnce _ _ _ _ _ _ _)
  | createTemplate => exact .map _ (.of_asksOnly (createTemplate_sparesGrants _ _ _ _))
  | removeUserFromTemplate =>
    exact .of_asksOnly (.bind (removeUserFromTemplate_sparesGrants _ _ _ _ _) fun _ => .pure _)
  | templateGroups => exact .map _ (.of_asksOnly (templateGroups_reads _ _ _ _ _ _).sparesGrants)
  | addUserToGroup => exact .map _ (.of_asksOnly (addUserToGroup_sparesGrants _ _ _ _))
  | searchGroups => exact .map _ (.of_asksOnly (searchGroups_reads _ _ _).sparesGrants)
  | searchMyProjects => exact .map _ (.of_asksOnly (searchMyProjects_reads _ _).sparesGrants)
  | unsetRoot => exact .map _ (.of_asksOnly (unsetRoot_sparesGrants _))

end Service

/-- Only the command that a request asks for writes a grant. -/
theorem Http.handles_writes (site : Site) (i : Incoming) (d : Sql.Database) :
    Handles (.serving Sql.Database.serve) site i d.Quiet d.Written d.Written where
  authenticate d' hd' := by
    have hreads := (Auth.authenticate_reads site.tokens (i.header "Authorization")).sparesGrants
    exact (hreads.preserves (fun _ => Sql.Database.quiet_allows) d' hd').mono (fun _ _ h => h)
      fun _ _ h => h.written
  run c σ d' _ hd' := c.run_writesOnce σ d' hd'
  failed_of_start _ hd' := hd'.written
  log e d' _ hd' := by
    refine ⟨trivial, ?_⟩
    rintro ⟨⟩ _ ⟨⟩
    obtain ⟨acts, htold, hwrites⟩ := hd'
    exact ⟨acts, ⟨htold.told, htold.responses, htold.clock⟩, hwrites⟩
  probe d' hd' := by
    obtain ⟨-, hprobe⟩ := Sql.Database.quiet_allows (r := .probe) trivial d' hd'
    exact ⟨trivial, fun a d'' h => (hprobe a d'' h).written⟩

/-- Whatever is requested and whatever the database answers, at most one grant is written. -/
theorem Setup.Deployment.answerOne_grantWrites (d : Deployment) (i : Http.Incoming)
    (db : Sql.Database) :
    ∃ acts, (d.answerOne i db).2.acts = db.acts ++ acts ∧
      Sql.GrantWrites db.around.clock.toUniversal db.responses acts ∧
      acts.Pairwise fun a b => a.SparesGrants ∨ b.SparesGrants := by
  have hopened : db.Quiet { db.tell .openPool with
      around := db.around.record (.poolOpened d.pool.minSize d.pool.maxSize) } := by
    obtain ⟨acts, htold, hsparing⟩ := (Sql.Database.Quiet.refl db).tell (a := .openPool) rfl trivial
    exact ⟨acts, ⟨htold.told, htold.responses, htold.clock⟩, hsparing⟩
  have hensures := (Http.handles_writes d.site i db).respond_ensures hopened
  have hended := (Program.ensures_serving_iff _ _ _ _).mp hensures
  have hclosed := (hended.elim id And.left).tell (a := .closePool) rfl trivial
  obtain ⟨acts, htold, hwrites⟩ := hclosed
  exact ⟨acts, htold.told, hwrites, hwrites.pairwise⟩

end Entitlements
