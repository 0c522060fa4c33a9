import Entitlements.Proofs.Http.Respond
import Entitlements.Proofs.Program.Preserves
import Entitlements.Proofs.Service.Windows
import Entitlements.Proofs.Sql.Placeholders
import Entitlements.Proofs.Sql.Script
import Entitlements.Setup.Deployment
import Mathlib.Data.List.Nodup

/-!
# What the database is told to skip and to take

The statement of a search has a clause for the rows that are skipped and one for the rows that are
taken, and what goes beside it there is the window that the search asks for. So whoever asks for
whatever, at these clauses there are only numbers that belong to a page that was found to be one: it
is never below zero what is skipped, and never too much what is taken. What is skipped has no other
bound than the number of the page.
-/

namespace Entitlements

namespace Sql

/-- Of the values beside a text, this one goes to a mark of the column or the clause. -/
def Binding.Gives (marks : List (String × Mark)) (column : String) (d : Datum) : Binding → Prop
  | .none => False
  | .ordered values => ∃ mark, ((column, mark), d) ∈ marks.zip values
  | .named values => ∃ name, (column, .named name) ∈ marks ∧ (name, d) ∈ values

/-- The value goes with the text, to a mark of the column or the clause. -/
def Fragment.Gives (f : Fragment) (column : String) (d : Datum) : Prop :=
  ∃ marks, marksOf? f.text = some marks ∧ f.binding.Gives marks column d

variable {f : Fragment} {called : List (String × Datum)} {column : String} {d : Datum}

/-- Where values fill the marks, a mark is given what is called for. -/
theorem Fragment.Fits.lookup_of_gives (h : f.Fits called) (hd : f.Gives column d) :
    called.lookup column = some d := by
  obtain ⟨marks, hmarks, hfills⟩ := h
  obtain ⟨_, hmarks', hgives⟩ := hd
  obtain rfl := Option.some.inj (hmarks.symm.trans hmarks')
  cases hbinding : f.binding with
  | none =>
    rw [hbinding] at hgives
    exact hgives.elim
  | ordered values =>
    rw [hbinding] at hgives hfills
    obtain ⟨mark, hmem⟩ := hgives
    exact ((List.forall₂_iff_zip.mp hfills).2 hmem).2
  | named values =>
    rw [hbinding] at hgives hfills
    obtain ⟨name, hmark, hvalue⟩ := hgives
    obtain ⟨hnodup, -, hall⟩ := hfills
    obtain ⟨name', d', hname, hvalue', hcalled⟩ := hall _ hmark
    obtain rfl := Mark.named.inj hname
    have hsame := List.inj_on_of_nodup_map hnodup hvalue hvalue' rfl
    rw [hcalled, (Prod.mk.inj hsame).2]

/-- Where values fill the marks, every mark is given one. -/
theorem Fragment.Fits.exists_gives (h : f.Fits called) {marks : List (String × Mark)}
    (hmarks : marksOf? f.text = some marks) {mark : Mark} (hmem : (column, mark) ∈ marks) :
    ∃ d, f.Gives column d := by
  obtain ⟨marks', hmarks', hfills⟩ := h
  obtain rfl : marks' = marks := Option.some.inj (hmarks'.symm.trans hmarks)
  cases hbinding : f.binding with
  | none =>
    rw [hbinding] at hfills
    have hnil : marks' = [] := hfills
    rw [hnil] at hmem
    exact absurd hmem List.not_mem_nil
  | ordered values =>
    rw [hbinding] at hfills
    have hlength := (List.forall₂_iff_zip.mp hfills).1
    obtain ⟨k, hk, hget⟩ := List.mem_iff_getElem.mp hmem
    have hk' : k < (marks'.zip values).length := by
      rw [List.length_zip]
      omega
    refine ⟨values[k], marks', hmarks, ?_⟩
    rw [hbinding]
    refine ⟨mark, List.mem_iff_getElem.mpr ⟨k, hk', ?_⟩⟩
    rw [List.getElem_zip, hget]
  | named values =>
    rw [hbinding] at hfills
    obtain ⟨name, d, hname, hvalue, -⟩ := hfills.2.2 _ hmem
    obtain rfl : mark = .named name := hname
    refine ⟨d, marks', hmarks, ?_⟩
    rw [hbinding]
    exact ⟨name, hmem, hvalue⟩

/-- The window of a question is what the clauses of its statement call for. -/
theorem lookup_called (now : Instant) (q : Query) :
    (Sql.called now q).lookup "OFFSET" = q.window?.map (fun w => .int w.1) ∧
      (Sql.called now q).lookup "LIMIT" = q.window?.map (fun w => .int w.2) := by
  cases q with
  | searchProjects | searchGroups | searchTemplateGroups => exact ⟨rfl, rfl⟩
  | countProjects user permission query? =>
    simp only [Sql.called, projectsCalled]
    cases searched query? <;> exact ⟨rfl, rfl⟩
  | countGroups organization query? =>
    simp only [Sql.called, groupsCalled]
    cases searched query? <;> exact ⟨rfl, rfl⟩
  | countTemplateGroups template organization permission? query? =>
    simp only [Sql.called, templateGroupsCalled]
    cases searched query? <;> cases searched permission? <;> exact ⟨rfl, rfl⟩
  | _ => exact ⟨rfl, rfl⟩

/-- The statement of a search has the two clauses. -/
theorem exists_mem_marks {q : Query} {w : Int × Int} (hq : q.window? = some w) :
    (∃ mark, ("OFFSET", mark) ∈ marks q) ∧ ∃ mark, ("LIMIT", mark) ∈ marks q := by
  cases q with
  | searchGroups => simp [marks]
  | searchProjects | searchTemplateGroups =>
    have hoffset : ("OFFSET", .named "offset") ∈ pageMarks := List.mem_cons_self
    have hlimit : ("LIMIT", .named "limit") ∈ pageMarks := List.mem_cons_of_mem _ List.mem_cons_self
    exact ⟨⟨_, List.mem_append_right _ hoffset⟩, _, List.mem_append_right _ hlimit⟩
  | _ => exact (Option.some_ne_none w hq.symm).elim

/-- What is given to a clause of the window is what the question asks for there. -/
theorem gives_iff (now : Instant) (q : Query) {clause : String} {part : Int × Int → Int}
    (hcalled : (Sql.called now q).lookup clause = q.window?.map fun w => .int (part w))
    (hmark : ∀ w, q.window? = some w → ∃ mark, (clause, mark) ∈ marks q) (v : Datum) :
    (statement now q).Gives clause v ↔ ∃ w, q.window? = some w ∧ v = .int (part w) := by
  have hfits := statement_fits now q
  constructor
  · intro h
    obtain ⟨w, hw, hv⟩ := Option.map_eq_some_iff.mp (hcalled ▸ hfits.lookup_of_gives h)
    exact ⟨w, hw, hv.symm⟩
  · rintro ⟨w, hw, rfl⟩
    obtain ⟨mark, hmem⟩ := hmark w hw
    obtain ⟨v, hv⟩ := hfits.exists_gives (marksOf?_statement now q) hmem
    have hsame := hfits.lookup_of_gives hv
    rw [hcalled, hw, Option.map_some] at hsame
    rwa [Option.some.inj hsame]

/-- What is skipped is what the question asks to skip. -/
theorem gives_offset_iff (now : Instant) (q : Query) (v : Datum) :
    (statement now q).Gives "OFFSET" v ↔ ∃ w, q.window? = some w ∧ v = .int w.1 :=
  gives_iff now q (lookup_called now q).1 (fun _ hw => (exists_mem_marks hw).1) v

/-- What is taken is what the question asks to take. -/
theorem gives_limit_iff (now : Instant) (q : Query) (v : Datum) :
    (statement now q).Gives "LIMIT" v ↔ ∃ w, q.window? = some w ∧ v = .int w.2 :=
  gives_iff now q (lookup_called now q).2 (fun _ hw => (exists_mem_marks hw).2) v

/-- The statement has no window, or that of a page of the kind, which is one that a listing can
have. -/
structure Fragment.Windowed (P : Page → Prop) (f : Fragment) : Prop where
  offset : ∀ v, f.Gives "OFFSET" v → ∃ p, P p ∧ p.validate = .ok () ∧ v = .int p.offset
  limit : ∀ v, f.Gives "LIMIT" v → ∃ p, P p ∧ p.validate = .ok () ∧ v = .int p.size

theorem windowed_statement {q : Query} {page? : Option Page} (h : q.Turns page?) {P : Page → Prop}
    (hP : ∀ p, page? = some p → P p) (now : Instant) : (statement now q).Windowed P where
  offset v hv := by
    obtain ⟨w, hw, rfl⟩ := (gives_offset_iff now q v).mp hv
    obtain ⟨p, hpage, hvalid, rfl⟩ := h w hw
    exact ⟨p, hP p hpage, hvalid, rfl⟩
  limit v hv := by
    obtain ⟨w, hw, rfl⟩ := (gives_limit_iff now q v).mp hv
    obtain ⟨p, hpage, hvalid, rfl⟩ := h w hw
    exact ⟨p, hP p hpage, hvalid, rfl⟩

namespace Database

/-- Since, the database was told to execute statements of the kind only. -/
def Executes (W : Fragment → Prop) (d d' : Database) : Prop :=
  ∃ acts, Told d acts d' ∧ ∀ f, .execute f ∈ acts → W f

variable {W : Fragment → Prop} {d d' : Database}

theorem Executes.refl (W : Fragment → Prop) (d : Database) : Executes W d d :=
  ⟨[], .refl d, nofun⟩

theorem Executes.tell (h : Executes W d d') {a : Act} (ha : a.statement? = none) :
    Executes W d (d'.tell a) := by
  obtain ⟨acts, htold, hacts⟩ := h
  refine ⟨acts ++ [a], htold.tell ha, fun f hf => ?_⟩
  rcases List.mem_append.mp hf with hf | hf
  · exact hacts f hf
  · rw [← List.mem_singleton.mp hf] at ha
    exact nomatch ha

theorem Executes.abandon (h : Executes W d d') (f : Fault) : Executes W d (d'.abandon f) :=
  ((h.tell (a := .rollback) rfl).tell (a := .rollback) rfl).tell (a := .release (some f)) rfl

theorem Executes.complete (h : Executes W d d') : Executes W d d'.complete.2 := by
  have hcommit : Executes W d (d'.tell .commit) := h.tell rfl
  unfold Database.complete Database.commit
  cases d'.commitFailure? with
  | some text => exact hcommit.abandon _
  | none => exact hcommit.tell rfl

/-- Questions whose statements are of the kind lead to no others. -/
theorem Executes.serve {P : Query → Prop} (hP : ∀ now q, P q → W (statement now q))
    (h : Executes W d d') {r : Request} (hr : (Setting.asking P).permits () r) :
    Executes W d (Database.serve r d').2 := by
  cases r with
  | begin => exact h.tell rfl
  | complete => exact h.complete
  | abandon f => exact h.abandon f
  | probe => exact h.tell rfl
  | log | now | freshUuid | introspect =>
    obtain ⟨acts, htold, hacts⟩ := h
    exact ⟨acts, ⟨htold.told, htold.responses, htold.clock⟩, hacts⟩
  | query q =>
    obtain ⟨acts, htold, hacts⟩ := h
    refine ⟨_, (htold.answer q).2, fun f hf => ?_⟩
    rcases List.mem_append.mp hf with hf | hf
    · exact hacts f hf
    · obtain rfl := Act.execute.inj (List.mem_singleton.mp hf)
      exact hP _ q hr

theorem executes_allows {P : Query → Prop} (hP : ∀ now q, P q → W (statement now q)) {r : Request}
    (hr : (Setting.asking P).permits () r) : (Setting.serving serve).Allows (Executes W d) r := by
  intro d' hd'
  refine ⟨trivial, ?_⟩
  intro a d'' hserved
  have hleft : (serve r d').2 = d'' := congrArg Prod.snd hserved
  rw [← hleft]
  exact hd'.serve hP hr

end Database

end Sql

open Sql

/-- The request asks for a page of a listing. -/
def Http.Incoming.AsksForPage (i : Incoming) (p : Page) : Prop :=
  ∃ c, i.AsksFor c ∧ c.page? = some p

/-- A request tells the database of no window but that of the page it asks for. -/
theorem Http.handles_windows (site : Site) (i : Incoming) (d : Database) :
    Handles (.serving Database.serve) site i (d.Executes (Fragment.Windowed i.AsksForPage))
      (d.Executes (Fragment.Windowed i.AsksForPage))
      (d.Executes (Fragment.Windowed i.AsksForPage)) where
  authenticate d' hd' := by
    have hasks : Work.AsksOnly (Query.Turns none) _ :=
      Auth.authenticate_asksOnly (fun _ => Query.turns_of_window? rfl none) site.tokens
        (i.header "Authorization")
    refine hasks.preserves (fun r hr => ?_) d' hd'
    exact Database.executes_allows (fun now q hq => windowed_statement hq nofun now) hr
  run c σ d' hc hd' := by
    refine c.run_turns.preserves (fun r hr => ?_) σ d' hd'
    exact Database.executes_allows
      (fun now q hq => windowed_statement hq (fun p hp => ⟨c, hc, hp⟩) now) hr
  failed_of_start _ hd' := hd'
  log e d' _ hd' := by
    have hallows := Database.executes_allows (d := d) (W := Fragment.Windowed i.AsksForPage)
      (fun now q => False.elim) (r := .log e) trivial
    exact hallows d' hd'
  probe d' hd' := by
    have hallows := Database.executes_allows (d := d) (W := Fragment.Windowed i.AsksForPage)
      (fun now q => False.elim) (r := .probe) trivial
    exact hallows d' hd'

/-- A command tells the database of no window but that of its page. -/
theorem Service.Command.run_windowed (c : Command) (σ : Session) (d : Database) :
    d.Executes (Fragment.Windowed fun p => c.page? = some p) (d.run (c.run.run.run σ)).2 := by
  refine c.run_turns.keeps (fun r d' hr hd' => ?_) σ (.refl _ d)
  exact hd'.serve (fun now q hq => windowed_statement hq (fun _ => id) now) hr

theorem Setup.Deployment.answerOne_windowed (d : Deployment) (i : Http.Incoming) (db : Database) :
    ∃ acts, (d.answerOne i db).2.acts = db.acts ++ acts ∧
      ∀ f, .execute f ∈ acts → f.Windowed i.AsksForPage := by
  have hopened : db.Executes (Fragment.Windowed i.AsksForPage) { db.tell .openPool with
      around := db.around.record (.poolOpened d.pool.minSize d.pool.maxSize) } := by
    obtain ⟨acts, htold, hacts⟩ :=
      (Database.Executes.refl (Fragment.Windowed i.AsksForPage) db).tell (a := .openPool) rfl
    exact ⟨acts, ⟨htold.told, htold.responses, htold.clock⟩, hacts⟩
  have hensures := (Http.handles_windows d.site i db).respond_ensures hopened
  have hended := (Program.ensures_serving_iff _ _ _ _).mp hensures
  have hclosed := (hended.elim id And.left).tell (a := .closePool) rfl
  obtain ⟨acts, htold, hacts⟩ := hclosed
  exact ⟨acts, htold.told, hacts⟩

/-- The greatest integer that the database takes. -/
def Sql.maxBigint : Int := 9223372036854775807

/-- A page that a listing can have skips what is before it, which is not less than nothing, and
takes between one and 500 rows. What it skips is an integer that the database takes if and only if
the number of the page is not too great, which is for whoever asks to see to. A search is told to
skip and to take what its window says; and whatever a session or a request asks for, the statements
that the database is told have no other windows than those of the page asked for, which was found
to be one. -/
theorem windows_in_range (p : Page) (now : Instant) (q : Query) (c : Service.Command)
    (σ : Session) (d : Setup.Deployment) (i : Http.Incoming) (db : Database) :
    (p.validate = .ok () →
      p.offset = (p.index - 1) * p.size ∧ 0 ≤ p.offset ∧ 1 ≤ p.size ∧ p.size ≤ 500 ∧
        (p.offset ≤ maxBigint ↔ p.index ≤ maxBigint / p.size + 1)) ∧
    (∀ v, ((statement now q).Gives "OFFSET" v ↔ ∃ w, q.window? = some w ∧ v = .int w.1) ∧
      ((statement now q).Gives "LIMIT" v ↔ ∃ w, q.window? = some w ∧ v = .int w.2)) ∧
    (∃ acts, (db.run (c.run.run.run σ)).2.acts = db.acts ++ acts ∧
      ∀ f, .execute f ∈ acts → f.Windowed fun p => c.page? = some p) ∧
    ∃ acts, (d.answerOne i db).2.acts = db.acts ++ acts ∧
      ∀ f, .execute f ∈ acts → f.Windowed i.AsksForPage := by
  refine ⟨fun hvalid => ?_, fun v => ?_, ?_, d.answerOne_windowed i db⟩
  · obtain ⟨-, hpos, hmax⟩ := Page.validate_eq_ok_iff.mp hvalid
    exact ⟨rfl, Page.offset_nonneg hvalid, hpos, hmax, Page.offset_le_iff hvalid _⟩
  · exact ⟨gives_offset_iff now q v, gives_limit_iff now q v⟩
  · obtain ⟨acts, htold, hacts⟩ := c.run_windowed σ db
    exact ⟨acts, htold.told, hacts⟩

namespace Setup.Deployment

/-- A database where there is a default organization without groups. -/
def sampleListing : Database where
  responses := [
    .table ⟨[[.text "org-default", .text "default-organization", .text "Default"]], 1⟩,
    .table ⟨[[.int 0]], 1⟩]
  around := { clock := default }

/-- The statements that it is told when the user `root` lists groups. -/
def sampleStatements (page : Page) : List Fragment :=
  let session := Session.ofUser? (some ⟨1, "root", none, none, true, false⟩)
  let c : Service.Command := .searchGroups none page none
  (sampleListing.run (c.run.run.run session)).2.acts.filterMap Act.statement?

/-- A request for groups, with a query. -/
def sampleSearch (query : String) : Http.Incoming where
  method := "GET"
  path := "/api/user_groups/search"
  query := query

/-- The third page of a hundred groups skips two hundred. -/
theorem windows_in_range_third :
    let p : Page := ⟨3, 100⟩
    (∃ f ∈ sampleStatements p, f.Gives "OFFSET" (.int 200) ∧ f.Gives "LIMIT" (.int 100)) ∧
      p.validate = .ok () ∧ p.offset ≤ maxBigint := by
  intro p
  have hvalid : p.validate = .ok () := Page.validate_eq_ok_iff.mpr (by decide)
  have htold : statement default (.searchGroups "org-default" none 200 100) ∈
      sampleStatements p := by decide +kernel
  obtain ⟨hpage, hgives, -⟩ := windows_in_range p default
    (.searchGroups "org-default" none 200 100) (.searchGroups none p none) default default
    (sampleSearch "p=3") sampleListing
  obtain ⟨-, -, -, -, hbound⟩ := hpage hvalid
  have hoffset := (hgives (.int 200)).1.mpr ⟨_, rfl, rfl⟩
  have hlimit := (hgives (.int 100)).2.mpr ⟨_, rfl, rfl⟩
  exact ⟨⟨_, htold, hoffset, hlimit⟩, hvalid, hbound.mpr (by decide)⟩

/-- What is read of a query for a single group on a page far on. -/
theorem ofQuery_far : Http.Fields.ofQuery "p=9223372036854775809&ps=1" =
    [("p", ["9223372036854775809"]), ("ps", ["1"])] := by
  have hparts : Http.splitOnChar '&' "p=9223372036854775809&ps=1".toList =
      ["p=9223372036854775809".toList, "ps=1".toList] := by decide +kernel
  have hpage : Http.splitField "p=9223372036854775809".toList = ("p", "9223372036854775809") := by
    decide +kernel
  have hsize : Http.splitField "ps=1".toList = ("ps", "1") := by decide +kernel
  have hplain (s : String) (hs : s ∈ ["p", "9223372036854775809", "ps", "1"]) :
      Http.decodePart s = s := by
    apply Http.decodePart_of_notMem
    · revert s
      decide +kernel
    · revert s
      decide +kernel
  rw [Http.Fields.ofQuery, hparts, List.foldl_cons, List.foldl_cons, List.foldl_nil, hpage, hsize]
  simp [hplain, Http.Fields.add]

theorem sampleSearch_asksFor : (sampleSearch "p=9223372036854775809&ps=1").AsksFor
    (.searchGroups none ⟨9223372036854775809, 1⟩ none) := by
  have hroute : (sampleSearch "p=9223372036854775809&ps=1").route = "/api/user_groups/search" :=
    Http.route_of_notMem (by simp only [sampleSearch]; decide +kernel)
  refine ⟨.searchGroups, by rw [hroute]; decide +kernel, rfl, ?_⟩
  simp only [sampleSearch, Http.Endpoint.command]
  rw [ofQuery_far]
  have hpage : Http.queryPage [("p", ["9223372036854775809"]), ("ps", ["1"])] 100 =
      .ok ⟨9223372036854775809, 1⟩ := by rfl
  rw [hpage]
  rfl

/-- There are pages so far on that the database is told to skip more than it can count. -/
theorem offset_beyond_bigint :
    let p : Page := ⟨9223372036854775809, 1⟩
    (sampleSearch "p=9223372036854775809&ps=1").AsksForPage p ∧ p.validate = .ok () ∧
      (∃ f ∈ sampleStatements p, f.Gives "OFFSET" (.int 9223372036854775808)) ∧
      maxBigint < 9223372036854775808 ∧
      ¬ ∀ p : Page, p.validate = .ok () → p.offset ≤ maxBigint := by
  intro p
  have hvalid : p.validate = .ok () := Page.validate_eq_ok_iff.mpr (by decide)
  have htold : statement default (.searchGroups "org-default" none 9223372036854775808 1) ∈
      sampleStatements p := by decide +kernel
  have hoffset := (gives_offset_iff default
    (.searchGroups "org-default" none 9223372036854775808 1) _).mpr ⟨_, rfl, rfl⟩
  refine ⟨⟨_, sampleSearch_asksFor, rfl⟩, hvalid, ⟨_, htold, hoffset⟩, by decide, fun hall => ?_⟩
  exact absurd (hall p hvalid) (by decide)

end Setup.Deployment

end Entitlements
