import Entitlements.Proofs.Http.Respond
import Entitlements.Proofs.Service.Units
import Entitlements.Setup.Deployment

/-!
# Connections that are held

A unit of work takes a connection when it begins and gives it back when it ends, so a request holds
as many connections as it has units of work open. A command that checks permissions within its unit
of work waits for a second connection while it holds the first one, and where there is only one
connection to be had it waits for itself.
-/

namespace Entitlements

variable {limit n : Nat}

/-- Answering a request opens no more units of work than the commands that it can ask for. -/
theorem Http.handles_units (site : Site) (i : Incoming) (hn : n < limit)
    (hwithin : ∀ c, i.AsksFor c → c.ChecksWithinUnit → n + 1 < limit) :
    Handles (.units limit) site i (· = n) (· = n) (· = n) where
  authenticate := Auth.authenticate_hosted (Setting.units_hosts_one hn) _ _
  run c σ m hc := c.run_preserves_units hn (hwithin c hc) σ m
  failed_of_start _ hm := hm
  log _ _ _ hm := ⟨trivial, fun _ _ h => h.trans hm⟩
  probe _ hm := ⟨trivial, fun _ _ h => h.trans hm⟩

namespace Sql

/-- How many connections are held after an act. -/
def Act.held (n : Nat) : Act → Nat
  | .acquire => n + 1
  | .release _ => n - 1
  | _ => n

/-- How many connections are held after some acts. -/
def held (acts : List Act) : Nat := acts.foldl Act.held 0

/-- At no moment are more connections held than the limit. -/
def HoldsAtMost (limit : Nat) (acts : List Act) : Prop :=
  ∀ prior, prior <+: acts → held prior ≤ limit

@[simp] theorem held_concat (acts : List Act) (a : Act) :
    held (acts ++ [a]) = a.held (held acts) := by
  simp [held]

theorem holdsAtMost_nil (limit : Nat) : HoldsAtMost limit [] := by
  intro prior hprior
  rw [List.prefix_nil.mp hprior]
  exact Nat.zero_le limit

/-- One act more is one moment more. -/
theorem HoldsAtMost.concat {acts : List Act} (h : HoldsAtMost limit acts) {a : Act}
    (ha : a.held (held acts) ≤ limit) : HoldsAtMost limit (acts ++ [a]) := by
  intro prior hprior
  rcases List.prefix_concat_iff.mp hprior with rfl | hprior
  · rw [held_concat]
    exact ha
  · exact h prior hprior

namespace Database

/-- What a database was told since: connections were held within the limit, and some are held. -/
def HoldsSince (limit : Nat) (d : Database) (n : Nat) (d' : Database) : Prop :=
  ∃ acts, d'.acts = d.acts ++ acts ∧ held acts = n ∧ HoldsAtMost limit acts

variable {d d' : Database}

theorem HoldsSince.refl (limit : Nat) (d : Database) : HoldsSince limit d 0 d :=
  ⟨[], by simp, rfl, holdsAtMost_nil limit⟩

theorem HoldsSince.le (h : HoldsSince limit d n d') : n ≤ limit := by
  obtain ⟨acts, -, hheld, hmost⟩ := h
  rw [← hheld]
  exact hmost acts List.prefix_rfl

/-- Only taking a connection can be too much. -/
theorem HoldsSince.tell (h : HoldsSince limit d n d') {a : Act} (ha : a.held n ≤ limit) :
    HoldsSince limit d (a.held n) (d'.tell a) := by
  obtain ⟨acts, hacts, rfl, hmost⟩ := h
  refine ⟨acts ++ [a], ?_, held_concat acts a, hmost.concat ha⟩
  rw [Database.tell, hacts, List.append_assoc]

theorem HoldsSince.abandon (h : HoldsSince limit d n d') (f : Fault) :
    HoldsSince limit d (n - 1) (d'.abandon f) := by
  have hle := h.le
  have hrollback : HoldsSince limit d n (d'.tell .rollback) := h.tell hle
  have hrollback' : HoldsSince limit d n ((d'.tell .rollback).tell .rollback) := hrollback.tell hle
  exact hrollback'.tell (Nat.le_trans (Nat.sub_le n 1) hle)

theorem HoldsSince.complete (h : HoldsSince limit d n d') :
    HoldsSince limit d (n - 1) d'.complete.2 := by
  have hle := h.le
  have hcommit : HoldsSince limit d n (d'.tell .commit) := h.tell hle
  unfold Database.complete Database.commit
  cases d'.commitFailure? with
  | some text => exact hcommit.abandon _
  | none => exact hcommit.tell (Nat.le_trans (Nat.sub_le n 1) hle)

/-- The database holds as many connections as there are units of work open. -/
theorem HoldsSince.serve (h : HoldsSince limit d n d') (r : Request)
    (hr : (Setting.units limit).permits n r) :
    ∃ m, (Setting.units limit).answers n r (serve r d').1 m ∧
      HoldsSince limit d m (Database.serve r d').2 := by
  have hle := h.le
  cases r with
  | begin => exact ⟨n + 1, rfl, h.tell hr⟩
  | complete => exact ⟨n - 1, rfl, h.complete⟩
  | abandon f => exact ⟨n - 1, rfl, h.abandon f⟩
  | query q =>
    obtain ⟨acts, hacts, hheld, hmost⟩ := h
    obtain ⟨-, f, hf⟩ := d'.answer_told q
    refine ⟨n, rfl, acts ++ [.execute f], ?_, by rw [held_concat]; exact hheld, hmost.concat ?_⟩
    · show (d'.answer q).2.acts = _
      rw [hf, hacts, List.append_assoc]
    · rw [hheld]
      exact hle
  | log | now | freshUuid | introspect => exact ⟨n, rfl, h⟩
  | probe => exact ⟨n, rfl, h.tell hle⟩

end Database

end Sql

namespace Setup.Deployment

open Sql Http

/-- A request is answered within a limit that allows for its commands. -/
theorem answerOne_holdsSince (d : Deployment) (i : Incoming) (db : Database) (hlimit : 0 < limit)
    (hwithin : ∀ c, i.AsksFor c → c.ChecksWithinUnit → 1 < limit) :
    Database.HoldsSince limit db 0 (d.answerOne i db).2 := by
  have hopened : Database.HoldsSince limit db 0 (db.tell .openPool) :=
    (Database.HoldsSince.refl limit db).tell (Nat.zero_le limit)
  have hensures := (handles_units d.site i hlimit hwithin).respond_ensures (rfl : 0 = 0)
  obtain ⟨m, hm, hended⟩ := hensures.of_run
    (T := fun n d' => Database.HoldsSince limit db n d')
    (fun n d' r hd' hr => hd'.serve r hr)
    (s := { db.tell .openPool with
      around := db.around.record (.poolOpened d.pool.minSize d.pool.maxSize) }) hopened
  obtain rfl : m = 0 := hm.elim id And.left
  exact hended.tell (Nat.zero_le limit)

/-- Whatever is requested and whatever the database answers, a request never holds more than two
connections, and it has given back all of them in the end. It never holds more than one unless it
asks for a command that checks permissions within its unit of work. -/
theorem answerOne_holdsAtMost (d : Deployment) (i : Incoming) (db : Database) :
    ∃ acts, (d.answerOne i db).2.acts = db.acts ++ acts ∧ held acts = 0 ∧ HoldsAtMost 2 acts ∧
      ((∀ c, i.AsksFor c → ¬ c.ChecksWithinUnit) → HoldsAtMost 1 acts) := by
  obtain ⟨acts, hacts, hheld, htwo⟩ :=
    d.answerOne_holdsSince i db Nat.two_pos fun _ _ _ => Nat.one_lt_two
  refine ⟨acts, hacts, hheld, htwo, fun hnone => ?_⟩
  obtain ⟨acts', hacts', -, hone⟩ :=
    d.answerOne_holdsSince i db Nat.one_pos fun c hc hwithin => absurd hwithin (hnone c hc)
  obtain rfl : acts' = acts := List.append_cancel_left (hacts'.symm.trans hacts)
  exact hone

/-- Settings that ask for a single connection. -/
def sampleSettings : Settings :=
  { keycloakClientSecret := "secret", poolMinSize := 1, poolMaxSize := 1 }

/-- The service with a single connection. -/
def sample : Deployment := (ofSettings sampleSettings).toOption.getD default

/-- A request with the token of the sample database. -/
def sampleRequest (path body : String) : Incoming where
  method := "POST"
  path := path
  headers := [("Authorization", "Bearer token")]
  body := body.toUTF8.toList

/-- A database with a user `root` who administers the default organization. -/
def sampleDatabase : Database where
  responses := [
    .table ⟨[[.int 1, .text "root", .null, .null, .bool true, .bool false]], 1⟩,
    .table ⟨[[.text "org-default", .text "default-organization", .text "Default"]], 1⟩,
    .table ⟨[[.text "org-default", .text "default-organization", .text "Default"]], 1⟩,
    .table ⟨[[.text "org-default", .null, .text "admin"]], 1⟩]
  around := {
    clock := default
    tokens := [("token", .claims [("active", .bool true), ("preferred_username", .text "root")])] }

/-- Granting a permission takes one connection at a time. -/
theorem answerOne_holdsAtMost_addUser :
    let i := sampleRequest "/api/permissions/add_user"
      "\x7b\"login\": \"root\", \"permission\": \"scan\"\x7d"
    (∀ c, i.AsksFor c → ¬ c.ChecksWithinUnit) ∧
      HoldsAtMost 1 (sample.answerOne i sampleDatabase).2.acts := by
  intro i
  have hnone : ∀ c, i.AsksFor c → ¬ c.ChecksWithinUnit := by
    rintro c ⟨e, hpath, -, hc⟩
    rw [route_of_notMem (by decide +kernel)] at hpath
    obtain rfl : Endpoint.changeUser .add = e := Option.some.inj (Eq.trans (by decide) hpath)
    have hcommand : (Endpoint.command i (.changeUser .add)).toOption =
        some (some (.changeUserPermission .add "root" "scan" none none none)) := by decide +kernel
    rw [hc] at hcommand
    obtain rfl : c = _ := Option.some.inj (Option.some.inj hcommand)
    exact id
  obtain ⟨acts, hacts, -, -, hone⟩ := answerOne_holdsAtMost sample i sampleDatabase
  rw [hacts]
  exact ⟨hnone, hone hnone⟩

/-- Making a template takes two connections at a time, also where there is only one to be had. -/
theorem exists_two_held_createTemplate :
    let i := sampleRequest "/api/permissions/create_template" "\x7b\"name\": \"Standard\"\x7d"
    sample.pool.isSound = true ∧ sample.pool.maxSize = 1 ∧
      ∃ prior, prior <+: (sample.answerOne i sampleDatabase).2.acts ∧ held prior = 2 := by
  intro i
  have hroute : i.route = "/api/permissions/create_template" :=
    route_of_notMem (by decide +kernel)
  refine ⟨by decide +kernel, by decide +kernel, _, List.take_prefix 8 _, ?_⟩
  unfold answerOne Site.respond route
  rw [hroute]
  decide +kernel

end Setup.Deployment

end Entitlements
