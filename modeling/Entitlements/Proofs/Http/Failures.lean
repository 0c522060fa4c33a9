import Entitlements.Proofs.Http.Respond
import Entitlements.Proofs.Service.Failures
import Entitlements.Proofs.Service.Reads
import Entitlements.Store.Sample

/-!
# Failures leave the data as it was

A store in memory undoes nothing. Still a command that fails leaves everything that is stored as it
was, and so does every request to the site that is answered with an error, be it for the
credentials, the path, the method, the body or the command that it asks for.
-/

namespace Entitlements.Http

variable {site : Site} {i : Incoming}

/-- Looking at credentials writes nothing. -/
theorem authenticate_unwritten {s t : Store} (reader : Auth.TokenReader) (credentials : String)
    (ht : s.Unwritten t) :
    Work.Ensures Store.setting (Auth.authenticate reader credentials) t (fun _ u => s.Unwritten u)
      fun _ u => s.Unwritten u := by
  have hreads := (Auth.authenticate_reads reader credentials).sparesData
  rw [← bind_pure (Auth.authenticate reader credentials)]
  exact Work.ensures_bind_of_sparesData ht hreads fun _ _ hu => hu

/-- On a store in memory only a successful command writes. -/
theorem handles_unwritten (site : Site) (i : Incoming) (s : Store) :
    Handles Store.setting site i s.Unwritten s.Unwritten fun _ => True where
  authenticate _ ht := authenticate_unwritten _ _ ht
  run c σ t _ ht := (c.run_failsUnwritten σ t).mono (fun _ _ _ _ => trivial)
    fun _ _ _ hu => ht.trans hu
  failed_of_start _ ht := ht
  log _ t _ ht := ⟨trivial, by rintro ⟨⟩ _ ⟨⟩; exact ht.trans ⟨_, _, _, _, rfl⟩⟩
  probe _ ht := ⟨trivial, by rintro _ _ ⟨⟩; exact ht⟩

/-- A command that fails, whoever asks for it, leaves the data of the store as it was, and so does
a request to a site that is answered with an error, whatever the request is. -/
theorem unwritten_of_failed (s : Store) :
    (∀ (c : Service.Command) (σ : Session) (f : Fault),
      (s.run (c.run.run.run σ)).1.1 = .error f → s.Unwritten (s.run (c.run.run.run σ)).2) ∧
    ∀ (site : Site) (i : Incoming),
      400 ≤ (s.run (site.respond i)).1.status → s.Unwritten (s.run (site.respond i)).2 := by
  constructor
  · intro c σ f hf
    have hend := (Store.ensures_setting_iff _ _ _).mp (c.run_failsUnwritten σ s)
    revert hend hf
    generalize s.run (c.run.run.run σ) = left
    obtain ⟨⟨f' | reply, τ⟩, t⟩ := left
    · exact fun _ hend => hend
    · nofun
  · intro site i hstatus
    have hanswered := (handles_unwritten site i s).respond_ensures (.refl s)
    rcases (Store.ensures_setting_iff _ _ _).mp hanswered with hunwritten | ⟨-, hlt⟩
    · exact hunwritten
    · omega

/-- The user `root` of the sample asks over the web to administer nothing any more. -/
def sampleRemoval : Incoming where
  method := "POST"
  path := "/api/permissions/remove_user"
  headers := [("Authorization", "Bearer root")]
  body := "\x7b\"login\": \"root\", \"permission\": \"admin\"\x7d".toUTF8.toList

private theorem status_sampleRemoval :
    ((Store.sample default).run (Site.respond { tokens := .plain } sampleRemoval)).1.status =
      400 := by
  have hroute : sampleRemoval.route = "/api/permissions/remove_user" :=
    route_of_notMem (by decide +kernel)
  unfold Site.respond route
  rw [hroute]
  decide +kernel

/-- A visitor of the sample cannot make `root` an ordinary user, and the user `root` cannot give up
administering the default organization over the web. -/
theorem unwritten_of_failed_sample :
    let s := Store.sample default
    let c := Service.Command.unsetRoot (some "root")
    let σ := Session.ofUser? none
    let site : Site := { tokens := .plain }
    ((s.run (c.run.run.run σ)).1.1 = .error (.refused .insufficientPrivileges) ∧
      s.Unwritten (s.run (c.run.run.run σ)).2) ∧
    (s.run (site.respond sampleRemoval)).1.status = 400 ∧
      s.Unwritten (s.run (site.respond sampleRemoval)).2 := by
  intro s c σ site
  have hc : (s.run (c.run.run.run σ)).1.1 = .error (.refused .insufficientPrivileges) := rfl
  have hi : (s.run (site.respond sampleRemoval)).1.status = 400 := status_sampleRemoval
  have hle : 400 ≤ (s.run (site.respond sampleRemoval)).1.status := Nat.le_of_eq hi.symm
  exact ⟨⟨hc, (unwritten_of_failed s).1 c σ _ hc⟩, hi, (unwritten_of_failed s).2 site _ hle⟩

end Entitlements.Http
