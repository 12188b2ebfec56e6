import EventMessages.Proofs.Build.Outcome

/-!
# EventMessages.Proofs.Build.Idempotence

Building again. A native build leaves its stamp in the constants file, where every later build of
the same definition finds it: it calls no compiler and changes nothing.
-/

namespace EventMessages

namespace Job

/-- **Idempotence**: once a build has returned, a build that finds the same definition and the same
constants file reports the same digest and directives and does nothing but print, whatever else has
changed and whatever the compilers would do. -/
theorem buildNative_idempotent {first last second : Job} {settings : Settings} {project : Project}
    {report : Report} (h : first.buildNative settings project = (.ok report, last))
    (hinput : second.files.read? (project.inputPath settings.root) =
      first.files.read? (project.inputPath settings.root))
    (hconstants : second.files.read? (project.constantsIn (project.resPath settings.root)) =
      last.files.read? (project.constantsIn (project.resPath settings.root))) :
    second.buildNative settings project =
      (.ok
        { branch := .native
          digest := report.digest
          regenerated := false
          constants := 0
          tools := []
          directives := report.directives },
        { second with
          log := second.log ++
            digestLine (project.inputPath settings.root) report.digest ::
            Presence.line (project.constantsIn (project.resPath settings.root)) report.digest
              .present ::
            report.directives }) := by
  have hm : second.files.digest (project.inputPath settings.root) = .ok report.digest :=
    FileSystem.digest_of_read?_eq hinput (digest_of_buildNative h)
  have hc : second.files.carries (nativeConstants settings project) report.digest = true := by
    rw [nativeConstants, FileSystem.carries_of_read?_eq hconstants]
    exact carries_of_buildNative h
  rw [buildNative_of_carries hm hc, directives_of_buildNative h]
  rfl

/-- A small project is built, loses its header and is built again. -/
theorem buildNative_idempotent_lostHeader :
    ∃ first last second : Job, ∃ report, first.files = smallTree "MessageId=1" ∧
      first.buildNative windowsHost {} = (.ok report, last) ∧
      second.files = last.files.removeTree ["eventmsgs.h", "res"] ∧
      (second.buildNative windowsHost {}).2.files = second.files := by
  let first : Job := { files := smallTree "MessageId=1", script := [writesHeader "0x1"] }
  let second : Job :=
    { files := (first.buildNative windowsHost {}).2.files.removeTree ["eventmsgs.h", "res"]
      script := [writesHeader "0x2"] }
  have hok : (first.buildNative windowsHost {}).1.isOk = true := by decide +kernel
  have hinput : second.files.read? "res/eventmsgs.mc" = first.files.read? "res/eventmsgs.mc" := by
    decide +kernel
  have hconstants : second.files.read? "res/eventmsgs.rs" =
      (first.buildNative windowsHost {}).2.files.read? "res/eventmsgs.rs" := by decide +kernel
  obtain ⟨report, hr⟩ := report_of_isOk hok
  have h := eq_of_fst_eq_ok hr
  have hs : second.buildNative windowsHost {} = _ := buildNative_idempotent h hinput hconstants
  exact ⟨first, _, second, report, rfl, h, rfl, by rw [hs]⟩

end Job

end EventMessages
