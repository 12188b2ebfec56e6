import EventMessages.Proofs.Build.Branches

/-!
# EventMessages.Proofs.Build.Influence

What the tools of a build have influence on. Whether they start, how they end and what they print
goes into the log and into the results that a build reports, and nowhere else: two builds whose
tools write the same files call the same programs, end alike and leave the same files
(`Branch.build_alike`).
-/

namespace EventMessages

open Job

/-- The reports differ at most in what became of the tools. -/
def Report.Alike (report other : Report) : Prop := { other with tools := report.tools } = report

/-- Both fail for the same reason, or both return, with reports that differ at most in what became
of the tools. -/
inductive EndAlike : Except Failure Report → Except Failure Report → Prop where
  | failed (failure : Failure) : EndAlike (.error failure) (.error failure)
  | returned {report other : Report} (h : report.Alike other) : EndAlike (.ok report) (.ok other)

namespace Branch

variable {branch : Branch} {job other last otherLast : Job} {settings : Settings}
variable {project : Project} {answer otherAnswer : Except Failure Report}

/-- Translations that come to the same are reported alike. -/
theorem endAlike_regeneratedReport (branch : Branch) (job other : Job) (settings : Settings)
    (project : Project) (directory digest : String) (count : Except Failure Nat) :
    EndAlike (count.map (branch.regeneratedReport job settings project directory digest))
      (count.map (branch.regeneratedReport other settings project directory digest)) := by
  cases count with
  | error failure => exact .failed failure
  | ok constants => exact .returned rfl

/-- **Influence of tools**: two builds of a project in the same files, with tools that write the
same, make the same calls, end alike and leave the same files, however their tools end and whatever
they print. -/
theorem build_alike (hfiles : other.files = job.files)
    (hwrites : ∀ i, (other.script.getD i {}).writes = (job.script.getD i {}).writes)
    (h : job.build settings project = (answer, last))
    (hother : other.build settings project = (otherAnswer, otherLast)) :
    (∃ attempts, last.calls = job.calls ++ attempts ∧
        otherLast.calls = other.calls ++ attempts) ∧
      EndAlike answer otherAnswer ∧ otherLast.files = last.files := by
  rw [build_ofHost] at h hother
  obtain ⟨log, hb⟩ := (ofHost settings).build_eq_outcome job settings project
  obtain ⟨otherLog, hb'⟩ := (ofHost settings).build_eq_outcome other settings project
  rw [hb] at h
  rw [hb', hfiles] at hother
  -- the files that the builds find are the same, and so is what they are going to do
  cases hp : (ofHost settings).plan job.files settings project with
  | fail failure =>
      rw [hp] at h hother
      obtain ⟨rfl, rfl⟩ := Prod.mk.inj h
      obtain ⟨rfl, rfl⟩ := Prod.mk.inj hother
      exact ⟨⟨[], by simp, by simp⟩, .failed failure, hfiles⟩
  | keep digest =>
      rw [hp] at h hother
      obtain ⟨rfl, rfl⟩ := Prod.mk.inj h
      obtain ⟨rfl, rfl⟩ := Prod.mk.inj hother
      exact ⟨⟨[], by simp, by simp⟩, .returned rfl, hfiles⟩
  | make directory digest =>
      have hafter : afterCompilers other.files other.script =
          afterCompilers job.files job.script := by
        rw [hfiles, afterCompilers_congr _ hwrites]
      rw [hp, outcome] at h hother
      rw [hafter] at hother
      obtain ⟨rfl, rfl⟩ := Prod.mk.inj h
      obtain ⟨rfl, rfl⟩ := Prod.mk.inj hother
      exact ⟨⟨_, rfl, rfl⟩, endAlike_regeneratedReport _ _ _ _ _ _ _ _, rfl⟩
  | interrupt directory =>
      rw [hp] at h hother
      obtain ⟨rfl, rfl⟩ := Prod.mk.inj h
      obtain ⟨rfl, rfl⟩ := Prod.mk.inj hother
      exact ⟨⟨_, rfl, rfl⟩, .failed _, files_interrupted_congr hfiles hwrites _ _ _ _ _ _⟩

/-- A build of the small project whose tools write what those of the other one do, but one does not
start and one is killed. -/
def smallTrouble : Job where
  files := smallTree "MessageId=1"
  script := [{ writesHeader "0x1" with ending := .refused 13 "Permission denied" true },
    { ending := .ended (-9) [] [0xff] }]

/-- The tools of the small project are in trouble, and all that shows it is their results. -/
theorem build_alike_smallTrouble :
    (smallTrouble.build windowsHost {}).2.files = (smallNative.build windowsHost {}).2.files ∧
      (smallTrouble.build windowsHost {}).2.calls = (smallNative.build windowsHost {}).2.calls ∧
      EndAlike (smallNative.build windowsHost {}).1 (smallTrouble.build windowsHost {}).1 ∧
      (smallTrouble.build windowsHost {}).1 ≠ (smallNative.build windowsHost {}).1 := by
  have hwrites : ∀ i, (smallTrouble.script.getD i {}).writes =
      (smallNative.script.getD i {}).writes := by
    intro i
    obtain _ | _ | i := i <;> rfl
  obtain ⟨⟨attempts, hcalls, hcalls'⟩, halike, hfiles⟩ := @build_alike smallNative smallTrouble _ _
    windowsHost {} _ _ rfl hwrites (Prod.eta _).symm (Prod.eta _).symm
  exact ⟨hfiles, hcalls'.trans hcalls.symm, halike, by decide +kernel⟩

end Branch

end EventMessages
