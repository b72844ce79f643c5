import DialogGraph.CommandLine.Compile
import DialogGraph.CommandLine.Disk

/-!
# Work on described files

What comes of a part of the compiler's work on described files, and what has become of the files:
part by part, since a part that is broken off breaks off the whole.
-/

namespace DialogGraph.CommandLine

variable {α β : Type}

/-! ### Work on described files -/

namespace Job

/-- Carries out a job against described files. Also gives the files as they are afterwards. -/
def carriedOut (disk : Disk) : Job α → α × Disk
  | done a => (a, disk)
  | look path next => (next (disk.entry path)).carriedOut disk
  | make path next => (next (disk.make path).2).carriedOut (disk.make path).1

theorem onDisk_eq (disk : Disk) (job : Job α) : job.onDisk disk = (job.carriedOut disk).1 := by
  induction job generalizing disk with
  | done a => rfl
  | look path next ih => exact ih (disk.entry path) disk
  | make path next ih => exact ih (disk.make path).2 (disk.make path).1

theorem carriedOut_andThen (disk : Disk) (job : Job α) (next : α → Job β) :
    (job.andThen next).carriedOut disk =
      (next (job.carriedOut disk).1).carriedOut (job.carriedOut disk).2 := by
  induction job generalizing disk with
  | done a => rfl
  | look path answer ih => exact ih (disk.entry path) disk
  | make path answer ih => exact ih (disk.make path).2 (disk.make path).1

end Job

/-- What comes of a part of the work, and the files as they are afterwards. -/
def outcome (disk : Disk) (work : Work α) : Except Breakdown α × Disk := work.run.carriedOut disk

variable {disk after : Disk} {work : Work α} {next : α → Work β}

@[simp]
theorem outcome_pure (a : α) : outcome disk (pure a) = (.ok a, disk) := rfl

@[simp]
theorem outcome_throw (breakdown : Breakdown) :
    outcome disk (throw breakdown : Work α) = (.error breakdown, disk) := rfl

@[simp]
theorem outcome_look (path : Path) : outcome disk (look path) = (.ok (disk.entry path), disk) := rfl

@[simp]
theorem outcome_lift (result : Except Breakdown α) :
    outcome disk (liftM result : Work α) = (result, disk) := by
  cases result <;> rfl

theorem outcome_bind (disk : Disk) (work : Work α) (next : α → Work β) :
    outcome disk (work >>= next) =
      match outcome disk work with
      | (.ok a, after) => outcome after (next a)
      | (.error breakdown, after) => (.error breakdown, after) := by
  have hbind := Job.carriedOut_andThen disk work.run (ExceptT.bindCont next)
  have hwork : outcome disk (work >>= next) =
      (work.run.andThen (ExceptT.bindCont next)).carriedOut disk := rfl
  rw [hwork, hbind, outcome]
  obtain ⟨result, after⟩ := work.run.carriedOut disk
  cases result <;> rfl

/-- Work that goes on after a part that succeeded. -/
theorem outcome_bind_of_ok {a : α} (hwork : outcome disk work = (.ok a, after)) :
    outcome disk (work >>= next) = outcome after (next a) := by
  rw [outcome_bind, hwork]

/-- Work that was broken off. -/
theorem outcome_bind_of_error {breakdown : Breakdown}
    (hwork : outcome disk work = (.error breakdown, after)) :
    outcome disk (work >>= next) = (.error breakdown, after) := by
  rw [outcome_bind, hwork]

end DialogGraph.CommandLine
