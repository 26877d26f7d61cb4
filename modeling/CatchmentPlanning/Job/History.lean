import CatchmentPlanning.Job.Basic

/-!
# Job histories

The history holds the posted jobs, the latest first.
-/

namespace CatchmentPlanning

/-- The jobs that have been posted and not purged, the latest first. -/
structure History where
  jobs : List Job

namespace History

/-- No job has been posted. -/
def empty : History := ⟨[]⟩

/-- Puts a job in front. -/
def add (h : History) (job : Job) : History := ⟨job :: h.jobs⟩

/-- The job with an identifier. -/
def find? (h : History) (id : JobId) : Option Job := h.jobs.find? (·.id = id)

/-- Changes the job with an identifier, if it is there. -/
def update (h : History) (id : JobId) (change : Job → Job) : History :=
  match h.jobs.findIdx? (·.id = id) with
  | some i => ⟨h.jobs.modify i change⟩
  | none => h

/-- The history after a change of the job with an identifier, if it is there. -/
def update? (h : History) (id : JobId) (change : Job → Job) : Option History :=
  (h.jobs.findIdx? (·.id = id)).map fun i => ⟨h.jobs.modify i change⟩

/-- Takes the job with an identifier out. -/
def remove (h : History) (id : JobId) : History := ⟨h.jobs.eraseP (·.id = id)⟩

/-- The job with an identifier and the history without it, if it is there. -/
def remove? (h : History) (id : JobId) : Option (Job × History) :=
  (h.find? id).map fun job => (job, h.remove id)

/-- Splits the jobs that may be purged off. -/
def purge (h : History) : List Job × History :=
  (h.jobs.filter (·.status.isProcessed), ⟨h.jobs.filter (!·.status.isProcessed)⟩)

theorem getD_update? (h : History) (id : JobId) (change : Job → Job) :
    (h.update? id change).getD h = h.update id change := by
  unfold update? update
  cases h.jobs.findIdx? fun job => decide (job.id = id) <;> rfl

theorem map_fst_remove? (h : History) (id : JobId) : (h.remove? id).map (·.1) = h.find? id := by
  rw [remove?, Option.map_map]
  exact Option.map_id' ..

theorem getD_remove? (h : History) (id : JobId) :
    ((h.remove? id).map (·.2)).getD h = h.remove id := by
  rw [remove?]
  cases hfind : h.find? id with
  | none =>
    rw [find?, List.find?_eq_none] at hfind
    show h = _
    rw [remove, List.eraseP_of_forall_not hfind]
  | some job => rfl

@[simp] theorem find?_add_self (h : History) (job : Job) :
    (h.add job).find? job.id = some job := by
  simp [add, find?]

/-- Taking the job that was put in front out again leaves what was there. -/
@[simp] theorem remove_add_self (h : History) (job : Job) :
    (h.add job).remove job.id = h := by
  simp [add, remove]

end History

end CatchmentPlanning
