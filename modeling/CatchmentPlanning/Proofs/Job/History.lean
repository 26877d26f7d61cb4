import CatchmentPlanning.Job.History
import CatchmentPlanning.Proofs.Keyed

/-!
# The history as jobs under identifiers

As long as no two jobs have one identifier the history is a map from identifiers
to jobs. The rules here say which jobs are there after each of its operations,
and that none of them brings an identifier in twice.
-/

namespace CatchmentPlanning

namespace History

/-- The identifiers of the jobs, the latest first. -/
def ids (h : History) : List JobId := h.jobs.map (·.id)

variable {h : History} {id : JobId} {job : Job}

theorem mem_ids_of_mem (hjob : job ∈ h.jobs) : job.id ∈ h.ids :=
  List.mem_map_of_mem hjob

/-- What is found under an identifier is the one job with it. -/
theorem find?_eq_some_iff (hnodup : h.ids.Nodup) :
    h.find? id = some job ↔ job ∈ h.jobs ∧ job.id = id :=
  Keyed.find?_eq_some_iff hnodup

theorem find?_eq_none_iff : h.find? id = none ↔ id ∉ h.ids := by
  rw [find?, List.find?_eq_none, ids, List.mem_map]
  constructor
  · rintro hnone ⟨job, hjob, hid⟩
    exact hnone job hjob (decide_eq_true hid)
  · exact fun hnone job hjob hid => hnone ⟨job, hjob, of_decide_eq_true hid⟩

/-- There is one job under an identifier. -/
theorem eq_of_id_eq {job' : Job} (hnodup : h.ids.Nodup) (hjob : job ∈ h.jobs)
    (hjob' : job' ∈ h.jobs) (heq : job'.id = job.id) : job' = job := by
  have hfind := (find?_eq_some_iff hnodup).mpr ⟨hjob', heq⟩
  rw [(find?_eq_some_iff hnodup).mpr ⟨hjob, rfl⟩] at hfind
  exact (Option.some.inj hfind).symm

/-! ## Adding, taking out and purging -/

@[simp] theorem ids_add (h : History) (job : Job) : (h.add job).ids = job.id :: h.ids :=
  rfl

theorem mem_add {job' : Job} : job' ∈ (h.add job).jobs ↔ job' = job ∨ job' ∈ h.jobs :=
  List.mem_cons

theorem mem_remove (hnodup : h.ids.Nodup) :
    job ∈ (h.remove id).jobs ↔ job ∈ h.jobs ∧ job.id ≠ id := by
  show job ∈ h.jobs.eraseP _ ↔ _
  rw [Keyed.eraseP_eq_filter hnodup, List.mem_filter, decide_eq_true_iff]

theorem nodup_ids_remove (hnodup : h.ids.Nodup) (id : JobId) : (h.remove id).ids.Nodup :=
  hnodup.sublist (List.eraseP_sublist.map _)

theorem mem_purge : job ∈ h.purge.2.jobs ↔ job ∈ h.jobs ∧ job.status.isProcessed = false := by
  show job ∈ h.jobs.filter _ ↔ _
  rw [List.mem_filter, Bool.not_eq_true']

theorem nodup_ids_purge (hnodup : h.ids.Nodup) : h.purge.2.ids.Nodup :=
  hnodup.sublist (List.filter_sublist.map _)

/-! ## Changing a job -/

section

variable {change : Job → Job}

/-- What is found under an identifier is changed by a change that leaves identifiers
alone. -/
theorem find?_update (hchange : ∀ job, (change job).id = job.id) (hfind : h.find? id = some job) :
    (h.update id change).find? id = some (change job) := by
  unfold update
  have hmodify := Keyed.find?_modify_findIdx? hchange hfind
  revert hmodify
  cases h.jobs.findIdx? fun job => decide (job.id = id) <;> exact fun hmodify => hmodify

theorem jobs_update (hnodup : h.ids.Nodup) (id : JobId) (change : Job → Job) :
    (h.update id change).jobs = h.jobs.map fun job => if job.id = id then change job else job := by
  rw [← Keyed.modify_findIdx?_eq_map hnodup]
  unfold update
  cases h.jobs.findIdx? fun job => decide (job.id = id) <;> rfl

/-- A change is made exactly if there is a job with the identifier. -/
theorem isSome_update?_iff : (h.update? id change).isSome = true ↔ id ∈ h.ids := by
  rw [update?, Option.isSome_map, List.findIdx?_isSome, List.any_eq_true, ids, List.mem_map]
  simp only [decide_eq_true_eq]

/-- A change that leaves identifiers alone leaves them all as they are. -/
theorem ids_update (hnodup : h.ids.Nodup) (hchange : ∀ job, (change job).id = job.id) :
    (h.update id change).ids = h.ids := by
  unfold ids
  rw [jobs_update hnodup, List.map_map]
  refine List.map_congr_left fun job _ => ?_
  show (if job.id = id then change job else job).id = job.id
  split
  · exact hchange job
  · rfl

/-- The jobs after a change: the changed one, and the others. -/
theorem mem_update (hnodup : h.ids.Nodup) :
    job ∈ (h.update id change).jobs ↔
      (∃ job' ∈ h.jobs, job'.id = id ∧ job = change job') ∨ (job ∈ h.jobs ∧ job.id ≠ id) := by
  rw [jobs_update hnodup, List.mem_map]
  constructor
  · rintro ⟨job', hjob', rfl⟩
    by_cases hid : job'.id = id
    · rw [if_pos hid]
      exact .inl ⟨job', hjob', hid, rfl⟩
    · rw [if_neg hid]
      exact .inr ⟨hjob', hid⟩
  · rintro (⟨job', hjob', hid, rfl⟩ | ⟨hjob, hid⟩)
    · exact ⟨job', hjob', if_pos hid⟩
    · exact ⟨job, hjob, if_neg hid⟩

end

end History

end CatchmentPlanning
