import CatchmentPlanning.Proofs.Job.History
import Mathlib.Data.List.Nodup

/-!
# The history accounts for every job

A history is used in six ways: a job is added, looked up, changed or taken out, all jobs are
listed, and those that have been processed are purged. `Step` is one use with what it answers, and
a `Run` is any sequence of uses of a history that starts out empty.

What a history holds can be told from what was asked of it and answered. It lists the jobs that
were added and have not left since, the latest first, each as the changes that reached it have left
it (`Accounts`). Every use keeps to that (`Accounts.step`) as long as no identifier is given to two
jobs and no change touches one. A job that has left was added, and has left once, so that every job
is either listed or has been handed out by a removal or a purge.

What one use does and answers is said by `Event.Exact`, and everything else follows from it.
-/

namespace CatchmentPlanning

namespace History

/-! ## Uses of a history -/

/-- A use of a history, with what it answers. -/
inductive Event where
  | add (job : Job)
  | find (id : JobId) (found : Option Job)
  | list (jobs : List Job)
  | update (id : JobId) (change : Job → Job) (found : Bool)
  | remove (id : JobId) (removed : Option Job)
  | purge (purged : List Job)

/-- **One use of a history.** -/
inductive Step (h : History) : Event → History → Prop
  | add {job : Job} : Step h (.add job) (h.add job)
  | find {id : JobId} : Step h (.find id (h.find? id)) h
  | list : Step h (.list h.jobs) h
  | update {id : JobId} {change : Job → Job} :
      Step h (.update id change (h.update? id change).isSome) ((h.update? id change).getD h)
  | remove {id : JobId} :
      Step h (.remove id ((h.remove? id).map (·.1))) (((h.remove? id).map (·.2)).getD h)
  | purge : Step h (.purge h.purge.1) h.purge.2

/-- **One use after the other** of a history that starts out empty. -/
inductive Run : List Event → History → Prop
  | nil : Run [] .empty
  | snoc {log : List Event} {h h' : History} {event : Event} (hrun : Run log h)
      (hstep : Step h event h') : Run (log ++ [event]) h'

namespace Event

/-- **What a use does and answers**, said of the jobs before and after it. -/
def Exact (h h' : History) : Event → Prop
  | add job => h'.jobs = job :: h.jobs
  | find id found =>
    (∀ job, found = some job ↔ job ∈ h.jobs ∧ job.id = id) ∧ (found = none ↔ id ∉ h.ids) ∧ h' = h
  | list jobs => jobs = h.jobs ∧ h' = h
  | update id change found =>
    (found = true ↔ id ∈ h.ids)
      ∧ h'.jobs = h.jobs.map fun job => if job.id = id then change job else job
  | remove id removed =>
    (∀ job, removed = some job ↔ job ∈ h.jobs ∧ job.id = id) ∧ (removed = none ↔ id ∉ h.ids)
      ∧ h'.jobs = h.jobs.filter fun job => job.id ≠ id
  | purge purged =>
    purged = (h.jobs.filter fun job => job.status = .completed ∨ job.status = .invalid)
      ∧ h'.jobs = h.jobs.filter fun job => ¬(job.status = .completed ∨ job.status = .invalid)

/-- The job that is added, if any. -/
def added : Event → List Job
  | add job => [job]
  | _ => []

/-- The jobs that leave the history. -/
def gone : Event → List JobId
  | remove _ removed => removed.toList.map (·.id)
  | purge purged => purged.map (·.id)
  | _ => []

/-- What the use makes of a job that stays. -/
def revise : Event → Job → Job
  | update id change true, job => if job.id = id then change job else job
  | _, job => job

/-- A change leaves identifiers alone. -/
def KeepsIds : Event → Prop
  | update _ change _ => ∀ job, (change job).id = job.id
  | _ => True

end Event

/-- The jobs that have been added, the earliest first. -/
def added (log : List Event) : List Job := log.flatMap Event.added

/-- The jobs that have been taken out or purged. -/
def gone (log : List Event) : List JobId := log.flatMap Event.gone

/-- What the changes that reached a job have made of it. -/
def revised (log : List Event) (job : Job) : Job :=
  log.foldl (fun job event => event.revise job) job

variable {log : List Event} {h h' : History} {event : Event} {job : Job}

/-! ## What one use does -/

/-- **Every use is exact**, as long as no two jobs have one identifier. -/
theorem Step.exact (hstep : Step h event h') (hnodup : h.ids.Nodup) : event.Exact h h' := by
  cases hstep with
  | add => exact rfl
  | find => exact ⟨fun _ => find?_eq_some_iff hnodup, find?_eq_none_iff, rfl⟩
  | list => exact ⟨rfl, rfl⟩
  | update => exact ⟨isSome_update?_iff, by rw [getD_update?, jobs_update hnodup]⟩
  | remove =>
    rw [map_fst_remove?, getD_remove?]
    exact ⟨fun _ => find?_eq_some_iff hnodup, find?_eq_none_iff, Keyed.eraseP_eq_filter hnodup _⟩
  | purge =>
    have hprocessed (status : Job.Status) :
        status.isProcessed = decide (status = .completed ∨ status = .invalid) := by
      rw [Job.Status.isProcessed, Bool.decide_or]
    refine ⟨List.filter_congr fun job _ => hprocessed _, List.filter_congr fun job _ => ?_⟩
    rw [hprocessed, decide_not]

namespace Event

theorem id_revise (h : event.KeepsIds) (job : Job) : (event.revise job).id = job.id := by
  unfold revise
  split
  · split
    · exact h job
    · rfl
  · rfl

namespace Exact

/-- Jobs leave from among those that are there, and each once. -/
theorem gone_sublist (hexact : event.Exact h h') : event.gone.Sublist h.ids := by
  cases event with
  | remove id removed =>
    cases removed with
    | none => exact List.nil_sublist _
    | some job => exact List.singleton_sublist.mpr (mem_ids_of_mem ((hexact.1 job).mp rfl).1)
  | purge purged =>
    rw [gone, hexact.1]
    exact List.filter_sublist.map _
  | add | find | list | update => exact List.nil_sublist _

/-- A job that is not there is not changed. -/
theorem revise_of_notMem (hexact : event.Exact h h') (hjob : job.id ∉ h.ids) :
    event.revise job = job := by
  cases event with
  | update id change found =>
    cases found with
    | false => rfl
    | true => exact if_neg fun heq : job.id = id => hjob (heq ▸ hexact.1.mp rfl)
  | add | find | list | remove | purge => rfl

/-- **The jobs after a use**: one that is added comes first, and of the others those that do not
leave follow in order. -/
theorem jobs_eq (hexact : event.Exact h h') (hnodup : h.ids.Nodup) :
    h'.jobs = event.added ++ (h.jobs.filter fun job => job.id ∉ event.gone).map event.revise := by
  have hstay : (h.jobs.filter fun job => job.id ∉ ([] : List JobId)).map (fun job => job)
      = h.jobs := by
    rw [List.map_id', List.filter_eq_self.mpr fun _ _ => decide_eq_true List.not_mem_nil]
  cases event with
  | add job => exact hexact.trans (congrArg (job :: ·) hstay.symm)
  | find id found => exact (congrArg jobs hexact.2.2).trans hstay.symm
  | list jobs => exact (congrArg _ hexact.2).trans hstay.symm
  | update id change found =>
    rw [hexact.2]
    cases found with
    | true =>
      rw [List.map_id'] at hstay
      exact congrArg (List.map _) hstay.symm
    | false =>
      have hid : id ∉ h.jobs.map (·.id) := fun hmem => nomatch hexact.1.mpr hmem
      rw [Keyed.map_ite_of_notMem hid]
      exact hstay.symm
  | remove id removed =>
    rw [hexact.2.2]
    refine (List.filter_congr fun job hjob => ?_).trans (List.map_id' _).symm
    cases removed with
    | none =>
      have hid : id ∉ h.ids := hexact.2.1.mp rfl
      have hne : job.id ≠ id := fun heq => hid (heq ▸ mem_ids_of_mem hjob)
      exact (decide_eq_true hne).trans (decide_eq_true List.not_mem_nil).symm
    | some job' =>
      obtain ⟨-, rfl⟩ := (hexact.1 job').mp rfl
      exact decide_eq_decide.mpr (not_congr List.mem_singleton.symm)
  | purge purged =>
    rw [hexact.2]
    refine (List.filter_congr fun job hjob => ?_).trans (List.map_id' _).symm
    refine decide_eq_decide.mpr (not_congr ?_)
    rw [gone, hexact.1, List.mem_map]
    constructor
    · exact fun hprocessed => ⟨job, List.mem_filter.mpr ⟨hjob, decide_eq_true hprocessed⟩, rfl⟩
    · rintro ⟨job', hjob', hid⟩
      obtain ⟨hmem, hprocessed⟩ := List.mem_filter.mp hjob'
      obtain rfl := eq_of_id_eq hnodup hjob hmem hid
      exact of_decide_eq_true hprocessed

end Exact

end Event

/-! ## What a sequence of uses comes to -/

theorem added_snoc (log : List Event) (event : Event) :
    added (log ++ [event]) = added log ++ event.added := by
  simp [added]

theorem gone_snoc (log : List Event) (event : Event) :
    gone (log ++ [event]) = gone log ++ event.gone := by
  simp [gone]

theorem revised_snoc (log : List Event) (event : Event) (job : Job) :
    revised (log ++ [event]) job = event.revise (revised log job) := by
  simp [revised]

theorem id_revised (hkeeps : ∀ event ∈ log, event.KeepsIds) (job : Job) :
    (revised log job).id = job.id := by
  induction log generalizing job with
  | nil => rfl
  | cons event log ih =>
    obtain ⟨hevent, hlog⟩ := List.forall_mem_cons.mp hkeeps
    exact (ih hlog _).trans (Event.id_revise hevent job)

/-- **What a history holds after the uses of a log.** -/
structure Accounts (log : List Event) (h : History) : Prop where
  /-- It lists the jobs that were added and have not left, the latest first, each as its changes
  have left it. -/
  jobs : h.jobs = ((added log).filter fun job => job.id ∉ gone log).reverse.map (revised log)
  /-- What has left was added. -/
  gone_subset : gone log ⊆ (added log).map (·.id)
  /-- It has left once. -/
  nodup_gone : (gone log).Nodup
  /-- No change has reached a job that was not there yet. -/
  revised_of_notMem : ∀ job, job.id ∉ (added log).map (·.id) → revised log job = job

theorem accounts_nil : Accounts [] .empty where
  jobs := rfl
  gone_subset := List.nil_subset _
  nodup_gone := List.nodup_nil
  revised_of_notMem _ _ := rfl

namespace Accounts

/-- The identifiers of the jobs that are listed. -/
theorem ids_eq (haccounts : Accounts log h) (hkeeps : ∀ event ∈ log, event.KeepsIds) :
    h.ids = (((added log).map (·.id)).filter fun id => id ∉ gone log).reverse := by
  rw [ids, haccounts.jobs, List.map_map, List.filter_map, ← List.map_reverse]
  exact List.map_congr_left fun job _ => id_revised hkeeps job

theorem mem_ids_iff (haccounts : Accounts log h) (hkeeps : ∀ event ∈ log, event.KeepsIds)
    {id : JobId} : id ∈ h.ids ↔ id ∈ (added log).map (·.id) ∧ id ∉ gone log := by
  rw [haccounts.ids_eq hkeeps, List.mem_reverse, List.mem_filter, decide_eq_true_iff]

theorem nodup_ids (haccounts : Accounts log h) (hkeeps : ∀ event ∈ log, event.KeepsIds)
    (hfresh : ((added log).map (·.id)).Nodup) : h.ids.Nodup := by
  rw [haccounts.ids_eq hkeeps, List.nodup_reverse]
  exact hfresh.filter _

/-- **Every job is listed or has left**, and not both. -/
theorem perm (haccounts : Accounts log h) (hkeeps : ∀ event ∈ log, event.KeepsIds)
    (hfresh : ((added log).map (·.id)).Nodup) :
    ((added log).map (·.id)).Perm (h.ids ++ gone log) := by
  have hnodup : (h.ids ++ gone log).Nodup :=
    List.nodup_append'.mpr ⟨haccounts.nodup_ids hkeeps hfresh, haccounts.nodup_gone,
      fun id hid => ((haccounts.mem_ids_iff hkeeps).mp hid).2⟩
  refine (List.perm_ext_iff_of_nodup hfresh hnodup).mpr fun id => ?_
  rw [List.mem_append, haccounts.mem_ids_iff hkeeps]
  constructor
  · intro hid
    by_cases hgone : id ∈ gone log
    · exact .inr hgone
    · exact .inl ⟨hid, hgone⟩
  · rintro (⟨hid, -⟩ | hgone)
    · exact hid
    · exact haccounts.gone_subset hgone

/-- Of the jobs that were added those that stay on are listed, with what the use makes of them. -/
theorem stay (haccounts : Accounts log h) (hkeeps : ∀ event ∈ log, event.KeepsIds)
    (event : Event) :
    (h.jobs.filter fun job => job.id ∉ event.gone).map event.revise
      = ((added log).filter fun job => job.id ∉ gone (log ++ [event])).reverse.map
          (revised (log ++ [event])) := by
  have hrevised : event.revise ∘ revised log = revised (log ++ [event]) :=
    funext fun job => (revised_snoc log event job).symm
  rw [haccounts.jobs, List.filter_map, List.map_map, hrevised, List.filter_reverse,
    List.filter_filter, gone_snoc]
  congr 2
  refine List.filter_congr fun job _ => ?_
  simp [id_revised hkeeps, Bool.and_comm]

/-- **Every use keeps the accounts.** -/
theorem step (haccounts : Accounts log h) (hstep : Step h event h')
    (hfresh : ((added (log ++ [event])).map (·.id)).Nodup)
    (hkeeps : ∀ event ∈ log, event.KeepsIds) : Accounts (log ++ [event]) h' := by
  rw [added_snoc, List.map_append] at hfresh
  obtain ⟨hfreshLog, -, hnew⟩ := List.nodup_append'.mp hfresh
  have hnodup := haccounts.nodup_ids hkeeps hfreshLog
  have hexact := hstep.exact hnodup
  have hgone {id : JobId} (hid : id ∈ event.gone) :
      id ∈ (added log).map (·.id) ∧ id ∉ gone log :=
    (haccounts.mem_ids_iff hkeeps).mp (hexact.gone_sublist.subset hid)
  refine ⟨?_, ?_, ?_, fun job hjob => ?_⟩
  · rw [hexact.jobs_eq hnodup, haccounts.stay hkeeps, added_snoc, List.filter_append,
      List.reverse_append, List.map_append]
    congr 1
    cases event with
    | add job =>
      -- the job that is added was not there, so that it has not left and no change has reached it
      have hnot : job.id ∉ (added log).map (·.id) := fun hmem => hnew hmem List.mem_cons_self
      have hstays : job.id ∉ gone (log ++ [.add job]) := by
        rw [show gone (log ++ [.add job]) = gone log ++ [] from gone_snoc .., List.append_nil]
        exact fun hmem => hnot (haccounts.gone_subset hmem)
      have hlisted : ([job].filter fun job' => job'.id ∉ gone (log ++ [.add job])) = [job] :=
        List.filter_eq_self.mpr (List.forall_mem_singleton.mpr (decide_eq_true hstays))
      show [job] = ([job].filter _).reverse.map _
      rw [hlisted]
      show [job] = [revised (log ++ [.add job]) job]
      rw [revised_snoc, haccounts.revised_of_notMem job hnot]
      rfl
    | find | list | update | remove | purge => rfl
  · rw [gone_snoc, added_snoc, List.map_append]
    refine List.append_subset.mpr ⟨fun id hid => ?_, fun id hid => ?_⟩
    · exact List.mem_append_left _ (haccounts.gone_subset hid)
    · exact List.mem_append_left _ (hgone hid).1
  · rw [gone_snoc]
    exact List.nodup_append'.mpr ⟨haccounts.nodup_gone, hnodup.sublist hexact.gone_sublist,
      fun id hid hid' => (hgone hid').2 hid⟩
  · rw [added_snoc, List.map_append, List.mem_append, not_or] at hjob
    rw [revised_snoc, haccounts.revised_of_notMem job hjob.1]
    exact hexact.revise_of_notMem fun hid => hjob.1 ((haccounts.mem_ids_iff hkeeps).mp hid).1

end Accounts

theorem accounts_of_run (hrun : Run log h) (hfresh : ((added log).map (·.id)).Nodup)
    (hkeeps : ∀ event ∈ log, event.KeepsIds) : Accounts log h := by
  induction hrun with
  | nil => exact accounts_nil
  | @snoc log _ _ event _ hstep ih =>
    have hlog : ∀ event ∈ log, event.KeepsIds :=
      fun event hevent => hkeeps event (List.mem_append_left _ hevent)
    refine (ih ?_ hlog).step hstep hfresh hlog
    rw [added_snoc, List.map_append] at hfresh
    exact hfresh.of_append_left

/-- **The history keeps order and accounts for every job.** After any sequence of uses in which
every job has an identifier of its own and changes leave identifiers alone, the history lists
exactly the jobs that were added and neither taken out nor purged, each once, in reverse order of
their adding, and each as the changes that reached it have left it. Every job that was added is
either listed or has left once. Whatever use comes next does and answers exactly what is asked:
looking up and changing reach the job with the identifier and no other, and find nothing exactly if
there is none; a purge hands out the jobs that are completed or invalid and keeps the others, all
of them in order. -/
theorem every_job_accounted_for (hrun : Run log h) (hfresh : ((added log).map (·.id)).Nodup)
    (hkeeps : ∀ event ∈ log, event.KeepsIds) :
    h.jobs = ((added log).filter fun job => job.id ∉ gone log).reverse.map (revised log)
      ∧ h.ids.Nodup
      ∧ ((added log).map (·.id)).Perm (h.ids ++ gone log)
      ∧ ∀ event h', Step h event h' → event.Exact h h' := by
  have haccounts := accounts_of_run hrun hfresh hkeeps
  have hnodup := haccounts.nodup_ids hkeeps hfresh
  exact ⟨haccounts.jobs, hnodup, haccounts.perm hkeeps hfresh, fun _ _ hstep => hstep.exact hnodup⟩

/-- Of three jobs the first fails and the second is completed, and then purged; a change of a job
that is not there reaches none of them. -/
theorem every_job_accounted_for_past_purge :
    ∃ log h, Run log h ∧ (added log).map (·.id) = [⟨0⟩, ⟨1⟩, ⟨2⟩]
      ∧ (∀ event ∈ log, event.KeepsIds) ∧ gone log = [⟨1⟩]
      ∧ (h.jobs.map fun job => (job.id, job.status)) = [(⟨2⟩, .created), (⟨0⟩, .errored)]
      ∧ h.jobs = ((added log).filter fun job => job.id ∉ gone log).reverse.map (revised log)
      ∧ ((added log).map (·.id)).Perm (h.ids ++ gone log)
      ∧ Event.Exact h h.purge.2 (.purge h.purge.1) := by
  let a := Job.new ⟨0⟩ "" "A"
  let b := Job.new ⟨1⟩ "" "B"
  let c := Job.new ⟨2⟩ "" "C"
  let become (status : Job.Status) (job : Job) : Job := { job with status }
  let log : List Event := [.add a, .add b, .update ⟨2⟩ (become .completed) false, .add c,
    .update ⟨0⟩ (become .errored) true, .update ⟨1⟩ (become .completed) true,
    .purge [become .completed b], .find ⟨1⟩ none]
  have hrun : Run log ⟨[c, become .errored a]⟩ :=
    Run.nil.snoc .add |>.snoc .add |>.snoc .update |>.snoc .add |>.snoc .update |>.snoc .update
      |>.snoc .purge |>.snoc .find
  have hkeeps : ∀ event ∈ log, event.KeepsIds := by
    simp [log, Event.KeepsIds, become]
  obtain ⟨hjobs, -, hperm, hexact⟩ := every_job_accounted_for hrun (by decide) hkeeps
  exact ⟨log, _, hrun, rfl, hkeeps, rfl, rfl, hjobs, hperm, hexact _ _ .purge⟩

end History

end CatchmentPlanning
