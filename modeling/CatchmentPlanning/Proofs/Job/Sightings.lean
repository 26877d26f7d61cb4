import CatchmentPlanning.Proofs.Job.LifeCycle

/-!
# When a job that is refused can be seen

A job is put into the history before it is offered to the queue, so that the worker finds it
there, and is taken out again if the queue refuses it. In between, clients that read the history
are shown the job like any other (`refused_job_shown`).

`sightings` says how far this goes. A job that is refused can be seen from the moment it is added
to the moment it is withdrawn, and looks like a job that waits; before its client is told of the
refusal it is gone, and is never shown again. Every other job that has been shown stays until it
is purged, and only jobs that have been processed are.
-/

namespace CatchmentPlanning

namespace Interleaving

variable {s s' s₁ : State} {log more : List Event} {event : Event} {id : JobId} {job : Job}
  {capacity : Nat}

/-! ## What is shown -/

/-- **A client is shown a job**, among others or alone. -/
inductive Event.Shows : Event → Job → Prop
  | list {jobs : List Job} {job : Job} (hjob : job ∈ jobs) : Shows (.list jobs) job
  | look {job : Job} (id : JobId) : Shows (.look id (some job)) job

/-- What is shown is in the history, and showing it changes nothing. -/
theorem mem_of_shows (hstep : Step s event s') (hshows : event.Shows job) :
    job ∈ s.history.jobs ∧ s' = s := by
  cases hshows with
  | list hjob =>
    cases hstep with
    | list => exact ⟨hjob, rfl⟩
    | work hwork => cases hwork
  | look id =>
    generalize hfound : some job = found at hstep
    cases hstep with
    | look => exact ⟨List.mem_of_find?_eq_some hfound.symm, rfl⟩
    | work hwork => cases hwork

/-! ## Jobs that are withdrawn -/

/-- **A job that has been withdrawn is not in the history any more.** -/
theorem not_mem_ids_of_withdraw (hrun : Run (.initial capacity) log s)
    (hwithdraw : .withdraw id ∈ log) : id ∉ s.history.ids := by
  obtain ⟨before, after, s₁, s₂, rfl, hbefore, hmoment, hafter⟩ :=
    hrun.exists_split_of_mem hwithdraw
  have hcustody := custody_of_run hbefore
  have hgone : id ∈ s₂.issued ∧ id ∉ s₂.history.ids := by
    cases hmoment with
    | withdraw hrefused =>
      have hheld := (held_perm_of_mem hrefused).mem_iff.mpr List.mem_cons_self
      refine ⟨hcustody.issued_of_mem_held hheld, fun hmem => ?_⟩
      obtain ⟨job, hjob, hid⟩ := List.mem_map.mp hmem
      exact ((History.mem_remove hcustody.nodup_ids).mp hjob).2 hid
    | work hwork => cases hwork
  exact not_mem_ids_of_run (hbefore.snoc hmoment) hafter hgone.1 hgone.2

/-- **What the log says about the submissions that were refused**: each waits for its client to
withdraw it. -/
structure Refusals (log : List Event) (s : State) : Prop where
  refused : ∀ id fault, .refused id fault ∈ s.submissions → .refuse id fault ∈ log
  pending : ∀ id fault, .refuse id fault ∈ log →
    .refused id fault ∈ s.submissions ∨ .withdraw id ∈ log

theorem refusals_initial (capacity : Nat) : Refusals [] (.initial capacity) where
  refused _ _ h := absurd h List.not_mem_nil
  pending _ _ h := absurd h List.not_mem_nil

/-- Where nothing is refused, a refused submission stays unless it is withdrawn. -/
theorem Refusals.quiet (h : Refusals log s) (hevent : ∀ id fault, event ≠ .refuse id fault)
    (hold : ∀ id fault, .refused id fault ∈ s'.submissions → .refused id fault ∈ s.submissions)
    (hstays : ∀ id fault, .refused id fault ∈ s.submissions →
      .refused id fault ∈ s'.submissions ∨ event = .withdraw id) :
    Refusals (log ++ [event]) s' where
  refused id fault hmem := List.mem_append_left _ (h.refused id fault (hold id fault hmem))
  pending id fault hmem := by
    obtain hmem | hmem := List.mem_append.mp hmem
    · obtain hrefused | hwithdraw := h.pending id fault hmem
      · refine (hstays id fault hrefused).imp_right ?_
        rintro rfl
        exact List.mem_append_right _ (List.mem_singleton_self _)
      · exact .inr (List.mem_append_left _ hwithdraw)
    · exact absurd (List.mem_singleton.mp hmem).symm (hevent id fault)

theorem Refusals.step (h : Refusals log s) (hstep : Step s event s') :
    Refusals (log ++ [event]) s' := by
  cases hstep with
  | @refuse id fault =>
    refine ⟨fun id' fault' hmem => ?_, fun id' fault' hmem => ?_⟩
    · obtain heq | hmem := List.mem_cons.mp hmem
      · cases heq
        exact List.mem_append_right _ (List.mem_singleton_self _)
      · exact List.mem_append_left _ (h.refused id' fault' (List.mem_of_mem_erase hmem))
    · obtain hmem | hmem := List.mem_append.mp hmem
      · refine (h.pending id' fault' hmem).imp (fun hrefused => ?_) (List.mem_append_left _)
        exact List.mem_cons_of_mem _ ((List.mem_erase_of_ne (by nofun)).mpr hrefused)
      · cases List.mem_singleton.mp hmem
        exact .inl List.mem_cons_self
  | @withdraw id fault hrefused =>
    refine h.quiet nofun (fun _ _ => List.mem_of_mem_erase) fun id' fault' hmem => ?_
    by_cases hid : id' = id
    · exact .inr (congrArg _ hid.symm)
    · refine .inl ((List.mem_erase_of_ne fun heq => ?_).mpr hmem)
      cases heq
      exact hid rfl
  | add =>
    refine h.quiet nofun (fun _ _ hmem => ?_) fun _ _ hmem => .inl (List.mem_cons_of_mem _ hmem)
    exact (List.mem_cons.mp hmem).resolve_left nofun
  | enqueue =>
    exact h.quiet nofun (fun _ _ => List.mem_of_mem_erase) fun _ _ hmem =>
      .inl ((List.mem_erase_of_ne (by nofun)).mpr hmem)
  | reject | purge | list | look | shutdown =>
    exact h.quiet nofun (fun _ _ hmem => hmem) fun _ _ hmem => .inl hmem
  | work hwork =>
    refine h.quiet ?_ (fun _ _ hmem => hmem) fun _ _ hmem => .inl hmem
    rintro _ _ rfl
    cases hwork

theorem refusals_of_run (h : Run (.initial capacity) log s) : Refusals log s := by
  induction h with
  | nil => exact refusals_initial capacity
  | snoc _ hstep ih => exact ih.step hstep

/-! ## Jobs that are refused -/

/-- The job that is refused is in the history, and created, when the queue refuses it. -/
theorem exists_created_of_refuse (hcustody : Custody s) {fault : Queue.Fault}
    (hstep : Step s (.refuse id fault) s') :
    ∃ job ∈ s.history.jobs, job.id = id ∧ job.status = .created := by
  cases hstep with
  | refuse hkept =>
    exact hcustody.created id ((held_perm_of_mem hkept).mem_iff.mpr List.mem_cons_self)
  | work hwork => cases hwork

/-- **A job that is refused is a created one**, for as long as it is in the history. -/
theorem created_of_refuse (hrun : Run (.initial capacity) log s) (hmore : Run s more s')
    (hjob : job ∈ s.history.jobs) {fault : Queue.Fault}
    (hrefuse : .refuse job.id fault ∈ log ++ more) : job.status = .created := by
  have hcustody := custody_of_run hrun
  obtain hrefuse | hrefuse := List.mem_append.mp hrefuse
  · have hwithdraw : .withdraw job.id ∉ log := fun hwithdraw =>
      not_mem_ids_of_withdraw hrun hwithdraw (History.mem_ids_of_mem hjob)
    have hrefused := ((refusals_of_run hrun).pending _ _ hrefuse).resolve_right hwithdraw
    exact hcustody.created_of_mem_held hjob
      ((held_perm_of_mem hrefused).mem_iff.mpr List.mem_cons_self)
  · obtain ⟨before, after, s₁, s₂, rfl, hbefore, hmoment, -⟩ := hmore.exists_split_of_mem hrefuse
    obtain ⟨job', hjob', hid, hcreated⟩ :=
      exists_created_of_refuse (custody_of_run (hrun.append hbefore)) hmoment
    -- the job that is created then is the one of now, or that one has been created too
    obtain rfl | ⟨hnow, -⟩ := eq_or_finish_of_run hrun hbefore hjob job' hjob' hid
    · exact hcreated
    · exact hnow

/-- **Every created job has been added by its client.** -/
theorem add_mem_of_run (h : Run (.initial capacity) log s) :
    ∀ job ∈ s.history.jobs, job.status = .created → .add job.id ∈ log := by
  induction h with
  | nil => exact fun _ hjob => absurd hjob List.not_mem_nil
  | @snoc log s s' event hrun hstep ih =>
    intro job hjob hcreated
    have hnodup := (custody_of_run hrun).nodup_ids
    have hold (hjob : job ∈ s.history.jobs) : .add job.id ∈ log ++ [event] :=
      List.mem_append_left _ (ih job hjob hcreated)
    cases hstep with
    | reject _ hparse =>
      obtain rfl | hjob := History.mem_add.mp hjob
      · rw [(of_parse_new_eq_some hparse).2] at hcreated
        cases hcreated
      · exact hold hjob
    | add _ hparse =>
      obtain rfl | hjob := History.mem_add.mp hjob
      · rw [(of_parse_new_eq_none hparse).1]
        exact List.mem_append_right _ (List.mem_singleton_self _)
      · exact hold hjob
    | withdraw => exact hold ((History.mem_remove hnodup).mp hjob).1
    | purge => exact hold (History.mem_purge.mp hjob).1
    | enqueue | refuse | list | look | shutdown => exact hold hjob
    | work hwork =>
      obtain hjob | ⟨_, -, _, _, -, -, rfl⟩ := hwork.mem_or_finish hnodup hjob
      · exact hold hjob
      · exact absurd hcreated (status_finish_ne_created _ _ _)

/-! ## How a job leaves the history -/

/-- **How a job leaves the history**: it is purged as one that has been processed, or it is
withdrawn after the queue has refused it. -/
inductive Leaves (log : List Event) (id : JobId) : Event → Prop
  | purge {purged : List Job} {job : Job} (hpurged : job ∈ purged) (hid : job.id = id)
      (hprocessed : job.status.isProcessed = true) : Leaves log id (.purge purged)
  | withdraw {fault : Queue.Fault} (hrefuse : .refuse id fault ∈ log) : Leaves log id (.withdraw id)

theorem stays_or_leaves (hcustody : Custody s) (hrefusals : Refusals log s)
    (hstep : Step s event s') (hid : id ∈ s.history.ids) :
    id ∈ s'.history.ids ∨ Leaves log id event := by
  obtain ⟨job, hjob, rfl⟩ := List.mem_map.mp hid
  cases hstep with
  | reject | add => exact .inl (List.mem_cons_of_mem _ hid)
  | @withdraw id fault hrefused =>
    by_cases heq : job.id = id
    · rw [heq]
      exact .inr (.withdraw (hrefusals.refused id fault hrefused))
    · exact .inl (History.mem_ids_of_mem ((History.mem_remove hcustody.nodup_ids).mpr ⟨hjob, heq⟩))
  | purge =>
    cases hprocessed : job.status.isProcessed with
    | false => exact .inl (History.mem_ids_of_mem (History.mem_purge.mpr ⟨hjob, hprocessed⟩))
    | true => exact .inr (.purge (List.mem_filter.mpr ⟨hjob, hprocessed⟩) rfl hprocessed)
  | enqueue | refuse | list | look | shutdown => exact .inl hid
  | work hwork =>
    rw [hwork.ids_history hcustody.nodup_ids]
    exact .inl hid

/-- If a job is gone it has left at some moment, for what had happened up to then. -/
theorem stays_or_leaves_of_run (hrun : Run (.initial capacity) log s) (hmore : Run s more s')
    (hid : id ∈ s.history.ids) :
    id ∈ s'.history.ids
      ∨ ∃ before event after, more = before ++ event :: after
        ∧ Leaves (log ++ before) id event := by
  induction hmore with
  | nil => exact .inl hid
  | @snoc more s₁ s₂ event' hrun' hstep ih =>
    obtain hstays | ⟨before, event, after, rfl, hleaves⟩ := ih
    · have hbefore := hrun.append hrun'
      have hcustody := custody_of_run hbefore
      exact (stays_or_leaves hcustody (refusals_of_run hbefore) hstep hstays).imp_right
        fun hleaves => ⟨more, event', [], rfl, hleaves⟩
    · exact .inr ⟨before, event, after ++ [event'], by simp, hleaves⟩

/-! ## Sightings -/

/-- **What can be seen of a job that is refused, and how a job that has been seen goes.**
Whatever comes in between whatever: a job that is shown and that the queue refuses, before or
after, is shown as a created one, after its client has added it and before its client withdraws
it; and a job that has been shown stays in the history until it is purged as one that has been
processed, or else withdrawn, and then the queue has refused it before. -/
theorem sightings (hrun : Run (.initial capacity) log s) (hstep : Step s event s₁)
    (hshows : event.Shows job) (hmore : Run s₁ more s') :
    (∀ fault, .refuse job.id fault ∈ log ++ more →
        job.status = .created ∧ .add job.id ∈ log ∧ .withdraw job.id ∉ log)
      ∧ (job.id ∈ s'.history.ids ∨ ∃ before event after, more = before ++ event :: after
          ∧ Leaves (log ++ before) job.id event) := by
  obtain ⟨hjob, rfl⟩ := mem_of_shows hstep hshows
  have hid := History.mem_ids_of_mem hjob
  refine ⟨fun fault hrefuse => ?_, stays_or_leaves_of_run hrun hmore hid⟩
  have hcreated := created_of_refuse hrun hmore hjob hrefuse
  exact ⟨hcreated, add_mem_of_run hrun job hjob hcreated,
    fun hwithdraw => not_mem_ids_of_withdraw hrun hwithdraw hid⟩

/-- The queue is full, and a job is in the history until its client is told so. -/
theorem exists_run_full :
    ∃ log s job s', Run (.initial 1) log s ∧ job ∈ s.history.jobs
      ∧ Run s [.refuse job.id (.full 1), .withdraw job.id] s' := by
  obtain ⟨scenario, job₀, job₁, job₂, ⟨-, -, hid⟩, -, hcrowded⟩ := exists_run_crowded
  let jobs := [job₂, job₁, job₀]
  obtain ⟨s', hmore⟩ : ∃ s', Run (.crowded jobs (.running ⟨0⟩ scenario) [.kept ⟨2⟩])
      [.refuse job₂.id (.full 1), .withdraw job₂.id] s' := by
    rw [hid]
    have hrefuse : Step (.crowded jobs (.running ⟨0⟩ scenario) [.kept ⟨2⟩])
        (.refuse ⟨2⟩ (.full 1))
        (.crowded jobs (.running ⟨0⟩ scenario) [.refused ⟨2⟩ (.full 1)]) :=
      .refuse List.mem_cons_self rfl
    exact ⟨_, (Trace.single hrefuse).snoc (.withdraw List.mem_cons_self)⟩
  exact ⟨_, _, job₂, s', hcrowded, List.mem_cons_self, hmore⟩

/-- A job that is shown before the queue refuses it, and leaves when it is withdrawn. -/
theorem sightings_of_full :
    ∃ log s job s', Run (.initial 1) log s ∧ (Event.list s.history.jobs).Shows job
      ∧ Run s [.refuse job.id (.full 1), .withdraw job.id] s' ∧ job.status = .created
      ∧ .add job.id ∈ log ∧ .withdraw job.id ∉ log ∧ job.id ∉ s'.history.ids
      ∧ ∃ before event after, [.refuse job.id (.full 1), .withdraw job.id]
          = before ++ event :: after ∧ Leaves (log ++ before) job.id event := by
  obtain ⟨log, s, job, s', hrun, hjob, hmore⟩ := exists_run_full
  obtain ⟨hrefused, hleaves⟩ := sightings hrun .list (.list hjob) hmore
  obtain ⟨hcreated, hadd, hwithdraw⟩ := hrefused (.full 1) (by simp)
  have hgone : job.id ∉ s'.history.ids :=
    not_mem_ids_of_withdraw (hrun.append hmore) (by simp)
  exact ⟨log, s, job, s', hrun, .list hjob, hmore, hcreated, hadd, hwithdraw, hgone,
    hleaves.resolve_left hgone⟩

/-- **A job that is refused can be seen.** It is not so that no client is shown a job that the
queue refuses: the history is read between the moments of posting a job. -/
theorem refused_job_shown :
    ¬ ∀ (capacity : Nat) (log more : List Event) (s s₁ s' : State) (event : Event) (job : Job),
      Run (.initial capacity) log s → Step s event s₁ → event.Shows job → Run s₁ more s' →
      ∀ fault, .refuse job.id fault ∉ log ++ more := by
  intro hnever
  obtain ⟨log, s, job, s', hrun, hjob, hmore⟩ := exists_run_full
  exact hnever 1 log _ s s s' _ job hrun .list (.list hjob) hmore (.full 1) (by simp)

end Interleaving

end CatchmentPlanning
