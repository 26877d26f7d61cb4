import CatchmentPlanning.Proofs.Job.History
import CatchmentPlanning.Proofs.Job.Interleaving

/-!
# Created jobs are in one hand

However the moments of posting, purging and carrying out jobs are interleaved,
a created job is always in the hands of exactly one party (`Custody`): of the
client that is posting it, of the queue, or of the worker. And whatever one of
them holds is a created job of the history with a scenario, so the worker never
takes an identifier in vain (`Custody.not_skip`, `Custody.not_lose`).

Most moments pass a job from one hand to another (`Custody.of_perm`). What is left
are those that bring a job in (`Custody.add`), that let one go (`Custody.release`),
and the purge, which takes no created job.
-/

namespace CatchmentPlanning

namespace Interleaving

variable {s s' : State} {id : JobId}

/-! ## Jobs that have been read -/

theorem of_parse_new_eq_none {now text : String} {job : Job}
    (h : (Job.new id now text).parse now = (none, job)) :
    job.id = id ∧ job.status = .created ∧
      ∃ scenario, Job.readScenario job.text = .ok scenario ∧ job.scenario = some scenario := by
  unfold Job.parse at h
  split at h
  · rename_i scenario hread
    cases h
    exact ⟨rfl, rfl, scenario, hread, rfl⟩
  · cases h

theorem of_parse_new_eq_some {now text : String} {fault : Scenario.Fault} {job : Job}
    (h : (Job.new id now text).parse now = (some fault, job)) :
    job.id = id ∧ job.status = .invalid := by
  unfold Job.parse at h
  split at h <;> cases h
  exact ⟨rfl, rfl⟩

/-! ## Custody -/

/-- **Every created job is in somebody's hands**, and in nobody's hands twice. -/
structure Custody (s : State) : Prop where
  /-- No two jobs have one identifier. -/
  nodup_ids : s.history.ids.Nodup
  issued : ∀ id ∈ s.history.ids, id ∈ s.issued
  /-- No job is held twice. -/
  nodup_held : s.held.Nodup
  /-- What is held is a created job of the history. -/
  created : ∀ id ∈ s.held, ∃ job ∈ s.history.jobs, job.id = id ∧ job.status = .created
  /-- Every created job is held, as long as there is a worker. -/
  held : s.stage ≠ .stopped → ∀ job ∈ s.history.jobs, job.status = .created → job.id ∈ s.held
  /-- Every created job has the scenario that its text says. -/
  parsed : ∀ job ∈ s.history.jobs, job.status = .created →
    ∃ scenario, Job.readScenario job.text = .ok scenario ∧ job.scenario = some scenario

theorem custody_initial (capacity : Nat) : Custody (.initial capacity) where
  nodup_ids := List.nodup_nil
  issued _ hid := absurd hid List.not_mem_nil
  nodup_held := List.nodup_nil
  created _ hid := absurd hid List.not_mem_nil
  held _ _ hjob := absurd hjob List.not_mem_nil
  parsed _ hjob := absurd hjob List.not_mem_nil

namespace Custody

/-- A held job passes from one hand to another. -/
theorem of_perm (h : Custody s) (hhistory : s'.history = s.history)
    (hissued : s'.issued = s.issued) (hheld : s'.held.Perm s.held)
    (hstage : s.stage = .stopped → s'.stage = .stopped) : Custody s' where
  nodup_ids := hhistory ▸ h.nodup_ids
  issued := by
    rw [hhistory, hissued]
    exact h.issued
  nodup_held := hheld.nodup_iff.mpr h.nodup_held
  created := by
    rw [hhistory]
    exact fun id hid => h.created id (hheld.mem_iff.mp hid)
  held := by
    rw [hhistory]
    exact fun hs job hjob hcreated =>
      hheld.mem_iff.mpr (h.held (fun hstopped => hs (hstage hstopped)) job hjob hcreated)
  parsed := by
    rw [hhistory]
    exact h.parsed

/-- A held job has been issued before. -/
theorem issued_of_mem_held (h : Custody s) (hid : id ∈ s.held) : id ∈ s.issued := by
  obtain ⟨job, hjob, rfl, -⟩ := h.created id hid
  exact h.issued _ (History.mem_ids_of_mem hjob)

/-- A new job comes into the history, and into somebody's hands exactly if it is a
created one. -/
theorem add (h : Custody s) {job : Job} (hfresh : job.id ∉ s.issued)
    (hhistory : s'.history = s.history.add job) (hissued : s'.issued = job.id :: s.issued)
    (hheld : if job.status = .created then s'.held = job.id :: s.held else s'.held = s.held)
    (hparsed : job.status = .created →
      ∃ scenario, Job.readScenario job.text = .ok scenario ∧ job.scenario = some scenario)
    (hstage : s'.stage = s.stage) : Custody s' := by
  have hsub : ∀ id ∈ s.held, id ∈ s'.held := by
    intro id hid
    split at hheld <;> rw [hheld]
    · exact List.mem_cons_of_mem _ hid
    · exact hid
  refine ⟨?_, ?_, ?_, ?_, ?_, ?_⟩
  · rw [hhistory, History.ids_add, List.nodup_cons]
    exact ⟨fun hmem => hfresh (h.issued _ hmem), h.nodup_ids⟩
  · rw [hhistory, hissued, History.ids_add]
    intro id hid
    obtain rfl | hid := List.mem_cons.mp hid
    · exact List.mem_cons_self
    · exact List.mem_cons_of_mem _ (h.issued id hid)
  · split at hheld <;> rw [hheld]
    · exact List.nodup_cons.mpr ⟨fun hmem => hfresh (h.issued_of_mem_held hmem), h.nodup_held⟩
    · exact h.nodup_held
  · intro id hid
    have hcases : (id = job.id ∧ job.status = .created) ∨ id ∈ s.held := by
      split at hheld <;> rw [hheld] at hid
      · rename_i hcreated
        exact (List.mem_cons.mp hid).imp_left fun heq => ⟨heq, hcreated⟩
      · exact .inr hid
    rw [hhistory]
    obtain ⟨rfl, hcreated⟩ | hid := hcases
    · exact ⟨job, History.mem_add.mpr (.inl rfl), rfl, hcreated⟩
    · obtain ⟨job', hjob', hid', hcreated⟩ := h.created id hid
      exact ⟨job', History.mem_add.mpr (.inr hjob'), hid', hcreated⟩
  · intro hs job' hjob' hcreated
    rw [hhistory] at hjob'
    obtain rfl | hjob' := History.mem_add.mp hjob'
    · rw [if_pos hcreated] at hheld
      rw [hheld]
      exact List.mem_cons_self
    · exact hsub _ (h.held (hstage ▸ hs) job' hjob' hcreated)
  · intro job' hjob' hcreated
    rw [hhistory] at hjob'
    obtain rfl | hjob' := History.mem_add.mp hjob'
    · exact hparsed hcreated
    · exact h.parsed job' hjob' hcreated

/-- Whoever holds a job lets it go, and it is not a created one of the history any
more. The other jobs stay what they are. -/
theorem release (h : Custody s) (hheld : s.held.Perm (id :: s'.held))
    (hnodup : s'.history.ids.Nodup) (hsub : ∀ id' ∈ s'.history.ids, id' ∈ s.history.ids)
    (hothers : ∀ job, job.id ≠ id → (job ∈ s'.history.jobs ↔ job ∈ s.history.jobs))
    (hdone : ∀ job ∈ s'.history.jobs, job.id = id → job.status ≠ .created)
    (hissued : s'.issued = s.issued) (hstage : s.stage ≠ .stopped ∨ s'.stage = .stopped) :
    Custody s' := by
  have hnodup_held := hheld.nodup_iff.mp h.nodup_held
  rw [List.nodup_cons] at hnodup_held
  have hne : ∀ job ∈ s'.history.jobs, job.status = .created → job.id ≠ id :=
    fun job hjob hcreated hid => hdone job hjob hid hcreated
  refine ⟨hnodup, ?_, hnodup_held.2, ?_, ?_, ?_⟩
  · rw [hissued]
    exact fun id' hid' => h.issued id' (hsub id' hid')
  · intro id' hid'
    obtain ⟨job, hjob, rfl, hcreated⟩ :=
      h.created id' (hheld.mem_iff.mpr (List.mem_cons_of_mem _ hid'))
    have hid : job.id ≠ id := fun heq => hnodup_held.1 (heq ▸ hid')
    exact ⟨job, (hothers job hid).mpr hjob, rfl, hcreated⟩
  · intro hs job hjob hcreated
    have hid := hne job hjob hcreated
    have hmem := h.held (hstage.resolve_right hs) job ((hothers job hid).mp hjob) hcreated
    exact (List.mem_cons.mp (hheld.mem_iff.mp hmem)).resolve_left hid
  · intro job hjob hcreated
    exact h.parsed job ((hothers job (hne job hjob hcreated)).mp hjob) hcreated

/-- **What is held can be run**: it is found in the history, created and with the
scenario that its text says, and the worker does not pass it over. -/
theorem runnable (h : Custody s) (hid : id ∈ s.held) :
    ∃ job scenario, s.history.find? id = some job ∧ job.status = .created
      ∧ Job.readScenario job.text = .ok scenario ∧ job.scenario = some scenario
      ∧ Worker.scenario? s.history id = some scenario := by
  obtain ⟨job, hjob, hid, hcreated⟩ := h.created id hid
  obtain ⟨scenario, hread, hscenario⟩ := h.parsed job hjob hcreated
  have hfind := (History.find?_eq_some_iff h.nodup_ids).mpr ⟨hjob, hid⟩
  have hterminal : job.status.isTerminal = false := by rw [hcreated]; rfl
  refine ⟨job, scenario, hfind, hcreated, hread, hscenario, ?_⟩
  simp only [Worker.scenario?, hfind, hterminal, hscenario, Bool.false_eq_true, if_false]

end Custody

/-! ## Hands -/

theorem mem_held_of_stage (h : id ∈ s.stage.ids) : id ∈ s.held :=
  List.mem_append_right _ h

theorem mem_held_of_waiting (h : id ∈ s.queue.waiting) : id ∈ s.held :=
  List.mem_append_left _ (List.mem_append_right _ h)

/-- A submission that is held, apart from everything else. -/
theorem held_perm_of_mem {submission : Submission} (h : submission ∈ s.submissions) :
    s.held.Perm (submission.id ::
      ((s.submissions.erase submission).map Submission.id ++ s.queue.waiting ++ s.stage.ids)) :=
  (((List.perm_cons_erase h).map _).append_right _).append_right _

/-- What the queue takes passes from the client to the queue. -/
theorem held_perm_enqueue {queue : Queue} (hkept : .kept id ∈ s.submissions)
    (hqueue : s.queue.enqueue id = .ok queue) :
    ((s.submissions.erase (.kept id)).map Submission.id ++ queue.waiting ++ s.stage.ids).Perm
      s.held := by
  obtain ⟨-, -, rfl⟩ := Queue.enqueue_eq_ok_iff.mp hqueue
  refine .trans ?_ (held_perm_of_mem hkept).symm
  rw [← List.append_assoc, List.append_assoc _ [id]]
  exact List.perm_middle

/-- What the worker takes passes from the queue to the worker. -/
theorem held_perm_take {queue : Queue} (hready : s.stage = .ready)
    (hqueue : s.queue.take? = some (id, queue)) :
    (s.submissions.map Submission.id ++ queue.waiting ++ [id]).Perm s.held := by
  obtain ⟨rest, hwaiting, rfl⟩ := Queue.take?_eq_some_iff.mp hqueue
  unfold State.held
  rw [hwaiting, hready]
  show (_ ++ rest ++ [id]).Perm (_ ++ id :: rest ++ [])
  rw [List.append_nil, List.append_assoc]
  exact (List.perm_append_singleton id rest).append_left _

/-- The worker keeps the job it has. -/
theorem held_perm_stage {stage : Stage} (h : stage.ids = s.stage.ids) :
    ({ s with stage } : State).held.Perm s.held := by
  unfold State.held
  rw [h]

/-- What the worker lets go of. -/
theorem held_perm_write (hstage : s.stage.ids = [id]) :
    s.held.Perm (id :: (s.submissions.map Submission.id ++ s.queue.waiting ++ [])) := by
  unfold State.held
  rw [hstage, List.append_nil]
  exact List.perm_append_singleton id _

/-! ## Each moment keeps the jobs in somebody's hands -/

theorem Custody.stop (h : Custody s) : Custody
    { s with queue := s.queue.dismiss, stage := .stopped } := by
  have hsub : ∀ id ∈ s.submissions.map Submission.id ++ [] ++ [], id ∈ s.held := by
    intro id hid
    rw [List.append_nil, List.append_nil] at hid
    exact List.mem_append_left _ (List.mem_append_left _ hid)
  refine ⟨h.nodup_ids, h.issued, ?_, fun id hid => h.created id (hsub id hid), ?_, h.parsed⟩
  · show (s.submissions.map Submission.id ++ [] ++ []).Nodup
    rw [List.append_nil, List.append_nil]
    exact ((List.nodup_append.mp (List.nodup_append.mp h.nodup_held).1)).1
  · exact fun hs => absurd rfl hs

theorem Custody.purge (h : Custody s) : Custody { s with history := s.history.purge.2 } := by
  have hkept : ∀ job ∈ s.history.jobs, job.status = .created → job ∈ s.history.purge.2.jobs := by
    intro job hjob hcreated
    rw [History.mem_purge, hcreated]
    exact ⟨hjob, rfl⟩
  have hsub : ∀ job ∈ s.history.purge.2.jobs, job ∈ s.history.jobs :=
    fun job hjob => (History.mem_purge.mp hjob).1
  refine ⟨History.nodup_ids_purge h.nodup_ids, ?_, h.nodup_held, ?_, ?_, ?_⟩
  · intro id hid
    exact h.issued id ((List.filter_sublist.map _).subset hid)
  · intro id hid
    obtain ⟨job, hjob, heq, hcreated⟩ := h.created id hid
    exact ⟨job, hkept job hjob hcreated, heq, hcreated⟩
  · exact fun hs job hjob => h.held hs job (hsub job hjob)
  · exact fun job hjob => h.parsed job (hsub job hjob)

/-- Writing the outcome of a run ends the job. -/
theorem status_finish_ne_created (job : Job) (now : String)
    (result : Except Annealing.Fault Annealing.Outcome) :
    (job.finish now result).status ≠ .created := by
  cases result <;> exact nofun

theorem Custody.write (h : Custody s) {result : Except Annealing.Fault Annealing.Outcome}
    (hended : s.stage = .ended id result) (now : String) :
    Custody { s with history := s.history.update id (·.finish now result), stage := .idle } := by
  have hids : (s.history.update id (·.finish now result)).ids = s.history.ids :=
    History.ids_update h.nodup_ids fun job => Job.id_finish job now result
  have hstage : s.stage.ids = [id] := by rw [hended]; rfl
  refine h.release (held_perm_write hstage) (hids ▸ h.nodup_ids) (fun id' => ?_)
    (fun job hne => ?_) (fun job hjob heq => ?_) rfl (.inl ?_)
  · rw [hids]
    exact fun h => h
  · rw [History.mem_update h.nodup_ids]
    constructor
    · rintro (⟨job', -, hid, rfl⟩ | ⟨hjob, -⟩)
      · exact absurd (by rw [Job.id_finish, hid]) hne
      · exact hjob
    · exact fun hjob => .inr ⟨hjob, hne⟩
  · obtain ⟨job', -, -, rfl⟩ | ⟨-, hne⟩ := (History.mem_update h.nodup_ids).mp hjob
    · exact status_finish_ne_created job' now result
    · exact absurd heq hne
  · rw [hended]
    exact nofun

/-- **The worker passes no job over**: the job that it has taken can be run. -/
theorem Custody.not_skip (h : Custody s) {desk : Desk} : ¬ Work s.toDesk (.skip id) desk := by
  intro hwork
  cases hwork with
  | skip htaken hnone =>
    have hid : id ∈ s.stage.ids := by rw [htaken]; exact List.mem_singleton_self id
    obtain ⟨_, _, _, _, _, _, hscenario⟩ := h.runnable (mem_held_of_stage hid)
    rw [hnone] at hscenario
    cases hscenario

/-- **The worker loses no outcome**: the job that it has run is still there. -/
theorem Custody.not_lose (h : Custody s) {desk : Desk} : ¬ Work s.toDesk (.lose id) desk := by
  intro hwork
  cases hwork with
  | lose hended hlost =>
    have hid : id ∈ s.stage.ids := by rw [hended]; exact List.mem_singleton_self id
    obtain ⟨_, _, hfind, _⟩ := h.runnable (mem_held_of_stage hid)
    rw [hlost] at hfind
    cases hfind

/-- A moment in which the worker keeps the job it has, if any. -/
theorem Custody.of_stage (h : Custody s) {stage : Stage} (hids : stage.ids = s.stage.ids)
    (hstopped : s.stage ≠ .stopped) : Custody { s with stage } :=
  h.of_perm rfl rfl (held_perm_stage hids) fun hs => absurd hs hstopped

/-- **One moment of the worker keeps every created job in somebody's hands.** -/
theorem Custody.work (h : Custody s) {event : Event} {desk : Desk}
    (hwork : Work s.toDesk event desk) : Custody { s with toDesk := desk } := by
  cases hwork with
  | proceed hidle => exact h.of_stage (by rw [hidle]; rfl) (by rw [hidle]; nofun)
  | wait hready => exact h.of_stage (by rw [hready]; rfl) (by rw [hready]; nofun)
  | take hready hqueue =>
    refine h.of_perm rfl rfl (held_perm_take hready hqueue) fun hs => ?_
    rw [hready] at hs
    cases hs
  | skip htaken hnone => exact absurd (.skip htaken hnone) h.not_skip
  | start htaken => exact h.of_stage (by rw [htaken]; rfl) (by rw [htaken]; nofun)
  | finish hrunning => exact h.of_stage (by rw [hrunning]; rfl) (by rw [hrunning]; nofun)
  | write hended _ => exact h.write hended _
  | lose hended hlost => exact absurd (.lose hended hlost) h.not_lose
  | stop => exact h.stop

/-- **One moment keeps every created job in somebody's hands.** -/
theorem Custody.step (h : Custody s) {event : Event} (hstep : Step s event s') : Custody s' := by
  cases hstep with
  | @reject id now text fault job hfresh hjob =>
    obtain ⟨rfl, hinvalid⟩ := of_parse_new_eq_some hjob
    have hne : job.status ≠ .created := by rw [hinvalid]; decide
    exact h.add hfresh rfl rfl (by rw [if_neg hne]; rfl) (fun hc => absurd hc hne) rfl
  | add hfresh hjob =>
    obtain ⟨rfl, hcreated, hparsed⟩ := of_parse_new_eq_none hjob
    exact h.add hfresh rfl rfl (by rw [if_pos hcreated]; rfl) (fun _ => hparsed) rfl
  | enqueue hkept hqueue => exact h.of_perm rfl rfl (held_perm_enqueue hkept hqueue) id
  | refuse hkept hqueue => exact h.of_perm rfl rfl (held_perm_of_mem hkept).symm id
  | withdraw hrefused =>
    refine h.release (held_perm_of_mem hrefused) (History.nodup_ids_remove h.nodup_ids _) ?_
      (fun job hne => ?_) (fun job hjob heq => ?_) rfl ?_
    · exact fun id' hid' => (List.eraseP_sublist.map _).subset hid'
    · rw [History.mem_remove h.nodup_ids]
      exact and_iff_left hne
    · exact absurd heq ((History.mem_remove h.nodup_ids).mp hjob).2
    · exact (Classical.em _).symm
  | purge => exact h.purge
  | list | look => exact h
  | shutdown => exact h.of_perm rfl rfl (.refl _) id
  | work hwork => exact h.work hwork

/-- **Every created job is in somebody's hands at any moment.** -/
theorem custody_of_run {capacity : Nat} {log : List Event} (h : Run (.initial capacity) log s) :
    Custody s := by
  induction h with
  | nil => exact custody_initial capacity
  | snoc _ hstep ih => exact ih.step hstep

end Interleaving

end CatchmentPlanning
