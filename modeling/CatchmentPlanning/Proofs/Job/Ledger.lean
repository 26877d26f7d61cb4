import CatchmentPlanning.Proofs.Job.Custody

/-!
# In which order jobs are carried out

What has happened to the jobs that the queue has taken is read off the log of a
run. They are carried out one after the other in the order in which the queue has
taken them: those whose outcome has been written come first, then the one the
worker has, then those that wait, then those that were lost when the worker went
(`Ledger`).

As the queue takes no job twice (`Submitted`), each job that it takes is run once,
and this before its outcome is written. `no_job_lost` says so together with who
holds which job.
-/

namespace CatchmentPlanning

namespace Interleaving

/-! ## What the log says -/

/-- The job that the queue takes. -/
def Event.enqueued? : Event → Option JobId
  | .enqueue id => some id
  | _ => none

/-- The job that the worker begins to run. -/
def Event.started? : Event → Option JobId
  | .start id _ => some id
  | _ => none

/-- The job whose outcome is written. -/
def Event.written? : Event → Option JobId
  | .write id => some id
  | _ => none

/-- The jobs that are lost. -/
def Event.lost : Event → List JobId
  | .stop lost => lost
  | _ => []

/-- The jobs that the queue has taken, in order. -/
def enqueued (log : List Event) : List JobId := log.filterMap Event.enqueued?

/-- The jobs that the worker has begun to run, in order. -/
def started (log : List Event) : List JobId := log.filterMap Event.started?

/-- The jobs whose outcome has been written, in order. -/
def written (log : List Event) : List JobId := log.filterMap Event.written?

/-- The jobs that were lost when the worker went, in order. -/
def lost (log : List Event) : List JobId := log.flatMap Event.lost

section

variable (log : List Event) (event : Event)

/-- What is read off a log that goes on. -/
theorem filterMap_snoc {α : Type} (read : Event → Option α) :
    (log ++ [event]).filterMap read = log.filterMap read ++ (read event).toList := by
  rw [List.filterMap_append, List.filterMap_cons]
  cases read event <;> rfl

@[simp] theorem enqueued_snoc :
    enqueued (log ++ [event]) = enqueued log ++ event.enqueued?.toList :=
  filterMap_snoc ..

@[simp] theorem started_snoc :
    started (log ++ [event]) = started log ++ event.started?.toList :=
  filterMap_snoc ..

@[simp] theorem written_snoc :
    written (log ++ [event]) = written log ++ event.written?.toList :=
  filterMap_snoc ..

@[simp] theorem lost_snoc : lost (log ++ [event]) = lost log ++ event.lost := by
  rw [lost, List.flatMap_append, List.flatMap_singleton]
  rfl

end

variable {s s' : State} {log : List Event} {event : Event} {id : JobId}

theorem mem_enqueued : id ∈ enqueued log ↔ .enqueue id ∈ log := by
  rw [enqueued, List.mem_filterMap]
  constructor
  · rintro ⟨event, hmem, h⟩
    cases event <;> cases h
    exact hmem
  · exact fun hmem => ⟨_, hmem, rfl⟩

/-! ## The ledger -/

/-- **The order in which jobs pass through the worker.** -/
structure Ledger (log : List Event) (s : State) : Prop where
  enqueued : enqueued log = written log ++ s.stage.ids ++ s.queue.waiting ++ lost log
  started : started log = written log ++ s.stage.underWay
  /-- Nothing has been lost as long as there is a worker. -/
  lost : s.stage ≠ .stopped → lost log = []
  /-- No job waits for a worker that is gone. -/
  stopped : s.stage = .stopped → s.queue.hasWorker = false ∧ s.queue.waiting = []

theorem ledger_initial (capacity : Nat) : Ledger [] (.initial capacity) where
  enqueued := rfl
  started := rfl
  lost _ := rfl
  stopped h := nomatch h

/-- What neither the queue nor the worker has a part in leaves the ledger as it
is. -/
theorem Ledger.quiet (h : Ledger log s) (henqueued : event.enqueued? = none)
    (hstarted : event.started? = none) (hwritten : event.written? = none)
    (hlost : event.lost = []) (hstage : s'.stage = s.stage) (hqueue : s'.queue = s.queue) :
    Ledger (log ++ [event]) s' where
  enqueued := by
    rw [enqueued_snoc, written_snoc, lost_snoc, henqueued, hwritten, hlost, hstage, hqueue,
      h.enqueued]
    simp
  started := by
    rw [started_snoc, written_snoc, hstarted, hwritten, hstage, h.started]
    simp
  lost := by
    rw [lost_snoc, hlost, hstage, List.append_nil]
    exact h.lost
  stopped := by
    rw [hstage, hqueue]
    exact h.stopped

/-- What passes a job on, from the queue or to the history, keeps the ledger. -/
theorem Ledger.pass (h : Ledger log s) {stage : Stage} (hs : s.stage = stage)
    (hstage : stage ≠ .stopped) (hstage' : s'.stage ≠ .stopped) (hlost : event.lost = [])
    (henqueued : stage.ids ++ s.queue.waiting ++ event.enqueued?.toList
      = event.written?.toList ++ s'.stage.ids ++ s'.queue.waiting)
    (hstarted : stage.underWay ++ event.started?.toList
      = event.written?.toList ++ s'.stage.underWay) :
    Ledger (log ++ [event]) s' where
  enqueued := by
    rw [enqueued_snoc, written_snoc, lost_snoc, h.enqueued, hlost, h.lost (hs ▸ hstage), hs]
    rw [List.append_nil, List.append_nil, List.append_assoc, List.append_assoc,
      ← List.append_assoc stage.ids, henqueued]
    simp
  started := by
    rw [started_snoc, written_snoc, h.started, hs, List.append_assoc, hstarted]
    simp
  lost _ := by rw [lost_snoc, h.lost (hs ▸ hstage), hlost, List.append_nil]
  stopped hs := absurd hs hstage'

/-- **One moment of the worker keeps the ledger.** -/
theorem Ledger.work (h : Ledger log s) (hcustody : Custody s) {desk : Desk}
    (hwork : Work s.toDesk event desk) : Ledger (log ++ [event]) { s with toDesk := desk } := by
  cases hwork with
  | proceed hidle => exact h.pass hidle nofun nofun rfl (List.append_nil _) rfl
  | wait hready => exact h.pass hready nofun nofun rfl (List.append_nil _) rfl
  | take hready hqueue =>
    obtain ⟨rest, hwaiting, rfl⟩ := Queue.take?_eq_some_iff.mp hqueue
    refine h.pass hready nofun nofun rfl ?_ rfl
    rw [hwaiting]
    exact List.append_nil _
  | skip htaken hnone => exact absurd (.skip htaken hnone) hcustody.not_skip
  | start htaken _ => exact h.pass htaken nofun nofun rfl (List.append_nil _) rfl
  | finish hrunning => exact h.pass hrunning nofun nofun rfl (List.append_nil _) rfl
  | write hended _ => exact h.pass hended nofun nofun rfl (List.append_nil _) rfl
  | lose hended hlost => exact absurd (.lose hended hlost) hcustody.not_lose
  | stop hover =>
    obtain ⟨hids, hstage⟩ := hover.ids_stage
    have hlost := h.lost hstage
    have hunderWay : s.stage.underWay = [] :=
      List.eq_nil_iff_forall_not_mem.mpr fun id hid =>
        List.not_mem_nil (hids ▸ Stage.mem_ids_of_mem_underWay hid)
    have hwritten : written (log ++ [.stop s.queue.waiting]) = written log := by
      rw [written_snoc]
      exact List.append_nil _
    refine ⟨?_, ?_, fun hs => absurd rfl hs, fun _ => ⟨rfl, rfl⟩⟩
    · rw [hwritten, enqueued_snoc, lost_snoc, h.enqueued, hlost, hids]
      simp [Event.enqueued?, Event.lost, Stage.ids, Queue.dismiss]
    · rw [hwritten, started_snoc, h.started, hunderWay]
      exact List.append_nil _

/-- **One moment keeps the ledger.** -/
theorem Ledger.step (h : Ledger log s) (hcustody : Custody s) (hstep : Step s event s') :
    Ledger (log ++ [event]) s' := by
  cases hstep with
  | reject | add | refuse | withdraw | purge | list | look | shutdown =>
    exact h.quiet rfl rfl rfl rfl rfl rfl
  | enqueue _ hqueue =>
    obtain ⟨hworker, -, rfl⟩ := Queue.enqueue_eq_ok_iff.mp hqueue
    have hstage : s.stage ≠ .stopped := fun hs => by
      rw [(h.stopped hs).1] at hworker
      cases hworker
    exact h.pass rfl hstage hstage rfl (List.append_assoc ..) (List.append_nil _)
  | work hwork => exact h.work hcustody hwork

/-- **The ledger is kept at any moment.** -/
theorem ledger_of_run {capacity : Nat} (h : Run (.initial capacity) log s) : Ledger log s := by
  induction h with
  | nil => exact ledger_initial capacity
  | snoc hrun hstep ih => exact ih.step (custody_of_run hrun) hstep

/-! ## No job is taken twice -/

/-- The queue has taken no job twice, and none that a client is still posting. -/
structure Submitted (log : List Event) (s : State) : Prop where
  nodup : (enqueued log).Nodup
  issued : ∀ id ∈ enqueued log, id ∈ s.issued
  submissions : ∀ submission ∈ s.submissions, submission.id ∉ enqueued log

theorem submitted_initial (capacity : Nat) : Submitted [] (.initial capacity) where
  nodup := List.nodup_nil
  issued _ hid := absurd hid List.not_mem_nil
  submissions _ hsubmission := absurd hsubmission List.not_mem_nil

/-- What the queue does not take. -/
theorem Submitted.quiet (h : Submitted log s) (hevent : event.enqueued? = none)
    (hissued : ∀ id ∈ s.issued, id ∈ s'.issued)
    (hsubmissions : ∀ submission ∈ s'.submissions, submission.id ∉ enqueued log) :
    Submitted (log ++ [event]) s' := by
  have hlog : enqueued (log ++ [event]) = enqueued log := by
    rw [enqueued_snoc, hevent]
    exact List.append_nil _
  refine ⟨hlog ▸ h.nodup, ?_, ?_⟩ <;> rw [hlog]
  · exact fun id hid => hissued id (h.issued id hid)
  · exact hsubmissions

/-- What the queue takes is a job that it has not taken before, and that no other
client is posting. -/
theorem Submitted.enqueue (h : Submitted log s) (hcustody : Custody s)
    (hkept : .kept id ∈ s.submissions) {queue : Queue} :
    Submitted (log ++ [.enqueue id])
      { s with queue, submissions := s.submissions.erase (.kept id) } := by
  have hnew : id ∉ enqueued log := h.submissions _ hkept
  have hperm := held_perm_of_mem hkept
  have hothers : id ∉ (s.submissions.erase (.kept id)).map Submission.id := by
    have hnodup := hperm.nodup_iff.mp hcustody.nodup_held
    rw [List.nodup_cons, List.append_assoc] at hnodup
    exact fun hmem => hnodup.1 (List.mem_append_left _ hmem)
  have hlog : enqueued (log ++ [.enqueue id]) = enqueued log ++ [id] := enqueued_snoc ..
  refine ⟨?_, ?_, ?_⟩ <;> rw [hlog]
  · refine List.nodup_append.mpr ⟨h.nodup, by simp, fun a ha b hb hab => ?_⟩
    rw [hab, List.mem_singleton.mp hb] at ha
    exact hnew ha
  · intro id' hid'
    obtain hid' | hid' := List.mem_append.mp hid'
    · exact h.issued id' hid'
    · rw [List.mem_singleton.mp hid']
      exact hcustody.issued_of_mem_held (hperm.mem_iff.mpr List.mem_cons_self)
  · intro submission hmem hid
    obtain hid | hid := List.mem_append.mp hid
    · exact h.submissions submission (List.mem_of_mem_erase hmem) hid
    · exact hothers (List.mem_map.mpr ⟨submission, hmem, List.mem_singleton.mp hid⟩)

/-- The queue takes nothing at the moments of the worker. -/
theorem enqueued?_eq_none_of_work {desk desk' : Desk} (h : Work desk event desk') :
    event.enqueued? = none := by
  cases h <;> rfl

theorem Submitted.step (h : Submitted log s) (hcustody : Custody s) (hstep : Step s event s') :
    Submitted (log ++ [event]) s' := by
  cases hstep with
  | reject => exact h.quiet rfl (fun _ => List.mem_cons_of_mem _) h.submissions
  | add hfresh =>
    refine h.quiet rfl (fun _ => List.mem_cons_of_mem _) fun submission hmem => ?_
    obtain rfl | hmem := List.mem_cons.mp hmem
    · exact fun hid => hfresh (h.issued _ hid)
    · exact h.submissions submission hmem
  | enqueue hkept _ => exact h.enqueue hcustody hkept
  | refuse hkept _ =>
    refine h.quiet rfl (fun _ hid => hid) fun submission hmem => ?_
    obtain rfl | hmem := List.mem_cons.mp hmem
    · have hnew := h.submissions _ hkept
      exact hnew
    · exact h.submissions submission (List.mem_of_mem_erase hmem)
  | withdraw =>
    exact h.quiet rfl (fun _ hid => hid) fun submission hmem =>
      h.submissions submission (List.mem_of_mem_erase hmem)
  | purge | list | look | shutdown => exact h.quiet rfl (fun _ hid => hid) h.submissions
  | work hwork => exact h.quiet (enqueued?_eq_none_of_work hwork) (fun _ hid => hid) h.submissions

theorem submitted_of_run {capacity : Nat} (h : Run (.initial capacity) log s) :
    Submitted log s := by
  induction h with
  | nil => exact submitted_initial capacity
  | snoc hrun hstep ih => exact ih.step (custody_of_run hrun) hstep

/-! ## Runs without shutdown -/

/-- The queue is not abandoned by the application. -/
theorem abandoned_of_run {capacity : Nat} (h : Run (.initial capacity) log s) :
    s.abandoned = false := by
  induction h with
  | nil => rfl
  | snoc _ hstep ih =>
    cases hstep with
    | work hwork => exact hwork.signals.2.trans ih
    | reject | add | enqueue | refuse | withdraw | purge | list | look | shutdown => exact ih

/-- The worker goes only after shutdown has been requested. -/
theorem shutdown_mem_of_run {capacity : Nat} (h : Run (.initial capacity) log s) :
    (s.cancelled = true → .shutdown ∈ log) ∧ (s.stage = .stopped → .shutdown ∈ log) := by
  induction h with
  | nil => exact ⟨nofun, nofun⟩
  | @snoc log s s' event hrun hstep ih =>
    obtain ⟨hcancelled, hstopped⟩ := ih
    have hlift : .shutdown ∈ log → .shutdown ∈ log ++ [event] := List.mem_append_left _
    cases hstep with
    | shutdown =>
      have hmem : .shutdown ∈ log ++ [.shutdown] :=
        List.mem_append_right _ (List.mem_singleton_self _)
      exact ⟨fun _ => hmem, fun _ => hmem⟩
    | reject | add | enqueue | refuse | withdraw | purge | list | look =>
      exact ⟨fun hc => hlift (hcancelled hc), fun hs => hlift (hstopped hs)⟩
    | work hwork =>
      refine ⟨fun hc => hlift (hcancelled (hwork.signals.1 ▸ hc)), fun hs => ?_⟩
      cases hwork with
      | proceed | wait | take | skip | start | finish | write | lose => cases hs
      | stop hover =>
        cases hover with
        | cancelled _ hc => exact hlift (hcancelled hc)
        | abandoned _ hgone => exact nomatch (abandoned_of_run hrun).symm.trans hgone

/-- **How far a job has come** that the queue has taken. -/
inductive Progress (log : List Event) (s : State) (id : JobId) : Prop
  /-- It waits, or has just been taken by the worker. -/
  | waits (hand : id ∈ s.queue.waiting ∨ s.stage = .taken id)
      (hstarted : (started log).count id = 0) (hwritten : (written log).count id = 0)
  /-- It is the job that is being run. -/
  | runs (hand : id ∈ s.stage.underWay)
      (hstarted : (started log).count id = 1) (hwritten : (written log).count id = 0)
  /-- It has been run, and has come to its end. -/
  | done (hand : id ∉ s.held)
      (hstarted : (started log).count id = 1) (hwritten : (written log).count id = 1)
      (hterminal : ∀ job ∈ s.history.jobs, job.id = id → job.status.isTerminal = true)

/-- **A job that the queue has taken is run once**, and this before it comes to its
end. -/
theorem progress (hcustody : Custody s) (hledger : Ledger log s) (hsubmitted : Submitted log s)
    (hstage : s.stage ≠ .stopped) (hid : id ∈ enqueued log) : Progress log s id := by
  have hnodup := hsubmitted.nodup
  have hposting : id ∉ s.submissions.map Submission.id := by
    intro hmem
    obtain ⟨submission, hsubmission, rfl⟩ := List.mem_map.mp hmem
    exact hsubmitted.submissions submission hsubmission hid
  rw [hledger.enqueued, hledger.lost hstage, List.append_nil] at hnodup hid
  obtain ⟨hhands, -, hwaiting⟩ := List.nodup_append.mp hnodup
  obtain ⟨hwritten, -, htaken⟩ := List.nodup_append.mp hhands
  have hcount : ∀ {n m : Nat}, (written log).count id = n → s.stage.underWay.count id = m →
      (started log).count id = n + m := by
    rintro n m rfl rfl
    rw [hledger.started, List.count_append]
  obtain hid | hid := List.mem_append.mp hid
  · obtain hid | hid := List.mem_append.mp hid
    · -- the outcome has been written
      have hstageids : id ∉ s.stage.ids := fun hmem => htaken id hid id hmem rfl
      have hqueue : id ∉ s.queue.waiting :=
        fun hmem => hwaiting id (List.mem_append_left _ hid) id hmem rfl
      have hheld : id ∉ s.held := by
        unfold State.held
        rw [List.mem_append, List.mem_append]
        exact not_or.mpr ⟨not_or.mpr ⟨hposting, hqueue⟩, hstageids⟩
      have hone : (written log).count id = 1 := by rw [hwritten.count, if_pos hid]
      have hzero : s.stage.underWay.count id = 0 :=
        List.count_eq_zero_of_not_mem fun hmem => hstageids (Stage.mem_ids_of_mem_underWay hmem)
      refine .done hheld (hcount hone hzero) hone fun job hjob heq => ?_
      exact decide_eq_true fun hcreated => hheld (heq ▸ hcustody.held hstage job hjob hcreated)
    · -- the worker has the job
      have hzero : (written log).count id = 0 :=
        List.count_eq_zero_of_not_mem fun hmem => htaken id hmem id hid rfl
      cases hs : s.stage with
      | idle | ready | stopped =>
        rw [hs] at hid
        cases hid
      | taken id' =>
        rw [hs] at hid hcount
        obtain rfl := List.mem_singleton.mp hid
        exact .waits (.inr hs) (hcount hzero rfl) hzero
      | running id' scenario =>
        rw [hs] at hid hcount
        obtain rfl := List.mem_singleton.mp hid
        exact .runs (by rw [hs]; exact hid) (hcount hzero (List.count_singleton_self ..)) hzero
      | ended id' result =>
        rw [hs] at hid hcount
        obtain rfl := List.mem_singleton.mp hid
        exact .runs (by rw [hs]; exact hid) (hcount hzero (List.count_singleton_self ..)) hzero
  · -- the job waits
    have hzero : (written log).count id = 0 := List.count_eq_zero_of_not_mem fun hmem =>
      hwaiting id (List.mem_append_left _ hmem) id hid rfl
    have hstageids : id ∉ s.stage.ids :=
      fun hmem => hwaiting id (List.mem_append_right _ hmem) id hid rfl
    have hnone : s.stage.underWay.count id = 0 :=
      List.count_eq_zero_of_not_mem fun hmem => hstageids (Stage.mem_ids_of_mem_underWay hmem)
    exact .waits (.inl hid) (hcount hzero hnone) hzero

/-- **No job is lost, run twice or orphaned.** As long as shutdown is not requested,
whatever comes in between whatever: every created job is in exactly one hand, once;
what waits or is with the worker is found in the history, created and with the
scenario that its text says; the worker passes no job over and loses no outcome;
and each job that the queue has taken is run once, before it comes to its end. -/
theorem no_job_lost {capacity : Nat} {log : List Event} {s : State}
    (hrun : Run (.initial capacity) log s) (hup : .shutdown ∉ log) :
    s.history.ids.Nodup
      ∧ (∀ job ∈ s.history.jobs, job.status = .created → s.held.count job.id = 1)
      ∧ (∀ id ∈ s.queue.waiting ++ s.stage.ids, ∃ job scenario,
          s.history.find? id = some job ∧ job.status = .created
            ∧ Job.readScenario job.text = .ok scenario ∧ job.scenario = some scenario)
      ∧ (∀ id, .skip id ∉ log ∧ .lose id ∉ log)
      ∧ ∀ id, .enqueue id ∈ log → Progress log s id := by
  have hcustody := custody_of_run hrun
  have hstage : s.stage ≠ .stopped := fun hs => hup ((shutdown_mem_of_run hrun).2 hs)
  refine ⟨hcustody.nodup_ids, ?_, ?_, ?_, ?_⟩
  · intro job hjob hcreated
    rw [hcustody.nodup_held.count, if_pos (hcustody.held hstage job hjob hcreated)]
  · intro id hid
    have hheld : id ∈ s.held :=
      (List.mem_append.mp hid).elim mem_held_of_waiting mem_held_of_stage
    obtain ⟨job, scenario, hfind, hcreated, hread, hscenario, -⟩ := hcustody.runnable hheld
    exact ⟨job, scenario, hfind, hcreated, hread, hscenario⟩
  · refine fun id => ⟨fun hmem => ?_, fun hmem => ?_⟩
    · obtain ⟨_, _, _, hrun', hstep⟩ := hrun.exists_step_of_mem hmem
      cases hstep with
      | work hwork => exact (custody_of_run hrun').not_skip hwork
    · obtain ⟨_, _, _, hrun', hstep⟩ := hrun.exists_step_of_mem hmem
      cases hstep with
      | work hwork => exact (custody_of_run hrun').not_lose hwork
  · exact fun id hmem => progress hcustody (ledger_of_run hrun) (submitted_of_run hrun) hstage
      (mem_enqueued.mpr hmem)

/-- A text that is not at fault makes a job that can be added. -/
theorem exists_parse_new_eq {now text : String}
    (h : ((Job.new id now text).parse now).1.isNone) :
    ∃ job, (Job.new id now text).parse now = (none, job) :=
  ⟨_, Prod.ext (Option.isNone_iff_eq_none.mp h) rfl⟩

/-- There is a text that is not at fault. -/
theorem exists_created_job : ∃ text job, (Job.new ⟨0⟩ "" text).parse "" = (none, job) := by
  have hread : ((Job.new ⟨0⟩ ""
      "[Scenario]\nName = \"A\"\n[Model]\nType = \"CatchmentModel\"\n").parse "").1.isNone := by
    decide +kernel
  exact ⟨_, exists_parse_new_eq hread⟩

/-- Three jobs have been posted where one may wait, and the second one waits. -/
def State.crowded (jobs : List Job) (stage : Stage) (submissions : List Submission) : State :=
  ⟨⟨⟨jobs⟩, ⟨1, [⟨1⟩], true⟩, stage, false, false⟩, submissions, [⟨2⟩, ⟨1⟩, ⟨0⟩]⟩

/-- Of three jobs one is run and one waits, while the third has been put into the history and is
about to be offered to the queue. -/
theorem exists_run_crowded :
    ∃ scenario job₀ job₁ job₂,
      (job₀.id = ⟨0⟩ ∧ job₁.id = ⟨1⟩ ∧ job₂.id = ⟨2⟩)
        ∧ (∀ job ∈ [job₂, job₁, job₀], job.status = .created)
        ∧ Run (.initial 1)
          [.add ⟨0⟩, .add ⟨1⟩, .proceed, .enqueue ⟨0⟩, .take ⟨0⟩, .add ⟨2⟩, .start ⟨0⟩ scenario,
            .enqueue ⟨1⟩]
          (.crowded [job₂, job₁, job₀] (.running ⟨0⟩ scenario) [.kept ⟨2⟩]) := by
  have hread : ∀ id ∈ ([⟨0⟩, ⟨1⟩, ⟨2⟩] : List JobId), ((Job.new id ""
      "[Scenario]\nName = \"A\"\n[Model]\nType = \"CatchmentModel\"\n").parse "").1.isNone := by
    decide +kernel
  -- what the jobs look like is not unfolded from here on
  obtain ⟨job₀, hjob₀⟩ := exists_parse_new_eq (hread ⟨0⟩ (by simp))
  obtain ⟨job₁, hjob₁⟩ := exists_parse_new_eq (hread ⟨1⟩ (by simp))
  obtain ⟨job₂, hjob₂⟩ := exists_parse_new_eq (hread ⟨2⟩ (by simp))
  obtain ⟨hid₀, hcreated₀, -⟩ := of_parse_new_eq_none hjob₀
  obtain ⟨hid₁, hcreated₁, -⟩ := of_parse_new_eq_none hjob₁
  obtain ⟨hid₂, hcreated₂, -⟩ := of_parse_new_eq_none hjob₂
  have hadd : Step (.initial 1) (.add ⟨0⟩)
      ⟨⟨⟨[job₀]⟩, .new 1, .idle, false, false⟩, [.kept ⟨0⟩], [⟨0⟩]⟩ := .add List.not_mem_nil hjob₀
  have hadd₁ : Step ⟨⟨⟨[job₀]⟩, .new 1, .idle, false, false⟩, [.kept ⟨0⟩], [⟨0⟩]⟩ (.add ⟨1⟩)
      ⟨⟨⟨[job₁, job₀]⟩, .new 1, .idle, false, false⟩, [.kept ⟨1⟩, .kept ⟨0⟩], [⟨1⟩, ⟨0⟩]⟩ :=
    .add (show (⟨1⟩ : JobId) ∉ [⟨0⟩] by decide) hjob₁
  have henqueue : Step
      ⟨⟨⟨[job₁, job₀]⟩, .new 1, .ready, false, false⟩, [.kept ⟨1⟩, .kept ⟨0⟩], [⟨1⟩, ⟨0⟩]⟩
      (.enqueue ⟨0⟩)
      ⟨⟨⟨[job₁, job₀]⟩, ⟨1, [⟨0⟩], true⟩, .ready, false, false⟩, [.kept ⟨1⟩], [⟨1⟩, ⟨0⟩]⟩ :=
    .enqueue (by simp) rfl
  have htake : Work ⟨⟨[job₁, job₀]⟩, ⟨1, [⟨0⟩], true⟩, .ready, false, false⟩ (.take ⟨0⟩)
      ⟨⟨[job₁, job₀]⟩, .new 1, .taken ⟨0⟩, false, false⟩ := .take rfl rfl
  have hadd₂ : Step ⟨⟨⟨[job₁, job₀]⟩, .new 1, .taken ⟨0⟩, false, false⟩, [.kept ⟨1⟩], [⟨1⟩, ⟨0⟩]⟩
      (.add ⟨2⟩)
      ⟨⟨⟨[job₂, job₁, job₀]⟩, .new 1, .taken ⟨0⟩, false, false⟩, [.kept ⟨2⟩, .kept ⟨1⟩],
        [⟨2⟩, ⟨1⟩, ⟨0⟩]⟩ := .add (show (⟨2⟩ : JobId) ∉ [⟨1⟩, ⟨0⟩] by decide) hjob₂
  have hrun := ((((Trace.single hadd).snoc hadd₁).snoc (.work (.proceed rfl rfl))).snoc
    henqueue).snoc (.work htake) |>.snoc hadd₂
  obtain ⟨_, scenario, -, -, -, -, hscenario⟩ :=
    (custody_of_run hrun).runnable (mem_held_of_stage List.mem_cons_self)
  have henqueue₁ : Step
      ⟨⟨⟨[job₂, job₁, job₀]⟩, .new 1, .running ⟨0⟩ scenario, false, false⟩,
        [.kept ⟨2⟩, .kept ⟨1⟩], [⟨2⟩, ⟨1⟩, ⟨0⟩]⟩
      (.enqueue ⟨1⟩) (.crowded [job₂, job₁, job₀] (.running ⟨0⟩ scenario) [.kept ⟨2⟩]) :=
    .enqueue (by simp) rfl
  exact ⟨scenario, job₀, job₁, job₂, ⟨hid₀, hid₁, hid₂⟩,
    by simp [hcreated₀, hcreated₁, hcreated₂],
    (hrun.snoc (.work (.start rfl hscenario))).snoc henqueue₁⟩

/-- Three jobs are posted at the same time while the worker runs the first one. The third is
refused and withdrawn; the history is purged before the result of the first one is written and
after it; and the second one still waits then. -/
theorem no_job_lost_when_interleaved :
    ∃ log scenario result done s,
      log = [.add ⟨0⟩, .add ⟨1⟩, .proceed, .enqueue ⟨0⟩, .take ⟨0⟩, .add ⟨2⟩, .start ⟨0⟩ scenario,
        .enqueue ⟨1⟩, .refuse ⟨2⟩ (.full 1), .purge [], .finish ⟨0⟩ result, .withdraw ⟨2⟩,
        .write ⟨0⟩, .purge [done]]
      ∧ Run (.initial 1) log s ∧ .shutdown ∉ log ∧ s.history.ids = [⟨1⟩] ∧ s.held = [⟨1⟩]
      ∧ (∀ job ∈ s.history.jobs, job.status = .created → s.held.count job.id = 1)
      ∧ Progress log s ⟨0⟩ ∧ Progress log s ⟨1⟩ := by
  obtain ⟨scenario, job₀, job₁, job₂, ⟨hid₀, hid₁, hid₂⟩, hcreated, hcrowded⟩ :=
    exists_run_crowded
  have hwaits : ∀ job ∈ [job₂, job₁, job₀], job.status.isProcessed = false := by
    intro job hjob
    rw [hcreated job hjob]
    rfl
  simp only [List.forall_mem_cons] at hwaits
  obtain ⟨hwaits₂, hwaits₁, hwaits₀, -⟩ := hwaits
  let refused : List Submission := [.refused ⟨2⟩ (.full 1)]
  let result : Except Annealing.Fault Annealing.Outcome := .ok ⟨"0", "SedimentLoad", 0, 1⟩
  let done := job₀.finish "" result
  have hrefuse : Step (.crowded [job₂, job₁, job₀] (.running ⟨0⟩ scenario) [.kept ⟨2⟩])
      (.refuse ⟨2⟩ (.full 1)) (.crowded [job₂, job₁, job₀] (.running ⟨0⟩ scenario) refused) :=
    .refuse List.mem_cons_self rfl
  have hpurge : Step (.crowded [job₂, job₁, job₀] (.running ⟨0⟩ scenario) refused) (.purge [])
      (.crowded [job₂, job₁, job₀] (.running ⟨0⟩ scenario) refused) := by
    simpa [State.crowded, History.purge, hwaits₀, hwaits₁, hwaits₂]
      using @Step.purge (.crowded [job₂, job₁, job₀] (.running ⟨0⟩ scenario) refused)
  have hwithdraw : Step (.crowded [job₂, job₁, job₀] (.ended ⟨0⟩ result) refused)
      (.withdraw ⟨2⟩) (.crowded [job₁, job₀] (.ended ⟨0⟩ result) []) := by
    simpa [State.crowded, refused, History.remove, hid₂] using @Step.withdraw
      (.crowded [job₂, job₁, job₀] (.ended ⟨0⟩ result) refused) _ _ List.mem_cons_self
  have hwrite : Work (State.crowded [job₁, job₀] (.ended ⟨0⟩ result) []).toDesk (.write ⟨0⟩)
      (State.crowded [job₁, done] .idle []).toDesk := by
    have hfound : ((⟨[job₁, job₀]⟩ : History).find? ⟨0⟩).isSome := by simp [History.find?, hid₀]
    simpa [State.crowded, done, History.update, List.findIdx?_cons, hid₁, hid₀] using @Work.write
      (State.crowded [job₁, job₀] (.ended ⟨0⟩ result) []).toDesk _ _ "" rfl hfound
  have hpurge' : Step (.crowded [job₁, done] .idle []) (.purge [done])
      (.crowded [job₁] .idle []) := by
    simpa [State.crowded, History.purge, hwaits₁, show done.status.isProcessed = true from rfl]
      using @Step.purge (.crowded [job₁, done] .idle [])
  have hrun : Run (.initial 1)
      [.add ⟨0⟩, .add ⟨1⟩, .proceed, .enqueue ⟨0⟩, .take ⟨0⟩, .add ⟨2⟩, .start ⟨0⟩ scenario,
        .enqueue ⟨1⟩, .refuse ⟨2⟩ (.full 1), .purge [], .finish ⟨0⟩ result, .withdraw ⟨2⟩,
        .write ⟨0⟩, .purge [done]] (.crowded [job₁] .idle []) :=
    ((((hcrowded.snoc hrefuse).snoc hpurge).snoc (.work (.finish rfl))).snoc
      hwithdraw).snoc (.work hwrite) |>.snoc hpurge'
  obtain ⟨-, hheld, -, -, hprogress⟩ := no_job_lost hrun (by simp)
  exact ⟨_, scenario, result, done, _, rfl, hrun, by simp,
    by simp [State.crowded, History.ids, hid₁], rfl, hheld, hprogress ⟨0⟩ (by simp),
    hprogress ⟨1⟩ (by simp)⟩

end Interleaving

end CatchmentPlanning
