import CatchmentPlanning.Proofs.Job.Ledger

/-!
# What becomes of a job

A job comes into the history as its client has read it: created, or invalid if its
text describes no catchment. From then on only the worker changes it, and only
once: it writes what the run of the job's scenario has found. Nothing in the job
itself says so, as `Job.finish` may be applied to any job. It is the custody of
created jobs that keeps the worker away from all others.

`Life` says how a job has come to be what it is, with the moments of its run in the
log, and `Shape` what it looks like. A step is read in both directions: each job it
leaves in the history comes from somewhere (`Origin`), and a job that has come to
its end goes nowhere unless it is purged (`stays_or_purged`).
-/

namespace CatchmentPlanning

namespace Interleaving

variable {s s' : State} {log more : List Event} {event : Event} {id : JobId} {job job' : Job}

/-! ## The life of a job -/

/-- A job whose text has just been read. -/
def Posted (job : Job) : Prop :=
  ∃ now, ((Job.new job.id now job.text).parse now).2 = job

/-- A scenario has been run for a job and the result has been written, in this
order. -/
def Ran (log : List Event) (id : JobId) (scenario : Scenario)
    (result : Except Annealing.Fault Annealing.Outcome) : Prop :=
  [Event.start id scenario, .finish id result, .write id].Sublist log

/-- **How a job has come to be what it is.** -/
inductive Life (log : List Event) : Job → Prop
  /-- It has been posted and read. -/
  | posted {job : Job} (hposted : Posted job) : Life log job
  /-- It was created, its scenario has been run, and the result has been written. -/
  | ended {job : Job} {scenario : Scenario} {now : String}
      {result : Except Annealing.Fault Annealing.Outcome} (hposted : Posted job)
      (hcreated : job.status = .created) (hscenario : job.scenario = some scenario)
      (hran : Ran log job.id scenario result) : Life log (job.finish now result)

theorem Life.mono (h : Life log job) (hlog : log.Sublist more) : Life more job := by
  cases h with
  | posted hposted => exact .posted hposted
  | ended hposted hcreated hscenario hran =>
    exact .ended hposted hcreated hscenario (hran.trans hlog)

/-- A created job has not been carried out. -/
theorem Life.posted_of_created (h : Life log job) (hcreated : job.status = .created) :
    Posted job := by
  cases h with
  | posted hposted => exact hposted
  | ended => exact absurd hcreated (status_finish_ne_created _ _ _)

/-- What the client puts into the history. -/
theorem of_parse_new {now text : String} {fault : Option Scenario.Fault}
    (h : (Job.new id now text).parse now = (fault, job)) : job.id = id ∧ Posted job := by
  have hsame : job.id = id ∧ job.text = text := by
    unfold Job.parse at h
    split at h <;> cases h <;> exact ⟨rfl, rfl⟩
  obtain ⟨rfl, rfl⟩ := hsame
  exact ⟨rfl, now, by rw [h]⟩

/-! ## What a job looks like -/

/-- **What a job of each status looks like.** -/
def Shape (log : List Event) (job : Job) : Prop :=
  match job.status with
  | .created =>
    job.completed = none ∧ job.errorDetail = none ∧ job.attributes = ∅
      ∧ ∃ scenario, Job.readScenario job.text = .ok scenario ∧ job.scenario = some scenario
  | .invalid =>
    job.completed.isSome ∧ job.attributes = ∅ ∧ job.scenario = none
      ∧ ∃ fault, Job.readScenario job.text = .error fault
        ∧ job.errorDetail = some fault.message
  | .errored =>
    job.completed.isSome ∧ job.attributes = ∅
      ∧ ∃ scenario fault, Job.readScenario job.text = .ok scenario
        ∧ Ran log job.id scenario (.error fault) ∧ job.errorDetail = some fault.message
  | .completed =>
    job.completed.isSome ∧ job.errorDetail = none ∧ job.scenario = none
      ∧ ∃ scenario outcome, Job.readScenario job.text = .ok scenario
        ∧ Ran log job.id scenario (.ok outcome)
        ∧ job.attributes.entries = [
          ("SolutionEncoding", .str outcome.token),
          ("Objective", .str outcome.objective),
          ("ObjectiveValue", if outcome.value.isFinite then .float outcome.value else .null),
          ("Iterations", .int outcome.iterations)]

/-- A job that has just been read is created or invalid. -/
theorem shape_of_posted (h : Posted job) : Shape log job := by
  obtain ⟨now, h⟩ := h
  unfold Job.parse at h
  split at h
  · rename_i scenario hread
    rw [← h]
    exact ⟨rfl, rfl, rfl, scenario, hread, rfl⟩
  · rename_i fault hread
    rw [← h]
    exact ⟨rfl, rfl, rfl, fault, hread, rfl⟩

/-- A created job that is carried out is completed or errored. -/
theorem Shape.finish {scenario : Scenario} {result : Except Annealing.Fault Annealing.Outcome}
    (h : Shape log job) (hcreated : job.status = .created)
    (hscenario : job.scenario = some scenario) (hran : Ran log job.id scenario result)
    (now : String) : Shape log (job.finish now result) := by
  unfold Shape at h
  rw [hcreated] at h
  obtain ⟨-, herror, hattributes, scenario', hread, hscenario'⟩ := h
  obtain rfl := Option.some.inj (hscenario.symm.trans hscenario')
  cases result with
  | error fault => exact ⟨rfl, hattributes, scenario, fault, hread, hran, rfl⟩
  | ok outcome =>
    refine ⟨rfl, herror, rfl, scenario, outcome, hread, hran, ?_⟩
    show (job.attributes.setAll _).entries = _
    rw [hattributes]
    rfl

/-- **A job looks as its life has made it.** -/
theorem Life.shape (h : Life log job) : Shape log job := by
  cases h with
  | posted hposted => exact shape_of_posted hposted
  | ended hposted hcreated hscenario hran =>
    exact (shape_of_posted hposted).finish hcreated hscenario hran _

/-! ## One moment in the life of a job -/

/-- Where a job of the history comes from. -/
inductive Origin (s : State) (event : Event) (job' : Job) : Prop
  /-- It was there before. -/
  | stays (hjob : job' ∈ s.history.jobs)
  /-- A client has put it there. -/
  | arrives (hfresh : job'.id ∉ s.issued) (hposted : Posted job')
  /-- It is a created job, and the worker has written its result. -/
  | ends {job : Job} {now : String} {result : Except Annealing.Fault Annealing.Outcome}
      (hjob : job ∈ s.history.jobs) (hcreated : job.status = .created)
      (hended : s.stage = .ended job.id result) (hevent : event = .write job.id)
      (heq : job' = job.finish now result)

/-- What is held under the identifier of a job is that job, and created. -/
theorem Custody.created_of_mem_held (h : Custody s) (hjob : job ∈ s.history.jobs)
    (hid : job.id ∈ s.held) : job.status = .created := by
  obtain ⟨job', hjob', heq, hcreated⟩ := h.created _ hid
  obtain rfl := History.eq_of_id_eq h.nodup_ids hjob hjob' heq
  exact hcreated

theorem mem_held_of_ended {result : Except Annealing.Fault Annealing.Outcome}
    (hended : s.stage = .ended id result) : id ∈ s.held := by
  refine mem_held_of_stage ?_
  rw [hended]
  exact List.mem_singleton_self id

/-- **Every job of the history was there, is new, or has just come to its end.** -/
theorem origin_of_step (hcustody : Custody s) (hstep : Step s event s')
    (hjob : job' ∈ s'.history.jobs) : Origin s event job' := by
  cases hstep with
  | reject hfresh hparse | add hfresh hparse =>
    obtain ⟨rfl, hposted⟩ := of_parse_new hparse
    obtain rfl | hjob := History.mem_add.mp hjob
    · exact .arrives hfresh hposted
    · exact .stays hjob
  | withdraw => exact .stays ((History.mem_remove hcustody.nodup_ids).mp hjob).1
  | purge => exact .stays (History.mem_purge.mp hjob).1
  | enqueue | refuse | list | look | shutdown => exact .stays hjob
  | work hwork =>
    obtain hold | ⟨job, hold, now, result, hevent, hended, heq⟩ :=
      hwork.mem_or_finish hcustody.nodup_ids hjob
    · exact .stays hold
    · have hcreated := hcustody.created_of_mem_held hold (mem_held_of_ended hended)
      exact .ends hold hcreated hended hevent heq

/-- **A job that has come to its end stays**, as long as it is not purged. -/
theorem stays_or_purged (hcustody : Custody s) (hstep : Step s event s')
    (hjob : job ∈ s.history.jobs) (hterminal : job.status ≠ .created) :
    job ∈ s'.history.jobs
      ∨ ((∃ purged, event = .purge purged ∧ job ∈ purged) ∧ job.id ∉ s'.history.ids) := by
  have hfree : ∀ {id}, id ∈ s.held → job.id ≠ id := by
    rintro _ hid rfl
    exact hterminal (hcustody.created_of_mem_held hjob hid)
  cases hstep with
  | reject | add => exact .inl (History.mem_add.mpr (.inr hjob))
  | withdraw hrefused =>
    have hheld := (held_perm_of_mem hrefused).mem_iff.mpr List.mem_cons_self
    exact .inl ((History.mem_remove hcustody.nodup_ids).mpr ⟨hjob, hfree hheld⟩)
  | purge =>
    cases hprocessed : job.status.isProcessed with
    | false => exact .inl (History.mem_purge.mpr ⟨hjob, hprocessed⟩)
    | true =>
      refine .inr ⟨⟨_, rfl, List.mem_filter.mpr ⟨hjob, hprocessed⟩⟩, fun hmem => ?_⟩
      obtain ⟨job', hjob', heq⟩ := List.mem_map.mp hmem
      obtain ⟨hjob', hkept⟩ := History.mem_purge.mp hjob'
      obtain rfl := History.eq_of_id_eq hcustody.nodup_ids hjob hjob' heq
      rw [hprocessed] at hkept
      cases hkept
  | enqueue | refuse | list | look | shutdown => exact .inl hjob
  | work hwork =>
    exact .inl (hwork.mem_of_not_mem_ids hcustody.nodup_ids hjob fun hid =>
      hfree (mem_held_of_stage hid) rfl)

/-- An identifier that has been issued stays issued. -/
theorem issued_of_step (hstep : Step s event s') (hid : id ∈ s.issued) : id ∈ s'.issued := by
  cases hstep with
  | reject | add => exact List.mem_cons_of_mem _ hid
  | enqueue | refuse | withdraw | purge | list | look | shutdown | work => exact hid

theorem issued_of_run (hmore : Run s more s') (hid : id ∈ s.issued) : id ∈ s'.issued := by
  induction hmore with
  | nil => exact hid
  | snoc _ hstep ih => exact issued_of_step hstep ih

/-! ## The lives of all jobs -/

/-- The job that is being run is run with its own scenario. -/
def Stage.Begun (log : List Event) (job : Job) : Stage → Prop
  | running id scenario =>
    job.id = id → job.scenario = some scenario ∧ [Event.start id scenario].Sublist log
  | ended id result =>
    job.id = id → ∃ scenario, job.scenario = some scenario
      ∧ [Event.start id scenario, .finish id result].Sublist log
  | idle | ready | taken _ | stopped => True

theorem Stage.Begun.mono {stage : Stage} (h : stage.Begun log job) (hlog : log.Sublist more) :
    stage.Begun more job := by
  cases stage with
  | idle | ready | taken | stopped => trivial
  | running => exact fun heq => (h heq).imp_right (·.trans hlog)
  | ended =>
    intro heq
    obtain ⟨scenario, hscenario, hbegun⟩ := h heq
    exact ⟨scenario, hscenario, hbegun.trans hlog⟩

/-- A job that the worker does not have. -/
theorem Stage.begun_of_not_mem {stage : Stage} (h : job.id ∉ stage.ids) : stage.Begun log job := by
  cases stage with
  | idle | ready | taken | stopped => trivial
  | running | ended => exact fun heq => absurd (List.mem_singleton.mpr heq) h

/-- **What the log says about the jobs of the history.** -/
structure Lives (log : List Event) (s : State) : Prop where
  jobs : ∀ job ∈ s.history.jobs, Life log job
  begun : ∀ job ∈ s.history.jobs, s.stage.Begun log job

theorem lives_initial (capacity : Nat) : Lives [] (.initial capacity) where
  jobs _ hjob := absurd hjob List.not_mem_nil
  begun _ hjob := absurd hjob List.not_mem_nil

/-- A job that the worker has in hand has been issued. -/
theorem Custody.issued_of_mem_stage (h : Custody s) (hid : id ∈ s.stage.ids) : id ∈ s.issued :=
  h.issued_of_mem_held (mem_held_of_stage hid)

/-- What keeps the worker's stage keeps the run of the job that the worker has. -/
theorem Lives.begun_of_origin (h : Lives log s) (hcustody : Custody s)
    (horigin : Origin s event job') (hevent : ∀ id, event ≠ .write id) :
    s.stage.Begun (log ++ [event]) job' := by
  cases horigin with
  | stays hjob => exact (h.begun _ hjob).mono (List.sublist_append_left ..)
  | arrives hfresh _ =>
    exact Stage.begun_of_not_mem fun hid => hfresh (hcustody.issued_of_mem_stage hid)
  | ends _ _ _ hwrite => exact absurd hwrite (hevent _)

/-- The worker begins with the scenario of the job it has looked up. -/
theorem begun_start (hcustody : Custody s) {scenario : Scenario} (hjob : job ∈ s.history.jobs)
    (hscenario : Worker.scenario? s.history id = some scenario) :
    (Stage.running id scenario).Begun (log ++ [.start id scenario]) job := by
  rintro rfl
  refine ⟨?_, List.sublist_append_right ..⟩
  unfold Worker.scenario? at hscenario
  rw [(History.find?_eq_some_iff hcustody.nodup_ids).mpr ⟨hjob, rfl⟩] at hscenario
  dsimp only at hscenario
  split at hscenario
  · cases hscenario
  · exact hscenario

/-- The worker goes on with the run of the job that it has. -/
theorem Lives.begun_of_work (h : Lives log s) (hcustody : Custody s) {desk : Desk}
    (hwork : Work s.toDesk event desk) (hjob : job ∈ desk.history.jobs) :
    desk.stage.Begun (log ++ [event]) job := by
  cases hwork with
  | proceed | wait | take | skip | write | lose | stop => trivial
  | start _ hscenario => exact begun_start hcustody hjob hscenario
  | @finish _ scenario _ hrunning =>
    have hbegun := h.begun job hjob
    rw [hrunning] at hbegun
    rintro rfl
    obtain ⟨hscenario, hstart⟩ := hbegun rfl
    exact ⟨scenario, hscenario, hstart.append (.refl _)⟩

/-- **One moment in the lives of all jobs.** -/
theorem Lives.step (h : Lives log s) (hcustody : Custody s) (hstep : Step s event s') :
    Lives (log ++ [event]) s' := by
  have horigin : ∀ job' ∈ s'.history.jobs, Origin s event job' :=
    fun _ => origin_of_step hcustody hstep
  refine ⟨fun job' hjob' => ?_, fun job' hjob' => ?_⟩
  · cases horigin job' hjob' with
    | stays hjob => exact (h.jobs _ hjob).mono (List.sublist_append_left ..)
    | arrives _ hposted => exact .posted hposted
    | @ends job now result hjob hcreated hended hwrite heq =>
      have hbegun := h.begun job hjob
      rw [hended] at hbegun
      obtain ⟨scenario, hscenario, hbegun⟩ := hbegun rfl
      rw [heq, hwrite]
      have hposted := (h.jobs job hjob).posted_of_created hcreated
      exact .ended hposted hcreated hscenario (hbegun.append (.refl [_]))
  · cases hstep with
    | reject | add | enqueue | refuse | withdraw | purge | list | look | shutdown =>
      exact h.begun_of_origin hcustody (horigin job' hjob') nofun
    | work hwork => exact h.begun_of_work hcustody hwork hjob'

theorem lives_of_run {capacity : Nat} (h : Run (.initial capacity) log s) : Lives log s := by
  induction h with
  | nil => exact lives_initial capacity
  | snoc hrun hstep ih => exact ih.step (custody_of_run hrun) hstep

/-! ## From one moment to a later one -/

section

variable {capacity : Nat} (hrun : Run (.initial capacity) log s) (hmore : Run s more s')

include hrun hmore

/-- **A job changes once at most**, and if it does it was created before. -/
theorem eq_or_finish_of_run (hjob : job ∈ s.history.jobs) :
    ∀ job' ∈ s'.history.jobs, job'.id = job.id →
      job' = job ∨ (job.status = .created ∧ ∃ now result, job' = job.finish now result) := by
  have hid := (custody_of_run hrun).issued _ (History.mem_ids_of_mem hjob)
  induction hmore with
  | nil =>
    intro job' hjob' heq
    exact .inl (History.eq_of_id_eq (custody_of_run hrun).nodup_ids hjob hjob' heq)
  | snoc hrun' hstep ih =>
    intro job' hjob' heq
    have hcustody := custody_of_run (hrun.append hrun')
    cases origin_of_step hcustody hstep hjob' with
    | stays hold => exact ih job' hold heq
    | arrives hfresh _ => exact absurd (heq ▸ issued_of_run hrun' hid) hfresh
    | @ends job₁ now result hold hcreated _ _ hfinish =>
      subst hfinish
      rw [Job.id_finish] at heq
      obtain rfl | ⟨-, _, _, rfl⟩ := ih job₁ hold heq
      · exact .inr ⟨hcreated, now, result, rfl⟩
      · exact absurd hcreated (status_finish_ne_created _ _ _)

/-- **An identifier that is gone stays gone.** -/
theorem not_mem_ids_of_run (hissued : id ∈ s.issued) (hgone : id ∉ s.history.ids) :
    id ∉ s'.history.ids := by
  induction hmore with
  | nil => exact hgone
  | snoc hrun' hstep ih =>
    intro hid
    obtain ⟨job', hjob', rfl⟩ := List.mem_map.mp hid
    have hcustody := custody_of_run (hrun.append hrun')
    refine ih ?_
    cases origin_of_step hcustody hstep hjob' with
    | stays hold => exact History.mem_ids_of_mem hold
    | arrives hfresh _ => exact absurd (issued_of_run hrun' hissued) hfresh
    | ends hold _ _ _ hfinish =>
      rw [hfinish, Job.id_finish]
      exact History.mem_ids_of_mem hold

/-- **A job that has come to its end stays until it is purged**, and is gone then. -/
theorem stays_or_purged_of_run (hjob : job ∈ s.history.jobs) (hterminal : job.status ≠ .created) :
    job ∈ s'.history.jobs
      ∨ ((∃ purged, .purge purged ∈ more ∧ job ∈ purged) ∧ job.id ∉ s'.history.ids) := by
  have hissued := (custody_of_run hrun).issued _ (History.mem_ids_of_mem hjob)
  induction hmore with
  | nil => exact .inl hjob
  | @snoc more s₁ s₂ event hrun' hstep ih =>
    have hcustody := custody_of_run (hrun.append hrun')
    obtain hstays | ⟨⟨purged, hpurge, hpurged⟩, hgone⟩ := ih
    · obtain hstays | ⟨⟨purged, rfl, hpurged⟩, hgone⟩ :=
        stays_or_purged hcustody hstep hstays hterminal
      · exact .inl hstays
      · exact .inr ⟨⟨purged, List.mem_append_right _ (List.mem_singleton_self _), hpurged⟩, hgone⟩
    · refine .inr ⟨⟨purged, List.mem_append_left _ hpurge, hpurged⟩, ?_⟩
      exact not_mem_ids_of_run (hrun.append hrun') (.single hstep)
        (issued_of_run hrun' hissued) hgone

end

/-- No job is run twice. -/
theorem nodup_started {capacity : Nat} (hrun : Run (.initial capacity) log s) :
    (started log).Nodup := by
  have hledger := ledger_of_run hrun
  have hnodup := (submitted_of_run hrun).nodup
  rw [hledger.enqueued, List.append_assoc] at hnodup
  refine hledger.started ▸ (List.nodup_append.mp hnodup).1.sublist ?_
  refine List.Sublist.append_left ?_ _
  cases s.stage <;> first | exact .refl _ | exact List.nil_sublist _

/-- **The life cycle of a job.** Whatever comes in between whatever, at any moment:
every job of the history has been posted, and carried out at most once, and looks as
its status says, with what its own scenario's run has found. And at any later moment:
a job that is still there has the same text, and is unchanged unless it was created
and is now completed or errored; and one that had come to its end is still there
unless it has been purged, after which nothing is found in its place. -/
theorem job_life_cycle {capacity : Nat} (hrun : Run (.initial capacity) log s)
    (hmore : Run s more s') :
    (∀ job ∈ s.history.jobs, Life log job ∧ Shape log job)
      ∧ (started log).Nodup
      ∧ (∀ job ∈ s.history.jobs, ∀ job' ∈ s'.history.jobs, job'.id = job.id →
          job'.text = job.text ∧ (job' = job ∨ (job.status = .created
            ∧ (job'.status = .completed ∨ job'.status = .errored))))
      ∧ ∀ job ∈ s.history.jobs, job.status.isTerminal = true → job ∈ s'.history.jobs
          ∨ ((∃ purged, .purge purged ∈ more ∧ job ∈ purged) ∧ job.id ∉ s'.history.ids) := by
  refine ⟨fun job hjob => ?_, nodup_started hrun, fun job hjob job' hjob' heq => ?_,
    fun job hjob hterminal => ?_⟩
  · have hlife := (lives_of_run hrun).jobs job hjob
    exact ⟨hlife, hlife.shape⟩
  · obtain rfl | ⟨hcreated, now, result, rfl⟩ :=
      eq_or_finish_of_run hrun hmore hjob job' hjob' heq
    · exact ⟨rfl, .inl rfl⟩
    · refine ⟨Job.text_finish .., .inr ⟨hcreated, ?_⟩⟩
      cases result with
      | ok => exact .inl rfl
      | error => exact .inr rfl
  · exact stays_or_purged_of_run hrun hmore hjob (of_decide_eq_true hterminal)

/-- A small job is posted, taken by the queue, and carried out; then it is purged. -/
theorem job_life_cycle_when_completed :
    ∃ log more s s' job, Run (.initial 1) log s ∧ Run s more s' ∧ job ∈ s.history.jobs
      ∧ job.status = .completed ∧ Shape log job
      ∧ (∃ purged, .purge purged ∈ more ∧ job ∈ purged) ∧ job.id ∉ s'.history.ids := by
  obtain ⟨text, job, hjob⟩ := exists_created_job
  obtain ⟨hid, -⟩ := of_parse_new hjob
  let h := History.empty.add job
  have hadd : Step (.initial 1) (.add ⟨0⟩)
      ⟨⟨h, .new 1, .idle, false, false⟩, [.kept ⟨0⟩], [⟨0⟩]⟩ := .add List.not_mem_nil hjob
  have henqueue : Step ⟨⟨h, .new 1, .idle, false, false⟩, [.kept ⟨0⟩], [⟨0⟩]⟩ (.enqueue ⟨0⟩)
      ⟨⟨h, ⟨1, [⟨0⟩], true⟩, .idle, false, false⟩, [], [⟨0⟩]⟩ := .enqueue List.mem_cons_self rfl
  have htake : Work ⟨h, ⟨1, [⟨0⟩], true⟩, .ready, false, false⟩ (.take ⟨0⟩)
      ⟨h, .new 1, .taken ⟨0⟩, false, false⟩ := .take rfl rfl
  have htaken := (((Trace.single hadd).snoc henqueue).snoc (.work (.proceed rfl rfl))).snoc
    (.work htake)
  have hcustody := custody_of_run htaken
  obtain ⟨job', scenario, hfind, -, -, -, hscenario⟩ :=
    hcustody.runnable (mem_held_of_stage List.mem_cons_self)
  let outcome : Annealing.Outcome := ⟨"0", "SedimentLoad", 0, 1⟩
  have hwrite : Work ⟨h, .new 1, .ended ⟨0⟩ (.ok outcome), false, false⟩ (.write ⟨0⟩)
      ⟨h.update ⟨0⟩ (·.finish "" (.ok outcome)), .new 1, .idle, false, false⟩ :=
    .write rfl (Option.isSome_of_eq_some hfind)
  have hrun := ((htaken.snoc (.work (.start rfl hscenario))).snoc (.work (.finish rfl))).snoc
    (.work hwrite)
  have hmem : job.finish "" (.ok outcome) ∈ (h.update ⟨0⟩ (·.finish "" (.ok outcome))).jobs :=
    (History.mem_update hcustody.nodup_ids).mpr (.inl ⟨job, List.mem_cons_self, hid, rfl⟩)
  obtain ⟨hlives, -, -, hkept⟩ := job_life_cycle hrun (.single .purge)
  refine ⟨_, _, _, _, _, hrun, .single .purge, hmem, rfl, (hlives _ hmem).2, ?_⟩
  refine (hkept _ hmem rfl).resolve_left fun hstays => ?_
  exact nomatch (History.mem_purge.mp hstays).2

end Interleaving

end CatchmentPlanning
