import CatchmentPlanning.Job.Worker
import CatchmentPlanning.Proofs.Job.History
import CatchmentPlanning.Proofs.Trace

/-!
# The worker at its desk, step by step

The worker takes one identifier after the other from the queue, looks the job up in the history,
runs its scenario, and writes what the run has found. Each of these is a moment (`Work`), and
anything else may happen between two of them. `Work` is the same whoever fills the queue; what
happens besides is said where it is used.

Between two jobs the worker looks first whether it is to shut down and then whether an identifier
waits. These are two moments as well: a request to shut down that comes in between is not noticed
before the worker looks again.

Where nothing comes between its moments, carrying a job out is what `Worker.process` says
(`exists_works_process`), and carrying out all jobs that wait is what `Worker.drain` says
(`exists_works_drain`).
-/

namespace CatchmentPlanning

namespace Interleaving

/-! ## What there is -/

/-- What the worker is doing. -/
inductive Stage where
  /-- It has nothing in hand. -/
  | idle
  /-- It has found no request to shut down, and has not asked for an identifier yet. -/
  | ready
  /-- An identifier has been taken, and the job has not been looked up yet. -/
  | taken (id : JobId)
  /-- The scenario of a job is being run. -/
  | running (id : JobId) (scenario : Scenario)
  /-- The run of a job has ended, and the job does not say so yet. -/
  | ended (id : JobId) (result : Except Annealing.Fault Annealing.Outcome)
  /-- The worker is gone. -/
  | stopped

namespace Stage

/-- The job that the worker has, if any. -/
def ids : Stage → List JobId
  | taken id | running id _ | ended id _ => [id]
  | idle | ready | stopped => []

/-- The job whose run has begun, if any. -/
def underWay : Stage → List JobId
  | running id _ | ended id _ => [id]
  | taken _ | idle | ready | stopped => []

/-- A job whose run has begun is one that the worker has. -/
theorem mem_ids_of_mem_underWay {stage : Stage} {id : JobId} (h : id ∈ stage.underWay) :
    id ∈ stage.ids := by
  cases stage <;> first | exact h | cases h

end Stage

/-- The worker and what it works with. -/
structure Desk where
  /-- Where the worker looks jobs up. -/
  history : History
  queue : Queue
  stage : Stage
  /-- Whether shutdown has been requested. -/
  cancelled : Bool
  /-- Whether nobody is left who could fill the queue. -/
  abandoned : Bool

/-- The desk at which a worker starts. -/
def Desk.initial (history : History) (capacity : Nat) : Desk :=
  ⟨history, .new capacity, .idle, false, false⟩

/-- What happens at a moment. -/
inductive Event where
  /-- A client puts a job that is at fault into the history. -/
  | reject (id : JobId)
  /-- A client puts a job into the history. -/
  | add (id : JobId)
  /-- The queue takes a job. -/
  | enqueue (id : JobId)
  /-- The queue refuses a job. -/
  | refuse (id : JobId) (fault : Queue.Fault)
  /-- The client takes a job that was refused out of the history again. -/
  | withdraw (id : JobId)
  /-- A client purges the history. -/
  | purge (purged : List Job)
  /-- A client is shown the history. -/
  | list (jobs : List Job)
  /-- A client is shown what is found under an identifier. -/
  | look (id : JobId) (found : Option Job)
  /-- The worker looks for a request to shut down, and there is none. -/
  | proceed
  /-- The worker asks for an identifier, and none waits. -/
  | wait
  /-- The worker takes the next identifier. -/
  | take (id : JobId)
  /-- The worker passes a job over. -/
  | skip (id : JobId)
  /-- The worker begins to run a job. -/
  | start (id : JobId) (scenario : Scenario)
  /-- The run of a job ends: it has found something, has failed, or was aborted. -/
  | finish (id : JobId) (result : Except Annealing.Fault Annealing.Outcome)
  /-- The worker writes to the history what the run has found. -/
  | write (id : JobId)
  /-- The worker finds no job to write to. -/
  | lose (id : JobId)
  /-- Shutdown is requested. -/
  | shutdown
  /-- The last one who could fill the queue is gone. -/
  | abandon
  /-- The worker goes, and jobs that were waiting are lost. -/
  | stop (lost : List JobId)

/-! ## The moments of the worker -/

variable {d d' : Desk} {event : Event} {id : JobId} {log more : List Event}

/-- When the worker goes: it finds a request to shut down, or asks for an identifier when none
waits and nobody is left to fill the queue. -/
inductive Desk.IsOver (d : Desk) : Prop
  | cancelled (hidle : d.stage = .idle) (hcancelled : d.cancelled = true)
  | abandoned (hready : d.stage = .ready) (habandoned : d.abandoned = true)
      (hempty : d.queue.waiting = [])

/-- **One moment of the worker.** -/
inductive Work (d : Desk) : Event → Desk → Prop
  | proceed (hidle : d.stage = .idle) (hcancelled : d.cancelled = false) :
      Work d .proceed { d with stage := .ready }
  | wait (hready : d.stage = .ready) (habandoned : d.abandoned = false)
      (hempty : d.queue.waiting = []) : Work d .wait { d with stage := .idle }
  | take {id : JobId} {queue : Queue} (hready : d.stage = .ready)
      (hqueue : d.queue.take? = some (id, queue)) :
      Work d (.take id) { d with queue, stage := .taken id }
  | skip {id : JobId} (htaken : d.stage = .taken id)
      (hnone : Worker.scenario? d.history id = none) : Work d (.skip id) { d with stage := .idle }
  | start {id : JobId} {scenario : Scenario} (htaken : d.stage = .taken id)
      (hscenario : Worker.scenario? d.history id = some scenario) :
      Work d (.start id scenario) { d with stage := .running id scenario }
  | finish {id : JobId} {scenario : Scenario}
      {result : Except Annealing.Fault Annealing.Outcome}
      (hrunning : d.stage = .running id scenario) :
      Work d (.finish id result) { d with stage := .ended id result }
  | write {id : JobId} {result : Except Annealing.Fault Annealing.Outcome} {now : String}
      (hended : d.stage = .ended id result) (hfound : (d.history.find? id).isSome) :
      Work d (.write id) { d with
        history := d.history.update id (·.finish now result)
        stage := .idle }
  | lose {id : JobId} {result : Except Annealing.Fault Annealing.Outcome}
      (hended : d.stage = .ended id result) (hlost : d.history.find? id = none) :
      Work d (.lose id) { d with stage := .idle }
  | stop (hover : d.IsOver) :
      Work d (.stop d.queue.waiting) { d with queue := d.queue.dismiss, stage := .stopped }

/-- The worker goes between two jobs. -/
theorem Desk.IsOver.ids_stage (h : d.IsOver) : d.stage.ids = [] ∧ d.stage ≠ .stopped := by
  cases h with
  | cancelled hidle => exact ⟨by rw [hidle]; rfl, by rw [hidle]; nofun⟩
  | abandoned hready => exact ⟨by rw [hready]; rfl, by rw [hready]; nofun⟩

/-- The worker neither requests shutdown nor gives the queue up. -/
theorem Work.signals (h : Work d event d') :
    d'.cancelled = d.cancelled ∧ d'.abandoned = d.abandoned := by
  cases h <;> exact ⟨rfl, rfl⟩

/-! ## What the worker does to the history -/

/-- **The worker changes the history only by writing** what the run of a job has found. -/
theorem Work.history_cases (h : Work d event d') :
    d'.history = d.history
      ∨ ∃ id now result, event = .write id ∧ d.stage = .ended id result
        ∧ d'.history = d.history.update id (·.finish now result) := by
  cases h with
  | write hended => exact .inr ⟨_, _, _, rfl, hended, rfl⟩
  | proceed | wait | take | skip | start | finish | lose | stop => exact .inl rfl

section

variable {job job' : Job} (h : Work d event d') (hnodup : d.history.ids.Nodup)

include h hnodup

/-- A job was there before, or it is one of which the worker has just written what its run has
found. -/
theorem Work.mem_or_finish (hjob : job' ∈ d'.history.jobs) :
    job' ∈ d.history.jobs ∨ ∃ job ∈ d.history.jobs, ∃ now result, event = .write job.id
      ∧ d.stage = .ended job.id result ∧ job' = job.finish now result := by
  obtain hsame | ⟨_, now, result, hevent, hended, hupdate⟩ := h.history_cases
  · exact .inl (hsame ▸ hjob)
  · obtain ⟨job, hold, rfl, heq⟩ | ⟨hold, -⟩ := (History.mem_update hnodup).mp (hupdate ▸ hjob)
    · exact .inr ⟨job, hold, now, result, hevent, hended, heq⟩
    · exact .inl hold

/-- The worker leaves a job alone that it does not have. -/
theorem Work.mem_of_not_mem_ids (hjob : job ∈ d.history.jobs) (hid : job.id ∉ d.stage.ids) :
    job ∈ d'.history.jobs := by
  obtain hsame | ⟨_, _, _, -, hended, hupdate⟩ := h.history_cases
  · exact hsame ▸ hjob
  · refine hupdate ▸ (History.mem_update hnodup).mpr (.inr ⟨hjob, fun heq => hid ?_⟩)
    rw [hended]
    exact List.mem_singleton.mpr heq

/-- The worker puts no job into the history, and takes none out. -/
theorem Work.ids_history : d'.history.ids = d.history.ids := by
  obtain hsame | ⟨_, now, result, -, -, hupdate⟩ := h.history_cases
  · rw [hsame]
  · rw [hupdate]
    exact History.ids_update hnodup fun job => Job.id_finish job now result

end

/-! ## Where nothing comes in between -/

/-- **Carrying a job out without interruption** is what the worker does with an identifier it has
taken. -/
theorem exists_works_process (hidle : d.stage = .idle) (hcancelled : d.cancelled = false)
    {queue : Queue} (htake : d.queue.take? = some (id, queue)) (runner : Runner) (now : String) :
    ∃ log, Trace Work d log { d with
      history := (Worker.process runner now d.history id).2, queue, stage := .idle } := by
  have hrun := (Trace.single (Work.proceed hidle hcancelled)).snoc (.take rfl htake)
  unfold Worker.process
  cases hscenario : Worker.scenario? d.history id with
  | none => exact ⟨_, hrun.snoc (.skip rfl hscenario)⟩
  | some scenario =>
    have hfound := Worker.isSome_find?_of_scenario? hscenario
    exact ⟨_, ((hrun.snoc (.start rfl hscenario)).snoc (.finish rfl)).snoc (.write rfl hfound)⟩

/-- **Carrying out all jobs that wait** is what the worker does while nobody else does anything. -/
theorem exists_works_drain (runner : Runner) (now : String) (queue : Queue)
    (waiting : List JobId) (history : History) (abandoned : Bool) :
    ∃ log, Trace Work ⟨history, { queue with waiting }, .idle, false, abandoned⟩ log
      ⟨(Worker.drain runner now history waiting).2, { queue with waiting := [] }, .idle, false,
        abandoned⟩ := by
  induction waiting generalizing history with
  | nil => exact ⟨[], .nil⟩
  | cons id rest ih =>
    let d : Desk := ⟨history, { queue with waiting := id :: rest }, .idle, false, abandoned⟩
    have htake : d.queue.take? = some (id, { queue with waiting := rest }) := rfl
    obtain ⟨log, hprocess⟩ := exists_works_process rfl rfl htake runner now
    obtain ⟨more, hdrain⟩ := ih (Worker.process runner now history id).2
    exact ⟨log ++ more, hprocess.append hdrain⟩

end Interleaving

end CatchmentPlanning
