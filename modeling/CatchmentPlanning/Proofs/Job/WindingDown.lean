import CatchmentPlanning.Proofs.Job.Dispatch

/-!
# How the worker ends

A request to shut down is noticed between two rounds only, where the worker looks for it. A round
that the worker has begun is always completed; and if it has just looked and found no request, it
still takes an identifier that waits, and completes one more round. What is left for it to do at
a stage is `Closes`, and what happens after the request is exactly this (`WindsDown`), which the
worker can always do by itself (`exists_run_closes`). So the request does not keep every job from
being started (`job_started_after_shutdown`), but one at most is started after it.

`serial_execution` puts the line in front of the worker, the rounds, and the end
together.
-/

namespace CatchmentPlanning

namespace Dispatch

open Interleaving (Desk Event Stage Work enqueued started)

variable {d d' : Desk} {log more : List Event} {event : Event} {id : JobId} {capacity : Nat}

/-! ## What is left to do -/

/-- What the worker still does at a stage, if it is to shut down. -/
inductive Closes : Stage → List Event → Prop
  | idle : Closes .idle []
  | ready : Closes .ready []
  /-- It has not found the request, and takes one identifier more. -/
  | take (id : JobId) {rest : List Event} (hrest : Closes (.taken id) rest) :
      Closes .ready (.take id :: rest)
  | skip (id : JobId) : Closes (.taken id) [.skip id]
  | start (id : JobId) (scenario : Scenario)
      (result : Except Annealing.Fault Annealing.Outcome) :
      Closes (.taken id) [.start id scenario, .finish id result, .write id]
  | finish (id : JobId) (scenario : Scenario)
      (result : Except Annealing.Fault Annealing.Outcome) :
      Closes (.running id scenario) [.finish id result, .write id]
  | write (id : JobId) (result : Except Annealing.Fault Annealing.Outcome) :
      Closes (.ended id result) [.write id]
  | stopped : Closes .stopped []

/-- Nothing need be left to do where the worker has no job. -/
theorem exists_closes (stage : Stage) :
    ∃ rest, Closes stage rest ∧ (stage.ids = [] → rest = []) := by
  cases stage with
  | idle => exact ⟨_, .idle, fun _ => rfl⟩
  | ready => exact ⟨_, .ready, fun _ => rfl⟩
  | taken id => exact ⟨_, .skip id, nofun⟩
  | running id scenario => exact ⟨_, .finish id scenario (.error .noFeasibleState), nofun⟩
  | ended id result => exact ⟨_, .write id result, nofun⟩
  | stopped => exact ⟨_, .stopped, fun _ => rfl⟩

/-- What is read off the log of a worker is read off what the worker has done. -/
theorem filterMap_work {α : Type} {read : Event → Option α}
    (hread : ∀ event, isWork event = false → read event = none) (log : List Event) :
    (work log).filterMap read = log.filterMap read := by
  rw [work, List.filterMap_filter]
  refine List.filterMap_congr fun event _ => ?_
  cases hwork : isWork event with
  | true => rfl
  | false => exact (hread event hwork).symm

theorem taken_work (log : List Event) : taken (work log) = taken log :=
  filterMap_work (fun event h => by cases event <;> first | rfl | cases h) log

theorem started_work (log : List Event) : started (work log) = started log :=
  filterMap_work (fun event h => by cases event <;> first | rfl | cases h) log

theorem eq_nil_or_eq_of_prefix_singleton {α : Type} {l : List α} {a : α} (h : l <+: [a]) :
    l = [] ∨ l = [a] := by
  obtain rfl | ⟨rest, rfl, hrest⟩ := List.prefix_cons_iff.mp h
  · exact .inl rfl
  · exact .inr (congrArg _ (List.prefix_nil.mp hrest))

section

variable {stage : Stage} {rest done : List Event}

/-- Of a round whose identifier has been taken no other job is started. -/
theorem Closes.of_taken (h : Closes (.taken id) rest) (hdone : done <+: rest) :
    taken done = [] ∧ (started done = [] ∨ started done = [id]) := by
  have htaken : taken done <+: taken rest := hdone.filterMap _
  have hstarted : started done <+: started rest := hdone.filterMap _
  cases h with
  | skip => exact ⟨List.prefix_nil.mp htaken, .inl (List.prefix_nil.mp hstarted)⟩
  | start => exact ⟨List.prefix_nil.mp htaken, eq_nil_or_eq_of_prefix_singleton hstarted⟩

/-- **One identifier at most is taken**, by a worker that had looked for the request before. -/
theorem Closes.taken_le (h : Closes stage rest) (hdone : done <+: rest) :
    taken done = [] ∨ stage = .ready ∧ ∃ id, taken done = [id] := by
  cases h with
  | take id hrest =>
    obtain rfl | ⟨done, rfl, hdone'⟩ := List.prefix_cons_iff.mp hdone
    · exact .inl rfl
    · exact .inr ⟨rfl, id, congrArg _ (hrest.of_taken hdone').1⟩
  | idle | ready | skip | start | finish | write | stopped =>
    exact .inl (List.prefix_nil.mp (hdone.filterMap taken?))

/-- **One job at most is started**: the one that had been taken, or the one that is taken. -/
theorem Closes.started_le (h : Closes stage rest) (hdone : done <+: rest) :
    started done = [] ∨ ∃ id, started done = [id]
      ∧ (stage = .taken id ∨ stage = .ready ∧ taken done = [id]) := by
  cases h with
  | take id hrest =>
    obtain rfl | ⟨done, rfl, hdone'⟩ := List.prefix_cons_iff.mp hdone
    · exact .inl rfl
    · obtain ⟨hnone, hstarted⟩ := hrest.of_taken hdone'
      exact hstarted.imp_right fun hone => ⟨id, hone, .inr ⟨rfl, congrArg _ hnone⟩⟩
  | start id scenario result =>
    exact ((Closes.start id scenario result).of_taken hdone).2.imp_right fun hone =>
      ⟨id, hone, .inl rfl⟩
  | idle | ready | skip | finish | write | stopped =>
    exact .inl (List.prefix_nil.mp (hdone.filterMap Event.started?))

end

/-! ## After shutdown has been requested -/

/-- **The worker winds down**: from one moment to a later one it does nothing but
what is left for it to do, and it does not stop before it is through. -/
structure WindsDown (d : Desk) (more : List Event) (d' : Desk) : Prop where
  rest : ∃ rest, Closes d.stage rest ∧ work more <+: rest
    ∧ (d'.stage.ids = [] → work more = rest)
  /-- No further identifier is taken, unless the worker had looked for the request just before it
  came. -/
  taken : taken more = [] ∨ d.stage = .ready ∧ ∃ id, taken more = [id]
  /-- One job at most is started, which had been taken before, or is taken so. -/
  started : started more = [] ∨ ∃ id, started more = [id]
    ∧ (d.stage = .taken id ∨ d.stage = .ready ∧ Dispatch.taken more = [id])

theorem cancelled_of_run (hmore : Run d more d') (hcancelled : d.cancelled = true) :
    d'.cancelled = true := by
  induction hmore with
  | nil => exact hcancelled
  | snoc _ hstep ih =>
    cases hstep with
    | enqueue | refuse | meanwhile | abandon => exact ih
    | shutdown => rfl
    | work hwork => exact hwork.signals.1.trans ih

/-- What is left to do before a moment of the worker is what it does then, and what is left after
it. -/
theorem closes_of_work (hserial : Serial log d) (hcancelled : d.cancelled = true)
    (hwork : Work d event d') {rest : List Event} (hcloses : Closes d'.stage rest) :
    Closes d.stage ((if isWork event then [event] else []) ++ rest) := by
  cases hwork with
  | proceed _ hup =>
    rw [hcancelled] at hup
    cases hup
  | wait hready =>
    rw [hready]
    cases hcloses
    exact .ready
  | take hready =>
    rw [hready]
    exact .take _ hcloses
  | skip htaken =>
    rw [htaken]
    cases hcloses
    exact .skip _
  | start htaken =>
    rw [htaken]
    cases hcloses
    exact .start _ _ _
  | finish hrunning =>
    rw [hrunning]
    cases hcloses
    exact .finish _ _ _
  | write hended =>
    rw [hended]
    cases hcloses
    exact .write _ _
  | lose hended hlost => exact absurd (.lose hended hlost) hserial.not_lose
  | stop hover =>
    cases hcloses
    cases hover with
    | cancelled hidle => exact hidle ▸ .idle
    | abandoned hready => exact hready ▸ .ready

theorem closes_of_step (hserial : Serial log d) (hcancelled : d.cancelled = true)
    (hstep : Step d event d') {rest : List Event} (hcloses : Closes d'.stage rest) :
    Closes d.stage ((if isWork event then [event] else []) ++ rest) := by
  cases hstep with
  | enqueue | refuse | shutdown | abandon => exact hcloses
  | meanwhile haside =>
    rw [haside.quiet.2.2.2]
    exact hcloses
  | work hwork => exact closes_of_work hserial hcancelled hwork hcloses

/-! ## The worker comes through -/

theorem exists_write {result : Except Annealing.Fault Annealing.Outcome}
    (hended : d.stage = .ended id result) (hfound : (d.history.find? id).isSome) :
    ∃ d', Step d (.write id) d' ∧ d'.stage.ids = [] :=
  ⟨_, .work (@Work.write d id result "" hended hfound), rfl⟩

theorem exists_run_finish {scenario : Scenario} (hrunning : d.stage = .running id scenario)
    (hfound : (d.history.find? id).isSome) (result : Except Annealing.Fault Annealing.Outcome) :
    ∃ d', Run d [.finish id result, .write id] d' ∧ d'.stage.ids = [] := by
  obtain ⟨d', hwrite, hidle⟩ :=
    exists_write (d := { d with stage := .ended id result }) rfl hfound
  exact ⟨d', (Trace.single (.work (.finish hrunning))).snoc hwrite, hidle⟩

section

variable {history : History} (hrun : Run (.initial history capacity) log d)

include hrun

theorem closes_of_run (hmore : Run d more d') (hcancelled : d.cancelled = true) :
    ∀ {rest : List Event}, Closes d'.stage rest → Closes d.stage (work more ++ rest) := by
  induction hmore with
  | nil => exact id
  | snoc hrun' hstep ih =>
    intro rest hcloses
    -- the last moment goes to the rest before the earlier ones are considered
    rw [work_snoc, List.append_assoc]
    exact ih (closes_of_step (serial_of_run (hrun.append hrun'))
      (cancelled_of_run hrun' hcancelled) hstep hcloses)

theorem windsDown_of_run (hmore : Run d more d') (hcancelled : d.cancelled = true) :
    WindsDown d more d' := by
  obtain ⟨rest, hrest, hnone⟩ := exists_closes d'.stage
  have hcloses := closes_of_run hrun hmore hcancelled hrest
  have hdone : work more <+: work more ++ rest := List.prefix_append ..
  refine ⟨⟨_, hcloses, hdone, fun hids => ?_⟩, ?_, ?_⟩
  · rw [hnone hids, List.append_nil]
  · rw [← taken_work more]
    exact hcloses.taken_le hdone
  · rw [← taken_work more, ← started_work more]
    exact hcloses.started_le hdone

/-- **The worker comes through its round** without anybody's help, whatever its run
finds. -/
theorem exists_run_closes (result : Except Annealing.Fault Annealing.Outcome) :
    ∃ rest d', Run d rest d' ∧ Closes d.stage rest ∧ d'.stage.ids = []
      ∧ ∀ id result', .finish id result' ∈ rest → result' = result := by
  have hfound := (serial_of_run hrun).found
  cases hs : d.stage with
  | idle => exact ⟨[], d, .nil, .idle, by rw [hs]; rfl, nofun⟩
  | ready => exact ⟨[], d, .nil, .ready, by rw [hs]; rfl, nofun⟩
  | stopped => exact ⟨[], d, .nil, .stopped, by rw [hs]; rfl, nofun⟩
  | taken id =>
    cases hscenario : Worker.scenario? d.history id with
    | none =>
      exact ⟨_, _, .single (.work (.skip hs hscenario)), .skip id, rfl, by simp⟩
    | some scenario =>
      have hjob := Worker.isSome_find?_of_scenario? hscenario
      obtain ⟨d', hrest, hidle⟩ :=
        exists_run_finish (d := { d with stage := .running id scenario }) rfl hjob result
      exact ⟨_, d', (Trace.single (.work (.start hs hscenario))).append hrest,
        .start id scenario result, hidle, by simp⟩
  | running id scenario =>
    rw [hs] at hfound
    obtain ⟨d', hrest, hidle⟩ := exists_run_finish hs (hfound id List.mem_cons_self) result
    exact ⟨_, d', hrest, .finish id scenario result, hidle, by simp⟩
  | ended id result' =>
    rw [hs] at hfound
    obtain ⟨d', hwrite, hidle⟩ := exists_write hs (hfound id List.mem_cons_self)
    exact ⟨_, d', .single hwrite, .write id result', hidle, by simp⟩

end

/-! ## Serial execution -/

/-- **Jobs are carried out one after the other, in order, and nobody waits for room.**
Whoever offers which identifiers at which moments: the worker takes them in the order
in which the queue has taken them; no more of them wait than there is room for, and
another one is refused exactly if there is no room or no worker; the worker is done
with a job, its outcome written if it was run, before it takes the next one, and what
is written is what the run has found, has failed with, or was aborted with. Once
shutdown is requested the worker completes the round that it is in, and nothing can keep
it from doing so. It takes no further identifier, unless it had looked for the request
just before it came: then it takes one more at most. So one job at most is started after
the request, and this one has been taken before, or is taken so. -/
theorem serial_execution {history : History} (hrun : Run (.initial history capacity) log d)
    (hmore : Run d more d') :
    taken log <+: enqueued log
      ∧ Backpressure capacity d
      ∧ Serial log d
      ∧ (∀ id d₂, Step d (.write id) d₂ → ∃ job now result, d.stage = .ended id result
          ∧ d.history.find? id = some job ∧ d₂.history.find? id = some (job.finish now result))
      ∧ (d.cancelled = true → WindsDown d more d')
      ∧ ∀ result, ∃ rest d₂, Run d rest d₂ ∧ Closes d.stage rest ∧ d₂.stage.ids = []
          ∧ ∀ id result', .finish id result' ∈ rest → result' = result := by
  have hline := line_of_run hrun
  refine ⟨?_, hline.backpressure, serial_of_run hrun, fun id d₂ => exists_written,
    windsDown_of_run hrun hmore, exists_run_closes hrun⟩
  rw [hline.enqueued, List.append_assoc]
  exact List.prefix_append ..

/-- There is a job that can be started. -/
theorem exists_scenario :
    ∃ history scenario, Worker.scenario? history ⟨0⟩ = some scenario := by
  obtain ⟨text, job, hjob⟩ := Interleaving.exists_created_job
  obtain ⟨hid, hcreated, scenario, -, hscenario⟩ := Interleaving.of_parse_new_eq_none hjob
  have hfind : (History.empty.add job).find? ⟨0⟩ = some job := hid ▸ History.find?_add_self ..
  refine ⟨.add .empty job, scenario, ?_⟩
  simp only [Worker.scenario?, hfind, hcreated]
  exact hscenario

/-- Where there is room for one job a second one is refused, and shutdown is requested
while the first one is run; the run is aborted, and the worker writes so and goes. -/
theorem serial_execution_until_aborted :
    ∃ history log more d d', Run (.initial history 0) log d ∧ Run d more d'
      ∧ enqueued log = [⟨0⟩] ∧ .refuse ⟨1⟩ (.full 1) ∈ log ∧ d.cancelled = true
      ∧ d.stage.underWay = [⟨0⟩] ∧ d'.stage = .stopped
      ∧ Backpressure 0 d ∧ Serial log d ∧ WindsDown d more d' := by
  obtain ⟨h, scenario, hscenario⟩ := exists_scenario
  let aborted : Except Annealing.Fault Annealing.Outcome := .error (.aborted "panic")
  let h' := h.update ⟨0⟩ (·.finish "" aborted)
  have henqueue : Step (.initial h 0) (.enqueue ⟨0⟩) ⟨h, ⟨1, [⟨0⟩], true⟩, .idle, false, false⟩ :=
    .enqueue rfl rfl
  have hrefuse : Step ⟨h, ⟨1, [⟨0⟩], true⟩, .idle, false, false⟩ (.refuse ⟨1⟩ (.full 1))
      ⟨h, ⟨1, [⟨0⟩], true⟩, .idle, false, false⟩ := .refuse rfl rfl
  have htake : Work ⟨h, ⟨1, [⟨0⟩], true⟩, .ready, false, false⟩ (.take ⟨0⟩)
      ⟨h, .new 0, .taken ⟨0⟩, false, false⟩ := .take rfl rfl
  have hrun := (((((Trace.single henqueue).snoc hrefuse).snoc (.work (.proceed rfl rfl))).snoc
    (.work htake)).snoc (.work (.start rfl hscenario))).snoc .shutdown
  have hfinish : Work ⟨h, .new 0, .running ⟨0⟩ scenario, true, false⟩ (.finish ⟨0⟩ aborted)
      ⟨h, .new 0, .ended ⟨0⟩ aborted, true, false⟩ := .finish rfl
  have hwrite : Work ⟨h, .new 0, .ended ⟨0⟩ aborted, true, false⟩ (.write ⟨0⟩)
      ⟨h', .new 0, .idle, true, false⟩ :=
    .write rfl (Worker.isSome_find?_of_scenario? hscenario)
  have hstop : Work ⟨h', .new 0, .idle, true, false⟩ (.stop [])
      ⟨h', ⟨1, [], false⟩, .stopped, true, false⟩ := .stop (.cancelled rfl rfl)
  have hmore := ((Trace.single (Step.work hfinish)).snoc (.work hwrite)).snoc (.work hstop)
  obtain ⟨-, hbackpressure, hserial, -, hwinds, -⟩ := serial_execution hrun hmore
  exact ⟨h, _, _, _, _, hrun, hmore, rfl, by simp, rfl, rfl, rfl, hbackpressure, hserial,
    hwinds rfl⟩

/-- **A job can be started after shutdown has been requested**: the worker looks for the request
before it asks for an identifier, and not again before it starts the job. The request may come
after the identifier has been taken, or just before it is taken. -/
theorem job_started_after_shutdown :
    ∃ history scenario,
      (∃ d d', Run (.initial history 1) [.enqueue ⟨0⟩, .proceed, .take ⟨0⟩, .shutdown] d
        ∧ d.cancelled = true ∧ Run d [.start ⟨0⟩ scenario] d')
      ∧ ∃ d d', Run (.initial history 1) [.enqueue ⟨0⟩, .proceed, .shutdown] d
        ∧ d.cancelled = true ∧ Run d [.take ⟨0⟩, .start ⟨0⟩ scenario] d' := by
  obtain ⟨h, scenario, hscenario⟩ := exists_scenario
  have henqueue : Step (.initial h 1) (.enqueue ⟨0⟩) ⟨h, ⟨1, [⟨0⟩], true⟩, .idle, false, false⟩ :=
    .enqueue rfl rfl
  have hready := (Trace.single henqueue).snoc (.work (.proceed rfl rfl))
  have htake (cancelled : Bool) : Work ⟨h, ⟨1, [⟨0⟩], true⟩, .ready, cancelled, false⟩
      (.take ⟨0⟩) ⟨h, .new 1, .taken ⟨0⟩, cancelled, false⟩ := .take rfl rfl
  have hstart : Step ⟨h, .new 1, .taken ⟨0⟩, true, false⟩ (.start ⟨0⟩ scenario)
      ⟨h, .new 1, .running ⟨0⟩ scenario, true, false⟩ := .work (.start rfl hscenario)
  exact ⟨h, scenario,
    ⟨_, _, (hready.snoc (.work (htake false))).snoc .shutdown, rfl, .single hstart⟩,
    ⟨_, _, hready.snoc .shutdown, rfl, (Trace.single (.work (htake true))).snoc hstart⟩⟩

end Dispatch

end CatchmentPlanning
