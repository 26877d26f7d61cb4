import CatchmentPlanning.Proofs.Job.Ledger

/-!
# The queue and the worker by themselves

How the queue and the worker behave does not depend on who fills the queue. Here
any number of producers offer identifiers of any kind at any moment, the same one
twice or one of no job included, and the history changes in between as it likes. It
only has to leave the job alone that is being run (`Step.meanwhile`). Posting jobs
is one such way to fill the queue (`run_of_posting`).

What the worker does is a sequence of rounds (`Round`): it takes an identifier, and
either passes it over or starts a run, sees it end, and writes what it has found.
The log of a run, seen from the worker, consists of complete rounds and the
beginning of the one that it is in (`Serial`).
-/

namespace CatchmentPlanning

namespace Dispatch

open Interleaving (Desk Event Stage Work enqueued lost enqueued_snoc lost_snoc)

/-! ## Steps -/

/-- Whether neither the queue nor the worker has a part in what happens. -/
def IsAside : Event → Prop
  | .reject _ | .add _ | .withdraw _ | .purge _ | .list _ | .look .. => True
  | _ => False

/-- **One moment**, of whoever fills the queue, of the worker, or of somebody else. The queue is
filled as long as it is not abandoned. -/
inductive Step (d : Desk) : Event → Desk → Prop
  | enqueue {id : JobId} {queue : Queue} (hhandle : d.abandoned = false)
      (hqueue : d.queue.enqueue id = .ok queue) : Step d (.enqueue id) { d with queue }
  | refuse {id : JobId} {fault : Queue.Fault} (hhandle : d.abandoned = false)
      (hqueue : d.queue.enqueue id = .error fault) : Step d (.refuse id fault) d
  | meanwhile {event : Event} {history : History} (haside : IsAside event)
      (hkept : ∀ id ∈ d.stage.underWay, history.find? id = d.history.find? id) :
      Step d event { d with history }
  | shutdown : Step d .shutdown { d with cancelled := true }
  | abandon : Step d .abandon { d with abandoned := true }
  | work {event : Event} {desk : Desk} (hwork : Work d event desk) : Step d event desk

/-- **One moment after the other**, with what has happened in order. -/
abbrev Run : Desk → List Event → Desk → Prop := Trace Step

variable {d d' : Desk} {log more : List Event} {event : Event} {id : JobId} {capacity : Nat}

/-! ## What the log says -/

/-- The identifier that the worker takes. -/
def taken? : Event → Option JobId
  | .take id => some id
  | _ => none

/-- The identifiers that the worker has taken, in order. -/
def taken (log : List Event) : List JobId := log.filterMap taken?

@[simp] theorem taken_snoc (log : List Event) (event : Event) :
    taken (log ++ [event]) = taken log ++ (taken? event).toList :=
  Interleaving.filterMap_snoc ..

/-- Whether the worker does something with a job. -/
def isWork : Event → Bool
  | .take _ | .skip _ | .start .. | .finish .. | .write _ | .lose _ => true
  | _ => false

/-- What the worker has done, in order. -/
def work (log : List Event) : List Event := log.filter isWork

@[simp] theorem work_snoc (log : List Event) (event : Event) :
    work (log ++ [event]) = work log ++ (if isWork event then [event] else []) := by
  rw [work, List.filter_append]
  cases event <;> rfl

/-! ## Rounds -/

/-- What the worker does with one identifier. -/
inductive Round where
  /-- There is nothing to carry out. -/
  | passed (id : JobId)
  /-- The scenario of the job is run: the run finds something, fails, or is aborted. -/
  | ran (id : JobId) (scenario : Scenario) (result : Except Annealing.Fault Annealing.Outcome)

/-- The moments of a round. -/
def Round.events : Round → List Event
  | passed id => [.take id, .skip id]
  | ran id scenario result => [.take id, .start id scenario, .finish id result, .write id]

/-- The moments of a round that are over at a stage. -/
inductive Opens : Stage → List Event → Prop
  | idle : Opens .idle []
  | ready : Opens .ready []
  | taken (id : JobId) : Opens (.taken id) [.take id]
  | running (id : JobId) (scenario : Scenario) :
      Opens (.running id scenario) [.take id, .start id scenario]
  | ended (id : JobId) (scenario : Scenario)
      (result : Except Annealing.Fault Annealing.Outcome) :
      Opens (.ended id result) [.take id, .start id scenario, .finish id result]
  | stopped : Opens .stopped []

/-- Between two rounds there is no round. -/
theorem opens_iff_of_ids_eq_nil {stage : Stage} {opened : List Event} (hids : stage.ids = []) :
    Opens stage opened ↔ opened = [] := by
  constructor
  · rintro (_ | _ | _ | _ | _ | _)
    · rfl
    · rfl
    · cases hids
    · cases hids
    · cases hids
    · rfl
  · rintro rfl
    cases stage with
    | idle => exact .idle
    | ready => exact .ready
    | stopped => exact .stopped
    | taken | running | ended => cases hids

/-! ## The order of jobs -/

/-- What neither the queue nor the worker has a part in is not noticed by them. -/
theorem IsAside.quiet (h : IsAside event) :
    event.enqueued? = none ∧ taken? event = none ∧ event.lost = [] ∧ isWork event = false := by
  cases event with
  | reject | add | withdraw | purge | list | look => exact ⟨rfl, rfl, rfl, rfl⟩
  | enqueue | refuse | proceed | wait | take | skip | start | finish | write | lose | shutdown
  | abandon | stop => exact h.elim

/-- **The queue is a line with bounded room**, in front of the worker. -/
structure Line (capacity : Nat) (log : List Event) (d : Desk) : Prop where
  capacity_eq : d.queue.capacity = max 1 capacity
  room : d.queue.waiting.length ≤ max 1 capacity
  enqueued : enqueued log = taken log ++ d.queue.waiting ++ lost log
  /-- Nothing has been lost as long as there is a worker. -/
  lost : d.stage ≠ .stopped → lost log = []
  hasWorker : d.queue.hasWorker = true ↔ d.stage ≠ .stopped

theorem line_initial (history : History) (capacity : Nat) :
    Line capacity [] (.initial history capacity) where
  capacity_eq := Nat.max_comm ..
  room := Nat.zero_le _
  enqueued := rfl
  lost _ := rfl
  hasWorker := iff_of_true rfl nofun

/-- What moves nothing in the line. -/
theorem Line.quiet (h : Line capacity log d) (henqueued : event.enqueued? = none)
    (htaken : taken? event = none) (hlost : event.lost = []) (hqueue : d'.queue = d.queue)
    (hstage : d'.stage = .stopped ↔ d.stage = .stopped) : Line capacity (log ++ [event]) d' where
  capacity_eq := hqueue ▸ h.capacity_eq
  room := hqueue ▸ h.room
  enqueued := by
    rw [enqueued_snoc, taken_snoc, lost_snoc, henqueued, htaken, hlost, hqueue, h.enqueued]
    simp
  lost hs := by
    rw [lost_snoc, hlost, List.append_nil]
    exact h.lost (mt hstage.mpr hs)
  hasWorker := by
    rw [hqueue, h.hasWorker]
    exact not_congr hstage.symm

/-- **One moment of the worker keeps the line.** -/
theorem Line.work (h : Line capacity log d) (hwork : Work d event d') :
    Line capacity (log ++ [event]) d' := by
  cases hwork with
  | take hready hqueue =>
    obtain ⟨rest, hwaiting, rfl⟩ := Queue.take?_eq_some_iff.mp hqueue
    have hstage : d.stage ≠ .stopped := by simp [hready]
    refine ⟨h.capacity_eq, ?_, ?_, fun _ => ?_, iff_of_true (h.hasWorker.mpr hstage) (by simp)⟩
    · have hroom := h.room
      rw [hwaiting] at hroom
      exact Nat.le_of_succ_le hroom
    · rw [enqueued_snoc, taken_snoc, lost_snoc, h.enqueued, h.lost hstage, hwaiting]
      simp [Event.enqueued?, taken?, Event.lost]
    · rw [lost_snoc, h.lost hstage]
      rfl
  | stop hover =>
    refine ⟨h.capacity_eq, Nat.zero_le _, ?_, fun hs => absurd rfl hs,
      iff_of_false Bool.false_ne_true (absurd rfl)⟩
    rw [enqueued_snoc, taken_snoc, lost_snoc, h.enqueued, h.lost hover.ids_stage.2]
    simp [Event.enqueued?, taken?, Event.lost, Queue.dismiss]
  | proceed hs | wait hs | skip hs | start hs | finish hs | write hs | lose hs =>
    exact h.quiet rfl rfl rfl rfl (by simp [hs])

/-- **One moment keeps the line.** -/
theorem Line.step (h : Line capacity log d) (hstep : Step d event d') :
    Line capacity (log ++ [event]) d' := by
  cases hstep with
  | enqueue _ hqueue =>
    obtain ⟨hworker, hroom, rfl⟩ := Queue.enqueue_eq_ok_iff.mp hqueue
    have hlost := h.lost (h.hasWorker.mp hworker)
    refine ⟨h.capacity_eq, ?_, ?_, fun hs => ?_, h.hasWorker⟩
    · rw [h.capacity_eq] at hroom
      rw [List.length_append]
      exact hroom
    · rw [enqueued_snoc, taken_snoc, lost_snoc, h.enqueued, hlost]
      simp [Event.enqueued?, taken?, Event.lost]
    · rw [lost_snoc, hlost]
      rfl
  | meanwhile haside _ =>
    obtain ⟨henqueued, htaken, hlost, -⟩ := haside.quiet
    exact h.quiet henqueued htaken hlost rfl .rfl
  | refuse | shutdown | abandon => exact h.quiet rfl rfl rfl rfl .rfl
  | work hwork => exact h.work hwork

theorem line_of_run {history : History} (h : Run (.initial history capacity) log d) :
    Line capacity log d := by
  induction h with
  | nil => exact line_initial history capacity
  | snoc _ hstep ih => exact ih.step hstep

/-- **Whoever fills the queue is told at once** if there is no room in it. -/
structure Backpressure (capacity : Nat) (d : Desk) : Prop where
  room : d.queue.waiting.length ≤ max 1 capacity
  refused : ∀ id fault, d.queue.enqueue id = .error fault ↔
    (fault = .closed ∧ d.stage = .stopped)
      ∨ (fault = .full (max 1 capacity) ∧ d.stage ≠ .stopped
        ∧ d.queue.waiting.length = max 1 capacity)
  /-- Nothing else happens if it is refused. -/
  unchanged : ∀ id fault d', Step d (.refuse id fault) d' → d' = d

theorem Line.backpressure (h : Line capacity log d) : Backpressure capacity d where
  room := h.room
  refused id fault := by
    have hgone : d.queue.hasWorker = false ↔ d.stage = .stopped := by
      rw [← Bool.not_eq_true, h.hasWorker, Classical.not_not]
    rw [Queue.enqueue_eq_error_iff, hgone, h.hasWorker, h.capacity_eq]
    have hroom := h.room
    exact or_congr_right (and_congr_right fun _ => and_congr_right fun _ => by omega)
  unchanged id fault d' hstep := by
    cases hstep with
    | refuse => rfl
    | meanwhile haside => exact haside.elim
    | work hwork => cases hwork

/-! ## One job after the other -/

/-- The worker has gone through complete rounds, and is in the middle of one. -/
def InRounds (log : List Event) (stage : Stage) : Prop :=
  ∃ rounds opened, work log = List.flatMap Round.events rounds ++ opened ∧ Opens stage opened

namespace InRounds

variable {stage stage' : Stage}

/-- What is not the worker's leaves its round as it is. -/
theorem aside (h : InRounds log stage) (hwork : isWork event = false) :
    InRounds (log ++ [event]) stage := by
  rw [InRounds, work_snoc, hwork, if_neg Bool.false_ne_true, List.append_nil]
  exact h

/-- A round goes on. -/
theorem goOn (h : InRounds log stage) (hwork : isWork event = true)
    (hopens : ∀ opened, Opens stage opened → Opens stage' (opened ++ [event])) :
    InRounds (log ++ [event]) stage' := by
  obtain ⟨rounds, opened, hlog, hopened⟩ := h
  refine ⟨rounds, opened ++ [event], ?_, hopens opened hopened⟩
  rw [work_snoc, hwork, if_pos rfl, hlog, List.append_assoc]

/-- A round is complete. -/
theorem complete (h : InRounds log stage) (hwork : isWork event = true)
    (hround : ∀ opened, Opens stage opened → ∃ round, opened ++ [event] = Round.events round) :
    InRounds (log ++ [event]) .idle := by
  obtain ⟨rounds, opened, hlog, hopened⟩ := h
  obtain ⟨round, hround⟩ := hround opened hopened
  refine ⟨rounds ++ [round], [], ?_, .idle⟩
  rw [work_snoc, hwork, if_pos rfl, hlog, List.append_assoc, hround, List.flatMap_append,
    List.flatMap_singleton, List.append_nil]

/-- The worker is between two rounds, and stays there. -/
theorem between (h : InRounds log stage) (hwork : isWork event = false) (hids : stage.ids = [])
    (hids' : stage'.ids = []) : InRounds (log ++ [event]) stage' := by
  obtain ⟨rounds, opened, hlog, hopened⟩ := h.aside hwork
  obtain rfl := (opens_iff_of_ids_eq_nil hids).mp hopened
  exact ⟨rounds, [], hlog, (opens_iff_of_ids_eq_nil hids').mpr rfl⟩

end InRounds

/-- **The worker carries out one job after the other.** -/
structure Serial (log : List Event) (d : Desk) : Prop where
  rounds : InRounds log d.stage
  /-- A job that is being run is there until its outcome is written. -/
  found : ∀ id ∈ d.stage.underWay, (d.history.find? id).isSome

theorem serial_initial (history : History) (capacity : Nat) :
    Serial [] (.initial history capacity) where
  rounds := ⟨[], [], rfl, .idle⟩
  found _ hid := absurd hid List.not_mem_nil

/-- The worker loses no outcome. -/
theorem Serial.not_lose (h : Serial log d) : ¬ Work d (.lose id) d' := by
  intro hwork
  cases hwork with
  | lose hended hlost =>
    have hfound := h.found id (by rw [hended]; exact List.mem_singleton_self id)
    rw [hlost] at hfound
    cases hfound

/-- **One moment of the worker is one of its round**, or comes between two rounds. -/
theorem Serial.work (h : Serial log d) (hwork : Work d event d') : Serial (log ++ [event]) d' := by
  have hrounds := h.rounds
  cases hwork with
  | proceed hidle => exact ⟨hrounds.between rfl (by rw [hidle]; rfl) rfl, nofun⟩
  | wait hready => exact ⟨hrounds.between rfl (by rw [hready]; rfl) rfl, nofun⟩
  | stop hover => exact ⟨hrounds.between rfl hover.ids_stage.1 rfl, nofun⟩
  | take hready =>
    rw [hready] at hrounds
    refine ⟨hrounds.goOn rfl fun opened hopened => ?_, nofun⟩
    cases hopened
    exact .taken _
  | skip htaken =>
    rw [htaken] at hrounds
    refine ⟨hrounds.complete rfl fun opened hopened => ?_, nofun⟩
    cases hopened
    exact ⟨.passed _, rfl⟩
  | start htaken hscenario =>
    rw [htaken] at hrounds
    refine ⟨hrounds.goOn rfl fun opened hopened => ?_, fun id hid => ?_⟩
    · cases hopened
      exact .running _ _
    · obtain rfl := List.mem_singleton.mp hid
      exact Worker.isSome_find?_of_scenario? hscenario
  | finish hrunning =>
    rw [hrunning] at hrounds
    refine ⟨hrounds.goOn rfl fun opened hopened => ?_, fun id hid => ?_⟩
    · cases hopened
      exact .ended _ _ _
    · exact h.found id (by rw [hrunning]; exact hid)
  | write hended =>
    rw [hended] at hrounds
    refine ⟨hrounds.complete rfl fun opened hopened => ?_, nofun⟩
    cases hopened
    exact ⟨.ran _ _ _, rfl⟩
  | lose hended hlost => exact absurd (.lose hended hlost) h.not_lose

theorem Serial.step (h : Serial log d) (hstep : Step d event d') : Serial (log ++ [event]) d' := by
  cases hstep with
  | enqueue | refuse | shutdown | abandon => exact ⟨h.rounds.aside rfl, h.found⟩
  | meanwhile haside hkept =>
    refine ⟨h.rounds.aside haside.quiet.2.2.2, fun id hid => ?_⟩
    rw [hkept id hid]
    exact h.found id hid
  | work hwork => exact h.work hwork

theorem serial_of_run {history : History} (h : Run (.initial history capacity) log d) :
    Serial log d := by
  induction h with
  | nil => exact serial_initial history capacity
  | snoc _ hstep ih => exact ih.step hstep

/-- What is written is what the run has found, under the identifier of the job. -/
theorem exists_written (hstep : Step d (.write id) d') :
    ∃ job now result, d.stage = .ended id result ∧ d.history.find? id = some job
      ∧ d'.history.find? id = some (job.finish now result) := by
  cases hstep with
  | meanwhile haside => exact haside.elim
  | work hwork =>
    cases hwork with
    | @write _ result now hended hfound =>
      obtain ⟨job, hfind⟩ := Option.isSome_iff_exists.mp hfound
      have hfinish : ∀ job : Job, (job.finish now result).id = job.id :=
        fun job => Job.id_finish job now result
      exact ⟨job, now, result, hended, hfind, History.find?_update hfinish hfind⟩

/-! ## Jobs that are posted -/

section

variable {s s' : Interleaving.State}

/-- Clients leave the job alone that the worker has. -/
theorem mem_of_isAside {job : Job} (hcustody : Interleaving.Custody s)
    (hstep : Interleaving.Step s event s') (haside : IsAside event)
    (hjob : job ∈ s.history.jobs) (hcreated : job.status = .created)
    (hid : job.id ∈ s.stage.ids) : job ∈ s'.history.jobs := by
  cases hstep with
  | reject | add => exact History.mem_add.mpr (.inr hjob)
  | withdraw hrefused =>
    refine (History.mem_remove hcustody.nodup_ids).mpr ⟨hjob, fun heq => ?_⟩
    -- a job that is being posted is not with the worker
    have hnodup := (Interleaving.held_perm_of_mem hrefused).nodup_iff.mp hcustody.nodup_held
    exact (List.nodup_cons.mp hnodup).1 (List.mem_append_right _ (heq ▸ hid))
  | purge => exact History.mem_purge.mpr ⟨hjob, by rw [hcreated]; rfl⟩
  | list | look => exact hjob
  | enqueue | refuse | shutdown => exact haside.elim
  | work hwork => cases hwork <;> exact haside.elim

theorem find?_of_isAside (hcustody : Interleaving.Custody s)
    (hstep : Interleaving.Step s event s') (haside : IsAside event) :
    ∀ id ∈ s.stage.underWay, s'.history.find? id = s.history.find? id := by
  intro id hid
  have hid := Stage.mem_ids_of_mem_underWay hid
  obtain ⟨job, -, hfind, hcreated, -⟩ :=
    hcustody.runnable (Interleaving.mem_held_of_stage hid)
  obtain ⟨hjob, rfl⟩ := (History.find?_eq_some_iff hcustody.nodup_ids).mp hfind
  rw [hfind]
  exact (History.find?_eq_some_iff (hcustody.step hstep).nodup_ids).mpr
    ⟨mem_of_isAside hcustody hstep haside hjob hcreated hid, rfl⟩

theorem step_of_posting (hcustody : Interleaving.Custody s) (hhandle : s.abandoned = false)
    (hstep : Interleaving.Step s event s') : Step s.toDesk event s'.toDesk := by
  have hkept := find?_of_isAside hcustody hstep
  cases hstep with
  | reject | add | withdraw | purge | list | look => exact .meanwhile trivial (hkept trivial)
  | enqueue _ hqueue => exact .enqueue hhandle hqueue
  | refuse _ hqueue => exact .refuse hhandle hqueue
  | shutdown => exact .shutdown
  | work hwork => exact .work hwork

/-- **Posting jobs is one way to fill the queue**: whatever comes in between
whatever, the queue and the worker do what they do by themselves. -/
theorem run_of_posting (h : Interleaving.Run (.initial capacity) log s) :
    Run (.initial .empty capacity) log s.toDesk :=
  h.map Interleaving.State.toDesk fun _ _ _ _ hrun hstep => step_of_posting
    (Interleaving.custody_of_run hrun) (Interleaving.abandoned_of_run hrun) hstep

end

end Dispatch

end CatchmentPlanning
