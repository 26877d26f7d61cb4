import CatchmentPlanning.Proofs.Api.Effects
import CatchmentPlanning.Proofs.Job.Desk

/-!
# Posted jobs and the worker, step by step

Clients post, purge and read jobs at the same time, while the worker takes one
job after the other from the queue. Each touches the history or the queue for a
moment only, and between two such moments anything else may happen: a job that is
posted is put into the history, then offered to the queue, and if the queue
refuses it taken out of the history again; and the worker goes through its own
moments (`Work`).

`Step` lists the moments of clients, with the operations of the history and the
queue, beside those of the worker, and a `Run` is any sequence of them. Where
nothing comes between its moments, posting a job is what `Api.createJob` says
(`run_createJob`), and what the worker does by itself is part of a run
(`run_of_works`).
-/

namespace CatchmentPlanning

namespace Interleaving

/-! ## States -/

/-- A job that has been put into the history by a client whose request is still
being answered. -/
inductive Submission where
  /-- It has not been offered to the queue yet. -/
  | kept (id : JobId)
  /-- The queue has refused it, and it has not been taken out again yet. -/
  | refused (id : JobId) (fault : Queue.Fault)
deriving DecidableEq

/-- The identifier of the job. -/
def Submission.id : Submission → JobId
  | kept id => id
  | refused id _ => id

/-- Where posted jobs are at a moment: with the worker, or with clients. -/
structure State extends Desk where
  /-- The clients that are in the middle of posting a job. -/
  submissions : List Submission
  /-- Every identifier that a job has been given. -/
  issued : List JobId

/-- The state before any job has been posted. -/
def State.initial (capacity : Nat) : State := ⟨.initial .empty capacity, [], []⟩

/-- The jobs that somebody still has to do something about: a client that is
posting one, the queue in which it waits, or the worker. -/
def State.held (s : State) : List JobId :=
  s.submissions.map Submission.id ++ s.queue.waiting ++ s.stage.ids

/-! ## Steps -/

/-- **One moment**, of a client or of the worker. Clients come and go, but the queue is never
abandoned. -/
inductive Step (s : State) : Event → State → Prop
  | reject {id : JobId} {now text : String} {fault : Scenario.Fault} {job : Job}
      (hfresh : id ∉ s.issued) (hjob : (Job.new id now text).parse now = (some fault, job)) :
      Step s (.reject id) { s with history := s.history.add job, issued := id :: s.issued }
  | add {id : JobId} {now text : String} {job : Job}
      (hfresh : id ∉ s.issued) (hjob : (Job.new id now text).parse now = (none, job)) :
      Step s (.add id) { s with
        history := s.history.add job
        submissions := .kept id :: s.submissions
        issued := id :: s.issued }
  | enqueue {id : JobId} {queue : Queue}
      (hkept : .kept id ∈ s.submissions) (hqueue : s.queue.enqueue id = .ok queue) :
      Step s (.enqueue id) { s with queue, submissions := s.submissions.erase (.kept id) }
  | refuse {id : JobId} {fault : Queue.Fault}
      (hkept : .kept id ∈ s.submissions) (hqueue : s.queue.enqueue id = .error fault) :
      Step s (.refuse id fault)
        { s with submissions := .refused id fault :: s.submissions.erase (.kept id) }
  | withdraw {id : JobId} {fault : Queue.Fault} (hrefused : .refused id fault ∈ s.submissions) :
      Step s (.withdraw id) { s with
        history := s.history.remove id
        submissions := s.submissions.erase (.refused id fault) }
  | purge : Step s (.purge s.history.purge.1) { s with history := s.history.purge.2 }
  | list : Step s (.list s.history.jobs) s
  | look {id : JobId} : Step s (.look id (s.history.find? id)) s
  | shutdown : Step s .shutdown { s with cancelled := true }
  | work {event : Event} {desk : Desk} (hwork : Work s.toDesk event desk) :
      Step s event { s with toDesk := desk }

/-- **One moment after the other**, with what has happened in order. -/
abbrev Run : State → List Event → State → Prop := Trace Step

/-! ## Where nothing comes in between -/

/-- What the worker does while the clients do nothing. -/
theorem run_of_works {s : State} {desk : Desk} {log : List Event}
    (h : Trace Work s.toDesk log desk) : Run s log { s with toDesk := desk } :=
  h.map (fun desk => { s with toDesk := desk }) fun _ _ _ _ _ hwork => .work hwork

/-- The application between two requests, with the identifiers given out so far. -/
def State.ofApp (app : Api.App) (issued : List JobId) : State :=
  ⟨⟨app.history, app.queue, .idle, app.service.cancelled, false⟩, [], issued⟩

/-- **Posting a job without interruption** is what answering the request does. -/
theorem run_createJob (m : Api.Moment) (r : Api.Request) (app : Api.App) {issued : List JobId}
    (hfresh : m.freshId ∉ issued) :
    ∃ log issued', Run (.ofApp app issued) log (.ofApp (Api.createJob m r app).2 issued') := by
  simp only [Api.createJob]
  split
  · exact ⟨[], issued, .nil⟩
  rename_i text _
  cases hread : Job.readScenario text with
  | error fault =>
    rw [Api.parse_new_of_error hread]
    exact ⟨_, _, .single (.reject hfresh (Api.parse_new_of_error hread))⟩
  | ok scenario =>
    have hparse := Api.parse_new_of_ok (m := m) hread
    rw [hparse]
    dsimp only
    let kept : State :=
      ⟨⟨app.history.add (Api.createdJob m text scenario), app.queue, .idle, app.service.cancelled,
        false⟩, [.kept m.freshId], m.freshId :: issued⟩
    have hadd : Step (.ofApp app issued) (.add m.freshId) kept := .add hfresh hparse
    have hmem : .kept m.freshId ∈ kept.submissions := List.mem_singleton_self _
    have herase : kept.submissions.erase (.kept m.freshId) = [] := List.erase_cons_head ..
    cases hqueue : app.queue.enqueue (Api.createdJob m text scenario).id with
    | ok queue =>
      have henqueue := Step.enqueue hmem hqueue
      rw [herase] at henqueue
      rw [Api.submit_of_ok hqueue]
      exact ⟨_, _, (Trace.single hadd).snoc henqueue⟩
    | error fault =>
      have hrefuse := Step.refuse hmem hqueue
      rw [herase] at hrefuse
      have hwithdraw := Step.withdraw (s := { kept with
        submissions := [.refused m.freshId fault] }) (List.mem_singleton_self _)
      have hback : kept.history.remove m.freshId = app.history :=
        History.remove_add_self app.history (Api.createdJob m text scenario)
      rw [show [Submission.refused m.freshId fault].erase _ = [] from List.erase_cons_head ..,
        hback] at hwithdraw
      rw [Api.submit_of_error hqueue]
      exact ⟨_, _, ((Trace.single hadd).snoc hrefuse).snoc hwithdraw⟩

end Interleaving

end CatchmentPlanning
