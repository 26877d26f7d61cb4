import CatchmentPlanning.Job.Identifier

/-!
# The job queue

Between the clients and the one worker stands a queue of job identifiers. It is
bounded, and nobody waits for room in it: a client that finds it full, or finds
the worker gone, is told so at once.
-/

namespace CatchmentPlanning

/-- The jobs that wait for the worker. -/
structure Queue where
  /-- How many jobs may wait; at least one. -/
  capacity : Nat
  /-- The jobs that wait, the next one first. -/
  waiting : List JobId
  /-- Whether there is a worker to take them. -/
  hasWorker : Bool
deriving DecidableEq

namespace Queue

/-- Why a job cannot wait. -/
inductive Fault where
  | full (capacity : Nat)
  | closed
deriving Repr, DecidableEq

/-- What is wrong, in words. -/
def Fault.message : Fault → String
  | full capacity => "job queue is full (" ++ toString capacity ++ " waiting)"
  | closed => "job worker has stopped"

/-- A queue with a worker and no job. -/
def new (capacity : Nat) : Queue := ⟨max capacity 1, [], true⟩

/-- Lets a job wait. -/
def enqueue (q : Queue) (id : JobId) : Except Fault Queue :=
  if !q.hasWorker then .error .closed
  else if q.waiting.length < q.capacity then .ok { q with waiting := q.waiting ++ [id] }
  else .error (.full q.capacity)

/-- Takes the next job. -/
def take? (q : Queue) : Option (JobId × Queue) :=
  match q.waiting with
  | [] => none
  | id :: rest => some (id, { q with waiting := rest })

/-- The worker goes, and the jobs that wait are lost. -/
def dismiss (q : Queue) : Queue := { q with waiting := [], hasWorker := false }

@[simp] theorem capacity_new_pos (capacity : Nat) : 0 < (new capacity).capacity := by
  simp only [new]
  omega

/-- A job that may wait goes to the end, and nothing else changes. -/
theorem enqueue_eq_ok_iff {q q' : Queue} {id : JobId} :
    q.enqueue id = .ok q' ↔
      q.hasWorker = true ∧ q.waiting.length < q.capacity
        ∧ q' = { q with waiting := q.waiting ++ [id] } := by
  unfold enqueue
  by_cases hw : q.hasWorker = true
  · by_cases hl : q.waiting.length < q.capacity
    · simp [hw, hl, eq_comm]
    · simp [hw, hl]
  · simp [hw]

/-- A job cannot wait if there is no worker, or no room. -/
theorem enqueue_eq_error_iff {q : Queue} {id : JobId} {fault : Fault} :
    q.enqueue id = .error fault ↔
      (fault = .closed ∧ q.hasWorker = false)
        ∨ (fault = .full q.capacity ∧ q.hasWorker = true ∧ q.capacity ≤ q.waiting.length) := by
  unfold enqueue
  by_cases hw : q.hasWorker = true
  · by_cases hl : q.waiting.length < q.capacity
    · simp [hw, hl]
    · simp [hw, hl, Nat.le_of_not_lt hl, eq_comm]
  · simp [hw, eq_comm]

/-- The next job is the first one that waits, and the others stay in line. -/
theorem take?_eq_some_iff {q q' : Queue} {id : JobId} :
    q.take? = some (id, q') ↔
      ∃ rest, q.waiting = id :: rest ∧ q' = { q with waiting := rest } := by
  unfold take?
  cases hw : q.waiting with
  | nil => simp
  | cons first rest =>
    constructor
    · intro h
      cases h
      exact ⟨rest, rfl, rfl⟩
    · rintro ⟨_, h, rfl⟩
      cases h
      rfl

end Queue

end CatchmentPlanning
