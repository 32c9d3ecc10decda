import Stftpu.Files
import Stftpu.Library.Transition
import Stftpu.Server.Task

/-!
# Tasks and the storage they share

The tasks of the server run side by side and share nothing but the storage: at any
moment one of them makes its next system call.  `SERVER_MAX_CONNECTIONS` bounds how many
there are at once; here there may be any number.

* `serverStep` — a task is started, or a task makes a call.
* `call_eq`, `spawn_eq` — all that such a step does.
-/

namespace Stftpu

open Library

/-- A task with its `FILE *` and the calls it has made. -/
structure Task (ν : Type) where
  state : TaskState
  file : Option (OpenFile ν)
  log : List Event
  deriving DecidableEq, Repr

/-- The storage and every task started so far. -/
structure ServerState (ν : Type) where
  storage : Storage ν
  tasks : List (Task ν)

inductive ServerMove
  /-- `pthread_create` of a task. -/
  | spawn (op : OperationData)
  /-- The task makes a system call. -/
  | call (i : Nat) (e : Event)
  deriving DecidableEq, Repr

/-- The server with no task started. -/
def ServerState.start {ν : Type} (storage : Storage ν) : ServerState ν :=
  { storage := storage, tasks := [] }

section Step

variable {ν : Type} [DecidableEq ν] (host : Host) (resolve : List UInt8 → ν)

/-- One step of the tasks. -/
def serverStep (w : ServerState ν) : ServerMove → Option (ServerState ν)
  | .spawn op =>
      some { w with tasks := w.tasks ++ [{ state := .starting op, file := none, log := [] }] }
  | .call i e =>
      match w.tasks[i]? with
      | none => none
      | some task =>
          match serverTaskStart host task.state e,
            accessFiles resolve w.storage task.file e with
          | some state, some (storage, file) =>
              some
                { storage := storage
                  tasks := w.tasks.set i
                    { state := state, file := file, log := task.log ++ [e] } }
          | _, _ => none

variable {host resolve} {w w' : ServerState ν} {i j : Nat} {e : Event} {op : OperationData}
  {task other : Task ν}

/-- All that a call does: it moves its task on, and the storage as the task's file has it. -/
theorem call_eq (h : serverStep host resolve w (.call i e) = some w') :
    ∃ task state file, w.tasks[i]? = some task ∧
      serverTaskStart host task.state e = some state ∧
      accessFiles resolve w.storage task.file e = some (w'.storage, file) ∧
      w'.tasks = w.tasks.set i { state := state, file := file, log := task.log ++ [e] } := by
  simp only [serverStep] at h
  split at h
  · cases h
  · rename_i task htask
    split at h
    · rename_i state storage file hstate haccess
      obtain rfl := Option.some.inj h
      exact ⟨task, state, file, htask, hstate, haccess, rfl⟩
    · cases h

theorem spawn_eq (h : serverStep host resolve w (.spawn op) = some w') :
    w'.storage = w.storage ∧
      w'.tasks = w.tasks ++ [{ state := .starting op, file := none, log := [] }] := by
  obtain rfl := Option.some.inj h
  exact ⟨rfl, rfl⟩

/-- The task that made a call, behind it. -/
theorem call_self (h : serverStep host resolve w (.call i e) = some w')
    (htask : w'.tasks[i]? = some task) :
    ∃ before, w.tasks[i]? = some before ∧
      serverTaskStart host before.state e = some task.state ∧
      accessFiles resolve w.storage before.file e = some (w'.storage, task.file) ∧
      task.log = before.log ++ [e] := by
  obtain ⟨before, state, file, hbefore, hstate, haccess, htasks⟩ := call_eq h
  have hlt : i < w.tasks.length := (List.getElem?_eq_some_iff.mp hbefore).1
  rw [htasks, List.getElem?_set_self hlt] at htask
  obtain rfl := Option.some.inj htask
  exact ⟨before, hbefore, hstate, haccess, rfl⟩

/-- The other tasks stay as they are. -/
theorem call_other (h : serverStep host resolve w (.call i e) = some w') (hne : j ≠ i) :
    w'.tasks[j]? = w.tasks[j]? := by
  obtain ⟨before, state, file, hbefore, hstate, haccess, htasks⟩ := call_eq h
  rw [htasks, List.getElem?_set_ne hne.symm]

/-- A task behind the start of another was there before, or has just been started. -/
theorem spawn_task (h : serverStep host resolve w (.spawn op) = some w')
    (htask : w'.tasks[j]? = some task) :
    w.tasks[j]? = some task ∨ task = { state := .starting op, file := none, log := [] } := by
  rw [(spawn_eq h).2] at htask
  rcases Nat.lt_or_ge j w.tasks.length with hlt | hge
  · exact Or.inl (by rwa [List.getElem?_append_left hlt] at htask)
  · rw [List.getElem?_append_right hge] at htask
    refine Or.inr ?_
    cases hsub : j - w.tasks.length with
    | zero =>
        rw [hsub] at htask
        exact (Option.some.inj htask).symm
    | succ k =>
        rw [hsub] at htask
        cases htask

end Step

end Stftpu
