import Stftpu.Transfer.SoleRequest

/-!
# The server's part of a deletion

An idle server that gets one request over a perfect channel and answers it.

* `ServerAt` — where it can be, with the packets it has sent and the number of steps left.
* `server_step` — every step comes closer to the end.
* `server_enabled` — there is always a next step until the task has ended.
-/

namespace Stftpu

open Library

/-! ## The server's steps -/

/-- Steps left of a task. -/
def taskTurns (task : TaskThread) : Nat :=
  match task.state with
  | none => 15
  | some (.releasing _) => if task.detached then 1 + releaseTurns task.release else 6
  | some t => DeletionCase.stateTurns t

namespace ProcessMove

theorem arrive_of_silent {client : SockAddr} {queue : List (List UInt8)} {m : ProcessMove}
    (h : m.Silent) : arrive client queue m = some queue := by
  cases m with
  | listener e =>
      cases e with
      | recvfrom size result => cases h _ rfl
      | _ => rfl
  | _ => rfl

theorem replies_of_silent {client : SockAddr} {m : ProcessMove} (h : m.Silent) :
    m.replies client = [] := by
  cases m with
  | listener e =>
      cases e with
      | sendto peer packet ok => cases h _ rfl
      | _ => rfl
  | task k e =>
      cases e with
      | sendto peer packet ok => cases h _ rfl
      | _ => rfl
  | _ => rfl

end ProcessMove

namespace DeletionCase

open DeleteRequest

section Defs

variable {ν : Type} (c : DeletionCase ν)

/-- The server waits for the request, and nothing has happened to the files. -/
structure Ready (s : Deletion ν) : Prop where
  listening : s.server.listener.Listening
  tasks : s.server.tasks = c.old
  free : s.server.slots.HasFree
  storage : s.storage = c.storage

/-- The listener has the request and has not created its task yet. -/
def Parses (listener : ListenerThread) (slots : ServerSlots) : Prop :=
  match listener.state.point with
  | .received => c.request.Taken listener.state ∧ slots.HasFree
  | .acquiring => Finds slots listener.acquire
  | .initializing _ _ => True
  | .spawning _ _ => listener.spawn ≠ .crashed
  | _ => False

/-- What the task for the request has sent, and what it knows of the file. -/
def ThreadTold (storage : Storage ν) (stream : Option (OpenFile ν)) (sent : List (List UInt8))
    (task : TaskThread) : Prop :=
  match task.state with
  | none => sent = [] ∧ storage = c.storage
  | some t => c.Told storage stream sent t

/-- Where the server can be, with the packets it has sent and the steps it has left. -/
inductive ServerAt (c : DeletionCase ν) (s : Deletion ν) : List (List UInt8) → Nat → Prop
  | arriving (ready : c.Ready s) (toServer : s.toServer = [c.request.packet]) :
      ServerAt c s [] (33 + listenTurns s.server.listener)
  | parsing (parses : c.Parses s.server.listener s.server.slots) (tasks : s.server.tasks = c.old)
      (storage : s.storage = c.storage) (toServer : s.toServer = []) :
      ServerAt c s [] (parseTurns s.server.listener)
  | working (task : TaskThread) (sent : List (List UInt8))
      (listening : s.server.listener.Listening) (tasks : s.server.tasks = c.old ++ [task])
      (told : c.ThreadTold s.storage (s.streams c.old.length) sent task)
      (toServer : s.toServer = []) :
      ServerAt c s sent (listenTurns s.server.listener + taskTurns task)

end Defs

section Sent

variable {ν : Type} {c : DeletionCase ν} {s : Deletion ν} {sent : List (List UInt8)} {n : Nat}

/-- The tasks of earlier requests make no steps. -/
theorem not_old {host : Host} {mem : ListenerMemory} {p p' : ServerProcess} {m : ProcessMove}
    {k : Nat} (hindex : m.taskIndex = some k) (hstep : serverProcess host mem p m = some p')
    (hold : p.tasks[k]? = c.old[k]?) : False := by
  obtain ⟨task, htask, hlive⟩ := live_of_taskIndex hstep hindex
  rw [hold] at htask
  exact c.old_ended task (List.mem_of_getElem? htask) hlive

theorem sent_cases (h : c.ServerAt s sent n) :
    sent = [] ∨ sent = [ackPacket 0] ∨ c.Final sent := by
  cases h with
  | arriving => exact Or.inl rfl
  | parsing => exact Or.inl rfl
  | working task sent listening tasks told toServer =>
      unfold ThreadTold at told
      split at told
      · exact Or.inl told.1
      · unfold Told at told
        split at told
        · exact Or.inl told.1
        · exact Or.inl told.1
        · exact Or.inr (Or.inl told.1)
        · exact Or.inr (Or.inl told.1)
        · exact Or.inr (Or.inl told.1)
        · exact Or.inr (Or.inl told.1)
        · exact Or.inr (Or.inl told.1)
        · exact Or.inr (Or.inr told)
        · exact Or.inr (Or.inr told)
        · exact Or.inr (Or.inr told)
        · exact told.elim

/-- When it has nothing to do any more, it has sent all its packets. -/
theorem final_of_waits (h : c.ServerAt s sent n) (hwaits : s.server.Waits)
    (hempty : s.toServer = []) : c.Final sent := by
  cases h with
  | arriving ready toServer =>
      rw [toServer] at hempty
      cases hempty
  | parsing parses tasks storage toServer =>
      rw [Parses, hwaits.1] at parses
      exact parses.elim
  | working task sent listening tasks told toServer =>
      obtain ⟨result, hstate⟩ := ended_of_not_live (hwaits.2 task (by simp [tasks]))
      rw [ThreadTold, hstate] at told
      exact told

theorem parses_iff {listener : ListenerThread} {slots : ServerSlots} :
    c.Parses listener slots ↔ listener.Requested c.request.Taken slots :=
  Iff.rfl

end Sent

section Server

variable {ν : Type} [DecidableEq ν] {c : DeletionCase ν} {s s' : Deletion ν} {m : ProcessMove}
  {sent : List (List UInt8)} {n k : Nat}

/-- What a step made by no task leaves alone. -/
theorem files_of_listener (hindex : m.taskIndex = none)
    (hstep : perfectDeletion c.setup c.openError c.removeError s (.server m) = some s') :
    s'.storage = s.storage ∧ s'.streams = s.streams := by
  obtain ⟨-, -, -, -, -, -, hfiles⟩ := perfect_server hstep
  rcases hfiles with ⟨-, hstorage, hstreams⟩ | ⟨k, e, _, rfl, -⟩
  · exact ⟨hstorage, hstreams⟩
  · cases hindex

/-- The queues behind a step in which nothing is sent or received. -/
theorem queues_of_silent (hsilent : m.Silent)
    (hstep : perfectDeletion c.setup c.openError c.removeError s (.server m) = some s') :
    s'.toServer = s.toServer ∧ s'.toClient = s.toClient := by
  obtain ⟨-, -, harrive, htoClient, -, -, -⟩ := perfect_server hstep
  rw [ProcessMove.arrive_of_silent hsilent] at harrive
  rw [ProcessMove.replies_of_silent hsilent, List.append_nil] at htoClient
  exact ⟨(Option.some.inj harrive).symm, htoClient⟩

/-- The listener takes a step while it waits. -/
theorem listening_step (h : s.server.listener.Listening) (hindex : m.taskIndex = none)
    (hstep : perfectDeletion c.setup c.openError c.removeError s (.server m) = some s') :
    s'.storage = s.storage ∧ s'.streams = s.streams ∧ s'.toClient = s.toClient ∧
      s'.server.slots = s.server.slots ∧ s'.server.tasks = s.server.tasks ∧
      (s'.toServer = s.toServer ∧ s'.server.listener.Listening ∧
          listenTurns s'.server.listener < listenTurns s.server.listener ∨
        ∃ packet, s.toServer = packet :: s'.toServer ∧
          m = .listener (.recvfrom requestBufferSize (.datagram c.setup.client packet)) ∧
          s'.server.listener =
            .enter (s.server.listener.state.onReceived (.datagram c.setup.client packet))) := by
  obtain ⟨hquiet, -, harrive, htoClient, -, hserver, -⟩ := perfect_server hstep
  obtain ⟨hstorage, hstreams⟩ := files_of_listener hindex hstep
  obtain ⟨hslots, htasks, hmoved⟩ := h.step hindex hquiet hserver
  rcases hmoved with ⟨hsilent, hlistening, hturns⟩ | ⟨result, rfl, hlistener⟩
  · obtain ⟨htoServer, hnothing⟩ := queues_of_silent hsilent hstep
    exact ⟨hstorage, hstreams, hnothing, hslots, htasks, Or.inl ⟨htoServer, hlistening, hturns⟩⟩
  · cases result with
    | failed errno => cases harrive
    | datagram source bytes =>
        obtain ⟨rfl, hqueue⟩ := ProcessMove.arrive_datagram harrive
        exact ⟨hstorage, hstreams, htoClient.trans (List.append_nil _), hslots, htasks,
          Or.inr ⟨bytes, hqueue, rfl, hlistener⟩⟩

/-- The listener on its way from the request to the task. -/
theorem parse_step (h : c.Parses s.server.listener s.server.slots)
    (hok : c.request.ServerFor s.server) (htasks : s.server.tasks = c.old)
    (hindex : m.taskIndex = none)
    (hstep : perfectDeletion c.setup c.openError c.removeError s (.server m) = some s') :
    s'.storage = s.storage ∧ s'.toServer = s.toServer ∧ s'.toClient = s.toClient ∧
      (s'.server.tasks = c.old ∧ c.Parses s'.server.listener s'.server.slots ∧
          parseTurns s'.server.listener < parseTurns s.server.listener ∨
        ∃ slot, s'.server.tasks = c.old ++ [.create slot] ∧ s'.server.listener.Listening ∧
          parseTurns s.server.listener = 18) := by
  obtain ⟨hquiet, -, -, -, -, hserver, -⟩ := perfect_server hstep
  obtain ⟨hstorage, -⟩ := files_of_listener hindex hstep
  have hparses := parses_of_listenerFor c.setup.serverHost c.setup.mem hok.listener
  obtain ⟨hsilent, hmoved⟩ :=
    (parses_iff.mp h).step hparses hok.toProcessOk hindex hquiet hserver
  obtain ⟨htoServer, htoClient⟩ := queues_of_silent hsilent hstep
  rw [htasks] at hmoved
  exact ⟨hstorage, htoServer, htoClient, hmoved⟩

/-- The task for the request. -/
theorem work_step {task : TaskThread} (h : c.ThreadTold s.storage (s.streams k) sent task)
    (hok : c.request.ServerFor s.server) (htask : s.server.tasks[k]? = some task)
    (hindex : m.taskIndex = some k)
    (hstep : perfectDeletion c.setup c.openError c.removeError s (.server m) = some s') :
    ∃ more task', s'.server.tasks = s.server.tasks.set k task' ∧
      s'.server.listener = s.server.listener ∧ s'.toServer = s.toServer ∧
      s'.toClient = s.toClient ++ more ∧
      c.ThreadTold s'.storage (s'.streams k) (sent ++ more) task' ∧
      taskTurns task' < taskTurns task := by
  obtain ⟨hquiet, hanswers, harrive, htoClient, -, hserver, hfiles⟩ := perfect_server hstep
  have hfor := hok.task k task htask
  cases m with
  | begin j =>
      obtain rfl := Option.some.inj hindex
      obtain ⟨before, hbefore, hstate, hprocess⟩ := begin_eq hserver
      obtain rfl := Option.some.inj (htask.symm.trans hbefore)
      rcases hfiles with ⟨-, hstorage, hstreams⟩ | ⟨_, _, _, hm, -⟩
      · simp only [ThreadFor, hstate] at hfor
        obtain ⟨op, hop, hdeletes⟩ := hfor
        simp only [ThreadTold, hstate] at h
        refine ⟨[], _, by rw [hprocess]; rfl, by rw [hprocess]; rfl,
          (Option.some.inj harrive).symm, htoClient, ?_, ?_⟩
        · simp only [ThreadTold, TaskThread.onBegin, hop, List.append_nil, hstorage]
          exact h
        · simp [taskTurns, TaskThread.onBegin, hop, hstate, stateTurns]
      · cases hm
  | task j e =>
      obtain rfl := Option.some.inj hindex
      obtain ⟨before, state, state', hbefore, hstate, hnot, hcall, hprocess⟩ := task_eq hserver
      obtain rfl := Option.some.inj (htask.symm.trans hbefore)
      rcases hfiles with ⟨hother, -⟩ | ⟨_, _, file, hm, haccess, hstreams⟩
      · exact absurd rfl (hother _ _)
      · obtain ⟨rfl, rfl⟩ := ProcessMove.task.inj hm
        simp only [ThreadFor, hstate] at hfor
        simp only [ThreadTold, hstate] at h
        have hopens : ∀ path mode error, e = .fopen path mode error →
            (s.storage.entry (c.setup.resolve path)).isSome = true → error = c.openError := by
          rintro path mode error rfl hpresent
          cases mode with
          | read => simpa [Deletion.answers, Option.isSome_iff_ne_none.mp hpresent] using hanswers
          | write => cases task_step hfor hcall
        have hremoves : ∀ path error, e = .remove path error →
            (s.storage.entry (c.setup.resolve path)).isSome = true → error = c.removeError := by
          rintro path error rfl hpresent
          simpa [Deletion.answers, Option.isSome_iff_ne_none.mp hpresent] using hanswers
        obtain ⟨htold, hturns⟩ :=
          told_step h (task_step hfor hcall) hquiet hopens hremoves haccess
        refine ⟨_, task.enter state', by rw [hprocess]; rfl, by rw [hprocess]; rfl,
          (Option.some.inj harrive).symm, htoClient, ?_, ?_⟩
        · rw [hstreams, Function.update_self]
          exact htold
        · have hbefore : taskTurns task = stateTurns state := by
            unfold taskTurns
            rw [hstate]
            cases state with
            | releasing result => exact absurd rfl (hnot result)
            | _ => rfl
          -- a task that comes to the release of its slot has that release left
          have hafter : taskTurns (task.enter state') ≤ stateTurns state' := by
            cases state' with
            | releasing result =>
                cases hdetached : task.detached <;>
                  simp [taskTurns, TaskThread.enter, hdetached, releaseTurns, stateTurns]
            | _ => exact le_refl _
          omega
  | taskRelease j =>
      obtain rfl := Option.some.inj hindex
      rcases hfiles with ⟨-, hstorage, hstreams⟩ | ⟨_, _, _, hm, -⟩
      · obtain ⟨result, task', hstate, hlistener, htasks, hnext⟩ := release_step hserver htask
        simp only [ThreadTold, hstate] at h
        have hfinal : c.Final sent := h
        have hbefore : taskTurns task = task.releaseLeft := by
          simp only [taskTurns, hstate, TaskThread.releaseLeft]
        refine ⟨[], task', htasks, hlistener, (Option.some.inj harrive).symm, htoClient, ?_⟩
        rw [List.append_nil]
        rcases hnext with ⟨hstate', hlt⟩ | hended
        · refine ⟨by simp only [ThreadTold, hstate']; exact hfinal, ?_⟩
          rw [hbefore]
          simpa only [taskTurns, hstate', TaskThread.releaseLeft] using hlt
        · refine ⟨by simp only [ThreadTold, hended]; exact hfinal, ?_⟩
          have hpos : 0 < task.releaseLeft := by
            unfold TaskThread.releaseLeft
            split <;> omega
          rw [hbefore]
          simpa only [taskTurns, hended, stateTurns] using hpos
      · cases hm
  | _ => cases hindex

/-- Every step of the server comes closer to the end of its task. -/
theorem server_step (h : c.ServerAt s sent n) (hok : c.request.ServerFor s.server)
    (hstep : perfectDeletion c.setup c.openError c.removeError s (.server m) = some s') :
    ∃ more n', n' < n ∧ s'.toClient = s.toClient ++ more ∧ c.ServerAt s' (sent ++ more) n' := by
  have hserver := (perfect_server hstep).2.2.2.2.2.1
  cases h with
  | arriving ready toServer =>
      cases hindex : m.taskIndex with
      | some k => exact (not_old hindex hserver (by rw [ready.tasks])).elim
      | none =>
          obtain ⟨hstorage, -, htoClient, hslots, htasks, hmoved⟩ :=
            listening_step ready.listening hindex hstep
          refine ⟨[], ?_⟩
          rcases hmoved with ⟨hqueue, hlistening, hturns⟩ | ⟨packet, hqueue, -, hlistener⟩
          · refine ⟨_, ?_, by rw [htoClient, List.append_nil],
              .arriving ⟨hlistening, htasks.trans ready.tasks, by rw [hslots]; exact ready.free,
                hstorage.trans ready.storage⟩ (hqueue.trans toServer)⟩
            omega
          · rw [toServer] at hqueue
            obtain ⟨rfl, hempty⟩ := List.cons.inj hqueue
            have hbuffer : s.server.listener.state.requestBuffer =
                Buffer.zero requestBufferSize := by
              have hlistener := hok.listener
              rcases ready.listening with hpoint | hpoint
              · rw [ListenerFor, hpoint] at hlistener
                exact hlistener
              · rw [ListenerFor, hpoint] at hlistener
                exact hlistener
            refine ⟨_, ?_, by rw [htoClient, List.append_nil],
              .parsing ?_ (htasks.trans ready.tasks) (hstorage.trans ready.storage) hempty.symm⟩
            · rw [hlistener]
              simp only [parseTurns, ListenerThread.enter, ListenerState.onReceived]
              omega
            · rw [hlistener, hslots, c.client_eq]
              exact ⟨taken_onReceived hbuffer, ready.free⟩
  | parsing parses tasks storage toServer =>
      cases hindex : m.taskIndex with
      | some k => exact (not_old hindex hserver (by rw [tasks])).elim
      | none =>
          obtain ⟨hstorage, hqueue, htoClient, hmoved⟩ :=
            parse_step parses hok tasks hindex hstep
          refine ⟨[], ?_⟩
          rcases hmoved with ⟨htasks, hparses, hturns⟩ | ⟨slot, htasks, hlistening, hturns⟩
          · exact ⟨_, hturns, by rw [htoClient, List.append_nil],
              .parsing hparses htasks (hstorage.trans storage) (hqueue.trans toServer)⟩
          · refine ⟨_, ?_, by rw [htoClient, List.append_nil],
              .working (.create slot) [] hlistening htasks ⟨rfl, hstorage.trans storage⟩
                (hqueue.trans toServer)⟩
            have hlisten : listenTurns s'.server.listener ≤ 1 := by
              unfold listenTurns
              split <;> omega
            have htask : taskTurns (.create slot) = 15 := rfl
            omega
  | working task sent listening tasks told toServer =>
      cases hindex : m.taskIndex with
      | none =>
          obtain ⟨hstorage, hstreams, htoClient, hslots, htasks, hmoved⟩ :=
            listening_step listening hindex hstep
          refine ⟨[], ?_⟩
          rcases hmoved with ⟨hqueue, hlistening, hturns⟩ | ⟨packet, hqueue, -⟩
          · refine ⟨_, ?_, by rw [htoClient, List.append_nil],
              .working task _ hlistening (htasks.trans tasks) ?_ (hqueue.trans toServer)⟩
            · omega
            · rw [hstorage, hstreams, List.append_nil]
              exact told
          · rw [toServer] at hqueue
            cases hqueue
      | some k =>
          obtain ⟨mover, hmover, -⟩ := live_of_taskIndex hserver hindex
          -- the tasks of earlier requests have ended
          have hk : k = c.old.length := by
            have hlt := (List.getElem?_eq_some_iff.mp hmover).1
            rw [tasks, List.length_append, List.length_singleton] at hlt
            by_contra hne
            have hbefore : k < c.old.length := by omega
            exact not_old hindex hserver (by rw [tasks, List.getElem?_append_left hbefore])
          subst hk
          have htask : s.server.tasks[c.old.length]? = some task := by simp [tasks]
          obtain ⟨more, task', htasks, hlistener, hqueue, htoClient, htold, hturns⟩ :=
            work_step told hok htask hindex hstep
          refine ⟨more, _, ?_, htoClient, .working task' _ (by rw [hlistener]; exact listening)
            (by rw [htasks, tasks]; simp) htold (hqueue.trans toServer)⟩
          rw [hlistener]
          omega

/-- What the server receives is the request. -/
theorem reaches (hqueue : ∀ packet ∈ s.toServer, packet = c.request.packet)
    (hstep : perfectDeletion c.setup c.openError c.removeError s (.server m) = some s') :
    c.request.Reaches m := by
  obtain ⟨-, -, harrive, -⟩ := perfect_server hstep
  rintro e rfl
  cases e with
  | recvfrom size result =>
      cases result with
      | failed errno => trivial
      | datagram source bytes =>
          obtain ⟨hsource, heq⟩ := ProcessMove.arrive_datagram harrive
          exact ⟨hsource.trans c.client_eq, hqueue bytes (by simp [heq])⟩
  | _ => trivial

/-! ### The server is never held up -/

/-- What lets the server take a step. -/
theorem perfect_server_of (hquiet : m.undisturbed = true)
    (hanswers : s.answers c.setup c.openError c.removeError m = true)
    (hserver : (serverProcess c.setup.serverHost c.setup.mem s.server m).isSome = true)
    (harrive : (m.arrive c.setup.client s.toServer).isSome = true)
    (hfiles : ∀ k e, m = .task k e →
      (accessFiles c.setup.resolve s.storage (s.streams k) e).isSome = true) :
    ∃ t, perfectDeletion c.setup c.openError c.removeError s (.server m) = some t := by
  obtain ⟨p, hp⟩ := Option.isSome_iff_exists.mp hserver
  obtain ⟨queue, hqueue⟩ := Option.isSome_iff_exists.mp harrive
  have hserves : (s.serverStep c.setup m).isSome = true := by
    unfold Deletion.serverStep
    rw [hp]
    cases m with
    | task k e =>
        rw [Option.isSome_map]
        exact hfiles k e rfl
    | _ => rfl
  obtain ⟨t, ht⟩ := Option.isSome_iff_exists.mp hserves
  simp only [perfectDeletion, hquiet, hanswers, Bool.and_self, if_true, ht, hqueue]
  exact ⟨_, rfl⟩

theorem looping_enabled (h : s.server.listener.state.point = .looping) :
    ∃ t, perfectDeletion c.setup c.openError c.removeError s
      (.server (.listener (.poll false))) = some t := by
  refine perfect_server_of rfl rfl ?_ rfl (by simp)
  simp [serverProcess, serverListenerLoop, ListenerPoint.inCall, h]

/-- The request is received when it has arrived. -/
theorem awaiting_enabled (h : s.server.listener.state.point = .awaiting) {packet : List UInt8}
    {rest : List (List UInt8)} (hqueue : s.toServer = packet :: rest) :
    ∃ t, perfectDeletion c.setup c.openError c.removeError s
      (.server (.listener (.recvfrom requestBufferSize (.datagram c.setup.client packet)))) =
        some t := by
  refine perfect_server_of rfl rfl ?_ ?_ (by simp)
  · simp [serverProcess, serverListenerLoop, ListenerPoint.inCall, h]
  · simp [ProcessMove.arrive, hqueue]

theorem parse_enabled (h : c.Parses s.server.listener s.server.slots)
    (hok : c.request.ServerFor s.server) (htasks : s.server.tasks = c.old) :
    ∃ m t, perfectDeletion c.setup c.openError c.removeError s (.server m) = some t := by
  obtain ⟨m, hgranted, hsilent, hindex, hserver⟩ := (parses_iff.mp h).enabled
    c.setup.serverHost c.setup.mem hok.toProcessOk (by rw [htasks]; exact c.old_ended)
  refine ⟨m, perfect_server_of (ProcessMove.undisturbed_of_granted hgranted) ?_ hserver ?_ ?_⟩
  · cases m with
    | task k e => cases hindex
    | _ => rfl
  · rw [ProcessMove.arrive_of_silent hsilent]
    rfl
  · rintro k e rfl
    cases hindex

/-- The next call of a task that has not come to the release of its slot. -/
theorem task_call {t : TaskState} (h : c.Told s.storage (s.streams k) sent t)
    (hfor : c.request.TaskFor t) (hended : ∀ result, t ≠ .ended result)
    (hreleasing : ∀ result, t ≠ .releasing result) :
    ∃ e t', serverTaskStart c.setup.serverHost t e = some t' ∧
      (ProcessMove.task k e).undisturbed = true ∧
      s.answers c.setup c.openError c.removeError (.task k e) = true ∧
      ((ProcessMove.task k e).arrive c.setup.client s.toServer).isSome = true ∧
      (accessFiles c.setup.resolve s.storage (s.streams k) e).isSome = true := by
  cases t with
  | starting op => exact ⟨.poll false, _, rfl, rfl, rfl, rfl, rfl⟩
  | deleting point op =>
      have hpath : op.path = c.request.path := hfor.path
      cases point with
      | acknowledging =>
          exact ⟨.sendto op.peerAddress (ackPacket 0) true, _,
            by simp [serverTaskStart, serverDeleteFile]; rfl, rfl, rfl, rfl, rfl⟩
      | opening =>
          -- for a file that is there the answer is the one given
          cases hentry : s.storage.entry (c.setup.resolve op.path) with
          | none =>
              exact ⟨.fopen op.path .read (some (.other 2)), _,
                by simp [serverTaskStart, serverDeleteFile]; rfl, rfl,
                by simp [Deletion.answers, hentry], rfl, rfl⟩
          | some number =>
              refine ⟨.fopen op.path .read c.openError, ?_⟩
              cases herror : c.openError with
              | none =>
                  exact ⟨_, by simp [serverTaskStart, serverDeleteFile]; rfl, rfl,
                    by simp [Deletion.answers], rfl, by simp [accessFiles, hentry]⟩
              | some errno =>
                  exact ⟨_, by simp [serverTaskStart, serverDeleteFile]; rfl, rfl,
                    by simp [Deletion.answers], rfl, rfl⟩
      | closing =>
          obtain ⟨-, -, -, -, f, hstream, hopen⟩ := h
          exact ⟨.fclose 0, _, rfl, rfl, rfl, rfl, by simp [accessFiles, hstream, hopen]⟩
      | removing =>
          obtain ⟨-, hstorage, hpresent, -⟩ := h
          refine ⟨.remove op.path c.removeError, ?_⟩
          cases herror : c.removeError with
          | none =>
              refine ⟨_, by simp [serverTaskStart, serverDeleteFile]; rfl, rfl,
                by simp [Deletion.answers], rfl, ?_⟩
              rw [present, ← hstorage, ← hpath] at hpresent
              simp [accessFiles, hpresent]
          | some errno =>
              exact ⟨_, by simp [serverTaskStart, serverDeleteFile]; rfl, rfl,
                by simp [Deletion.answers], rfl, rfl⟩
      | confirming =>
          exact ⟨.sendto op.peerAddress (ackPacket 1) true, _,
            by simp [serverTaskStart, serverDeleteFile]; rfl, rfl, rfl, rfl, rfl⟩
      | failing reply =>
          exact ⟨.sendto op.peerAddress (errorPacket reply) true, _,
            by simp [serverTaskStart, serverDeleteFile]; rfl, rfl, rfl, rfl, rfl⟩
  | closingSocket op result =>
      exact ⟨.close op.dataSocket, _, by simp [serverTaskStart]; rfl, rfl, rfl, rfl, rfl⟩
  | releasing result => exact absurd rfl (hreleasing result)
  | ended result => exact absurd rfl (hended result)
  | _ => exact h.elim

/-- A live task makes its next step. -/
theorem work_enabled {task : TaskThread} (h : c.ThreadTold s.storage (s.streams k) sent task)
    (hok : c.request.ServerFor s.server) (htask : s.server.tasks[k]? = some task)
    (hlive : task.Live) (hlistening : s.server.listener.Listening)
    (hold : ∀ j, j ≠ k → s.server.tasks[j]? = c.old[j]?) :
    ∃ m t, perfectDeletion c.setup c.openError c.removeError s (.server m) = some t := by
  have hexited : s.server.listener.state.point ≠ .exited := by
    rcases hlistening with hpoint | hpoint
    · simp [hpoint]
    · simp [hpoint]
  have hfor := hok.task k task htask
  cases hstate : task.state with
  | none =>
      have hserver : (serverProcess c.setup.serverHost c.setup.mem s.server
          (.begin k)).isSome = true := by
        simp [serverProcess, hexited, htask, hstate]
      exact ⟨.begin k, perfect_server_of rfl rfl hserver rfl (by simp)⟩
  | some t =>
      by_cases hreleasing : ∃ result, t = .releasing result
      · obtain ⟨result, rfl⟩ := hreleasing
        have hended : ∀ j, j ≠ k → ∀ other, s.server.tasks[j]? = some other → ¬ other.Live := by
          intro j hj other hother
          rw [hold j hj] at hother
          exact c.old_ended other (List.mem_of_getElem? hother)
        have hserver := taskRelease_enabled c.setup.serverHost c.setup.mem hok.toProcessOk
          hlistening htask hstate hended
        exact ⟨.taskRelease k, perfect_server_of rfl rfl hserver rfl (by simp)⟩
      · have hnot : ∀ result, t ≠ .releasing result := fun result heq => hreleasing ⟨result, heq⟩
        have hended : ∀ result, t ≠ .ended result := by
          rintro result rfl
          simp [TaskThread.Live, TaskThread.ended, hstate] at hlive
        simp only [ThreadFor, hstate] at hfor
        simp only [ThreadTold, hstate] at h
        obtain ⟨e, t', hcall, hquiet, hanswers, harrive, hfiles⟩ := task_call h hfor hended hnot
        have hserver : (serverProcess c.setup.serverHost c.setup.mem s.server
            (.task k e)).isSome = true := by
          simp [serverProcess, hexited, htask, hstate, hcall]
        refine ⟨.task k e, perfect_server_of hquiet hanswers hserver harrive ?_⟩
        intro j e' heq
        obtain ⟨rfl, rfl⟩ := ProcessMove.task.inj heq
        exact hfiles

/-- The server goes on until it has nothing to do. -/
theorem server_enabled (h : c.ServerAt s sent n) (hok : c.request.ServerFor s.server) :
    (∃ m t, perfectDeletion c.setup c.openError c.removeError s (.server m) = some t) ∨
      s.server.Waits ∧ s.toServer = [] := by
  cases h with
  | arriving ready toServer =>
      rcases ready.listening with hpoint | hpoint
      · exact Or.inl ⟨_, looping_enabled hpoint⟩
      · exact Or.inl ⟨_, awaiting_enabled hpoint toServer⟩
  | parsing parses tasks storage toServer => exact Or.inl (parse_enabled parses hok tasks)
  | working task sent listening tasks told toServer =>
      by_cases hlive : task.Live
      · have htask : s.server.tasks[c.old.length]? = some task := by simp [tasks]
        refine Or.inl (work_enabled told hok htask hlive listening ?_)
        intro j hj
        rw [tasks]
        rcases Nat.lt_or_gt_of_ne hj with hlt | hgt
        · exact List.getElem?_append_left hlt
        · rw [List.getElem?_eq_none (by simp; omega), List.getElem?_eq_none (by omega)]
      · rcases listening with hpoint | hpoint
        · exact Or.inl ⟨_, looping_enabled hpoint⟩
        · refine Or.inr ⟨⟨hpoint, ?_⟩, toServer⟩
          intro other hmem
          rw [tasks] at hmem
          rcases List.mem_append.mp hmem with hmem | hmem
          · exact c.old_ended other hmem
          · rw [List.mem_singleton.mp hmem]
            exact hlive

end Server

end DeletionCase

end Stftpu
