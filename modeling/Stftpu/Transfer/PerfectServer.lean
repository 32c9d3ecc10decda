import Stftpu.Transfer.PerfectSession

/-!
# The server's part of a transfer over a perfect channel

An idle server that gets one request, whichever transfer it is for: up to its first look at the
operation the task is the same for both, and so is the way it ends.

* `ThreadAt` — where the thread of the task can be; what it does with the operation is left open.
* `RequestAt` — where the server can be.
* `RequestAt.listener_step`, `RequestAt.task_step` — every step comes closer to the end.
* `RequestAt.enabled` — there is always a next step outside the task's own calls.
-/

namespace Stftpu

open Library

/-- Where the thread of a task can be, with the steps it has left; `W` says so of the task. -/
inductive ThreadAt (W : TaskState → Nat → Prop) (begins : Prop) (task : TaskThread) : Nat → Prop
  | waiting (fresh : task.state = none) (start : begins) : ThreadAt W begins task 24
  | running (t : TaskState) (l : Nat) (state : task.state = some t)
      (unreleased : ∀ result, t ≠ .releasing result) (work : W t l) : ThreadAt W begins task l
  | releasing (result : Option Bool) (state : task.state = some (.releasing result))
      (work : W (.releasing result) 6) : ThreadAt W begins task task.releaseLeft

/-- The steps left of a task that comes to the release of its slot are those of the release. -/
def Releases (W : TaskState → Nat → Prop) : Prop :=
  ∀ result l, W (.releasing result) l → l = 6 ∧ W (.ended result) 0

/-- Where the server can be, and whether the client has made its request. -/
inductive RequestAt {ν : Type} (r : TransferRequest) (old : List TaskThread)
    (W : TaskState → Nat → Prop) (begins : Prop) (s : PerfectSession ν) : Bool → Nat → Prop
  | arriving (asked : Bool) (listening : s.server.listener.Listening)
      (tasks : s.server.tasks = old) (free : s.server.slots.HasFree)
      (toServer : s.toServer = if asked then [r.packet] else []) (start : begins) :
      RequestAt r old W begins s asked (60 + listenTurns s.server.listener)
  | parsing (requested : s.server.listener.Requested r.Taken s.server.slots)
      (tasks : s.server.tasks = old) (toServer : s.toServer = []) (start : begins) :
      RequestAt r old W begins s true (parseTurns s.server.listener + 26)
  | working (task : TaskThread) (l : Nat) (listening : s.server.listener.Listening)
      (tasks : s.server.tasks = old ++ [task]) (work : ThreadAt W begins task l)
      (toServer : s.toServer = []) :
      RequestAt r old W begins s true (listenTurns s.server.listener + l)

section Threads

variable {W : TaskState → Nat → Prop} {begins : Prop} {task : TaskThread} {t : TaskState}
  {l : Nat}

/-- A thread behind a call of its task. -/
theorem threadAt_enter (task : TaskThread) (hreleases : Releases W) (h : W t l) :
    ∃ l' ≤ l, ThreadAt W begins (task.enter t) l' := by
  cases t with
  | releasing result =>
      obtain ⟨rfl, -⟩ := hreleases result l h
      refine ⟨_, ?_, .releasing result rfl h⟩
      cases hdetached : task.detached <;>
        simp [TaskThread.releaseLeft, TaskThread.enter, hdetached, releaseTurns]
  | _ => exact ⟨l, le_refl _, .running _ l rfl (by simp) h⟩

end Threads

section Steps

variable {ν : Type} {setup : SessionSetup ν} {r : TransferRequest} {old : List TaskThread}
  {W : TaskState → Nat → Prop} {begins : Prop} {s s' : PerfectSession ν} {asked : Bool}
  {n : Nat} {move : ProcessMove}

/-- The tasks of earlier requests make no steps. -/
theorem not_ended {host : Host} {mem : ListenerMemory} {p p' : ServerProcess} {k : Nat}
    (hold : ∀ task ∈ old, ¬ task.Live) (hindex : move.taskIndex = some k)
    (hstep : serverProcess host mem p move = some p') (htasks : p.tasks[k]? = old[k]?) :
    False := by
  obtain ⟨task, htask, hlive⟩ := live_of_taskIndex hstep hindex
  rw [htasks] at htask
  exact hold task (List.mem_of_getElem? htask) hlive

theorem RequestAt.requested (h : RequestAt r old W begins s asked n) :
    ∀ packet ∈ s.toServer, packet = r.packet := by
  have hnothing : s.toServer = [] → ∀ packet ∈ s.toServer, packet = r.packet := by
    intro hempty packet hmem
    rw [hempty] at hmem
    exact absurd hmem List.not_mem_nil
  cases h with
  | arriving asked listening tasks free toServer start =>
      cases asked with
      | true =>
          intro packet hmem
          rw [toServer] at hmem
          exact List.mem_singleton.mp hmem
      | false => exact hnothing toServer
  | parsing requested tasks toServer start => exact hnothing toServer
  | working task l listening tasks work toServer => exact hnothing toServer

/-- A step of the client brings the server the request, if anything. -/
theorem RequestAt.of_client {W' : TaskState → Nat → Prop} {begins' : Prop}
    (h : RequestAt r old W begins s asked n) (hserver : s'.server = s.server)
    (htoServer : s'.toServer = s.toServer ++ if asked then [] else [r.packet])
    (hbegins : begins → begins') (hworks : ∀ t l, W t l → W' t l) :
    RequestAt r old W' begins' s' true n := by
  cases h with
  | arriving asked listening tasks free toServer start =>
      rw [← hserver] at listening tasks free ⊢
      refine .arriving true listening tasks free ?_ (hbegins start)
      rw [htoServer, toServer]
      cases asked <;> rfl
  | parsing requested tasks toServer start =>
      rw [← hserver] at requested tasks ⊢
      exact .parsing requested tasks (by simp [htoServer, toServer]) (hbegins start)
  | working task l listening tasks work toServer =>
      rw [← hserver] at listening tasks ⊢
      refine .working task l listening tasks ?_ (by simp [htoServer, toServer])
      cases work with
      | waiting fresh start => exact .waiting fresh (hbegins start)
      | running t l state unreleased work => exact .running t l state unreleased (hworks t l work)
      | releasing result state work => exact .releasing result state (hworks _ _ work)

/-- With its task ended the server is idle again. -/
theorem idle_of_ended {task : TaskThread} {result : Option Bool}
    (hold : ∀ task ∈ old, ¬ task.Live) (htasks : s.server.tasks = old ++ [task])
    (hlistening : s.server.listener.Listening) (hstate : task.state = some (.ended result)) :
    DeleteRequest.Idle s.server where
  listener := hlistening
  tasks := by
    intro other hmem
    rw [htasks] at hmem
    rcases List.mem_append.mp hmem with hmem | hmem
    · exact hold other hmem
    · rw [List.mem_singleton.mp hmem]
      simp [TaskThread.Live, TaskThread.ended, hstate]

variable [DecidableEq ν]

/-- What the listener receives is the first packet on its way. -/
theorem received_of_arrives {size : Nat} {result : RecvResult}
    (hstep : ServerStepped setup s (.listener (.recvfrom size result)) s') :
    ∃ source bytes, result = .datagram source bytes ∧ s.toServer = bytes :: s'.toServer ∧
      s.toTasks = s'.toTasks := by
  obtain ⟨queue, harrive, hqueues⟩ := Option.map_eq_some_iff.mp hstep.arrives
  obtain ⟨rfl, htoTasks⟩ := Prod.mk.inj hqueues
  cases result with
  | failed errno => cases harrive
  | datagram source bytes => exact ⟨source, bytes, rfl, arrive_datagram harrive, htoTasks⟩

/-- Only the request arrives at the listener. -/
theorem RequestAt.reaches (h : RequestAt r old W begins s asked n)
    (hstep : ServerStepped setup s move s') : r.Reaches move := by
  unfold TransferRequest.Reaches
  split
  · obtain ⟨source, bytes, hresult, htoServer, -⟩ := received_of_arrives hstep
    obtain ⟨-, rfl⟩ := RecvResult.datagram.inj hresult
    exact Or.inl (h.requested _ (by simp [htoServer]))
  · trivial

/-- Nothing but the queue to the requests port changes. -/
structure Beside (s s' : PerfectSession ν) : Prop where
  storage : s'.storage = s.storage
  streams : s'.streams = s.streams
  toClient : s'.toClient = s.toClient
  toTasks : s'.toTasks = s.toTasks

theorem beside_of_silent (hsilent : move.Silent) (hnot : ∀ k e, move ≠ .task k e)
    (hstep : ServerStepped setup s move s') : s'.toServer = s.toServer ∧ Beside s s' := by
  have harrives := hstep.arrives
  rw [arrives_of_silent hsilent] at harrives
  obtain ⟨htoServer, htoTasks⟩ := Prod.mk.inj (Option.some.inj harrives)
  have htoClient := hstep.toClient
  rw [launched_move_of_silent hsilent, List.append_nil] at htoClient
  rcases hstep.access with ⟨-, hstorage, hstreams⟩ | ⟨k, e, file, rfl, -⟩
  · exact ⟨htoServer.symm, hstorage, hstreams, htoClient, htoTasks.symm⟩
  · exact absurd rfl (hnot k e)

/-- A step of the listener. -/
theorem RequestAt.listener_step (h : RequestAt r old W begins s asked n)
    (hfor : r.ServerFor (fun _ _ => True) s.server) (hindex : move.taskIndex = none)
    (hstep : ServerStepped setup s move s') :
    Beside s s' ∧ ∃ n' < n, RequestAt r old W begins s' asked n' := by
  have hquiet := ProcessMove.undisturbed_of_granted hstep.granted
  have hnot : ∀ k e, move ≠ .task k e := by
    rintro k e rfl
    cases hindex
  cases h with
  | arriving asked listening tasks free toServer start =>
      obtain ⟨hslots, htasks, hmoved⟩ := listening.step hindex hquiet hstep.move
      rcases hmoved with ⟨hsilent, hlistening, hturns⟩ | ⟨result, rfl, hlistener⟩
      · obtain ⟨htoServer, hbeside⟩ := beside_of_silent hsilent hnot hstep
        exact ⟨hbeside, _, by omega, .arriving asked hlistening (htasks.trans tasks)
          (by rw [hslots]; exact free) (htoServer.trans toServer) start⟩
      · obtain ⟨source, bytes, rfl, hqueue, htoTasks⟩ := received_of_arrives hstep
        have hfiles : s'.storage = s.storage ∧ s'.streams = s.streams := by
          rcases hstep.access with ⟨-, hstorage, hstreams⟩ | ⟨k, e, file, hm, -⟩
          · exact ⟨hstorage, hstreams⟩
          · exact absurd hm (hnot k e)
        have hbeside : Beside s s' :=
          ⟨hfiles.1, hfiles.2, hstep.toClient.trans (List.append_nil _), htoTasks.symm⟩
        cases asked with
        | false =>
            rw [toServer] at hqueue
            cases hqueue
        | true =>
            rw [toServer] at hqueue
            obtain ⟨rfl, hempty⟩ := List.cons.inj hqueue
            have hbuffer : s.server.listener.state.requestBuffer =
                Buffer.zero requestBufferSize := by
              have hlistener := hfor.listener
              rcases listening with hpoint | hpoint
              · rw [TransferRequest.ListenerFor, hpoint] at hlistener
                exact hlistener
              · rw [TransferRequest.ListenerFor, hpoint] at hlistener
                exact hlistener
            refine ⟨hbeside, _, ?_, .parsing ?_ (htasks.trans tasks) hempty.symm start⟩
            · rw [hlistener]
              simp only [parseTurns, ListenerThread.enter, ListenerState.onReceived]
              omega
            · rw [hlistener, hslots]
              exact ⟨TransferRequest.taken_onReceived hbuffer source, free⟩
  | parsing requested tasks toServer start =>
      have hparses := TransferRequest.parses_of_listenerFor setup.serverHost setup.mem
        hfor.listener
      obtain ⟨hsilent, hmoved⟩ :=
        requested.step hparses hfor.toProcessOk hindex hquiet hstep.move
      obtain ⟨htoServer, hbeside⟩ := beside_of_silent hsilent hnot hstep
      refine ⟨hbeside, ?_⟩
      rcases hmoved with ⟨htasks, hrequested, hturns⟩ | ⟨slot, htasks, hlistening, hturns⟩
      · exact ⟨_, by omega,
          .parsing hrequested (htasks.trans tasks) (htoServer.trans toServer) start⟩
      · have hlisten : listenTurns s'.server.listener ≤ 1 := by
          unfold listenTurns
          split <;> omega
        exact ⟨_, by omega, .working (.create slot) 24 hlistening (by rw [htasks, tasks])
          (.waiting rfl start) (htoServer.trans toServer)⟩
  | working task l listening tasks work toServer =>
      obtain ⟨hslots, htasks, hmoved⟩ := listening.step hindex hquiet hstep.move
      rcases hmoved with ⟨hsilent, hlistening, hturns⟩ | ⟨result, rfl, -⟩
      · obtain ⟨htoServer, hbeside⟩ := beside_of_silent hsilent hnot hstep
        exact ⟨hbeside, _, by omega, .working task l hlistening (htasks.trans tasks) work
          (htoServer.trans toServer)⟩
      · obtain ⟨source, bytes, -, hqueue, -⟩ := received_of_arrives hstep
        rw [toServer] at hqueue
        cases hqueue

/-- A call of the task. -/
structure TaskCall (setup : SessionSetup ν) (k : Nat) (s s' : PerfectSession ν) (e : Event)
    (t t' : TaskState) : Prop where
  granted : e.granted = true
  opens : e.opens setup.resolve s.storage = true
  unreleased : ∀ result, t ≠ .releasing result
  call : serverTaskStart setup.serverHost t e = some t'
  access : accessFiles setup.resolve s.storage (s.streams k) e =
    some (s'.storage, s'.streams k)
  arrives : arrive s.toTasks e = some s'.toTasks
  toClient : s'.toClient = s.toClient ++ launched e

/-- Only the task of the request makes steps. -/
theorem taskIndex_eq {host : Host} {mem : ListenerMemory} {p p' : ServerProcess} {k : Nat}
    {task : TaskThread} (hold : ∀ task ∈ old, ¬ task.Live) (htasks : p.tasks = old ++ [task])
    (hindex : move.taskIndex = some k) (hstep : serverProcess host mem p move = some p') :
    k = old.length := by
  obtain ⟨mover, hmover, -⟩ := live_of_taskIndex hstep hindex
  have hlt := (List.getElem?_eq_some_iff.mp hmover).1
  rw [htasks, List.length_append, List.length_singleton] at hlt
  by_contra hne
  have hbefore : k < old.length := by omega
  exact not_ended hold hindex hstep (by rw [htasks, List.getElem?_append_left hbefore])

theorem set_last {task task' : TaskThread} {tasks : List TaskThread}
    (h : tasks = old ++ [task]) : tasks.set old.length task' = old ++ [task'] := by
  simp [h]

section Working

variable {task : TaskThread} {l : Nat} (listening : s.server.listener.Listening)
  (tasks : s.server.tasks = old ++ [task]) (work : ThreadAt W begins task l)
  (toServer : s.toServer = [])

include listening tasks work toServer

/-- The thread takes the operation it was given. -/
theorem begin_working (hfor : r.ServerFor (fun _ _ => True) s.server)
    (hbegins : begins → ∀ op, r.Serves op → W (.starting op) 23)
    (hstep : ServerStepped setup s (.begin old.length) s') :
    Beside s s' ∧ ∃ n' < listenTurns s.server.listener + l,
      RequestAt r old W begins s' true n' := by
  obtain ⟨htoServer, hbeside⟩ :=
    beside_of_silent (ProcessMove.silent_of_call rfl) (by simp) hstep
  have htask : s.server.tasks[old.length]? = some task := by simp [tasks]
  obtain ⟨before, hbefore, hstate, hprocess⟩ := begin_eq hstep.move
  obtain rfl := Option.some.inj (htask.symm.trans hbefore)
  obtain ⟨op, hop, hserves⟩ := hfor.waiting _ task htask hstate
  have hlistener : s'.server.listener = s.server.listener := by
    rw [hprocess]
    rfl
  cases work with
  | waiting fresh start =>
      refine ⟨hbeside, _, ?_, .working (task.onBegin (some op)) 23
        (by rw [hlistener]; exact listening) (by rw [hprocess, hop]; exact set_last tasks)
        (.running (.starting op) 23 rfl (by simp) (hbegins start op hserves))
        (htoServer.trans toServer)⟩
      rw [hlistener]
      omega
  | running t l state unreleased work =>
      rw [hstate] at state
      cases state
  | releasing result state work =>
      rw [hstate] at state
      cases state

/-- A call of the task, and where it has to lead for the server to be where it can be. -/
theorem call_working {e : Event} (hstep : ServerStepped setup s (.task old.length e) s') :
    ∃ t t', TaskCall setup old.length s s' e t t' ∧ W t l ∧
      ∀ (W' : TaskState → Nat → Prop) (begins' : Prop) l', Releases W' → W' t' l' →
        ∃ n', n' + l ≤ listenTurns s.server.listener + l + l' ∧
          RequestAt r old W' begins' s' true n' := by
  have htask : s.server.tasks[old.length]? = some task := by simp [tasks]
  obtain ⟨before, t, t', hbefore, hstate, hnot, hcall, hprocess⟩ := task_eq hstep.move
  obtain rfl := Option.some.inj (htask.symm.trans hbefore)
  have hlistener : s'.server.listener = s.server.listener := by
    rw [hprocess]
    rfl
  rcases hstep.access with ⟨hother, -⟩ | ⟨k, e', file, hm, haccess, hstreams⟩
  · exact absurd rfl (hother _ _)
  obtain ⟨rfl, rfl⟩ := ProcessMove.task.inj hm
  obtain ⟨toTasks, harrive, hqueues⟩ := Option.map_eq_some_iff.mp hstep.arrives
  obtain ⟨htoServer, rfl⟩ := Prod.mk.inj hqueues
  cases work with
  | waiting fresh start =>
      rw [hstate] at fresh
      cases fresh
  | releasing result state work =>
      rw [hstate] at state
      exact absurd (Option.some.inj state) (hnot result)
  | running t₁ l state unreleased work =>
      obtain rfl := Option.some.inj (hstate.symm.trans state)
      refine ⟨t, t',
        { granted := hstep.granted
          opens := hstep.opens
          unreleased := unreleased
          call := hcall
          access := by rw [hstreams, Function.update_self]; exact haccess
          arrives := harrive
          toClient := hstep.toClient }, work, ?_⟩
      intro W' begins' l' hreleases' hwork
      obtain ⟨l'', hle, hthread⟩ := threadAt_enter task hreleases' hwork
      refine ⟨_, ?_, .working (task.enter t') l'' (by rw [hlistener]; exact listening)
        (by rw [hprocess]; exact set_last tasks) hthread (htoServer.symm.trans toServer)⟩
      rw [hlistener]
      omega

/-- A step of the release of the slot. -/
theorem release_working (hreleases : Releases W)
    (hstep : ServerStepped setup s (.taskRelease old.length) s') :
    Beside s s' ∧ ∃ n' < listenTurns s.server.listener + l,
      RequestAt r old W begins s' true n' := by
  obtain ⟨htoServer, hbeside⟩ :=
    beside_of_silent (ProcessMove.silent_of_call rfl) (by simp) hstep
  have htask : s.server.tasks[old.length]? = some task := by simp [tasks]
  obtain ⟨result, task', hstate, hlistener, htasks, hnext⟩ := release_step hstep.move htask
  have htasks' : s'.server.tasks = old ++ [task'] := htasks.trans (set_last tasks)
  cases work with
  | waiting fresh start =>
      rw [hstate] at fresh
      cases fresh
  | running t l state unreleased work =>
      rw [hstate] at state
      exact absurd (Option.some.inj state).symm (unreleased result)
  | releasing result' state work =>
      obtain rfl : result = result' := by
        rw [hstate] at state
        simpa using state
      refine ⟨hbeside, ?_⟩
      rcases hnext with ⟨hstate', hlt⟩ | hended
      · refine ⟨_, ?_, .working task' _ (by rw [hlistener]; exact listening) htasks'
          (.releasing result hstate' work) (htoServer.trans toServer)⟩
        rw [hlistener]
        omega
      · have hpos : 0 < task.releaseLeft := by
          unfold TaskThread.releaseLeft
          split <;> omega
        refine ⟨_, ?_, .working task' 0 (by rw [hlistener]; exact listening) htasks'
          (.running (.ended result) 0 hended (by simp) (hreleases result 6 work).2)
          (htoServer.trans toServer)⟩
        rw [hlistener]
        omega

end Working

/-- A step of the task's thread: a call of the task, or a step of its own. -/
theorem RequestAt.task_step {k : Nat} (h : RequestAt r old W begins s asked n)
    (hold : ∀ task ∈ old, ¬ task.Live) (hfor : r.ServerFor (fun _ _ => True) s.server)
    (hbegins : begins → ∀ op, r.Serves op → W (.starting op) 23) (hreleases : Releases W)
    (hindex : move.taskIndex = some k) (hstep : ServerStepped setup s move s') :
    asked = true ∧
      (Beside s s' ∧ (∃ n' < n, RequestAt r old W begins s' true n') ∨
        ∃ e t t' l, TaskCall setup old.length s s' e t t' ∧ W t l ∧
          ∀ (W' : TaskState → Nat → Prop) (begins' : Prop) l', Releases W' → W' t' l' →
            ∃ n', n' + l ≤ n + l' ∧ RequestAt r old W' begins' s' true n') := by
  cases h with
  | arriving asked listening tasks free toServer start =>
      exact (not_ended hold hindex hstep.move (by rw [tasks])).elim
  | parsing requested tasks toServer start =>
      exact (not_ended hold hindex hstep.move (by rw [tasks])).elim
  | working task l listening tasks work toServer =>
      refine ⟨rfl, ?_⟩
      obtain rfl := taskIndex_eq hold tasks hindex hstep.move
      cases move with
      | begin j =>
          obtain rfl := Option.some.inj hindex
          exact Or.inl (begin_working listening tasks work toServer hfor hbegins hstep)
      | task j e =>
          obtain rfl := Option.some.inj hindex
          obtain ⟨t, t', hcall, hwork, hcontinue⟩ :=
            call_working listening tasks work toServer hstep
          exact Or.inr ⟨e, t, t', l, hcall, hwork, hcontinue⟩
      | taskRelease j =>
          obtain rfl := Option.some.inj hindex
          exact Or.inl (release_working listening tasks work toServer hreleases hstep)
      | _ => cases hindex

/-! ### The server is never held up -/

/-- What the task of the request can call, the server can. -/
theorem perfectSession_task {k : Nat} {task : TaskThread} {t : TaskState} {e : Event}
    (hlistening : s.server.listener.Listening) (htask : s.server.tasks[k]? = some task)
    (hstate : task.state = some t) (hunreleased : ∀ result, t ≠ .releasing result)
    (hgranted : e.granted = true) (hopens : e.opens setup.resolve s.storage = true)
    (hcall : (serverTaskStart setup.serverHost t e).isSome = true)
    (haccess : (accessFiles setup.resolve s.storage (s.streams k) e).isSome = true)
    (harrive : (arrive s.toTasks e).isSome = true) :
    (perfectSession setup s (.server (.task k e))).isSome = true := by
  have hexited : s.server.listener.state.point ≠ .exited := by
    rcases hlistening with hpoint | hpoint
    · simp [hpoint]
    · simp [hpoint]
  refine perfectSession_server_of hgranted hopens ?_ ?_ ?_
  · obtain ⟨t', ht'⟩ := Option.isSome_iff_exists.mp hcall
    simp only [serverProcess, hexited, if_false, htask, Option.bind_eq_bind, Option.bind_some,
      hstate]
    cases t with
    | releasing result => exact absurd rfl (hunreleased result)
    | _ =>
        rw [ht']
        rfl
  · rw [ProcessMove.arrives, Option.isSome_map]
    exact harrive
  · rintro k' e' hm
    obtain ⟨rfl, rfl⟩ := ProcessMove.task.inj hm
    exact haccess

/-- Once the request has been made, the server takes its next step, up to the calls of the
task. -/
theorem RequestAt.enabled (h : RequestAt r old W begins s true n)
    (hold : ∀ task ∈ old, ¬ task.Live) (hok : ProcessOk s.server) :
    (∃ move, (perfectSession setup s (.server move)).isSome = true) ∨
      ∃ task t l, s.server.tasks = old ++ [task] ∧ s.server.listener.Listening ∧
        task.state = some t ∧ (∀ result, t ≠ .releasing result) ∧ W t l := by
  cases h with
  | arriving asked listening tasks free toServer start =>
      left
      rcases listening with hpoint | hpoint
      · refine ⟨.listener (.poll false), perfectSession_server_of rfl rfl ?_ rfl (by simp)⟩
        simp [serverProcess, serverListenerLoop, ListenerPoint.inCall, hpoint]
      · refine ⟨.listener (.recvfrom requestBufferSize (.datagram (localhost 50001) r.packet)),
          perfectSession_server_of rfl rfl ?_ ?_ (by simp)⟩
        · simp [serverProcess, serverListenerLoop, ListenerPoint.inCall, hpoint]
        · simp [ProcessMove.arrives, toServer, arrive]
  | parsing requested tasks toServer start =>
      obtain ⟨move, hgranted, hsilent, hindex, hmove⟩ := requested.enabled setup.serverHost
        setup.mem hok (by rw [tasks]; exact hold)
      refine Or.inl ⟨move, perfectSession_server_of hgranted ?_ hmove ?_ ?_⟩
      · cases move with
        | task k e => cases hindex
        | _ => rfl
      · rw [arrives_of_silent hsilent]
        rfl
      · rintro k e rfl
        cases hindex
  | working task l listening tasks work toServer =>
      have htask : s.server.tasks[old.length]? = some task := by simp [tasks]
      cases work with
      | waiting fresh start =>
          have hexited : s.server.listener.state.point ≠ .exited := by
            rcases listening with hpoint | hpoint
            · simp [hpoint]
            · simp [hpoint]
          refine Or.inl ⟨.begin old.length, perfectSession_server_of rfl rfl ?_ rfl (by simp)⟩
          simp [serverProcess, hexited, htask, fresh]
      | running t l state unreleased work =>
          exact Or.inr ⟨task, t, l, tasks, listening, state, unreleased, work⟩
      | releasing result state work =>
          have hended : ∀ j, j ≠ old.length → ∀ other, s.server.tasks[j]? = some other →
              ¬ other.Live := by
            intro j hne other hother
            have hlt := (List.getElem?_eq_some_iff.mp hother).1
            rw [tasks, List.length_append, List.length_singleton] at hlt
            rw [tasks, List.getElem?_append_left (by omega)] at hother
            exact hold other (List.mem_of_getElem? hother)
          refine Or.inl ⟨.taskRelease old.length,
            perfectSession_server_of rfl rfl ?_ rfl (by simp)⟩
          exact taskRelease_enabled _ _ hok listening htask state hended

end Steps

end Stftpu
