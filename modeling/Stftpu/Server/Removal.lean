import Stftpu.Server.Grammar
import Stftpu.Server.SlotTable

/-!
# The server and the deletion of one file

What the threads of the server can be at when every datagram that arrives is one client's
request for the deletion of one file: however often it arrives, each time it is parsed to the
same path, and each task it starts goes through `server_delete_file` with it.

* `DeleteRequest` — a datagram that asks for the deletion, and the path it comes to.
* `DeleteRequest.TaskStep` — all that a task can do.
* `DeleteRequest.ServerFor` — what the threads can be at, and `ServerFor.step`.
-/

namespace Stftpu

open Library

/-- A request for a deletion. -/
structure DeleteRequest where
  /-- The address it comes from. -/
  client : SockAddr
  packet : List UInt8
  opcode : requestOperation (opcodeOf packet) = some .handleDelete
  fits : packet.length + 2 ≤ requestBufferSize
  name_le : (requestField 0 packet).length ≤ tftpFilenameMax

namespace DeleteRequest

/-- The path of the file. -/
def path (d : DeleteRequest) : List UInt8 :=
  serverStoragePath ++ requestField 0 d.packet

/-- An operation for it. -/
structure Deletes (d : DeleteRequest) (op : OperationData) : Prop where
  operation : op.operationId = .handleDelete
  path : op.path = d.path
  peer : op.peerAddress = d.client

/-- What arrives at the listener is the request. -/
def Arrives (d : DeleteRequest) : Event → Prop
  | .recvfrom _ (.datagram source bytes) => source = d.client ∧ bytes = d.packet
  | _ => True

/-! ## The listener -/

/-- The request is in the buffer, and nothing else. -/
structure Taken (d : DeleteRequest) (s : ListenerState) : Prop where
  client : s.clientAddress = d.client
  bytes : s.bytesReceived = d.packet.length
  buffer : s.requestBuffer = (Buffer.zero requestBufferSize).receive d.packet

/-- Where the listener can be. -/
def ListenerFor (d : DeleteRequest) (s : ListenerState) : Prop :=
  match s.point with
  | .looping => s.requestBuffer = Buffer.zero requestBufferSize
  | .awaiting => s.requestBuffer = Buffer.zero requestBufferSize
  | .received =>
      (s.bytesReceived ≤ 0 ∧ s.requestBuffer = Buffer.zero requestBufferSize) ∨ d.Taken s
  | .refusing _ => s.clientAddress = d.client
  | .acquiring => d.Taken s
  | .initializing _ args =>
      args.operation = .handleDelete ∧ args.peer = d.client ∧ cstr args.filename = some d.path
  | .spawning _ op => d.Deletes op
  | .ended => True
  | .exited => True
  | _ => False

section Listener

variable {d : DeleteRequest} {host : Host} {mem : ListenerMemory} {s s' : ListenerState}
  {e : Event}

theorem packet_pos (d : DeleteRequest) : 0 < d.packet.length := by
  have htwo := two_le_of_requestOperation d.opcode
  omega

theorem path_length_lt (d : DeleteRequest) : d.path.length < 65535 := by
  have hstorage : serverStoragePath.length = 8 := by decide
  have hname := d.name_le
  simp only [tftpFilenameMax] at hname
  rw [path, List.length_append, hstorage]
  omega

theorem listenerFor_clear : d.ListenerFor s.clear := rfl

theorem listenerFor_refuse (h : s.clientAddress = d.client) (reply : ErrorReply) :
    d.ListenerFor (s.refuse reply) := by
  unfold ListenerState.refuse
  split
  · exact h
  · exact listenerFor_clear

theorem taken_onReceived (h : s.requestBuffer = Buffer.zero requestBufferSize) :
    d.Taken (s.onReceived (.datagram d.client d.packet)) where
  client := rfl
  bytes := by
    have hfits := d.fits
    simp only [ListenerState.onReceived]
    omega
  buffer := by
    simp only [ListenerState.onReceived, h]

/-- The dump of the request stays inside the buffer, and a slot is looked for. -/
theorem dispatch_taken (h : d.Taken s) :
    s.dispatch host mem = { s with point := .acquiring } := by
  have hpos := d.packet_pos
  have hfits := d.fits
  obtain ⟨dump, hdump⟩ := readBytes_contents mem s hfits
  have hopcode : s.incomingOpcode host = opcodeOf d.packet :=
    incomingOpcode_cleared host h.buffer
  have hbytes : ¬ s.bytesReceived ≤ 0 := by
    rw [h.bytes]
    omega
  have hcount : s.bytesReceived.toNat = d.packet.length := by
    rw [h.bytes]
    rfl
  simp only [ListenerState.dispatch, hbytes, if_false, hcount, hdump, hopcode, d.opcode]

theorem listenerFor_dispatch (hpoint : s.point = .received) (h : d.ListenerFor s) :
    d.ListenerFor (s.dispatch host mem) := by
  rw [ListenerFor, hpoint] at h
  rcases h with ⟨hnone, hzero⟩ | htaken
  · simp only [ListenerState.dispatch, hnone, if_true]
    exact hzero
  · rw [dispatch_taken htaken]
    exact ⟨htaken.client, htaken.bytes, htaken.buffer⟩

/-- The request is parsed to its path. -/
theorem onAcquired_taken (host : Host) (mem : ListenerMemory) (h : d.Taken s) (slot : Nat) :
    ∃ args, s.onAcquired host mem (some slot) = { s with point := .initializing slot args } ∧
      args.operation = .handleDelete ∧ args.peer = d.client ∧
      cstr args.filename = some d.path := by
  obtain ⟨args, hparse, hoperation, hpeer, hpath, -, -⟩ :=
    serverParseRequestData_cleared host mem h.buffer h.bytes d.fits d.opcode
  rw [List.take_of_length_le d.name_le] at hpath
  refine ⟨args, ?_, hoperation, hpeer.trans h.client, hpath⟩
  simp only [ListenerState.onAcquired, hparse]

theorem listenerFor_onAcquired (h : d.Taken s) (slot : Option Nat) :
    d.ListenerFor (s.onAcquired host mem slot) := by
  cases slot with
  | none => exact listenerFor_refuse h.client _
  | some slot =>
      obtain ⟨args, heq, hargs⟩ := onAcquired_taken host mem h slot
      rw [heq]
      exact hargs

/-- The operation is accepted without further checks. -/
theorem onInitialized_bound (s : ListenerState) (slot : Nat) {args : InitArguments} (fd : Int)
    (port : UInt16)
    (hoperation : args.operation = .handleDelete) (hpeer : args.peer = d.client)
    (hpath : cstr args.filename = some d.path) :
    ∃ op, s.onInitialized slot args (.bound fd port) = { s with point := .spawning slot op } ∧
      d.Deletes op := by
  have hdelete : args.operation.isDelete = true := by
    rw [hoperation]
    rfl
  have hinit : tftpInitOperationData (.bound fd port) args =
      some (.created (blankOperation args fd port d.path (UInt16.ofNat (d.path.length + 1)))) :=
    tftpInitOperationData_delete hpath d.path_length_lt hdelete
  refine ⟨blankOperation args fd port d.path (UInt16.ofNat (d.path.length + 1)), ?_,
    ⟨hoperation, rfl, hpeer⟩⟩
  simp only [ListenerState.onInitialized, hinit]

theorem listenerFor_onInitialized {slot : Nat} {args : InitArguments} {socket : DataSocket}
    (hoperation : args.operation = .handleDelete) (hpeer : args.peer = d.client)
    (hpath : cstr args.filename = some d.path) :
    d.ListenerFor (s.onInitialized slot args socket) := by
  cases socket with
  | exits =>
      have hinit : tftpInitOperationData .exits args = some .exits := by
        simp [tftpInitOperationData, hpath]
      simp only [ListenerState.onInitialized, hinit]
      trivial
  | bound fd port =>
      obtain ⟨op, heq, hdeletes⟩ := onInitialized_bound s slot fd port hoperation hpeer hpath
      rw [heq]
      exact hdeletes

/-- Every step of the listener's loop. -/
theorem listenerFor_step (h : d.ListenerFor s) (harrives : d.Arrives e)
    (hstep : serverListenerLoop host mem s e = some s') : d.ListenerFor s' := by
  cases loop_called hstep with
  | looping set hpoint =>
      rw [ListenerFor, hpoint] at h
      cases set with
      | true => trivial
      | false => exact h
  | awaiting result hpoint =>
      rw [ListenerFor, hpoint] at h
      cases result with
      | failed errno => exact Or.inl ⟨by simp [ListenerState.onReceived], h⟩
      | datagram source bytes =>
          obtain ⟨rfl, rfl⟩ := harrives
          -- the only datagram that arrives is the request
          exact Or.inr (taken_onReceived h)
  | received set hpoint =>
      cases set with
      | true => trivial
      | false => exact listenerFor_dispatch hpoint h
  | refusing reply ok hpoint => exact listenerFor_clear
  | acquiring slot hpoint =>
      rw [ListenerFor, hpoint] at h
      exact listenerFor_onAcquired h slot
  | initializing slot args socket hpoint =>
      rw [ListenerFor, hpoint] at h
      exact listenerFor_onInitialized h.1 h.2.1 h.2.2
  | rejecting slot fd client reply ok hpoint =>
      rw [ListenerFor, hpoint] at h
      -- a deletion that is parsed is never turned down
      exact h.elim
  | closing slot fd hpoint =>
      rw [ListenerFor, hpoint] at h
      exact h.elim
  | releasing slot hpoint => exact listenerFor_clear
  | spawning slot op ok hpoint => exact listenerFor_clear

end Listener

/-! ## The tasks -/

/-- Where a task can be. -/
def TaskFor (d : DeleteRequest) : TaskState → Prop
  | .starting op => d.Deletes op
  | .deleting _ op => d.Deletes op
  | .closingSocket _ _ => True
  | .releasing _ => True
  | .ended _ => True
  | _ => False

/-- All that a task can do: `server_delete_file`, and the way to the release of the slot. -/
inductive TaskStep (d : DeleteRequest) : TaskState → Event → TaskState → Prop
  | terminated (op : OperationData) : TaskStep d (.starting op) (.poll true) (.releasing none)
  | started (op : OperationData) (h : d.Deletes op) :
      TaskStep d (.starting op) (.poll false) (.deleting .acknowledging op)
  | acknowledged (op : OperationData) (h : d.Deletes op) (ok : Bool) :
      TaskStep d (.deleting .acknowledging op) (.sendto d.client (ackPacket 0) ok)
        (.deleting .opening op)
  | opened (op : OperationData) (h : d.Deletes op) :
      TaskStep d (.deleting .opening op) (.fopen d.path .read none) (.deleting .closing op)
  | missing (op : OperationData) (h : d.Deletes op) (errno : Errno) (reply : ErrorReply) :
      TaskStep d (.deleting .opening op) (.fopen d.path .read (some errno))
        (TaskState.failDelete op reply)
  | closed (op : OperationData) (h : d.Deletes op) {lost : Nat} :
      TaskStep d (.deleting .closing op) (.fclose lost) (.deleting .removing op)
  | removed (op : OperationData) (h : d.Deletes op) :
      TaskStep d (.deleting .removing op) (.remove d.path none) (.deleting .confirming op)
  | kept (op : OperationData) (h : d.Deletes op) (errno : Errno) (reply : ErrorReply) :
      TaskStep d (.deleting .removing op) (.remove d.path (some errno))
        (TaskState.failDelete op reply)
  | confirmed (op : OperationData) (ok : Bool) :
      TaskStep d (.deleting .confirming op) (.sendto d.client (ackPacket 1) ok)
        (TaskState.freeOperationData op (some true))
  | failed (op : OperationData) (reply : ErrorReply) (ok : Bool) :
      TaskStep d (.deleting (.failing reply) op) (.sendto d.client (errorPacket reply) ok)
        (TaskState.freeOperationData op (some false))
  | closedSocket (op : OperationData) (result : Option Bool) :
      TaskStep d (.closingSocket op result) (.close op.dataSocket) (.releasing result)
  | released (result : Option Bool) : TaskStep d (.releasing result) .release (.ended result)

section Tasks

variable {d : DeleteRequest} {host : Host} {t t' : TaskState} {e : Event}

theorem deleting_step {point : DeletePoint} {op : OperationData} (h : d.Deletes op)
    (hstep : serverDeleteFile host point op e = some t') :
    d.TaskStep (.deleting point op) e t' := by
  have hpath := h.path
  have hpeer := h.peer
  cases delete_called hstep with
  | acknowledging ok =>
      rw [hpeer]
      exact .acknowledged op h ok
  | opened =>
      rw [hpath]
      exact .opened op h
  | missing errno =>
      rw [hpath]
      exact .missing op h errno _
  | closing => exact .closed op h
  | removed =>
      rw [hpath]
      exact .removed op h
  | kept errno =>
      rw [hpath]
      exact .kept op h errno _
  | confirming ok =>
      rw [hpeer]
      exact .confirmed op ok
  | failing reply ok =>
      rw [hpeer]
      exact .failed op reply ok

/-- A task does nothing else. -/
theorem task_step (h : d.TaskFor t) (hstep : serverTaskStart host t e = some t') :
    d.TaskStep t e t' := by
  cases task_called hstep with
  | starting op set =>
      cases set with
      | true => exact .terminated op
      | false =>
          have hoperation : op.operationId = .handleDelete := h.operation
          simp only [TaskState.dispatch, hoperation, Bool.false_eq_true, if_false]
          exact .started op h
  | deleting point op hdelete => exact deleting_step h hdelete
  | closingSocket op result => exact .closedSocket op result
  | releasing result => exact .released result
  | _ => exact h.elim

theorem taskFor_freeOperationData {op : OperationData} {result : Option Bool} :
    d.TaskFor (TaskState.freeOperationData op result) := by
  unfold TaskState.freeOperationData
  split <;> trivial

theorem taskFor_failDelete {op : OperationData} (h : d.Deletes op) (reply : ErrorReply) :
    d.TaskFor (TaskState.failDelete op reply) := by
  unfold TaskState.failDelete
  split
  · exact h
  · exact taskFor_freeOperationData

theorem TaskStep.taskFor (h : d.TaskStep t e t') : d.TaskFor t' := by
  cases h with
  | started op h => exact h
  | acknowledged op h ok => exact h
  | opened op h => exact h
  | missing op h errno reply => exact taskFor_failDelete h reply
  | closed op h => exact h
  | removed op h => exact h
  | kept op h errno reply => exact taskFor_failDelete h reply
  | confirmed op ok => exact taskFor_freeOperationData
  | failed op reply ok => exact taskFor_freeOperationData
  | _ => trivial

end Tasks

/-! ## All threads -/

/-- Where a task thread can be, with the operation data in its slot. -/
def ThreadFor (d : DeleteRequest) (task : TaskThread) (opData : Option OperationData) : Prop :=
  match task.state with
  | none => ∃ op, opData = some op ∧ d.Deletes op
  | some t => d.TaskFor t

/-- Where the threads of the server can be. -/
structure ServerFor (d : DeleteRequest) (s : ServerProcess) : Prop extends ProcessOk s where
  listener : d.ListenerFor s.listener.state
  task : ∀ (k : Nat) task, s.tasks[k]? = some task →
    d.ThreadFor task (s.slots.opDataPtr task.slot)

/-- What arrives in a step of the server is the request. -/
def Reaches (d : DeleteRequest) (m : ProcessMove) : Prop :=
  ∀ e, m = .listener e → d.Arrives e

section Threads

variable {d : DeleteRequest} {host : Host} {mem : ListenerMemory} {s s' : ServerProcess}
  {m : ProcessMove} {k : Nat} {task : TaskThread}

theorem ThreadFor.of_live {opData opData' : Option OperationData} (h : d.ThreadFor task opData)
    (hop : task.Live → opData' = opData) : d.ThreadFor task opData' := by
  unfold ThreadFor at h ⊢
  cases hstate : task.state with
  | none =>
      rw [hstate] at h
      rw [hop (by simp [TaskThread.Live, TaskThread.ended, hstate])]
      exact h
  | some t =>
      rw [hstate] at h
      exact h

theorem listenerFor_process (h : d.ServerFor s) (hreaches : d.Reaches m)
    (hstep : serverProcess host mem s m = some s') : d.ListenerFor s'.listener.state := by
  have hlistener := h.listener
  cases listener_moved hstep with
  | stayed heq =>
      rw [heq]
      exact hlistener
  | looped e hm hcall hloop => exact listenerFor_step hlistener (hreaches e hm) hloop
  | acquired slot hpoint heq =>
      rw [ListenerFor, hpoint] at hlistener
      rw [heq]
      exact listenerFor_onAcquired hlistener slot
  | cleared heq =>
      rw [heq]
      exact listenerFor_clear

/-- A task that moves on, with the operation data that were in its slot before. -/
theorem ThreadFor.moved {task' : TaskThread} (h : d.ThreadFor task (s.slots.opDataPtr task.slot))
    (hmoved : TaskMoved host s m k task task') :
    d.ThreadFor task' (s.slots.opDataPtr task.slot) := by
  cases hmoved with
  | stayed => exact h
  | began hm hstate =>
      simp only [ThreadFor, hstate] at h
      obtain ⟨op, hop, hdeletes⟩ := h
      simp only [ThreadFor, TaskThread.onBegin, hop]
      exact hdeletes
  | called e t t' hm hstate hnot hcall =>
      simp only [ThreadFor, hstate] at h
      exact (task_step h hcall).taskFor
  | detached result hm hstate =>
      simp only [ThreadFor, hstate] at h ⊢
      exact h
  | releasing result next hm hstate hdetached =>
      simp only [ThreadFor, hstate] at h ⊢
      exact h
  | released result hm hstate hdetached => trivial

/-- Every step of every thread. -/
theorem ServerFor.step (h : d.ServerFor s) (hreaches : d.Reaches m)
    (hstep : serverProcess host mem s m = some s') : d.ServerFor s' where
  toProcessOk := h.toProcessOk.step hstep
  listener := listenerFor_process h hreaches hstep
  task := by
    intro k task' htask'
    rcases task_origin hstep htask' with ⟨task, htask, hmoved⟩ |
      ⟨slot, op, rfl, -, hpoint, hspawn, rfl⟩
    · have hbefore := (h.task k task htask).moved hmoved
      rw [hmoved.slot]
      refine hbefore.of_live ?_
      intro hlive
      refine ServerProcess.opDataPtr_step hstep ?_
      intro hstores
      exact ServerProcess.slot_ne_listener h.slots htask (hmoved.live hlive)
        (ServerProcess.phase_of_stores hstores) rfl
    · have hlistener := h.listener
      rw [ListenerFor, hpoint] at hlistener
      have hop := h.stored slot op hpoint (by rw [hspawn]; simp)
      have hslots : s'.slots.opDataPtr slot = s.slots.opDataPtr slot :=
        ServerProcess.opDataPtr_step hstep (by simp [ServerProcess.stores])
      exact ⟨op, hslots.trans hop, hlistener⟩

end Threads

end DeleteRequest

end Stftpu
