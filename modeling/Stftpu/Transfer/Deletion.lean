import Stftpu.Client.Operation
import Stftpu.Server.Removal
import Stftpu.Server.RoundTrip
import Stftpu.Transfer.LossyChannel

/-!
# The deletion of a file over a lossy channel

A client that asks for a deletion waits for two acknowledgements, and the server's tasks
answer every copy of its request that arrives.  The channel may lose, duplicate, delay and
reorder the packets of both: whatever was sent may be received at any time, any number of
times, or never.

* `Deletion` — the client, the server with its files, and the packets sent.
* `lossyDeletion` — one step of either.
* `removed_of_run` — the file is as it was until a task has removed it, and only behind that
  can the deletion be confirmed.
-/

namespace Stftpu

open Library

/-! ## The two programs -/

/-- What both programs are started with. -/
structure DeletionSetup (ν : Type) where
  clientHost : Host
  serverHost : Host
  mem : ListenerMemory
  /-- The file a path leads to. -/
  resolve : List UInt8 → ν
  /-- The address of the client's socket. -/
  client : SockAddr

/-- The client and the server, the files of the server, and the packets between them. -/
structure Deletion (ν : Type) where
  client : ClientState
  server : ServerProcess
  storage : Storage ν
  /-- The `FILE *` of each task. -/
  streams : Nat → Option (OpenFile ν)
  toServer : List (List UInt8)
  toClient : List (List UInt8)

/-- The client calls `client_start_operation`. -/
def Deletion.start {ν : Type} (op : OperationData) (server : ServerProcess)
    (storage : Storage ν) : Deletion ν :=
  { client := ClientState.start op
    server := server
    storage := storage
    streams := fun _ => none
    toServer := []
    toClient := [] }

/-- No task has a stream for writing. -/
def Deletion.Reads {ν : Type} (s : Deletion ν) : Prop :=
  ∀ k, ReadOnly (s.streams k)

inductive DeletionMove
  | client (e : Event)
  | server (m : ProcessMove)
  deriving DecidableEq, Repr

namespace ProcessMove

/-- A datagram received is one of the client's in flight. -/
def Carried (client : SockAddr) (flight : List (List UInt8)) : ProcessMove → Prop
  | .listener (.recvfrom _ (.datagram source bytes)) => source = client ∧ bytes ∈ flight
  | _ => True

/-- The packets a step sends to the client. -/
def replies (client : SockAddr) : ProcessMove → List (List UInt8)
  | .listener (.sendto peer packet true) => if peer = client then [packet] else []
  | .task _ (.sendto peer packet true) => if peer = client then [packet] else []
  | _ => []

end ProcessMove

section Steps

variable {ν : Type} [DecidableEq ν] (setup : DeletionSetup ν)

/-- A system call of the client. -/
def Deletion.clientStep (s : Deletion ν) (e : Event) : Option (Deletion ν) :=
  (clientStartOperation setup.clientHost s.client e).map fun client =>
    { s with client := client }

/-- A step of the server; the calls of a task are answered by the files. -/
def Deletion.serverStep (s : Deletion ν) (m : ProcessMove) : Option (Deletion ν) :=
  match serverProcess setup.serverHost setup.mem s.server m with
  | none => none
  | some server =>
      match m with
      | .task k e =>
          (accessFiles setup.resolve s.storage (s.streams k) e).map fun (storage, file) =>
            { s with
              server := server
              storage := storage
              streams := Function.update s.streams k file }
      | _ => some { s with server := server }

instance (client : SockAddr) (flight : List (List UInt8)) :
    DecidablePred (ProcessMove.Carried client flight) := by
  intro m
  unfold ProcessMove.Carried
  split <;> infer_instance

/-- One move over a lossy channel. -/
def lossyDeletion (s : Deletion ν) : DeletionMove → Option (Deletion ν)
  | .client e =>
      if Carried s.toClient e then
        (s.clientStep setup e).map fun t => { t with toServer := s.toServer ++ launched e }
      else
        none
  | .server m =>
      if m.Carried setup.client s.toServer then
        (s.serverStep setup m).map fun t =>
          { t with toClient := s.toClient ++ m.replies setup.client }
      else
        none

end Steps

/-! ### All that a step does -/

theorem clientStep_eq {ν : Type} {setup : DeletionSetup ν} {s s' : Deletion ν} {e : Event}
    (h : s.clientStep setup e = some s') :
    ∃ client, clientStartOperation setup.clientHost s.client e = some client ∧
      s' = { s with client := client } := by
  obtain ⟨client, hclient, rfl⟩ := Option.map_eq_some_iff.mp h
  exact ⟨client, hclient, rfl⟩

section Inversion

variable {ν : Type} [DecidableEq ν] {setup : DeletionSetup ν} {s s' : Deletion ν} {e : Event}
  {m : ProcessMove}

theorem serverStep_eq (h : s.serverStep setup m = some s') :
    serverProcess setup.serverHost setup.mem s.server m = some s'.server ∧
      s'.client = s.client ∧ s'.toServer = s.toServer ∧ s'.toClient = s.toClient ∧
      ((∀ k e, m ≠ .task k e) ∧ s'.storage = s.storage ∧ s'.streams = s.streams ∨
        ∃ k e file, m = .task k e ∧
          accessFiles setup.resolve s.storage (s.streams k) e = some (s'.storage, file) ∧
          s'.streams = Function.update s.streams k file) := by
  unfold Deletion.serverStep at h
  split at h
  · cases h
  · rename_i server hserver
    split at h
    · rename_i k e
      obtain ⟨⟨storage, file⟩, haccess, rfl⟩ := Option.map_eq_some_iff.mp h
      exact ⟨hserver, rfl, rfl, rfl, Or.inr ⟨k, e, file, rfl, haccess, rfl⟩⟩
    · rename_i hnot
      obtain rfl := Option.some.inj h
      exact ⟨hserver, rfl, rfl, rfl, Or.inl ⟨hnot, rfl, rfl⟩⟩

theorem lossy_client (h : lossyDeletion setup s (.client e) = some s') :
    Carried s.toClient e ∧ clientStartOperation setup.clientHost s.client e = some s'.client ∧
      s'.server = s.server ∧ (s'.storage = s.storage ∧ s'.streams = s.streams) ∧
      s'.toClient = s.toClient ∧ s'.toServer = s.toServer ++ launched e := by
  simp only [lossyDeletion] at h
  split at h
  · rename_i hcarried
    obtain ⟨t, ht, rfl⟩ := Option.map_eq_some_iff.mp h
    obtain ⟨client, hclient, rfl⟩ := clientStep_eq ht
    exact ⟨hcarried, hclient, rfl, ⟨rfl, rfl⟩, rfl, rfl⟩
  · cases h

theorem lossy_server (h : lossyDeletion setup s (.server m) = some s') :
    m.Carried setup.client s.toServer ∧ ∃ t, s.serverStep setup m = some t ∧
      s' = { t with toClient := s.toClient ++ m.replies setup.client } := by
  simp only [lossyDeletion] at h
  split at h
  · rename_i hcarried
    obtain ⟨t, ht, rfl⟩ := Option.map_eq_some_iff.mp h
    exact ⟨hcarried, t, ht, rfl⟩
  · cases h

end Inversion

/-! ## The client -/

/-- The packets a client that asks for a deletion can receive. -/
def Reply (packet : List UInt8) : Prop :=
  packet = ackPacket 0 ∨ packet = ackPacket 1 ∨ ∃ reply, packet = errorPacket reply

namespace DeleteRequest

/-- Where the client can be. -/
def ClientFor (d : DeleteRequest) : ClientState → Prop
  | .requesting op packet => op.operationId = .requestDelete ∧ packet = d.packet
  | .awaitingRequest s => s.op.operationId = .requestDelete ∧ s.blockNumber = 0
  | .awaitingDeletion s => s.blockNumber = 1
  | .returned _ _ => True
  | _ => False

section Client

variable {d : DeleteRequest} {host : Host} {t t' : ClientState} {e : Event}

/-- What a wait for an acknowledgement can come to. -/
theorem await_step {s s' : AwaitState} (hstep : tftpAwaitAcknowledgement host s e = some s')
    (hreply : ∀ size source bytes, e = .recvfrom size (.datagram source bytes) → Reply bytes) :
    s'.blockNumber = s.blockNumber ∧ s'.op.operationId = s.op.operationId ∧
      (s'.point = .returned .success →
        ∃ size source, e = .recvfrom size (.datagram source (ackPacket s.blockNumber))) := by
  have hloop : ∀ r : AwaitState, r.loopTest.blockNumber = r.blockNumber ∧
      r.loopTest.op = r.op ∧ r.loopTest.point ≠ .returned .success := by
    intro r
    rcases r.loopTest_cases with ⟨-, hr⟩ | hr <;> rw [hr] <;> exact ⟨rfl, rfl, by simp⟩
  cases hpoint : s.point with
  | allocating =>
      obtain ⟨block, packet, rfl, rfl⟩ := await_allocating hpoint hstep
      obtain ⟨hnumber, hop, hnot⟩ := hloop { s with incomingPacket := packet }
      exact ⟨hnumber, congrArg _ hop, fun hsuccess => absurd hsuccess hnot⟩
  | awaiting =>
      obtain ⟨result, rfl, rfl⟩ := await_awaiting hpoint hstep
      cases result with
      | failed errno =>
          obtain ⟨hnumber, hop, hnot⟩ := hloop s
          exact ⟨hnumber, congrArg _ hop, fun hsuccess => absurd hsuccess hnot⟩
      | datagram source bytes =>
          have hack : ∀ n, bytes = ackPacket n →
              (s.onReceived host (.datagram source bytes)).blockNumber = s.blockNumber ∧
              (s.onReceived host (.datagram source bytes)).op.operationId = s.op.operationId ∧
              ((s.onReceived host (.datagram source bytes)).point = .returned .success →
                n = s.blockNumber) := by
            rintro n rfl
            rw [s.onReceived_ack host source n]
            split
            · exact ⟨rfl, rfl, fun _ => ‹_›⟩
            · obtain ⟨hnumber, hop, hnot⟩ := hloop (s.received source (ackPacket n))
              exact ⟨hnumber, by rw [hop]; rfl, fun hsuccess => absurd hsuccess hnot⟩
          rcases hreply _ source bytes rfl with rfl | rfl | ⟨reply, rfl⟩
          · obtain ⟨hnumber, hop, hsuccess⟩ := hack 0 rfl
            exact ⟨hnumber, hop, fun hs => ⟨_, source, by rw [← hsuccess hs]⟩⟩
          · obtain ⟨hnumber, hop, hsuccess⟩ := hack 1 rfl
            exact ⟨hnumber, hop, fun hs => ⟨_, source, by rw [← hsuccess hs]⟩⟩
          · rw [s.onReceived_error host source reply]
            exact ⟨rfl, rfl, by simp⟩
  | returned exit => simp [tftpAwaitAcknowledgement, hpoint] at hstep

/-- A wait sends nothing. -/
theorem launched_await {s s' : AwaitState} (hstep : tftpAwaitAcknowledgement host s e = some s') :
    launched e = [] := by
  cases e with
  | sendto peer packet ok =>
      rw [await_sendto] at hstep
      cases hstep
  | _ => rfl

/-- A step of the client: what it sends is the request, and only the second ACK makes it
return `true`. -/
theorem client_step (h : d.ClientFor t) (hstep : clientStartOperation host t e = some t')
    (hreply : ∀ size source bytes, e = .recvfrom size (.datagram source bytes) → Reply bytes) :
    d.ClientFor t' ∧ (∀ packet ∈ launched e, packet = d.packet) ∧
      ∀ op, t' = .returned op true →
        ∃ size source, e = .recvfrom size (.datagram source (ackPacket 1)) := by
  cases client_called hstep with
  | requesting op packet ok =>
      obtain ⟨hoperation, hpacket⟩ := h
      have hnot : op.operationId ≠ .receive := by simp [hoperation]
      cases ok with
      | true =>
          simp only [ClientState.onRequested, if_true, hnot, if_false]
          refine ⟨⟨hoperation, rfl⟩, ?_, by simp⟩
          intro packet' hmem
          rw [List.mem_singleton.mp hmem, hpacket]
      | false => exact ⟨trivial, by simp [launched], by simp [ClientState.onRequested]⟩
  | awaitingRequest s s' hs =>
      obtain ⟨hoperation, hnumber⟩ := h
      obtain ⟨hnumber', hoperation', -⟩ := await_step hs hreply
      have hlaunched : ∀ packet ∈ launched e, packet = d.packet := by
        rw [launched_await hs]
        exact fun packet hmem => absurd hmem List.not_mem_nil
      unfold ClientState.afterRequest
      split
      · have hdelete : s'.op.operationId = .requestDelete := hoperation'.trans hoperation
        simp only [ClientState.acknowledged, hdelete, if_true]
        exact ⟨rfl, hlaunched, by simp⟩
      · exact ⟨trivial, hlaunched, by simp⟩
      · exact ⟨⟨hoperation'.trans hoperation, hnumber'.trans hnumber⟩, hlaunched, by simp⟩
  | awaitingDeletion s s' hs =>
      obtain ⟨hnumber', -, hsuccess⟩ := await_step hs hreply
      have hlaunched : ∀ packet ∈ launched e, packet = d.packet := by
        rw [launched_await hs]
        exact fun packet hmem => absurd hmem List.not_mem_nil
      have hone : s.blockNumber = 1 := h
      unfold ClientState.afterDeletion
      split
      · rename_i exit hpoint
        refine ⟨trivial, hlaunched, ?_⟩
        intro op hreturned
        -- of the ends of a wait only `.success` is worth `true`
        have hvalue : exit.value = true := (ClientState.returned.inj hreturned).2
        have hexit : exit = .success := by
          cases exit with
          | success => rfl
          | failure => cases hvalue
          | peerError => cases hvalue
        rw [hexit] at hpoint
        rw [← hone]
        exact hsuccess hpoint
      · exact ⟨hnumber'.trans hone, hlaunched, by simp⟩
  | _ => exact h.elim

end Client

/-! ## The server -/

section Replies

variable {d : DeleteRequest}

/-- A task confirms the deletion from one control point only. -/
theorem TaskStep.reply {t t' : TaskState} {e : Event} (h : d.TaskStep t e t') {peer : SockAddr}
    {packet : List UInt8} {ok : Bool} (he : e = .sendto peer packet ok) :
    Reply packet ∧ (packet = ackPacket 1 → ∃ op, t = .deleting .confirming op) := by
  cases h with
  | acknowledged op h ok =>
      obtain ⟨-, rfl, -⟩ := Event.sendto.inj he
      exact ⟨Or.inl rfl, fun hone => absurd hone (by decide)⟩
  | confirmed op ok =>
      obtain ⟨-, rfl, -⟩ := Event.sendto.inj he
      exact ⟨Or.inr (Or.inl rfl), fun _ => ⟨op, rfl⟩⟩
  | failed op reply ok =>
      obtain ⟨-, rfl, -⟩ := Event.sendto.inj he
      exact ⟨Or.inr (Or.inr ⟨reply, rfl⟩),
        fun hone => absurd hone (errorPacket_ne_ackPacket reply 1)⟩
  | _ => cases he

/-- No task is about to confirm the deletion. -/
def Unconfirmed (s : ServerProcess) : Prop :=
  ∀ (k : Nat) task op, s.tasks[k]? = some task → task.state ≠ some (.deleting .confirming op)

/-- The listener's packets are ERROR packets, and a task's are those of its deletion. -/
theorem reply_of_step {p p' : ServerProcess} {host : Host} {mem : ListenerMemory}
    {m : ProcessMove} (h : d.ServerFor p) (hstep : serverProcess host mem p m = some p')
    {client : SockAddr} {packet : List UInt8} (hmem : packet ∈ m.replies client) :
    Reply packet ∧ (Unconfirmed p → packet ≠ ackPacket 1) := by
  cases m with
  | listener e =>
      cases e with
      | sendto peer sent ok =>
          cases ok with
          | false => cases hmem
          | true =>
              obtain ⟨-, state, hloop, -⟩ := listener_eq hstep
              have hsent : ∃ reply, sent = errorPacket reply := by
                cases loop_called hloop with
                | refusing reply => exact ⟨reply, rfl⟩
                | rejecting slot fd client' reply => exact ⟨reply, rfl⟩
              obtain ⟨reply, rfl⟩ := hsent
              simp only [ProcessMove.replies] at hmem
              split at hmem
              · obtain rfl := List.mem_singleton.mp hmem
                exact ⟨Or.inr (Or.inr ⟨reply, rfl⟩), fun _ => errorPacket_ne_ackPacket reply 1⟩
              · cases hmem
      | _ => cases hmem
  | task k e =>
      cases e with
      | sendto peer sent ok =>
          cases ok with
          | false => cases hmem
          | true =>
              obtain ⟨task, t₁, t₂, htask, hstate, -, hcall, -⟩ := task_eq hstep
              have hfor := h.task k task htask
              simp only [ThreadFor, hstate] at hfor
              obtain ⟨hreply, hone⟩ := (task_step hfor hcall).reply rfl
              simp only [ProcessMove.replies] at hmem
              split at hmem
              · obtain rfl := List.mem_singleton.mp hmem
                refine ⟨hreply, ?_⟩
                intro hunconfirmed hpacket
                obtain ⟨op, rfl⟩ := hone hpacket
                exact hunconfirmed k task op htask hstate
              · cases hmem
      | _ => cases hmem
  | _ => cases hmem

end Replies

section Server

variable {ν : Type} [DecidableEq ν] {d : DeleteRequest} {setup : DeletionSetup ν}
  {s t : Deletion ν} {m : ProcessMove}

/-- A task removes the file, or opens none for writing and removes none. -/
theorem TaskStep.names {t t' : TaskState} {e : Event} (h : d.TaskStep t e t') :
    e = .remove d.path none ∨ e.changesNames = false ∧ ∀ op, t' ≠ .deleting .confirming op := by
  have hfree : ∀ op result op',
      TaskState.freeOperationData op result ≠ .deleting .confirming op' := by
    intro op result op'
    unfold TaskState.freeOperationData
    split <;> simp
  have hfail : ∀ op reply op', TaskState.failDelete op reply ≠ .deleting .confirming op' := by
    intro op reply op'
    unfold TaskState.failDelete
    split
    · simp
    · exact hfree _ _ _
  cases h with
  | removed op h => exact Or.inl rfl
  | missing op h errno reply => exact Or.inr ⟨rfl, hfail op reply⟩
  | kept op h errno reply => exact Or.inr ⟨rfl, hfail op reply⟩
  | confirmed op ok => exact Or.inr ⟨rfl, hfree op _⟩
  | failed op reply ok => exact Or.inr ⟨rfl, hfree op _⟩
  | _ => exact Or.inr ⟨rfl, by simp⟩

/-- With a stream for reading it leaves the files alone, but for the removal. -/
theorem TaskStep.storage {t t' : TaskState} {e : Event} (h : d.TaskStep t e t')
    {resolve : List UInt8 → ν} {store store' : Storage ν} {file file' : Option (OpenFile ν)}
    (hreads : ReadOnly file)
    (haccess : accessFiles resolve store file e = some (store', file')) :
    (store' = store ∧ (∀ op, t' ≠ .deleting .confirming op) ∨
      e = .remove d.path none ∧ (store.entry (resolve d.path)).isSome = true ∧
        store' = store.remove (resolve d.path)) ∧
      ReadOnly file' := by
  rcases h.names with rfl | ⟨hnames, hnever⟩
  · obtain ⟨hentry, -⟩ := Option.ite_none_right_eq_some.mp haccess
    obtain ⟨hstore, hfile⟩ := access_remove haccess
    exact ⟨Or.inr ⟨rfl, hentry, hstore⟩, by rw [hfile]; exact hreads⟩
  · obtain ⟨hstore, hreads'⟩ := access_reading hreads hnames haccess
    exact ⟨Or.inl ⟨hstore, hnever⟩, hreads'⟩

/-- No task opens a file for writing. -/
theorem reads_step (h : d.ServerFor s.server) (hreads : s.Reads)
    (hstep : s.serverStep setup m = some t) : t.Reads := by
  obtain ⟨hserver, -, -, -, hfiles⟩ := serverStep_eq hstep
  rcases hfiles with ⟨-, -, hstreams⟩ | ⟨k, e, file, rfl, haccess, hstreams⟩
  · intro j
    rw [hstreams]
    exact hreads j
  · obtain ⟨task, t₁, t₂, htask, hstate, -, hcall, -⟩ := task_eq hserver
    have hfor := h.task k task htask
    simp only [ThreadFor, hstate] at hfor
    intro j
    rw [hstreams]
    by_cases hne : j = k
    · subst hne
      rw [Function.update_self]
      exact ((task_step hfor hcall).storage (hreads j) haccess).2
    · rw [Function.update_of_ne hne]
      exact hreads j

/-- A step of the server leaves the files alone and brings no task to the confirmation, or it
removes the file. -/
theorem storage_step (h : d.ServerFor s.server) (hreads : s.Reads)
    (hstep : s.serverStep setup m = some t) :
    t.storage = s.storage ∧ (Unconfirmed s.server → Unconfirmed t.server) ∨
      (∃ k, m = .task k (.remove d.path none)) ∧
        (s.storage.entry (setup.resolve d.path)).isSome = true ∧
        t.storage = s.storage.remove (setup.resolve d.path) := by
  obtain ⟨hserver, -, -, -, hfiles⟩ := serverStep_eq hstep
  -- only a `remove` that succeeds changes the files
  by_cases hremove : ∃ k, m = .task k (.remove d.path none)
  · obtain ⟨k, rfl⟩ := hremove
    rcases hfiles with ⟨hnot, -⟩ | ⟨k', e, file, hm, haccess, -⟩
    · exact absurd rfl (hnot _ _)
    · obtain ⟨rfl, rfl⟩ := ProcessMove.task.inj hm
      simp only [accessFiles] at haccess
      split at haccess
      · rename_i hentry
        obtain ⟨hstorage, -⟩ := Prod.mk.inj (Option.some.inj haccess)
        exact Or.inr ⟨⟨k, rfl⟩, hentry, hstorage.symm⟩
      · cases haccess
  · left
    refine ⟨?_, ?_⟩
    · rcases hfiles with ⟨-, hstorage, -⟩ | ⟨k, e, file, rfl, haccess, -⟩
      · exact hstorage
      · obtain ⟨task, t₁, t₂, htask, hstate, -, hcall, -⟩ := task_eq hserver
        have hfor := h.task k task htask
        simp only [ThreadFor, hstate] at hfor
        rcases ((task_step hfor hcall).storage (hreads k) haccess).1 with
          ⟨hstorage, -⟩ | ⟨rfl, -, -⟩
        · exact hstorage
        · exact absurd ⟨k, rfl⟩ hremove
    · -- and only behind it a task comes to confirm the deletion
      intro hunconfirmed k task' op htask' hconfirming
      rcases task_origin hserver htask' with ⟨task, htask, hmoved⟩ | ⟨slot, op', -, -, -, -, rfl⟩
      · cases hmoved with
        | stayed => exact hunconfirmed k task' op htask hconfirming
        | began hm hstate =>
            cases hop : s.server.slots.opDataPtr task.slot <;>
              simp [TaskThread.onBegin, hop] at hconfirming
        | called e t₁ t₂ hm hstate hnot hcall =>
            rcases hfiles with ⟨hother, -⟩ | ⟨k', e', file, hm', haccess, -⟩
            · exact hother k e hm
            · obtain ⟨rfl, rfl⟩ := ProcessMove.task.inj (hm.symm.trans hm')
              have hfor := h.task k task htask
              simp only [ThreadFor, hstate] at hfor
              rcases ((task_step hfor hcall).storage (hreads k) haccess).1 with
                ⟨-, hnever⟩ | ⟨rfl, -, -⟩
              · exact hnever op (Option.some.inj hconfirming)
              · exact hremove ⟨k, hm⟩
        | detached result hm hstate => simp [hstate] at hconfirming
        | releasing result next hm hstate hdetached => simp [hstate] at hconfirming
        | released result hm hstate hdetached => simp [TaskThread.enter] at hconfirming
      · cases hconfirming

end Server

/-! ## Every run over a lossy channel -/

/-- What holds of both programs and the packets between them after every step. -/
structure LossyOk {ν : Type} (d : DeleteRequest) (s : Deletion ν) : Prop where
  server : d.ServerFor s.server
  reads : s.Reads
  client : d.ClientFor s.client
  toServer : ∀ packet ∈ s.toServer, packet = d.packet
  toClient : ∀ packet ∈ s.toClient, Reply packet

/-- The files are as they were, and nothing says otherwise. -/
structure Untouched {ν : Type} (storage : Storage ν) (s : Deletion ν) : Prop where
  storage : s.storage = storage
  server : Unconfirmed s.server
  toClient : ackPacket 1 ∉ s.toClient
  client : ∀ op, s.client ≠ .returned op true

/-- What the client receives is a reply. -/
theorem LossyOk.reply {ν : Type} {d : DeleteRequest} {s : Deletion ν} {e : Event}
    (h : d.LossyOk s) (hcarried : Carried s.toClient e) :
    ∀ size source bytes, e = .recvfrom size (.datagram source bytes) → Reply bytes := by
  rintro size source bytes rfl
  exact h.toClient bytes hcarried

section Lossy

variable {ν : Type} [DecidableEq ν] {d : DeleteRequest} {setup : DeletionSetup ν}
  {s s' : Deletion ν} {e : Event} {m : ProcessMove} {storage : Storage ν}

theorem LossyOk.clientMove (h : d.LossyOk s) (storage : Storage ν)
    (hstep : lossyDeletion setup s (.client e) = some s') :
    d.LossyOk s' ∧ (Untouched storage s → Untouched storage s') := by
  obtain ⟨hcarried, hclient, hserver, ⟨hstorage, hstreams⟩, htoClient, htoServer⟩ :=
    lossy_client hstep
  obtain ⟨hfor, hasked, htrue⟩ := client_step h.client hclient (h.reply hcarried)
  refine ⟨⟨by rw [hserver]; exact h.server, by rw [Deletion.Reads, hstreams]; exact h.reads, hfor,
    ?_, by rw [htoClient]; exact h.toClient⟩, ?_⟩
  · intro packet hmem
    rw [htoServer] at hmem
    rcases List.mem_append.mp hmem with hmem | hmem
    · exact h.toServer packet hmem
    · exact hasked packet hmem
  · intro huntouched
    refine ⟨hstorage.trans huntouched.storage, by rw [hserver]; exact huntouched.server,
      by rw [htoClient]; exact huntouched.toClient, ?_⟩
    intro op hreturned
    obtain ⟨size, source, rfl⟩ := htrue op hreturned
    exact huntouched.toClient hcarried

theorem LossyOk.serverMove (h : d.LossyOk s) (storage : Storage ν)
    (haddress : setup.client = d.client)
    (hstep : lossyDeletion setup s (.server m) = some s') :
    d.LossyOk s' ∧
      ((∃ k, m = .task k (.remove d.path none)) ∧
          (s.storage.entry (setup.resolve d.path)).isSome = true ∧
          s'.storage = s.storage.remove (setup.resolve d.path) ∨
        s'.storage = s.storage ∧ (Untouched storage s → Untouched storage s')) := by
  obtain ⟨hcarried, t, ht, rfl⟩ := lossy_server hstep
  obtain ⟨hserver, hclient, htoServer, -, -⟩ := serverStep_eq ht
  have hreaches : d.Reaches m := by
    rintro e rfl
    cases e with
    | recvfrom size result =>
        cases result with
        | datagram source bytes => exact ⟨hcarried.1.trans haddress, h.toServer bytes hcarried.2⟩
        | failed errno => trivial
    | _ => trivial
  have hreads : t.Reads := reads_step h.server h.reads ht
  refine ⟨⟨h.server.step hreaches hserver, hreads, hclient ▸ h.client, htoServer ▸ h.toServer,
    ?_⟩, ?_⟩
  · intro packet hmem
    rcases List.mem_append.mp hmem with hmem | hmem
    · exact h.toClient packet hmem
    · exact (reply_of_step h.server hserver hmem).1
  · rcases storage_step h.server h.reads ht with ⟨hstorage, hunconfirmed⟩ | hremoved
    · refine Or.inr ⟨hstorage, ?_⟩
      intro huntouched
      refine ⟨hstorage.trans huntouched.storage, hunconfirmed huntouched.server, ?_,
        hclient ▸ huntouched.client⟩
      intro hmem
      rcases List.mem_append.mp hmem with hmem | hmem
      · exact huntouched.toClient hmem
      · exact (reply_of_step h.server hserver hmem).2 huntouched.server rfl
    · exact Or.inl hremoved

/-- The file is as it was until a task has removed it, and stays away from then on. -/
theorem removed_of_run {tr : List DeletionMove} (hrun : Run (lossyDeletion setup) s tr s')
    (haddress : setup.client = d.client) (hok : d.LossyOk s)
    (hstart : Untouched storage s) :
    d.LossyOk s' ∧
      (Untouched storage s' ∨ s'.storage = storage.remove (setup.resolve d.path) ∧
        ∃ k, DeletionMove.server (.task k (.remove d.path none)) ∈ tr) := by
  induction hrun with
  | nil => exact ⟨hok, Or.inl hstart⟩
  | @snoc tr t u move _ hstep ih =>
      obtain ⟨hokt, hbefore⟩ := ih
      cases move with
      | client e =>
          obtain ⟨hoku, hkeeps⟩ := hokt.clientMove storage hstep
          refine ⟨hoku, ?_⟩
          rcases hbefore with huntouched | ⟨hstorage, k, hmem⟩
          · exact Or.inl (hkeeps huntouched)
          · obtain ⟨-, -, -, ⟨hsame, -⟩, -, -⟩ := lossy_client hstep
            exact Or.inr ⟨hsame.trans hstorage, k, List.mem_append_left _ hmem⟩
      | server m =>
          obtain ⟨hoku, hmoved⟩ := hokt.serverMove storage haddress hstep
          refine ⟨hoku, ?_⟩
          rcases hbefore with huntouched | ⟨hstorage, k, hmem⟩
          · rcases hmoved with ⟨⟨k, rfl⟩, -, hremoved⟩ | ⟨-, hkeeps⟩
            · refine Or.inr ⟨?_, k, by simp⟩
              rw [hremoved, huntouched.storage]
            · exact Or.inl (hkeeps huntouched)
          · rcases hmoved with ⟨-, hentry, -⟩ | ⟨hsame, -⟩
            · -- the file is not there to be removed again
              rw [hstorage] at hentry
              simp [FileStore.remove] at hentry
            · exact Or.inr ⟨hsame.trans hstorage, k, List.mem_append_left _ hmem⟩

end Lossy

/-! ## The start -/

/-- The request of a client for the deletion of a file. -/
def ofClient (client : SockAddr) (op : OperationData) (filename : List UInt8)
    (hname : ∀ c ∈ filename, c ≠ 0) (hlen : filename.length ≤ tftpFilenameMax) :
    DeleteRequest where
  client := client
  packet := requestBytes op .drq filename
  opcode := by
    rw [opcodeOf_requestBytes]
    rfl
  fits := requestBytes_length_le hlen
  name_le := by
    rw [requestField_zero hname]
    exact hlen

theorem path_ofClient (client : SockAddr) (op : OperationData) {filename : List UInt8}
    (hname : ∀ c ∈ filename, c ≠ 0) (hlen : filename.length ≤ tftpFilenameMax) :
    (ofClient client op filename hname hlen).path = serverStoragePath ++ filename := by
  rw [path, ofClient, requestField_zero hname]

section Start

variable {ν : Type} {host : Host} {mem : ListenerMemory} {args : InitArguments}
  {op : OperationData} {filename : List UInt8} {fd : Int} {port : UInt16}

/-- The client is about to send its request. -/
theorem client_start (hoperation : args.operation = .requestDelete)
    (hfilename : cstr args.filename = some filename) (hlen : filename.length ≤ tftpFilenameMax)
    (hslash : 47 ∉ filename)
    (hinit : tftpInitOperationData (.bound fd port) args = some (.created op)) :
    ClientState.start op = .requesting op (requestBytes op .drq filename) ∧
      op.operationId = .requestDelete := by
  obtain ⟨hid, hpath, hpathLen, hmode, -⟩ := created_fields hinit hfilename
  have hnonzero := (cstr_eq_some hfilename).1
  have hlast : afterLast 47 op.path = filename := by
    rw [hpath, afterLast_of_notMem hslash]
  have hlength : op.path.length < 65535 := by
    rw [hpath]
    simp only [tftpFilenameMax] at hlen
    omega
  have hpacket : sendRequestPacket op = some (.built (requestBytes op .drq filename)) := by
    have hsend : sendRequestPacket op = some (.built
        (wire16 TFTPOpcode.drq.code ++ (afterLast 47 op.path ++ 0 :: requestTail op))) :=
      sendRequestPacket_eq (by rw [hid, hoperation]; rfl) hmode (by rw [hpath]; exact hnonzero)
        hlength (by rw [hpathLen, hpath]) (by rw [hlast]; exact hlen)
    rw [hlast] at hsend
    exact hsend
  refine ⟨?_, hid.trans hoperation⟩
  simp only [ClientState.start, hpacket]

end Start

/-- The server waits for requests, and no task is at work. -/
structure Idle (s : ServerProcess) : Prop where
  listener : s.listener.state.point = .looping ∨ s.listener.state.point = .awaiting
  tasks : ∀ task ∈ s.tasks, ¬ task.Live

section Idle

variable {host : Host} {mem : ListenerMemory} {s s' : ServerProcess} {m : ProcessMove}

/-- A task that is not live has ended. -/
theorem ended_of_not_live {task : TaskThread} (h : ¬ task.Live) :
    ∃ result, task.state = some (.ended result) := by
  unfold TaskThread.Live TaskThread.ended at h
  cases hstate : task.state with
  | none => simp [hstate] at h
  | some t =>
      rw [hstate] at h
      cases t with
      | ended result => exact ⟨result, rfl⟩
      | _ => exact absurd rfl h

/-- Whatever the server has done before, it is ready for the request. -/
theorem serverFor_of_idle (d : DeleteRequest) {history : List ProcessMove}
    (hrun : Run (serverProcess host mem) ServerProcess.start history s) (hidle : Idle s) :
    d.ServerFor s := by
  have hok : ProcessOk s :=
    hrun.invariant (fun _ _ _ hI hstep => hI.step hstep) ProcessOk.start
  have hcleared : s.listener.state.Cleared :=
    hrun.invariant (I := fun s => s.listener.state.Cleared)
      (fun _ _ _ hI hstep => cleared_process hI hstep) rfl
  refine ⟨hok, ?_, ?_⟩
  · rcases hidle.listener with hpoint | hpoint
    · simp only [ListenerState.Cleared, hpoint] at hcleared
      simp only [ListenerFor, hpoint, hcleared]
    · simp only [ListenerState.Cleared, hpoint] at hcleared
      simp only [ListenerFor, hpoint, hcleared]
  · intro k task htask
    obtain ⟨result, hstate⟩ := ended_of_not_live (hidle.tasks task (List.mem_of_getElem? htask))
    simp only [ThreadFor, hstate]
    trivial

theorem unconfirmed_of_idle (hidle : Idle s) : Unconfirmed s := by
  intro k task op htask hconfirming
  obtain ⟨result, hstate⟩ := ended_of_not_live (hidle.tasks task (List.mem_of_getElem? htask))
  rw [hstate] at hconfirming
  cases Option.some.inj hconfirming

end Idle

end DeleteRequest

end Stftpu
