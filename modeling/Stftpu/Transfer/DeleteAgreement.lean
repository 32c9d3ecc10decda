import Stftpu.Transfer.DeletionService

/-!
# What the client is told of a deletion

The client waits for an ACK 0, which the server sends before it knows the outcome, and then
for an ACK 1.

* `ClientAt` — where the client can be over a perfect channel, with the packets still to come.
* `Progress` — both programs; every step comes closer to the end, and `returned_of_stuck`.
* `delete_agreement` — what the client returns, over a lossy and over a perfect channel.
-/

namespace Stftpu

open Library

/-! ## The waits of the client -/

/-- The wait for an ACK has not come to an end. -/
def AwaitState.Waiting (w : AwaitState) : Prop :=
  w.point = .allocating ∧ w.retryCounter = 0 ∨ w.point = .awaiting

/-- Receives left of a wait, with the allocation. -/
def awaitTurns (w : AwaitState) : Nat :=
  match w.point with
  | .allocating => maxRetryCount + 2
  | .awaiting => maxRetryCount + 1 - w.retryCounter
  | .returned _ => 0

theorem waiting_start (blockNumber : UInt16) (op : OperationData) :
    (AwaitState.start blockNumber op).Waiting :=
  Or.inl ⟨rfl, rfl⟩

/-- The loop goes on with one receive less, or gives up. -/
theorem loopTest_waiting {w : AwaitState} (hpoint : w.point = .awaiting) :
    w.loopTest.blockNumber = w.blockNumber ∧ w.loopTest.op = w.op ∧
      (w.loopTest.Waiting ∧ awaitTurns w.loopTest < awaitTurns w ∨
        w.loopTest.point = .returned .failure) := by
  rcases w.loopTest_cases with ⟨hlt, heq⟩ | heq
  · rw [heq]
    refine ⟨rfl, rfl, Or.inl ⟨Or.inr rfl, ?_⟩⟩
    simp only [awaitTurns, hpoint]
    omega
  · rw [heq]
    exact ⟨rfl, rfl, Or.inr rfl⟩

/-- A wait allocates its block, and then receives. -/
theorem waiting_step {host : Host} {w w' : AwaitState} {e : Event} (h : w.Waiting)
    (hstep : tftpAwaitAcknowledgement host w e = some w') :
    (∃ block, e = .malloc tftpResponsePacketMaxSize (some block) ∧ w'.Waiting ∧
        w'.blockNumber = w.blockNumber ∧ w'.op = w.op ∧ awaitTurns w' < awaitTurns w) ∨
      w.point = .awaiting ∧ ∃ result, e = .recvfrom tftpResponsePacketMaxSize result ∧
        w' = w.onReceived host result := by
  rcases h with ⟨hpoint, hcounter⟩ | hpoint
  · obtain ⟨block, packet, rfl, rfl⟩ := await_allocating hpoint hstep
    have hloop : ({ w with incomingPacket := packet } : AwaitState).loopTest =
        { w with incomingPacket := packet, retryCounter := 1, point := .awaiting } := by
      simp [AwaitState.loopTest, hcounter, maxRetryCount]
    rw [hloop]
    refine Or.inl ⟨block, rfl, Or.inr rfl, rfl, rfl, ?_⟩
    simp only [awaitTurns, hpoint]
    omega
  · obtain ⟨result, rfl, rfl⟩ := await_awaiting hpoint hstep
    exact Or.inr ⟨hpoint, result, rfl, rfl⟩

namespace DeletionCase

open DeleteRequest

/-- Where the client can be, with the packets sent to it, those still to come, and the number
of steps it has left. -/
inductive ClientAt {ν : Type} (c : DeletionCase ν) (sent toClient : List (List UInt8)) :
    ClientState → Nat → Prop
  | awaitingRequest (w : AwaitState) (waiting : w.Waiting) (number : w.blockNumber = 0)
      (operation : w.op.operationId = .requestDelete) (queue : toClient = sent) :
      ClientAt c sent toClient (.awaitingRequest w) (maxRetryCount + 4 + awaitTurns w)
  | awaitingDeletion (w : AwaitState) (waiting : w.Waiting) (number : w.blockNumber = 1)
      (queue : sent = ackPacket 0 :: toClient) :
      ClientAt c sent toClient (.awaitingDeletion w) (1 + awaitTurns w)
  | returned (op : OperationData) : ClientAt c sent toClient (.returned op c.succeeds) 0

/-- Both programs, with the number of steps left. -/
inductive Progress {ν : Type} (c : DeletionCase ν) (s : Deletion ν) : Nat → Prop
  | asking (op : OperationData) (client : s.client = .requesting op c.request.packet)
      (operation : op.operationId = .requestDelete) (ready : c.Ready s)
      (toServer : s.toServer = []) (toClient : s.toClient = []) :
      Progress c s (50 + listenTurns s.server.listener)
  | serving (sent : List (List UInt8)) (n k : Nat) (server : c.ServerAt s sent n)
      (client : c.ClientAt sent s.toClient s.client k) : Progress c s (n + k)

/-! ### The client's steps -/

section Client

variable {ν : Type} [DecidableEq ν] {c : DeletionCase ν} {s s' : Deletion ν} {e : Event}
  {sent : List (List UInt8)} {n k : Nat}

/-- A call of a wait: it prepares itself, runs into a timeout, or receives the next packet. -/
theorem await_move {host : Host} {w w' : AwaitState} (waiting : w.Waiting)
    (hw : tftpAwaitAcknowledgement host w e = some w')
    (hstep : perfectDeletion c.setup c.openError c.removeError s (.client e) = some s') :
    s'.toServer = s.toServer ∧
      (s'.toClient = s.toClient ∧ w'.Waiting ∧ w'.blockNumber = w.blockNumber ∧ w'.op = w.op ∧
          awaitTurns w' < awaitTurns w ∨
        s.Silent ∧ s'.toClient = s.toClient ∧ w.point = .awaiting ∧ w' = w.loopTest ∨
        ∃ source packet, s.toClient = packet :: s'.toClient ∧
          w' = w.onReceived host (.datagram source packet)) := by
  obtain ⟨-, -, -, -, hchannel⟩ := perfect_client hstep
  rcases waiting_step waiting hw with ⟨block, rfl, hprepared⟩ | ⟨hpoint, result, rfl, hreceived⟩
  · rcases hchannel with ⟨⟨_, _, he⟩, -⟩ | ⟨harrive, hdepart⟩
    · cases he
    · exact ⟨(Option.some.inj hdepart).symm,
        Or.inl ⟨(Option.some.inj harrive).symm, hprepared⟩⟩
  · cases result with
    | failed errno =>
        rcases hchannel with ⟨-, hsilent, htoClient, htoServer⟩ | ⟨harrive, -⟩
        · exact ⟨htoServer, Or.inr (Or.inl ⟨hsilent, htoClient, hpoint, hreceived⟩)⟩
        · cases harrive
    | datagram source bytes =>
        rcases hchannel with ⟨⟨_, _, he⟩, -⟩ | ⟨harrive, hdepart⟩
        · cases he
        · exact ⟨(Option.some.inj hdepart).symm,
            Or.inr (Or.inr ⟨source, bytes, arrive_datagram harrive, hreceived⟩)⟩

/-- The client while it waits for the ACK of its request. -/
theorem awaitingRequest_step {w : AwaitState} (hclient : s.client = .awaitingRequest w)
    (waiting : w.Waiting) (number : w.blockNumber = 0)
    (operation : w.op.operationId = .requestDelete) (queue : s.toClient = sent)
    (hserver : c.ServerAt s sent n)
    (hstep : perfectDeletion c.setup c.openError c.removeError s (.client e) = some s') :
    s'.toServer = s.toServer ∧
      ∃ k, k < maxRetryCount + 4 + awaitTurns w ∧ c.ClientAt sent s'.toClient s'.client k := by
  have hcall := (perfect_client hstep).1
  rw [hclient] at hcall
  obtain ⟨w', hw, hafter⟩ := Option.map_eq_some_iff.mp hcall
  obtain ⟨htoServer, hmoved⟩ := await_move waiting hw hstep
  refine ⟨htoServer, ?_⟩
  rcases hmoved with ⟨htoClient, hwaiting, hnumber, hop, hturns⟩ | ⟨hsilent, htoClient, -, -⟩ |
    ⟨source, packet, hqueue, rfl⟩
  · have hsame : s'.client = .awaitingRequest w' := by
      rw [← hafter]
      unfold ClientState.afterRequest
      rcases hwaiting with ⟨hpoint, -⟩ | hpoint
      · simp [hpoint]
      · simp [hpoint]
    rw [hsame]
    exact ⟨_, by omega, .awaitingRequest w' hwaiting (hnumber.trans number)
      (by rw [hop]; exact operation) (htoClient.trans queue)⟩
  · -- the server would have answered the request
    have hfinal := final_of_waits hserver hsilent.1 hsilent.2.1
    rw [← queue, hsilent.2.2] at hfinal
    rcases hfinal with ⟨hsent, -⟩ | ⟨hsent | ⟨reply, hsent⟩, -⟩
    · cases hsent
    · cases hsent
    · cases hsent
  · have hpacket : packet = ackPacket 0 := by
      rw [hqueue] at queue
      rcases sent_cases hserver with hsent | hsent | ⟨hsent, -⟩ | ⟨hsent | ⟨reply, hsent⟩, -⟩
      · rw [hsent] at queue
        cases queue
      · exact (List.cons.inj (queue.trans hsent)).1
      · exact (List.cons.inj (queue.trans hsent)).1
      · exact (List.cons.inj (queue.trans hsent)).1
      · exact (List.cons.inj (queue.trans hsent)).1
    subst hpacket
    have hsame : s'.client = .awaitingDeletion
        (AwaitState.start 1 (w.received source (ackPacket 0)).op) := by
      rw [← hafter, AwaitState.onReceived_ack, if_pos number.symm]
      have hdelete : (w.received source (ackPacket 0)).op.operationId = .requestDelete := operation
      simp only [ClientState.afterRequest, ClientState.acknowledged, hdelete, if_true]
    rw [hsame]
    refine ⟨_, ?_, .awaitingDeletion _ (waiting_start 1 _) rfl (queue.symm.trans hqueue)⟩
    simp only [awaitTurns, AwaitState.start]
    omega

/-- The client while it waits for the ACK of the deletion. -/
theorem awaitingDeletion_step {w : AwaitState} (hclient : s.client = .awaitingDeletion w)
    (waiting : w.Waiting) (number : w.blockNumber = 1) (queue : sent = ackPacket 0 :: s.toClient)
    (hserver : c.ServerAt s sent n)
    (hstep : perfectDeletion c.setup c.openError c.removeError s (.client e) = some s') :
    s'.toServer = s.toServer ∧
      ∃ k, k < 1 + awaitTurns w ∧ c.ClientAt sent s'.toClient s'.client k := by
  have hcall := (perfect_client hstep).1
  rw [hclient] at hcall
  obtain ⟨w', hw, hafter⟩ := Option.map_eq_some_iff.mp hcall
  obtain ⟨htoServer, hmoved⟩ := await_move waiting hw hstep
  refine ⟨htoServer, ?_⟩
  have hgoes : w'.Waiting → s'.client = .awaitingDeletion w' := by
    intro hwaiting
    rw [← hafter]
    unfold ClientState.afterDeletion
    rcases hwaiting with ⟨hpoint, -⟩ | hpoint
    · simp [hpoint]
    · simp [hpoint]
  have hends : ∀ exit, w'.point = .returned exit → exit.value = c.succeeds →
      ∃ k, k < 1 + awaitTurns w ∧ c.ClientAt sent s'.toClient s'.client k := by
    intro exit hpoint hvalue
    refine ⟨0, by omega, ?_⟩
    rw [← hafter]
    simp only [ClientState.afterDeletion, hpoint, hvalue]
    exact .returned _
  -- the wait prepares itself, runs into a timeout, or gets the next packet
  rcases hmoved with ⟨htoClient, hwaiting, hnumber, -, hturns⟩ |
    ⟨hsilent, htoClient, hpoint, rfl⟩ | ⟨source, packet, hqueue, rfl⟩
  · rw [hgoes hwaiting]
    exact ⟨_, by omega, .awaitingDeletion w' hwaiting (hnumber.trans number)
      (by rw [htoClient]; exact queue)⟩
  · -- silence means that the file was not removed
    have hfails : c.succeeds = false := by
      have hfinal := final_of_waits hserver hsilent.1 hsilent.2.1
      rw [queue, hsilent.2.2] at hfinal
      rcases hfinal with ⟨hsent, -⟩ | ⟨-, hfails⟩
      · cases hsent
      · exact hfails
    obtain ⟨hnumber, -, ⟨hwaiting, hturns⟩ | hgiveUp⟩ := loopTest_waiting hpoint
    · rw [hgoes hwaiting]
      exact ⟨_, by omega, .awaitingDeletion _ hwaiting (hnumber.trans number)
        (by rw [htoClient]; exact queue)⟩
    · exact hends _ hgiveUp (by rw [hfails]; rfl)
  · rw [hqueue] at queue
    rcases sent_cases hserver with hsent | hsent | ⟨hsent, hsucceeds⟩ |
      ⟨hsent | ⟨reply, hsent⟩, hfails⟩
    · rw [queue] at hsent
      cases hsent
    · rw [queue] at hsent
      cases (List.cons.inj hsent).2
    · obtain rfl := (List.cons.inj (List.cons.inj (queue.symm.trans hsent)).2).1
      refine hends .success ?_ hsucceeds.symm
      rw [AwaitState.onReceived_ack, if_pos number.symm]
    · rw [queue] at hsent
      cases (List.cons.inj hsent).2
    · obtain rfl := (List.cons.inj (List.cons.inj (queue.symm.trans hsent)).2).1
      refine hends .peerError ?_ hfails.symm
      rw [AwaitState.onReceived_error]

end Client

/-! ### Both programs -/

section Progress

variable {ν : Type} {c : DeletionCase ν} {s s' : Deletion ν} {sent toClient : List (List UInt8)}
  {client : ClientState} {n k : Nat}

theorem Ready.congr (h : c.Ready s) (hserver : s'.server = s.server)
    (hstorage : s'.storage = s.storage) : c.Ready s' where
  listening := by
    rw [hserver]
    exact h.listening
  tasks := by
    rw [hserver]
    exact h.tasks
  free := by
    rw [hserver]
    exact h.free
  storage := hstorage.trans h.storage

/-- What the client does is nothing to the server. -/
theorem ServerAt.congr (h : c.ServerAt s sent n) (hserver : s'.server = s.server)
    (hstorage : s'.storage = s.storage) (hstreams : s'.streams = s.streams)
    (htoServer : s'.toServer = s.toServer) : c.ServerAt s' sent n := by
  cases h with
  | arriving ready toServer =>
      rw [← hserver]
      exact .arriving (ready.congr hserver hstorage) (htoServer.trans toServer)
  | parsing parses tasks storage toServer =>
      rw [← hserver]
      refine .parsing ?_ ?_ (hstorage.trans storage) (htoServer.trans toServer)
      · rw [hserver]
        exact parses
      · rw [hserver]
        exact tasks
  | working task sent listening tasks told toServer =>
      rw [← hserver]
      refine .working task _ ?_ ?_ ?_ (htoServer.trans toServer)
      · rw [hserver]
        exact listening
      · rw [hserver]
        exact tasks
      · rw [hstorage, hstreams]
        exact told

/-- A reply waits for the client behind the others. -/
theorem ClientAt.append (h : c.ClientAt sent toClient client k) (more : List (List UInt8)) :
    c.ClientAt (sent ++ more) (toClient ++ more) client k := by
  cases h with
  | awaitingRequest w waiting number operation queue =>
      exact .awaitingRequest w waiting number operation (by rw [queue])
  | awaitingDeletion w waiting number queue =>
      exact .awaitingDeletion w waiting number (by rw [queue, List.cons_append])
  | returned op => exact .returned op

/-- Only the request is on its way to the server. -/
theorem Progress.toServer (h : c.Progress s n) :
    ∀ packet ∈ s.toServer, packet = c.request.packet := by
  intro packet hmem
  cases h with
  | asking op client operation ready toServer toClient => simp [toServer] at hmem
  | serving sent n k server client =>
      cases server with
      | arriving ready toServer => simpa [toServer] using hmem
      | parsing parses tasks storage toServer => simp [toServer] at hmem
      | working task sent listening tasks told toServer => simp [toServer] at hmem

variable [DecidableEq ν] {e : Event} {m : ProcessMove}

theorem Progress.clientMove (h : c.Progress s n)
    (hstep : perfectDeletion c.setup c.openError c.removeError s (.client e) = some s') :
    ∃ n' < n, c.Progress s' n' := by
  obtain ⟨hcall, hserver, hstorage, hstreams, hchannel⟩ := perfect_client hstep
  cases h with
  | asking op client operation ready toServer toClient =>
      generalize hclient : s'.client = state at hcall
      rw [client] at hcall
      cases client_called hcall with
      | requesting op packet ok =>
          rcases hchannel with ⟨⟨_, _, he⟩, -⟩ | ⟨harrive, hdepart⟩
          · cases he
          · obtain ⟨rfl, hqueue⟩ := depart_sendto hdepart
            rw [toServer] at hqueue
            have hnot : op.operationId ≠ .receive := by simp [operation]
            simp only [ClientState.onRequested, if_true, hnot, if_false] at hclient
            have hready : c.Ready s' := ready.congr hserver hstorage
            have hnothing : s'.toClient = [] :=
              (Option.some.inj harrive).symm.trans toClient
            have hwaits : c.ClientAt [] s'.toClient s'.client
                (maxRetryCount + 4 + awaitTurns (AwaitState.start 0 op)) := by
              rw [hclient]
              exact .awaitingRequest _ (waiting_start 0 op) rfl operation hnothing
            refine ⟨_, ?_, .serving [] _ _ (.arriving hready hqueue) hwaits⟩
            rw [hserver]
            simp only [awaitTurns, AwaitState.start, maxRetryCount]
            omega
  | serving sent n k server client =>
      have hmoved : s'.toServer = s.toServer ∧
          ∃ k' < k, c.ClientAt sent s'.toClient s'.client k' := by
        generalize hclient : s.client = state at client
        cases client with
        | awaitingRequest w waiting number operation queue =>
            exact awaitingRequest_step hclient waiting number operation queue server hstep
        | awaitingDeletion w waiting number queue =>
            exact awaitingDeletion_step hclient waiting number queue server hstep
        | returned op =>
            rw [hclient] at hcall
            cases hcall
      obtain ⟨htoServer, k', hlt, hclient⟩ := hmoved
      exact ⟨n + k', by omega,
        .serving sent n k' (server.congr hserver hstorage hstreams htoServer) hclient⟩

theorem Progress.serverMove (h : c.Progress s n) (hok : c.request.ServerFor s.server)
    (hstep : perfectDeletion c.setup c.openError c.removeError s (.server m) = some s') :
    ∃ n' < n, c.Progress s' n' := by
  have hclient : s'.client = s.client := (perfect_server hstep).2.2.2.2.1
  cases h with
  | asking op client operation ready toServer toClient =>
      cases hindex : m.taskIndex with
      | some k =>
          exact (not_old hindex (perfect_server hstep).2.2.2.2.2.1 (by rw [ready.tasks])).elim
      | none =>
          obtain ⟨hstorage, -, htoClient, hslots, htasks, hmoved⟩ :=
            listening_step ready.listening hindex hstep
          rcases hmoved with ⟨hqueue, hlistening, hturns⟩ | ⟨packet, hqueue, -⟩
          · exact ⟨_, by omega, .asking op (hclient.trans client) operation
              ⟨hlistening, htasks.trans ready.tasks, by rw [hslots]; exact ready.free,
                hstorage.trans ready.storage⟩
              (hqueue.trans toServer) (htoClient.trans toClient)⟩
          · rw [toServer] at hqueue
            cases hqueue
  | serving sent n k server client =>
      obtain ⟨more, n', hlt, htoClient, hserver⟩ := server_step server hok hstep
      refine ⟨n' + k, by omega, .serving (sent ++ more) n' k hserver ?_⟩
      rw [htoClient, hclient]
      exact client.append more

/-- Every step comes closer to the end. -/
theorem progress_step {move : DeletionMove}
    (h : c.request.ServerFor s.server ∧ c.Progress s n)
    (hstep : perfectDeletion c.setup c.openError c.removeError s move = some s') :
    ∃ n' < n, c.request.ServerFor s'.server ∧ c.Progress s' n' := by
  obtain ⟨hok, hprogress⟩ := h
  cases move with
  | client e =>
      obtain ⟨n', hlt, hprogress'⟩ := hprogress.clientMove hstep
      refine ⟨n', hlt, ?_, hprogress'⟩
      rw [(perfect_client hstep).2.1]
      exact hok
  | server m =>
      obtain ⟨n', hlt, hprogress'⟩ := hprogress.serverMove hok hstep
      exact ⟨n', hlt, hok.step (reaches hprogress.toServer hstep)
        (perfect_server hstep).2.2.2.2.2.1, hprogress'⟩

/-- A client that waits goes on when the server has nothing to do any more. -/
theorem wait_enabled {w : AwaitState} {after : AwaitState → ClientState}
    (hclient : ∀ e, clientStartOperation c.setup.clientHost s.client e =
      (tftpAwaitAcknowledgement c.setup.clientHost w e).map after)
    (waiting : w.Waiting) (hwaits : s.server.Waits) (hempty : s.toServer = []) :
    ¬ Stuck (perfectDeletion c.setup c.openError c.removeError) s := by
  intro hstuck
  rcases waiting with ⟨hpoint, -⟩ | hpoint
  · have hnone := hstuck (.client (.malloc tftpResponsePacketMaxSize
      (some (List.replicate tftpResponsePacketMaxSize 0))))
    simp [perfectDeletion, Deletion.clientStep, hclient, tftpAwaitAcknowledgement, hpoint, arrive,
      depart] at hnone
  · cases hqueue : s.toClient with
    | nil =>
        have hsilent : s.Silent := ⟨hwaits, hempty, hqueue⟩
        have hnone := hstuck (.client (.recvfrom tftpResponsePacketMaxSize (.failed .EAGAIN)))
        simp [perfectDeletion, Deletion.clientStep, hclient, tftpAwaitAcknowledgement, hpoint,
          hsilent] at hnone
    | cons packet rest =>
        have hnone := hstuck (.client (.recvfrom tftpResponsePacketMaxSize
          (.datagram c.setup.client packet)))
        simp [perfectDeletion, Deletion.clientStep, hclient, tftpAwaitAcknowledgement, hpoint,
          arrive, depart, hqueue] at hnone

/-- Nothing is held up before the client has returned. -/
theorem returned_of_stuck (hok : c.request.ServerFor s.server) (h : c.Progress s n)
    (hstuck : Stuck (perfectDeletion c.setup c.openError c.removeError) s) :
    ∃ op, s.client = .returned op c.succeeds := by
  cases h with
  | asking op client operation ready toServer toClient =>
      have hnone := hstuck (.client (.sendto op.peerAddress c.request.packet true))
      simp [perfectDeletion, Deletion.clientStep, client, clientStartOperation, arrive,
        depart] at hnone
  | serving sent n k server client =>
      rcases server_enabled server hok with ⟨m, t, hstep⟩ | ⟨hwaits, hempty⟩
      · rw [hstuck (.server m)] at hstep
        cases hstep
      · generalize hclient : s.client = state at client
        cases client with
        | awaitingRequest w waiting number operation queue =>
            exact absurd hstuck
              (wait_enabled (fun e => by rw [hclient]; rfl) waiting hwaits hempty)
        | awaitingDeletion w waiting number queue =>
            exact absurd hstuck
              (wait_enabled (fun e => by rw [hclient]; rfl) waiting hwaits hempty)
        | returned op => exact ⟨op, rfl⟩

/-- Every run comes to an end, and the client has returned what became of the file. -/
theorem outcome (hok : c.request.ServerFor s.server) (hstart : c.Progress s n) :
    (∀ tr t, Run (perfectDeletion c.setup c.openError c.removeError) s tr t → tr.length ≤ n) ∧
      ∀ tr t, Run (perfectDeletion c.setup c.openError c.removeError) s tr t →
        Stuck (perfectDeletion c.setup c.openError c.removeError) t →
          ∃ op, t.client = .returned op c.succeeds := by
  have hrank : ∀ tr t, Run (perfectDeletion c.setup c.openError c.removeError) s tr t →
      ∃ m, (c.request.ServerFor t.server ∧ c.Progress t m) ∧ tr.length + m ≤ n := by
    intro tr t hrun
    refine hrun.length_le (I := fun t m => c.request.ServerFor t.server ∧ c.Progress t m) ?_
      ⟨hok, hstart⟩
    intro t m move u hI hstep
    exact progress_step hI hstep
  refine ⟨?_, ?_⟩
  · intro tr t hrun
    obtain ⟨m, -, hlen⟩ := hrank tr t hrun
    omega
  · intro tr t hrun hstuck
    obtain ⟨m, ⟨hserver, hprogress⟩, -⟩ := hrank tr t hrun
    exact returned_of_stuck hserver hprogress hstuck

end Progress

end DeletionCase

/-! ## Both channels -/

/-- The deletion of a file at an idle server. -/
def DeletionCase.ofIdle {ν : Type} (setup : DeletionSetup ν) (d : DeleteRequest)
    (haddress : setup.client = d.client) (storage : Storage ν)
    (openError removeError : Option Errno)
    {server : ServerProcess} (hidle : DeleteRequest.Idle server) : DeletionCase ν where
  setup := setup
  request := d
  storage := storage
  openError := openError
  removeError := removeError
  old := server.tasks
  client_eq := haddress
  old_ended := hidle.tasks

section Agreement

variable {ν : Type} [DecidableEq ν]

/-- A client that asks an idle server for a deletion.  Over a lossy channel, `true` means that
a task has removed the file, which is gone, while every other file is as it was.  Over a perfect
channel with a slot free, every run comes to an end with the client returning, and `true` when
the file was there, could be opened and could be removed, and only then. -/
theorem delete_agreement (setup : DeletionSetup ν) (storage : Storage ν)
    {history : List ProcessMove} {server : ServerProcess} {args : InitArguments}
    {filename : List UInt8} {fd : Int} {port : UInt16} {op : OperationData}
    (hhistory : Run (serverProcess setup.serverHost setup.mem) .start history server)
    (hidle : DeleteRequest.Idle server) (hoperation : args.operation = .requestDelete)
    (hfilename : cstr args.filename = some filename) (hlen : filename.length ≤ tftpFilenameMax)
    (hslash : 47 ∉ filename)
    (hinit : tftpInitOperationData (.bound fd port) args = some (.created op)) :
    (∀ tr s returned,
      Run (lossyDeletion setup) (Deletion.start op server storage) tr s →
      s.client = .returned returned true →
        (∃ k, .server (.task k (.remove (serverStoragePath ++ filename) none)) ∈ tr) ∧
        s.storage.lookup (setup.resolve (serverStoragePath ++ filename)) = none ∧
        ∀ name, name ≠ setup.resolve (serverStoragePath ++ filename) →
          s.storage.lookup name = storage.lookup name) ∧
    (server.slots.HasFree → ∀ openError removeError,
      (∃ bound, ∀ tr s,
        Run (perfectDeletion setup openError removeError) (Deletion.start op server storage) tr s →
          tr.length ≤ bound) ∧
      ∀ tr s,
        Run (perfectDeletion setup openError removeError) (Deletion.start op server storage) tr s →
        Stuck (perfectDeletion setup openError removeError) s →
          ∃ returned outcome, s.client = .returned returned outcome ∧
            (outcome = true ↔
              (storage.lookup (setup.resolve (serverStoragePath ++ filename))).isSome = true ∧
                openError = none ∧ removeError = none)) := by
  have hname := (cstr_eq_some hfilename).1
  obtain ⟨hstart, hdelete⟩ :=
    DeleteRequest.client_start hoperation hfilename hlen hslash hinit
  have hpath := DeleteRequest.path_ofClient setup.client op hname hlen
  generalize hrequest : DeleteRequest.ofClient setup.client op filename hname hlen = d at hpath
  have haddress : setup.client = d.client := by rw [← hrequest]; rfl
  have hpacket : d.packet = requestBytes op .drq filename := by rw [← hrequest]; rfl
  have hserver : d.ServerFor server := DeleteRequest.serverFor_of_idle d hhistory hidle
  constructor
  · -- over a lossy channel `true` is returned only behind the second ACK
    intro tr s returned hrun hreturned
    have hok : d.LossyOk (Deletion.start op server storage) := by
      refine ⟨hserver, nofun, ?_, by simp [Deletion.start], by simp [Deletion.start]⟩
      simp only [Deletion.start, hstart, DeleteRequest.ClientFor]
      exact ⟨hdelete, hpacket.symm⟩
    have huntouched : DeleteRequest.Untouched storage (Deletion.start op server storage) := by
      refine ⟨rfl, DeleteRequest.unconfirmed_of_idle hidle, by simp [Deletion.start], ?_⟩
      simp [Deletion.start, hstart]
    obtain ⟨-, hbefore | ⟨hstorage, hremoved⟩⟩ :=
      DeleteRequest.removed_of_run hrun haddress hok huntouched
    · exact absurd hreturned (hbefore.client returned)
    · rw [hpath] at hstorage hremoved
      refine ⟨hremoved, ?_, ?_⟩
      · simp [hstorage, FileStore.lookup, FileStore.remove]
      · intro name hne
        rw [hstorage]
        exact ((FileStore.Keeps.refl storage).remove _).lookup_eq
          (storage.remove_entry_of_ne _ hne)
  · -- over a perfect channel every step comes closer to the end
    intro hfree openError removeError
    have hprogress : (DeletionCase.ofIdle setup d haddress storage openError removeError
        hidle).Progress (Deletion.start op server storage) (50 + listenTurns server.listener) :=
      .asking op (by simp [Deletion.start, hstart, hpacket, DeletionCase.ofIdle]) hdelete
        ⟨hidle.listener, rfl, hfree, rfl⟩ rfl rfl
    obtain ⟨hbound, hreturns⟩ := DeletionCase.outcome hserver hprogress
    refine ⟨⟨_, hbound⟩, ?_⟩
    intro tr s hrun hstuck
    obtain ⟨returned, hclient⟩ := hreturns tr s hrun hstuck
    refine ⟨returned, _, hclient, ?_⟩
    simp [DeletionCase.succeeds, DeletionCase.present, DeletionCase.ofIdle, hpath,
      FileStore.lookup, and_assoc]

end Agreement

section FixedRuns

/-- The deletion of `a`. -/
def deleteArguments : InitArguments :=
  { operation := .requestDelete
    peer := localhost 40000
    filename := ascii "a" ++ [0]
    mode := none
    blocksize := none }

def deleteOperation : OperationData :=
  blankOperation deleteArguments 4 50001 (ascii "a") 2

def deletionSetup : DeletionSetup (List UInt8) :=
  { clientHost := { littleHost with isServer := false }
    serverHost := littleHost
    mem := .strict
    resolve := id
    client := localhost 50001 }

/-- A wait for an ACK that arrives. -/
def awaitMoves (n : UInt16) : List DeletionMove :=
  [.client (.malloc tftpResponsePacketMaxSize
      (some (List.replicate tftpResponsePacketMaxSize 0))),
    .client (.recvfrom tftpResponsePacketMaxSize (.datagram (localhost 40001) (ackPacket n)))]

/-- The server receives the request and creates a task for it. -/
def servedMoves (slot : Nat) (fd : Int) (port : UInt16) : List ProcessMove :=
  [.listener (.poll false),
    .listener (.recvfrom requestBufferSize
      (.datagram (localhost 50001) (requestBytes deleteOperation .drq (ascii "a")))),
    .listener (.poll false)] ++
  List.replicate (slot + 6) .listenerCall ++ [.listener (.dataSocket (.bound fd port))] ++
  spawnMoves

/-- The request arrives twice; the first of its tasks removes the file. -/
def deletionMoves : List DeletionMove :=
  [.client (.sendto (localhost 40000) (requestBytes deleteOperation .drq (ascii "a")) true)] ++
  (servedMoves 0 4 40001 ++ servedMoves 1 5 40002 ++ removalMoves (localhost 50001)).map
    .server ++
  awaitMoves 0 ++ awaitMoves 1

theorem idle_start : DeleteRequest.Idle .start :=
  ⟨Or.inl rfl, by simp [ServerProcess.start]⟩

set_option maxRecDepth 8000 in
/-- A file that is there is removed, and one that is not there cannot be. -/
theorem delete_agreement_one_file :
    (∃ s, Run (lossyDeletion deletionSetup) (.start deleteOperation .start oneFileThere)
        deletionMoves s ∧
      s.storage.lookup (ascii "storage/a") = none) ∧
    ∃ tr s, Run (perfectDeletion deletionSetup none none)
        (.start deleteOperation .start emptyStorage) tr s ∧
      ∃ op, s.client = .returned op false := by
  have hop : tftpInitOperationData (.bound 4 50001) deleteArguments =
      some (.created deleteOperation) := rfl
  refine ⟨?_, ?_⟩
  · have hrun : ∃ s, Run (lossyDeletion deletionSetup)
        (.start deleteOperation .start oneFileThere) deletionMoves s ∧
        s.client = .returned { deleteOperation with peerAddress := localhost 40001 } true :=
      exists_run_of_exec (by decide)
    obtain ⟨s, hs, hclient⟩ := hrun
    have hagreement := (delete_agreement deletionSetup oneFileThere Run.nil idle_start rfl rfl
      (by decide) (by decide) hop).1 _ _ _ hs hclient
    exact ⟨s, hs, hagreement.2.1⟩
  · obtain ⟨⟨bound, hbound⟩, hreturns⟩ :=
      (delete_agreement deletionSetup emptyStorage Run.nil idle_start rfl rfl (by decide)
        (by decide) hop).2 ⟨0, by decide, rfl⟩ none none
    obtain ⟨tr, s, hrun, hstuck⟩ := exists_stuck_run hbound
    obtain ⟨op, outcome, hclient, houtcome⟩ := hreturns tr s hrun hstuck
    have hfalse : outcome = false := by
      rw [← Bool.not_eq_true, houtcome]
      decide
    subst hfalse
    exact ⟨tr, s, hrun, op, hclient⟩

end FixedRuns

end Stftpu
