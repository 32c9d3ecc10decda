import Stftpu.Server.Arrivals
import Stftpu.Transfer.ReadAgreement

/-!
# A write over a lossy channel

The client asks to write a file, and its request arrives once, so that one task receives the
blocks, under a name that was free.  Every ACK the task has sent stays true of what it has
written, which is in the storage once the task has closed its file.

* `UploadTask`, `UploadClient` — where the task and the client can be.
* `TransferCase.Stored` — the task has the whole file written, and is done with it.
* `UploadOk` — what holds of both and the packets between them.
* `write_agreement` — what is on the server when the client has returned `true`.
-/

namespace Stftpu

open Library

/-- A wait for an ACK changes the peer of the operation only. -/
theorem await_keeps {host : Host} {s s' : AwaitState} {e : Event}
    (hstep : tftpAwaitAcknowledgement host s e = some s') :
    ∃ peer, s'.op = { s.op with peerAddress := peer } := by
  have hloop : ∀ r : AwaitState, r.loopTest.op = r.op := by
    intro r
    rcases r.loopTest_cases with ⟨-, hr⟩ | hr
    · rw [hr]
    · rw [hr]
  cases hpoint : s.point with
  | allocating =>
      obtain ⟨block, packet, -, rfl⟩ := await_allocating hpoint hstep
      exact ⟨s.op.peerAddress, hloop _⟩
  | awaiting =>
      obtain ⟨result, -, rfl⟩ := await_awaiting hpoint hstep
      cases result with
      | failed errno => exact ⟨s.op.peerAddress, hloop _⟩
      | datagram source bytes =>
          refine ⟨source, ?_⟩
          simp only [AwaitState.onReceived]
          split
          · rw [hloop]
          · split
            · rfl
            · split
              · rfl
              · rw [hloop]
  | returned exit => simp [tftpAwaitAcknowledgement, hpoint] at hstep

theorem await_quiet {host : Host} {s s' : AwaitState} {e : Event}
    (hstep : tftpAwaitAcknowledgement host s e = some s') : e.changesFiles = false := by
  cases hpoint : s.point with
  | allocating =>
      obtain ⟨block, packet, rfl, -⟩ := await_allocating hpoint hstep
      rfl
  | awaiting =>
      obtain ⟨result, rfl, -⟩ := await_awaiting hpoint hstep
      rfl
  | returned exit => simp [tftpAwaitAcknowledgement, hpoint] at hstep

/-- The client returns `true`, or will do so behind `fclose`. -/
def ClientState.Succeeded : ClientState → Prop
  | .closing _ outcome => outcome = true
  | .returned _ outcome => outcome = true
  | _ => False

/-- The response to the last attempt at a block is not passed over. -/
def ClientState.LastAttemptDecides (host : Host) : ClientState → Event → Prop
  | .transmitting _ s, e => s.LastAttemptDecides host e
  | _, _ => True

/-- So it is in a step of the client. -/
def SessionMove.Decides (host : Host) (client : ClientState) : SessionMove → Prop
  | .client e => client.LastAttemptDecides host e
  | .server _ => True

/-- A datagram with the opcode of a request arrives at port 69. -/
def SessionMove.isRequest (m : SessionMove) : Bool :=
  m.ofServer.any ProcessMove.isRequest

namespace TransferCase

variable {ν : Type} (c : TransferCase ν)

/-- Where the task that receives the file can be. -/
def UploadTask (storage : Storage ν) (stream : Option (OpenFile ν)) : TaskState → Prop
  | .starting op => c.request.Serves op ∧ ReadOnly stream
  | .allocating op => c.request.Serves op ∧ ReadOnly stream
  | .filling s =>
      FillsCollect c.blockSize c.request.path c.name storage stream s ∧
        Delivers c.name storage c.content stream
  | .acknowledging b op tx =>
      b = c.blockSize ∧ op.path = c.request.path ∧
        CollectsAt c.name storage c.content stream 0 (ReceiveState.start op tx)
  | .receiving b s =>
      b = c.blockSize ∧ s.op.path = c.request.path ∧ ∃ j ≤ chunkCount b.val c.content,
        CollectsAt c.name storage c.content stream j s
  | .closingPartial op => op.path = c.request.path ∧ Delivers c.name storage c.content stream
  | .removingPartial op => op.path = c.request.path
  | .closingFile _ _ => Delivers c.name storage c.content stream
  | .closingSocket _ _ => True
  | .releasing _ => True
  | .ended _ => True
  | .fault => True
  | _ => False

/-- Where a client that sends the file can be. -/
def UploadClient (files : Storage ν) (stream : Option (OpenFile ν)) : ClientState → Prop
  | .requesting op packet => c.Asks .send op ∧ packet = c.request.packet
  | .awaitingRequest s => c.Asks .send s.op
  | .allocating op => c.Asks .send op
  | .filling s => FillsSupply c.blockSize c.path files c.content stream s
  | .transmitting b s => b = c.blockSize ∧ ∃ k, SendsAt files c.content stream k s
  | .closing _ _ => True
  | .returned _ _ => True
  | .exited => True
  | .fault => True
  | _ => False

/-- A packet of the client. -/
def FromClient (packet : List UInt8) : Prop :=
  packet = c.request.packet ∨ c.OfFile packet

/-- The ACK of the last block. -/
def lastAck : List UInt8 :=
  ackPacket (UInt16.ofNat (chunkCount c.blockSize.val c.content))

/-- There is no file under the name, or one with a beginning of the client's. -/
def Front (storage : Storage ν) : Prop :=
  storage.lookup c.name = none ∨ ∃ held, storage.lookup c.name = some held ∧ held <+: c.content

/-- Behind the transfer of the whole file: all of it has been written, and once the stream is
closed it is in the storage. -/
def Finished (storage : Storage ν) (stream : Option (OpenFile ν)) : TaskState → Prop
  | .closingFile _ _ => Collect c.name storage stream c.content
  | .closingSocket _ _ => storage.lookup c.name = some c.content
  | .releasing _ => storage.lookup c.name = some c.content
  | .ended _ => storage.lookup c.name = some c.content
  | _ => False

/-- The file ends in a short block, and task `n` is behind the transfer of the whole of it. -/
def Stored (n : Nat) (s : Session ν) : Prop :=
  c.content.length % c.blockSize.val ≠ 0 ∧
    ∃ task t, s.server.tasks[n]? = some task ∧ task.state = some t ∧
      c.Finished s.storage (s.streams n) t

/-- What holds of both programs and the packets between them; the task for the request has
the number `n`, and those before it have ended. -/
structure UploadOk (n : Nat) (start files : Storage ν) (s : Session ν) : Prop where
  server : c.request.ServerFor
    (fun k t => (∃ result, t = .ended result) ∨ k = n ∧ c.UploadTask s.storage (s.streams k) t)
    s.server
  grown : n ≤ s.server.tasks.length
  old : ∀ k < n, ∀ task, s.server.tasks[k]? = some task → task.state ≠ none
  begun : ReadOnly (s.streams n) ∨ ∃ task, s.server.tasks[n]? = some task ∧ task.state ≠ none
  beside : start.Beside c.name s.storage
  front : c.Front s.storage
  files : s.files = files
  reads : ReadOnly s.stream
  client : c.UploadClient s.files s.stream s.client
  toServer : ∀ packet ∈ s.toServer, c.FromClient packet
  toClient : ∀ packet ∈ s.toClient,
    (∃ m, packet = ackPacket m) ∨ ∃ reply, packet = errorPacket reply
  confirmed : c.lastAck ∈ s.toClient → c.Stored n s
  succeeded : s.client.Succeeded → c.Stored n s

/-! ## The packets -/

section Packets

variable {c}

/-- No block of the file has the number of ACK 0. -/
theorem lastAck_ne_zero (hcount : chunkCount c.blockSize.val c.content ≤ 65535) :
    c.lastAck ≠ ackPacket 0 := by
  have hpos : 0 < chunkCount c.blockSize.val c.content := Nat.succ_pos _
  intro heq
  have hnumber := congrArg blockNumberOf heq
  simp only [lastAck, blockNumberOf_ackPacket] at hnumber
  have hzero := congrArg UInt16.toNat hnumber
  simp only [UInt16.toNat_ofNat'] at hzero
  have hval : (0 : UInt16).toNat = 0 := rfl
  omega

theorem lastAck_ne_errorPacket (reply : ErrorReply) : c.lastAck ≠ errorPacket reply := by
  intro heq
  have hopcode := congrArg opcodeOf heq
  rw [lastAck, opcodeOf_ackPacket, opcodeOf_errorPacket] at hopcode
  revert hopcode
  decide

theorem ofFile_errorPacket (reply : ErrorReply) : c.OfFile (errorPacket reply) :=
  ⟨0, Or.inr ⟨reply, rfl⟩⟩

/-- At port 69 the packets of the client are its request or none. -/
theorem FromClient.heard {packet : List UInt8} (h : c.FromClient packet) :
    c.request.Heard packet := by
  rcases h with rfl | ⟨k, ⟨i, -, -, rfl⟩ | ⟨reply, rfl⟩⟩
  · exact Or.inl rfl
  · right
    rw [opcodeOf_dataPacket]
    decide
  · exact heard_errorPacket reply

/-- A request that comes to a data socket is neither DATA nor ERROR. -/
theorem foreign_request : Receiver.Foreign c.request.packet := by
  have hopcode := c.request.opcode
  have hdata : requestOperation TFTPOpcode.data.code = none := by decide
  have herror : requestOperation TFTPOpcode.error.code = none := by decide
  refine ⟨two_le_of_requestOperation hopcode, ?_, ?_⟩
  · intro heq
    rw [heq, hdata] at hopcode
    cases hopcode
  · intro heq
    rw [heq, herror] at hopcode
    cases hopcode

/-- At the data socket they are blocks of the file, or passed over. -/
theorem FromClient.expected {packet : List UInt8} {j : Nat}
    (hcount : chunkCount c.blockSize.val c.content ≤ 65535)
    (hj : j ≤ chunkCount c.blockSize.val c.content) (h : c.FromClient packet) :
    Receiver.Expected c.blockSize c.content j packet ∨ Receiver.Foreign packet := by
  rcases h with rfl | ⟨k, hpacket⟩
  · exact Or.inr foreign_request
  · exact Or.inl (hpacket.expected hcount hj)

end Packets

/-! ## The task -/

section Task

variable {c} {start storage storage' : Storage ν} {stream stream' : Option (OpenFile ν)}
  {host : Host} {t t' : TaskState} {e : Event}

theorem uploadTask_freeOperationData (op : OperationData) (result : Option Bool) :
    c.UploadTask storage stream (TaskState.freeOperationData op result) := by
  unfold TaskState.freeOperationData
  split <;> trivial

theorem uploadTask_afterFill {s : FillState}
    (h : FillsCollect c.blockSize c.request.path c.name storage stream s)
    (hdelivers : Delivers c.name storage c.content stream) :
    c.UploadTask storage stream (TaskState.afterFill s) := by
  unfold TaskState.afterFill
  split
  · rename_i b tx hpoint
    obtain ⟨hb, hcollects⟩ := h.ready hpoint c.content s.op
    rw [h.receiver, if_pos rfl]
    exact ⟨hb, h.path, hcollects⟩
  · split
    · unfold TaskState.freeTransferData
      split
      · exact hdelivers
      · exact uploadTask_freeOperationData _ _
    · trivial
  · exact ⟨h, hdelivers⟩

theorem finished_freeOperationData (op : OperationData) (result : Option Bool)
    (h : storage.lookup c.name = some c.content) :
    c.Finished storage stream (TaskState.freeOperationData op result) := by
  unfold TaskState.freeOperationData
  split <;> exact h

/-- What a step of the task gives. -/
structure UploadStepped (c : TransferCase ν) (start storage' : Storage ν)
    (stream' : Option (OpenFile ν)) (e : Event) (t' : TaskState) : Prop where
  task : c.UploadTask storage' stream' t'
  beside : start.Beside c.name storage'
  front : c.Front storage'
  sent : ∀ packet ∈ launched e,
    (∃ m, packet = ackPacket m) ∨ ∃ reply, packet = errorPacket reply
  confirmed : c.lastAck ∈ launched e →
    c.content.length % c.blockSize.val ≠ 0 ∧ c.Finished storage' stream' t'

/-- A call that sends nothing. -/
theorem UploadStepped.silent (hbeside : start.Beside c.name storage') (hfront : c.Front storage')
    (hlaunched : launched e = []) (htask : c.UploadTask storage' stream' t') :
    UploadStepped c start storage' stream' e t' := by
  refine ⟨htask, hbeside, hfront, ?_, ?_⟩
  · rw [hlaunched]
    exact fun packet hmem => absurd hmem List.not_mem_nil
  · rw [hlaunched]
    exact fun hmem => absurd hmem List.not_mem_nil

variable [DecidableEq ν]

/-- A step of a task behind the transfer of the whole file. -/
theorem finished_step (h : c.Finished storage stream t) (hwrites : WritesAll e)
    (hstep : serverTaskStart host t e = some t')
    (haccess : accessFiles c.setup.resolve storage stream e = some (storage', stream')) :
    c.Finished storage' stream' t' := by
  cases task_called hstep with
  | closingFile op result =>
      have hcollect : Collect c.name storage stream c.content := h
      obtain ⟨held, hlookup, -, hheld⟩ := hcollect.close haccess
      obtain rfl := hheld hwrites
      exact finished_freeOperationData op result hlookup
  | closingSocket op result =>
      obtain ⟨rfl, -⟩ := Prod.mk.inj (Option.some.inj haccess)
      exact h
  | releasing result =>
      obtain ⟨rfl, -⟩ := Prod.mk.inj (Option.some.inj haccess)
      exact h
  | _ => exact h.elim

/-- What the stream of the task hands over comes into the file of the request. -/
theorem beside_hands {bytes : List UInt8} (hbeside : start.Beside c.name storage)
    (hdelivers : Delivers c.name storage c.content stream) (hhands : e.Hands bytes)
    (haccess : accessFiles c.setup.resolve storage stream e = some (storage', stream')) :
    start.Beside c.name storage' := by
  obtain ⟨f, f', hf, -, -, ⟨-, hstorage, -⟩ | ⟨hmode, hhanded⟩⟩ := access_hands hhands haccess
  · rw [hstorage]
    exact hbeside
  · rcases hdelivers with hreads | ⟨written, ⟨g, hg, -, -, -, hentry, -⟩, -⟩
    · rw [hreads f hf] at hmode
      cases hmode
    · obtain rfl : f = g := Option.some.inj (hf.symm.trans hg)
      obtain ⟨handed, -, hstorage, -⟩ := hhanded.written
      rw [hstorage]
      exact hbeside.write 0 hentry

/-- What `tftp_receive_file` does to the storage beside its own file. -/
theorem beside_receive {b : BlockSize} {s s' : ReceiveState b}
    (hbeside : start.Beside c.name storage)
    (hdelivers : Delivers c.name storage c.content stream)
    (hstep : tftpReceiveFile host s e = some s')
    (haccess : accessFiles c.setup.resolve storage stream e = some (storage', stream')) :
    start.Beside c.name storage' := by
  rcases changesFiles_cases e with hquiet | ⟨path, rfl⟩ | ⟨bytes, hhands⟩ | ⟨path, rfl⟩
  · rw [(access_quiet hquiet haccess).1]
    exact hbeside
  · cases hpoint : s.point <;> simp [tftpReceiveFile, hpoint] at hstep
  · exact beside_hands hbeside hdelivers hhands haccess
  · cases hpoint : s.point <;> simp [tftpReceiveFile, hpoint] at hstep

/-- Such a call on no file. -/
theorem UploadStepped.quiet (hbeside : start.Beside c.name storage) (hfront : c.Front storage)
    (haccess : accessFiles c.setup.resolve storage stream e = some (storage', stream'))
    (hsame : accessFiles c.setup.resolve storage stream e = some (storage, stream))
    (hlaunched : launched e = []) (htask : c.UploadTask storage stream t') :
    UploadStepped c start storage' stream' e t' := by
  obtain ⟨rfl, rfl⟩ := Prod.mk.inj (Option.some.inj (hsame.symm.trans haccess))
  exact .silent hbeside hfront hlaunched htask

/-- The closing of the file. -/
theorem UploadStepped.closes {lost : Nat} (hbeside : start.Beside c.name storage)
    (hfront : c.Front storage) (hdelivers : Delivers c.name storage c.content stream)
    (haccess : accessFiles c.setup.resolve storage stream (.fclose lost) =
      some (storage', stream'))
    (htask : c.UploadTask storage' stream' t') :
    UploadStepped c start storage' stream' (.fclose lost) t' := by
  refine .silent (beside_hands hbeside hdelivers (.fclose lost) haccess) ?_ rfl htask
  rcases hdelivers.close haccess with hsame | hheld
  · rw [hsame]
    exact hfront
  · exact Or.inr hheld

/-- Every call of the task on packets of the client. -/
theorem uploadTask_step (hreceive : c.request.operation = .receive)
    (hcount : chunkCount c.blockSize.val c.content ≤ 65535)
    (h : c.UploadTask storage stream t) (hbeside : start.Beside c.name storage)
    (hfront : c.Front storage)
    (hreceived : ∀ size source bytes, e = .recvfrom size (.datagram source bytes) →
      c.FromClient bytes) (hwrites : WritesAll e)
    (hstep : serverTaskStart host t e = some t')
    (haccess : accessFiles c.setup.resolve storage stream e = some (storage', stream')) :
    UploadStepped c start storage' stream' e t' := by
  cases task_called hstep with
  | starting op set =>
      obtain ⟨hserves, hreads⟩ := h
      refine .quiet hbeside hfront haccess rfl rfl ?_
      have hoperation : op.operationId = .receive := hserves.operation.trans hreceive
      cases set with
      | true => trivial
      | false =>
          simp only [TaskState.dispatch, hoperation, Bool.false_eq_true, if_false]
          exact ⟨hserves, hreads⟩
  | allocating op block =>
      obtain ⟨hserves, hreads⟩ := h
      refine .quiet hbeside hfront haccess rfl rfl ?_
      have hoperation : op.operationId = .receive := hserves.operation.trans hreceive
      have hreceiver : decide (op.operationId = .receive) = true := by simp [hoperation]
      unfold TaskState.onAllocated
      rw [hreceiver]
      exact uploadTask_afterFill (fillsCollect_start block.isSome hserves.path hserves.size)
        (Or.inl hreads)
  | filling s s' hs =>
      obtain ⟨hfilling, hdelivers⟩ := h
      obtain ⟨hfills, hfiles⟩ := FillsCollect.step hfilling hs haccess
      have herror : ∀ packet ∈ launched e, ∃ reply, packet = errorPacket reply :=
        fun packet hmem => FillState.launched_fill hs hmem
      refine ⟨uploadTask_afterFill hfills (hdelivers.fill hfilling hs haccess), ?_, ?_, ?_, ?_⟩
      · rcases hfiles with rfl | ⟨-, rfl⟩
        · exact hbeside
        · rw [(access_created haccess).1]
          exact hbeside.create
      · rcases hfiles with rfl | ⟨-, rfl⟩
        · exact hfront
        · exact Or.inr ((collect_create haccess).lookup List.nil_prefix)
      · exact fun packet hmem => Or.inr (herror packet hmem)
      · intro hmem
        obtain ⟨reply, hreply⟩ := herror _ hmem
        exact absurd hreply (lastAck_ne_errorPacket reply)
  | acknowledging b op tx ok =>
      obtain ⟨rfl, hpath, hcollects⟩ := h
      obtain ⟨rfl, rfl⟩ := Prod.mk.inj (Option.some.inj haccess)
      refine ⟨?_, hbeside, hfront, ?_, ?_⟩
      · cases ok with
        | true => exact ⟨rfl, hpath, 0, Nat.zero_le _, hcollects⟩
        | false => exact hcollects.delivers
      · intro packet hmem
        obtain ⟨peer, he⟩ := mem_launched hmem
        obtain ⟨-, rfl, -⟩ := Event.sendto.inj he
        exact Or.inl ⟨0, rfl⟩
      · intro hmem
        obtain ⟨peer, he⟩ := mem_launched hmem
        obtain ⟨-, hzero, -⟩ := Event.sendto.inj he
        exact absurd hzero.symm (lastAck_ne_zero hcount)
  | receiving b s s' hs =>
      obtain ⟨rfl, hpath, j, hj, hcollects⟩ := h
      have hpath' : s'.op.path = c.request.path := (ReceiveState.step_path host hs).trans hpath
      have hbeside' : start.Beside c.name storage' :=
        beside_receive hbeside hcollects.delivers hs haccess
      obtain ⟨hnext, hsent⟩ := hcollects.step hs haccess
        (fun size source bytes he => (hreceived size source bytes he).expected hcount hj) hwrites
      have hcollects' : ∃ j' ≤ chunkCount c.blockSize.val c.content,
          CollectsAt c.name storage' c.content stream' j' s' := by
        rcases hnext with ⟨-, hsame⟩ | ⟨-, hlt, -, hnext⟩
        · exact ⟨j, hj, hsame⟩
        · exact ⟨j + 1, hlt, hnext⟩
      obtain ⟨j', hj', hat⟩ := hcollects'
      obtain ⟨written, hcollect, hleading⟩ := hat.written_prefix
      refine ⟨?_, hbeside', Or.inr (hcollect.lookup hleading), ?_, ?_⟩
      · unfold TaskState.afterReceive
        split
        · split
          · exact hat.delivers
          · exact ⟨hpath', hat.delivers⟩
        · trivial
        · exact ⟨rfl, hpath', j', hj', hat⟩
      · intro packet hmem
        rcases hsent packet hmem with ⟨-, rfl⟩ | herror
        · exact Or.inl ⟨_, rfl⟩
        · exact Or.inr herror
      · intro hmem
        rcases hsent _ hmem with ⟨hpoint, hlast⟩ | ⟨reply, herror⟩
        · -- the ACK of the last block, which is a short one, ends the transfer
          rcases hnext with ⟨hnot, -⟩ | ⟨-, hlt, hreturns, hnext⟩
          · exact absurd hpoint hnot
          · have hnumber : j + 1 = chunkCount c.blockSize.val c.content := by
              have hsame := congrArg blockNumberOf hlast
              rw [lastAck, blockNumberOf_ackPacket, blockNumberOf_ackPacket] at hsame
              have hvalue := congrArg UInt16.toNat hsame
              simp only [UInt16.toNat_ofNat'] at hvalue
              omega
            rcases hreturns with ⟨-, hfull⟩ | hreturned
            · have hmore := lt_of_chunk_full c.blockSize.pos hfull
              omega
            · obtain ⟨hcollect, hshort⟩ := hnext.success hreturned
              refine ⟨hshort, ?_⟩
              simp only [TaskState.afterReceive, hreturned, Exit.value, if_true]
              exact hcollect
        · exact absurd herror (lastAck_ne_errorPacket reply)
  | closingPartial op => exact .closes hbeside hfront h.2 haccess h.1
  | removingPartial op error =>
      have hpath : op.path = c.request.path := h
      cases error with
      | some errno =>
          exact .quiet hbeside hfront haccess rfl rfl (uploadTask_freeOperationData _ _)
      | none =>
          obtain ⟨rfl, -⟩ := access_remove haccess
          have hname : c.setup.resolve op.path = c.name := by
            rw [hpath]
            rfl
          rw [hname]
          refine .silent hbeside.remove ?_ rfl (uploadTask_freeOperationData _ _)
          left
          simp [FileStore.lookup, FileStore.remove]
  | closingFile op result =>
      exact .closes hbeside hfront h haccess (uploadTask_freeOperationData _ _)
  | closingSocket op result => exact .quiet hbeside hfront haccess rfl rfl trivial
  | releasing result => exact .quiet hbeside hfront haccess rfl rfl trivial
  | _ => exact h.elim

end Task

/-! ## The client -/

section Client

variable {c} {files files' : Storage ν} {stream stream' : Option (OpenFile ν)} {host : Host}
  {t t' : ClientState} {e : Event}

theorem uploadClient_freeTransferData (op : OperationData) (fileOpen outcome : Bool) :
    c.UploadClient files stream (ClientState.freeTransferData op fileOpen outcome) := by
  unfold ClientState.freeTransferData
  split <;> trivial

theorem succeeded_freeTransferData {op : OperationData} {fileOpen outcome : Bool} :
    (ClientState.freeTransferData op fileOpen outcome).Succeeded ↔ outcome = true := by
  unfold ClientState.freeTransferData
  split <;> exact Iff.rfl

theorem uploadClient_afterFill {s : FillState}
    (h : FillsSupply c.blockSize c.path files c.content stream s) :
    c.UploadClient files stream (ClientState.afterFill s) ∧
      ¬ (ClientState.afterFill s).Succeeded := by
  unfold ClientState.afterFill
  split
  · rename_i b tx hpoint
    obtain ⟨hb, hsends⟩ := h.ready hpoint
    rw [h.receiver, if_neg Bool.false_ne_true]
    exact ⟨⟨hb, 0, hsends⟩, id⟩
  · split
    · exact ⟨uploadClient_freeTransferData _ _ _,
        fun hsuccess => Bool.false_ne_true (succeeded_freeTransferData.mp hsuccess)⟩
    · exact ⟨trivial, id⟩
  · exact ⟨h, id⟩

/-- A response taken for the ACK of the last block is that ACK. -/
theorem lastAck_of_holdsAck {m : Nat} {buf : Buffer m} {bytes : List UInt8}
    (hm : sizeofPacket ≤ m)
    (hbytes : (∃ n, bytes = ackPacket n) ∨ ∃ reply, bytes = errorPacket reply)
    (h : HoldsAck host (buf.receive bytes)
      (UInt16.ofNat (chunkCount c.blockSize.val c.content))) : bytes = c.lastAck := by
  have hlong : sizeofPacket ≤ bytes.length := by
    rcases hbytes with ⟨n, rfl⟩ | ⟨reply, rfl⟩
    · simp
    · exact errorPacket_length_ge reply
  obtain ⟨-, hopcode, hnumber⟩ :=
    (holdsAck_receive_whole host buf _ (localhost 0) hm hlong).mp h
  rcases hbytes with ⟨n, rfl⟩ | ⟨reply, rfl⟩
  · rw [blockNumberOf_ackPacket] at hnumber
    rw [lastAck, hnumber]
  · rw [opcodeOf_errorPacket] at hopcode
    exact absurd hopcode (by decide)

/-- No call of the client opens a file for writing or removes one. -/
theorem uploadClient_names (h : c.UploadClient files stream t)
    (hstep : clientStartOperation host t e = some t') : e.changesNames = false := by
  cases client_called hstep with
  | filling s s' hs => exact changesNames_of_quiet (FillsSupply.quiet h hs)
  | transmitting b s s' hs => exact changesNames_of_quiet (TransmitState.quiet hs)
  | awaitingRequest s s' hs => exact changesNames_of_quiet (await_quiet hs)
  | requesting op packet ok => rfl
  | allocating op block => rfl
  | closing op outcome => rfl
  | _ => exact h.elim

variable [DecidableEq ν]

/-- Every call of the client on packets of the task: it leaves its files alone, and it succeeds
only behind the last ACK. -/
theorem uploadClient_step (h : c.UploadClient files stream t) (hreads : ReadOnly stream)
    (hwhole : e.ReadsWhole)
    (hfound : ∀ content, files.lookup c.localName = some content → content = c.content)
    (hreceived : ∀ size source bytes, e = .recvfrom size (.datagram source bytes) →
      (∃ n, bytes = ackPacket n) ∨ ∃ reply, bytes = errorPacket reply)
    (hdecides : t.LastAttemptDecides host e)
    (hstep : clientStartOperation host t e = some t')
    (haccess : accessFiles c.setup.resolveLocal files stream e = some (files', stream')) :
    files' = files ∧ c.UploadClient files stream' t' ∧
      (∀ packet ∈ launched e, c.FromClient packet) ∧
      (t'.Succeeded →
        t.Succeeded ∨ ∃ size source, e = .recvfrom size (.datagram source c.lastAck)) := by
  cases client_called hstep with
  | requesting op packet ok =>
      obtain ⟨hasks, rfl⟩ := h
      obtain ⟨rfl, -⟩ := access_quiet rfl haccess
      have hnot : op.operationId ≠ .receive := by simp [hasks.operation]
      refine ⟨rfl, ?_, ?_, ?_⟩
      · cases ok with
        | true =>
            simp only [ClientState.onRequested, if_true, if_neg hnot]
            exact hasks
        | false => trivial
      · intro packet hmem
        obtain ⟨peer, he⟩ := mem_launched hmem
        obtain ⟨-, rfl, -⟩ := Event.sendto.inj he
        exact Or.inl rfl
      · cases ok with
        | true =>
            simp only [ClientState.onRequested, if_true, if_neg hnot]
            exact fun hsuccess => hsuccess.elim
        | false => exact fun hsuccess => absurd hsuccess Bool.false_ne_true
  | awaitingRequest s s' hs =>
      have hasks : c.Asks .send s'.op := by
        obtain ⟨peer, heq⟩ := await_keeps hs
        have hbefore : c.Asks .send s.op := h
        rw [heq]
        exact ⟨hbefore.operation, hbefore.path, hbefore.size⟩
      obtain ⟨rfl, -⟩ := access_quiet (await_quiet hs) haccess
      have hnext : c.UploadClient files' stream' (ClientState.afterRequest s') ∧
          ¬ (ClientState.afterRequest s').Succeeded := by
        unfold ClientState.afterRequest
        split
        · have hnot : s'.op.operationId ≠ .requestDelete := by simp [hasks.operation]
          unfold ClientState.acknowledged
          rw [if_neg hnot]
          exact ⟨hasks, id⟩
        · exact ⟨trivial, Bool.false_ne_true⟩
        · exact ⟨hasks, id⟩
      refine ⟨rfl, hnext.1, ?_, fun hsuccess => absurd hsuccess hnext.2⟩
      rw [DeleteRequest.launched_await hs]
      exact fun packet hmem => absurd hmem List.not_mem_nil
  | awaitingDeletion s s' hs => exact h.elim
  | allocating op block =>
      have hasks : c.Asks .send op := h
      obtain ⟨rfl, rfl⟩ := Prod.mk.inj (Option.some.inj haccess)
      have hfills : FillsSupply c.blockSize c.path files c.content stream
          (FillState.start op block.isSome false) :=
        fillsSupply_start block.isSome hasks.path hasks.size
      obtain ⟨hnext, hnot⟩ := uploadClient_afterFill hfills
      refine ⟨rfl, ?_, fun packet hmem => absurd hmem List.not_mem_nil, ?_⟩
      · simp only [ClientState.onAllocated, hasks.operation]
        exact hnext
      · simp only [ClientState.onAllocated, hasks.operation]
        exact fun hsuccess => absurd hsuccess hnot
  | filling s s' hs =>
      obtain ⟨rfl, hfills⟩ := FillsSupply.step h hfound hs haccess
      obtain ⟨hnext, hnot⟩ := uploadClient_afterFill hfills
      refine ⟨rfl, hnext, ?_, fun hsuccess => absurd hsuccess hnot⟩
      intro packet hmem
      obtain ⟨reply, rfl⟩ := FillState.launched_fill hs hmem
      exact Or.inr (ofFile_errorPacket reply)
  | transmitting b s s' hs =>
      obtain ⟨rfl, k, hsends⟩ := h
      obtain ⟨rfl, hnext, hsent⟩ := hsends.step hs hwhole haccess
      refine ⟨rfl, ?_, fun packet hmem => Or.inr ⟨k, hsent packet hmem⟩, ?_⟩
      · unfold ClientState.afterTransmit
        split
        · exact uploadClient_freeTransferData _ _ _
        · rcases hnext with hsame | ⟨-, -, -, hnext⟩
          · exact ⟨rfl, k, hsame⟩
          · exact ⟨rfl, k + 1, hnext⟩
      · intro hsuccess
        unfold ClientState.afterTransmit at hsuccess
        split at hsuccess
        · rename_i exit hpoint
          have hexit : exit = .success := by
            rw [succeeded_freeTransferData] at hsuccess
            cases exit with
            | success => rfl
            | failure => cases hsuccess
            | peerError => cases hsuccess
          rw [hexit] at hpoint
          obtain ⟨hlast, size, source, bytes, rfl, hack⟩ := hsends.success hs hdecides hpoint
          rw [hlast] at hack
          have hbytes := hreceived size source bytes rfl
          rw [lastAck_of_holdsAck (by decide) hbytes hack]
          exact Or.inr ⟨size, source, rfl⟩
        · exact hsuccess.elim
  | receiving b s s' hs => exact h.elim
  | closing op outcome =>
      obtain ⟨rfl, -⟩ := access_reading hreads rfl haccess
      exact ⟨rfl, trivial, fun packet hmem => absurd hmem List.not_mem_nil, Or.inl⟩

end Client

/-! ## Every run -/

section Runs

variable {c} {n : Nat} {start files : Storage ν} {s s' : Session ν}

/-- A step of the client leaves the task as it is. -/
theorem Stored.keep (h : c.Stored n s) (hstorage : s'.storage = s.storage)
    (hstreams : s'.streams = s.streams) (hserver : s'.server = s.server) : c.Stored n s' := by
  unfold Stored
  rw [hstorage, hstreams, hserver]
  exact h

/-- Of the tasks, only the one for the request can make a call. -/
theorem UploadOk.of_call {k : Nat} {e : Event} {task : TaskThread} {t t' : TaskState}
    (h : c.UploadOk n start files s) (htask : s.server.tasks[k]? = some task)
    (hstate : task.state = some t) (hcall : serverTaskStart c.setup.serverHost t e = some t') :
    k = n ∧ c.UploadTask s.storage (s.streams k) t := by
  rcases h.server.running k task t htask hstate with ⟨result, rfl⟩ | hupload
  · cases hcall
  · exact hupload

/-- The whole file is in the storage, or the task has still to close it. -/
theorem Finished.stored_or {storage : Storage ν} {stream : Option (OpenFile ν)} {t : TaskState}
    (h : c.Finished storage stream t) : storage.lookup c.name = some c.content ∨
      Collect c.name storage stream c.content ∧ ∀ result, t ≠ .ended result := by
  cases t with
  | closingFile op result => exact Or.inr ⟨h, nofun⟩
  | closingSocket op result => exact Or.inl h
  | releasing result => exact Or.inl h
  | ended result => exact Or.inl h
  | _ => exact h.elim

/-- A client that has succeeded has had its file written, and it is in the storage when the task
has ended. -/
theorem UploadOk.written (h : c.UploadOk n start files s)
    (hcontent : (files.lookup c.localName).getD [] = c.content) (hsucceeded : s.client.Succeeded) :
    files.lookup c.localName = some c.content ∧
      (s.storage.lookup c.name = some c.content ∨
        Collect c.name s.storage (s.streams n) c.content) ∧
      ((∀ task ∈ s.server.tasks, ¬ task.Live) → s.storage.lookup c.name = some c.content) := by
  obtain ⟨hshort, task, t, htask, hstate, hfinished⟩ := h.succeeded hsucceeded
  refine ⟨lookup_of_ne_nil hcontent ?_, hfinished.stored_or.imp_right And.left, ?_⟩
  · intro hnil
    rw [hnil] at hshort
    exact hshort (Nat.zero_mod _)
  · intro hrest
    obtain ⟨result, hended⟩ :=
      DeleteRequest.ended_of_not_live (hrest task (List.mem_of_getElem? htask))
    rw [hstate] at hended
    exact hfinished.stored_or.resolve_right fun hcloses =>
      hcloses.2 result (Option.some.inj hended)

/-- What a step of the server that is no call of a task does to the one with a given number,
when that is behind the transfer. -/
theorem finished_otherMove {m : ProcessMove} {host : Host} {mem : ListenerMemory}
    {p p' : ServerProcess} {storage : Storage ν} {stream : Option (OpenFile ν)}
    {task : TaskThread} {t : TaskState} (htask : p.tasks[n]? = some task)
    (hstate : task.state = some t) (hfinished : c.Finished storage stream t)
    (hnot : ∀ k e, m ≠ .task k e) (hstep : serverProcess host mem p m = some p') :
    ∃ task' t', p'.tasks[n]? = some task' ∧ task'.state = some t' ∧
      c.Finished storage stream t' := by
  obtain ⟨task', htask', hmoved⟩ := task_kept hstep htask
  cases hmoved with
  | stayed => exact ⟨task, t, htask', hstate, hfinished⟩
  | began hm hnone =>
      rw [hnone] at hstate
      cases hstate
  | called e state state' hm => exact absurd hm (hnot n e)
  | detached result hm hbefore => exact ⟨_, t, htask', hstate, hfinished⟩
  | releasing result next hm hbefore hdetached => exact ⟨_, t, htask', hstate, hfinished⟩
  | released result hm hbefore hdetached =>
      obtain rfl := Option.some.inj (hbefore.symm.trans hstate)
      exact ⟨_, .ended result, htask', rfl, hfinished⟩

variable [DecidableEq ν]

theorem UploadOk.clientMove {e : Event} (h : c.UploadOk n start files s)
    (hfound : ∀ content, files.lookup c.localName = some content → content = c.content)
    (hwhole : e.ReadsWhole) (hdecides : s.client.LastAttemptDecides c.setup.clientHost e)
    (hstep : lossySession c.setup s (.client e) = some s') : c.UploadOk n start files s' := by
  obtain ⟨hcarried, hclient, haccess, hserver, hstorage, hstreams, htoClient, htoServer⟩ :=
    session_client hstep
  have hreceived : ∀ size source bytes, e = .recvfrom size (.datagram source bytes) →
      (∃ m, bytes = ackPacket m) ∨ ∃ reply, bytes = errorPacket reply := by
    rintro size source bytes rfl
    exact h.toClient bytes hcarried
  rw [← h.files] at hfound
  obtain ⟨hfiles, hclient', hsent, hsuccess⟩ :=
    uploadClient_step h.client h.reads hwhole hfound hreceived hdecides hclient haccess
  have hreads : ReadOnly s'.stream :=
    (access_reading h.reads (uploadClient_names h.client hclient) haccess).2
  refine ⟨?_, ?_, ?_, ?_, ?_, ?_, hfiles.trans h.files, hreads, ?_, ?_, ?_, ?_, ?_⟩
  · rw [hserver, hstorage, hstreams]
    exact h.server
  · rw [hserver]
    exact h.grown
  · rw [hserver]
    exact h.old
  · rw [hstreams, hserver]
    exact h.begun
  · rw [hstorage]
    exact h.beside
  · rw [hstorage]
    exact h.front
  · rw [hfiles]
    exact hclient'
  · intro packet hmem
    rw [htoServer] at hmem
    rcases List.mem_append.mp hmem with hold | hnew
    · exact h.toServer packet hold
    · exact hsent packet hnew
  · rw [htoClient]
    exact h.toClient
  · rw [htoClient]
    exact fun hmem => (h.confirmed hmem).keep hstorage hstreams hserver
  · intro hsucceeded
    rcases hsuccess hsucceeded with hbefore | ⟨size, source, rfl⟩
    · exact (h.succeeded hbefore).keep hstorage hstreams hserver
    · exact (h.confirmed hcarried).keep hstorage hstreams hserver

/-- The task that is behind the transfer closes its file and does nothing to it any more, and
no other task makes a call. -/
theorem UploadOk.storedMove {m : ProcessMove} (h : c.UploadOk n start files s)
    (hwhole : (SessionMove.server m).WholeFiles) (hstored : c.Stored n s)
    (hstep : lossySession c.setup s (.server m) = some s') : c.Stored n s' := by
  obtain ⟨-, hserver, -, -, -, -, -, hstreams⟩ := session_server hstep
  obtain ⟨hshort, task, t, htask, hstate, hfinished⟩ := hstored
  refine ⟨hshort, ?_⟩
  rcases hstreams with ⟨hnot, hstorage, hsame⟩ | ⟨k, e, file, rfl, haccess, hupdate⟩
  · rw [hstorage, hsame]
    exact finished_otherMove htask hstate hfinished hnot hserver
  · obtain ⟨task', t₁, t₂, htask', hstate', -, hcalled, heq⟩ := task_eq hserver
    obtain ⟨rfl, -⟩ := h.of_call htask' hstate' hcalled
    obtain rfl := Option.some.inj (htask'.symm.trans htask)
    obtain rfl := Option.some.inj (hstate'.symm.trans hstate)
    refine ⟨task'.enter t₂, t₂, ?_, rfl, ?_⟩
    · rw [heq, ServerProcess.setTask]
      exact List.getElem?_set_self (List.getElem?_eq_some_iff.mp htask').1
    · rw [hupdate, Function.update_self]
      exact finished_step hfinished hwhole.1 hcalled haccess

/-- A call of the task. -/
theorem UploadOk.taskCall {k : Nat} {e : Event} (h : c.UploadOk n start files s)
    (hreceive : c.request.operation = .receive)
    (hcount : chunkCount c.blockSize.val c.content ≤ 65535)
    (hwhole : (SessionMove.server (.task k e)).WholeFiles)
    (hstep : lossySession c.setup s (.server (.task k e)) = some s') :
    c.UploadOk n start files s' := by
  obtain ⟨hcarried, hserver, hclient, hfiles, hstream, htoServer, htoClient, hstreams⟩ :=
    session_server hstep
  obtain ⟨hnot, -⟩ | ⟨k', e', file, hm, haccess, hupdate⟩ := hstreams
  · exact absurd rfl (hnot k e)
  obtain ⟨rfl, rfl⟩ := ProcessMove.task.inj hm
  obtain ⟨task, t, t', htask, hstate, -, hcalled, heq⟩ := task_eq hserver
  obtain ⟨rfl, hupload⟩ := h.of_call htask hstate hcalled
  have hreceived : ∀ size source bytes, e = .recvfrom size (.datagram source bytes) →
      c.FromClient bytes := by
    rintro size source bytes rfl
    exact h.toServer bytes (carried_of_call hcarried rfl)
  have hstepped := uploadTask_step hreceive hcount hupload h.beside h.front hreceived hwhole.1
    hcalled haccess
  have hmoved : s'.server.tasks[k]? = some (task.enter t') := by
    rw [heq, ServerProcess.setTask]
    exact List.getElem?_set_self (List.getElem?_eq_some_iff.mp htask).1
  have hstored : c.Stored k s → c.Stored k s' :=
    fun hstored => h.storedMove hwhole hstored hstep
  refine ⟨?_, ?_, ?_, Or.inr ⟨_, hmoved, Option.some_ne_none _⟩, hstepped.beside,
    hstepped.front, hfiles.trans h.files, by rw [hstream]; exact h.reads, ?_, ?_, ?_, ?_, ?_⟩
  · have hreaches : c.request.Reaches (.task k e) := trivial
    refine h.server.step hreaches hserver ?_ ?_ ?_ ?_
    · intro k' t₁ hnot hbefore
      rcases hbefore with hended | ⟨rfl, -⟩
      · exact Or.inl hended
      · exact absurd rfl (hnot e)
    · intro k' op hbegin
      cases hbegin
    · intro k' e' t₁ t₂ hm hbefore hcalled'
      obtain ⟨rfl, rfl⟩ := ProcessMove.task.inj hm
      rcases hbefore with ⟨result, rfl⟩ | ⟨-, hbefore⟩
      · cases hcalled'
      · right
        refine ⟨rfl, ?_⟩
        rw [hupdate, Function.update_self]
        exact (uploadTask_step hreceive hcount hbefore h.beside h.front hreceived hwhole.1
          hcalled' haccess).task
    · intro k' result hrelease
      cases hrelease
  · exact h.grown.trans (tasks_length_le hserver)
  · intro i hi task' htask'
    rw [heq, ServerProcess.setTask, List.getElem?_set_ne (by omega)] at htask'
    exact h.old i hi task' htask'
  · rw [hfiles, hstream, hclient]
    exact h.client
  · rw [htoServer]
    exact h.toServer
  · intro packet hmem
    rw [htoClient] at hmem
    rcases List.mem_append.mp hmem with hold | hnew
    · exact h.toClient packet hold
    · exact hstepped.sent packet hnew
  · intro hmem
    rw [htoClient] at hmem
    rcases List.mem_append.mp hmem with hold | hnew
    · exact hstored (h.confirmed hold)
    · obtain ⟨hshort, hfinished⟩ := hstepped.confirmed hnew
      refine ⟨hshort, _, t', hmoved, rfl, ?_⟩
      rw [hupdate, Function.update_self]
      exact hfinished
  · rw [hclient]
    exact fun hsucceeded => hstored (h.succeeded hsucceeded)

/-- A step of the server that is no call of a task. -/
theorem UploadOk.otherMove {m : ProcessMove} (h : c.UploadOk n start files s)
    (hlength : s.server.tasks.length ≤ n + 1) (hnot : ∀ k e, m ≠ .task k e)
    (hwhole : (SessionMove.server m).WholeFiles)
    (hstep : lossySession c.setup s (.server m) = some s') : c.UploadOk n start files s' := by
  obtain ⟨hcarried, hserver, hclient, hfiles, hstream, htoServer, htoClient, hstreams⟩ :=
    session_server hstep
  obtain ⟨-, hstorage, hsame⟩ | ⟨k, e, file, hm, -⟩ := hstreams
  swap
  · exact absurd hm (hnot k e)
  have hreaches := reaches_of_heard (fun packet hmem => (h.toServer packet hmem).heard) hcarried
  have hsent : ∀ packet ∈ m.launched, ∃ reply, packet = errorPacket reply := by
    intro packet hmem
    obtain ⟨e, hcall, hlaunched⟩ := mem_launched_move hmem
    cases m with
    | listener e' =>
        obtain rfl := Option.some.inj hcall
        exact launched_listener hserver hlaunched
    | task k e' => exact absurd rfl (hnot k e')
    | _ => cases hcall
  have hstored : c.Stored n s → c.Stored n s' :=
    fun hstored => h.storedMove hwhole hstored hstep
  refine ⟨?_, ?_, ?_, ?_, ?_, ?_, hfiles.trans h.files, by rw [hstream]; exact h.reads, ?_, ?_, ?_,
    ?_, ?_⟩
  · refine h.server.step hreaches hserver ?_ ?_ ?_ ?_
    · intro k t _ hbefore
      rw [hstorage, hsame]
      exact hbefore
    · -- the one task that can begin is the one for the request
      rintro k op rfl hserves
      obtain ⟨task, htask, hnone, -⟩ := begin_eq hserver
      have hlt := (List.getElem?_eq_some_iff.mp htask).1
      have hge : n ≤ k := by
        by_contra hlow
        exact h.old k (by omega) task htask hnone
      obtain rfl : k = n := by omega
      refine Or.inr ⟨rfl, hserves, ?_⟩
      rw [hsame]
      refine h.begun.resolve_right ?_
      rintro ⟨task', htask', hbegun⟩
      obtain rfl := Option.some.inj (htask.symm.trans htask')
      exact hbegun hnone
    · exact fun k e t t' hm => absurd hm (hnot k e)
    · exact fun k result _ => Or.inl ⟨result, rfl⟩
  · exact h.grown.trans (tasks_length_le hserver)
  · intro k hk task' htask'
    have hgrown := h.grown
    rcases task_origin hserver htask' with ⟨task, htask, hmoved⟩ | ⟨slot, op, -, hnew, -⟩
    · exact hmoved.begun (h.old k hk task htask)
    · omega
  · rw [hsame]
    rcases h.begun with hreads | ⟨task, htask, hbegun⟩
    · exact Or.inl hreads
    · obtain ⟨task', htask', hmoved⟩ := task_kept hserver htask
      exact Or.inr ⟨task', htask', hmoved.begun hbegun⟩
  · rw [hstorage]
    exact h.beside
  · rw [hstorage]
    exact h.front
  · rw [hfiles, hstream, hclient]
    exact h.client
  · rw [htoServer]
    exact h.toServer
  · intro packet hmem
    rw [htoClient] at hmem
    rcases List.mem_append.mp hmem with hold | hnew
    · exact h.toClient packet hold
    · exact Or.inr (hsent packet hnew)
  · intro hmem
    rw [htoClient] at hmem
    rcases List.mem_append.mp hmem with hold | hnew
    · exact hstored (h.confirmed hold)
    · obtain ⟨reply, herror⟩ := hsent _ hnew
      exact absurd herror (lastAck_ne_errorPacket reply)
  · rw [hclient]
    exact fun hsucceeded => hstored (h.succeeded hsucceeded)

theorem UploadOk.run {tr : List SessionMove} (hrun : Run (lossySession c.setup) s tr s')
    (hreceive : c.request.operation = .receive)
    (hfound : ∀ content, files.lookup c.localName = some content → content = c.content)
    (hcount : chunkCount c.blockSize.val c.content ≤ 65535)
    (hsteps : EveryStep (lossySession c.setup)
      (fun s m => (m.WholeFiles ∧ m.Decides c.setup.clientHost s.client) ∧
        s.server.tasks.length ≤ n + 1) s tr)
    (h : c.UploadOk n start files s) : c.UploadOk n start files s' := by
  refine hrun.invariant_of_everyStep (I := c.UploadOk n start files) ?_ hsteps h
  rintro t move u ht ⟨⟨hwhole, hdecides⟩, hlength⟩ hstep
  cases move with
  | client e => exact ht.clientMove hfound hwhole.2 hdecides hstep
  | server m =>
      by_cases hcall : ∃ k e, m = .task k e
      · obtain ⟨k, e, rfl⟩ := hcall
        exact ht.taskCall hreceive hcount hwhole hstep
      · exact ht.otherMove hlength (fun k e hm => hcall ⟨k, e, hm⟩) hwhole hstep

end Runs

end TransferCase

section Agreement

variable {ν : Type} [DecidableEq ν] {setup : SessionSetup ν}

/-- As long as one request has arrived, at most one thread has been added. -/
theorem tasks_length_of_once {server : ServerProcess} {op : OperationData}
    {files storage : Storage ν} {tr : List SessionMove} (hidle : DeleteRequest.Idle server)
    (hcleared : server.listener.state.Cleared) (honce : tr.countP SessionMove.isRequest ≤ 1) :
    EveryStep (lossySession setup)
      (fun s _ => s.server.tasks.length ≤ server.tasks.length + 1)
      (Session.start op files server storage) tr := by
  rw [everyStep_iff]
  rintro pre m post t rfl hpre
  have hrequested := ServerProcess.requested_run (serverRun_of_session hpre) hcleared
  have hasking : server.listener.state.asking setup.serverHost = 0 := by
    rcases hidle.listener with hpoint | hpoint
    · simp [ListenerState.asking, hpoint]
    · simp [ListenerState.asking, hpoint]
  have hcount : (pre.filterMap SessionMove.ofServer).countP ProcessMove.isRequest =
      pre.countP SessionMove.isRequest := by
    rw [List.countP_filterMap]
    congr 1
    funext move
    unfold SessionMove.isRequest
    cases move.ofServer <;> rfl
  rw [List.countP_append] at honce
  simp only [ServerProcess.requested, Session.start, hasking, hcount] at hrequested
  omega

/-- Over such a channel the invariant holds of every run against an idle server. -/
theorem uploadOk_of_run {files storage : Storage ν} {history : List ProcessMove}
    {server : ServerProcess} {args : InitArguments} {path : List UInt8} {fd : Int} {port : UInt16}
    {op : OperationData} {tr : List SessionMove} {s : Session ν}
    (hhistory : Run (serverProcess setup.serverHost setup.mem) .start history server)
    (hidle : DeleteRequest.Idle server) (hoperation : args.operation = .send)
    (hpath : cstr args.filename = some path) (hlen : path.length < 65535)
    (hname : (afterLast 47 path).length ≤ tftpFilenameMax)
    (hclient : tftpInitOperationData (.bound fd port) args = some (.created op))
    (hcount : ∀ content, files.lookup (setup.resolveLocal path) = some content →
      chunkCount op.blockSize.toNat content ≤ 65535)
    (habsent :
      storage.lookup (setup.resolve (serverStoragePath ++ afterLast 47 path)) = none)
    (hrun : Run (lossySession setup) (Session.start op files server storage) tr s)
    (honce : tr.countP SessionMove.isRequest ≤ 1)
    (hwhole : EveryStep (lossySession setup) (fun _ m => m.WholeFiles)
      (Session.start op files server storage) tr)
    (hdecides : EveryStep (lossySession setup) (fun s m => m.Decides setup.clientHost s.client)
      (Session.start op files server storage) tr) :
    ∃ c : TransferCase ν, c.localName = setup.resolveLocal path ∧
      c.name = setup.resolve (serverStoragePath ++ afterLast 47 path) ∧
      c.blockSize.val = op.blockSize.toNat ∧ (files.lookup c.localName).getD [] = c.content ∧
      c.UploadOk server.tasks.length storage files s := by
  obtain ⟨c, rfl, rfl, hcontent, hcname, hmirrored, hstart, hasks⟩ := transferCase setup
    ((files.lookup (setup.resolveLocal path)).getD []) (Or.inr hoperation) hpath hlen hname hclient
  have hfound : ∀ other, files.lookup c.localName = some other → other = c.content :=
    fun other hother => eq_of_lookup hcontent.symm hother
  have hfits : chunkCount c.blockSize.val c.content ≤ 65535 := by
    rw [← hasks.size]
    exact chunkCount_of_lookup hcontent.symm (by decide) hcount
  have hreceive : c.request.operation = .receive := by
    rw [hmirrored, hoperation]
    rfl
  have hlookup : storage.lookup c.name = none := by
    rw [hcname]
    exact habsent
  have hok : c.UploadOk server.tasks.length storage files
      (Session.start op files server storage) := by
    refine ⟨serverFor_of_idle c.request (fun _ result => Or.inl ⟨result, rfl⟩) hhistory hidle,
      le_refl _, ?_, Or.inl nofun,
      FileStore.beside_refl (by simpa [FileStore.lookup] using hlookup), Or.inl hlookup, rfl,
      nofun, ?_, by simp [Session.start], by simp [Session.start], by simp [Session.start], ?_⟩
    · intro k _ task htask hnone
      obtain ⟨result, hresult⟩ :=
        DeleteRequest.ended_of_not_live (hidle.tasks task (List.mem_of_getElem? htask))
      rw [hnone] at hresult
      cases hresult
    · simp only [Session.start, hstart]
      rw [hoperation] at hasks
      exact ⟨hasks, rfl⟩
    · simp only [Session.start, hstart]
      exact fun hsuccess => hsuccess.elim
  have hcleared : server.listener.state.Cleared :=
    hhistory.invariant (I := fun p => p.listener.state.Cleared)
      (fun _ _ _ hI hstep => cleared_process hI hstep) rfl
  exact ⟨c, rfl, hcname, hasks.size.symm, hcontent.symm, hok.run hrun hreceive hfound hfits
    ((hwhole.and hdecides).and (tasks_length_of_once hidle hcleared honce))⟩

/-- What one client has written another reads back, whatever block size each of them asks for:
the one is run to its end against the server, and then, when the server is idle again, the
other.  If both have returned `true`, the second has the file of the first. -/
theorem write_then_read (setup : SessionSetup ν) (readerHost : Host)
    (readerResolve : List UInt8 → ν) (files readerFiles storage : Storage ν)
    {history : List ProcessMove} {server : ServerProcess} {args readerArgs : InitArguments}
    {path readerPath : List UInt8} {fd readerFd : Int} {port readerPort : UInt16}
    {op readerOp : OperationData}
    (hhistory : Run (serverProcess setup.serverHost setup.mem) .start history server)
    (hidle : DeleteRequest.Idle server)
    (hoperation : args.operation = .send) (hpath : cstr args.filename = some path)
    (hlen : path.length < 65535) (hname : (afterLast 47 path).length ≤ tftpFilenameMax)
    (hclient : tftpInitOperationData (.bound fd port) args = some (.created op))
    (hreads : readerArgs.operation = .receive)
    (hreaderPath : cstr readerArgs.filename = some readerPath)
    (hreaderLen : readerPath.length < 65535)
    (hsame : afterLast 47 readerPath = afterLast 47 path)
    (hreader : tftpInitOperationData (.bound readerFd readerPort) readerArgs =
      some (.created readerOp))
    (hcount : ∀ content, files.lookup (setup.resolveLocal path) = some content →
      chunkCount op.blockSize.toNat content ≤ 65535 ∧
        chunkCount readerOp.blockSize.toNat content ≤ 65535)
    (habsent :
      storage.lookup (setup.resolve (serverStoragePath ++ afterLast 47 path)) = none)
    {tr : List SessionMove} {s : Session ν} {op' : OperationData}
    (hrun : Run (lossySession setup) (Session.start op files server storage) tr s)
    (honce : tr.countP SessionMove.isRequest ≤ 1)
    (hwhole : EveryStep (lossySession setup) (fun _ m => m.WholeFiles)
      (Session.start op files server storage) tr)
    (hdecides : EveryStep (lossySession setup) (fun s m => m.Decides setup.clientHost s.client)
      (Session.start op files server storage) tr)
    (hwritten : s.client = .returned op' true) (hrest : DeleteRequest.Idle s.server)
    {readerTr : List SessionMove} {t : Session ν} {readerOp' : OperationData}
    (hreaderRun : Run
      (lossySession { setup with clientHost := readerHost, resolveLocal := readerResolve })
      (Session.start readerOp readerFiles s.server s.storage) readerTr t)
    (hreaderWhole : EveryStep
      (lossySession { setup with clientHost := readerHost, resolveLocal := readerResolve })
      (fun _ m => m.WholeFiles) (Session.start readerOp readerFiles s.server s.storage) readerTr)
    (hread : t.client = .returned readerOp' true) :
    ∃ content, files.lookup (setup.resolveLocal path) = some content ∧
      t.files.lookup (readerResolve readerPath) = some content := by
  obtain ⟨c, hlocal, hcname, -, hcontent, hend⟩ := uploadOk_of_run hhistory hidle hoperation hpath
    hlen hname hclient (fun content hcontent => (hcount content hcontent).1) habsent hrun honce
    hwhole hdecides
  obtain ⟨hfile, -, hclosed⟩ := hend.written hcontent (by rw [hwritten]; rfl)
  have hstored := hclosed hrest.tasks
  rw [hlocal] at hfile
  rw [hcname, ← hsame] at hstored
  -- the server's part of the write belongs to the history of the read
  obtain ⟨d, hreaderLocal, hdname, -, hdcontent, hreaderEnd⟩ := downloadOk_of_run
    { setup with clientHost := readerHost, resolveLocal := readerResolve }
    (hhistory.append (serverRun_of_session hrun)) hrest hreads hreaderPath hreaderLen
    (by rw [hsame]; exact hname) hreader (by
      intro other hother
      rw [hstored] at hother
      obtain rfl := Option.some.inj hother
      exact (hcount _ hfile).2) hreaderRun hreaderWhole
  obtain ⟨hfound, hfetched⟩ := hreaderEnd.fetched hdcontent hread
  rw [hdname, hstored] at hfound
  rw [← Option.some.inj hfound] at hfetched
  rw [hreaderLocal] at hfetched
  exact ⟨c.content, hfile, hfetched⟩

end Agreement

section FixedRuns

instance (host : Host) : ∀ (t : ClientState) (e : Event), Decidable (t.LastAttemptDecides host e)
  | .transmitting _ s, e => inferInstanceAs (Decidable (s.LastAttemptDecides host e))
  | .requesting _ _, _ | .awaitingRequest _, _ | .awaitingDeletion _, _ | .allocating _, _
  | .filling _, _ | .receiving _ _, _ | .closing _ _, _ | .returned _ _, _ | .exited, _
  | .fault, _ => isTrue trivial

instance (host : Host) (client : ClientState) : DecidablePred (SessionMove.Decides host client)
  | .client e => inferInstanceAs (Decidable (client.LastAttemptDecides host e))
  | .server _ => isTrue trivial

/-- `write <address> a octet 8`. -/
def writerArguments : InitArguments :=
  { readArguments with operation := .send }

/-- The operation of that client. -/
def writingOperation : OperationData :=
  { readingOperation with operationId := .send }

/-- A client that has the file `a`. -/
def writerFiles : Storage (List UInt8) :=
  (emptyStorage.add (ascii "a")).set 0 (ascii "abc")

/-- The task creates the file and answers the request. -/
def writeAnswered : List ProcessMove :=
  [.begin 0, .task 0 (.poll false), .task 0 (.malloc sizeofTransferData (some [])),
    .task 0 (.fopen (ascii "storage/a") .read (some (.other 2))),
    .task 0 (.fopen (ascii "storage/a") .write none),
    .task 0 (.malloc 12 (some (List.replicate 12 0))),
    .task 0 (.malloc 36 (some (List.replicate 36 0))),
    .task 0 (.sendto (localhost 50001) (ackPacket 0) true)]

/-- The client sends the one block of the file. -/
def writeSent : List Event :=
  [.malloc tftpResponsePacketMaxSize (some (List.replicate tftpResponsePacketMaxSize 0)),
    .recvfrom tftpResponsePacketMaxSize (.datagram (localhost 40001) (ackPacket 0)),
    .malloc sizeofTransferData (some []), .fopen (ascii "a") .read none,
    .malloc 12 (some (List.replicate 12 0)), .malloc 36 (some (List.replicate 36 0)),
    .poll false, .poll false, .fread 8 (ascii "abc") true, .poll false,
    .sendto (localhost 40001) (dataPacket 1 (ascii "abc")) true]

/-- The task writes and acknowledges it. -/
def writeReceived : List ProcessMove :=
  [.task 0 (.poll false), .task 0 (.poll false),
    .task 0 (.recvfrom 12 (.datagram (localhost 50001) (dataPacket 1 (ascii "abc")))),
    .task 0 (.fwrite (ascii "abc") 3 0),
    .task 0 (.sendto (localhost 50001) (ackPacket 1) true)]

def writeMoves : List SessionMove :=
  [.client (.sendto (localhost 40000) (requestBytes writingOperation .wrq (ascii "a")) true)] ++
  (servedFor (requestBytes writingOperation .wrq (ascii "a")) 0 4 40001 ++ writeAnswered).map
    .server ++
  writeSent.map .client ++ writeReceived.map .server ++
  [.client (.recvfrom 36 (.datagram (localhost 40001) (ackPacket 1))), .client (.fclose 0)]

/-- The task of the write closes its file and its socket, and releases its slot. -/
def writeReleased : List ProcessMove :=
  [.task 0 (.fclose 0), .task 0 (.close 4)] ++ List.replicate 5 (.taskRelease 0)

def writtenMoves : List SessionMove :=
  writeMoves ++ writeReleased.map .server

/-- Another client asks for the file, and the next task sends it. -/
def readBackMoves : List SessionMove :=
  let request := requestBytes readingOperation .rrq (ascii "a")
  [.client (.sendto (localhost 40000) request true)] ++
  (servedFor request 0 4 40001 ++ readSent 1).map .server ++ readReceived.map .client

set_option maxRecDepth 8000 in
theorem write_then_read_one_file :
    ∃ s t, Run (lossySession readingSetup)
        (Session.start writingOperation writerFiles .start emptyStorage) writtenMoves s ∧
      Run (lossySession readingSetup)
        (Session.start readingOperation emptyStorage s.server s.storage) readBackMoves t ∧
      t.files.lookup (ascii "a") = some (ascii "abc") := by
  have hrun : ∃ s, Run (lossySession readingSetup)
      (Session.start writingOperation writerFiles .start emptyStorage) writtenMoves s ∧
      s.client = .returned { writingOperation with peerAddress := localhost 40001 } true ∧
      s.server.listener.state.point = .looping ∧ (∀ task ∈ s.server.tasks, ¬ task.Live) ∧
      (exec (lossySession readingSetup)
        (Session.start readingOperation emptyStorage s.server s.storage) readBackMoves).any
        (fun t => decide (t.client =
          .returned { readingOperation with peerAddress := localhost 40001 } true)) = true :=
    exists_run_of_exec (by decide)
  obtain ⟨s, hs, hwritten, hlistener, htasks, hexec⟩ := hrun
  obtain ⟨t, ht, hread⟩ := exists_run_of_exec hexec
  have hpath : cstr writerArguments.filename = some (ascii "a") := rfl
  have hreaderPath : cstr readArguments.filename = some (ascii "a") := rfl
  have hop : tftpInitOperationData (.bound 4 50001) writerArguments =
      some (.created writingOperation) := rfl
  have hreader : tftpInitOperationData (.bound 4 50001) readArguments =
      some (.created readingOperation) := rfl
  have hone : ∀ content, writerFiles.lookup (ascii "a") = some content →
      chunkCount writingOperation.blockSize.toNat content ≤ 65535 ∧
        chunkCount readingOperation.blockSize.toNat content ≤ 65535 := by
    intro content hcontent
    obtain rfl : ascii "abc" = content := Option.some.inj hcontent
    decide
  have hall : ∀ moves, (∀ m ∈ moves, SessionMove.WholeFiles m) → ∀ s,
      EveryStep (lossySession readingSetup) (fun _ m => m.WholeFiles) s moves :=
    fun moves hmoves s => everyStep_of_forall fun m hm _ => hmoves m hm
  obtain ⟨content, hcontent, hfile⟩ := write_then_read readingSetup readingSetup.clientHost id
    writerFiles emptyStorage emptyStorage Run.nil idle_start rfl hpath (by decide) (by decide) hop
    rfl hreaderPath (by decide) rfl hreader hone rfl hs (by decide) (hall _ (by decide) _)
    (by decide) hwritten ⟨Or.inl hlistener, htasks⟩ ht (hall _ (by decide) _) hread
  obtain rfl : ascii "abc" = content := Option.some.inj hcontent
  exact ⟨s, t, hs, ht, hfile⟩

end FixedRuns

end Stftpu
