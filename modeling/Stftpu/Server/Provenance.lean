import Stftpu.Server.Grammar
import Stftpu.Server.SlotTable
import Stftpu.Transfer.Identity

/-!
# Where what the server does comes from

Whatever the threads of the server send goes to an address they have heard from, and whatever
they do to a file is what a request asked for that arrived before, on the file it named.

* `OperationData.After` — what a step of a task may do to its operation.
* `Heard`, `Requested` — what the datagrams so far account for.
* `Traced` — all that a thread holds is accounted for.
* `answers_only`, `files_on_request` — over any run of all threads of the server.
-/

namespace Stftpu

open Library

/-! ## What has arrived -/

/-- The source of a datagram received in a step, by the listener or by a task. -/
def ProcessMove.source : ProcessMove → Option SockAddr
  | .listener (.recvfrom _ (.datagram source _)) => some source
  | .task _ (.recvfrom _ (.datagram source _)) => some source
  | _ => none

/-- Where a packet is sent in a step. -/
def ProcessMove.destination : ProcessMove → Option SockAddr
  | .listener (.sendto peer _ _) => some peer
  | .task _ (.sendto peer _ _) => some peer
  | _ => none

/-- The path a request is about: its name, cut at 255 bytes, in the storage directory. -/
def requestPath (datagram : List UInt8) : List UInt8 :=
  serverStoragePath ++ (requestField 0 datagram).take tftpFilenameMax

/-- A datagram from there was received. -/
def Heard (tr : List ProcessMove) (peer : SockAddr) : Prop :=
  ∃ m ∈ tr, m.source = some peer

/-- A datagram from there arrived at port 69. -/
def Arrived (tr : List ProcessMove) (source : SockAddr) (bytes : List UInt8) : Prop :=
  .listener (.recvfrom requestBufferSize (.datagram source bytes)) ∈ tr

/-- A request for such an operation on the file arrived at port 69. -/
def Requested (tr : List ProcessMove) (operation : OperationId) (path : List UInt8) : Prop :=
  ∃ source bytes, Arrived tr source bytes ∧
    requestOperation (opcodeOf bytes) = some operation ∧ path = requestPath bytes

section Arrivals

variable {tr : List ProcessMove} {m : ProcessMove} {peer source : SockAddr} {bytes : List UInt8}
  {operation : OperationId} {path : List UInt8}

theorem Heard.snoc (h : Heard tr peer) (m : ProcessMove) : Heard (tr ++ [m]) peer := by
  obtain ⟨m', hmem, hsource⟩ := h
  exact ⟨m', List.mem_append_left _ hmem, hsource⟩

theorem heard_last (h : m.source = some peer) : Heard (tr ++ [m]) peer :=
  ⟨m, by simp, h⟩

theorem Arrived.snoc (h : Arrived tr source bytes) (m : ProcessMove) :
    Arrived (tr ++ [m]) source bytes :=
  List.mem_append_left _ h

theorem Arrived.heard (h : Arrived tr source bytes) : Heard tr source :=
  ⟨_, h, rfl⟩

theorem Requested.snoc (h : Requested tr operation path) (m : ProcessMove) :
    Requested (tr ++ [m]) operation path := by
  obtain ⟨source, bytes, harrived, hoperation, hpath⟩ := h
  exact ⟨source, bytes, harrived.snoc m, hoperation, hpath⟩

end Arrivals

/-- An operation is accounted for. -/
structure OperationData.Traced (tr : List ProcessMove) (op : OperationData) : Prop where
  peer : Heard tr op.peerAddress
  request : Requested tr op.operationId op.path

theorem OperationData.Traced.snoc {tr : List ProcessMove} {op : OperationData} (h : op.Traced tr)
    (m : ProcessMove) : op.Traced (tr ++ [m]) :=
  ⟨h.peer.snoc m, h.request.snoc m⟩

/-! ## The operation of a task -/

/-- Only a datagram changes the peer, and nothing changes what the operation is about. -/
structure OperationData.After (e : Event) (op op' : OperationData) : Prop where
  operation : op'.operationId = op.operationId
  path : op'.path = op.path
  peer : op'.peerAddress = e.sourceAfter op.peerAddress

section Operations

variable {host : Host} {e : Event}

theorem OperationData.After.of_eq {op op' : OperationData} (h : op' = op)
    (hpeer : ∀ peer, e.sourceAfter peer = peer) : op.After e op' := by
  subst h
  exact ⟨rfl, rfl, (hpeer _).symm⟩

theorem FillState.checkBlockSize_after (s : FillState) :
    s.checkBlockSize.op.operationId = s.op.operationId ∧ s.checkBlockSize.op.path = s.op.path ∧
      s.checkBlockSize.op.peerAddress = s.op.peerAddress := by
  unfold checkBlockSize
  split
  · exact ⟨rfl, rfl, rfl⟩
  · split
    · exact ⟨rfl, rfl, rfl⟩
    · rw [fail_op]
      exact ⟨rfl, rfl, rfl⟩

theorem fill_after {s s' : FillState} (hstep : tftpFillTransferData host s e = some s') :
    s.op.After e s'.op ∧ s'.receiver = s.receiver := by
  cases hpoint : s.point with
  | probing =>
      obtain ⟨error, rfl, ⟨-, rfl⟩ | ⟨-, rfl⟩⟩ := fill_probing hpoint hstep
      · exact ⟨.of_eq rfl fun _ => rfl, rfl⟩
      · exact ⟨.of_eq rfl fun _ => rfl, rfl⟩
  | describing =>
      obtain ⟨timestamp, rfl, rfl⟩ := fill_describing hpoint hstep
      exact ⟨.of_eq (by simp) fun _ => rfl, by simp⟩
  | opening =>
      obtain ⟨error, rfl, ⟨-, rfl⟩ | ⟨errno, -, rfl⟩⟩ := fill_opening hpoint hstep
      · obtain ⟨hoperation, hpath, hpeer⟩ :=
          FillState.checkBlockSize_after { s with fileOpen := true }
        refine ⟨⟨hoperation, hpath, hpeer⟩, ?_⟩
        exact (FillState.checkBlockSize_keeps (s := { s with fileOpen := true })).2
      · exact ⟨.of_eq (by simp) fun _ => rfl, by simp⟩
  | allocatingData b =>
      obtain ⟨block, data, rfl, -, rfl⟩ := fill_allocatingData hpoint hstep
      exact ⟨.of_eq rfl fun _ => rfl, rfl⟩
  | allocatingResponse b data =>
      obtain ⟨block, response, rfl, -, rfl⟩ := fill_allocatingResponse hpoint hstep
      rcases s.onAllocated_cases host data response with ⟨_, _, heq⟩ | ⟨reply, heq⟩
      · rw [heq]
        exact ⟨.of_eq rfl fun _ => rfl, rfl⟩
      · rw [heq]
        exact ⟨.of_eq (by simp) fun _ => rfl, by simp⟩
  | failing reply =>
      obtain ⟨ok, rfl, rfl⟩ := fill_failing hpoint hstep
      exact ⟨.of_eq rfl fun _ => rfl, rfl⟩
  | ready b tx =>
      rw [fill_ready hpoint] at hstep
      cases hstep
  | failed =>
      rw [fill_failed hpoint] at hstep
      cases hstep

theorem transmit_after {b : BlockSize} {s s' : TransmitState b}
    (hstep : tftpTransmitFile host s e = some s') : s.op.After e s'.op := by
  have hpeer := (TransmitState.step_peer hstep).1
  cases hpoint : s.point with
  | entry =>
      obtain ⟨set, rfl, rfl⟩ := transmit_entry hpoint hstep
      cases set <;> exact .of_eq (by simp [TransmitState.begin]) fun _ => rfl
  | nextBlock =>
      obtain ⟨set, rfl, rfl⟩ := transmit_nextBlock hpoint hstep
      cases set <;> exact .of_eq (by simp [TransmitState.startBlock]) fun _ => rfl
  | reading =>
      obtain ⟨bytes, eof, rfl, -, rfl⟩ := transmit_reading hpoint hstep
      refine .of_eq ?_ fun _ => rfl
      unfold TransmitState.onRead
      split <;> simp
  | attempt =>
      obtain ⟨set, rfl, rfl⟩ := transmit_attempt hpoint hstep
      cases set <;> exact .of_eq (by simp) fun _ => rfl
  | sending =>
      obtain ⟨ok, rfl, rfl⟩ := transmit_sending hpoint hstep
      cases ok <;> exact .of_eq (by simp [TransmitState.onSent]) fun _ => rfl
  | awaiting =>
      obtain ⟨result, rfl, rfl⟩ := transmit_awaiting hpoint hstep
      rcases s.onResponse_cases host result with
        ⟨source, bytes, -, ⟨-, heq⟩ | ⟨-, -, heq⟩ | ⟨-, -, heq⟩⟩ |
        ⟨errno, -, ⟨-, heq⟩ | ⟨-, reply, heq⟩⟩
      · rw [heq] at hpeer ⊢
        exact ⟨rfl, rfl, hpeer⟩
      · rw [heq, TransmitState.outerTest_op] at hpeer ⊢
        exact ⟨rfl, rfl, hpeer⟩
      · rw [heq, TransmitState.retry_op] at hpeer ⊢
        exact ⟨rfl, rfl, hpeer⟩
      · rw [heq, TransmitState.retry_op] at hpeer ⊢
        exact ⟨rfl, rfl, hpeer⟩
      · rw [heq, TransmitState.fail_op] at hpeer ⊢
        exact ⟨rfl, rfl, hpeer⟩
  | failing reply =>
      obtain ⟨ok, rfl, rfl⟩ := transmit_failing hpoint hstep
      exact .of_eq rfl fun _ => rfl
  | returned exit =>
      rw [transmit_returned hpoint] at hstep
      cases hstep

theorem receive_after {b : BlockSize} {s s' : ReceiveState b}
    (hstep : tftpReceiveFile host s e = some s') : s.op.After e s'.op := by
  have hpeer := (ReceiveState.step_peer hstep).1
  cases hpoint : s.point with
  | entry =>
      obtain ⟨set, rfl, rfl⟩ := receive_entry hpoint hstep
      cases set <;> exact .of_eq (by simp [ReceiveState.begin]) fun _ => rfl
  | nextBlock =>
      obtain ⟨set, rfl, rfl⟩ := receive_nextBlock hpoint hstep
      cases set <;> exact .of_eq (by simp) fun _ => rfl
  | awaiting =>
      obtain ⟨result, rfl, rfl⟩ := receive_awaiting hpoint hstep
      cases result with
      | failed errno =>
          refine .of_eq ?_ fun _ => rfl
          simp [ReceiveState.onPacket]
      | datagram source bytes =>
          refine ⟨?_, ?_, hpeer⟩
          · simp only [ReceiveState.onPacket]
            split
            · split
              · rfl
              · split
                · rw [ReceiveState.accept_op]
                  rfl
                · rfl
            · rw [ReceiveState.missed_op]
              rfl
          · simp only [ReceiveState.onPacket]
            split
            · split
              · rfl
              · split
                · rw [ReceiveState.accept_op]
                  rfl
                · rfl
            · rw [ReceiveState.missed_op]
              rfl
  | writing payload =>
      obtain ⟨count, kept, rfl, -, rfl⟩ := receive_writing hpoint hstep
      exact .of_eq (by simp) fun _ => rfl
  | acknowledging =>
      obtain ⟨ok, rfl, rfl⟩ := receive_acknowledging hpoint hstep
      exact .of_eq (by simp) fun _ => rfl
  | failing reply =>
      obtain ⟨ok, rfl, rfl⟩ := receive_failing hpoint hstep
      exact .of_eq rfl fun _ => rfl
  | returned exit =>
      rw [receive_returned hpoint] at hstep
      cases hstep
  | fault =>
      rw [receive_fault hpoint] at hstep
      cases hstep

end Operations

/-! ## What a task does to files -/

/-- The path handed over in a call. -/
def Event.path : Event → Option (List UInt8)
  | .fopen path _ _ => some path
  | .stat path _ => some path
  | .remove path _ => some path
  | _ => none

/-- A file is looked for, opened, read, written or removed. -/
def Event.usesFile : Event → Bool
  | .fopen _ _ _ => true
  | .stat _ _ => true
  | .fread _ _ _ => true
  | .fwrite _ _ _ => true
  | .remove _ _ => true
  | _ => false

/-- A transfer on its way does nothing to files but write or read its own. -/
theorem receive_files {b : BlockSize} {host : Host} {s s' : ReceiveState b} {e : Event}
    (hstep : tftpReceiveFile host s e = some s') (huses : e.usesFile = true) :
    ∃ bytes count kept, e = .fwrite bytes count kept := by
  cases e with
  | fwrite bytes count kept => exact ⟨bytes, count, kept, rfl⟩
  | fopen path mode error =>
      rw [receive_fopen] at hstep
      cases hstep
  | remove path error =>
      rw [receive_remove] at hstep
      cases hstep
  | stat path timestamp => cases hpoint : s.point <;> simp [tftpReceiveFile, hpoint] at hstep
  | fread size bytes eof => cases hpoint : s.point <;> simp [tftpReceiveFile, hpoint] at hstep
  | _ => cases huses

theorem transmit_files {b : BlockSize} {host : Host} {s s' : TransmitState b} {e : Event}
    (hstep : tftpTransmitFile host s e = some s') (huses : e.usesFile = true) :
    ∃ size bytes eof, e = .fread size bytes eof := by
  cases e with
  | fread size bytes eof => exact ⟨size, bytes, eof, rfl⟩
  | fopen path mode error =>
      rw [transmit_fopen] at hstep
      cases hstep
  | remove path error =>
      rw [transmit_remove] at hstep
      cases hstep
  | stat path timestamp => cases hpoint : s.point <;> simp [tftpTransmitFile, hpoint] at hstep
  | fwrite bytes count kept => cases hpoint : s.point <;> simp [tftpTransmitFile, hpoint] at hstep
  | _ => cases huses

/-- What an operation may do to a file. -/
def OperationId.permits : OperationId → Event → Bool
  | .send, .fopen _ .read _ => true
  | .send, .fread _ _ _ => true
  | .receive, .fopen _ _ _ => true
  | .receive, .stat _ _ => true
  | .receive, .fwrite _ _ _ => true
  | .receive, .remove _ _ => true
  | .handleDelete, .fopen _ .read _ => true
  | .handleDelete, .remove _ _ => true
  | _, _ => false

/-- The operation is a receiver's or a sender's, and only a receiver looks whether the file is
there. -/
structure FillState.Suits (s : FillState) : Prop where
  operation : s.op.operationId = if s.receiver then .receive else .send
  looks : s.Created ∨ s.point = .opening ∨ s.receiver = true

section Fill

variable {host : Host} {s s' : FillState} {e : Event}

theorem FillState.suits_start {op : OperationData} (allocated : Bool)
    (hop : op.operationId = .receive ∨ op.operationId = .send) :
    (start op allocated (op.operationId = .receive)).Suits := by
  have hreceiver : (start op allocated (op.operationId = .receive)).receiver =
      decide (op.operationId = .receive) := by
    cases allocated with
    | true => rfl
    | false => exact fail_receiver _
  constructor
  · rw [start_op, hreceiver]
    rcases hop with hop | hop
    · simp [hop]
    · simp [hop]
  · cases allocated with
    | false => exact Or.inl (created_fail _)
    | true =>
        right
        rcases hop with hop | hop
        · right
          rw [hreceiver]
          simp [hop]
        · left
          simp [start, hop]

theorem FillState.suits_step (h : s.Suits) (hstep : tftpFillTransferData host s e = some s') :
    s'.Suits := by
  obtain ⟨hafter, hreceiver⟩ := fill_after hstep
  refine ⟨by rw [hafter.operation, hreceiver, h.operation], ?_⟩
  rcases h.looks with hcreated | hopening | hlooks
  · exact Or.inl (created_step hcreated hstep).1
  · obtain ⟨error, -, ⟨-, rfl⟩ | ⟨errno, -, rfl⟩⟩ := fill_opening hopening hstep
    · exact Or.inl created_checkBlockSize
    · exact Or.inl (created_fail _)
  · exact Or.inr (Or.inr (hreceiver.trans hlooks))

/-- The receiver looks for the file, creates it and describes one that is in its way; the
sender opens it. -/
theorem FillState.files_step (h : s.Suits) (hstep : tftpFillTransferData host s e = some s')
    (huses : e.usesFile = true) :
    s.op.operationId.permits e = true ∧ ∀ path, e.path = some path → path = s.op.path := by
  have hop := h.operation
  have hlooks := h.looks
  cases hpoint : s.point with
  | probing =>
      obtain ⟨error, rfl, -⟩ := fill_probing hpoint hstep
      refine ⟨?_, fun path hpath => (Option.some.inj hpath).symm⟩
      rw [hop]
      split <;> rfl
  | describing =>
      obtain ⟨timestamp, rfl, -⟩ := fill_describing hpoint hstep
      refine ⟨?_, fun path hpath => (Option.some.inj hpath).symm⟩
      simp only [Created, hpoint, false_or, reduceCtorEq] at hlooks
      rw [hop, hlooks]
      rfl
  | opening =>
      obtain ⟨error, rfl, -⟩ := fill_opening hpoint hstep
      refine ⟨?_, fun path hpath => (Option.some.inj hpath).symm⟩
      rw [hop]
      split <;> rfl
  | allocatingData b =>
      obtain ⟨block, data, rfl, -, -⟩ := fill_allocatingData hpoint hstep
      cases huses
  | allocatingResponse b data =>
      obtain ⟨block, response, rfl, -, -⟩ := fill_allocatingResponse hpoint hstep
      cases huses
  | failing reply =>
      obtain ⟨ok, rfl, -⟩ := fill_failing hpoint hstep
      cases huses
  | ready b tx =>
      rw [fill_ready hpoint] at hstep
      cases hstep
  | failed =>
      rw [fill_failed hpoint] at hstep
      cases hstep

theorem FillState.sends_step (hstep : tftpFillTransferData host s e = some s')
    {peer : SockAddr} {packet : List UInt8} {ok : Bool} (he : e = .sendto peer packet ok) :
    peer = s.op.peerAddress := by
  subst he
  cases hpoint : s.point with
  | failing reply =>
      obtain ⟨ok', he, -⟩ := fill_failing hpoint hstep
      exact (Event.sendto.inj he).1
  | _ => simp [tftpFillTransferData, hpoint] at hstep

end Fill

namespace TaskState

/-- The control point is one of the operation's. -/
def Suits : TaskState → Prop
  | .allocating op => op.operationId = .receive ∨ op.operationId = .send
  | .filling s => s.Suits
  | .acknowledging _ op _ => op.operationId = .receive
  | .receiving _ s => s.op.operationId = .receive
  | .closingPartial op => op.operationId = .receive
  | .removingPartial op => op.operationId = .receive
  | .transmitting _ s => s.op.operationId = .send
  | .deleting _ op => op.operationId = .handleDelete
  | _ => True

/-- What a step of a task does to its operation, and to files. -/
structure Accounted (t : TaskState) (e : Event) (t' : TaskState) : Prop where
  suits : t'.Suits
  operation : ∀ op', t'.operation = some op' →
    ∃ op, t.operation = some op ∧ op.After e op'
  files : e.usesFile = true → ∃ op, t.operation = some op ∧
    op.operationId.permits e = true ∧ ∀ path, e.path = some path → path = op.path
  sends : ∀ peer packet ok, e = .sendto peer packet ok →
    ∃ op, t.operation = some op ∧ peer = op.peerAddress

section Steps

variable {host : Host} {t t' : TaskState} {e : Event} {op op' : OperationData}
  {result : Option Bool} {fileOpen : Bool}

/-- A step that uses no file and sends nothing. -/
theorem Accounted.quiet (hsuits : t'.Suits)
    (hoperation : ∀ op', t'.operation = some op' → ∃ op, t.operation = some op ∧ op.After e op')
    (hfiles : e.usesFile = false) (hsends : ∀ peer packet ok, e ≠ .sendto peer packet ok) :
    Accounted t e t' := by
  refine ⟨hsuits, hoperation, ?_, ?_⟩
  · intro huses
    rw [hfiles] at huses
    cases huses
  · intro peer packet ok he
    exact absurd he (hsends peer packet ok)

theorem suits_freeOperationData : (freeOperationData op result).Suits := by
  unfold freeOperationData
  split <;> trivial

theorem suits_freeTransferData : (freeTransferData op fileOpen result).Suits := by
  unfold freeTransferData
  split
  · trivial
  · exact suits_freeOperationData

theorem operation_freeTransferData
    (h : (freeTransferData op fileOpen result).operation = some op') : op' = op := by
  unfold freeTransferData at h
  split at h
  · exact (Option.some.inj h).symm
  · exact operation_freeOperationData h

theorem suits_afterFill {s : FillState} (h : s.Suits) :
    (afterFill s).Suits := by
  unfold afterFill
  split
  · have hop := FillState.Suits.operation h
    split
    · rename_i hreceiver
      rw [if_pos hreceiver] at hop
      exact hop
    · rename_i hreceiver
      rw [if_neg hreceiver] at hop
      exact hop
  · split
    · exact suits_freeTransferData
    · trivial
  · exact h

theorem operation_afterFill {s : FillState} (h : (afterFill s).operation = some op') :
    op' = s.op := by
  unfold afterFill at h
  split at h
  · split at h <;> exact (Option.some.inj h).symm
  · split at h
    · exact operation_freeTransferData h
    · cases h
  · exact (Option.some.inj h).symm

theorem suits_afterReceive {b : BlockSize} {s : ReceiveState b}
    (h : s.op.operationId = .receive) : (afterReceive s).Suits := by
  unfold afterReceive
  split
  · split
    · trivial
    · exact h
  · trivial
  · exact h

theorem operation_afterReceive {b : BlockSize} {s : ReceiveState b}
    (h : (afterReceive s).operation = some op') : op' = s.op := by
  unfold afterReceive at h
  split at h
  · split at h <;> exact (Option.some.inj h).symm
  · cases h
  · exact (Option.some.inj h).symm

theorem suits_afterTransmit {b : BlockSize} {s : TransmitState b}
    (h : s.op.operationId = .send) : (afterTransmit s).Suits := by
  unfold afterTransmit
  split
  · trivial
  · exact h

theorem operation_afterTransmit {b : BlockSize} {s : TransmitState b}
    (h : (afterTransmit s).operation = some op') : op' = s.op := by
  unfold afterTransmit at h
  split at h
  · exact (Option.some.inj h).symm
  · exact (Option.some.inj h).symm

theorem suits_dispatch : (dispatch op).Suits := by
  unfold dispatch
  split
  · rename_i hreceive
    exact Or.inl hreceive
  · rename_i hsend
    exact Or.inr hsend
  · rename_i hdelete
    exact hdelete
  · exact suits_freeOperationData
  · exact suits_freeOperationData

theorem operation_dispatch (h : (dispatch op).operation = some op') : op' = op := by
  unfold dispatch at h
  split at h
  · exact (Option.some.inj h).symm
  · exact (Option.some.inj h).symm
  · exact (Option.some.inj h).symm
  · exact operation_freeOperationData h
  · exact operation_freeOperationData h

theorem delete_accounted {point : DeletePoint} (hop : op.operationId = .handleDelete)
    (hstep : serverDeleteFile host point op e = some t') :
    Accounted (.deleting point op) e t' := by
  have hfail : ∀ reply, (failDelete op reply).Suits := by
    intro reply
    unfold failDelete
    split
    · exact hop
    · exact suits_freeOperationData
  have hfailed : ∀ reply op', (failDelete op reply).operation = some op' → op' = op := by
    intro reply op' h
    unfold failDelete at h
    split at h
    · exact (Option.some.inj h).symm
    · exact operation_freeOperationData h
  have hkept : ∀ op', op' = op → (∀ peer, e.sourceAfter peer = peer) →
      ∃ op₁, (TaskState.deleting point op).operation = some op₁ ∧ op₁.After e op' :=
    fun op' h hpeer => ⟨op, rfl, .of_eq h hpeer⟩
  cases delete_called hstep with
  | acknowledging ok =>
      refine ⟨hop, fun op' h => hkept op' (Option.some.inj h).symm fun _ => rfl, nofun, ?_⟩
      intro peer packet ok' he
      exact ⟨op, rfl, (Event.sendto.inj he).1.symm⟩
  | opened =>
      refine ⟨hop, fun op' h => hkept op' (Option.some.inj h).symm fun _ => rfl, ?_, nofun⟩
      intro huses
      exact ⟨op, rfl, by rw [hop]; rfl, fun path hpath => (Option.some.inj hpath).symm⟩
  | missing errno =>
      refine ⟨hfail _, fun op' h => hkept op' (hfailed _ op' h) fun _ => rfl, ?_, nofun⟩
      intro huses
      exact ⟨op, rfl, by rw [hop]; rfl, fun path hpath => (Option.some.inj hpath).symm⟩
  | closing =>
      exact ⟨hop, fun op' h => hkept op' (Option.some.inj h).symm fun _ => rfl, nofun, nofun⟩
  | removed =>
      refine ⟨hop, fun op' h => hkept op' (Option.some.inj h).symm fun _ => rfl, ?_, nofun⟩
      intro huses
      exact ⟨op, rfl, by rw [hop]; rfl, fun path hpath => (Option.some.inj hpath).symm⟩
  | kept errno =>
      refine ⟨hfail _, fun op' h => hkept op' (hfailed _ op' h) fun _ => rfl, ?_, nofun⟩
      intro huses
      exact ⟨op, rfl, by rw [hop]; rfl, fun path hpath => (Option.some.inj hpath).symm⟩
  | confirming ok =>
      refine ⟨suits_freeOperationData,
        fun op' h => hkept op' (operation_freeOperationData h) fun _ => rfl, nofun, ?_⟩
      intro peer packet ok' he
      exact ⟨op, rfl, (Event.sendto.inj he).1.symm⟩
  | failing reply ok =>
      refine ⟨suits_freeOperationData,
        fun op' h => hkept op' (operation_freeOperationData h) fun _ => rfl, nofun, ?_⟩
      intro peer packet ok' he
      exact ⟨op, rfl, (Event.sendto.inj he).1.symm⟩

theorem accounted_step (h : t.Suits) (hstep : serverTaskStart host t e = some t') :
    Accounted t e t' := by
  -- where the operation stays as it is, and the call brings no datagram
  have hkept : ∀ op op', t.operation = some op → op' = op → (∀ peer, e.sourceAfter peer = peer) →
      ∃ op₁, t.operation = some op₁ ∧ op₁.After e op' :=
    fun op op' hop h hpeer => ⟨op, hop, .of_eq h hpeer⟩
  cases task_called hstep with
  | starting op set =>
      cases set with
      | true => exact .quiet trivial (by simp [operation]) rfl (by simp)
      | false =>
          exact .quiet suits_dispatch
            (fun op' hop' => hkept op op' rfl (operation_dispatch hop') fun _ => rfl) rfl (by simp)
  | allocating op block =>
      apply Accounted.quiet (suits_afterFill (FillState.suits_start _ h)) _ rfl (by simp)
      intro op' hop'
      refine hkept op op' rfl ?_ fun _ => rfl
      rw [operation_afterFill hop', FillState.start_op]
  | filling s s' hs =>
      refine ⟨suits_afterFill (FillState.suits_step h hs), ?_, ?_, ?_⟩
      · intro op' hop'
        rw [operation_afterFill hop']
        exact ⟨s.op, rfl, (fill_after hs).1⟩
      · intro huses
        exact ⟨s.op, rfl, FillState.files_step h hs huses⟩
      · intro peer packet ok he
        exact ⟨s.op, rfl, FillState.sends_step hs he⟩
  | acknowledging b op tx ok =>
      have hop : op.operationId = .receive := h
      refine ⟨?_, ?_, by simp [Event.usesFile], ?_⟩
      · cases ok with
        | true => exact hop
        | false => trivial
      · intro op' hop'
        refine hkept op op' rfl ?_ fun _ => rfl
        cases ok <;> exact (Option.some.inj hop').symm
      · intro peer packet ok' he
        exact ⟨op, rfl, (Event.sendto.inj he).1.symm⟩
  | receiving b s s' hs =>
      have hop : s.op.operationId = .receive := h
      have hafter := receive_after hs
      refine ⟨suits_afterReceive (hafter.operation.trans hop), ?_, ?_, ?_⟩
      · intro op' hop'
        rw [operation_afterReceive hop']
        exact ⟨s.op, rfl, hafter⟩
      · intro huses
        obtain ⟨bytes, count, kept, rfl⟩ := receive_files hs huses
        exact ⟨s.op, rfl, by rw [hop]; rfl, by simp [Event.path]⟩
      · intro peer packet ok he
        exact ⟨s.op, rfl, (ReceiveState.step_peer hs).2 peer packet ok he⟩
  | closingPartial op =>
      exact .quiet h (fun op' hop' => hkept op op' rfl (Option.some.inj hop').symm fun _ => rfl)
        rfl (by simp)
  | removingPartial op error =>
      have hop : op.operationId = .receive := h
      refine ⟨suits_freeOperationData,
        fun op' hop' => hkept op op' rfl (operation_freeOperationData hop') fun _ => rfl, ?_,
        by simp⟩
      intro huses
      exact ⟨op, rfl, by rw [hop]; rfl, fun path hpath => (Option.some.inj hpath).symm⟩
  | transmitting b s s' hs =>
      have hop : s.op.operationId = .send := h
      have hafter := transmit_after hs
      refine ⟨suits_afterTransmit (hafter.operation.trans hop), ?_, ?_, ?_⟩
      · intro op' hop'
        rw [operation_afterTransmit hop']
        exact ⟨s.op, rfl, hafter⟩
      · intro huses
        obtain ⟨size, bytes, eof, rfl⟩ := transmit_files hs huses
        exact ⟨s.op, rfl, by rw [hop]; rfl, by simp [Event.path]⟩
      · intro peer packet ok he
        exact ⟨s.op, rfl, (TransmitState.step_peer hs).2 peer packet ok he⟩
  | deleting point op hdelete => exact delete_accounted h hdelete
  | closingFile op result =>
      exact .quiet suits_freeOperationData
        (fun op' hop' => hkept op op' rfl (operation_freeOperationData hop') fun _ => rfl)
        rfl (by simp)
  | closingSocket op result => exact .quiet trivial (by simp [operation]) rfl (by simp)
  | releasing result => exact .quiet trivial (by simp [operation]) rfl (by simp)

end Steps

end TaskState

/-! ## The listener -/

/-- The buffer holds a datagram that arrived, and the address it came from is at hand. -/
def ListenerState.Holds (tr : List ProcessMove) (s : ListenerState) : Prop :=
  ∃ bytes, Arrived tr s.clientAddress bytes ∧
    s.requestBuffer = (Buffer.zero requestBufferSize).receive bytes

/-- The arguments of a request are accounted for. -/
structure InitArguments.Traced (tr : List ProcessMove) (args : InitArguments) : Prop where
  peer : Heard tr args.peer
  request : ∃ path, cstr args.filename = some path ∧ Requested tr args.operation path

/-- All that the listener holds is accounted for. -/
def ListenerState.Traced (tr : List ProcessMove) (s : ListenerState) : Prop :=
  match s.point with
  | .received => 0 < s.bytesReceived → s.Holds tr
  | .refusing _ => Heard tr s.clientAddress
  | .acquiring => s.Holds tr
  | .initializing _ args => args.Traced tr
  | .rejecting _ _ peer _ => Heard tr peer
  | .spawning _ op => op.Traced tr
  | _ => True

section Listener

variable {host : Host} {mem : ListenerMemory} {tr : List ProcessMove} {s s' : ListenerState}
  {e : Event}

theorem ListenerState.Holds.snoc (h : s.Holds tr) (m : ProcessMove) : s.Holds (tr ++ [m]) := by
  obtain ⟨bytes, harrived, hbuffer⟩ := h
  exact ⟨bytes, harrived.snoc m, hbuffer⟩

theorem ListenerState.Holds.heard (h : s.Holds tr) : Heard tr s.clientAddress := by
  obtain ⟨bytes, harrived, -⟩ := h
  exact harrived.heard

theorem ListenerState.Traced.snoc (h : s.Traced tr) (m : ProcessMove) : s.Traced (tr ++ [m]) := by
  unfold Traced at h ⊢
  cases hpoint : s.point with
  | received =>
      rw [hpoint] at h
      exact fun hbytes => (h hbytes).snoc m
  | refusing reply =>
      rw [hpoint] at h
      exact Heard.snoc h m
  | acquiring =>
      rw [hpoint] at h
      exact Holds.snoc h m
  | initializing slot args =>
      rw [hpoint] at h
      obtain ⟨path, hpath, hrequested⟩ := InitArguments.Traced.request h
      exact ⟨h.peer.snoc m, path, hpath, hrequested.snoc m⟩
  | rejecting slot fd peer reply =>
      rw [hpoint] at h
      exact Heard.snoc h m
  | spawning slot op =>
      rw [hpoint] at h
      exact OperationData.Traced.snoc h m
  | _ => trivial

/-- The name read from the buffer is that of the datagram, however long the datagram. -/
theorem requestName_contents {datagram : List UInt8} (htwo : 2 ≤ datagram.length)
    (hbuffer : s.requestBuffer = (Buffer.zero requestBufferSize).receive datagram) :
    ((s.contents mem).takeWhile (· ≠ 0)).take tftpFilenameMax =
      (requestField 0 datagram).take tftpFilenameMax := by
  have hsize : requestBufferSize = 514 := rfl
  have hbytes : s.contents mem = (datagram.drop 2).take 512 ++
      (List.replicate (514 - datagram.length) 0 ++ mem.slack) := by
    have hfront : 2 ≤ (datagram.take 514).length := by
      rw [List.length_take]
      omega
    rw [ListenerState.contents, hbuffer, Buffer.receive_bytes, Buffer.zero_bytes, hsize,
      List.drop_replicate, List.append_assoc, List.drop_append_of_le_length hfront,
      List.drop_take]
  have hname : requestField 0 datagram = (datagram.drop 2).takeWhile (· ≠ 0) := rfl
  have hmax : tftpFilenameMax = 255 := rfl
  rw [hbytes, hname, hmax]
  by_cases hlong : 257 ≤ datagram.length
  · -- the first 255 bytes of the contents are all in the buffer
    have hlength : 255 ≤ ((datagram.drop 2).take 512).length := by
      rw [List.length_take, List.length_drop]
      omega
    rw [take_takeWhile_append hlength]
    have hwhole := take_takeWhile_append (p := (· ≠ 0)) hlength ((datagram.drop 2).drop 512)
    rw [List.take_append_drop] at hwhole
    exact hwhole.symm
  · -- the zeros behind the datagram end the name
    have hall : (datagram.drop 2).take 512 = datagram.drop 2 := by
      rw [List.take_of_length_le]
      rw [List.length_drop]
      omega
    obtain ⟨m, hm⟩ : ∃ m, 514 - datagram.length = m + 1 := ⟨513 - datagram.length, by omega⟩
    rw [hall, hm, List.replicate_succ, List.cons_append, List.takeWhile_append]
    split
    · rename_i hwhole
      rw [(List.takeWhile_prefix _).eq_of_length hwhole]
      simp
    · rfl

theorem parse_traced {args : InitArguments} (h : s.Holds tr)
    (hparse : serverParseRequestData host mem s = some (some args)) : args.Traced tr := by
  obtain ⟨bytes, harrived, hbuffer⟩ := h
  obtain ⟨filePath, hcat, hrest⟩ := Option.bind_eq_some_iff.mp hparse
  have hopcode := incomingOpcode_cleared host hbuffer
  -- all that the rest of the parsing adds are the mode and the block size
  have hfields : requestOperation (opcodeOf bytes) = some args.operation ∧
      args.peer = s.clientAddress ∧ args.filename = filePath := by
    rw [← hopcode]
    split at hrest
    · cases hrest
    · rename_i hop
      obtain rfl := Option.some.inj (Option.some.inj hrest)
      exact ⟨hop, rfl, rfl⟩
    · rename_i operation _ hop
      obtain ⟨length, -, hrest⟩ := Option.bind_eq_some_iff.mp hrest
      obtain ⟨blocksize, -, hrest⟩ := Option.bind_eq_some_iff.mp hrest
      obtain rfl := Option.some.inj (Option.some.inj hrest)
      exact ⟨hop, rfl, rfl⟩
  obtain ⟨hoperation, hpeer, hfilename⟩ := hfields
  have hroom : tftpFilenameMax * 2 - serverStoragePath.length = 501 + 1 := by decide
  have hstring : initialFilePath = serverStoragePath ++ List.replicate (501 + 1) 0 := by
    rw [initialFilePath, hroom]
  rw [hstring] at hcat
  obtain ⟨hpath, -⟩ := cstr_strncat_take serverStoragePath_ne_zero hcat
  rw [requestName_contents (two_le_of_requestOperation hoperation) hbuffer] at hpath
  refine ⟨hpeer ▸ harrived.heard, requestPath bytes, ?_, _, _, harrived, hoperation, rfl⟩
  rw [hfilename]
  exact hpath

theorem traced_clear : s.clear.Traced tr := trivial

theorem traced_refuse {reply : ErrorReply} (h : Heard tr s.clientAddress) :
    (s.refuse reply).Traced tr := by
  unfold ListenerState.refuse
  split
  · exact h
  · trivial

theorem traced_dispatch (hpoint : s.point = .received) (h : s.Traced tr) :
    (s.dispatch host mem).Traced tr := by
  simp only [ListenerState.Traced, hpoint] at h
  unfold ListenerState.dispatch
  split
  · trivial
  · rename_i hbytes
    have hholds := h (by omega)
    split
    · trivial
    · split
      · exact hholds
      · split
        · trivial
        · exact traced_refuse hholds.heard

theorem traced_onAcquired (h : s.Holds tr) (slot : Option Nat) :
    (s.onAcquired host mem slot).Traced tr := by
  unfold ListenerState.onAcquired
  split
  · exact traced_refuse h.heard
  · split
    · trivial
    · trivial
    · rename_i args hparse
      exact parse_traced h hparse

theorem traced_freeOperationData {slot : Nat} {fd : Int} :
    (s.freeOperationData slot fd).Traced tr := by
  unfold ListenerState.freeOperationData
  split <;> trivial

/-- The operation has the address and the file of its request. -/
theorem created_traced {args : InitArguments} {socket : DataSocket} {op : OperationData}
    (h : args.Traced tr) (hcreated : tftpInitOperationData socket args = some (.created op)) :
    op.Traced tr := by
  obtain ⟨path, hpath, hrequest⟩ := h.request
  obtain ⟨fd, port, -, rfl, -⟩ := created_bound hcreated
  obtain ⟨hoperation, hopPath, -⟩ := created_fields hcreated hpath
  constructor
  · rw [created_peer hcreated]
    exact h.peer
  · rw [hoperation, hopPath]
    exact hrequest

theorem traced_onInitialized {args : InitArguments} (h : args.Traced tr) (slot : Nat)
    (socket : DataSocket) : (s.onInitialized slot args socket).Traced tr := by
  unfold ListenerState.onInitialized
  split
  · split <;> trivial
  · trivial
  · split
    · exact h.peer
    · exact traced_freeOperationData
  · rename_i op hcreated
    exact created_traced h hcreated

/-- A step of the loop, with the trace grown by it. -/
theorem traced_loop (hcleared : s.Cleared) (h : s.Traced tr)
    (hstep : serverListenerLoop host mem s e = some s') : s'.Traced (tr ++ [.listener e]) := by
  have hsnoc := h.snoc (.listener e)
  cases loop_called hstep with
  | looping set hpoint => cases set <;> trivial
  | awaiting result hpoint =>
      cases result with
      | failed errno =>
          intro hbytes
          simp only [ListenerState.onReceived] at hbytes
          omega
      | datagram source bytes =>
          intro _
          simp only [ListenerState.Cleared, hpoint] at hcleared
          refine ⟨bytes, ?_, ?_⟩
          · simp [Arrived, ListenerState.onReceived]
          · simp only [ListenerState.onReceived, hcleared]
  | received set hpoint =>
      cases set with
      | true => trivial
      | false => exact traced_dispatch hpoint hsnoc
  | refusing reply ok hpoint => trivial
  | acquiring slot hpoint =>
      simp only [ListenerState.Traced, hpoint] at hsnoc
      exact traced_onAcquired hsnoc slot
  | initializing slot args socket hpoint =>
      simp only [ListenerState.Traced, hpoint] at hsnoc
      exact traced_onInitialized hsnoc slot socket
  | rejecting slot fd client reply ok hpoint => exact traced_freeOperationData
  | closing slot fd hpoint => trivial
  | releasing slot hpoint => trivial
  | spawning slot op ok hpoint => trivial

/-- What the listener sends goes to an address it has heard from, and it uses no file. -/
theorem loop_sends (h : s.Traced tr) (hstep : serverListenerLoop host mem s e = some s') :
    e.usesFile = false ∧ ∀ peer packet ok, e = .sendto peer packet ok → Heard tr peer := by
  cases loop_called hstep with
  | refusing reply ok hpoint =>
      simp only [ListenerState.Traced, hpoint] at h
      refine ⟨rfl, ?_⟩
      intro peer packet ok' he
      rw [← (Event.sendto.inj he).1]
      exact h
  | rejecting slot fd client reply ok hpoint =>
      simp only [ListenerState.Traced, hpoint] at h
      refine ⟨rfl, ?_⟩
      intro peer packet ok' he
      rw [← (Event.sendto.inj he).1]
      exact h
  | _ => exact ⟨rfl, nofun⟩

end Listener

/-! ## All threads -/

/-- All that the threads hold is accounted for. -/
structure ServerProcess.Traced (tr : List ProcessMove) (s : ServerProcess) : Prop where
  cleared : s.listener.state.Cleared
  listener : s.listener.state.Traced tr
  slots : ∀ i op, s.slots.opDataPtr i = some op → op.Traced tr
  tasks : ∀ (k : Nat) task, s.tasks[k]? = some task → ∀ state, task.state = some state →
    state.Suits ∧ ∀ op, state.operation = some op → op.Traced tr

section Process

variable {host : Host} {mem : ListenerMemory} {tr : List ProcessMove} {s s' : ServerProcess}
  {m : ProcessMove}

/-- A datagram a task takes in is one more that was heard. -/
theorem after_traced {op op' : OperationData} {k : Nat} {e : Event} (h : op.Traced tr)
    (hafter : op.After e op') : op'.Traced (tr ++ [.task k e]) := by
  constructor
  · rw [hafter.peer]
    cases e with
    | recvfrom size result =>
        cases result with
        | datagram source bytes => exact heard_last rfl
        | failed errno => exact h.peer.snoc _
    | _ => exact h.peer.snoc _
  · rw [hafter.operation, hafter.path]
    exact h.request.snoc _

theorem slots_traced (h : s.Traced tr) (hstep : serverProcess host mem s m = some s') (i : Nat)
    (op : OperationData) (hop : s'.slots.opDataPtr i = some op) : op.Traced tr := by
  by_cases hstores : s.stores m = some i
  · -- the listener stores the operation it has just been given
    cases m with
    | listenerCall =>
        cases listenerCall_eq hstep with
        | stored slot op' hpoint hspawn heq =>
            have hslot : slot = i := by
              simpa [ServerProcess.stores, hpoint, hspawn] using hstores
            rw [heq, hslot] at hop
            simp only [Function.update_self, Option.some.injEq] at hop
            subst hop
            have hlistener := h.listener
            simp only [ListenerState.Traced, hpoint] at hlistener
            exact hlistener
        | _ =>
            rename_i hpoint _ _
            simp [ServerProcess.stores, hpoint] at hstores
    | _ => simp [ServerProcess.stores] at hstores
  · rw [ServerProcess.opDataPtr_step hstep hstores] at hop
    exact h.slots i op hop

theorem traced_step (h : s.Traced tr) (hstep : serverProcess host mem s m = some s') :
    s'.Traced (tr ++ [m]) where
  cleared := cleared_process h.cleared hstep
  listener := by
    cases listener_moved hstep with
    | stayed heq =>
        rw [heq]
        exact h.listener.snoc m
    | looped e he hcall hloop =>
        subst he
        exact traced_loop h.cleared h.listener hloop
    | acquired slot hpoint heq =>
        have hlistener := h.listener.snoc m
        simp only [ListenerState.Traced, hpoint] at hlistener
        rw [heq]
        exact traced_onAcquired hlistener slot
    | cleared heq =>
        rw [heq]
        exact traced_clear
  slots := by
    intro i op hop
    exact (slots_traced h hstep i op hop).snoc m
  tasks := by
    intro k task' htask' state' hstate'
    rcases task_origin hstep htask' with ⟨task, htask, hmoved⟩ | ⟨slot, op, -, -, -, -, rfl⟩
    · have hbefore := h.tasks k task htask
      cases hmoved with
      | stayed =>
          obtain ⟨hsuits, hop⟩ := hbefore state' hstate'
          exact ⟨hsuits, fun op ho => (hop op ho).snoc m⟩
      | began hm hstate =>
          -- the operation comes from the slot
          obtain rfl := Option.some.inj hstate'
          cases hslot : s.slots.opDataPtr task.slot with
          | none => exact ⟨trivial, nofun⟩
          | some op =>
              refine ⟨trivial, ?_⟩
              intro op' hop'
              obtain rfl := Option.some.inj hop'
              exact (h.slots task.slot op hslot).snoc m
      | called e state state₁ hm hstate hnot hcall =>
          subst hm
          obtain rfl := Option.some.inj hstate'
          obtain ⟨hsuits, hop⟩ := hbefore state hstate
          have haccounted := TaskState.accounted_step hsuits hcall
          refine ⟨haccounted.suits, ?_⟩
          intro op' hop'
          obtain ⟨op, ho, hafter⟩ := haccounted.operation op' hop'
          exact after_traced (hop op ho) hafter
      | detached result hm hstate =>
          obtain ⟨hsuits, hop⟩ := hbefore state' hstate'
          exact ⟨hsuits, fun op ho => (hop op ho).snoc m⟩
      | releasing result next hm hstate hdetached =>
          obtain ⟨hsuits, hop⟩ := hbefore state' hstate'
          exact ⟨hsuits, fun op ho => (hop op ho).snoc m⟩
      | released result hm hstate hdetached =>
          obtain rfl := Option.some.inj hstate'
          exact ⟨trivial, nofun⟩
    · cases hstate'

theorem traced_of_run (hrun : Run (serverProcess host mem) ServerProcess.start tr s) :
    s.Traced tr := by
  refine hrun.traced (fun _ _ _ _ h hstep => traced_step h hstep) ?_
  exact ⟨rfl, trivial, nofun, by simp [ServerProcess.start]⟩

variable {pre post : List ProcessMove}

/-- The server sends nothing to an address it has not received anything from before. -/
theorem answers_only (hrun : Run (serverProcess host mem) .start (pre ++ m :: post) s)
    {peer : SockAddr} (hdestination : m.destination = some peer) :
    ∃ m' ∈ pre, m'.source = some peer := by
  obtain ⟨t, t', hpre, hstep, -⟩ := hrun.step_at
  have htraced := traced_of_run hpre
  cases m with
  | listener e =>
      cases e with
      | sendto other packet ok =>
          obtain rfl := Option.some.inj hdestination
          obtain ⟨-, state, hloop, -⟩ := listener_eq hstep
          exact (loop_sends htraced.listener hloop).2 _ packet ok rfl
      | _ => cases hdestination
  | task k e =>
      cases e with
      | sendto other packet ok =>
          obtain rfl := Option.some.inj hdestination
          obtain ⟨task, state, state', htask, hstate, -, hcall, -⟩ := task_eq hstep
          obtain ⟨hsuits, hop⟩ := htraced.tasks k task htask state hstate
          obtain ⟨op, ho, hpeer⟩ :=
            (TaskState.accounted_step hsuits hcall).sends _ packet ok rfl
          rw [hpeer]
          exact (hop op ho).peer
      | _ => cases hdestination
  | _ => cases hdestination

/-- The server looks for, opens, reads, writes or removes a file only where a request for it
arrived at port 69 before: as the request's operation may, and on the file its name stands
for. -/
theorem files_on_request (hrun : Run (serverProcess host mem) .start (pre ++ m :: post) s)
    {e : Event} (hmade : m.call = some e) (huses : e.usesFile = true) :
    ∃ source bytes operation,
      ProcessMove.listener (.recvfrom requestBufferSize (.datagram source bytes)) ∈ pre ∧
        requestOperation (opcodeOf bytes) = some operation ∧ operation.permits e = true ∧
        ∀ path, e.path = some path →
          path = serverStoragePath ++ (requestField 0 bytes).take tftpFilenameMax := by
  obtain ⟨t, t', hpre, hstep, -⟩ := hrun.step_at
  have htraced := traced_of_run hpre
  cases m with
  | listener e' =>
      obtain rfl := Option.some.inj hmade
      obtain ⟨-, state, hloop, -⟩ := listener_eq hstep
      rw [(loop_sends htraced.listener hloop).1] at huses
      cases huses
  | task k e' =>
      obtain rfl := Option.some.inj hmade
      obtain ⟨task, state, state', htask, hstate, -, hstart, -⟩ := task_eq hstep
      obtain ⟨hsuits, hop⟩ := htraced.tasks k task htask state hstate
      obtain ⟨op, ho, hpermits, hpath⟩ :=
        (TaskState.accounted_step hsuits hstart).files huses
      obtain ⟨source, bytes, harrived, hoperation, hopPath⟩ := (hop op ho).request
      refine ⟨source, bytes, op.operationId, harrived, hoperation, hpermits, ?_⟩
      intro path hpath'
      rw [hpath path hpath', hopPath]
      rfl
  | _ => cases hmade

end Process

section FixedRuns

/-- The request for the deletion of `a`, and its task up to the look at the flag. -/
def deletionHistory : List ProcessMove :=
  requestMoves (localhost 50001) 0 4 40001 ++ [.begin 0, .task 0 (.poll false)]

set_option maxRecDepth 4000 in
theorem answers_only_ack :
    ∃ s, Run (serverProcess littleHost .strict) .start
        (deletionHistory ++ .task 0 (.sendto (localhost 50001) (ackPacket 0) true) :: []) s ∧
      ∃ m' ∈ deletionHistory, m'.source = some (localhost 50001) := by
  obtain ⟨s, hrun, -⟩ : ∃ s, Run (serverProcess littleHost .strict) .start
      (deletionHistory ++ .task 0 (.sendto (localhost 50001) (ackPacket 0) true) :: []) s ∧
      True := exists_run_of_exec (by decide)
  exact ⟨s, hrun, answers_only hrun rfl⟩

set_option maxRecDepth 4000 in
theorem files_on_request_removal :
    ∃ s, Run (serverProcess littleHost .strict) .start
        (deletionHistory ++ .task 0 (.sendto (localhost 50001) (ackPacket 0) true) ::
          [.task 0 (.fopen (ascii "storage/a") .read none), .task 0 (.fclose 0)] ++
          .task 0 (.remove (ascii "storage/a") none) :: []) s ∧
      ∃ source bytes operation,
        ProcessMove.listener (.recvfrom requestBufferSize (.datagram source bytes)) ∈
            deletionHistory ++ .task 0 (.sendto (localhost 50001) (ackPacket 0) true) ::
              [.task 0 (.fopen (ascii "storage/a") .read none), .task 0 (.fclose 0)] ∧
          requestOperation (opcodeOf bytes) = some operation ∧
          operation.permits (.remove (ascii "storage/a") none) = true := by
  obtain ⟨s, hrun, -⟩ : ∃ s, Run (serverProcess littleHost .strict) .start
      (deletionHistory ++ .task 0 (.sendto (localhost 50001) (ackPacket 0) true) ::
        [.task 0 (.fopen (ascii "storage/a") .read none), .task 0 (.fclose 0)] ++
        .task 0 (.remove (ascii "storage/a") none) :: []) s ∧ True :=
    exists_run_of_exec (by decide)
  obtain ⟨source, bytes, operation, harrived, hoperation, hpermits, -⟩ :=
    files_on_request hrun rfl rfl
  exact ⟨s, hrun, source, bytes, operation, harrived, hoperation, hpermits⟩

end FixedRuns

end Stftpu
