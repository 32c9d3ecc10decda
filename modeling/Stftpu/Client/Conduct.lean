import Stftpu.Conversation

/-!
# What the client does

A client sends its request to the port that requests go to, and from then on answers: each
further packet goes to the source of the last datagram, and before there is one nothing is
sent.  Which packets these are, and what is done to which file, is the operation's.

* `ClientState.Conducted` — what holds of a control point, given the trace that led to it.
* `ClientState.conducted_step` — the case analysis behind all of it.
* `client_conduct` — over the runs of the client.
-/

namespace Stftpu

open Library

/-- The packets a client sends for an operation. -/
def OperationId.vocabulary : OperationId → List TFTPOpcode
  | .receive => [.rrq, .ack, .error]
  | .send => [.wrq, .data, .error]
  | .requestDelete => [.drq]
  | _ => []

/-! ## Its ERROR packets -/

namespace ClientState

variable {host : Host} {c c' : ClientState} {e : Event} {op : OperationData}

def Guarded : ClientState → Prop
  | .requesting _ packet => opcodeOf packet ≠ TFTPOpcode.error.code
  | .filling s => s.Guarded
  | .receiving _ s => s.Guarded
  | .transmitting _ s => s.Guarded
  | _ => True

/-- Nothing is left but to close the file. -/
def Parted : ClientState → Prop
  | .closing _ _ => True
  | .returned _ _ => True
  | .exited => True
  | .fault => True
  | _ => False

theorem Parted.guarded (h : c.Parted) : c.Guarded := by
  cases c <;> trivial

theorem parted_freeTransferData (fileOpen outcome : Bool) :
    (freeTransferData op fileOpen outcome).Parted := by
  unfold freeTransferData
  split <;> trivial

theorem parted_afterFill {s : FillState} (h : s.point = .failed) : (afterFill s).Parted := by
  simp only [afterFill, h]
  split
  · exact parted_freeTransferData _ _
  · trivial

theorem parted_afterReceive {b : BlockSize} {s : ReceiveState b} {exit : Exit}
    (h : s.point = .returned exit) : (afterReceive s).Parted := by
  simp only [afterReceive, h]
  exact parted_freeTransferData _ _

theorem parted_afterTransmit {b : BlockSize} {s : TransmitState b} {exit : Exit}
    (h : s.point = .returned exit) : (afterTransmit s).Parted := by
  simp only [afterTransmit, h]
  exact parted_freeTransferData _ _

theorem guarded_start (op : OperationData) : (start op).Guarded := by
  unfold start
  split
  · trivial
  · trivial
  · rename_i packet hpacket
    obtain ⟨opcode, hop, hcode⟩ := sendRequestPacket_opcode hpacket
    show opcodeOf packet ≠ _
    rw [hcode]
    cases hid : op.operationId <;> simp [requestOpcode, hid] at hop <;> subst hop <;> decide

theorem guarded_acknowledged : (acknowledged op).Guarded := by
  unfold acknowledged
  split <;> trivial

theorem guarded_afterFill {s : FillState} (h : s.Guarded) : (afterFill s).Guarded := by
  cases hpoint : s.point with
  | failed => exact (parted_afterFill hpoint).guarded
  | ready b tx =>
      simp only [afterFill, hpoint]
      split
      · exact ReceiveState.guarded_of_sending rfl
      · exact ⟨TransmitState.forwards_of_sending rfl, trivial⟩
  | _ =>
      simp only [afterFill, hpoint]
      exact h

theorem guarded_step (h : c.Guarded) (hstep : clientStartOperation host c e = some c') :
    c'.Guarded := by
  cases client_called hstep with
  | requesting op packet ok =>
      unfold onRequested
      split
      · split
        · exact guarded_acknowledged
        · trivial
      · trivial
  | awaitingRequest s s' hs =>
      unfold afterRequest
      split
      · exact guarded_acknowledged
      · trivial
      · trivial
  | awaitingDeletion s s' hs =>
      unfold afterDeletion
      split <;> trivial
  | allocating op block =>
      unfold onAllocated
      split
      · exact guarded_afterFill (FillState.guarded_start _ _ _)
      · exact guarded_afterFill (FillState.guarded_start _ _ _)
      · trivial
  | filling s s' hs => exact guarded_afterFill (FillState.guarded_step hs)
  | receiving b s s' hs =>
      unfold afterReceive
      split
      · exact (parted_freeTransferData _ _).guarded
      · trivial
      · exact ReceiveState.guarded_step hs
  | transmitting b s s' hs =>
      unfold afterTransmit
      split
      · exact (parted_freeTransferData _ _).guarded
      · exact TransmitState.guarded_step h hs
  | closing op outcome => trivial

/-- A client that waits for an acknowledgement says nothing. -/
theorem lastWord_await {P : Prop} {s s' : AwaitState}
    (hstep : tftpAwaitAcknowledgement host s e = some s') : LastWord e P := by
  apply lastWord_of_ne
  intro peer packet ok he
  rw [he, await_sendto] at hstep
  cases hstep

theorem lastWord_step (h : c.Guarded) (hstep : clientStartOperation host c e = some c') :
    LastWord e c'.Parted := by
  cases client_called hstep with
  | requesting op packet ok => exact lastWord_of_opcode h
  | filling s s' hs => exact (FillState.lastWord_step h hs).mono parted_afterFill
  | receiving b s s' hs => exact (ReceiveState.lastWord_step h hs).mono parted_afterReceive
  | transmitting b s s' hs =>
      exact (TransmitState.lastWord_step h hs).mono parted_afterTransmit
  | awaitingRequest s s' hs => exact lastWord_await hs
  | awaitingDeletion s s' hs => exact lastWord_await hs
  | allocating op block => exact lastWord_of_ne (by simp)
  | closing op outcome => exact lastWord_of_ne (by simp)

theorem parted_step (h : c.Parted) (hstep : clientStartOperation host c e = some c') :
    c'.Parted ∧ e.usesSocket = false := by
  cases client_called hstep with
  | closing op outcome => exact ⟨trivial, rfl⟩
  | _ => cases h

end ClientState


/-! ## Its operation -/

namespace ClientState

variable {host : Host} {c c' : ClientState} {e : Event} {op op' : OperationData}

def operation : ClientState → Option OperationData
  | .requesting op _ => some op
  | .awaitingRequest s => some s.op
  | .awaitingDeletion s => some s.op
  | .allocating op => some op
  | .filling s => some s.op
  | .receiving _ s => some s.op
  | .transmitting _ s => some s.op
  | .closing op _ => some op
  | .returned op _ => some op
  | .exited => none
  | .fault => none

/-- The control point is one of the operation's. -/
def Suits : ClientState → Prop
  | .requesting op packet =>
      ∃ opcode, requestOpcode op.operationId = some opcode ∧ opcodeOf packet = opcode.code
  | .awaitingRequest s => s.op.operationId = .send ∨ s.op.operationId = .requestDelete
  | .awaitingDeletion s => s.op.operationId = .requestDelete
  | .allocating op => op.operationId = .receive ∨ op.operationId = .send
  | .filling s => s.Suits
  | .receiving _ s => s.op.operationId = .receive
  | .transmitting _ s => s.op.operationId = .send
  | _ => True

/-- Where a client may be that no datagram has reached. -/
def Unheard : ClientState → Prop
  | .awaitingDeletion _ => False
  | .allocating op => op.operationId = .receive
  | .filling s => s.receiver = true
  | .receiving _ s =>
      match s.point with
      | .writing _ => False
      | .acknowledging => False
      | _ => True
  | .transmitting _ _ => False
  | _ => True

theorem operation_acknowledged : (acknowledged op).operation = some op := by
  unfold acknowledged
  split <;> rfl

theorem operation_freeTransferData {fileOpen outcome : Bool} :
    (freeTransferData op fileOpen outcome).operation = some op := by
  unfold freeTransferData
  split <;> rfl

theorem operation_afterFill {s : FillState} (h : (afterFill s).operation = some op) :
    op = s.op := by
  unfold afterFill at h
  split at h
  · split at h
    · exact (Option.some.inj h).symm
    · exact (Option.some.inj h).symm
  · split at h
    · rw [operation_freeTransferData] at h
      exact (Option.some.inj h).symm
    · cases h
  · exact (Option.some.inj h).symm

theorem operation_onRequested {ok : Bool} (h : (onRequested op ok).operation = some op') :
    op' = op := by
  unfold onRequested at h
  split at h
  · split at h
    · rw [operation_acknowledged] at h
      exact (Option.some.inj h).symm
    · exact (Option.some.inj h).symm
  · exact (Option.some.inj h).symm

theorem operation_afterRequest {s : AwaitState} (h : (afterRequest s).operation = some op) :
    op = s.op := by
  unfold afterRequest at h
  split at h
  · rw [operation_acknowledged] at h
    exact (Option.some.inj h).symm
  · exact (Option.some.inj h).symm
  · exact (Option.some.inj h).symm

theorem operation_afterDeletion {s : AwaitState} (h : (afterDeletion s).operation = some op) :
    op = s.op := by
  unfold afterDeletion at h
  split at h
  · exact (Option.some.inj h).symm
  · exact (Option.some.inj h).symm

theorem operation_onAllocated {allocated : Bool}
    (h : (onAllocated op allocated).operation = some op') : op' = op := by
  unfold onAllocated at h
  split at h
  · rw [operation_afterFill h, FillState.start_op]
  · rw [operation_afterFill h, FillState.start_op]
  · cases h

theorem operation_afterReceive {b : BlockSize} {s : ReceiveState b}
    (h : (afterReceive s).operation = some op) : op = s.op := by
  unfold afterReceive at h
  split at h
  · rw [operation_freeTransferData] at h
    exact (Option.some.inj h).symm
  · cases h
  · exact (Option.some.inj h).symm

theorem operation_afterTransmit {b : BlockSize} {s : TransmitState b}
    (h : (afterTransmit s).operation = some op) : op = s.op := by
  unfold afterTransmit at h
  split at h
  · rw [operation_freeTransferData] at h
    exact (Option.some.inj h).symm
  · exact (Option.some.inj h).symm

theorem suits_freeTransferData (fileOpen outcome : Bool) :
    (freeTransferData op fileOpen outcome).Suits := by
  unfold freeTransferData
  split <;> trivial

theorem suits_acknowledged (h : op.operationId = .receive ∨ op.operationId = .send ∨
    op.operationId = .requestDelete) : (acknowledged op).Suits := by
  unfold acknowledged
  split
  · rename_i hdelete
    exact hdelete
  · rename_i hnot
    rcases h with hreceive | hsend | hdelete
    · exact Or.inl hreceive
    · exact Or.inr hsend
    · exact absurd hdelete hnot

theorem suits_afterFill {s : FillState} (h : s.Suits) : (afterFill s).Suits := by
  have hop := h.operation
  unfold afterFill
  split
  · split
    · rename_i hreceiver
      rw [hreceiver] at hop
      exact hop
    · rename_i hreceiver
      rw [if_neg hreceiver] at hop
      exact hop
  · split
    · exact suits_freeTransferData _ _
    · trivial
  · exact h

theorem suits_onAllocated (allocated : Bool) : (onAllocated op allocated).Suits := by
  unfold onAllocated
  split
  · rename_i hreceive
    have hsuits := FillState.suits_start allocated (Or.inl hreceive)
    simp only [hreceive, decide_true] at hsuits
    exact suits_afterFill hsuits
  · rename_i hsend
    have hsuits := FillState.suits_start allocated (Or.inr hsend)
    simp only [hsend, reduceCtorEq, decide_false] at hsuits
    exact suits_afterFill hsuits
  · trivial

/-- A request that is built is one of the operations that have one. -/
theorem operation_of_request {opcode : TFTPOpcode}
    (h : requestOpcode op.operationId = some opcode) :
    (op.operationId = .receive ∨ op.operationId = .send ∨ op.operationId = .requestDelete) ∧
      opcode ∈ op.operationId.vocabulary := by
  cases hid : op.operationId <;> simp [requestOpcode, hid] at h <;> subst h <;>
    simp [OperationId.vocabulary]

theorem suits_start (op : OperationData) : (start op).Suits := by
  unfold start
  split
  · trivial
  · trivial
  · rename_i packet hpacket
    exact sendRequestPacket_opcode hpacket

/-! ## Its steps -/

/-- What a step of the client does to its operation, to files and to its peer. -/
structure Conducted (c : ClientState) (e : Event) (c' : ClientState) : Prop where
  suits : c'.Suits
  operation : ∀ op', c'.operation = some op' →
    ∃ op, c.operation = some op ∧ op.After e op'
  files : e.usesFile = true → ∃ op, c.operation = some op ∧
    op.operationId.permits e = true ∧ (∀ path error, e ≠ .remove path error) ∧
      ∀ path, e.path = some path → path = op.path
  sends : ∀ peer packet ok, e = .sendto peer packet ok → ∃ op, c.operation = some op ∧
    peer = op.peerAddress ∧ ∃ opcode ∈ op.operationId.vocabulary, opcodeOf packet = opcode.code

/-- A step that uses no file and sends nothing. -/
theorem Conducted.quiet (hsuits : c'.Suits)
    (hoperation : ∀ op', c'.operation = some op' → ∃ op, c.operation = some op ∧ op.After e op')
    (hfiles : e.usesFile = false) (hsends : ∀ peer packet ok, e ≠ .sendto peer packet ok) :
    Conducted c e c' := by
  refine ⟨hsuits, hoperation, ?_, ?_⟩
  · intro huses
    rw [hfiles] at huses
    cases huses
  · intro peer packet ok he
    exact absurd he (hsends peer packet ok)

/-- Waiting changes the peer at most. -/
theorem await_after {s s' : AwaitState} (hstep : tftpAwaitAcknowledgement host s e = some s') :
    s.op.After e s'.op ∧ e.usesFile = false ∧ ∀ peer packet ok, e ≠ .sendto peer packet ok := by
  have hloop : ∀ s : AwaitState, s.loopTest.op = s.op := by
    intro s
    rcases s.loopTest_cases with ⟨-, heq⟩ | heq
    · rw [heq]
    · rw [heq]
  cases hpoint : s.point with
  | allocating =>
      obtain ⟨block, packet, rfl, rfl⟩ := await_allocating hpoint hstep
      exact ⟨.of_eq (hloop _) fun _ => rfl, rfl, by simp⟩
  | awaiting =>
      obtain ⟨result, rfl, rfl⟩ := await_awaiting hpoint hstep
      refine ⟨?_, rfl, by simp⟩
      cases result with
      | failed errno => exact .of_eq (hloop _) fun _ => rfl
      | datagram source bytes =>
          simp only [AwaitState.onReceived]
          split
          · rw [hloop]
            exact ⟨rfl, rfl, rfl⟩
          · split
            · exact ⟨rfl, rfl, rfl⟩
            · split
              · exact ⟨rfl, rfl, rfl⟩
              · rw [hloop]
                exact ⟨rfl, rfl, rfl⟩
  | returned exit => simp [tftpAwaitAcknowledgement, hpoint] at hstep

/-- A transfer being prepared removes nothing. -/
theorem fill_files {s s' : FillState} (hsuits : s.Suits)
    (hstep : tftpFillTransferData host s e = some s') (huses : e.usesFile = true) :
    s.op.operationId.permits e = true ∧ (∀ path error, e ≠ .remove path error) ∧
      ∀ path, e.path = some path → path = s.op.path := by
  obtain ⟨hpermits, hpath⟩ := FillState.files_step hsuits hstep huses
  refine ⟨hpermits, ?_, hpath⟩
  intro path error he
  rw [he, fill_remove] at hstep
  cases hstep

theorem fill_says {s s' : FillState} (hsuits : s.Suits)
    (hstep : tftpFillTransferData host s e = some s') {peer : SockAddr} {packet : List UInt8}
    {ok : Bool} (he : e = .sendto peer packet ok) :
    peer = s.op.peerAddress ∧
      ∃ opcode ∈ s.op.operationId.vocabulary, opcodeOf packet = opcode.code := by
  subst he
  refine ⟨FillState.sends_step hstep rfl, .error, ?_, fill_sent hstep⟩
  rw [hsuits.operation]
  split <;> simp [OperationId.vocabulary]

theorem receive_says {b : BlockSize} {s s' : ReceiveState b}
    (hop : s.op.operationId = .receive) (hstep : tftpReceiveFile host s e = some s')
    {peer : SockAddr} {packet : List UInt8} {ok : Bool} (he : e = .sendto peer packet ok) :
    peer = s.op.peerAddress ∧
      ∃ opcode ∈ s.op.operationId.vocabulary, opcodeOf packet = opcode.code := by
  subst he
  refine ⟨(receive_sendto hstep).1, ?_⟩
  rw [hop]
  rcases receive_sent hstep with hack | herror
  · exact ⟨.ack, by simp [OperationId.vocabulary], hack⟩
  · exact ⟨.error, by simp [OperationId.vocabulary], herror⟩

theorem transmit_says {b : BlockSize} {s s' : TransmitState b} (hframed : s.Framed)
    (hop : s.op.operationId = .send) (hstep : tftpTransmitFile host s e = some s')
    {peer : SockAddr} {packet : List UInt8} {ok : Bool} (he : e = .sendto peer packet ok) :
    peer = s.op.peerAddress ∧
      ∃ opcode ∈ s.op.operationId.vocabulary, opcodeOf packet = opcode.code := by
  subst he
  rw [hop]
  obtain ⟨hpeer, ⟨hpoint, rfl⟩ | ⟨reply, hpoint, rfl⟩⟩ := transmit_sendto hstep
  · simp only [TransmitState.Framed, hpoint] at hframed
    refine ⟨hpeer, .data, by simp [OperationId.vocabulary], ?_⟩
    rw [TransmitState.outgoing_eq hframed.1, opcodeOf_dataPacket]
    rfl
  · exact ⟨hpeer, .error, by simp [OperationId.vocabulary], opcodeOf_errorPacket reply⟩

theorem conducted_step (h : c.Suits) (hguarded : c.Guarded)
    (hstep : clientStartOperation host c e = some c') : Conducted c e c' := by
  cases client_called hstep with
  | requesting op packet ok =>
      obtain ⟨opcode, hrequest, hopcode⟩ := h
      obtain ⟨hop, hmem⟩ := operation_of_request hrequest
      refine ⟨?_, ?_, by simp [Event.usesFile], ?_⟩
      · unfold onRequested
        split
        · split
          · exact suits_acknowledged hop
          · rename_i hnot
            exact hop.resolve_left hnot
        · trivial
      · intro op' hop'
        exact ⟨op, rfl, .of_eq (operation_onRequested hop') fun _ => rfl⟩
      · intro peer sent ok' he
        obtain ⟨rfl, rfl, -⟩ := Event.sendto.inj he
        exact ⟨op, rfl, rfl, opcode, hmem, hopcode⟩
  | awaitingRequest s s' hs =>
      have hop : s.op.operationId = .send ∨ s.op.operationId = .requestDelete := h
      obtain ⟨hafter, hfile, hquiet⟩ := await_after hs
      apply Conducted.quiet _ _ hfile hquiet
      · unfold afterRequest
        split
        · apply suits_acknowledged
          rw [hafter.operation]
          exact Or.inr hop
        · trivial
        · show s'.op.operationId = .send ∨ s'.op.operationId = .requestDelete
          rw [hafter.operation]
          exact hop
      · intro op' hop'
        rw [operation_afterRequest hop']
        exact ⟨s.op, rfl, hafter⟩
  | awaitingDeletion s s' hs =>
      have hop : s.op.operationId = .requestDelete := h
      obtain ⟨hafter, hfile, hquiet⟩ := await_after hs
      apply Conducted.quiet _ _ hfile hquiet
      · unfold afterDeletion
        split
        · trivial
        · exact hafter.operation.trans hop
      · intro op' hop'
        rw [operation_afterDeletion hop']
        exact ⟨s.op, rfl, hafter⟩
  | allocating op block =>
      apply Conducted.quiet (suits_onAllocated block.isSome) _ rfl (by simp)
      intro op' hop'
      exact ⟨op, rfl, .of_eq (operation_onAllocated hop') fun _ => rfl⟩
  | filling s s' hs =>
      refine ⟨suits_afterFill (FillState.suits_step h hs), ?_, ?_, ?_⟩
      · intro op' hop'
        rw [operation_afterFill hop']
        exact ⟨s.op, rfl, (fill_after hs).1⟩
      · intro huses
        exact ⟨s.op, rfl, fill_files h hs huses⟩
      · intro peer packet ok he
        exact ⟨s.op, rfl, fill_says h hs he⟩
  | receiving b s s' hs =>
      have hop : s.op.operationId = .receive := h
      have hafter := receive_after hs
      refine ⟨?_, ?_, ?_, ?_⟩
      · unfold afterReceive
        split
        · exact suits_freeTransferData _ _
        · trivial
        · exact hafter.operation.trans hop
      · intro op' hop'
        rw [operation_afterReceive hop']
        exact ⟨s.op, rfl, hafter⟩
      · intro huses
        obtain ⟨bytes, count, kept, rfl⟩ := receive_files hs huses
        exact ⟨s.op, rfl, by rw [hop]; rfl, by simp, by simp [Event.path]⟩
      · intro peer packet ok he
        exact ⟨s.op, rfl, receive_says hop hs he⟩
  | transmitting b s s' hs =>
      have hop : s.op.operationId = .send := h
      have hafter := transmit_after hs
      refine ⟨?_, ?_, ?_, ?_⟩
      · unfold afterTransmit
        split
        · exact suits_freeTransferData _ _
        · exact hafter.operation.trans hop
      · intro op' hop'
        rw [operation_afterTransmit hop']
        exact ⟨s.op, rfl, hafter⟩
      · intro huses
        obtain ⟨size, bytes, eof, rfl⟩ := transmit_files hs huses
        exact ⟨s.op, rfl, by rw [hop]; rfl, by simp, by simp [Event.path]⟩
      · intro peer packet ok he
        exact ⟨s.op, rfl, transmit_says hguarded.framed hop hs he⟩
  | closing op outcome =>
      apply Conducted.quiet _ _ rfl (by simp)
      · trivial
      · intro op' hop'
        exact ⟨op, rfl, .of_eq (Option.some.inj hop').symm fun _ => rfl⟩

/-! ## Before the first datagram -/

/-- No datagram is brought. -/
def Silent (e : Event) : Prop :=
  ∀ size source bytes, e ≠ .recvfrom size (.datagram source bytes)

theorem unheard_freeTransferData (fileOpen outcome : Bool) :
    (freeTransferData op fileOpen outcome).Unheard := by
  unfold freeTransferData
  split <;> trivial

theorem unheard_afterFill {s : FillState} (h : s.receiver = true) : (afterFill s).Unheard := by
  unfold afterFill
  split
  · rw [if_pos h]
    trivial
  · split
    · exact unheard_freeTransferData _ _
    · trivial
  · exact h

theorem unheard_afterReceive_fail {b : BlockSize} {s : ReceiveState b} (reply : ErrorReply) :
    (afterReceive (s.fail reply)).Unheard := by
  unfold afterReceive
  rcases s.fail_point reply with hfailing | hreturned
  · simp [hfailing, Unheard]
  · simp only [hreturned]
    exact unheard_freeTransferData _ _

/-- No acknowledgement without a datagram. -/
theorem await_silent {s s' : AwaitState} (hsilent : Silent e)
    (hstep : tftpAwaitAcknowledgement host s e = some s') : s'.point ≠ .returned .success := by
  have hloop : ∀ s : AwaitState, s.loopTest.point ≠ .returned .success := by
    intro s
    rcases s.loopTest_cases with ⟨-, heq⟩ | heq
    · simp [heq]
    · simp [heq]
  cases hpoint : s.point with
  | allocating =>
      obtain ⟨block, packet, -, rfl⟩ := await_allocating hpoint hstep
      exact hloop _
  | awaiting =>
      obtain ⟨result, rfl, rfl⟩ := await_awaiting hpoint hstep
      cases result with
      | failed errno => exact hloop s
      | datagram source bytes => exact absurd rfl (hsilent _ source bytes)
  | returned exit => simp [tftpAwaitAcknowledgement, hpoint] at hstep

theorem unheard_step (h : c.Unheard) (hsilent : Silent e)
    (hstep : clientStartOperation host c e = some c') : c'.Unheard := by
  cases client_called hstep with
  | requesting op packet ok =>
      unfold onRequested
      split
      · split
        · rename_i hreceive
          simp [acknowledged, hreceive, Unheard]
        · trivial
      · trivial
  | awaitingRequest s s' hs =>
      have hwaits := await_silent hsilent hs
      unfold afterRequest
      split
      · rename_i hpoint
        exact absurd hpoint hwaits
      · trivial
      · trivial
  | allocating op block =>
      have hreceive : op.operationId = .receive := h
      simp only [onAllocated, hreceive]
      apply unheard_afterFill
      cases block with
      | some block => rfl
      | none => exact FillState.fail_receiver _
  | filling s s' hs => exact unheard_afterFill ((fill_after hs).2.trans h)
  | receiving b s s' hs =>
      cases hpoint : s.point with
      | entry =>
          obtain ⟨set, -, rfl⟩ := receive_entry hpoint hs
          cases set with
          | true => exact unheard_afterReceive_fail _
          | false => trivial
      | nextBlock =>
          obtain ⟨set, -, rfl⟩ := receive_nextBlock hpoint hs
          cases set with
          | true => exact unheard_afterReceive_fail _
          | false => trivial
      | awaiting =>
          obtain ⟨result, rfl, rfl⟩ := receive_awaiting hpoint hs
          cases result with
          | datagram source bytes => exact absurd rfl (hsilent _ source bytes)
          | failed errno =>
              simp only [ReceiveState.onPacket, ReceiveState.missed]
              split
              · trivial
              · exact unheard_afterReceive_fail _
      | failing reply =>
          obtain ⟨ok, -, rfl⟩ := receive_failing hpoint hs
          exact unheard_freeTransferData _ _
      | writing payload => simp [Unheard, hpoint] at h
      | acknowledging => simp [Unheard, hpoint] at h
      | returned exit =>
          rw [receive_returned hpoint] at hs
          cases hs
      | fault =>
          rw [receive_fault hpoint] at hs
          cases hs
  | awaitingDeletion s s' hs => cases h
  | transmitting b s s' hs => cases h
  | closing op outcome => trivial

/-- All that such a client sends is its request. -/
theorem unheard_sends (h : c.Unheard) (hguarded : c.Guarded)
    (hport : ∀ op, c.operation = some op → op.peerAddress.port = 69) {peer : SockAddr}
    {packet : List UInt8} {ok : Bool}
    (hstep : clientStartOperation host c (.sendto peer packet ok) = some c') :
    ∃ op packet, c = .requesting op packet := by
  have hsilenced : ∀ {op : OperationData}, c.operation = some op → op.peerAddress = peer →
      ¬ forwardsErrors peer = true := by
    intro op hop hpeer hforwards
    rw [← hpeer, forwardsErrors, hport op hop] at hforwards
    cases hforwards
  have hlast := lastWord_step hguarded hstep peer packet ok rfl
  cases hcalled : c with
  | requesting op request => exact ⟨op, request, rfl⟩
  | awaitingRequest s =>
      subst hcalled
      simp [clientStartOperation, await_sendto] at hstep
  | awaitingDeletion s => simp [hcalled, Unheard] at h
  | allocating op =>
      subst hcalled
      cases hstep
  | filling s =>
      subst hcalled
      obtain ⟨s', hs, -⟩ := Option.map_eq_some_iff.mp hstep
      exact absurd (hlast (fill_sent hs)).1 (hsilenced rfl (FillState.sends_step hs rfl).symm)
  | receiving b s =>
      subst hcalled
      obtain ⟨s', hs, -⟩ := Option.map_eq_some_iff.mp hstep
      obtain ⟨hpeer, ⟨hpoint, rfl⟩ | ⟨reply, -, rfl⟩⟩ := receive_sendto hs
      · simp [Unheard, hpoint] at h
      · exact absurd (hlast (opcodeOf_errorPacket reply)).1 (hsilenced rfl hpeer.symm)
  | transmitting b s => simp [hcalled, Unheard] at h
  | _ =>
      subst hcalled
      cases hstep

/-- A client that starts with a packet to send has built its request. -/
theorem request_of_start {op₁ : OperationData} {packet : List UInt8}
    (h : start op = .requesting op₁ packet) : sendRequestPacket op = some (.built packet) := by
  unfold start at h
  split at h
  · cases h
  · cases h
  · rename_i built hbuilt
    obtain ⟨-, rfl⟩ := ClientState.requesting.inj h
    exact hbuilt

/-! ## Runs -/

/-- The request has been made. -/
def Asked : ClientState → Bool
  | .requesting _ _ => false
  | .exited => false
  | _ => true

theorem asked_acknowledged : (acknowledged op).Asked = true := by
  unfold acknowledged
  split <;> rfl

theorem asked_freeTransferData (fileOpen outcome : Bool) :
    (freeTransferData op fileOpen outcome).Asked = true := by
  unfold freeTransferData
  split <;> rfl

theorem asked_afterFill (s : FillState) : (afterFill s).Asked = true := by
  unfold afterFill
  split
  · split <;> rfl
  · split
    · exact asked_freeTransferData _ _
    · rfl
  · rfl

theorem asked_step (hstep : clientStartOperation host c e = some c') : c'.Asked = true := by
  cases client_called hstep with
  | requesting op packet ok =>
      unfold onRequested
      split
      · split
        · exact asked_acknowledged
        · rfl
      · rfl
  | awaitingRequest s s' hs =>
      unfold afterRequest
      split
      · exact asked_acknowledged
      · rfl
      · rfl
  | awaitingDeletion s s' hs =>
      unfold afterDeletion
      split <;> rfl
  | allocating op block =>
      unfold onAllocated
      split
      · exact asked_afterFill _
      · exact asked_afterFill _
      · rfl
  | filling s s' hs => exact asked_afterFill s'
  | receiving b s s' hs =>
      unfold afterReceive
      split
      · exact asked_freeTransferData _ _
      · rfl
      · rfl
  | transmitting b s s' hs =>
      unfold afterTransmit
      split
      · exact asked_freeTransferData _ _
      · rfl
  | closing op outcome => rfl

/-- A datagram from there was received. -/
def Met (tr : List Event) (peer : SockAddr) : Prop :=
  ∃ size bytes, Event.recvfrom size (.datagram peer bytes) ∈ tr

/-- What holds of a control point of an operation, given the trace that led to it. -/
structure Conversing (op : OperationData) (tr : List Event) (c : ClientState) : Prop where
  guarded : c.Guarded
  suits : c.Suits
  asked : c.Asked = false → tr = []
  operation : ∀ op', c.operation = some op' → op'.operationId = op.operationId ∧
    op'.path = op.path ∧ op'.peerAddress = lastSource op.peerAddress tr
  heard : Met tr (lastSource op.peerAddress tr) ∨
    c.Unheard ∧ lastSource op.peerAddress tr = op.peerAddress

theorem conversing_step {tr : List Event} (h : Conversing op tr c)
    (hstep : clientStartOperation host c e = some c') : Conversing op (tr ++ [e]) c' := by
  have hconducted := conducted_step h.suits h.guarded hstep
  refine ⟨guarded_step h.guarded hstep, hconducted.suits, ?_, ?_, ?_⟩
  · intro hnot
    rw [asked_step hstep] at hnot
    cases hnot
  · intro op' hop'
    obtain ⟨op₁, hop₁, hafter⟩ := hconducted.operation op' hop'
    obtain ⟨hid, hpath, hpeer⟩ := h.operation op₁ hop₁
    refine ⟨hafter.operation.trans hid, hafter.path.trans hpath, ?_⟩
    rw [lastSource_snoc, hafter.peer, hpeer]
  · rw [lastSource_snoc]
    by_cases hsilent : Silent e
    · have hsame : ∀ peer, e.sourceAfter peer = peer := by
        intro peer
        unfold Event.sourceAfter
        split
        · rename_i size source bytes
          exact absurd rfl (hsilent size source bytes)
        · rfl
      rw [hsame]
      rcases h.heard with ⟨size, bytes, hmem⟩ | ⟨hunheard, hpeer⟩
      · exact Or.inl ⟨size, bytes, List.mem_append_left _ hmem⟩
      · exact Or.inr ⟨unheard_step hunheard hsilent hstep, hpeer⟩
    · -- the datagram is the last that was received
      unfold Silent at hsilent
      push Not at hsilent
      obtain ⟨size, source, bytes, rfl⟩ := hsilent
      exact Or.inl ⟨size, bytes, List.mem_append_right _ (List.mem_singleton_self _)⟩

theorem conversing_start (op : OperationData) : Conversing op [] (start op) := by
  refine ⟨guarded_start op, suits_start op, fun _ => rfl, ?_, Or.inr ⟨?_, rfl⟩⟩
  · intro op' hop'
    unfold start at hop'
    split at hop'
    · cases hop'
    · cases hop'
    · obtain rfl := Option.some.inj hop'
      exact ⟨rfl, rfl, rfl⟩
  · unfold start
    split <;> trivial

theorem conversing_of_run {tr : List Event}
    (hrun : Run (clientStartOperation host) (start op) tr c) : Conversing op tr c :=
  hrun.traced (fun _ _ _ _ h hstep => conversing_step h hstep) (conversing_start op)

end ClientState

section Runs

variable {host : Host} {op : OperationData} {pre post : List Event} {e : Event}
  {c : ClientState}

/-- What a client does for an operation it starts with a server at the requests port: each
packet is one of the operation's and goes to the source of the last datagram received, the
request being the only one sent before there was any; an ERROR packet is the last word, and
does not go to the requests port; and the only file used is the operation's own, as the
operation may, and never removed. -/
theorem client_conduct (hport : op.peerAddress.port = 69)
    (hrun : Run (clientStartOperation host) (.start op) (pre ++ e :: post) c) :
    (∀ peer packet ok, e = .sendto peer packet ok →
      peer = lastSource op.peerAddress pre ∧
      (pre = [] ∧ sendRequestPacket op = some (.built packet) ∨
        ∃ size bytes, .recvfrom size (.datagram peer bytes) ∈ pre) ∧
      (∃ opcode ∈ op.operationId.vocabulary, opcodeOf packet = opcode.code) ∧
      (opcodeOf packet = TFTPOpcode.error.code →
        peer.port ≠ 69 ∧ ∀ e' ∈ post, e'.usesSocket = false)) ∧
    (e.usesFile = true → op.operationId.permits e = true ∧
      (∀ path error, e ≠ .remove path error) ∧ ∀ path, e.path = some path → path = op.path) := by
  obtain ⟨t, t', hpre, hstep, hpost⟩ := hrun.step_at
  have hbefore := ClientState.conversing_of_run hpre
  have hconducted := ClientState.conducted_step hbefore.suits hbefore.guarded hstep
  constructor
  · intro peer packet ok he
    obtain ⟨op', hop', hpeer, opcode, hmem, hopcode⟩ := hconducted.sends peer packet ok he
    obtain ⟨hid, -, hlast⟩ := hbefore.operation op' hop'
    rw [hlast] at hpeer
    rw [hid] at hmem
    refine ⟨hpeer, ?_, ⟨opcode, hmem, hopcode⟩, ?_⟩
    · rcases hbefore.heard with hmet | ⟨hunheard, hsame⟩
      · rw [hpeer]
        exact Or.inr hmet
      · have hports : ∀ op₁, t.operation = some op₁ → op₁.peerAddress.port = 69 := by
          intro op₁ hop₁
          rw [(hbefore.operation op₁ hop₁).2.2, hsame, hport]
        subst he
        obtain ⟨op₁, request, rfl⟩ :=
          ClientState.unheard_sends hunheard hbefore.guarded hports hstep
        have hpre_nil : pre = [] := hbefore.asked rfl
        rw [hpre_nil] at hpre
        have hpacket : packet = request := by
          cases client_called hstep
          rfl
        rw [hpacket]
        exact Or.inl ⟨hpre_nil, ClientState.request_of_start hpre.eq_of_nil.symm⟩
    · intro herror
      obtain ⟨hforwards, hparted⟩ :=
        ClientState.lastWord_step hbefore.guarded hstep peer packet ok he herror
      refine ⟨port_of_forwards hforwards, ?_⟩
      intro e' he'
      have hnever := hpost.never (q := fun e => e.usesSocket = true)
        (fun t e u h hstep => ⟨(ClientState.parted_step h hstep).1,
          by rw [(ClientState.parted_step h hstep).2]; decide⟩) hparted e' he'
      exact Bool.eq_false_iff.mpr hnever
  · intro huses
    obtain ⟨op', hop', hpermits, hremove, hpath⟩ := hconducted.files huses
    obtain ⟨hid, hsame, -⟩ := hbefore.operation op' hop'
    rw [← hid, ← hsame]
    exact ⟨hpermits, hremove, hpath⟩

end Runs

section FixedRuns

/-- A client that writes the file `storage/a`, with the server at the requests port. -/
def portedOperation : OperationData :=
  { sampleOperation with peerAddress := localhost 69 }

/-- Its request is acknowledged, and no buffer can be had for the packets. -/
def starvedHistory : List Event :=
  [.sendto (localhost 69) [0, 2, 97, 0, 111, 99, 116, 101, 116, 0, 98, 108, 107, 115, 105,
      122, 101, 0, 48, 48, 48, 48, 56, 0, 0] true,
    .malloc 132 (some (List.replicate 132 0)),
    .recvfrom 132 (.datagram (localhost 40001) (ackPacket 0)),
    .malloc sizeofTransferData (some []), .fopen (ascii "storage/a") .read none,
    .malloc 12 none, .malloc 36 none]

/-- What it tells the server. -/
def starvedReply : ErrorReply :=
  { code := TFTPErrorCode.outOfSpace.code
    message := ascii "Failed to allocate packet buffers: "
    item := some (littleHost.strerror .ENOMEM) }

set_option maxRecDepth 4000 in
theorem client_conduct_starved :
    ∃ c, Run (clientStartOperation littleHost) (.start portedOperation)
        (starvedHistory ++ .sendto (localhost 40001) (errorPacket starvedReply) true ::
          [.fclose 0]) c ∧
      localhost 40001 = lastSource (localhost 69) starvedHistory ∧
      (localhost 40001).port ≠ 69 ∧ (Event.fclose 0).usesSocket = false := by
  obtain ⟨c, hrun, -⟩ : ∃ c, Run (clientStartOperation littleHost) (.start portedOperation)
      (starvedHistory ++ .sendto (localhost 40001) (errorPacket starvedReply) true ::
        [.fclose 0]) c ∧ True := exists_run_of_exec (by decide)
  obtain ⟨hpeer, -, -, herror⟩ := (client_conduct rfl hrun).1 _ _ true rfl
  obtain ⟨hport, hquiet⟩ := herror (opcodeOf_errorPacket starvedReply)
  exact ⟨c, hrun, hpeer, hport, hquiet (.fclose 0) (by simp)⟩

end FixedRuns

end Stftpu
