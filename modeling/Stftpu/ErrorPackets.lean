import Stftpu.Client.Operation
import Stftpu.Server.SlotTable
import Stftpu.Transfer.ErrorReplies

/-!
# The packets of `tftp_send_error`

Every failure is reported through `tftp_send_error`, from some twenty places on both sides.
Over a run each of its packets has a code of `TFTPErrorCode_t` and its own text, but for the
refusal of a file that exists, which passes the data socket where the code belongs.

* `TaskState.sending`, `ClientState.sending`, `ListenerState.sending` — the reply about to be
  sent.
* `Replies` — of every thread: the replies it has are those of its functions.
* `error_packets_conform_iff` — the runs whose ERROR packets are all in order.
-/

namespace Stftpu

open Library

/-! ## The threads -/

/-- The reply of `tftp_send_error` at the control point of its `sendto`. -/
def FillState.sending (s : FillState) : Option ErrorReply :=
  match s.point with
  | .failing reply => some reply
  | _ => none

def ReceiveState.sending {b : BlockSize} (s : ReceiveState b) : Option ErrorReply :=
  match s.point with
  | .failing reply => some reply
  | _ => none

def TransmitState.sending {b : BlockSize} (s : TransmitState b) : Option ErrorReply :=
  match s.point with
  | .failing reply => some reply
  | _ => none

def TaskState.sending : TaskState → Option ErrorReply
  | .filling s => s.sending
  | .receiving _ s => s.sending
  | .transmitting _ s => s.sending
  | .deleting (.failing reply) _ => some reply
  | _ => none

def ClientState.sending : ClientState → Option ErrorReply
  | .filling s => s.sending
  | .receiving _ s => s.sending
  | .transmitting _ s => s.sending
  | _ => none

def ListenerState.sending (s : ListenerState) : Option ErrorReply :=
  match s.point with
  | .refusing reply => some reply
  | .rejecting _ _ _ reply => some reply
  | _ => none

/-- The data socket of a receive about to be refused because its file exists. -/
def FillState.refusedOn (s : FillState) : Option Int :=
  match s.point with
  | .failing reply => if reply.message = fileExistsMessage then some s.op.dataSocket else none
  | _ => none

def TaskState.refusedOn : TaskState → Option Int
  | .filling s => s.refusedOn
  | _ => none

def ClientState.refusedOn : ClientState → Option Int
  | .filling s => s.refusedOn
  | _ => none

/-- If the event is the `sendto` of `tftp_send_error`, its packet conforms. -/
def SendsConforming (sending : Option ErrorReply) (e : Event) : Prop :=
  ∀ reply ∈ sending, ∀ peer packet ok, e = .sendto peer packet ok → SentConforms reply packet

/-- A descriptor is a code only by accident: `htons` keeps sixteen bits of it. -/
def RefusesOnExistsCode (refusedOn : Option Int) : Prop :=
  ∀ fd ∈ refusedOn, fd % 65536 = TFTPErrorCode.fileExists.code

/-! ### Tasks and the client -/

theorem sendsConforming_none (e : Event) : SendsConforming none e := by
  intro reply hreply
  cases hreply

/-- The packet of a reply that is sent conforms as the reply's own packet does. -/
theorem sendsConforming_some_iff {reply : ErrorReply} {peer : SockAddr} {ok : Bool} :
    SendsConforming (some reply) (.sendto peer (errorPacket reply) ok) ↔
      SentConforms reply (errorPacket reply) := by
  constructor
  · intro hsends
    exact hsends reply rfl peer _ ok rfl
  · intro hsent other hother peer' packet ok' he
    obtain rfl := Option.some.inj hother
    obtain ⟨-, rfl, -⟩ := Event.sendto.inj he
    exact hsent

theorem FillState.conforms_iff {host : Host} {s s' : FillState} {e : Event} (h : s.Replies)
    (hstep : tftpFillTransferData host s e = some s') :
    SendsConforming s.sending e ↔ RefusesOnExistsCode s.refusedOn := by
  cases hpoint : s.point with
  | failing reply =>
      have hsending : s.sending = some reply := by simp [sending, hpoint]
      obtain ⟨ok, rfl, -⟩ := fill_failing hpoint hstep
      rw [hsending, sendsConforming_some_iff]
      rcases h reply hpoint with hstandard | hexisting
      · refine iff_of_true hstandard.conforms ?_
        intro fd hfd
        simp [refusedOn, hpoint, hstandard.other] at hfd
      · rw [hexisting.conforms_iff]
        simp [RefusesOnExistsCode, refusedOn, hpoint, hexisting.refusal]
  | _ =>
      refine iff_of_true ?_ ?_
      · have hsending : s.sending = none := by simp [sending, hpoint]
        rw [hsending]
        exact sendsConforming_none e
      · intro fd hfd
        simp [refusedOn, hpoint] at hfd

theorem ReceiveState.conforms {b : BlockSize} {host : Host} {s s' : ReceiveState b} {e : Event}
    (h : s.Replies) (hstep : tftpReceiveFile host s e = some s') :
    SendsConforming s.sending e := by
  cases hpoint : s.point with
  | failing reply =>
      have hsending : s.sending = some reply := by simp [sending, hpoint]
      obtain ⟨ok, rfl, -⟩ := receive_failing hpoint hstep
      rw [hsending, sendsConforming_some_iff]
      exact (h reply hpoint).conforms
  | _ =>
      have hsending : s.sending = none := by simp [sending, hpoint]
      rw [hsending]
      exact sendsConforming_none e

theorem TransmitState.conforms {b : BlockSize} {host : Host} {s s' : TransmitState b}
    {e : Event} (h : s.Replies) (hstep : tftpTransmitFile host s e = some s') :
    SendsConforming s.sending e := by
  cases hpoint : s.point with
  | failing reply =>
      have hsending : s.sending = some reply := by simp [sending, hpoint]
      obtain ⟨ok, rfl, -⟩ := transmit_failing hpoint hstep
      rw [hsending, sendsConforming_some_iff]
      exact (h reply hpoint).conforms
  | _ =>
      have hsending : s.sending = none := by simp [sending, hpoint]
      rw [hsending]
      exact sendsConforming_none e

namespace TaskState

variable {host : Host} {t t' : TaskState} {e : Event} {op : OperationData}

/-- The task's operation, as long as it may still have to name its file, and its reply. -/
def Replies : TaskState → Prop
  | .starting op => IsText op.path
  | .allocating _ => True
  | .filling s => s.Replies
  | .receiving _ s => s.Replies
  | .transmitting _ s => s.Replies
  | .deleting point op => IsText op.path ∧ ∀ reply, point = .failing reply → reply.Standard
  | _ => True

theorem replies_freeOperationData (result : Option Bool) :
    (freeOperationData op result).Replies := by
  unfold freeOperationData
  split <;> trivial

theorem replies_freeTransferData (fileOpen : Bool) (result : Option Bool) :
    (freeTransferData op fileOpen result).Replies := by
  unfold freeTransferData
  split
  · trivial
  · exact replies_freeOperationData result

theorem replies_afterFill {s : FillState} (h : s.Replies) : (afterFill s).Replies := by
  unfold afterFill
  split
  · split
    · trivial
    · intro reply hpoint
      cases hpoint
  · split
    · exact replies_freeTransferData _ _
    · trivial
  · exact h

theorem replies_failDelete {reply : ErrorReply} (hpath : IsText op.path)
    (h : reply.Standard) : (failDelete op reply).Replies := by
  rcases failDelete_cases op reply with heq | heq
  · rw [heq]
    refine ⟨hpath, ?_⟩
    intro other hother
    obtain rfl := DeletePoint.failing.inj hother
    exact h
  · rw [heq]
    exact replies_freeOperationData _

theorem replies_deleting {point : DeletePoint} (htexts : host.Texts) (hpath : IsText op.path)
    (hstep : serverDeleteFile host point op e = some t') : t'.Replies := by
  cases delete_called hstep with
  | acknowledging ok => exact ⟨hpath, by simp⟩
  | opened => exact ⟨hpath, by simp⟩
  | missing errno =>
      -- what the reply names is the path without the storage directory
      refine replies_failDelete hpath (.of_item .fileNotFound (by decide) (by decide) ?_)
      intro c hc
      exact hpath c (List.mem_of_mem_drop hc)
  | closing => exact ⟨hpath, by simp⟩
  | removed => exact ⟨hpath, by simp⟩
  | kept errno =>
      exact replies_failDelete hpath (.of_item .undefined (by decide) (by decide) (htexts _))
  | confirming ok => exact replies_freeOperationData _
  | failing reply ok => exact replies_freeOperationData _

theorem replies_step (htexts : host.Texts) (htime : e.TimestampText) (h : t.Replies)
    (hstep : serverTaskStart host t e = some t') : t'.Replies := by
  cases task_called hstep with
  | starting op set =>
      -- `should_terminate`, or the dispatch of the operation
      cases set with
      | true => trivial
      | false =>
          simp only [Bool.false_eq_true, if_false, dispatch]
          split
          · trivial
          · trivial
          · exact ⟨h, by simp⟩
          · exact replies_freeOperationData _
          · exact replies_freeOperationData _
  | allocating op block => exact replies_afterFill (FillState.replies_start _ _ _)
  | filling s s' hs => exact replies_afterFill (FillState.replies_step htexts htime hs)
  | acknowledging b op tx ok =>
      cases ok with
      | true =>
          intro reply hpoint
          cases hpoint
      | false => trivial
  | receiving b s s' hs =>
      unfold afterReceive
      split
      · split <;> trivial
      · trivial
      · exact ReceiveState.replies_step h hs
  | closingPartial op =>
      trivial
  | removingPartial op error => exact replies_freeOperationData _
  | transmitting b s s' hs =>
      unfold afterTransmit
      split
      · trivial
      · exact TransmitState.replies_step hs
  | deleting point op hdelete => exact replies_deleting htexts h.1 hdelete
  | closingFile op result => exact replies_freeOperationData _
  | closingSocket op result =>
      trivial
  | releasing result =>
      trivial

theorem conforms_iff (h : t.Replies) (hstep : serverTaskStart host t e = some t') :
    SendsConforming t.sending e ↔ RefusesOnExistsCode t.refusedOn := by
  cases t with
  | filling s =>
      obtain ⟨s', hs, -⟩ := Option.map_eq_some_iff.mp hstep
      exact FillState.conforms_iff h hs
  | receiving b s =>
      obtain ⟨s', hs, -⟩ := Option.map_eq_some_iff.mp hstep
      exact iff_of_true (ReceiveState.conforms h hs) (by simp [RefusesOnExistsCode, refusedOn])
  | transmitting b s =>
      obtain ⟨s', hs, -⟩ := Option.map_eq_some_iff.mp hstep
      exact iff_of_true (TransmitState.conforms h hs) (by simp [RefusesOnExistsCode, refusedOn])
  | deleting point op =>
      refine iff_of_true ?_ (by simp [RefusesOnExistsCode, refusedOn])
      cases point with
      | failing reply =>
          intro other hother peer packet ok he
          obtain rfl := Option.some.inj hother
          subst he
          have hsent : serverDeleteFile host (.failing reply) op (.sendto peer packet ok) =
              some t' := hstep
          cases delete_called hsent with
          | failing => exact (h.2 reply rfl).conforms
      | _ => exact sendsConforming_none e
  | _ =>
      exact iff_of_true (sendsConforming_none e) (by simp [RefusesOnExistsCode, refusedOn])

end TaskState

namespace ClientState

variable {host : Host} {c c' : ClientState} {e : Event} {op : OperationData}

def Replies : ClientState → Prop
  | .filling s => s.Replies
  | .receiving _ s => s.Replies
  | .transmitting _ s => s.Replies
  | _ => True

theorem replies_acknowledged : (acknowledged op).Replies := by
  unfold acknowledged
  split <;> trivial

theorem replies_freeTransferData (fileOpen outcome : Bool) :
    (freeTransferData op fileOpen outcome).Replies := by
  unfold freeTransferData
  split <;> trivial

theorem replies_afterFill {s : FillState} (h : s.Replies) : (afterFill s).Replies := by
  unfold afterFill
  split
  · split
    · intro reply hpoint
      cases hpoint
    · intro reply hpoint
      cases hpoint
  · split
    · exact replies_freeTransferData _ _
    · trivial
  · exact h

theorem replies_start (op : OperationData) : (start op).Replies := by
  unfold start
  split <;> trivial

theorem replies_step (htexts : host.Texts) (htime : e.TimestampText) (h : c.Replies)
    (hstep : clientStartOperation host c e = some c') : c'.Replies := by
  cases client_called hstep with
  | requesting op packet ok =>
      unfold onRequested
      split
      · split
        · exact replies_acknowledged
        · trivial
      · trivial
  | awaitingRequest s s' hs =>
      unfold afterRequest
      split
      · exact replies_acknowledged
      · trivial
      · trivial
  | awaitingDeletion s s' hs =>
      unfold afterDeletion
      split <;> trivial
  | allocating op block =>
      unfold onAllocated
      split
      · exact replies_afterFill (FillState.replies_start _ _ _)
      · exact replies_afterFill (FillState.replies_start _ _ _)
      · trivial
  | filling s s' hs => exact replies_afterFill (FillState.replies_step htexts htime hs)
  | receiving b s s' hs =>
      unfold afterReceive
      split
      · exact replies_freeTransferData _ _
      · trivial
      · exact ReceiveState.replies_step h hs
  | transmitting b s s' hs =>
      unfold afterTransmit
      split
      · exact replies_freeTransferData _ _
      · exact TransmitState.replies_step hs
  | closing op outcome => trivial

theorem conforms_iff (h : c.Replies) (hstep : clientStartOperation host c e = some c') :
    SendsConforming c.sending e ↔ RefusesOnExistsCode c.refusedOn := by
  cases client_called hstep with
  | filling s s' hs => exact FillState.conforms_iff h hs
  | receiving b s s' hs =>
      exact iff_of_true (ReceiveState.conforms h hs) (by simp [RefusesOnExistsCode, refusedOn])
  | transmitting b s s' hs =>
      exact iff_of_true (TransmitState.conforms h hs) (by simp [RefusesOnExistsCode, refusedOn])
  | _ =>
      exact iff_of_true (sendsConforming_none _) (by simp [RefusesOnExistsCode, refusedOn])

end ClientState

/-! ### The listener -/

/-- Every string found behind the opcode names is one. -/
def ListenerMemory.Texts (mem : ListenerMemory) : Prop :=
  ∀ opcode text, mem.beyondOpcodes opcode = some text → IsText text

theorem isText_opcodeString {mem : ListenerMemory} (hmem : mem.Texts) {opcode : UInt16}
    {text : List UInt8} (h : opcodeString mem opcode = some text) : IsText text := by
  have hnames : ∀ name ∈ opcodeStrings, IsText name := by decide
  unfold opcodeString at h
  split at h
  · rename_i name hname
    obtain rfl := Option.some.inj h
    exact hnames name (List.mem_of_getElem? hname)
  · exact hmem opcode text h

section Init

variable {args : InitArguments} {fd : Int} {reply : ErrorReply} {op : OperationData}

/-- Every refusal of an operation has a code of its own. -/
theorem standard_of_rejected {socket : DataSocket}
    (h : tftpInitOperationData socket args = some (.rejected fd reply)) : reply.Standard := by
  cases init_returned h with
  | undefined fd port hoperation => exact .of_message .illegalOperation (by decide) (by decide)
  | transfer fd port path size hpath hlen hcheck =>
      unfold checkBlockSize at hcheck
      split at hcheck
      · cases hcheck
      · split at hcheck
        · obtain ⟨-, rfl⟩ := InitOutcome.rejected.inj hcheck
          exact .of_item .illegalOperation (by decide) (by decide) (by decide)
        · cases hcheck
  | mode fd port item hitem =>
      -- the mode comes from the request
      cases hargs : args.mode with
      | none =>
          obtain rfl : none = item := by simpa [modeItem, hargs] using hitem
          exact .of_message .illegalOperation (by decide) (by decide)
      | some p =>
          simp only [modeItem, hargs, Option.map_eq_some_iff] at hitem
          obtain ⟨text, htext, rfl⟩ := hitem
          exact .of_item .illegalOperation (by decide) (by decide) (cstr_eq_some htext).1

theorem isText_path_of_created {socket : DataSocket}
    (h : tftpInitOperationData socket args = some (.created op)) : IsText op.path := by
  obtain ⟨fd, port, path, rfl, hpath⟩ := created_bound h
  obtain ⟨-, heq, -⟩ := created_fields h hpath
  rw [heq]
  exact (cstr_eq_some hpath).1

end Init

namespace ListenerState

variable {host : Host} {mem : ListenerMemory} {s s' : ListenerState} {e : Event}

def Replies (s : ListenerState) : Prop :=
  match s.point with
  | .refusing reply => reply.Standard
  | .rejecting _ _ _ reply => reply.Standard
  | .spawning _ op => IsText op.path
  | _ => True

theorem replies_refuse {reply : ErrorReply} (h : reply.Standard) : (s.refuse reply).Replies := by
  unfold refuse
  split
  · exact h
  · trivial

theorem replies_dispatch (hmem : mem.Texts) : (s.dispatch host mem).Replies := by
  unfold dispatch
  split
  · trivial
  · split
    · trivial
    · split
      · trivial
      · split
        · trivial
        · rename_i text htext
          exact replies_refuse (.of_item .illegalOperation (by decide) (by decide)
            (isText_opcodeString hmem htext))

theorem replies_onAcquired (slot : Option Nat) : (s.onAcquired host mem slot).Replies := by
  cases slot with
  | none => exact replies_refuse (.of_message .outOfSpace (by decide) (by decide))
  | some slot =>
      simp only [onAcquired]
      split <;> trivial

theorem replies_freeOperationData (slot : Nat) (fd : Int) :
    (s.freeOperationData slot fd).Replies := by
  unfold freeOperationData
  split <;> trivial

theorem replies_onInitialized (slot : Nat) (args : InitArguments) (socket : DataSocket) :
    (s.onInitialized slot args socket).Replies := by
  cases houtcome : tftpInitOperationData socket args with
  | none =>
      simp only [onInitialized, houtcome]
      split <;> trivial
  | some outcome =>
      simp only [onInitialized, houtcome]
      cases outcome with
      | exits => trivial
      | rejected fd reply =>
          simp only
          split
          · exact standard_of_rejected houtcome
          · exact replies_freeOperationData _ _
      | created op => exact isText_path_of_created houtcome

theorem replies_step (hmem : mem.Texts) (hstep : serverListenerLoop host mem s e = some s') :
    s'.Replies := by
  cases loop_called hstep with
  | looping set hpoint => cases set <;> trivial
  | awaiting result hpoint => cases result <;> trivial
  | received set hpoint =>
      cases set with
      | true => trivial
      | false => exact replies_dispatch hmem
  | refusing reply ok hpoint => trivial
  | acquiring slot hpoint => exact replies_onAcquired slot
  | initializing slot args socket hpoint => exact replies_onInitialized slot args socket
  | rejecting slot fd client reply ok hpoint => exact replies_freeOperationData slot fd
  | closing slot fd hpoint => trivial
  | releasing slot hpoint => trivial
  | spawning slot op ok hpoint => trivial

theorem conforms (h : s.Replies) (hstep : serverListenerLoop host mem s e = some s') :
    SendsConforming s.sending e := by
  intro reply hreply peer packet ok he
  subst he
  cases loop_called hstep with
  | refusing other ok hpoint =>
      obtain rfl : other = reply := by simpa [sending, hpoint] using hreply
      simp only [Replies, hpoint] at h
      exact h.conforms
  | rejecting slot fd client other ok hpoint =>
      obtain rfl : other = reply := by simpa [sending, hpoint] using hreply
      simp only [Replies, hpoint] at h
      exact h.conforms

end ListenerState

/-! ## The server -/

/-- A packet of `tftp_send_error` that is sent by the step conforms. -/
def ErrorsConform (p : ServerProcess) : ProcessMove → Prop
  | .listener e => SendsConforming p.listener.state.sending e
  | .task k e => SendsConforming ((p.taskState k).bind TaskState.sending) e
  | _ => True

/-- A task that says that its file exists has the code for that as its data socket. -/
def RefusalsOnExistsCode (p : ServerProcess) : ProcessMove → Prop
  | .task k _ => RefusesOnExistsCode ((p.taskState k).bind TaskState.refusedOn)
  | _ => True

/-- `Event.TimestampText`, of a step of the server. -/
def ProcessMove.TimestampText : ProcessMove → Prop
  | .task _ e => e.TimestampText
  | _ => True

/-- The replies of the threads, and the operations they will come from. -/
structure ServerProcess.Replies (p : ServerProcess) : Prop where
  listener : p.listener.state.Replies
  stored : ∀ i op, p.slots.opDataPtr i = some op → IsText op.path
  tasks : ∀ (k : Nat) (task : TaskThread) (t : TaskState), p.tasks[k]? = some task →
    task.state = some t → t.Replies

namespace ServerProcess

variable {host : Host} {mem : ListenerMemory} {p p' : ServerProcess} {m : ProcessMove}

theorem replies_start : start.Replies where
  listener := trivial
  stored := by
    intro i op hop
    cases hop
  tasks := by
    intro k task t htask
    cases htask

theorem replies_listener (hmem : mem.Texts) (h : p.listener.state.Replies)
    (hstep : serverProcess host mem p m = some p') : p'.listener.state.Replies := by
  cases listener_moved hstep with
  | stayed heq =>
      rw [heq]
      exact h
  | looped e hm hcall hloop => exact ListenerState.replies_step hmem hloop
  | acquired slot hpoint heq =>
      rw [heq]
      exact ListenerState.replies_onAcquired slot
  | cleared heq =>
      rw [heq]
      trivial

/-- The operation in a slot is one the listener was about to store there. -/
theorem replies_stored (h : p.Replies) (hstep : serverProcess host mem p m = some p')
    (i : Nat) (op : OperationData) (hop : p'.slots.opDataPtr i = some op) :
    IsText op.path := by
  by_cases hstores : p.stores m = some i
  · obtain ⟨rfl, op', hpoint, hspawn⟩ : m = .listenerCall ∧ ∃ op',
        p.listener.state.point = .spawning i op' ∧ p.listener.spawn = .storing := by
      unfold stores at hstores
      split at hstores
      · rename_i slot op' hpoint hspawn
        obtain rfl := Option.some.inj hstores
        exact ⟨rfl, op', hpoint, hspawn⟩
      · cases hstores
    have hlistener := h.listener
    simp only [ListenerState.Replies, hpoint] at hlistener
    simp only [serverProcess, listenerCall, hpoint, hspawn, reduceCtorEq, if_false,
      Option.some.injEq] at hstep
    subst hstep
    simp only [Function.update_self, Option.some.injEq] at hop
    rw [← hop]
    exact hlistener
  · rw [opDataPtr_step hstep hstores] at hop
    exact h.stored i op hop

theorem replies_moved (htexts : host.Texts) (h : p.Replies) (htime : m.TimestampText) {k : Nat}
    {task task' : TaskThread} (htask : p.tasks[k]? = some task)
    (hmoved : TaskMoved host p m k task task') (t : TaskState) (hstate' : task'.state = some t) :
    t.Replies := by
  cases hmoved with
  | stayed => exact h.tasks k _ t htask hstate'
  | began hm hstate =>
      obtain rfl := Option.some.inj hstate'
      cases hop : p.slots.opDataPtr task.slot with
      | none => trivial
      | some op => exact h.stored _ op hop
  | called e state state' hm hstate hnot hcall =>
      obtain rfl := Option.some.inj hstate'
      subst hm
      exact TaskState.replies_step htexts htime (h.tasks k task state htask hstate) hcall
  | detached result hm hstate => exact h.tasks k task t htask hstate'
  | releasing result next hm hstate hdetached => exact h.tasks k task t htask hstate'
  | released result hm hstate hdetached =>
      obtain rfl := Option.some.inj hstate'
      trivial

theorem replies_step (htexts : host.Texts) (hmem : mem.Texts) (h : p.Replies)
    (htime : m.TimestampText) (hstep : serverProcess host mem p m = some p') : p'.Replies where
  listener := replies_listener hmem h.listener hstep
  stored := replies_stored h hstep
  tasks := by
    intro k task' t htask' hstate'
    rcases task_origin hstep htask' with
      ⟨task, htask, hmoved⟩ | ⟨slot, op, -, -, -, -, rfl⟩
    · exact replies_moved htexts h htime htask hmoved t hstate'
    · cases hstate'

theorem conforms_iff (h : p.Replies) (hstep : serverProcess host mem p m = some p') :
    ErrorsConform p m ↔ RefusalsOnExistsCode p m := by
  cases m with
  | listener e =>
      obtain ⟨-, state, hloop, -⟩ := listener_eq hstep
      exact iff_of_true (ListenerState.conforms h.listener hloop) trivial
  | task k e =>
      obtain ⟨task, state, state', htask, hstate, -, hcall, -⟩ := task_eq hstep
      have htaskState : p.taskState k = some state := by simp [taskState, htask, hstate]
      simp only [ErrorsConform, RefusalsOnExistsCode, htaskState, Option.bind_some]
      exact TaskState.conforms_iff (h.tasks k task state htask hstate) hcall
  | _ => exact Iff.rfl

end ServerProcess

/-- Whatever fails on either side, every packet of `tftp_send_error` is well formed and has a
code of its own, exactly in the runs that say a file exists on no data socket but one that
happens to be the code for it. -/
theorem error_packets_conform_iff {host : Host} {mem : ListenerMemory} (htexts : host.Texts)
    (hmem : mem.Texts) :
    (∀ moves p, Run (serverProcess host mem) ServerProcess.start moves p →
      (∀ m ∈ moves, m.TimestampText) →
      (EveryStep (serverProcess host mem) ErrorsConform ServerProcess.start moves ↔
        EveryStep (serverProcess host mem) RefusalsOnExistsCode ServerProcess.start moves)) ∧
    ∀ op tr c, Run (clientStartOperation host) (ClientState.start op) tr c →
      (∀ e ∈ tr, e.TimestampText) →
      (EveryStep (clientStartOperation host) (fun c e => SendsConforming c.sending e)
          (ClientState.start op) tr ↔
        EveryStep (clientStartOperation host) (fun c _ => RefusesOnExistsCode c.refusedOn)
          (ClientState.start op) tr) := by
  constructor
  · intro moves p hrun htimes
    exact hrun.everyStep_congr_of_invariant (I := ServerProcess.Replies)
      (fun _ _ _ h htime _ hstep => ServerProcess.replies_step htexts hmem h htime hstep)
      (fun _ _ _ h _ hstep => ServerProcess.conforms_iff h hstep)
      (everyStep_of_forall fun m hm _ => htimes m hm) ServerProcess.replies_start
  · intro op tr c hrun htimes
    exact hrun.everyStep_congr_of_invariant (I := ClientState.Replies)
      (fun _ _ _ h htime _ hstep => ClientState.replies_step htexts htime h hstep)
      (fun _ _ _ h _ hstep => ClientState.conforms_iff h hstep)
      (everyStep_of_forall fun e he _ => htimes e he) (ClientState.replies_start op)

section FixedRuns

instance (p : ServerProcess) : DecidablePred (RefusalsOnExistsCode p)
  | .task k _ =>
      inferInstanceAs (Decidable (∀ fd ∈ (p.taskState k).bind TaskState.refusedOn,
        fd % 65536 = TFTPErrorCode.fileExists.code))
  | .listener _ => isTrue trivial
  | .listenerCall => isTrue trivial
  | .taskArgs _ => isTrue trivial
  | .create => isTrue trivial
  | .createFailed _ => isTrue trivial
  | .begin _ => isTrue trivial
  | .taskRelease _ => isTrue trivial

instance : DecidablePred Event.TimestampText := fun e =>
  decidable_of_iff ((match e with | .stat _ timestamp => decide (IsText timestamp)
                                  | _ => true) = true)
    (by cases e <;> simp [Event.TimestampText])

instance : DecidablePred ProcessMove.TimestampText
  | .task _ e => inferInstanceAs (Decidable e.TimestampText)
  | .listener _ => isTrue trivial
  | .listenerCall => isTrue trivial
  | .taskArgs _ => isTrue trivial
  | .create => isTrue trivial
  | .createFailed _ => isTrue trivial
  | .begin _ => isTrue trivial
  | .taskRelease _ => isTrue trivial

/-- A write of `a`, up to the look for the file, which is there. -/
def existingMoves (client : SockAddr) (fd : Int) : List ProcessMove :=
  [.listener (.poll false),
    .listener (.recvfrom requestBufferSize
      (.datagram client ([0, 2] ++ ascii "a" ++ [0] ++ ascii "octet" ++ [0]))),
    .listener (.poll false)] ++
  List.replicate 6 .listenerCall ++ [.listener (.dataSocket (.bound fd 49152))] ++ spawnMoves ++
  [.begin 0, .task 0 (.poll false), .task 0 (.malloc sizeofTransferData (some [])),
    .task 0 (.fopen (ascii "storage/a") .read none),
    .task 0 (.stat (ascii "storage/a") (ascii "2024-01-01"))]

/-- The refusal of the write, from a data socket that is its code. -/
def existingReply (fd : Int) : ErrorReply :=
  { code := fd, message := fileExistsMessage, item := some (ascii "2024-01-01") }

set_option maxRecDepth 8000 in
/-- On data socket 6 the refusal is in order. -/
theorem error_packets_conform_six :
    ∃ p, Run (serverProcess littleHost .strict) .start (existingMoves (localhost 50001) 6 ++
        [.task 0 (.sendto (localhost 50001) (errorPacket (existingReply 6)) true)]) p ∧
      EveryStep (serverProcess littleHost .strict) ErrorsConform .start
        (existingMoves (localhost 50001) 6 ++
          [.task 0 (.sendto (localhost 50001) (errorPacket (existingReply 6)) true)]) := by
  have htexts : littleHost.Texts := by
    intro errno
    show IsText (ascii "error")
    decide
  have hmem : ListenerMemory.strict.Texts := by
    intro opcode text htext
    cases htext
  have hrun : ∃ p, Run (serverProcess littleHost .strict) .start
      (existingMoves (localhost 50001) 6 ++
        [.task 0 (.sendto (localhost 50001) (errorPacket (existingReply 6)) true)]) p ∧
      p.tasks.length = 1 := exists_run_of_exec (by decide)
  obtain ⟨p, hrun, -⟩ := hrun
  exact ⟨p, hrun, ((error_packets_conform_iff htexts hmem).1 _ p hrun (by decide)).mpr
    (by decide)⟩

set_option maxRecDepth 8000 in
/-- On data socket 4 it says that the operation was illegal. -/
theorem error_packets_not_conforming :
    ∃ p, Run (serverProcess littleHost .strict) .start (existingMoves (localhost 50001) 4 ++
        [.task 0 (.sendto (localhost 50001) (errorPacket (existingReply 4)) true)]) p ∧
      ¬ EveryStep (serverProcess littleHost .strict) ErrorsConform .start
        (existingMoves (localhost 50001) 4 ++
          [.task 0 (.sendto (localhost 50001) (errorPacket (existingReply 4)) true)]) := by
  have hrun : ∃ p, Run (serverProcess littleHost .strict) .start
      (existingMoves (localhost 50001) 4 ++
        [.task 0 (.sendto (localhost 50001) (errorPacket (existingReply 4)) true)]) p ∧
      p.tasks.length = 1 := exists_run_of_exec (by decide)
  obtain ⟨p, hrun, -⟩ := hrun
  refine ⟨p, hrun, ?_⟩
  have hbefore : ∃ q, Run (serverProcess littleHost .strict) .start
      (existingMoves (localhost 50001) 4) q ∧
      (q.taskState 0).bind TaskState.sending = some (existingReply 4) :=
    exists_run_of_exec (by decide)
  obtain ⟨q, hreach, hsending⟩ := hbefore
  intro hconform
  have hlast : SendsConforming ((q.taskState 0).bind TaskState.sending) _ :=
    hconform.last hreach
  have hexists := (hlast _ hsending _ _ _ rfl).existing rfl
  rw [errorCodeOf_errorPacket] at hexists
  cases hexists

end FixedRuns

end Stftpu
