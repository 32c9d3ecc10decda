import Stftpu.Library.Account
import Stftpu.Server.DataPorts
import Stftpu.Transfer.OwnBytes

/-!
# What a request takes and gives back

A request takes a slot, a block of operation data, a data socket and files.  They pass from
the listener to a task, and are given up in several functions.  Here each request has an
account of them, and every control point of the listener and of a task says what the account
has to be.

* `Request` — the accounts of a request.
* `ListenerPoint.RequestOk`, `TaskState.RequestOk` — what is held at a control point.
* `requestOk_step`, `TaskState.RequestOk.step` — a call keeps the accounts right.
-/

namespace Stftpu

open Library

/-! ## Requests -/

/-- What was taken for a request and given back. -/
structure Request where
  slot : Account
  operation : Account
  socket : Account
  files : Account
  deriving DecidableEq, Repr

namespace Event

/-- A data socket is bound, for operation data allocated before. -/
def bound : Event → Nat
  | .dataSocket (.bound _ _) => 1
  | _ => 0

/-- How many descriptors of sockets the call closes. -/
def shut : Event → Nat
  | .close _ => 1
  | _ => 0

end Event

/-- How many blocks of operation data the listener frees in a step. -/
def ListenerPoint.frees (before after : ListenerPoint) : Nat :=
  match before, after with
  | .initializing _ _, .releasing _ => 1
  | .rejecting _ _ _ _, .releasing _ => 1
  | .closing _ _, .releasing _ => 1
  | _, _ => 0

/-- How many blocks of operation data a task frees in a step: it goes to
`server_task_release` from `tftp_free_operation_data`, or from its first look at
`should_terminate`. -/
def TaskState.freed (e : Event) (before after : TaskState) : Nat :=
  match before, e, after with
  | .starting _, .poll true, _ => 0
  | _, _, .releasing _ => 1
  | _, _, _ => 0

namespace Request

/-- Nothing was taken. -/
def empty : Request :=
  { slot := .empty, operation := .empty, socket := .empty, files := .empty }

/-- A slot has been acquired for it. -/
def accepted : Request :=
  { empty with slot := Account.empty.record 1 0 }

/-- The listener makes a system call for it. -/
def listenerCall (r : Request) (e : Event) (before after : ListenerPoint) : Request :=
  { r with
    operation := r.operation.record e.bound (before.frees after)
    socket := r.socket.record e.bound e.shut }

/-- Its task makes a system call. -/
def taskCall (r : Request) (e : Event) (before after : TaskState) : Request :=
  { r with
    operation := r.operation.record 0 (TaskState.freed e before after)
    socket := r.socket.record 0 e.shut
    files := r.files.record e.opened e.closed }

/-- `server_release_connection_slot` returns. -/
def release (r : Request) : Request :=
  { r with slot := r.slot.record 0 1 }

/-- All it took has been given back, and only once. -/
structure Settled (r : Request) : Prop where
  slot : r.slot.Once
  operation : r.operation.Once
  socket : r.socket.Once
  files : r.files.Holds 0

end Request

/-! ## The accounts at each control point -/

namespace Request

/-- The slot, the operation data and the socket are held, and so many files. -/
structure Held (r : Request) (files : Nat) : Prop where
  slot : r.slot.One
  operation : r.operation.One
  socket : r.socket.One
  files : r.files.Holds files

/-- Only the slot is still held. -/
structure Leaving (r : Request) : Prop where
  slot : r.slot.One
  operation : r.operation.Once
  socket : r.socket.Once
  files : r.files.Holds 0

theorem settled_release {r : Request} (h : r.Leaving) : r.release.Settled where
  slot := h.slot.return
  operation := h.operation
  socket := h.socket
  files := h.files

end Request

/-- The descriptor of a data socket is not zero, and the strings of the request end in memory
that can be read. -/
def ListenerPoint.Prepared (point : ListenerPoint) (socket : DataSocket) : Prop :=
  (match socket with
    | .bound fd _ => 0 < fd
    | .exits => True) ∧
  match point with
    | .initializing _ args => (tftpInitOperationData socket args).isSome
    | _ => True

/-- The accounts of the listener's request. -/
def ListenerPoint.RequestOk (r : Request) : ListenerPoint → Prop
  | .initializing _ _ => r = Request.accepted
  | .rejecting _ fd _ _ => 0 < fd ∧ r.Held 0
  | .closing _ fd => 0 < fd ∧ r.Held 0
  | .spawning _ op => 0 < op.dataSocket ∧ r.Held 0
  | .releasing _ => r.Leaving
  | .exited => r = Request.accepted
  | _ => r = Request.empty

section Listener

variable {host : Host} {mem : ListenerMemory} {s s' : ListenerState} {e : Event} {r : Request}

theorem slot_of_requestOk {point : ListenerPoint} (h : point.RequestOk r)
    (hslot : point.slot ≠ none) : r.slot.One := by
  cases point with
  | initializing slot args =>
      rw [show r = .accepted from h]
      exact Account.one_of_empty
  | rejecting slot fd peer reply => exact h.2.slot
  | closing slot fd => exact h.2.slot
  | releasing slot => exact Request.Leaving.slot h
  | spawning slot op => exact h.2.slot
  | _ => exact absurd rfl hslot

theorem socket_of_requestOk {point : ListenerPoint} (h : point.RequestOk r)
    (hfd : point.dataSocket ≠ none) : r.operation.One ∧ r.socket.One := by
  cases point with
  | rejecting slot fd peer reply => exact ⟨h.2.operation, h.2.socket⟩
  | closing slot fd => exact ⟨h.2.operation, h.2.socket⟩
  | spawning slot op => exact ⟨h.2.operation, h.2.socket⟩
  | _ => exact absurd rfl hfd

/-- Only the end of the process takes the slot of a request from the listener. -/
theorem slot_kept {point point' : ListenerPoint} {r' : Request} {i : Nat} (h : point.RequestOk r)
    (h' : point'.RequestOk r') (hslot : r'.slot = r.slot) (hne : point' ≠ .exited)
    (hfrom : ∀ j, point'.slot = some j → point.slot = some j) (hi : point.slot = some i) :
    point'.slot = some i := by
  have hone := slot_of_requestOk h (by rw [hi]; simp)
  cases hpoint : point'.slot with
  | some j => rw [← hfrom j hpoint, hi]
  | none =>
      -- without a slot nothing is accounted for
      have hempty : r' = .empty := by
        cases point' with
        | initializing slot args | closing slot fd | releasing slot | spawning slot op =>
            cases hpoint
        | rejecting slot fd peer reply => cases hpoint
        | exited => exact absurd rfl hne
        | _ => exact h'
      rw [← hslot, hempty] at hone
      cases hone.1

theorem refuse_point (reply : ErrorReply) :
    (s.refuse reply).point = .refusing reply ∨ (s.refuse reply).point = .looping := by
  unfold ListenerState.refuse
  split
  · exact Or.inl rfl
  · exact Or.inr rfl

theorem freeOperationData_point {slot : Nat} {fd : Int} :
    (s.freeOperationData slot fd).point = .closing slot fd ∨
      (s.freeOperationData slot fd).point = .releasing slot := by
  unfold ListenerState.freeOperationData
  split
  · exact Or.inl rfl
  · exact Or.inr rfl

theorem requested_dispatch (h : (s.dispatch host mem).point = .acquiring) :
    requestOperation ((s.dispatch host mem).incomingOpcode host) ≠ none := by
  have hrefuse : ∀ reply, (s.refuse reply).point ≠ .acquiring := by
    intro reply
    rcases refuse_point (s := s) reply with hp | hp <;> simp [hp]
  revert h
  unfold ListenerState.dispatch
  split
  · intro h
    cases h
  · split
    · intro h
      cases h
    · split
      · rename_i operation hsome
        intro _
        change requestOperation (s.incomingOpcode host) ≠ none
        rw [hsome]
        simp
      · split
        · intro h
          cases h
        · intro h
          exact absurd h (hrefuse _)

theorem requestOk_dispatch : (s.dispatch host mem).point.RequestOk .empty := by
  unfold ListenerState.dispatch
  split
  · rfl
  · split
    · rfl
    · split
      · rfl
      · split
        · rfl
        · rcases refuse_point (s := s) (ListenerState.illegalOpcodeReply ‹_›) with hp | hp <;>
            rw [hp] <;> rfl

/-- The listener looks for a slot only for a request. -/
theorem requested_step (hstep : serverListenerLoop host mem s e = some s')
    (hpoint : s'.point = .acquiring) : requestOperation (s'.incomingOpcode host) ≠ none := by
  cases loop_called hstep with
  | looping set _ => cases set <;> cases hpoint
  | awaiting result _ => cases result <;> cases hpoint
  | received set _ =>
      cases set with
      | true => cases hpoint
      | false => exact requested_dispatch hpoint
  | acquiring slot _ =>
      -- from the slot on, the listener only answers the request or refuses it
      unfold ListenerState.onAcquired at hpoint
      split at hpoint
      · rcases refuse_point (s := s) ListenerState.noSlotReply with hp | hp <;>
          rw [hp] at hpoint <;> cases hpoint
      · split at hpoint <;> cases hpoint
  | initializing slot args socket _ =>
      unfold ListenerState.onInitialized at hpoint
      split at hpoint
      · split at hpoint <;> cases hpoint
      · cases hpoint
      · split at hpoint
        · cases hpoint
        · rcases freeOperationData_point with hp | hp <;> rw [hp] at hpoint <;> cases hpoint
      · cases hpoint
  | rejecting slot fd client reply ok _ =>
      rcases freeOperationData_point with hp | hp <;> rw [hp] at hpoint <;> cases hpoint
  | refusing reply ok _ | closing slot fd _ | releasing slot _ | spawning slot op ok _ =>
      cases hpoint

/-- A request whose slot was found is parsed. -/
theorem onAcquired_point (hrequested : requestOperation (s.incomingOpcode host) ≠ none)
    (hparsed : (serverParseRequestData host mem s).isSome) (slot : Nat) :
    ∃ args, (s.onAcquired host mem (some slot)).point = .initializing slot args := by
  unfold ListenerState.onAcquired
  simp only
  split
  · rename_i hnone
    rw [hnone] at hparsed
    cases hparsed
  · rename_i hparse
    -- only a packet that is no request is dropped by the parser
    exfalso
    obtain ⟨filePath, -, hoperation⟩ := Option.bind_eq_some_iff.mp hparse
    split at hoperation
    · exact hrequested ‹_›
    · cases hoperation
    · obtain ⟨length, -, hblocksize⟩ := Option.bind_eq_some_iff.mp hoperation
      obtain ⟨blocksize, -, hargs⟩ := Option.bind_eq_some_iff.mp hblocksize
      cases hargs
  · exact ⟨_, rfl⟩

theorem requestOk_freeOperationData {slot : Nat} {fd : Int} (hfd : 0 < fd) (h : r.Held 0) :
    (s.freeOperationData slot fd).point.RequestOk r := by
  unfold ListenerState.freeOperationData
  rw [if_pos hfd]
  exact ⟨hfd, h⟩

theorem frees_freeOperationData {slot : Nat} {fd : Int} (hfd : 0 < fd) (before : ListenerPoint) :
    before.frees (s.freeOperationData slot fd).point = 0 := by
  unfold ListenerState.freeOperationData
  rw [if_pos hfd]
  cases before <;> rfl

/-- Behind `tftp_init_operation_data` the operation data and the socket are there. -/
theorem requestOk_onInitialized {slot : Nat} {args : InitArguments} {socket : DataSocket}
    (hprepared : (ListenerPoint.initializing slot args).Prepared socket) :
    (s.onInitialized slot args socket).point.RequestOk
      (Request.accepted.listenerCall (.dataSocket socket) (.initializing slot args)
        (s.onInitialized slot args socket).point) := by
  obtain ⟨hfd, hinit⟩ := hprepared
  obtain ⟨outcome, houtcome⟩ := Option.isSome_iff_exists.mp hinit
  cases socket with
  | exits =>
      obtain ⟨path, -, hpath⟩ := Option.bind_eq_some_iff.mp houtcome
      obtain rfl := Option.some.inj hpath
      simp only [ListenerState.onInitialized, houtcome]
      rfl
  | bound fd port =>
      have hsocket := initOperation_socket houtcome
      -- nothing is returned yet: the slot, the operation and the socket are each held once
      have hheld : ∀ point, (ListenerPoint.initializing slot args).frees point = 0 →
          (Request.accepted.listenerCall (.dataSocket (.bound fd port))
            (.initializing slot args) point).Held 0 := by
        intro point hfrees
        refine ⟨Account.one_of_empty, ?_, Account.one_of_empty, Account.holds_empty⟩
        rw [Request.listenerCall, hfrees]
        exact Account.one_of_empty
      have hpos : 0 < fd := hfd
      simp only [ListenerState.onInitialized, houtcome]
      cases outcome with
      | exits => cases hsocket
      | rejected fd' reply =>
          obtain rfl := Option.some.inj hsocket
          dsimp only
          split
          · exact ⟨hpos, hheld _ rfl⟩
          · exact requestOk_freeOperationData hpos (hheld _ (frees_freeOperationData hpos _))
      | created op =>
          obtain rfl := Option.some.inj hsocket
          exact ⟨hpos, hheld _ rfl⟩

/-- A step of the listener's loop, and its accounts. -/
theorem requestOk_step (hcall : s.point.inCall = false)
    (hstep : serverListenerLoop host mem s e = some s') (h : s.point.RequestOk r)
    (hprepared : ∀ socket, e = .dataSocket socket → s.point.Prepared socket) :
    s'.point.RequestOk (r.listenerCall e s.point s'.point) := by
  cases loop_called hstep with
  | looping set hp =>
      rw [hp] at h ⊢
      obtain rfl : r = .empty := h
      cases set <;> rfl
  | awaiting result hp =>
      rw [hp] at h ⊢
      obtain rfl : r = .empty := h
      cases result <;> rfl
  | received set hp =>
      rw [hp] at h ⊢
      obtain rfl : r = .empty := h
      cases set with
      | true => rfl
      | false => exact requestOk_dispatch
  | refusing reply ok hp =>
      rw [hp] at h ⊢
      obtain rfl : r = .empty := h
      rfl
  | initializing slot args socket hp =>
      have hsocket := hprepared socket rfl
      rw [hp] at h hsocket ⊢
      obtain rfl : r = .accepted := h
      exact requestOk_onInitialized hsocket
  | rejecting slot fd client reply ok hp =>
      rw [hp] at h ⊢
      obtain ⟨hfd, hheld⟩ := h
      rw [Request.listenerCall, frees_freeOperationData hfd]
      exact requestOk_freeOperationData hfd hheld
  | closing slot fd hp =>
      rw [hp] at h ⊢
      obtain ⟨hfd, hheld⟩ := h
      exact ⟨hheld.slot, hheld.operation.return, hheld.socket.return, hheld.files⟩
  | acquiring slot hp | releasing slot hp | spawning slot op ok hp =>
      -- the calls of several steps
      rw [hp] at hcall
      cases hcall

end Listener

/-! ### Tasks -/

/-- The task looks at `should_terminate` before it is set, is given its `TransferData_t`, and
receives no datagram that makes `fwrite` leave the packet buffer. -/
def TaskState.granted (t : TaskState) (e : Event) : Bool :=
  match t, e with
  | .starting _, .poll set => !set
  | .allocating _, .malloc _ block => block.isSome
  | .receiving _ s, .recvfrom _ (.datagram _ bytes) => !decide (s.Completes bytes)
  | _, _ => true

namespace TaskState

/-- The `TransferData_t` of a transfer is there. -/
def Allocated : TaskState → Prop
  | .filling s => s.allocated = true
  | .fault => False
  | _ => True

/-- The accounts of a task's request. -/
structure RequestOk (r : Request) (t : TaskState) : Prop where
  allocated : t.Allocated
  held : ∀ op, t.operation = some op → 0 < op.dataSocket ∧ r.Held t.files
  leaving : ∀ result, t = .releasing result → r.Leaving
  ended : ∀ result, t = .ended result → r.Settled

section Steps

variable {host : Host} {t t' : TaskState} {e : Event} {r : Request} {op : OperationData}

theorem allocated_freeOperationData {result : Option Bool} :
    (freeOperationData op result).Allocated := by
  unfold freeOperationData
  split <;> trivial

theorem allocated_afterFill {s : FillState} (h : s.allocated = true) :
    (afterFill s).Allocated := by
  unfold afterFill
  split
  · split <;> trivial
  · rw [if_pos h]
    unfold freeTransferData
    split
    · trivial
    · exact allocated_freeOperationData
  · exact h

theorem allocated_failDelete (reply : ErrorReply) : (failDelete op reply).Allocated := by
  unfold failDelete
  split
  · trivial
  · exact allocated_freeOperationData

theorem allocated_deleting {point : DeletePoint}
    (h : serverDeleteFile host point op e = some t') : t'.Allocated := by
  cases delete_called h with
  | acknowledging ok => trivial
  | opened => trivial
  | missing errno => exact allocated_failDelete _
  | closing => trivial
  | removed => trivial
  | kept errno => exact allocated_failDelete _
  | confirming ok => exact allocated_freeOperationData
  | failing reply ok => exact allocated_freeOperationData

/-- A transfer that is given its block, and no datagram that makes it leave the packet buffer,
does not leave the memory modelled. -/
theorem allocated_step (htidy : t.Tidy) (hgranted : t.granted e) (h : t.Allocated)
    (hstep : serverTaskStart host t e = some t') : t'.Allocated := by
  cases task_called hstep with
  | starting op set =>
      cases set with
      | true => trivial
      | false =>
          simp only [Bool.false_eq_true, if_false, dispatch]
          split
          · trivial
          · trivial
          · trivial
          · exact allocated_freeOperationData
          · exact allocated_freeOperationData
  | allocating op block =>
      apply allocated_afterFill
      -- the `malloc` is granted, so the block is there
      have hblock : block.isSome = true := hgranted
      rw [hblock]
      rfl
  | filling s s' hs =>
      apply allocated_afterFill
      rw [(FillState.accounts_step htidy hs).allocated]
      exact h
  | acknowledging b op tx ok =>
      cases ok <;> trivial
  | receiving b s s' hs =>
      unfold afterReceive
      split
      · split <;> trivial
      · -- only a datagram that completes the buffer leads out of it, and none does
        rename_i hfault
        obtain ⟨size, source, bytes, rfl, hcompletes⟩ :=
          (ReceiveState.step_fault_iff hs).mp hfault
        have hnot : ¬ s.Completes bytes := by simpa [granted] using hgranted
        exact absurd hcompletes hnot
      · trivial
  | transmitting b s s' hs =>
      unfold afterTransmit
      split <;> trivial
  | deleting point op hdelete => exact allocated_deleting hdelete
  | closingPartial op =>
      trivial
  | removingPartial op error => exact allocated_freeOperationData
  | closingFile op result => exact allocated_freeOperationData
  | closingSocket op result =>
      trivial
  | releasing result =>
      trivial

theorem freed_of_operation (h : t'.operation = some op) : freed e t t' = 0 := by
  unfold freed
  split
  · rfl
  · cases h
  · rfl

/-- Before the end of the operation a call closes no socket. -/
theorem Accounts.shut_eq_zero (h : Accounts t t' e) (hop : t'.operation = some op) :
    e.shut = 0 := by
  cases e with
  | close fd =>
      obtain ⟨_, _, _, _, rfl⟩ := h.closes fd rfl
      cases hop
  | _ => rfl

/-- A task that has not come to the release of its slot has its operation data. -/
theorem operation_of_allocated (h : t.Allocated) (hreleasing : ∀ result, t ≠ .releasing result)
    (hended : ∀ result, t ≠ .ended result) : ∃ op, t.operation = some op := by
  cases t with
  | releasing result => exact absurd rfl (hreleasing result)
  | ended result => exact absurd rfl (hended result)
  | fault => exact h.elim
  | _ => exact ⟨_, rfl⟩

/-- A system call of a task keeps its accounts right. -/
theorem RequestOk.step (h : t.RequestOk r) (htidy : t.Tidy) (hgranted : t.granted e)
    (hnot : ∀ result, t ≠ .releasing result) (hstep : serverTaskStart host t e = some t') :
    t'.RequestOk (r.taskCall e t t') := by
  have haccounts := accounts_step htidy hstep
  have hallocated := allocated_step htidy hgranted h.allocated hstep
  refine ⟨hallocated, ?_, ?_, ?_⟩
  · intro op' hop'
    obtain ⟨op, hop, hsocket⟩ := haccounts.operation op' hop'
    obtain ⟨hfd, hheld⟩ := h.held op hop
    have hfd' : op'.dataSocket = op.dataSocket := congrArg Prod.fst hsocket
    refine ⟨by rw [hfd']; exact hfd, ?_⟩
    rw [Request.taskCall, freed_of_operation hop', haccounts.shut_eq_zero hop']
    refine ⟨hheld.slot, hheld.operation, hheld.socket, ?_⟩
    rcases haccounts.files with rfl | hfiles
    · cases hop'
    · exact hheld.files.record hfiles
  · rintro result rfl
    rcases haccounts.frees result rfl with ⟨op, rfl, rfl⟩ | ⟨op, rfl, rfl⟩ | ⟨op, hop, hnone⟩
    · -- the look at `should_terminate` that is not granted
      cases hgranted
    · obtain ⟨-, hheld⟩ := h.held op rfl
      exact ⟨hheld.slot, hheld.operation.return, hheld.socket.return, hheld.files⟩
    · obtain ⟨hfd, -⟩ := h.held op hop
      omega
  · rintro result rfl
    exact absurd (haccounts.ended result rfl) (hnot result)

end Steps

end TaskState

end Stftpu
