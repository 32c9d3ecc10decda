import Stftpu.Server.SlotTable

/-!
# The ports of the data sockets

`tftp_init_bound_data_socket` draws ports until `bind` accepts one, with `SO_REUSEPORT` set
on the socket before.  The kernel refuses a port in use unless both sockets have that
option, so the ports of two operations are different only as far as the draws are.

* `Kernel.bind` — when a port is granted.
* `serverPorts` — the threads of the server with the sockets of the kernel.
* `data_ports_apart_iff` — the ports of live operations are different as long as every port
  bound is that of no other.
-/

namespace Stftpu

open Library

/-! ## Sockets -/

/-- `SERVER_DATA_PORT_MIN`. -/
def serverDataPortMin : Nat := 49152

/-- `SERVER_DATA_PORT_MAX`. -/
def serverDataPortMax : Nat := 49999

/-- `random_range`, of what `rand` returned. -/
def randomRange (min max random : Nat) : Nat :=
  random % (max - min + 1) + min

/-- The port drawn for a data socket of the server. -/
def drawnPort (random : Nat) : UInt16 :=
  UInt16.ofNat (randomRange serverDataPortMin serverDataPortMax random)

/-- A socket that is bound. -/
structure BoundSocket where
  fd : Int
  port : UInt16
  /-- `SO_REUSEPORT`. -/
  reusePort : Bool
  deriving DecidableEq, Repr

/-- The bound sockets of the host: the data sockets of the server, and the rest. -/
structure Kernel where
  data : List BoundSocket
  others : List BoundSocket
  deriving DecidableEq, Repr

namespace Kernel

/-- A port can be bound unless it is in use and one of the sockets does not share it. -/
def grants (kernel : Kernel) (socket : BoundSocket) : Bool :=
  (kernel.data ++ kernel.others).all fun other =>
    other.port != socket.port || (other.reusePort && socket.reusePort)

/-- `bind`. -/
def bind (kernel : Kernel) (socket : BoundSocket) : Option Kernel :=
  if kernel.grants socket then some { kernel with data := kernel.data ++ [socket] } else none

/-- `close`. -/
def close (kernel : Kernel) (fd : Int) : Kernel :=
  { kernel with data := kernel.data.filter fun socket => socket.fd != fd }

/-- The descriptor is open. -/
def IsOpen (kernel : Kernel) (fd : Int) : Prop :=
  ∃ socket ∈ kernel.data, socket.fd = fd

instance (kernel : Kernel) : DecidablePred kernel.IsOpen := fun fd =>
  inferInstanceAs (Decidable (∃ socket ∈ kernel.data, socket.fd = fd))

end Kernel

/-- The loop of `tftp_init_bound_data_socket`, with the values `rand` returned in it: the
last of them gave a port that could be bound. -/
def tftpInitBoundDataSocket (kernel : Kernel) (fd : Int) :
    List Nat → Option (Kernel × UInt16)
  | [] => none
  | random :: draws =>
      let socket : BoundSocket := { fd := fd, port := drawnPort random, reusePort := true }
      match kernel.bind socket with
      | some kernel => if draws = [] then some (kernel, socket.port) else none
      | none => tftpInitBoundDataSocket kernel fd draws

theorem initBoundDataSocket_eq {kernel kernel' : Kernel} {fd : Int} {draws : List Nat}
    {port : UInt16} (h : tftpInitBoundDataSocket kernel fd draws = some (kernel', port)) :
    (∃ random, draws.getLast? = some random ∧ port = drawnPort random) ∧
      kernel' =
        { kernel with
          data := kernel.data ++ [{ fd := fd, port := port, reusePort := true }] } := by
  induction draws with
  | nil => cases h
  | cons random draws ih =>
      simp only [tftpInitBoundDataSocket] at h
      split at h
      · rename_i granted hbind
        split at h
        · rename_i hlast
          obtain ⟨rfl, rfl⟩ := Prod.mk.inj (Option.some.inj h)
          unfold Kernel.bind at hbind
          split at hbind
          · exact ⟨⟨random, by simp [hlast], rfl⟩, (Option.some.inj hbind).symm⟩
          · cases hbind
        · cases h
      · obtain ⟨⟨last, hlast, hport⟩, hkernel⟩ := ih h
        refine ⟨⟨last, ?_, hport⟩, hkernel⟩
        rw [List.getLast?_cons, hlast]
        rfl

/-! ## The server and the kernel -/

/-- The data socket of the listener's operation, until it is freed. -/
def ListenerPoint.dataSocket : ListenerPoint → Option Int
  | .rejecting _ fd _ _ => some fd
  | .closing _ fd => some fd
  | .spawning _ op => some op.dataSocket
  | _ => none

/-- The operation a task has; one that has not begun finds it in its slot. -/
def TaskThread.operation (slots : ServerSlots) (task : TaskThread) : Option OperationData :=
  match task.state with
  | none => slots.opDataPtr task.slot
  | some state => state.operation

/-- The data socket of the operation a thread has. -/
def ServerProcess.dataSocket (s : ServerProcess) : ServerThread → Option Int
  | .listener => s.listener.state.point.dataSocket
  | .task k => (s.tasks[k]?).bind fun task =>
      (task.operation s.slots).map OperationData.dataSocket

namespace ProcessMove

/-- The descriptor a step closes. -/
def closes : ProcessMove → Option Int
  | .listener (.close fd) => some fd
  | .task _ (.close fd) => some fd
  | _ => none

/-- `tftp_init_bound_data_socket` returned. -/
def binds : ProcessMove → Bool
  | .listener (.dataSocket (.bound _ _)) => true
  | _ => false

end ProcessMove

structure ServerPorts where
  process : ServerProcess
  kernel : Kernel

/-- The server at its start, among the sockets of other programs. -/
def ServerPorts.start (others : List BoundSocket) : ServerPorts :=
  { process := ServerProcess.start, kernel := { data := [], others := others } }

inductive PortsMove
  | process (m : ProcessMove)
  /-- `tftp_init_bound_data_socket`, for which the kernel gave a descriptor that was not in
  use, and `rand` these values. -/
  | dataSocket (fd : Int) (draws : List Nat)
  /-- Other programs bind and close sockets of theirs. -/
  | others (sockets : List BoundSocket)
  deriving DecidableEq, Repr

/-- What a step does to the sockets. -/
def Kernel.after (kernel : Kernel) (m : ProcessMove) : Kernel :=
  match m.closes with
  | some fd => kernel.close fd
  | none => kernel

/-- One step of the server's threads on the kernel's sockets. -/
def serverPorts (host : Host) (mem : ListenerMemory) (s : ServerPorts) :
    PortsMove → Option ServerPorts
  | .process m =>
      if m.binds then
        none
      else
        (serverProcess host mem s.process m).map fun process =>
          { process := process, kernel := s.kernel.after m }
  | .dataSocket fd draws =>
      if fd < 0 ∨ s.kernel.IsOpen fd then
        none
      else do
        let (kernel, port) ← tftpInitBoundDataSocket s.kernel fd draws
        let process ← serverProcess host mem s.process
          (.listener (.dataSocket (.bound fd port)))
        some { process := process, kernel := kernel }
  | .others sockets => some { s with kernel.others := sockets }

namespace ServerPorts

/-- The data socket of a thread's operation is bound to the port. -/
def HasPort (s : ServerPorts) (t : ServerThread) (port : UInt16) : Prop :=
  ∃ socket ∈ s.kernel.data, s.process.dataSocket t = some socket.fd ∧ socket.port = port

/-- No two live operations have their data sockets bound to one port. -/
def PortsApart (s : ServerPorts) : Prop :=
  ∀ t u port, s.HasPort t port → s.HasPort u port → t = u

/-- The port of the last value drawn for a data socket, the one that is bound, is that of
no live operation. -/
def Avoids (s : ServerPorts) (m : PortsMove) : Prop :=
  ∀ fd draws, m = .dataSocket fd draws → ∀ random ∈ draws.getLast?,
    ∀ t, ¬ s.HasPort t (drawnPort random)

end ServerPorts

/-- The threads there are. -/
def ServerProcess.threads (s : ServerProcess) : List ServerThread :=
  .listener :: (List.range s.tasks.length).map .task

theorem ServerProcess.mem_threads {s : ServerProcess} {t : ServerThread} {fd : Int}
    (h : s.dataSocket t = some fd) : t ∈ s.threads := by
  cases t with
  | listener => exact List.mem_cons_self
  | task k =>
      obtain ⟨task, htask, -⟩ := Option.bind_eq_some_iff.mp h
      refine List.mem_cons_of_mem _ (List.mem_map.mpr ⟨k, ?_, rfl⟩)
      exact List.mem_range.mpr (List.getElem?_eq_some_iff.mp htask).1

instance (s : ServerPorts) (t : ServerThread) (port : UInt16) : Decidable (s.HasPort t port) :=
  inferInstanceAs (Decidable (∃ socket ∈ s.kernel.data,
    s.process.dataSocket t = some socket.fd ∧ socket.port = port))

instance (s : ServerPorts) : DecidablePred s.Avoids := fun m =>
  match m with
  | .dataSocket _ draws =>
      decidable_of_iff (∀ random ∈ draws.getLast?, ∀ t ∈ s.process.threads,
          ¬ s.HasPort t (drawnPort random)) (by
        constructor
        · intro h fd' draws' hm random hlast t ht
          obtain ⟨-, rfl⟩ := PortsMove.dataSocket.inj hm
          obtain ⟨socket, -, hsocket, -⟩ := id ht
          exact h random hlast t (ServerProcess.mem_threads hsocket) ht
        · intro h random hlast t _
          exact h _ _ rfl random hlast t)
  | .process _ => isTrue (by rintro fd draws ⟨⟩)
  | .others _ => isTrue (by rintro fd draws ⟨⟩)

/-! ## What becomes of a socket -/

section Listener

variable {host : Host} {mem : ListenerMemory} {s s' : ListenerState} {e : Event} {fd : Int}

theorem dataSocket_refuse (reply : ErrorReply) : (s.refuse reply).point.dataSocket = none := by
  unfold ListenerState.refuse
  split <;> rfl

theorem dataSocket_dispatch : (s.dispatch host mem).point.dataSocket = none := by
  unfold ListenerState.dispatch
  split
  · rfl
  · split
    · rfl
    · split
      · rfl
      · split
        · rfl
        · exact dataSocket_refuse _

theorem dataSocket_onAcquired (slot : Option Nat) :
    (s.onAcquired host mem slot).point.dataSocket = none := by
  unfold ListenerState.onAcquired
  split
  · exact dataSocket_refuse _
  · split <;> rfl

theorem dataSocket_freeOperationData {slot : Nat} {fd' : Int}
    (h : (s.freeOperationData slot fd).point.dataSocket = some fd') : fd = fd' := by
  unfold ListenerState.freeOperationData at h
  split at h
  · exact Option.some.inj h
  · cases h

/-- The listener has the socket it has bound, or gives it up. -/
theorem dataSocket_onInitialized {slot : Nat} {args : InitArguments} {port : UInt16}
    {fd' : Int} (h : (s.onInitialized slot args (.bound fd port)).point.dataSocket = some fd') :
    fd' = fd := by
  unfold ListenerState.onInitialized at h
  split at h
  · split at h <;> cases h
  · cases h
  · rename_i hinit
    have hsocket := Option.some.inj (initOperation_socket hinit)
    split at h
    · exact (Option.some.inj h).symm.trans hsocket
    · exact (dataSocket_freeOperationData h).symm.trans hsocket
  · rename_i hinit
    exact (Option.some.inj h).symm.trans (Option.some.inj (initOperation_socket hinit))

theorem dataSocket_exits {slot : Nat} {args : InitArguments} :
    (s.onInitialized slot args .exits).point.dataSocket = none := by
  have hexits : ∀ outcome, tftpInitOperationData .exits args = some outcome →
      outcome = .exits := by
    intro outcome h
    obtain ⟨path, -, h⟩ := Option.bind_eq_some_iff.mp h
    exact (Option.some.inj h).symm
  unfold ListenerState.onInitialized
  split
  · split <;> rfl
  · rfl
  · rename_i hinit
    cases hexits _ hinit
  · rename_i hinit
    cases hexits _ hinit

/-- The listener keeps its socket, or gives it up, in every other step of its loop. -/
theorem dataSocket_step (hbinds : (ProcessMove.listener e).binds = false)
    (hcall : s.point.inCall = false)
    (hstep : serverListenerLoop host mem s e = some s')
    (h : s'.point.dataSocket = some fd) : s.point.dataSocket = some fd := by
  cases loop_called hstep with
  | looping set hpoint => cases set <;> cases h
  | awaiting result hpoint => cases result <;> cases h
  | received set hpoint =>
      cases set with
      | true => cases h
      | false =>
          rw [if_neg Bool.false_ne_true, dataSocket_dispatch] at h
          cases h
  | refusing reply ok hpoint => cases h
  | initializing slot args socket hpoint =>
      cases socket with
      | exits =>
          rw [dataSocket_exits] at h
          cases h
      | bound fd port => cases hbinds
  | rejecting slot fd client reply ok hpoint =>
      rw [hpoint]
      exact congrArg some (dataSocket_freeOperationData h)
  | closing slot fd hpoint => cases h
  | acquiring slot hpoint | releasing slot hpoint | spawning slot op ok hpoint =>
      -- the calls of several steps
      rw [hpoint] at hcall
      cases hcall

end Listener

section Tasks

variable {host : Host} {mem : ListenerMemory} {s s' : ServerProcess} {m : ProcessMove}
  {k : Nat} {task task' : TaskThread} {fd : Int}

/-- A task keeps its socket, or gives it up. -/
theorem TaskMoved.dataSocket (h : TaskMoved host s m k task task') (htidy : task.Tidy)
    {slots : ServerSlots}
    (hslots : task'.Live → slots.opDataPtr task.slot = s.slots.opDataPtr task.slot)
    (hfd : (task'.operation slots).map OperationData.dataSocket = some fd) :
    (task.operation s.slots).map OperationData.dataSocket = some fd := by
  cases h with
  | stayed =>
      unfold TaskThread.operation at hfd ⊢
      -- a task that has not begun has its operation in the slot
      cases hstate : task.state with
      | none =>
          rw [hstate] at hfd
          rw [← hslots (by simp [TaskThread.Live, TaskThread.ended, hstate])]
          exact hfd
      | some state =>
          rw [hstate] at hfd
          exact hfd
  | began hm hstate =>
      cases hop : s.slots.opDataPtr task.slot with
      | none =>
          rw [hop] at hfd
          cases hfd
      | some op =>
          rw [hop] at hfd
          simpa [TaskThread.operation, TaskThread.onBegin, TaskState.operation, hstate, hop]
            using hfd
  | called e state state' hm hstate hnot hcall =>
      obtain ⟨op', hop', rfl⟩ := Option.map_eq_some_iff.mp hfd
      -- a call keeps the operation's socket as long as there is an operation
      obtain ⟨op, hop, hsocket⟩ :=
        (TaskState.accounts_step (htidy state hstate) hcall).operation op' hop'
      have hfd' : op.dataSocket = op'.dataSocket := congrArg Prod.fst hsocket.symm
      simp [TaskThread.operation, hstate, hop, hfd']
  | detached result hm hstate => simp [TaskThread.operation, hstate, TaskState.operation] at hfd
  | releasing result next hm hstate hdetached =>
      simp [TaskThread.operation, hstate, TaskState.operation] at hfd
  | released result hm hstate hdetached => cases hfd

/-- In every step but the binding of a socket and the creation of a task, each thread keeps
its socket, or gives it up. -/
theorem dataSocket_kept (h : ProcessOk s) (hstep : serverProcess host mem s m = some s')
    (hbinds : m.binds = false) (hcreate : m ≠ .create) {t : ServerThread}
    (hfd : s'.dataSocket t = some fd) : s.dataSocket t = some fd := by
  cases t with
  | listener =>
      change s'.listener.state.point.dataSocket = some fd at hfd
      cases listener_moved hstep with
      | stayed heq =>
          rw [heq] at hfd
          exact hfd
      | looped e hm hcall hloop =>
          rw [hm] at hbinds
          exact dataSocket_step hbinds hcall hloop hfd
      | acquired slot hpoint heq =>
          rw [heq, dataSocket_onAcquired] at hfd
          cases hfd
      | cleared heq =>
          rw [heq] at hfd
          cases hfd
  | task k =>
      obtain ⟨task', htask', hfd'⟩ := Option.bind_eq_some_iff.mp hfd
      rcases task_origin hstep htask' with ⟨task, htask, hmoved⟩ | ⟨slot, op, rfl, -⟩
      · refine Option.bind_eq_some_iff.mpr ⟨task, htask, ?_⟩
        refine hmoved.dataSocket (h.tidy k task htask) ?_ hfd'
        -- the listener stores only into its own slot, which is not a live task's
        intro hlive
        refine ServerProcess.opDataPtr_step hstep ?_
        intro hstores
        exact ServerProcess.slot_ne_listener h.slots htask (hmoved.live hlive)
          (ServerProcess.phase_of_stores hstores) rfl
      · exact absurd rfl hcreate

/-- A task that is created takes over the socket of the listener. -/
theorem dataSocket_created (h : ProcessOk s) (hstep : serverProcess host mem s .create = some s')
    {t : ServerThread} (hfd : s'.dataSocket t = some fd) :
    s.dataSocket (Equiv.swap .listener (.task s.tasks.length) t) = some fd := by
  obtain ⟨slot, op, hpoint, hspawn, rfl⟩ := create_eq hstep
  cases t with
  | listener => cases hfd
  | task k =>
      obtain ⟨task', htask', hfd'⟩ := Option.bind_eq_some_iff.mp hfd
      by_cases hk : k = s.tasks.length
      · subst hk
        obtain rfl : TaskThread.create slot = task' := by simpa using htask'
        have hop := h.stored slot op hpoint (by rw [hspawn]; simp)
        rw [Equiv.swap_apply_right]
        simpa [TaskThread.operation, TaskThread.create, hop, ServerProcess.dataSocket,
          ListenerPoint.dataSocket, hpoint] using hfd'
      · have hlt : k < s.tasks.length := by
          have := (List.getElem?_eq_some_iff.mp htask').1
          simp at this
          omega
        rw [Equiv.swap_apply_of_ne_of_ne (by simp) (by simp [hk])]
        rw [List.getElem?_append_left hlt] at htask'
        exact Option.bind_eq_some_iff.mpr ⟨task', htask', hfd'⟩

/-- A thread that closes a descriptor has it as its socket, and gives it up. -/
theorem dataSocket_closed (h : ProcessOk s) (hstep : serverProcess host mem s m = some s')
    (hcloses : m.closes = some fd) :
    ∃ t, s.dataSocket t = some fd ∧ s'.dataSocket t = none := by
  unfold ProcessMove.closes at hcloses
  split at hcloses
  · obtain rfl := Option.some.inj hcloses
    obtain ⟨-, state, hloop, rfl⟩ := listener_eq hstep
    refine ⟨.listener, ?_⟩
    cases loop_called hloop with
    | closing slot fd hpoint =>
        exact ⟨by simp [ServerProcess.dataSocket, ListenerPoint.dataSocket, hpoint], rfl⟩
  · rename_i k fd'
    obtain rfl := Option.some.inj hcloses
    obtain ⟨task, state, state', htask, hstate, -, hcall, rfl⟩ := task_eq hstep
    obtain ⟨op, result, rfl, rfl, rfl⟩ :=
      (TaskState.accounts_step (h.tidy k task htask state hstate) hcall).closes _ rfl
    refine ⟨.task k, ?_, ?_⟩
    · simp [ServerProcess.dataSocket, htask, TaskThread.operation, hstate, TaskState.operation]
    · have hlt : k < s.tasks.length := (List.getElem?_eq_some_iff.mp htask).1
      simp [ServerProcess.dataSocket, ServerProcess.setTask, hlt, TaskThread.operation,
        TaskThread.enter, TaskState.operation]
  · cases hcloses

/-- Where the sockets of the threads come from, in every step but the binding of one. -/
theorem dataSocket_origin (h : ProcessOk s) (hstep : serverProcess host mem s m = some s')
    (hbinds : m.binds = false) :
    ∃ from' : ServerThread → ServerThread, Function.Injective from' ∧
      (∀ t fd, s'.dataSocket t = some fd → s.dataSocket (from' t) = some fd) ∧
      (m.closes ≠ none → from' = id) := by
  by_cases hcreate : m = .create
  · subst hcreate
    exact ⟨Equiv.swap .listener (.task s.tasks.length), Equiv.injective _,
      fun t fd hfd => dataSocket_created h hstep hfd, fun hcloses => absurd rfl hcloses⟩
  · exact ⟨id, Function.injective_id, fun t fd hfd => dataSocket_kept h hstep hbinds hcreate hfd,
      fun _ => rfl⟩

end Tasks

/-! ## The ports over a run -/

namespace ServerPorts

/-- What holds of the sockets after every step. -/
structure Ok (s : ServerPorts) : Prop extends ProcessOk s.process where
  /-- The socket of a live operation is open. -/
  isOpen : ∀ t fd, s.process.dataSocket t = some fd → s.kernel.IsOpen fd
  /-- It is that of no other. -/
  apart : ∀ t u fd, s.process.dataSocket t = some fd → s.process.dataSocket u = some fd → t = u

section Steps

variable {host : Host} {mem : ListenerMemory} {s s' : ServerPorts} {m : PortsMove}

theorem Ok.start (others : List BoundSocket) : (ServerPorts.start others).Ok where
  toProcessOk := ProcessOk.start
  isOpen := by
    intro t fd hfd
    cases t <;> cases hfd
  apart := by
    intro t u fd hfd
    cases t <;> cases hfd

/-- A step of the threads leaves the sockets in order, and gives no thread a port that was
not one's before. -/
theorem Ok.process (h : s.Ok) {move : ProcessMove} {process : ServerProcess}
    (hbinds : move.binds = false)
    (hstep : serverProcess host mem s.process move = some process) :
    ({ process := process, kernel := s.kernel.after move } : ServerPorts).Ok ∧
      (s.PortsApart →
        ({ process := process, kernel := s.kernel.after move } : ServerPorts).PortsApart) := by
  obtain ⟨from', hinj, horigin, hid⟩ := dataSocket_origin h.toProcessOk hstep hbinds
  have hsubset : ∀ socket ∈ (s.kernel.after move).data, socket ∈ s.kernel.data := by
    intro socket hmem
    unfold Kernel.after at hmem
    split at hmem
    · exact (List.mem_filter.mp hmem).1
    · exact hmem
  refine ⟨⟨h.toProcessOk.step hstep, ?_, ?_⟩, ?_⟩
  · intro t fd hfd
    obtain ⟨socket, hmem, hsocket⟩ := h.isOpen _ _ (horigin t fd hfd)
    refine ⟨socket, ?_, hsocket⟩
    unfold Kernel.after
    cases hcloses : move.closes with
    | none => exact hmem
    | some closed =>
        refine List.mem_filter.mpr ⟨hmem, ?_⟩
        -- the thread that closed a socket has none any more
        obtain ⟨u, hu, hu'⟩ := dataSocket_closed h.toProcessOk hstep hcloses
        have hne : fd ≠ closed := by
          rintro rfl
          have hthread := h.apart _ _ _ (horigin t fd hfd) hu
          rw [hid (by simp [hcloses])] at hthread
          obtain rfl : t = u := hthread
          rw [hu'] at hfd
          cases hfd
        simpa [hsocket] using hne
  · intro t u fd ht hu
    exact hinj (h.apart _ _ fd (horigin t fd ht) (horigin u fd hu))
  · intro happart t u port ⟨socket, hmem, ht, hport⟩ ⟨socket', hmem', hu, hport'⟩
    apply hinj
    exact happart _ _ port ⟨socket, hsubset socket hmem, horigin t _ ht, hport⟩
      ⟨socket', hsubset socket' hmem', horigin u _ hu, hport'⟩

/-- The listener has no socket before it binds one, and then has that one, or none. -/
theorem dataSocket_bind {process process' : ServerProcess} {fd : Int} {port : UInt16}
    (hstep : serverProcess host mem process (.listener (.dataSocket (.bound fd port))) =
      some process') :
    process.dataSocket .listener = none ∧
      (∀ fd', process'.dataSocket .listener = some fd' → fd' = fd) ∧
      ∀ k, process'.dataSocket (.task k) = process.dataSocket (.task k) := by
  obtain ⟨-, state, hloop, rfl⟩ := listener_eq hstep
  cases loop_called hloop with
  | initializing slot args socket hpoint =>
      refine ⟨by simp [ServerProcess.dataSocket, ListenerPoint.dataSocket, hpoint], ?_,
        fun _ => rfl⟩
      intro fd' hfd
      exact dataSocket_onInitialized hfd

/-- The binding of a socket leaves the sockets in order, and the ports of the other threads
as they are. -/
theorem Ok.bind (h : s.Ok) {fd : Int} {draws : List Nat} {kernel : Kernel} {port : UInt16}
    {process : ServerProcess} (hfd : ¬ s.kernel.IsOpen fd)
    (hinit : tftpInitBoundDataSocket s.kernel fd draws = some (kernel, port))
    (hstep : serverProcess host mem s.process (.listener (.dataSocket (.bound fd port))) =
      some process) :
    ({ process := process, kernel := kernel } : ServerPorts).Ok ∧
      (∀ t port', ({ process := process, kernel := kernel } : ServerPorts).HasPort t port' →
        s.HasPort t port' ∨ t = .listener ∧ port' = port) ∧
      ∀ t, t ≠ .listener → ∀ port', s.HasPort t port' →
        ({ process := process, kernel := kernel } : ServerPorts).HasPort t port' := by
  obtain ⟨-, hkernel⟩ := initBoundDataSocket_eq hinit
  obtain ⟨hbefore, hlistener, htask⟩ := dataSocket_bind hstep
  have hdata : ∀ socket, socket ∈ kernel.data ↔
      socket ∈ s.kernel.data ∨ socket = { fd := fd, port := port, reusePort := true } := by
    intro socket
    rw [hkernel]
    simp
  -- the descriptors of the tasks were open before
  have hne : ∀ k fd', process.dataSocket (.task k) = some fd' → fd' ≠ fd := by
    rintro k fd' hk rfl
    rw [htask] at hk
    exact hfd (h.isOpen _ _ hk)
  refine ⟨⟨h.toProcessOk.step hstep, ?_, ?_⟩, ?_, ?_⟩
  · intro t fd' ht
    cases t with
    | listener =>
        obtain rfl := hlistener fd' ht
        exact ⟨_, (hdata _).mpr (Or.inr rfl), rfl⟩
    | task k =>
        rw [htask] at ht
        obtain ⟨socket, hmem, hsocket⟩ := h.isOpen _ _ ht
        exact ⟨socket, (hdata _).mpr (Or.inl hmem), hsocket⟩
  · intro t u fd' ht hu
    cases t with
    | listener =>
        cases u with
        | listener => rfl
        | task k => exact absurd (hlistener fd' ht) (hne k fd' hu)
    | task k =>
        cases u with
        | listener => exact absurd (hlistener fd' hu) (hne k fd' ht)
        | task j =>
            rw [htask] at ht hu
            exact h.apart _ _ fd' ht hu
  · intro t port' ⟨socket, hmem, ht, hport⟩
    cases t with
    | listener =>
        have hsocket := hlistener _ ht
        rcases (hdata socket).mp hmem with hold | rfl
        · exact absurd ⟨socket, hold, hsocket⟩ hfd
        · exact Or.inr ⟨rfl, hport.symm⟩
    | task k =>
        have hsocket := hne k _ ht
        rcases (hdata socket).mp hmem with hold | rfl
        · rw [htask] at ht
          exact Or.inl ⟨socket, hold, ht, hport⟩
        · exact absurd rfl hsocket
  · rintro t hlis port' ⟨socket, hmem, ht, hport⟩
    cases t with
    | listener => exact absurd rfl hlis
    | task k => exact ⟨socket, (hdata _).mpr (Or.inl hmem), by rw [htask, ht], hport⟩

/-- All that a step of the server on the kernel's sockets does. -/
theorem ports_cases (hstep : serverPorts host mem s m = some s') :
    (∃ move process, m = .process move ∧ move.binds = false ∧
      serverProcess host mem s.process move = some process ∧
      s' = { process := process, kernel := s.kernel.after move }) ∨
    (∃ fd draws kernel port process, m = .dataSocket fd draws ∧ ¬ s.kernel.IsOpen fd ∧
      tftpInitBoundDataSocket s.kernel fd draws = some (kernel, port) ∧
      serverProcess host mem s.process (.listener (.dataSocket (.bound fd port))) =
        some process ∧
      s' = { process := process, kernel := kernel }) ∨
    ∃ sockets, m = .others sockets ∧ s' = { s with kernel.others := sockets } := by
  cases m with
  | process move =>
      simp only [serverPorts] at hstep
      split at hstep
      · cases hstep
      · rename_i hbinds
        obtain ⟨process, hprocess, rfl⟩ := Option.map_eq_some_iff.mp hstep
        exact Or.inl ⟨move, process, rfl, by simpa using hbinds, hprocess, rfl⟩
  | dataSocket fd draws =>
      simp only [serverPorts] at hstep
      split at hstep
      · cases hstep
      · rename_i hfd
        obtain ⟨⟨kernel, port⟩, hinit, hrest⟩ := Option.bind_eq_some_iff.mp hstep
        obtain ⟨process, hprocess, hs'⟩ := Option.bind_eq_some_iff.mp hrest
        exact Or.inr (Or.inl ⟨fd, draws, kernel, port, process, rfl,
          fun hopen => hfd (Or.inr hopen), hinit, hprocess, (Option.some.inj hs').symm⟩)
  | others sockets => exact Or.inr (Or.inr ⟨sockets, rfl, (Option.some.inj hstep).symm⟩)

theorem Ok.step (h : s.Ok) (hstep : serverPorts host mem s m = some s') : s'.Ok := by
  rcases ports_cases hstep with ⟨move, process, -, hbinds, hprocess, rfl⟩ |
    ⟨fd, draws, kernel, port, process, -, hfd, hinit, hprocess, rfl⟩ | ⟨sockets, -, rfl⟩
  · exact (h.process hbinds hprocess).1
  · exact (h.bind hfd hinit hprocess).1
  · exact ⟨h.toProcessOk, h.isOpen, h.apart⟩

/-- A port that is no live operation's leaves the ports apart. -/
theorem Ok.apart_step (h : s.Ok) (happart : s.PortsApart) (havoids : s.Avoids m)
    (hstep : serverPorts host mem s m = some s') : s'.PortsApart := by
  rcases ports_cases hstep with ⟨move, process, -, hbinds, hprocess, rfl⟩ |
    ⟨fd, draws, kernel, port, process, rfl, hfd, hinit, hprocess, rfl⟩ | ⟨sockets, -, rfl⟩
  · exact (h.process hbinds hprocess).2 happart
  · obtain ⟨⟨random, hlast, rfl⟩, -⟩ := initBoundDataSocket_eq hinit
    have hnone := havoids fd draws rfl random hlast
    obtain ⟨-, hports, -⟩ := h.bind hfd hinit hprocess
    intro t u port ht hu
    rcases hports t port ht with ht | ⟨rfl, rfl⟩
    · rcases hports u port hu with hu | ⟨rfl, rfl⟩
      · exact happart t u port ht hu
      · exact absurd ht (hnone t)
    · rcases hports u _ hu with hu | ⟨rfl, -⟩
      · exact absurd hu (hnone u)
      · rfl
  · exact happart

end Steps

/-- The binding of a socket leads to a live operation. -/
def BindsLive (host : Host) (mem : ListenerMemory) (s : ServerPorts) (m : PortsMove) : Prop :=
  ∃ s' ∈ serverPorts host mem s m, s'.process.dataSocket .listener ≠ none

/-- Where the ports are apart behind the binding of a live operation's socket, the port was
that of no other. -/
theorem Ok.avoids_of_apart {host : Host} {mem : ListenerMemory} {s s' : ServerPorts}
    {m : PortsMove} (h : s.Ok) (hstep : serverPorts host mem s m = some s')
    (happart : s'.PortsApart) (hlive : BindsLive host mem s m) : s.Avoids m := by
  rintro fd draws rfl random hlast t ht
  rcases ports_cases hstep with ⟨move, process, hm, -⟩ |
    ⟨fd', draws', kernel, port, process, hm, hfd, hinit, hprocess, rfl⟩ | ⟨sockets, hm, -⟩
  · cases hm
  · obtain ⟨rfl, rfl⟩ := PortsMove.dataSocket.inj hm
    obtain ⟨⟨last, hlast', rfl⟩, hkernel⟩ := initBoundDataSocket_eq hinit
    obtain rfl : random = last := Option.some.inj (hlast.symm.trans hlast')
    obtain ⟨hbefore, hlistener, -⟩ := dataSocket_bind hprocess
    obtain ⟨-, -, hothers⟩ := h.bind hfd hinit hprocess
    have hne : t ≠ .listener := by
      rintro rfl
      obtain ⟨socket, -, hsocket, -⟩ := ht
      rw [hbefore] at hsocket
      cases hsocket
    obtain ⟨s₁, hs₁, hsome⟩ := hlive
    obtain rfl := Option.some.inj (hstep.symm.trans hs₁)
    obtain ⟨fd', hfd'⟩ := Option.ne_none_iff_exists'.mp hsome
    rw [hlistener fd' hfd'] at hfd'
    refine hne (happart t .listener _ (hothers t hne _ ht)
      ⟨{ fd := fd, port := drawnPort random, reusePort := true }, ?_, hfd', rfl⟩)
    simp [hkernel]
  · cases hm

end ServerPorts

section Results

variable {host : Host} {mem : ListenerMemory} {s : ServerPorts} {others : List BoundSocket}
  {tr : List PortsMove}

theorem ServerPorts.ok_of_run (hrun : Run (serverPorts host mem) (.start others) tr s) : s.Ok :=
  hrun.invariant (fun _ _ _ h hstep => h.step hstep) (ServerPorts.Ok.start others)

/-- The ports of the live operations are apart after every run in which each socket is
bound to a port that is no live operation's.  Nothing but the draws sees to that: in a run
whose states all have the ports apart, each socket of a live operation is bound so. -/
theorem data_ports_apart_iff (hrun : Run (serverPorts host mem) (.start others) tr s) :
    (EveryStep (serverPorts host mem) ServerPorts.Avoids (.start others) tr →
      s.PortsApart) ∧
    (EveryStep (serverPorts host mem) (fun s _ => s.PortsApart) (.start others) tr →
      s.PortsApart →
      EveryStep (serverPorts host mem)
        (fun s m => s.BindsLive host mem m → s.Avoids m) (.start others) tr) := by
  constructor
  · intro havoids
    induction hrun with
    | nil =>
        rintro t u port ⟨socket, hmem, -⟩
        cases hmem
    | snoc hrun hstep ih =>
        rw [everyStep_snoc_iff hrun] at havoids
        exact (ServerPorts.ok_of_run hrun).apart_step (ih havoids.1) havoids.2 hstep
  · intro happart hlast
    induction hrun with
    | nil => trivial
    | snoc hrun hstep ih =>
        rw [everyStep_snoc_iff hrun] at happart ⊢
        exact ⟨ih happart.1 happart.2,
          fun hlive => (ServerPorts.ok_of_run hrun).avoids_of_apart hstep hlast hlive⟩

end Results

section FixedRuns

/-- A request whose data socket gets the port of one value drawn. -/
def portsRequest (client : SockAddr) (slot : Nat) (fd : Int) (random : Nat) : List PortsMove :=
  (arrivalMoves client slot).map .process ++ [.dataSocket fd [random]] ++
    spawnMoves.map .process

set_option maxRecDepth 4000 in
theorem data_ports_apart_two :
    ∃ s, Run (serverPorts littleHost .strict) (.start [])
        (portsRequest (localhost 50001) 0 4 0 ++ portsRequest (localhost 50002) 1 5 1) s ∧
      s.HasPort (.task 0) 49152 ∧ s.HasPort (.task 1) 49153 ∧ s.PortsApart := by
  have hrun : ∃ s, Run (serverPorts littleHost .strict) (.start [])
      (portsRequest (localhost 50001) 0 4 0 ++ portsRequest (localhost 50002) 1 5 1) s ∧
      s.HasPort (.task 0) 49152 ∧ s.HasPort (.task 1) 49153 :=
    exists_run_of_exec (by decide)
  obtain ⟨s, hrun, hfirst, hsecond⟩ := hrun
  exact ⟨s, hrun, hfirst, hsecond, (data_ports_apart_iff hrun).1 (by decide)⟩

set_option maxRecDepth 4000 in
/-- Two requests for which `rand` returns the same value have one port. -/
theorem data_ports_shared :
    ¬ ∀ (tr : List PortsMove) (s : ServerPorts),
      Run (serverPorts littleHost .strict) (.start []) tr s → s.PortsApart := by
  intro hall
  have hrun : ∃ s, Run (serverPorts littleHost .strict) (.start [])
      (portsRequest (localhost 50001) 0 4 0 ++ portsRequest (localhost 50002) 1 5 0) s ∧
      s.HasPort (.task 0) 49152 ∧ s.HasPort (.task 1) 49152 :=
    exists_run_of_exec (by decide)
  obtain ⟨s, hrun, hfirst, hsecond⟩ := hrun
  have heq := hall _ s hrun _ _ _ hfirst hsecond
  cases heq

end FixedRuns

end Stftpu
