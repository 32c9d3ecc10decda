import Stftpu.Server.DataPorts
import Stftpu.Server.ReadBounds
import Stftpu.Server.Refusals

/-!
# Failing system calls behind a request

Between `server_acquire_connection_slot` and `pthread_create` the listener makes the system
calls of `tftp_init_bound_data_socket`.  Some failures of theirs end the program and others
are tried again for ever, while the callers are ready to give the slot back and go on.

* `tftpInitBoundDataSocketCall` — the function call by call.
* `serverSetup` — the listener in these calls, among the tasks.
* `SettingUp` — where the listener may be as long as the calls go well.
* `failures_isolated_iff` — a failure stays with its request exactly if none ends the program
  and `bind` succeeds in the end.
-/

namespace Stftpu

open Library

/-! ## `tftp_init_bound_data_socket` -/

/-- The options set on a data socket. -/
inductive SocketOption
  | reuseAddr
  | reusePort
  | rcvTimeo
  deriving DecidableEq, Repr

/-- What the calls of `tftp_init_bound_data_socket` return, `rand` and `bind` in every turn of
the loop. -/
structure SocketResults where
  socket : Int
  setsockopt : SocketOption → Int
  rand : Nat → Nat
  bind : Nat → Int

/-- Inside `tftp_init_bound_data_socket`. -/
inductive SocketPoint
  | creating
  | setting (fd : Int) (option : SocketOption)
  /-- `bind`, behind so many that failed. -/
  | binding (fd : Int) (turn : Nat)
  deriving DecidableEq, Repr

/-- One call of `tftp_init_bound_data_socket`: the next one, or what the function came to.
The test behind the loop never finds a failure. -/
def tftpInitBoundDataSocketCall (results : SocketResults) : SocketPoint → SocketPoint ⊕ DataSocket
  | .creating =>
      if results.socket < 0 then .inr .exits else .inl (.setting results.socket .reuseAddr)
  | .setting fd option =>
      if results.setsockopt option < 0 then
        .inr .exits
      else
        match option with
        | .reuseAddr => .inl (.setting fd .reusePort)
        | .reusePort => .inl (.setting fd .rcvTimeo)
        | .rcvTimeo => .inl (.binding fd 0)
  | .binding fd turn =>
      if results.bind turn < 0 then
        .inl (.binding fd (turn + 1))
      else
        .inr (.bound fd (drawnPort (results.rand turn)))

/-! ## The server while a request is set up -/

structure ServerSetup where
  process : ServerProcess
  /-- The call reached in `tftp_init_bound_data_socket`, while the listener is there. -/
  socket : SocketPoint

/-- The listener enters `tftp_init_operation_data`. -/
def ServerSetup.enter (p : ServerProcess) : ServerSetup :=
  { process := p, socket := .creating }

inductive SetupMove
  | process (m : ProcessMove)
  /-- The listener makes a call of `tftp_init_bound_data_socket`. -/
  | socketCall
  deriving DecidableEq, Repr

/-- The move is the listener's. -/
def SetupMove.ofListener : SetupMove → Bool
  | .process m => m.ofListener
  | .socketCall => true

/-- The listener gives the request up. -/
def ListenerPoint.givingUp : ListenerPoint → Bool
  | .rejecting _ _ _ _ => true
  | .closing _ _ => true
  | .releasing _ => true
  | _ => false

/-- One step of one thread, until the listener has an operation or has given the request up. -/
def serverSetup (host : Host) (mem : ListenerMemory) (results : SocketResults) (s : ServerSetup) :
    SetupMove → Option ServerSetup
  | .process m =>
      if m.ofListener && !s.process.listener.state.point.givingUp then
        none
      else
        (serverProcess host mem s.process m).map fun process => { s with process := process }
  | .socketCall =>
      match s.process.listener.state.point with
      | .initializing _ _ =>
          match tftpInitBoundDataSocketCall results s.socket with
          | .inl point => some { s with socket := point }
          | .inr socket =>
              (serverProcess host mem s.process (.listener (.dataSocket socket))).map
                fun process => { s with process := process }
      | _ => none

/-- Every task, and every other slot, is as it was. -/
structure ServerProcess.SameButFor (slot : Nat) (p p' : ServerProcess) : Prop where
  tasks : p'.tasks = p.tasks
  flags : ∀ i ≠ slot, p'.slots.slotOccupiedFlags i = p.slots.slotOccupiedFlags i
  handles : p'.slots.slotThreadHandles = p.slots.slotThreadHandles
  operations : p'.slots.opDataPtr = p.slots.opDataPtr

/-- The request in a slot has been dealt with: there is an operation for it, or its slot is
free again, and the listener goes on to its next `recvfrom` in either case. -/
structure ServerProcess.DealtWith (host : Host) (mem : ListenerMemory) (p : ServerProcess)
    (slot : Nat) : Prop where
  settled : (∃ op, p.listener.state.point = .spawning slot op) ∨
    p.listener.state.point = .looping ∧ p.slots.slotOccupiedFlags slot = false
  goesOn : ∃ moves q, Run (serverProcess host mem) p moves q ∧
    (∀ m ∈ moves, m.ofListener = true) ∧ q.listener.state.point = .awaiting

/-- A listener that enters `tftp_init_operation_data`, with these results of the system
calls, does no more than to give the request up, whatever the tasks do meanwhile. -/
structure FailuresIsolated (host : Host) (mem : ListenerMemory) (results : SocketResults)
    (p : ServerProcess) (slot : Nat) : Prop where
  /-- It leaves the tasks and the other slots alone. -/
  others : ∀ moves s m s', Run (serverSetup host mem results) (.enter p) moves s →
    m.ofListener = true → serverSetup host mem results s m = some s' →
      s.process.SameButFor slot s'.process
  /-- It is done within so many steps of its own. -/
  bounded : ∃ n, ∀ moves s, Run (serverSetup host mem results) (.enter p) moves s →
    moves.countP SetupMove.ofListener ≤ n
  /-- It is never kept from being done. -/
  done : ∀ moves s, Run (serverSetup host mem results) (.enter p) moves s →
    ∃ more t, Run (serverSetup host mem results) s more t ∧ t.process.DealtWith host mem slot

/-- No failure ends the program, and `bind` succeeds in some turn. -/
structure SocketResults.Bound (results : SocketResults) : Prop where
  socket : 0 ≤ results.socket
  setsockopt : ∀ option, 0 ≤ results.setsockopt option
  bind : ∃ turn, 0 ≤ results.bind turn

/-! ## What `tftp_init_operation_data` is called with -/

/-- The path fits in the block that is allocated, and the operation is one there is. -/
def InitArguments.Fits (args : InitArguments) : Prop :=
  args.operation ≠ .undefined ∧ ∃ path, cstr args.filename = some path ∧ path.length < 65535

section Arguments

variable {host : Host} {mem : ListenerMemory} {s s' : ListenerState} {e : Event}

theorem requestOperation_ne_undefined {opcode : UInt16} :
    requestOperation opcode ≠ some .undefined := by
  unfold requestOperation
  split
  · nofun
  · split
    · nofun
    · split <;> nofun

theorem parse_fits {args : InitArguments}
    (h : serverParseRequestData host mem s = some (some args)) : args.Fits := by
  obtain ⟨filePath, hcat, h⟩ := Option.bind_eq_some_iff.mp h
  have hpath : ∃ path, cstr filePath = some path ∧ path.length < 65535 := by
    obtain ⟨t, hlength, ht⟩ := cstr_strncat serverStoragePath_ne_zero
      (tftpFilenameMax * 2 - 9) hcat
    have hstorage : serverStoragePath.length = 8 := by decide
    refine ⟨_, ht, ?_⟩
    rw [List.length_append, hstorage]
    simp only [tftpFilenameMax] at hlength
    omega
  split at h
  · cases h
  · obtain rfl := Option.some.inj (Option.some.inj h)
    exact ⟨by simp, hpath⟩
  · rename_i operation _ hop
    obtain ⟨length, -, h⟩ := Option.bind_eq_some_iff.mp h
    obtain ⟨blocksize, -, h⟩ := Option.bind_eq_some_iff.mp h
    obtain rfl := Option.some.inj (Option.some.inj h)
    refine ⟨?_, hpath⟩
    rintro rfl
    exact requestOperation_ne_undefined hop

theorem not_initializing_onInitialized (slot : Nat) (args : InitArguments) (socket : DataSocket)
    (i : Nat) (other : InitArguments) :
    (s.onInitialized slot args socket).point ≠ .initializing i other := by
  unfold ListenerState.onInitialized
  split
  · split <;> nofun
  · nofun
  · split
    · nofun
    · unfold ListenerState.freeOperationData
      split <;> nofun
  · nofun

/-- Only `server_acquire_connection_slot` leads to `tftp_init_operation_data`. -/
theorem not_initializing_step (hcall : s.point.inCall = false)
    (hstep : serverListenerLoop host mem s e = some s') (slot : Nat) (args : InitArguments) :
    s'.point ≠ .initializing slot args := by
  intro h
  -- the step keeps the slot, so only points with that slot are left
  have hslot : s.point.slot = some slot := by
    apply slot_step hcall hstep
    rw [h]
    rfl
  cases loop_called hstep with
  | initializing i other socket hpoint =>
      exact not_initializing_onInitialized i other socket slot args h
  | rejecting i fd client reply ok hpoint =>
      unfold ListenerState.freeOperationData at h
      split at h <;> cases h
  | closing i fd hpoint => cases h
  | acquiring i hpoint | releasing i hpoint | spawning i op ok hpoint =>
      rw [hpoint] at hcall
      cases hcall
  | looping set hpoint | awaiting result hpoint | received set hpoint | refusing reply ok hpoint =>
      rw [hpoint] at hslot
      cases hslot

/-- The listener has an operation for the slot, or gives the request in it up. -/
def ListenerPoint.Answered (slot : Nat) : ListenerPoint → Prop
  | .rejecting i _ _ _ => i = slot
  | .closing i _ => i = slot
  | .releasing i => i = slot
  | .spawning i _ => i = slot
  | _ => False

/-- A data socket and strings that end are all that is needed. -/
theorem onInitialized_answered {slot : Nat} {args : InitArguments} (hfits : args.Fits)
    (hends : args.StringsEnd) (fd : Int) (port : UInt16) :
    (s.onInitialized slot args (.bound fd port)).point.Answered slot := by
  obtain ⟨hoperation, path, hpath, hlen⟩ := hfits
  obtain ⟨outcome, houtcome⟩ :=
    (tftpInitOperationData_isSome_iff fd port hpath hlen hoperation).mpr hends
  have hsocket := initOperation_socket houtcome
  unfold ListenerState.onInitialized
  rw [houtcome]
  cases outcome with
  | exits => cases hsocket
  | rejected fd' reply =>
      simp only
      split
      · rfl
      · unfold ListenerState.freeOperationData
        split <;> rfl
  | created op => rfl

/-- Without them the listener is lost. -/
theorem onInitialized_lost {slot : Nat} {args : InitArguments} (hfits : args.Fits)
    {socket : DataSocket} (hlost : socket = .exits ∨ ¬ args.StringsEnd) :
    (s.onInitialized slot args socket).point = .exited ∨
      ∃ cause, (s.onInitialized slot args socket).point = .fault cause := by
  obtain ⟨hoperation, path, hpath, hlen⟩ := hfits
  unfold ListenerState.onInitialized
  cases socket with
  | exits =>
      left
      simp only [tftpInitOperationData, hpath, Option.bind_eq_bind, Option.bind_some]
  | bound fd port =>
      have hends := tftpInitOperationData_isSome_iff fd port hpath hlen hoperation
      cases houtcome : tftpInitOperationData (.bound fd port) args with
      | none =>
          right
          simp only
          split
          · exact ⟨_, rfl⟩
          · exact ⟨_, rfl⟩
      | some outcome =>
          rcases hlost with hexits | hnot
          · cases hexits
          · exact absurd (hends.mp ⟨outcome, houtcome⟩) hnot

end Arguments

/-- What the listener has put together for `tftp_init_operation_data` is in order. -/
def ServerProcess.Prepared (p : ServerProcess) : Prop :=
  ∀ slot args, p.listener.state.point = .initializing slot args → args.Fits

theorem prepared_step {host : Host} {mem : ListenerMemory} {p p' : ServerProcess}
    {m : ProcessMove} (h : p.Prepared) (hstep : serverProcess host mem p m = some p') :
    p'.Prepared := by
  intro slot args hpoint
  cases listener_moved hstep with
  | stayed heq =>
      rw [heq] at hpoint
      exact h slot args hpoint
  | looped e hm hcall hloop => exact absurd hpoint (not_initializing_step hcall hloop slot args)
  | acquired found hacquiring heq =>
      rw [heq] at hpoint
      unfold ListenerState.onAcquired at hpoint
      split at hpoint
      · unfold ListenerState.refuse at hpoint
        split at hpoint <;> cases hpoint
      · split at hpoint
        · cases hpoint
        · cases hpoint
        · rename_i hparse
          obtain ⟨-, rfl⟩ := ListenerPoint.initializing.inj hpoint
          exact parse_fits hparse
  | cleared heq =>
      rw [heq] at hpoint
      cases hpoint

theorem prepared_of_run {host : Host} {mem : ListenerMemory} {p : ServerProcess}
    {history : List ProcessMove}
    (hrun : Run (serverProcess host mem) ServerProcess.start history p) : p.Prepared :=
  hrun.invariant (fun _ _ _ hprepared hstep => prepared_step hprepared hstep)
    (by rintro _ _ ⟨⟩)

/-! ## The steps -/

/-- All that a step of the server can be while a request is set up. -/
inductive SetupMoved (host : Host) (mem : ListenerMemory) (results : SocketResults)
    (s s' : ServerSetup) : SetupMove → Prop
  | task (m : ProcessMove) (hother : m.ofListener = false) (hsocket : s'.socket = s.socket)
      (hstep : serverProcess host mem s.process m = some s'.process) :
      SetupMoved host mem results s s' (.process m)
  | gaveUp (m : ProcessMove) (hlistener : m.ofListener = true)
      (hpoint : s.process.listener.state.point.givingUp = true)
      (hstep : serverProcess host mem s.process m = some s'.process) :
      SetupMoved host mem results s s' (.process m)
  | called (slot : Nat) (args : InitArguments) (point : SocketPoint)
      (hpoint : s.process.listener.state.point = .initializing slot args)
      (hcall : tftpInitBoundDataSocketCall results s.socket = .inl point)
      (heq : s' = { s with socket := point }) : SetupMoved host mem results s s' .socketCall
  | returned (slot : Nat) (args : InitArguments) (socket : DataSocket)
      (hpoint : s.process.listener.state.point = .initializing slot args)
      (hcall : tftpInitBoundDataSocketCall results s.socket = .inr socket)
      (hstep : serverProcess host mem s.process (.listener (.dataSocket socket)) =
        some s'.process)
      (heq : s' =
        { s with
          process :=
            { s.process with
              listener := .enter (s.process.listener.state.onInitialized slot args socket) } }) :
      SetupMoved host mem results s s' .socketCall

section Steps

variable {host : Host} {mem : ListenerMemory} {results : SocketResults} {s s' : ServerSetup}
  {m : SetupMove} {p p' : ServerProcess} {move : ProcessMove}

theorem setup_moved (hstep : serverSetup host mem results s m = some s') :
    SetupMoved host mem results s s' m := by
  cases m with
  | process move =>
      simp only [serverSetup] at hstep
      split at hstep
      · cases hstep
      · rename_i hnot
        obtain ⟨process, hprocess, rfl⟩ := Option.map_eq_some_iff.mp hstep
        by_cases hlistener : move.ofListener = true
        · refine .gaveUp move hlistener ?_ hprocess
          simpa [hlistener] using hnot
        · exact .task move (by simpa using hlistener) rfl hprocess
  | socketCall =>
      simp only [serverSetup] at hstep
      split at hstep
      · rename_i slot args hpoint
        split at hstep
        · rename_i point hcall
          exact .called slot args point hpoint hcall (Option.some.inj hstep).symm
        · rename_i socket hcall
          obtain ⟨process, hprocess, rfl⟩ := Option.map_eq_some_iff.mp hstep
          obtain ⟨-, state, hloop, rfl⟩ := listener_eq hprocess
          cases loop_called hloop with
          | initializing slot' args' socket hinitializing =>
              obtain ⟨rfl, rfl⟩ := ListenerPoint.initializing.inj (hpoint.symm.trans hinitializing)
              exact .returned slot args socket hpoint hcall hprocess rfl
      · cases hstep

/-- A task leaves the listener where it is, and sets no flag. -/
theorem listener_of_task (hother : move.ofListener = false)
    (hstep : serverProcess host mem p move = some p') :
    p'.listener = p.listener ∧
      ∀ i, p.slots.slotOccupiedFlags i = false → p'.slots.slotOccupiedFlags i = false := by
  cases move with
  | begin k =>
      obtain ⟨_, _, _, rfl⟩ := begin_eq hstep
      exact ⟨rfl, fun _ hfree => hfree⟩
  | task k e =>
      obtain ⟨_, _, _, _, _, _, _, rfl⟩ := task_eq hstep
      exact ⟨rfl, fun _ hfree => hfree⟩
  | taskRelease k =>
      rcases taskRelease_eq hstep with ⟨_, _, _, _, _, rfl⟩ |
        ⟨_, _, _, _, _, _, _, hcall, rfl⟩ | ⟨_, _, _, _, _, _, hcall, rfl⟩
      · exact ⟨rfl, fun _ hfree => hfree⟩
      · exact ⟨rfl, fun _ hfree => release_flag_false hfree hcall⟩
      · exact ⟨rfl, fun _ hfree => release_flag_false hfree hcall⟩
  | listener e | listenerCall | taskArgs allocated | create | createFailed handle => cases hother

/-- All that a step of a listener that gives its request up does. -/
inductive GaveUp (slot : Nat) (p p' : ServerProcess) : Prop
  | rejected (fd : Int) (peer : SockAddr) (reply : ErrorReply)
      (hpoint : p.listener.state.point = .rejecting slot fd peer reply)
      (heq : p' =
        { p with listener := .enter (p.listener.state.freeOperationData slot fd) })
  | closed (fd : Int) (hpoint : p.listener.state.point = .closing slot fd)
      (heq : p' =
        { p with listener := .enter { p.listener.state with point := .releasing slot } })
  | releasing (slots : ServerSlots) (next : ReleasePoint)
      (hpoint : p.listener.state.point = .releasing slot)
      (hcall : serverReleaseConnectionSlot .listener slot p.slots p.listener.release =
        some (slots, .inl next))
      (heq : p' = { p with slots := slots, listener.release := next })
  | released (slots : ServerSlots) (hpoint : p.listener.state.point = .releasing slot)
      (hcall : serverReleaseConnectionSlot .listener slot p.slots p.listener.release =
        some (slots, .inr ()))
      (heq : p' = { p with slots := slots, listener := .enter p.listener.state.clear })

theorem gave_up (hlistener : move.ofListener = true)
    (hgiving : p.listener.state.point.givingUp = true)
    (hstep : serverProcess host mem p move = some p') : ∃ slot, GaveUp slot p p' := by
  by_cases hcall : p.listener.state.point.inCall = true
  · -- the only call of several steps on the way is that of the release
    obtain ⟨slot, hpoint⟩ : ∃ slot, p.listener.state.point = .releasing slot := by
      cases hpoint : p.listener.state.point with
      | releasing slot => exact ⟨slot, rfl⟩
      | _ => simp [hpoint, ListenerPoint.givingUp, ListenerPoint.inCall] at hgiving hcall
    have hnot : ∀ i op, p.listener.state.point ≠ .spawning i op := by simp [hpoint]
    cases move with
    | listener e => simp [(listener_eq hstep).1] at hcall
    | listenerCall =>
        cases listenerCall_eq hstep with
        | acquiring slots next hpoint' hcall' heq | acquired slots found hpoint' hcall' heq =>
            rw [hpoint'] at hpoint
            cases hpoint
        | releasing i slots next hpoint' hcall' heq =>
            exact ⟨i, .releasing slots next hpoint' hcall' heq⟩
        | released i slots hpoint' hcall' heq => exact ⟨i, .released slots hpoint' hcall' heq⟩
        | stored i op hpoint' hspawn heq => exact absurd hpoint' (hnot i op)
    | taskArgs allocated =>
        obtain ⟨i, op, hpoint', -⟩ := taskArgs_eq hstep
        exact absurd hpoint' (hnot i op)
    | create =>
        obtain ⟨i, op, hpoint', -⟩ := create_eq hstep
        exact absurd hpoint' (hnot i op)
    | createFailed handle =>
        obtain ⟨i, op, hpoint', -⟩ := createFailed_eq hstep
        exact absurd hpoint' (hnot i op)
    | begin k | task k e | taskRelease k => cases hlistener
  · -- at the other points the move is a step of `server_listener_loop`
    obtain ⟨e, state, rfl, hloop, heq⟩ :=
      listener_leaves (Bool.eq_false_iff.mpr hcall) hlistener hstep
    cases loop_called hloop with
    | rejecting slot fd client reply ok hpoint =>
        exact ⟨slot, .rejected fd client reply hpoint heq⟩
    | closing slot fd hpoint => exact ⟨slot, .closed fd hpoint heq⟩
    | looping _ hpoint | awaiting _ hpoint | received _ hpoint | refusing _ _ hpoint
    | acquiring _ hpoint | initializing _ _ _ hpoint | releasing _ hpoint | spawning _ _ _ hpoint =>
        simp [hpoint, ListenerPoint.givingUp, ListenerPoint.inCall] at hgiving hcall

end Steps

/-! ## As long as the calls go well -/

namespace SocketPoint

/-- No turn of the loop is past the one in which `bind` succeeds. -/
def Within (last : Nat) : SocketPoint → Prop
  | .binding _ turn => turn ≤ last
  | _ => True

/-- The calls left. -/
def rank (last : Nat) : SocketPoint → Nat
  | .creating => last + 5
  | .setting _ .reuseAddr => last + 4
  | .setting _ .reusePort => last + 3
  | .setting _ .rcvTimeo => last + 2
  | .binding _ turn => last + 1 - turn

end SocketPoint

namespace ReleasePoint

/-- The flag of the slot has been cleared. -/
def cleared : ReleasePoint → Bool
  | .counting => true
  | .unlocking => true
  | _ => false

/-- The statements left. -/
def rank : ReleasePoint → Nat
  | .locking => 4
  | .clearing => 3
  | .counting => 2
  | .unlocking => 1

end ReleasePoint

namespace ServerSetup

/-- Where the listener may be: in its calls, handing the operation over, or giving the slot
back, behind which the flag is not set. -/
def AtWork (args : InitArguments) (slot last : Nat) (s : ServerSetup) : Prop :=
  match s.process.listener.state.point with
  | .initializing i other => i = slot ∧ other = args ∧ s.socket.Within last
  | .rejecting i _ _ _ => i = slot
  | .closing i _ => i = slot
  | .releasing i => i = slot ∧
      (s.process.listener.release.cleared = true → s.process.slots.slotOccupiedFlags slot = false)
  | .spawning i _ => i = slot ∧ s.process.listener.spawn = .storing
  | .looping => s.process.slots.slotOccupiedFlags slot = false
  | _ => False

/-- The steps the listener has left at most. -/
def rank (last : Nat) (s : ServerSetup) : Nat :=
  match s.process.listener.state.point with
  | .initializing _ _ => s.socket.rank last + 6
  | .rejecting _ _ _ _ => 6
  | .closing _ _ => 5
  | .releasing _ => s.process.listener.release.rank
  | _ => 0

/-- What holds of every state while a request is set up in a slot. -/
structure SettingUp (args : InitArguments) (slot last : Nat) (s : ServerSetup) : Prop where
  slots : SlotsOk s.process.slots s.process.phase
  work : s.AtWork args slot last

end ServerSetup

section Progress

variable {host : Host} {mem : ListenerMemory} {results : SocketResults} {args : InitArguments}
  {slot last : Nat} {s s' : ServerSetup} {m : SetupMove}

/-- A call that goes well leads to the next one, or to a socket in a turn that can be
reached. -/
theorem socketCall_rank (hbound : results.Bound) (hlast : 0 ≤ results.bind last)
    {point : SocketPoint} (hwithin : point.Within last) :
    (∃ next, tftpInitBoundDataSocketCall results point = .inl next ∧ next.Within last ∧
        next.rank last < point.rank last) ∨
      ∃ fd port, tftpInitBoundDataSocketCall results point = .inr (.bound fd port) ∧
        0 < point.rank last := by
  cases point with
  | creating =>
      left
      rw [tftpInitBoundDataSocketCall, if_neg (Int.not_lt.mpr hbound.socket)]
      exact ⟨_, rfl, trivial, by simp [SocketPoint.rank]⟩
  | setting fd option =>
      left
      have hset := Int.not_lt.mpr (hbound.setsockopt option)
      cases option with
      | reuseAddr | reusePort =>
          rw [tftpInitBoundDataSocketCall, if_neg hset]
          exact ⟨_, rfl, trivial, by simp [SocketPoint.rank]⟩
      | rcvTimeo =>
          rw [tftpInitBoundDataSocketCall, if_neg hset]
          exact ⟨_, rfl, Nat.zero_le _, by simp [SocketPoint.rank]⟩
  | binding fd turn =>
      have hturn : turn ≤ last := hwithin
      by_cases hfailed : results.bind turn < 0
      · left
        -- turn `last` succeeds, so a failure has a later turn to come
        have hne : turn ≠ last := by
          rintro rfl
          omega
        rw [tftpInitBoundDataSocketCall, if_pos hfailed]
        refine ⟨_, rfl, ?_, ?_⟩
        · show turn + 1 ≤ last
          omega
        · simp only [SocketPoint.rank]
          omega
      · right
        rw [tftpInitBoundDataSocketCall, if_neg hfailed]
        refine ⟨_, _, rfl, ?_⟩
        simp only [SocketPoint.rank]
        omega

namespace ServerSetup

theorem atWork_of_answered {socket : SocketPoint} {p : ServerProcess} {state : ListenerState}
    (h : state.point.Answered slot) :
    ServerSetup.AtWork args slot last
      { process := { p with listener := .enter state }, socket := socket } := by
  simp only [AtWork, ListenerThread.enter]
  cases hpoint : state.point with
  | rejecting i fd peer reply | closing i fd =>
      rw [hpoint] at h
      exact h
  | releasing i =>
      rw [hpoint] at h
      refine ⟨h, ?_⟩
      rintro ⟨⟩
  | spawning i op =>
      rw [hpoint] at h
      exact ⟨h, trivial⟩
  | _ =>
      rw [hpoint] at h
      cases h

theorem rank_of_answered (last : Nat) (socket : SocketPoint) (p : ServerProcess)
    {state : ListenerState} (h : state.point.Answered slot) :
    ServerSetup.rank last
      { process := { p with listener := .enter state }, socket := socket } ≤ 6 := by
  simp only [rank, ListenerThread.enter]
  cases hpoint : state.point with
  | rejecting i fd peer reply | closing i fd | releasing i | spawning i op =>
      simp [ReleasePoint.rank]
  | _ =>
      rw [hpoint] at h
      cases h

/-- A task's step changes nothing about it. -/
theorem atWork_of_task {s s' : ServerSetup} (h : s.AtWork args slot last)
    (hsocket : s'.socket = s.socket) (hlistener : s'.process.listener = s.process.listener)
    (hflags : ∀ i, s.process.slots.slotOccupiedFlags i = false →
      s'.process.slots.slotOccupiedFlags i = false) : s'.AtWork args slot last := by
  unfold AtWork at h ⊢
  rw [hsocket, hlistener]
  cases hpoint : s.process.listener.state.point with
  | releasing i =>
      rw [hpoint] at h
      exact ⟨h.1, fun hcleared => hflags slot (h.2 hcleared)⟩
  | looping =>
      rw [hpoint] at h
      exact hflags slot h
  | _ =>
      rw [hpoint] at h
      exact h

/-- The listener, giving the request up, comes a step nearer to its loop. -/
theorem atWork_of_gaveUp {i : Nat} (h : s.AtWork args slot last)
    (hgave : GaveUp i s.process s'.process) :
    s'.AtWork args slot last ∧ s'.rank last < s.rank last ∧
      s.process.SameButFor slot s'.process := by
  obtain ⟨process, socket⟩ := s'
  unfold AtWork at h
  cases hgave with
  | rejected fd peer reply hpoint heq =>
      rw [hpoint] at h
      obtain rfl : i = slot := h
      have hanswered : (s.process.listener.state.freeOperationData i fd).point.Answered i := by
        unfold ListenerState.freeOperationData
        split <;> rfl
      dsimp only at heq
      subst heq
      refine ⟨atWork_of_answered hanswered, ?_, ⟨rfl, fun _ _ => rfl, rfl, rfl⟩⟩
      -- `free_operation_data` closes the descriptor, if it has one, before the release
      by_cases hfd : fd > 0
      · simp [rank, hpoint, ListenerThread.enter, ListenerState.freeOperationData, hfd]
      · simp [rank, hpoint, ListenerThread.enter, ListenerState.freeOperationData, hfd,
          ReleasePoint.rank]
  | closed fd hpoint heq =>
      rw [hpoint] at h
      obtain rfl : i = slot := h
      dsimp only at heq
      subst heq
      refine ⟨⟨rfl, ?_⟩, ?_, ⟨rfl, fun _ _ => rfl, rfl, rfl⟩⟩
      · rintro ⟨⟩
      · simp [rank, hpoint, ListenerThread.enter, ReleasePoint.rank]
  | releasing slots next hpoint hcall heq =>
      rw [hpoint] at h
      obtain ⟨rfl, hcleared⟩ := h
      -- one call of the release: the flag is down once the release says so
      -- the unlock ends the release, and the flag stays down for the loop
      have hframe := release_frame hcall
      have hflag : next.cleared = true → slots.slotOccupiedFlags i = false := by
        intro hnext
        generalize s.process.listener.release = point at hcall hcleared
        cases release_eq hcall with
        | locked slots' hlock => cases hnext
        | cleared => exact Function.update_self ..
        | counted => exact hcleared rfl
      have hrank : next.rank < s.process.listener.release.rank := by
        generalize s.process.listener.release = point at hcall
        cases release_eq hcall <;> simp [ReleasePoint.rank]
      dsimp only at heq
      subst heq
      refine ⟨?_, ?_, ⟨rfl, fun j hj => release_flag_of_ne hj hcall, hframe.2, hframe.1⟩⟩
      · simp only [AtWork, hpoint]
        exact ⟨trivial, hflag⟩
      · simp only [rank, hpoint]
        exact hrank
  | released slots hpoint hcall heq =>
      rw [hpoint] at h
      obtain ⟨rfl, hcleared⟩ := h
      have hframe := release_frame hcall
      have hunlocking := (release_next hcall).mp rfl
      dsimp only at heq
      subst heq
      refine ⟨?_, ?_, ⟨rfl, fun j hj => release_flag_of_ne hj hcall, hframe.2, hframe.1⟩⟩
      · show slots.slotOccupiedFlags i = false
        rw [hunlocking] at hcleared
        exact release_flag_false (hcleared rfl) hcall
      · simp [rank, hpoint, hunlocking, ListenerThread.enter, ListenerState.clear,
          ReleasePoint.rank]

/-- A step of the listener brings it nearer to the end of the set-up and leaves everything
but its slot alone. -/
theorem SettingUp.listener (hbound : results.Bound) (hlast : 0 ≤ results.bind last)
    (hfits : args.Fits) (hends : args.StringsEnd) (h : s.SettingUp args slot last)
    (hlistener : m.ofListener = true) (hstep : serverSetup host mem results s m = some s') :
    s'.SettingUp args slot last ∧ s'.rank last < s.rank last ∧
      s.process.SameButFor slot s'.process := by
  cases setup_moved hstep with
  | task move hother hsocket hprocess =>
      -- not a step of the listener
      rw [SetupMove.ofListener, hother] at hlistener
      cases hlistener
  | gaveUp move hmove hgiving hprocess =>
      obtain ⟨i, hgave⟩ := gave_up hmove hgiving hprocess
      obtain ⟨hwork, hrank, hsame⟩ := atWork_of_gaveUp h.work hgave
      exact ⟨⟨h.slots.process hprocess, hwork⟩, hrank, hsame⟩
  | called i other point hpoint hcall heq =>
      have hwork := h.work
      rw [AtWork, hpoint] at hwork
      obtain ⟨rfl, rfl, hwithin⟩ := hwork
      -- the calls go well, so the next one is on the way to the turn that succeeds
      subst heq
      rcases socketCall_rank hbound hlast hwithin with
        ⟨next, hnext, hwithin', hrank⟩ | ⟨fd, port, hreturn, -⟩
      · rw [hcall] at hnext
        obtain rfl := Sum.inl.inj hnext
        refine ⟨⟨h.slots, ?_⟩, ?_, ⟨rfl, fun _ _ => rfl, rfl, rfl⟩⟩
        · simp only [AtWork, hpoint]
          exact ⟨trivial, trivial, hwithin'⟩
        · simp only [rank, hpoint]
          omega
      · rw [hcall] at hreturn
        cases hreturn
  | returned i other socket hpoint hcall hprocess heq =>
      have hwork := h.work
      rw [AtWork, hpoint] at hwork
      obtain ⟨rfl, rfl, hwithin⟩ := hwork
      have hslots := h.slots.process hprocess
      subst heq
      rcases socketCall_rank hbound hlast hwithin with
        ⟨next, hnext, -, -⟩ | ⟨fd, port, hreturn, hrank⟩
      · rw [hcall] at hnext
        cases hnext
      · rw [hcall] at hreturn
        obtain rfl := Sum.inr.inj hreturn
        -- a bound socket is the only return, and the request is answered with it
        have hanswered : (s.process.listener.state.onInitialized i other
          (.bound fd port)).point.Answered i := onInitialized_answered hfits hends fd port
        refine ⟨⟨hslots, atWork_of_answered hanswered⟩, ?_, ⟨rfl, fun _ _ => rfl, rfl, rfl⟩⟩
        have hbefore : s.rank last = s.socket.rank last + 6 := by
          simp only [rank, hpoint]
        exact Nat.lt_of_le_of_lt (rank_of_answered last s.socket s.process hanswered) (by omega)

theorem SettingUp.step (hbound : results.Bound) (hlast : 0 ≤ results.bind last)
    (hfits : args.Fits) (hends : args.StringsEnd) (h : s.SettingUp args slot last)
    (hstep : serverSetup host mem results s m = some s') :
    s'.SettingUp args slot last ∧
      [m].countP SetupMove.ofListener + s'.rank last ≤ s.rank last := by
  by_cases hlistener : m.ofListener = true
  · obtain ⟨hafter, hrank, -⟩ := h.listener hbound hlast hfits hends hlistener hstep
    refine ⟨hafter, ?_⟩
    rw [List.countP_singleton, if_pos hlistener]
    omega
  · cases setup_moved hstep with
    | task move hother hsocket hprocess =>
        -- a task's step counts nothing and leaves the rank alone
        obtain ⟨hstays, hflags⟩ := listener_of_task hother hprocess
        refine ⟨⟨h.slots.process hprocess, atWork_of_task h.work hsocket hstays hflags⟩, ?_⟩
        rw [List.countP_singleton, if_neg hlistener, rank, rank, hstays, hsocket, Nat.zero_add]
    | gaveUp move hmove hgiving hprocess => exact absurd hmove hlistener
    | called i other point hpoint hcall heq => exact absurd rfl hlistener
    | returned i other socket hpoint hcall hprocess heq => exact absurd rfl hlistener

end ServerSetup

end Progress

/-! ## The mutex -/

/-- The steps a task has left until it unlocks the mutex it has locked. -/
def ServerProcess.holding (p : ServerProcess) : Nat :=
  match p.slots.slotsMutex with
  | some (.task k) =>
      (p.tasks[k]?).elim 0 fun task => task.release.rank + if task.detached then 0 else 1
  | _ => 0

section Mutex

variable {host : Host} {mem : ListenerMemory} {p : ServerProcess} {k : Nat}

theorem holding_le (p : ServerProcess) : p.holding ≤ 5 := by
  unfold ServerProcess.holding
  split
  · rename_i k _
    cases p.tasks[k]? with
    | none => exact Nat.zero_le _
    | some task =>
        simp only [Option.elim_some]
        cases task.release <;> cases task.detached <;> simp [ReleasePoint.rank]
  · exact Nat.zero_le _

/-- A task that has locked the mutex can go on, and will unlock it. -/
theorem holder_step (h : SlotsOk p.slots p.phase)
    (halive : p.listener.state.point ≠ .exited) (hmutex : p.slots.slotsMutex = some (.task k)) :
    ∃ p', serverProcess host mem p (.taskRelease k) = some p' ∧ p'.holding < p.holding := by
  have hcritical := (h.mutex (.task k)).mp hmutex
  cases htask : p.tasks[k]? with
  | none => simp [ServerProcess.phase, htask, SlotPhase.critical] at hcritical
  | some task =>
      have hlt : k < p.tasks.length := (List.getElem?_eq_some_iff.mp htask).1
      have hholding : p.holding = task.release.rank + if task.detached then 0 else 1 := by
        simp only [ServerProcess.holding, hmutex, htask, Option.elim_some]
      rw [ServerProcess.phase_of_task htask, TaskThread.phase] at hcritical
      -- only a task in its release can be the one that has the mutex
      split at hcritical
      · rename_i result hstate
        have hprocess : serverProcess host mem p (.taskRelease k) =
            serverTaskRelease host p k task (.releasing result) := by
          simp [serverProcess, halive, htask, hstate]
        rw [hprocess, hholding, serverTaskRelease]
        cases hdetached : task.detached with
        | false =>
            refine ⟨_, rfl, ?_⟩
            simp [ServerProcess.holding, ServerProcess.setTask, hmutex, hlt]
        | true =>
            cases hrelease : task.release with
            | locking =>
                rw [hrelease] at hcritical
                cases hcritical
            | clearing | counting =>
                refine ⟨_, rfl, ?_⟩
                simp [ServerProcess.holding, ServerProcess.setTask, hmutex, hlt,
                  ReleasePoint.rank]
            | unlocking =>
                refine ⟨_, rfl, ?_⟩
                simp [ServerProcess.holding, ReleasePoint.rank]
      · cases hcritical
      · cases hcritical

end Mutex

/-! ## The end of the set-up -/

section End

variable {host : Host} {mem : ListenerMemory} {results : SocketResults} {args : InitArguments}
  {slot last : Nat} {s s' : ServerSetup} {p : ServerProcess}

/-- From the test of its loop the listener goes on to `recvfrom`. -/
theorem run_awaiting (hpoint : p.listener.state.point = .looping) :
    Run (serverProcess host mem) p [.listener (.poll false)]
      { p with listener := .enter { p.listener.state with point := .awaiting } } := by
  apply Run.single
  simp [serverProcess, serverListenerLoop, hpoint, ListenerPoint.inCall]

theorem dealtWith_looping (hpoint : p.listener.state.point = .looping)
    (hfree : p.slots.slotOccupiedFlags slot = false) : p.DealtWith host mem slot where
  settled := Or.inr ⟨hpoint, hfree⟩
  goesOn := ⟨_, _, run_awaiting hpoint, by simp [ProcessMove.ofListener], rfl⟩

/-- An operation is stored in its slot and handed to a new thread. -/
theorem dealtWith_spawning {op : OperationData}
    (hpoint : p.listener.state.point = .spawning slot op)
    (hspawn : p.listener.spawn = .storing) : p.DealtWith host mem slot where
  settled := Or.inl ⟨op, hpoint⟩
  goesOn := by
    obtain ⟨stored, hstored⟩ : ∃ stored : ServerProcess, stored =
      { p with
        slots.opDataPtr := Function.update p.slots.opDataPtr slot (some op)
        listener.spawn := .allocating } := ⟨_, rfl⟩
    obtain ⟨created, hcreated⟩ : ∃ created : ServerProcess, created =
      { stored with
        listener := .enter stored.listener.state.clear
        slots.slotThreadHandles :=
          Function.update stored.slots.slotThreadHandles slot (some stored.tasks.length)
        tasks := stored.tasks ++ [.create slot] } := ⟨_, rfl⟩
    have hstore : serverProcess host mem p .listenerCall = some stored := by
      simp [serverProcess, listenerCall, hpoint, hspawn, hstored]
    have hallocate : serverProcess host mem stored (.taskArgs true) =
        some { stored with listener.spawn := .creating } := by
      simp [serverProcess, hpoint, hstored]
    have hcreate : serverProcess host mem { stored with listener.spawn := .creating } .create =
        some created := by
      simp [serverProcess, serverListenerLoop, hpoint, hstored, hcreated]
    have hlooping : created.listener.state.point = .looping := by
      rw [hcreated]
      rfl
    refine ⟨_, _, Run.cons hstore (Run.cons hallocate (Run.cons hcreate
      (run_awaiting hlooping))), ?_, rfl⟩
    simp [ProcessMove.ofListener]

/-- A listener that gives its request up can make a step, unless a task has the mutex. -/
theorem giving_up_can_step (h : SlotsOk p.slots p.phase)
    (hgiving : p.listener.state.point.givingUp = true)
    (hmutex : ∀ k, p.slots.slotsMutex ≠ some (.task k)) :
    ∃ m : ProcessMove, m.ofListener = true ∧ (serverProcess host mem p m).isSome = true := by
  cases hpoint : p.listener.state.point with
  | rejecting i fd peer reply =>
      refine ⟨.listener (.sendto peer (errorPacket reply) true), rfl, ?_⟩
      simp [serverProcess, serverListenerLoop, hpoint, ListenerPoint.inCall]
  | closing i fd =>
      refine ⟨.listener (.close fd), rfl, ?_⟩
      simp [serverProcess, serverListenerLoop, hpoint, ListenerPoint.inCall]
  | releasing i =>
      refine ⟨.listenerCall, rfl, ?_⟩
      cases hrelease : p.listener.release with
      | locking =>
          have hfree : p.slots.slotsMutex = none := by
            cases hlocked : p.slots.slotsMutex with
            | none => rfl
            | some thread =>
                cases thread with
                | task k => exact absurd hlocked (hmutex k)
                | listener =>
                    -- the listener has not locked it yet
                    have hcritical := (h.mutex .listener).mp hlocked
                    rw [ServerProcess.phase_releasing hpoint, hrelease] at hcritical
                    cases hcritical
          simp [serverProcess, listenerCall, hpoint, hrelease, serverReleaseConnectionSlot,
            ServerSlots.lock, hfree]
      | clearing | counting | unlocking =>
          simp [serverProcess, listenerCall, hpoint, hrelease, serverReleaseConnectionSlot,
            serverListenerLoop]
  | _ =>
      rw [hpoint] at hgiving
      cases hgiving

/-- The listener is at the end of the set-up, or can make a step, unless a task has the
mutex. -/
theorem listener_can_step (hbound : results.Bound) (hlast : 0 ≤ results.bind last)
    (h : s.SettingUp args slot last)
    (hmutex : ∀ k, s.process.slots.slotsMutex ≠ some (.task k)) :
    s.process.DealtWith host mem slot ∨
      ∃ m s', m.ofListener = true ∧ serverSetup host mem results s m = some s' := by
  have hwork := h.work
  unfold ServerSetup.AtWork at hwork
  by_cases hgiving : s.process.listener.state.point.givingUp = true
  · right
    obtain ⟨move, hlistener, hsome⟩ : ∃ move : ProcessMove, move.ofListener = true ∧
        (serverProcess host mem s.process move).isSome = true :=
      giving_up_can_step h.slots hgiving hmutex
    obtain ⟨process, hprocess⟩ := Option.isSome_iff_exists.mp hsome
    refine ⟨.process move, { s with process := process }, hlistener, ?_⟩
    simp [serverSetup, hgiving, hprocess]
  · cases hpoint : s.process.listener.state.point with
    | initializing i other =>
        rw [hpoint] at hwork
        right
        -- every call returns a result, so the call of the set-up is always possible
        have hsome : (serverSetup host mem results s .socketCall).isSome = true := by
          rcases socketCall_rank hbound hlast hwork.2.2 with
            ⟨next, hnext, -, -⟩ | ⟨fd, port, hreturn, -⟩
          · simp [serverSetup, hpoint, hnext]
          · simp [serverSetup, hpoint, hreturn, serverProcess, serverListenerLoop,
              ListenerPoint.inCall]
        obtain ⟨s', hstep⟩ := Option.isSome_iff_exists.mp hsome
        exact ⟨.socketCall, s', rfl, hstep⟩
    | spawning i op =>
        rw [hpoint] at hwork
        obtain ⟨rfl, hspawn⟩ := hwork
        exact Or.inl (dealtWith_spawning hpoint hspawn)
    | looping =>
        rw [hpoint] at hwork
        exact Or.inl (dealtWith_looping hpoint hwork)
    | rejecting i fd peer reply | closing i fd | releasing i =>
        rw [hpoint] at hgiving
        exact absurd rfl hgiving
    | _ =>
        rw [hpoint] at hwork
        cases hwork

/-- From every state of the set-up its end can be reached: by the steps of the task that has
the mutex, if there is one, and those of the listener. -/
theorem exists_run_dealtWith (hbound : results.Bound) (hlast : 0 ≤ results.bind last)
    (hfits : args.Fits) (hends : args.StringsEnd) (h : s.SettingUp args slot last) :
    ∃ more t, Run (serverSetup host mem results) s more t ∧
      t.process.DealtWith host mem slot := by
  -- the rank weighs more than the steps of the task that may hold the mutex
  have hlower : ∀ s : ServerSetup, s.SettingUp args slot last →
      s.process.DealtWith host mem slot ∨
        ∃ tr t, Run (serverSetup host mem results) s tr t ∧ t.SettingUp args slot last ∧
          8 * t.rank last + t.process.holding < 8 * s.rank last + s.process.holding := by
    intro s hs
    by_cases hmutex : ∃ k, s.process.slots.slotsMutex = some (.task k)
    · obtain ⟨k, hmutex⟩ := hmutex
      right
      have halive : s.process.listener.state.point ≠ .exited := by
        intro hexited
        have hwork := hs.work
        rw [ServerSetup.AtWork, hexited] at hwork
        exact hwork
      -- the task goes first: the listener may be waiting for the mutex
      obtain ⟨process, hprocess, hholding⟩ : ∃ process,
          serverProcess host mem s.process (.taskRelease k) = some process ∧
            process.holding < s.process.holding := holder_step hs.slots halive hmutex
      have hstep : serverSetup host mem results s (.process (.taskRelease k)) =
          some { s with process := process } := by
        simp [serverSetup, ProcessMove.ofListener, hprocess]
      obtain ⟨hafter, hrank⟩ := hs.step hbound hlast hfits hends hstep
      refine ⟨_, _, Run.single hstep, hafter, ?_⟩
      simp only at hholding ⊢
      omega
    · have hmutex' : ∀ k, s.process.slots.slotsMutex ≠ some (.task k) :=
        fun k hk => hmutex ⟨k, hk⟩
      rcases listener_can_step hbound hlast hs hmutex' with hdone | ⟨m, s', hlistener, hstep⟩
      · exact Or.inl hdone
      · right
        obtain ⟨hafter, hrank, -⟩ := hs.listener hbound hlast hfits hends hlistener hstep
        refine ⟨_, _, Run.single hstep, hafter, ?_⟩
        -- a task with the mutex has at most five steps left until the unlock
        have hle := holding_le s'.process
        omega
  obtain ⟨more, t, hrun, -, hdone⟩ :=
    exists_run_of_rank (fun s : ServerSetup => 8 * s.rank last + s.process.holding) hlower h
  exact ⟨more, t, hrun, hdone⟩

end End

/-! ## If a call fails for good -/

/-- The calls that lead there have not failed. -/
def SocketPoint.Reached (results : SocketResults) : SocketPoint → Prop
  | .creating => True
  | .setting _ .reuseAddr => 0 ≤ results.socket
  | .setting _ .reusePort => 0 ≤ results.socket ∧ 0 ≤ results.setsockopt .reuseAddr
  | .setting _ .rcvTimeo => 0 ≤ results.socket ∧ 0 ≤ results.setsockopt .reuseAddr ∧
      0 ≤ results.setsockopt .reusePort
  | .binding _ _ => 0 ≤ results.socket ∧ ∀ option, 0 ≤ results.setsockopt option

/-- The listener is in its calls, or the program has ended or gone astray. -/
def ServerSetup.Lost (results : SocketResults) (args : InitArguments) (slot : Nat)
    (s : ServerSetup) : Prop :=
  match s.process.listener.state.point with
  | .initializing i other => i = slot ∧ other = args ∧ s.socket.Reached results
  | .exited => True
  | .fault _ => True
  | _ => False

section Lost

variable {host : Host} {mem : ListenerMemory} {results : SocketResults} {args : InitArguments}
  {slot : Nat} {s s' : ServerSetup} {m : SetupMove}

theorem reached_call {point next : SocketPoint} (h : point.Reached results)
    (hcall : tftpInitBoundDataSocketCall results point = .inl next) : next.Reached results := by
  unfold tftpInitBoundDataSocketCall at hcall
  cases point with
  | creating =>
      simp only at hcall
      split at hcall
      · cases hcall
      · obtain rfl := Sum.inl.inj hcall
        exact Int.not_lt.mp ‹_›
  | setting fd option =>
      simp only at hcall
      split at hcall
      · cases hcall
      · rename_i hset
        have hset := Int.not_lt.mp hset
        cases option with
        | reuseAddr =>
            obtain rfl := Sum.inl.inj hcall
            exact ⟨h, hset⟩
        | reusePort =>
            obtain rfl := Sum.inl.inj hcall
            exact ⟨h.1, h.2, hset⟩
        | rcvTimeo =>
            obtain rfl := Sum.inl.inj hcall
            refine ⟨h.1, ?_⟩
            intro option
            cases option with
            | reuseAddr => exact h.2.1
            | reusePort => exact h.2.2
            | rcvTimeo => exact hset
  | binding fd turn =>
      -- a failed `bind` leads to the next turn and asks for nothing new
      simp only at hcall
      split at hcall
      · obtain rfl := Sum.inl.inj hcall
        exact h
      · cases hcall

/-- A socket is bound only behind calls that have all gone well. -/
theorem bound_of_call {point : SocketPoint} {fd : Int} {port : UInt16} (h : point.Reached results)
    (hcall : tftpInitBoundDataSocketCall results point = .inr (.bound fd port)) :
    results.Bound := by
  unfold tftpInitBoundDataSocketCall at hcall
  cases point with
  | creating =>
      simp only at hcall
      split at hcall <;> cases hcall
  | setting fd' option =>
      simp only at hcall
      split at hcall
      · cases hcall
      · cases option <;> cases hcall
  | binding fd' turn =>
      simp only at hcall
      split at hcall
      · cases hcall
      · exact ⟨h.1, h.2, turn, Int.not_lt.mp ‹_›⟩

theorem lost_of_point (h : s.process.listener.state.point = .exited ∨
    ∃ cause, s.process.listener.state.point = .fault cause) : s.Lost results args slot := by
  unfold ServerSetup.Lost
  rcases h with hexited | ⟨cause, hfault⟩
  · rw [hexited]
    trivial
  · rw [hfault]
    trivial

/-- There is no way back. -/
theorem lost_step (hfits : args.Fits) (hnot : ¬ (results.Bound ∧ args.StringsEnd))
    (h : s.Lost results args slot) (hstep : serverSetup host mem results s m = some s') :
    s'.Lost results args slot := by
  have hlost := h
  unfold ServerSetup.Lost at h
  cases setup_moved hstep with
  | task move hother hsocket hprocess =>
      unfold ServerSetup.Lost
      rw [(listener_of_task hother hprocess).1, hsocket]
      exact hlost
  | gaveUp move hmove hgiving hprocess =>
      -- a listener that is lost has no request to give up
      cases hpoint : s.process.listener.state.point with
      | rejecting i fd peer reply | closing i fd | releasing i =>
          rw [hpoint] at h
          cases h
      | _ =>
          rw [hpoint] at hgiving
          cases hgiving
  | called i other point hpoint hcall heq =>
      rw [hpoint] at h
      subst heq
      unfold ServerSetup.Lost
      simp only [hpoint]
      exact ⟨h.1, h.2.1, reached_call h.2.2 hcall⟩
  | returned i other socket hpoint hcall hprocess heq =>
      rw [hpoint] at h
      obtain ⟨rfl, rfl, hreached⟩ := h
      -- the socket is not bound, or the strings read behind it do not end
      have hsocket : socket = .exits ∨ ¬ other.StringsEnd := by
        cases socket with
        | exits => exact Or.inl rfl
        | bound fd port => exact Or.inr fun hends => hnot ⟨bound_of_call hreached hcall, hends⟩
      subst heq
      exact lost_of_point (onInitialized_lost hfits hsocket)

theorem not_dealtWith_of_lost (h : s.Lost results args slot) :
    ¬ s.process.DealtWith host mem slot := by
  rintro ⟨⟨op, hpoint⟩ | ⟨hpoint, -⟩, -⟩
  · rw [ServerSetup.Lost, hpoint] at h
    exact h
  · rw [ServerSetup.Lost, hpoint] at h
    exact h

/-- A call that fails for good, or strings without an end, keep the listener from being done. -/
theorem not_isolated {p : ServerProcess} (hfits : args.Fits)
    (hpoint : p.listener.state.point = .initializing slot args)
    (hnot : ¬ (results.Bound ∧ args.StringsEnd)) :
    ¬ FailuresIsolated host mem results p slot := by
  intro h
  obtain ⟨more, t, hmore, hdone⟩ := h.done [] _ Run.nil
  have hstart : (ServerSetup.enter p).Lost results args slot := by
    unfold ServerSetup.Lost
    rw [show (ServerSetup.enter p).process = p from rfl, hpoint]
    exact ⟨rfl, rfl, trivial⟩
  have hlost : t.Lost results args slot :=
    hmore.invariant (fun _ _ _ hlost hstep => lost_step hfits hnot hlost hstep) hstart
  exact not_dealtWith_of_lost hlost hdone

end Lost

/-- From every state of slots and tasks a server can be in when a request, whatever its
datagram, is set up, failing calls cost no more than the request exactly if none of them ends
the program, `bind` succeeds after any number of failures, and the strings read behind it
end. -/
theorem failures_isolated_iff {host : Host} {mem : ListenerMemory} {results : SocketResults}
    {history : List ProcessMove} {p : ServerProcess} {slot : Nat} {args : InitArguments}
    (hrun : Run (serverProcess host mem) ServerProcess.start history p)
    (hpoint : p.listener.state.point = .initializing slot args) :
    FailuresIsolated host mem results p slot ↔ results.Bound ∧ args.StringsEnd := by
  have hfits : args.Fits := prepared_of_run hrun slot args hpoint
  constructor
  · intro h
    by_contra hnot
    exact not_isolated hfits hpoint hnot h
  · rintro ⟨hbound, hends⟩
    obtain ⟨last, hlast⟩ := hbound.bind
    have hstart : (ServerSetup.enter p).SettingUp args slot last := by
      refine ⟨ServerProcess.slotsOk_of_run hrun, ?_⟩
      unfold ServerSetup.AtWork
      rw [show (ServerSetup.enter p).process = p from rfl, hpoint]
      exact ⟨rfl, rfl, trivial⟩
    -- the invariant of the set-up, and the bound on the listener's steps that it gives
    have hsetting : ∀ moves s, Run (serverSetup host mem results) (.enter p) moves s →
        s.SettingUp args slot last ∧
          moves.countP SetupMove.ofListener ≤ (ServerSetup.enter p).rank last := by
      intro moves s hmoves
      obtain ⟨n, ⟨hs, -⟩, hcount⟩ := hmoves.countP_le
        (I := fun s n => s.SettingUp args slot last ∧ s.rank last = n)
        (fun t n m u ht hstep => by
          obtain ⟨hafter, hrank⟩ := ht.1.step hbound hlast hfits hends hstep
          exact ⟨_, ⟨hafter, rfl⟩, ht.2 ▸ hrank⟩)
        ⟨hstart, rfl⟩
      exact ⟨hs, by omega⟩
    constructor
    · intro moves s m s' hmoves hlistener hstep
      exact ((hsetting moves s hmoves).1.listener hbound hlast hfits hends hlistener hstep).2.2
    · exact ⟨_, fun moves s hmoves => (hsetting moves s hmoves).2⟩
    · intro moves s hmoves
      exact exists_run_dealtWith hbound hlast hfits hends (hsetting moves s hmoves).1

section FixedRuns

/-- The data socket for a deletion is to be created. -/
def ListenerPoint.deleting (slot : Nat) : ListenerPoint → Bool
  | .initializing i args => i == slot && args.operation == .handleDelete
  | _ => false

/-- The second request is set up while the task of the first is running. -/
def SecondRequest (p : ServerProcess) : Prop :=
  p.tasks.length = 1 ∧ p.listener.state.point.deleting 1 = true

instance : DecidablePred SecondRequest := fun p =>
  inferInstanceAs (Decidable (p.tasks.length = 1 ∧ p.listener.state.point.deleting 1 = true))

theorem initializing_of_deleting {point : ListenerPoint} {slot : Nat}
    (h : point.deleting slot = true) :
    ∃ args, point = .initializing slot args ∧ args.operation = .handleDelete := by
  unfold ListenerPoint.deleting at h
  split at h
  · obtain ⟨hslot, hoperation⟩ := (Bool.and_eq_true _ _).mp h
    obtain rfl := beq_iff_eq.mp hslot
    exact ⟨_, rfl, beq_iff_eq.mp hoperation⟩
  · cases h

/-- Everything succeeds but the first two calls of `bind`. -/
def bindFailsTwice : SocketResults :=
  { socket := 5
    setsockopt := fun _ => 0
    rand := fun turn => turn
    bind := fun turn => if turn < 2 then -1 else 0 }

/-- There is no descriptor left. -/
def noDescriptor : SocketResults :=
  { bindFailsTwice with socket := -1 }

set_option maxRecDepth 8000 in
theorem run_secondRequest :
    ∃ p, Run (serverProcess littleHost .strict) .start
      (requestMoves (localhost 50001) 0 4 40001 ++ arrivalMoves (localhost 50002) 1) p ∧
        SecondRequest p :=
  exists_run_of_exec (by decide)

/-- Two failures of `bind` do no harm. -/
theorem failures_isolated_twice :
    ∃ p, p.tasks.length = 1 ∧ FailuresIsolated littleHost .strict bindFailsTwice p 1 := by
  obtain ⟨p, hrun, hlength, hdeleting⟩ := run_secondRequest
  obtain ⟨args, hpoint, hdelete⟩ := initializing_of_deleting hdeleting
  refine ⟨p, hlength, (failures_isolated_iff hrun hpoint).mpr ⟨?_, Or.inl ?_⟩⟩
  · exact ⟨by decide, fun _ => le_refl _, 2, by decide⟩
  · rw [hdelete]
    rfl

/-- Without a descriptor the program ends, and the running task with it. -/
theorem failures_isolated_not_without_descriptor :
    ∃ history p args, Run (serverProcess littleHost .strict) .start history p ∧
      p.tasks.length = 1 ∧ p.listener.state.point = .initializing 1 args ∧ args.StringsEnd ∧
        ¬ FailuresIsolated littleHost .strict noDescriptor p 1 := by
  obtain ⟨p, hrun, hlength, hdeleting⟩ := run_secondRequest
  obtain ⟨args, hpoint, hdelete⟩ := initializing_of_deleting hdeleting
  have hends : args.StringsEnd := by
    left
    rw [hdelete]
    rfl
  refine ⟨_, p, args, hrun, hlength, hpoint, hends, ?_⟩
  refine not_isolated (prepared_of_run hrun 1 args hpoint) hpoint ?_
  rintro ⟨hbound, -⟩
  exact absurd hbound.socket (by decide)

end FixedRuns

end Stftpu
