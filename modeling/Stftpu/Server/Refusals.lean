import Stftpu.Server.Grammar
import Stftpu.Server.Process

/-!
# Datagrams that are no request

The branch of `server_listener_loop` for opcodes that are no request prints the opcode's
name and sends it back, and takes both from `opcode_strings` at the index that came in the
datagram.

* `RefusedBehind` — what the listener has done at any point of such an iteration: nothing but
  send one ERROR packet.
* `IterationRefuses` — this holds to the end of the iteration, and no name outside
  `opcode_strings` is used on the way.
* `iteration_refuses_iff` — it does exactly for the seven opcodes that have a name, as long
  as the dump of the datagram can be read.
-/

namespace Stftpu

open Library

/-- The memory as it is, with nothing that could be read behind the opcode names. -/
def ListenerMemory.namesOnly (mem : ListenerMemory) : ListenerMemory :=
  { mem with beyondOpcodes := fun _ => none }

/-- The move is the listener's. -/
def ProcessMove.ofListener : ProcessMove → Bool
  | .listener _ | .listenerCall | .taskArgs _ | .create | .createFailed _ => true
  | .begin _ | .task _ _ | .taskRelease _ => false

/-- The move is a look at `should_terminate`, which opens and closes an iteration. -/
def ProcessMove.isPoll : ProcessMove → Bool
  | .listener (.poll _) => true
  | _ => false

/-- What the listener has done behind a datagram that is refused: it has sent at most one
packet, an ERROR packet to the sender, and the iteration ends with exactly one (none if the
sender's port is 69) and a clear buffer.  Slots and tasks are as they were, and an iteration
that has not ended only waits for the packet to be sent. -/
structure RefusedBehind (host : Host) (mem : ListenerMemory) (source : SockAddr)
    (moves : List ProcessMove) (p p' : ServerProcess) : Prop where
  slots : p'.slots = p.slots
  tasks : p'.tasks = p.tasks
  sent : ∀ m ∈ moves, ∃ reply ok, m = .listener (.sendto source (errorPacket reply) ok)
  once : moves.length ≤ 1
  goes : p'.listener.state.point = .looping ∨
    ∃ reply q, serverProcess host mem p' (.listener (.sendto source (errorPacket reply) true)) =
      some q ∧ q.listener.state.point = .looping
  done : p'.listener.state.point = .looping →
    moves.length = (if forwardsErrors source then 1 else 0) ∧
      p'.listener.state.requestBuffer = Buffer.zero requestBufferSize

/-- The listener, awaiting a request, is given a datagram, and finds `should_terminate` set or
not behind it: until its next look the datagram is refused. -/
def IterationRefuses (host : Host) (mem : ListenerMemory) (p : ServerProcess)
    (source : SockAddr) (datagram : List UInt8) (set : Bool) : Prop :=
  ∀ moves p',
    Run (serverProcess host mem.namesOnly) p
      (.listener (.recvfrom requestBufferSize (.datagram source datagram)) ::
        .listener (.poll set) :: moves) p' →
    (∀ m ∈ moves, m.ofListener = true ∧ m.isPoll = false) →
    RefusedBehind host mem.namesOnly source moves p p'

/-- The datagram, as received, leaves room for the dump to read on two bytes behind it. -/
def DumpReadable (mem : ListenerMemory) (datagram : List UInt8) : Prop :=
  min datagram.length requestBufferSize + 2 ≤ requestBufferSize + mem.slack.length

section Refusals

variable {host : Host} {mem : ListenerMemory} {s : ListenerState} {p p' : ServerProcess}
  {m : ProcessMove} {moves : List ProcessMove} {source : SockAddr} {datagram : List UInt8}
  {set : Bool}

/-- Outside its calls the listener leaves slots and tasks alone. -/
theorem listener_leaves (hcall : p.listener.state.point.inCall = false)
    (hlistener : m.ofListener = true) (hstep : serverProcess host mem p m = some p') :
    ∃ e state, m = .listener e ∧ serverListenerLoop host mem p.listener.state e = some state ∧
      p' = { p with listener := .enter state } := by
  -- the creation of a task is itself a call of several steps
  have hspawning : ∀ slot op, p.listener.state.point ≠ .spawning slot op := by
    intro slot op h
    simp [ListenerPoint.inCall, h] at hcall
  cases m with
  | listener e =>
      obtain ⟨-, state, hstate, rfl⟩ := listener_eq hstep
      exact ⟨e, state, rfl, hstate, rfl⟩
  | listenerCall =>
      cases listenerCall_eq hstep with
      | acquiring slots next hpoint hcall' heq =>
          simp [ListenerPoint.inCall, hpoint] at hcall
      | acquired slots slot hpoint hcall' heq =>
          simp [ListenerPoint.inCall, hpoint] at hcall
      | releasing slot slots next hpoint hcall' heq =>
          simp [ListenerPoint.inCall, hpoint] at hcall
      | released slot slots hpoint hcall' heq =>
          simp [ListenerPoint.inCall, hpoint] at hcall
      | stored slot op hpoint hspawn heq => exact absurd hpoint (hspawning slot op)
  | taskArgs allocated =>
      obtain ⟨slot, op, hpoint, -⟩ := taskArgs_eq hstep
      exact absurd hpoint (hspawning slot op)
  | create =>
      obtain ⟨slot, op, hpoint, -⟩ := create_eq hstep
      exact absurd hpoint (hspawning slot op)
  | createFailed handle =>
      obtain ⟨slot, op, hpoint, -⟩ := createFailed_eq hstep
      exact absurd hpoint (hspawning slot op)
  | begin k => cases hlistener
  | task k e => cases hlistener
  | taskRelease k => cases hlistener

/-! ### The dispatch -/

theorem readBytes_dump (mem : ListenerMemory)
    (hbytes : s.bytesReceived = min (datagram.length : Int) requestBufferSize) :
    (∃ dump, readBytes (s.contents mem) s.bytesReceived.toNat = some dump) ↔
      DumpReadable mem datagram := by
  have hsize : requestBufferSize = 514 := rfl
  have hlength : (s.contents mem).length = 512 + mem.slack.length := by
    rw [ListenerState.contents, List.length_drop, List.length_append, Buffer.length_eq, hsize]
    omega
  have hcount : s.bytesReceived.toNat = min datagram.length requestBufferSize := by
    rw [hbytes]
    omega
  rw [readBytes, hlength, hcount, DumpReadable, hsize]
  constructor
  · rintro ⟨dump, hdump⟩
    split at hdump
    · omega
    · cases hdump
  · intro hle
    rw [if_pos (by omega)]
    exact ⟨_, rfl⟩

theorem opcodeString_namesOnly (mem : ListenerMemory) (opcode : UInt16) :
    (∃ text, opcodeString mem.namesOnly opcode = some text) ↔
      opcode.toNat < opcodeStrings.length := by
  unfold opcodeString
  cases hname : opcodeStrings[opcode.toNat]? with
  | none =>
      have := List.getElem?_eq_none_iff.mp hname
      simp only [ListenerMemory.namesOnly]
      constructor
      · rintro ⟨text, htext⟩
        cases htext
      · intro hlt
        omega
  | some text =>
      obtain ⟨hlt, -⟩ := List.getElem?_eq_some_iff.mp hname
      exact iff_of_true ⟨text, rfl⟩ hlt

/-- The listener behind the receive of a datagram that is no request: it refuses it if the
dump can be read and the opcode has a name. -/
theorem dispatch_no_request (host : Host) (mem : ListenerMemory) (source : SockAddr)
    (hzero : s.requestBuffer = Buffer.zero requestBufferSize) (hne : datagram ≠ [])
    (hop : requestOperation (opcodeOf datagram) = none) :
    (((opcodeOf datagram).toNat < opcodeStrings.length ∧ DumpReadable mem datagram) ∧
        ∃ text, (s.onReceived (.datagram source datagram)).dispatch host mem.namesOnly =
          (s.onReceived (.datagram source datagram)).refuse
            (ListenerState.illegalOpcodeReply text)) ∨
      (¬ ((opcodeOf datagram).toNat < opcodeStrings.length ∧ DumpReadable mem datagram) ∧
        ∃ cause, ((s.onReceived (.datagram source datagram)).dispatch host
          mem.namesOnly).point = .fault cause) := by
  have hbytes : (s.onReceived (.datagram source datagram)).bytesReceived =
      min (datagram.length : Int) requestBufferSize := rfl
  have hopcode : (s.onReceived (.datagram source datagram)).incomingOpcode host =
      opcodeOf datagram := by
    refine incomingOpcode_cleared host ?_
    simp only [ListenerState.onReceived, hzero]
  have hpositive : ¬ (s.onReceived (.datagram source datagram)).bytesReceived ≤ 0 := by
    have := List.length_pos_iff.mpr hne
    have hsize : requestBufferSize = 514 := rfl
    rw [hbytes, hsize]
    omega
  have hdump := readBytes_dump mem.namesOnly hbytes
  have hname := opcodeString_namesOnly mem (opcodeOf datagram)
  -- from here on only the count, the opcode and the dump matter
  generalize s.onReceived (.datagram source datagram) = r at *
  unfold ListenerState.dispatch
  rw [if_neg hpositive, hopcode, hop]
  cases hread : readBytes (r.contents mem.namesOnly) r.bytesReceived.toNat with
  | none =>
      -- the dump goes first, and its read may already be the fault
      refine Or.inr ⟨?_, _, rfl⟩
      rintro ⟨-, hreadable⟩
      obtain ⟨dump, heq⟩ := hdump.mpr hreadable
      rw [hread] at heq
      cases heq
  | some dump =>
      have hreadable : DumpReadable mem datagram := hdump.mp ⟨dump, hread⟩
      cases hstring : opcodeString mem.namesOnly (opcodeOf datagram) with
      | none =>
          -- the opcode has no name, and the message is read from behind the names
          refine Or.inr ⟨?_, _, rfl⟩
          rintro ⟨hlt, -⟩
          obtain ⟨text, heq⟩ := hname.mpr hlt
          rw [hstring] at heq
          cases heq
      | some text => exact Or.inl ⟨⟨hname.mp ⟨text, hstring⟩, hreadable⟩, text, rfl⟩

/-! ### The rest of the iteration -/

/-- Until it looks at `should_terminate` again the listener has nothing to do. -/
theorem run_looping (hpoint : p.listener.state.point = .looping)
    (hmoves : ∀ m ∈ moves, m.ofListener = true ∧ m.isPoll = false)
    (hrun : Run (serverProcess host mem) p moves p') : moves = [] ∧ p' = p := by
  cases moves with
  | nil => exact ⟨rfl, hrun.eq_of_nil⟩
  | cons m moves =>
      obtain ⟨q, hstep, -⟩ := hrun.of_cons
      obtain ⟨hlistener, hpoll⟩ := hmoves m List.mem_cons_self
      have hcall : p.listener.state.point.inCall = false := by
        rw [hpoint]
        rfl
      obtain ⟨e, state, rfl, hloop, -⟩ := listener_leaves hcall hlistener hstep
      cases loop_called hloop with
      | looping set hlooping => cases hpoll
      | _ =>
          rename_i hother
          cases hpoint.symm.trans hother

/-- The listener sends its ERROR packet and clears the buffer. -/
theorem run_refusing {reply : ErrorReply} (hpoint : p.listener.state.point = .refusing reply)
    (hmoves : ∀ m ∈ moves, m.ofListener = true ∧ m.isPoll = false)
    (hrun : Run (serverProcess host mem) p moves p') :
    (moves = [] ∧ p' = p) ∨
      ∃ ok, moves = [.listener (.sendto p.listener.state.clientAddress (errorPacket reply) ok)] ∧
        p' = { p with listener := .enter p.listener.state.clear } := by
  cases moves with
  | nil => exact Or.inl ⟨rfl, hrun.eq_of_nil⟩
  | cons m moves =>
      obtain ⟨q, hstep, hrest⟩ := hrun.of_cons
      obtain ⟨hlistener, -⟩ := hmoves m List.mem_cons_self
      have hcall : p.listener.state.point.inCall = false := by
        rw [hpoint]
        rfl
      obtain ⟨e, state, rfl, hloop, rfl⟩ := listener_leaves hcall hlistener hstep
      cases loop_called hloop with
      | refusing other ok hrefusing =>
          obtain rfl := ListenerPoint.refusing.inj (hpoint.symm.trans hrefusing)
          have hlater : ∀ m ∈ moves, m.ofListener = true ∧ m.isPoll = false :=
            fun m hm => hmoves m (List.mem_cons_of_mem _ hm)
          obtain ⟨rfl, rfl⟩ := run_looping rfl hlater hrest
          exact Or.inr ⟨ok, rfl, rfl⟩
      | _ =>
          rename_i hother
          cases hpoint.symm.trans hother

/-- Behind a refusal everything is as it was, but for the packet sent and the buffer. -/
theorem refusedBehind_of_refuse {text : List UInt8}
    (hstate : p.listener.state = s.refuse (ListenerState.illegalOpcodeReply text))
    (hmoves : ∀ m ∈ moves, m.ofListener = true ∧ m.isPoll = false)
    (hrun : Run (serverProcess host mem) p moves p') :
    RefusedBehind host mem s.clientAddress moves p p' := by
  -- the reply is only sent to a client that gets error packets
  by_cases hforwards : forwardsErrors s.clientAddress = true
  · have hrefusing : p.listener.state =
        { s with point := .refusing (ListenerState.illegalOpcodeReply text) } := by
      rw [hstate, ListenerState.refuse, if_pos hforwards]
    have hat : p.listener.state.point =
        .refusing (ListenerState.illegalOpcodeReply text) := by
      rw [hrefusing]
    have haddress : p.listener.state.clientAddress = s.clientAddress := by
      rw [hrefusing]
    -- the reply is still to be sent, or has been
    rcases run_refusing hat hmoves hrun with ⟨rfl, rfl⟩ | ⟨ok, rfl, rfl⟩
    · refine ⟨rfl, rfl, by simp, by simp, Or.inr ?_, ?_⟩
      · refine ⟨ListenerState.illegalOpcodeReply text,
          { p' with listener := .enter p'.listener.state.clear }, ?_, rfl⟩
        simp [serverProcess, serverListenerLoop, hat, haddress, ListenerPoint.inCall]
      · intro hlooping
        rw [hat] at hlooping
        cases hlooping
    · rw [haddress]
      refine ⟨rfl, rfl, ?_, by simp, Or.inl rfl, ?_⟩
      · intro m hm
        exact ⟨_, ok, List.mem_singleton.mp hm⟩
      · intro _
        exact ⟨by simp [hforwards], rfl⟩
  · have hclear : p.listener.state = s.clear := by
      rw [hstate, ListenerState.refuse, if_neg hforwards]
    have hat : p.listener.state.point = .looping := by
      rw [hclear]
      rfl
    obtain ⟨rfl, rfl⟩ := run_looping hat hmoves hrun
    refine ⟨rfl, rfl, by simp, by simp, Or.inl hat, ?_⟩
    intro _
    refine ⟨by simp [hforwards], ?_⟩
    rw [hclear]
    rfl

/-- The listener behind a receive and its look at `should_terminate`. -/
def listenerBehind (host : Host) (mem : ListenerMemory) (s : ListenerState) (source : SockAddr)
    (datagram : List UInt8) (set : Bool) : ListenerState :=
  if set then { s.onReceived (.datagram source datagram) with point := .ended }
  else (s.onReceived (.datagram source datagram)).dispatch host mem

/-- The two system calls that open an iteration. -/
theorem run_received_iff (hpoint : p.listener.state.point = .awaiting) :
    Run (serverProcess host mem) p
        (.listener (.recvfrom requestBufferSize (.datagram source datagram)) ::
          .listener (.poll set) :: moves) p' ↔
      Run (serverProcess host mem)
        { p with
          listener := .enter (listenerBehind host mem p.listener.state source datagram set) }
        moves p' := by
  have hreceive : serverProcess host mem p
      (.listener (.recvfrom requestBufferSize (.datagram source datagram))) =
        some { p with
          listener := .enter (p.listener.state.onReceived (.datagram source datagram)) } := by
    simp [serverProcess, serverListenerLoop, hpoint, ListenerPoint.inCall]
  have hpoll : serverProcess host mem
      { p with listener := .enter (p.listener.state.onReceived (.datagram source datagram)) }
      (.listener (.poll set)) =
        some { p with
          listener := .enter (listenerBehind host mem p.listener.state source datagram set) } := by
    simp [serverProcess, serverListenerLoop, ListenerThread.enter, ListenerState.onReceived,
      ListenerPoint.inCall, listenerBehind]
  constructor
  · intro hrun
    obtain ⟨p₁, hstep₁, hrest⟩ := hrun.of_cons
    obtain ⟨p₂, hstep₂, hrest⟩ := hrest.of_cons
    rw [hreceive] at hstep₁
    obtain rfl := Option.some.inj hstep₁
    rw [hpoll] at hstep₂
    obtain rfl := Option.some.inj hstep₂
    exact hrest
  · intro hrest
    exact Run.cons hreceive (Run.cons hpoll hrest)

/-- Nothing comes behind a fault. -/
theorem not_refuses_of_fault {cause : Fault} (hpoint : p.listener.state.point = .awaiting)
    (hfault : (listenerBehind host mem.namesOnly p.listener.state source datagram set).point =
      .fault cause) : ¬ IterationRefuses host mem p source datagram set := by
  intro hrefuses
  have hbehind := hrefuses [] _ ((run_received_iff hpoint).mpr Run.nil) (by simp)
  rcases hbehind.goes with hlooping | ⟨reply, q, hstep, -⟩
  · rw [ListenerThread.enter, hfault] at hlooping
    cases hlooping
  · simp [serverProcess, serverListenerLoop, ListenerThread.enter, hfault] at hstep

end Refusals

/-- A datagram that is no request is refused as it should be, over the whole iteration and
whatever the slots and the tasks are, exactly if its opcode is one of those with a name. -/
theorem iteration_refuses_iff {host : Host} {mem : ListenerMemory} {p : ServerProcess}
    {history : List ProcessMove} {source : SockAddr} {datagram : List UInt8} {set : Bool}
    (hrun : Run (serverProcess host mem) ServerProcess.start history p)
    (hpoint : p.listener.state.point = .awaiting) (hne : datagram ≠ [])
    (hop : requestOperation (opcodeOf datagram) = none) :
    IterationRefuses host mem p source datagram set ↔
      set = false ∧ (opcodeOf datagram).toNat < opcodeStrings.length ∧
        DumpReadable mem datagram := by
  have hcleared : p.listener.state.Cleared :=
    hrun.invariant (I := fun p => p.listener.state.Cleared)
      (fun _ _ _ hI hstep => cleared_process hI hstep) rfl
  have hzero : p.listener.state.requestBuffer = Buffer.zero requestBufferSize := by
    simpa only [ListenerState.Cleared, hpoint] using hcleared
  constructor
  · intro hrefuses
    cases set with
    | true =>
        -- the listener is at its end and can make no step to answer
        have hbehind := hrefuses [] _ ((run_received_iff hpoint).mpr Run.nil) (by simp)
        rcases hbehind.goes with hlooping | ⟨reply, q, hstep, -⟩
        · cases hlooping
        · cases hstep
    | false =>
        rcases dispatch_no_request host mem source hzero hne hop with
          ⟨hmet, -⟩ | ⟨-, cause, hfault⟩
        · exact ⟨rfl, hmet⟩
        · exact absurd hrefuses (not_refuses_of_fault hpoint hfault)
  · rintro ⟨rfl, hmet⟩ moves p' hmoves hlistener
    rcases dispatch_no_request host mem source hzero hne hop with
      ⟨-, text, hrefuse⟩ | ⟨hnot, -⟩
    · have hbehind := refusedBehind_of_refuse hrefuse hlistener
        ((run_received_iff hpoint).mp hmoves)
      exact ⟨hbehind.slots, hbehind.tasks, hbehind.sent, hbehind.once, hbehind.goes, hbehind.done⟩
    · exact absurd hmet hnot

section FixedRuns

/-- The server before its first datagram. -/
def awaitingProcess : ServerProcess :=
  { ServerProcess.start with
    listener := .enter { ListenerState.start with point := .awaiting } }

theorem run_awaitingProcess (host : Host) (mem : ListenerMemory) :
    Run (serverProcess host mem) ServerProcess.start [.listener (.poll false)] awaitingProcess :=
  Run.single rfl

/-- A DATA packet on the requests socket is refused. -/
theorem iteration_refuses_data :
    IterationRefuses littleHost .strict awaitingProcess (localhost 3000) [0, 3, 0, 1] false :=
  (iteration_refuses_iff (run_awaitingProcess littleHost .strict) rfl (by decide) rfl).mpr
    ⟨rfl, by decide, by unfold DumpReadable; decide⟩

set_option maxRecDepth 8000 in
/-- A stranger's opcode 7 is looked up behind the names. -/
theorem iteration_refuses_not_unnamed :
    ∃ p, Run (serverProcess littleHost .strict) ServerProcess.start [.listener (.poll false)] p ∧
      p.listener.state.point = .awaiting ∧ requestOperation (opcodeOf [0, 7]) = none ∧
        ¬ IterationRefuses littleHost .strict p (localhost 3000) [0, 7] false := by
  refine ⟨awaitingProcess, run_awaitingProcess littleHost .strict, rfl, rfl, ?_⟩
  exact not_refuses_of_fault rfl (by decide : (listenerBehind littleHost
    ListenerMemory.strict.namesOnly ListenerState.start (localhost 3000) [0, 7] false).point =
      .fault .opcodeStrings)

end FixedRuns

end Stftpu
