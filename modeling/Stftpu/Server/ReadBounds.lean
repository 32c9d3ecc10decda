import Stftpu.Server.Grammar

/-!
# Reads of the request buffer

An iteration of the listener is replayed in a memory where nothing behind the blocks
can be read, so an access outside `request_buffer` shows as a fault.

* `inside_step` — a datagram that leaves two bytes of the buffer is dumped, parsed and
  checked inside it: the terminators all strings need are the zeros left behind it.
* `iteration_reads_inside_iff` — and no longer datagram is: the dump starts two bytes
  into the buffer and is as long as the datagram.
-/

namespace Stftpu

open Library

/-- The event is no receive: the run has not come to the next request. -/
def WithinIteration (e : Event) : Prop :=
  ∀ size result, e ≠ .recvfrom size result

/-- Every read of the request that the listener makes for a datagram, until its next
`recvfrom`, stays inside `request_buffer`. -/
def IterationReadsInside (host : Host) (s : ListenerState) (source : SockAddr)
    (datagram : List UInt8) : Prop :=
  ∀ tr t,
    Run (serverListenerLoop host ListenerMemory.strict)
      (s.onReceived (.datagram source datagram)) tr t →
    (∀ e ∈ tr, WithinIteration e) → t.point ≠ .fault .requestBuffer

namespace ListenerState

variable {host : Host} {mem : ListenerMemory} {s s' : ListenerState} {e : Event}
  {datagram : List UInt8}

/-- The states of an iteration over a datagram that leaves two bytes of the buffer. -/
def Inside (datagram : List UInt8) (s : ListenerState) : Prop :=
  match s.point with
  | .received | .acquiring =>
      s.requestBuffer = (Buffer.zero requestBufferSize).receive datagram ∧
        s.bytesReceived = datagram.length ∧
        (s.point = .acquiring → requestOperation (opcodeOf datagram) ≠ none)
  | .initializing _ args =>
      (∃ path, cstr args.filename = some path ∧ path.length < 65535) ∧
        (∀ p ∈ args.mode, 0 ∈ p) ∧ (∀ p ∈ args.blocksize, 0 ∈ p)
  | .fault cause => cause ≠ .requestBuffer
  | _ => True

theorem inside_refuse (reply : ErrorReply) : (s.refuse reply).Inside datagram := by
  unfold refuse
  split <;> trivial

theorem inside_freeOperationData (slot : Nat) (fd : Int) :
    (s.freeOperationData slot fd).Inside datagram := by
  unfold freeOperationData
  split <;> trivial

theorem inside_dispatch (hpoint : s.point = .received) (h : s.Inside datagram)
    (hlen : datagram.length + 2 ≤ requestBufferSize) :
    (s.dispatch host ListenerMemory.strict).Inside datagram := by
  simp only [Inside, hpoint] at h
  obtain ⟨hbuf, hbytes, -⟩ := h
  have hcount : s.bytesReceived.toNat = datagram.length := by omega
  obtain ⟨dump, hdump⟩ := readBytes_contents ListenerMemory.strict s hlen
  have hopcode := incomingOpcode_cleared host hbuf
  unfold dispatch
  split
  · trivial
  · simp only [hcount, hdump, hopcode]
    split
    · rename_i operation hop
      exact ⟨hbuf, hbytes, fun _ => by simp [hop]⟩
    · split
      · exact nofun
      · exact inside_refuse _

/-- A pointer whose string can be read has a terminator. -/
theorem mem_of_map_cstr {p : Option CharPtr} {t : Option (List UInt8)}
    (h : p.map cstr = t.map some) : ∀ q ∈ p, 0 ∈ q := by
  rintro q rfl
  cases t with
  | none => cases h
  | some bytes =>
      rw [Option.map_some, Option.map_some] at h
      exact mem_of_cstr (Option.some.inj h)

theorem inside_onAcquired (hpoint : s.point = .acquiring) (h : s.Inside datagram)
    (hlen : datagram.length + 2 ≤ requestBufferSize) (slot : Option Nat) :
    (s.onAcquired host ListenerMemory.strict slot).Inside datagram := by
  simp only [Inside, hpoint] at h
  obtain ⟨hbuf, hbytes, hop⟩ := h
  cases slot with
  | none => exact inside_refuse _
  | some slot =>
      obtain ⟨operation, hoperation⟩ := Option.ne_none_iff_exists'.mp (hop trivial)
      obtain ⟨args, hparse, -, -, hpath, hmode, hblocksize⟩ :=
        serverParseRequestData_cleared host ListenerMemory.strict hbuf hbytes
          hlen hoperation
      simp only [onAcquired, hparse]
      refine ⟨⟨_, hpath, ?_⟩, mem_of_map_cstr hmode, mem_of_map_cstr hblocksize⟩
      have hname := List.length_take_le tftpFilenameMax (requestField 0 datagram)
      have hstorage : serverStoragePath.length = 8 := by decide
      rw [List.length_append, hstorage]
      simp only [tftpFilenameMax] at hname ⊢
      omega

theorem inside_onInitialized {slot : Nat} {args : InitArguments}
    (hpoint : s.point = .initializing slot args) (h : s.Inside datagram) (socket : DataSocket) :
    (s.onInitialized slot args socket).Inside datagram := by
  simp only [Inside, hpoint] at h
  obtain ⟨⟨path, hpath, hlen⟩, hmode, hblocksize⟩ := h
  obtain ⟨outcome, houtcome⟩ := tftpInitOperationData_isSome socket hpath hlen hmode hblocksize
  simp only [onInitialized, houtcome]
  cases outcome with
  | exits => trivial
  | rejected fd reply =>
      simp only []
      split
      · trivial
      · exact inside_freeOperationData _ _
  | created op => trivial

/-- Until the next receive, every step reads inside the buffer. -/
theorem inside_step (h : s.Inside datagram) (hlen : datagram.length + 2 ≤ requestBufferSize)
    (hwithin : WithinIteration e)
    (hstep : serverListenerLoop host ListenerMemory.strict s e = some s') :
    s'.Inside datagram := by
  cases loop_called hstep with
  | looping set hpoint => cases set <;> trivial
  | awaiting result hpoint => exact absurd rfl (hwithin _ _)
  | received set hpoint =>
      cases set with
      | true => trivial
      | false => exact inside_dispatch hpoint h hlen
  | refusing reply ok hpoint => trivial
  | acquiring slot hpoint => exact inside_onAcquired hpoint h hlen slot
  | initializing slot args socket hpoint => exact inside_onInitialized hpoint h socket
  | rejecting slot fd client reply ok hpoint => exact inside_freeOperationData slot fd
  | closing slot fd hpoint => trivial
  | releasing slot hpoint => trivial
  | spawning slot op ok hpoint => trivial

/-- The dump of a longer datagram reads behind the buffer. -/
theorem dispatch_outside (host : Host) (s : ListenerState) (source : SockAddr)
    (datagram : List UInt8) (hlen : requestBufferSize < datagram.length + 2) :
    ((s.onReceived (.datagram source datagram)).dispatch host ListenerMemory.strict).point =
      .fault .requestBuffer := by
  have hsize : requestBufferSize = 514 := rfl
  have hbytes : (s.onReceived (.datagram source datagram)).bytesReceived =
      min (datagram.length : Int) requestBufferSize := rfl
  have hcontents : ((s.onReceived (.datagram source datagram)).contents
      ListenerMemory.strict).length = 512 := by
    rw [contents, List.length_drop, List.length_append, Buffer.length_eq, hsize]
    rfl
  unfold dispatch
  rw [hbytes, if_neg (by omega), readBytes, hcontents, if_neg (by omega)]

end ListenerState

/-- From any reachable state of the listener, every read it makes of a datagram stays
inside `request_buffer` exactly when the datagram has at most 512 bytes. -/
theorem iteration_reads_inside_iff (host : Host) (mem : ListenerMemory) {history : List Event}
    {s : ListenerState}
    (h : Run (serverListenerLoop host mem) ListenerState.start history s)
    (hpoint : s.point = .awaiting) (source : SockAddr) (datagram : List UInt8) :
    IterationReadsInside host s source datagram ↔ datagram.length ≤ 512 := by
  have hsize : requestBufferSize = 514 := rfl
  constructor
  · intro hinside
    by_contra hlong
    -- the dump behind the receive has left the buffer already
    have hfault := ListenerState.dispatch_outside host s source datagram (by omega)
    refine hinside [.poll false] _ (Run.single (t := (s.onReceived
      (.datagram source datagram)).dispatch host ListenerMemory.strict) rfl) ?_ hfault
    intro e he
    obtain rfl : e = .poll false := by simpa using he
    nofun
  · intro hlen tr t hrun hwithin
    -- a buffer cleared for this receive holds the datagram and nothing else
    have hzero := ListenerState.buffer_zero_of_run h hpoint
    have hstart : (s.onReceived (.datagram source datagram)).Inside datagram := by
      refine ⟨by rw [← hzero]; rfl, ?_, nofun⟩
      show (min _ _ : Int) = _
      omega
    have hinside : t.Inside datagram := by
      refine hrun.invariant_of_everyStep (C := fun _ e => WithinIteration e) ?_ ?_ hstart
      · intro u e v hu he hstep
        exact ListenerState.inside_step hu (by omega) he hstep
      · rw [everyStep_iff]
        intro pre e post u htr _
        exact hwithin e (by simp [htr])
    intro hfault
    simp only [ListenerState.Inside, hfault] at hinside
    exact hinside rfl

section FixedRuns

/-- The first request of a listener. -/
theorem iteration_reads_inside_first :
    ∃ s, Run (serverListenerLoop littleHost ListenerMemory.strict) ListenerState.start
        [.poll false] s ∧
      IterationReadsInside littleHost s (localhost 50001)
        ([0, 1] ++ ascii "a" ++ [0] ++ ascii "octet" ++ [0]) := by
  have hrun : Run (serverListenerLoop littleHost ListenerMemory.strict) ListenerState.start
      [.poll false] { ListenerState.start with point := .awaiting } := Run.single rfl
  exact ⟨_, hrun, (iteration_reads_inside_iff littleHost ListenerMemory.strict hrun rfl
    (localhost 50001) _).mpr (by decide)⟩

/-- A read request of 513 bytes, one name that fills the datagram. -/
def longRequest : List UInt8 :=
  [0, 1] ++ List.replicate 511 97

theorem iteration_reads_outside :
    ∃ s, Run (serverListenerLoop littleHost ListenerMemory.strict) ListenerState.start
        [.poll false, .recvfrom requestBufferSize (.datagram (localhost 50001) longRequest),
          .poll false] s ∧
      s.point = .fault .requestBuffer := by
  have hlen : longRequest.length = 513 := by
    rw [longRequest, List.length_append, List.length_replicate]
    rfl
  have hstart : Run (serverListenerLoop littleHost ListenerMemory.strict) ListenerState.start
      [.poll false] { ListenerState.start with point := .awaiting } := Run.single rfl
  exact ⟨_, hstart.append (ListenerState.run_dispatch _ _ rfl _),
    ListenerState.dispatch_outside _ _ (localhost 50001) _ (by rw [hlen]; decide)⟩

end FixedRuns

end Stftpu
