import Stftpu.Program
import Stftpu.Server.RoundTrip

/-!
# From the command line to the server's operation

The strings of a command line make an operation of the client, the operation a request, and
the request an operation of the server.

* `ProgramState.Unsent` — what a client holds until it sends its first packet.
* `command_round_trip` — that packet is read by a server as the command line means it.
-/

namespace Stftpu

open Library

/-- The program of a client that has not used its socket yet. -/
def ProgramState.Unsent (args : InitArguments) : ProgramState → Prop
  | .initializing other => other = args
  | .discarding _ => True
  | .operating (.requesting op packet) =>
      (∃ fd port, tftpInitOperationData (.bound fd port) args = some (.created op)) ∧
        sendRequestPacket op = some (.built packet)
  | .exited _ => True
  | .fault => True
  | _ => False

section Client

variable {host : Host} {mem : ListenerMemory} {args : InitArguments} {s s' : ProgramState}
  {m : ProgramMove} {moves : List ProgramMove} {peer : SockAddr} {packet : List UInt8} {ok : Bool}

theorem unsent_discard (fd : Int) : (ProgramState.discard fd).Unsent args := by
  unfold ProgramState.discard
  split <;> trivial

theorem unsent_onInitialized (hport : args.peer.port = 69) (socket : DataSocket) :
    (ProgramState.onInitialized args socket).Unsent args := by
  unfold ProgramState.onInitialized
  split
  · trivial
  · trivial
  · -- the requests port is told nothing
    have hsilent : ¬ forwardsErrors args.peer = true := by
      rw [forwardsErrors, hport]
      decide
    rw [if_neg hsilent]
    exact unsent_discard _
  · rename_i op hcreated
    obtain ⟨fd, port, -, rfl, -⟩ := created_bound hcreated
    unfold ClientState.start
    split
    · trivial
    · trivial
    · rename_i packet hbuilt
      exact ⟨⟨fd, port, hcreated⟩, hbuilt⟩

theorem unsent_step (hport : args.peer.port = 69) (h : s.Unsent args)
    (hquiet : ∀ e, m = .call e → e.usesSocket = false)
    (hstep : program host mem s m = some s') : s'.Unsent args := by
  unfold program at hstep
  split at hstep
  case h_1 => cases h
  case h_2 => cases h
  case h_3 other socket =>
    obtain rfl : other = args := h
    obtain rfl := Option.some.inj hstep
    exact unsent_onInitialized hport socket
  case h_4 => cases h
  case h_5 fd closed =>
    obtain ⟨-, hnext⟩ := Option.ite_none_right_eq_some.mp hstep
    obtain rfl := Option.some.inj hnext
    trivial
  case h_6 state e =>
    obtain ⟨state', hcall, -⟩ := Option.map_eq_some_iff.mp hstep
    cases state with
    | requesting op request =>
        -- its only call is the `sendto`
        cases client_called hcall with
        | requesting op packet ok => cases hquiet _ rfl
    | _ => cases h
  case h_7 => cases h
  case h_8 => cases hstep

theorem unsent_of_run (hport : args.peer.port = 69)
    (hrun : Run (program host mem) (.initializing args) moves s)
    (hquiet : ∀ e, .call e ∈ moves → e.usesSocket = false) : s.Unsent args := by
  refine hrun.traced (I := fun moves s =>
    (∀ e, .call e ∈ moves → e.usesSocket = false) → s.Unsent args) ?_ (fun _ => rfl) hquiet
  intro moves t m u h hstep hquiet
  refine unsent_step hport (h fun e he => hquiet e (by simp [he])) ?_ hstep
  rintro e rfl
  exact hquiet e (by simp)

/-- The first packet of a client is its request, to the address it was given. -/
theorem request_of_run (hport : args.peer.port = 69)
    (hrun : Run (program host mem) (.initializing args)
      (moves ++ [.call (.sendto peer packet ok)]) s)
    (hquiet : ∀ e, .call e ∈ moves → e.usesSocket = false) :
    ∃ fd port op, tftpInitOperationData (.bound fd port) args = some (.created op) ∧
      sendRequestPacket op = some (.built packet) ∧ peer = args.peer := by
  obtain ⟨t, hpre, hstep⟩ := hrun.of_snoc
  have hunsent := unsent_of_run hport hpre hquiet
  unfold program at hstep
  split at hstep
  case h_1 => cases hunsent
  case h_2 => cases hunsent
  case h_3 heq => cases heq
  case h_4 => cases hunsent
  case h_5 heq => cases heq
  case h_6 state e heq =>
    obtain rfl := ProgramMove.call.inj heq
    obtain ⟨state', hcall, -⟩ := Option.map_eq_some_iff.mp hstep
    cases state with
    | requesting op request =>
        obtain ⟨⟨fd, port, hcreated⟩, hbuilt⟩ := hunsent
        generalize hsent : Event.sendto peer packet ok = e at hcall
        cases client_called hcall with
        | requesting op packet ok =>
            obtain ⟨rfl, rfl, -⟩ := Event.sendto.inj hsent
            exact ⟨fd, port, op, hcreated, hbuilt, created_peer hcreated⟩
    | _ => cases hunsent
  case h_7 => cases hunsent
  case h_8 => cases hstep

end Client

/-! ## The server -/

section Server

variable {host : Host} {mem : ListenerMemory} {s : ListenerState} {source : SockAddr}

variable (host mem source) in
/-- The listener takes the request of an operation and starts the mirrored one for its
sender. -/
theorem run_request_of_created (hzero : s.requestBuffer = Buffer.zero requestBufferSize)
    (hpoint : s.point = .awaiting) {clientFd : Int} {clientPort : UInt16} {args : InitArguments}
    {op : OperationData} {path packet : List UInt8}
    (hopcode : (requestOpcode args.operation).isSome = true)
    (hpath : cstr args.filename = some path)
    (hname : (afterLast 47 path).length ≤ tftpFilenameMax)
    (hcreated : tftpInitOperationData (.bound clientFd clientPort) args = some (.created op))
    (hbuilt : sendRequestPacket op = some (.built packet)) (slot : Nat) (fd : Int)
    (port : UInt16) :
    ∃ t op', Run (serverListenerLoop host mem) s
        [.recvfrom requestBufferSize (.datagram source packet), .poll false,
          .acquire (some slot), .dataSocket (.bound fd port)] t ∧
      t.point = .spawning slot op' ∧ op'.operationId = mirrored args.operation ∧
      op'.path = serverStoragePath ++ afterLast 47 path ∧ op'.peerAddress = source ∧
      (args.operation ≠ .requestDelete →
        op'.transferMode = .octet ∧ op'.blockSize = op.blockSize) := by
  obtain ⟨hid, hopPath, hpathLen, hmode, hrange⟩ := created_fields hcreated hpath
  have hlen := created_length_lt hcreated
  obtain ⟨opcode, hopcode⟩ := Option.isSome_iff_exists.mp hopcode
  rw [← hid] at hopcode hrange ⊢
  have hnonzero := (cstr_eq_some hpath).1
  rw [← hopPath] at hnonzero hname hpathLen ⊢
  have hnameNonzero : ∀ c ∈ afterLast 47 op.path, c ≠ 0 :=
    fun c hc => hnonzero c (mem_of_mem_afterLast hc)
  rw [sendRequestPacket_eq hopcode hmode hnonzero hlen hpathLen hname] at hbuilt
  obtain rfl := RequestPacket.built.inj (Option.some.inj hbuilt)
  obtain ⟨serverArgs, hrun, hmatch⟩ := run_parse host mem source
    (requestBytes op opcode (afterLast 47 op.path)) hpoint hzero (requestBytes_length_le hname)
    (by simp [requestOperation_requestOpcode hopcode])
    (by rw [requestField_zero hnameNonzero]; exact hname) slot
  obtain ⟨op', hinit, hid', hpath', htransfer⟩ :=
    initOperation_of_request hopcode hnameNonzero hname hrange hmatch fd port
  have hlast : serverListenerLoop host mem
      (s.requested source (requestBytes op opcode (afterLast 47 op.path))
        (.initializing slot serverArgs)) (.dataSocket (.bound fd port)) =
      some (s.requested source (requestBytes op opcode (afterLast 47 op.path))
        (.spawning slot op')) := by
    show some ((s.requested source _ (.initializing slot serverArgs)).onInitialized slot
      serverArgs (.bound fd port)) = _
    simp only [ListenerState.onInitialized, hinit]
    rfl
  refine ⟨_, op', hrun.append (Run.single hlast), rfl, hid', hpath', ?_, htransfer⟩
  rw [created_peer hinit]
  exact hmatch.peer

end Server

section RoundTrip

variable {host serverHost : Host} {mem serverMem : ListenerMemory} {line : CommandLine}
  {stack : UInt32} {name address path : List UInt8} {operation : OperationId}
  {pre : List ProgramMove} {peer : SockAddr} {packet : List UInt8} {ok : Bool}
  {s : ProgramState} {history : List Event} {listener : ListenerState}

theorem requestOpcode_of_mode (hmode : (name, operation) ∈ clientModes) :
    (requestOpcode operation).isSome = true ∧
      (operation ≠ .requestDelete → operation.isDelete = false) := by
  simp only [clientModes, List.mem_cons, Prod.mk.injEq, List.not_mem_nil, or_false] at hmode
  rcases hmode with ⟨-, rfl⟩ | ⟨-, rfl⟩ | ⟨-, rfl⟩ <;> simp [requestOpcode, OperationId.isDelete]

/-- The first packet a client sends goes to port 69 of the address on its command line, and a
server, whatever it has handled before, makes of it the operation that the command line asks
for: on the last part of the path, for the sender of the packet, and for a transfer in octet mode
with the block size asked for, or 512 bytes. -/
theorem command_round_trip (hmode : (name, operation) ∈ clientModes)
    (hname : line.name = some name) (hargc : 4 ≤ line.argv.length)
    (haddress : line.argv[2]?.bind cstr = some address)
    (hpath : line.argv[3]?.bind cstr = some path)
    (hshort : (afterLast 47 path).length ≤ tftpFilenameMax)
    (hrun : Run (program host mem) (.start stack line.argv)
      (pre ++ [.call (.sendto peer packet ok)]) s)
    (hfirst : ∀ e, .call e ∈ pre → e.usesSocket = false)
    (hserver : Run (serverListenerLoop serverHost serverMem) .start history listener)
    (hpoint : listener.point = .awaiting) (source : SockAddr) (slot : Nat) (fd : Int)
    (port : UInt16) :
    peer = { address := (inetPton address).getD stack, port := 69 } ∧
      ∃ t op, Run (serverListenerLoop serverHost serverMem) listener
          [.recvfrom requestBufferSize (.datagram source packet), .poll false,
            .acquire (some slot), .dataSocket (.bound fd port)] t ∧
        t.point = .spawning slot op ∧ op.operationId = mirrored operation ∧
        op.path = serverStoragePath ++ afterLast 47 path ∧ op.peerAddress = source ∧
        (operation ≠ .requestDelete → op.transferMode = .octet ∧
          ∃ size, requestedBlockSize line.argv[5]? = some size ∧
            op.blockSize = if size = 0 then UInt16.ofNat tftpBlksizeDefault else size) := by
  obtain ⟨address', p, haddress', hp, hstart⟩ := start_client stack hmode hname hargc
  obtain rfl := Option.some.inj (haddress'.symm.trans haddress)
  obtain ⟨hopcode, hnotDelete⟩ := requestOpcode_of_mode hmode
  rw [hp, Option.bind_some] at hpath
  rw [hstart] at hrun
  obtain ⟨clientFd, clientPort, clientOp, hcreated, hbuilt, hpeer⟩ := request_of_run rfl hrun hfirst
  obtain ⟨t, op, hparsed, ht, hoperation, hop, hsource, htransfer⟩ :=
    run_request_of_created serverHost serverMem source
      (ListenerState.buffer_zero_of_run hserver hpoint) hpoint hopcode hpath hshort hcreated
      hbuilt slot fd port
  refine ⟨hpeer, t, op, hparsed, ht, hoperation, hop, hsource, ?_⟩
  intro hne
  obtain ⟨hoctet, hsame⟩ := htransfer hne
  obtain ⟨size, hsize, hblock⟩ := created_blockSize hcreated (hnotDelete hne)
  exact ⟨hoctet, size, hsize, by rw [hsame, hblock]⟩

end RoundTrip

section FixedRuns

/-- The request of `writeLine`, up to its `sendto`. -/
def writeLineRequest : List UInt8 :=
  [0, 2, 97, 0, 111, 99, 116, 101, 116, 0, 98, 108, 107, 115, 105, 122, 101, 0, 48, 48, 48, 48, 56,
    0, 0]

set_option maxRecDepth 8000 in
/-- A write of `storage/a` to this host in blocks of eight bytes. -/
theorem command_round_trip_write :
    ∃ s t op, Run (program littleHost .strict) (.start 0 writeLine.argv)
        ([.call (.dataSocket (.bound 4 40001))] ++
          [.call (.sendto (localhost 69) writeLineRequest true)]) s ∧
      Run (serverListenerLoop littleHost .strict) { ListenerState.start with point := .awaiting }
        [.recvfrom requestBufferSize (.datagram (localhost 40001) writeLineRequest), .poll false,
          .acquire (some 0), .dataSocket (.bound 5 50001)] t ∧
      t.point = .spawning 0 op ∧ op.operationId = .receive ∧ op.path = ascii "storage/a" ∧
      op.peerAddress = localhost 40001 ∧ op.blockSize = 8 := by
  obtain ⟨s, hrun, -⟩ : ∃ s, Run (program littleHost .strict) (.start 0 writeLine.argv)
      ([.call (.dataSocket (.bound 4 40001))] ++
        [.call (.sendto (localhost 69) writeLineRequest true)]) s ∧ True :=
    exists_run_of_exec (by decide)
  have hserver : Run (serverListenerLoop littleHost .strict) .start [.poll false]
      { ListenerState.start with point := .awaiting } := Run.single rfl
  obtain ⟨-, t, op, hparsed, ht, hoperation, hop, hsource, htransfer⟩ :=
    command_round_trip (show (ascii "write", OperationId.send) ∈ clientModes by decide)
      (show writeLine.name = some (ascii "write") by decide) (by decide)
      (show writeLine.argv[2]?.bind cstr = some (ascii "127.0.0.1") by decide)
      (show writeLine.argv[3]?.bind cstr = some (ascii "storage/a") by decide) (by decide) hrun
      (by simp [Event.usesSocket]) hserver rfl (localhost 40001) 0 5 50001
  obtain ⟨-, size, hsize, hblock⟩ := htransfer (by decide)
  obtain rfl : size = 8 := Option.some.inj (hsize.symm.trans (by decide))
  exact ⟨s, t, op, hrun, hparsed, ht, hoperation, hop, hsource, hblock⟩

end FixedRuns

end Stftpu
