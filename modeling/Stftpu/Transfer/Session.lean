import Stftpu.Client.Operation
import Stftpu.Server.Service
import Stftpu.Transfer.Deletion
import Stftpu.Transfer.Sides

/-!
# A client and the server, with the files of both

The client program on one machine and the server with all its threads on another, each with
files of its own, over a channel that may lose, duplicate, delay and reorder the packets of
both.  A packet the client has sent may be received at any of the server's sockets, and one
the server has sent may reach the client from any address, at any time and any number of
times.

* `Session`, `lossySession` — both programs, and one step of either.
* `session_client`, `session_server` — all that a step does.
* `serverRun_of_session` — the server's part of a run is a run of the server.
* `transferRequest`, `transferCase` — the request of a client that `tftp_init_operation_data`
  let through, and the transfer it asks for.
-/

namespace Stftpu

open Library

/-- What both programs are started with. -/
structure SessionSetup (ν : Type) where
  clientHost : Host
  serverHost : Host
  mem : ListenerMemory
  /-- The file a path leads to on the client's machine. -/
  resolveLocal : List UInt8 → ν
  /-- The file a path leads to on the server's. -/
  resolve : List UInt8 → ν

/-- The client and the server, their files, and the packets sent. -/
structure Session (ν : Type) where
  client : ClientState
  files : Storage ν
  /-- The `FILE *` of the client. -/
  stream : Option (OpenFile ν)
  server : ServerProcess
  storage : Storage ν
  /-- The `FILE *` of each task. -/
  streams : Nat → Option (OpenFile ν)
  toServer : List (List UInt8)
  toClient : List (List UInt8)

/-- The client calls `client_start_operation`. -/
def Session.start {ν : Type} (op : OperationData) (files : Storage ν) (server : ServerProcess)
    (storage : Storage ν) : Session ν :=
  { client := ClientState.start op
    files := files
    stream := none
    server := server
    storage := storage
    streams := fun _ => none
    toServer := []
    toClient := [] }

inductive SessionMove
  | client (e : Event)
  | server (m : ProcessMove)
  deriving DecidableEq, Repr

namespace SessionMove

/-- A step of the server. -/
def ofServer : SessionMove → Option ProcessMove
  | .client _ => none
  | .server m => some m

/-- Every `fwrite` writes all it is given and no `fclose` loses any of it, and no `fread` stops
inside a block. -/
def WholeFiles : SessionMove → Prop
  | .client e => WritesAll e ∧ e.ReadsWhole
  | .server (.task _ e) => WritesAll e ∧ e.ReadsWhole
  | .server _ => True

instance : DecidablePred WholeFiles := by
  intro m
  unfold WholeFiles
  split <;> infer_instance

end SessionMove

/-- A datagram received in a step of the server is one in flight. -/
def ProcessMove.CarriedFrom (flight : List (List UInt8)) (m : ProcessMove) : Prop :=
  m.call.all (fun e => decide (Stftpu.Carried flight e)) = true

/-- The packets a step of the server puts into flight. -/
def ProcessMove.launched (m : ProcessMove) : List (List UInt8) :=
  m.call.elim [] Stftpu.launched

instance (flight : List (List UInt8)) : DecidablePred (ProcessMove.CarriedFrom flight) :=
  fun _ => inferInstanceAs (Decidable (_ = true))

section Steps

variable {ν : Type} [DecidableEq ν] (setup : SessionSetup ν)

/-- A system call of the client, answered by its files. -/
def Session.clientStep (s : Session ν) (e : Event) : Option (Session ν) :=
  match clientStartOperation setup.clientHost s.client e,
      accessFiles setup.resolveLocal s.files s.stream e with
  | some client, some (files, stream) =>
      some { s with client := client, files := files, stream := stream }
  | _, _ => none

/-- A step of the server; the calls of a task are answered by the files. -/
def Session.serverStep (s : Session ν) (m : ProcessMove) : Option (Session ν) :=
  match serverProcess setup.serverHost setup.mem s.server m with
  | none => none
  | some server =>
      match m with
      | .task k e =>
          (accessFiles setup.resolve s.storage (s.streams k) e).map fun (storage, file) =>
            { s with
              server := server
              storage := storage
              streams := Function.update s.streams k file }
      | _ => some { s with server := server }

/-- One move over a lossy channel. -/
def lossySession (s : Session ν) : SessionMove → Option (Session ν)
  | .client e =>
      if Carried s.toClient e then
        (s.clientStep setup e).map fun t => { t with toServer := s.toServer ++ launched e }
      else
        none
  | .server m =>
      if m.CarriedFrom s.toServer then
        (s.serverStep setup m).map fun t => { t with toClient := s.toClient ++ m.launched }
      else
        none

end Steps

/-! ## All that a step does -/

section Inversion

variable {ν : Type} [DecidableEq ν] {setup : SessionSetup ν} {s s' : Session ν} {e : Event}
  {m : ProcessMove}

theorem session_client (h : lossySession setup s (.client e) = some s') :
    Carried s.toClient e ∧ clientStartOperation setup.clientHost s.client e = some s'.client ∧
      accessFiles setup.resolveLocal s.files s.stream e = some (s'.files, s'.stream) ∧
      s'.server = s.server ∧ s'.storage = s.storage ∧ s'.streams = s.streams ∧
      s'.toClient = s.toClient ∧ s'.toServer = s.toServer ++ launched e := by
  simp only [lossySession] at h
  split at h
  · rename_i hcarried
    obtain ⟨t, ht, rfl⟩ := Option.map_eq_some_iff.mp h
    unfold Session.clientStep at ht
    split at ht
    · rename_i client files stream hclient haccess
      obtain rfl := Option.some.inj ht
      exact ⟨hcarried, hclient, haccess, rfl, rfl, rfl, rfl, rfl⟩
    · cases ht
  · cases h

theorem session_server (h : lossySession setup s (.server m) = some s') :
    m.CarriedFrom s.toServer ∧
      serverProcess setup.serverHost setup.mem s.server m = some s'.server ∧
      s'.client = s.client ∧ s'.files = s.files ∧ s'.stream = s.stream ∧
      s'.toServer = s.toServer ∧ s'.toClient = s.toClient ++ m.launched ∧
      ((∀ k e, m ≠ .task k e) ∧ s'.storage = s.storage ∧ s'.streams = s.streams ∨
        ∃ k e file, m = .task k e ∧
          accessFiles setup.resolve s.storage (s.streams k) e = some (s'.storage, file) ∧
          s'.streams = Function.update s.streams k file) := by
  simp only [lossySession] at h
  split at h
  · rename_i hcarried
    obtain ⟨t, ht, rfl⟩ := Option.map_eq_some_iff.mp h
    unfold Session.serverStep at ht
    split at ht
    · cases ht
    · rename_i server hserver
      split at ht
      · rename_i k e
        obtain ⟨⟨storage, file⟩, haccess, rfl⟩ := Option.map_eq_some_iff.mp ht
        exact ⟨hcarried, hserver, rfl, rfl, rfl, rfl, rfl,
          Or.inr ⟨k, e, file, rfl, haccess, rfl⟩⟩
      · rename_i hnot
        obtain rfl := Option.some.inj ht
        exact ⟨hcarried, hserver, rfl, rfl, rfl, rfl, rfl, Or.inl ⟨hnot, rfl, rfl⟩⟩
  · cases h

/-- What a listener or a task receives is in flight. -/
theorem carried_of_call {flight : List (List UInt8)} (h : m.CarriedFrom flight)
    (hcall : m.call = some e) : Carried flight e := by
  simpa [ProcessMove.CarriedFrom, hcall] using h

theorem mem_launched_move {packet : List UInt8} (hmem : packet ∈ m.launched) :
    ∃ e, m.call = some e ∧ packet ∈ launched e := by
  unfold ProcessMove.launched at hmem
  cases hcall : m.call with
  | none => simp [hcall] at hmem
  | some e =>
      rw [hcall] at hmem
      exact ⟨e, rfl, hmem⟩

/-- The listener sends ERROR packets and nothing else. -/
theorem launched_listener {p p' : ServerProcess} {host : Host} {mem : ListenerMemory}
    (hstep : serverProcess host mem p (.listener e) = some p') {packet : List UInt8}
    (hmem : packet ∈ launched e) : ∃ reply, packet = errorPacket reply := by
  obtain ⟨peer, rfl⟩ := mem_launched hmem
  obtain ⟨-, state, hloop, -⟩ := listener_eq hstep
  cases loop_called hloop with
  | refusing reply => exact ⟨reply, rfl⟩
  | rejecting slot fd client reply => exact ⟨reply, rfl⟩

/-- The server's part of a run is a run of the server. -/
theorem serverRun_of_session {tr : List SessionMove} (h : Run (lossySession setup) s tr s') :
    Run (serverProcess setup.serverHost setup.mem) s.server (tr.filterMap SessionMove.ofServer)
      s'.server := by
  induction h with
  | nil => exact Run.nil
  | @snoc tr t u move _ hstep ih =>
      rw [List.filterMap_append]
      cases move with
      | client e =>
          obtain ⟨-, -, -, hserver, -⟩ := session_client hstep
          have hnone : [SessionMove.client e].filterMap SessionMove.ofServer = [] := rfl
          rw [hserver, hnone, List.append_nil]
          exact ih
      | server m =>
          obtain ⟨-, hserver, -⟩ := session_server hstep
          exact ih.snoc hserver

end Inversion

/-! ## The request -/

section Request

variable {args : InitArguments} {path : List UInt8} {fd : Int} {port : UInt16}
  {op : OperationData} {b : BlockSize}

/-- The request of a client whose arguments `tftp_init_operation_data` has accepted. -/
theorem transferRequest (hoperation : args.operation = .receive ∨ args.operation = .send)
    (hpath : cstr args.filename = some path) (hlen : path.length < 65535)
    (hname : (afterLast 47 path).length ≤ tftpFilenameMax)
    (hclient : tftpInitOperationData (.bound fd port) args = some (.created op))
    (hsize : op.blockSize.toNat = b.val) :
    ∃ r : TransferRequest, ClientState.start op = .requesting op r.packet ∧
      op.operationId = args.operation ∧ op.path = path ∧ r.blockSize = b ∧
      r.operation = mirrored args.operation ∧
      r.path = serverStoragePath ++ afterLast 47 path := by
  obtain ⟨hid, hopPath, hpathLen, hmode, hrange⟩ := created_fields hclient hpath
  obtain ⟨opcode, hopcode⟩ : ∃ opcode, requestOpcode op.operationId = some opcode := by
    rw [hid]
    rcases hoperation with hargs | hargs
    · rw [hargs]
      exact ⟨_, rfl⟩
    · rw [hargs]
      exact ⟨_, rfl⟩
  have htransfer : op.operationId ≠ .requestDelete := by
    rw [hid]
    rcases hoperation with hargs | hargs
    · simp [hargs]
    · simp [hargs]
  have hnonzero := (cstr_eq_some hpath).1
  have hnameNonzero : ∀ c ∈ afterLast 47 path, c ≠ 0 :=
    fun c hc => hnonzero c (mem_of_mem_afterLast hc)
  have hpacket := sendRequestPacket_eq hopcode hmode (by rw [hopPath]; exact hnonzero)
    (by rw [hopPath]; exact hlen) (by rw [hopPath]; exact hpathLen)
    (by rw [hopPath]; exact hname)
  rw [hopPath] at hpacket
  have hrequest : requestOperation (opcodeOf (requestBytes op opcode (afterLast 47 path))) =
      some (mirrored args.operation) := by
    rw [opcodeOf_requestBytes, requestOperation_requestOpcode hopcode, hid]
  refine ⟨{
    packet := requestBytes op opcode (afterLast 47 path)
    operation := mirrored args.operation
    path := serverStoragePath ++ afterLast 47 path
    blockSize := b
    opcode := hrequest
    fits := requestBytes_length_le hname
    name_le := by rw [requestField_zero hnameNonzero]; exact hname
    accepted := ?_ }, ?_, hid, hopPath, rfl, rfl, rfl⟩
  · intro serverArgs source hmatch serverFd serverPort
    -- the round trip of the request
    obtain ⟨op', hinit, hid', hpath', hsame⟩ :=
      initOperation_of_request hopcode hnameNonzero hname (by rw [hid]; exact hrange) hmatch
        serverFd serverPort
    refine ⟨op', hinit, by rw [hid', hid], hpath', ?_⟩
    rw [(hsame htransfer).2]
    exact hsize
  · simp only [ClientState.start, hpacket, requestBytes]

end Request

/-! ## What arrives -/

section Packets

variable {r : TransferRequest} {m : ProcessMove}

theorem heard_errorPacket (reply : ErrorReply) : r.Heard (errorPacket reply) := by
  right
  rw [opcodeOf_errorPacket]
  decide

theorem heard_ackPacket (n : UInt16) : r.Heard (ackPacket n) := by
  right
  rw [opcodeOf_ackPacket]
  decide

theorem reaches_of_heard {flight : List (List UInt8)}
    (hflight : ∀ packet ∈ flight, r.Heard packet) (hcarried : m.CarriedFrom flight) :
    r.Reaches m := by
  unfold TransferRequest.Reaches
  split
  · exact hflight _ (carried_of_call hcarried rfl)
  · trivial

end Packets

/-! ## A transfer of one file -/

/-- A transfer of one file between the two machines. -/
structure TransferCase (ν : Type) where
  setup : SessionSetup ν
  request : TransferRequest
  /-- The path of the client's file. -/
  path : List UInt8
  /-- What the file to be sent holds. -/
  content : List UInt8

namespace TransferCase

variable {ν : Type} (c : TransferCase ν)

/-- The client's file. -/
def localName : ν := c.setup.resolveLocal c.path

/-- The file on the server. -/
def name : ν := c.setup.resolve c.request.path

def blockSize : BlockSize := c.request.blockSize

/-- The operation of the client. -/
structure Asks (operation : OperationId) (op : OperationData) : Prop where
  operation : op.operationId = operation
  path : op.path = c.path
  size : op.blockSize.toNat = c.blockSize.val

/-- A packet of the sending side. -/
def OfFile (packet : List UInt8) : Prop :=
  ∃ k, SenderPacket c.blockSize c.content k packet

end TransferCase

/-- The transfer a client asks for, whose arguments `tftp_init_operation_data` has accepted. -/
theorem transferCase {ν : Type} (setup : SessionSetup ν) (content : List UInt8)
    {args : InitArguments} {path : List UInt8} {fd : Int} {port : UInt16} {op : OperationData}
    (hoperation : args.operation = .receive ∨ args.operation = .send)
    (hpath : cstr args.filename = some path) (hlen : path.length < 65535)
    (hname : (afterLast 47 path).length ≤ tftpFilenameMax)
    (hclient : tftpInitOperationData (.bound fd port) args = some (.created op)) :
    ∃ c : TransferCase ν, c.setup = setup ∧ c.path = path ∧ c.content = content ∧
      c.name = setup.resolve (serverStoragePath ++ afterLast 47 path) ∧
      c.request.operation = mirrored args.operation ∧
      ClientState.start op = .requesting op c.request.packet ∧ c.Asks args.operation op := by
  obtain ⟨-, -, -, -, hrange⟩ := created_fields hclient hpath
  obtain ⟨hmin, hmax⟩ := hrange (by
    rcases hoperation with hargs | hargs
    · rw [hargs]
      rfl
    · rw [hargs]
      rfl)
  obtain ⟨r, hstart, hid, hopPath, hb, hmirrored, hrPath⟩ :=
    transferRequest (b := ⟨op.blockSize.toNat, hmin, hmax⟩) hoperation hpath hlen hname hclient rfl
  refine ⟨{ setup := setup, request := r, path := path, content := content }, rfl, rfl, rfl, ?_,
    hmirrored, hstart, hid, hopPath, ?_⟩
  · show setup.resolve r.path = _
    rw [hrPath]
  · show _ = r.blockSize.val
    rw [hb]

/-! ## A file that may be missing -/

section Missing

variable {ν : Type} {store : Storage ν} {name : ν} {content : List UInt8}

theorem eq_of_lookup (h : (store.lookup name).getD [] = content) {other : List UInt8}
    (hother : store.lookup name = some other) : other = content := by
  rw [hother] at h
  exact h

/-- A file of at least one byte is there. -/
theorem lookup_of_ne_nil (h : (store.lookup name).getD [] = content) (hne : content ≠ []) :
    store.lookup name = some content := by
  cases hlookup : store.lookup name with
  | none =>
      rw [hlookup] at h
      exact absurd h.symm hne
  | some other => rw [eq_of_lookup h hlookup]

/-- A missing file has the one block of an empty file. -/
theorem chunkCount_of_lookup {b m : Nat} (h : (store.lookup name).getD [] = content) (hm : 1 ≤ m)
    (hcount : ∀ other, store.lookup name = some other → chunkCount b other ≤ m) :
    chunkCount b content ≤ m := by
  by_cases hempty : content = []
  · rw [hempty]
    simpa [chunkCount] using hm
  · exact hcount content (lookup_of_ne_nil h hempty)

end Missing

/-! ## The server before the request -/

/-- An idle server is ready for the request, whatever it has done before. -/
theorem serverFor_of_idle {host : Host} {mem : ListenerMemory} {p : ServerProcess}
    (r : TransferRequest) {P : Nat → TaskState → Prop} (hended : ∀ k result, P k (.ended result))
    {history : List ProcessMove} (hrun : Run (serverProcess host mem) .start history p)
    (hidle : DeleteRequest.Idle p) : r.ServerFor P p := by
  have hok : ProcessOk p :=
    hrun.invariant (fun _ _ _ hI hstep => hI.step hstep) ProcessOk.start
  have hcleared : p.listener.state.Cleared :=
    hrun.invariant (I := fun p => p.listener.state.Cleared)
      (fun _ _ _ hI hstep => cleared_process hI hstep) rfl
  have hstate : ∀ (k : Nat) task, p.tasks[k]? = some task →
      ∃ result, task.state = some (.ended result) := fun k task htask =>
    DeleteRequest.ended_of_not_live (hidle.tasks task (List.mem_of_getElem? htask))
  refine ⟨hok, ?_, ?_, ?_⟩
  · rcases hidle.listener with hpoint | hpoint
    · simp only [ListenerState.Cleared, hpoint] at hcleared
      simp only [TransferRequest.ListenerFor, hpoint, hcleared]
    · simp only [ListenerState.Cleared, hpoint] at hcleared
      simp only [TransferRequest.ListenerFor, hpoint, hcleared]
  · intro k task htask hnone
    obtain ⟨result, hresult⟩ := hstate k task htask
    rw [hnone] at hresult
    cases hresult
  · intro k task t htask ht
    obtain ⟨result, hresult⟩ := hstate k task htask
    obtain rfl := Option.some.inj (ht.symm.trans hresult)
    exact hended k result

end Stftpu
