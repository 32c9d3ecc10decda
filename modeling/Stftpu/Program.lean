import Stftpu.Client.Conduct
import Stftpu.Server.Shutdown

/-!
# `main`

What becomes of a command line: usage errors, the server, or an operation of the client with
the server at the address given.  The random seed, the signal handler and what is printed are
left out.

* `getSelectionFromArgs`, `ProgramState.start` — from the command line to the first call.
* `program` — one call of the program, of either kind.
* `getSelectionFromArgs_eq`, `start_client` — the command lines by their first argument.
* `exit_status` — what the exit status says of the run.
-/

namespace Stftpu

open Library

/-! ## The command line -/

/-- `OperationMode_t`, without its texts. -/
structure OperationMode where
  minArgumentCount : Nat
  inputString : List UInt8
  deriving DecidableEq, Repr

/-- `tftp_common.operation_modes`. -/
def operationModes : List OperationMode :=
  [{ minArgumentCount := 2, inputString := ascii "serve" },
    { minArgumentCount := 4, inputString := ascii "write" },
    { minArgumentCount := 4, inputString := ascii "read" },
    { minArgumentCount := 4, inputString := ascii "delete" }]

def tftpOperationModeStringMaxlength : Nat := 8

def exitSuccess : Nat := 0

def exitFailure : Nat := 1

/-- `EINVAL`. -/
def exitInvalid : Nat := 22

/-- What `get_selection_from_args` came to. -/
inductive Selection
  /-- `-1`. -/
  | invalid
  | mode (i : Nat)
  /-- `exit (EINVAL)`. -/
  | exits
  deriving DecidableEq, Repr

/-- The loop over `operation_modes`. -/
def selectMode (argc : Nat) (p : CharPtr) : Nat → List OperationMode → Option Selection
  | _, [] => some .invalid
  | i, mode :: rest => do
      if ← strncmpEq tftpOperationModeStringMaxlength p (mode.inputString ++ [0]) then
        some (if argc ≥ mode.minArgumentCount then .mode i else .exits)
      else
        selectMode argc p (i + 1) rest

def getSelectionFromArgs (argv : List CharPtr) : Option Selection :=
  match argv with
  | _ :: p :: _ => selectMode argv.length p 0 operationModes
  | _ => some .invalid

/-- One field of a dotted address: at most three digits, no zero in front of another, up to
255. -/
def addressField (digits : List UInt8) : Option Nat :=
  if digits ≠ [] ∧ digits.all isDigit ∧ digits.length ≤ 3 ∧
      (digits.head? = some 48 → digits.length = 1) ∧ digitsValue digits ≤ 255 then
    some (digitsValue digits)
  else
    none

/-- `inet_pton (AF_INET, ..)`: the address, or none where it returns 0. -/
def inetPton (s : List UInt8) : Option UInt32 :=
  match (s.splitOn 46).mapM addressField with
  | some [a, b, c, d] => some (UInt32.ofNat (((a * 256 + b) * 256 + c) * 256 + d))
  | _ => none

/-- `parse_address`: what `inet_pton` returns is 1 or 0, and is tested for `>= 0`. -/
def parseAddress (address : Option UInt32) : Bool :=
  (if address.isSome then 1 else 0 : Int) ≥ 0

/-! ## Its states -/

/-- The calls of `server_init_listener_data`. -/
inductive ListenerSetup
  /-- `socket`. -/
  | creating
  /-- `setsockopt (SO_REUSEADDR)`. -/
  | reusingAddress
  /-- `setsockopt (SO_REUSEPORT)`. -/
  | reusingPort
  | binding
  /-- `malloc` of the request buffer. -/
  | allocating
  deriving DecidableEq, Repr

/-- The program between two system calls. -/
inductive ProgramState
  /-- `server_init_data`. -/
  | initializingServer (point : ListenerSetup)
  /-- `server_start` behind it. -/
  | serving (s : ServerMain)
  /-- `tftp_init_bound_data_socket` of an operation. -/
  | initializing (args : InitArguments)
  /-- `sendto` of the ERROR packet of an operation that is refused. -/
  | rejecting (fd : Int) (peer : SockAddr) (reply : ErrorReply)
  /-- `close` of its socket. -/
  | discarding (fd : Int)
  /-- `client_start_operation`. -/
  | operating (state : ClientState)
  /-- `close` in `tftp_free_operation_data`. -/
  | closing (op : OperationData) (outcome : Bool)
  | exited (status : Nat)
  /-- A memory error: bytes outside a block, or a null `TransferData_t`. -/
  | fault

namespace ProgramState

/-- The `switch` on the selection. -/
def clientOperation : Nat → Option OperationId
  | 1 => some .send
  | 2 => some .receive
  | 3 => some .requestDelete
  | _ => none

/-- The arguments of `tftp_init_operation_data`.  Where the address could not be parsed,
`peer_address_bin` is what was on the stack. -/
def clientArguments (stack : UInt32) (operation : OperationId) (address : Option UInt32)
    (path : CharPtr) (argv : List CharPtr) : InitArguments :=
  { operation := operation
    peer := { address := address.getD stack, port := 69 }
    filename := path
    mode := argv[4]?
    blocksize := argv[5]? }

/-- The branch of `main` for the client. -/
def startClient (stack : UInt32) (selection : Nat) (argv : List CharPtr) : ProgramState :=
  match argv[2]?, argv[3]? with
  | some host, some path =>
      match cstr host with
      | none => .fault
      | some name =>
          let address := inetPton name
          if parseAddress address then
            match clientOperation selection with
            | some operation => .initializing (clientArguments stack operation address path argv)
            | none => .exited exitFailure
          else
            .exited exitFailure
  | _, _ => .exited exitFailure

/-- The call of `main`, up to its first system call. -/
def start (stack : UInt32) (argv : List CharPtr) : ProgramState :=
  match getSelectionFromArgs argv with
  | none => .fault
  | some .exits => .exited exitInvalid
  | some .invalid => .exited exitFailure
  | some (.mode 0) => .initializingServer .creating
  | some (.mode selection) => startClient stack selection argv

/-- What follows a call of `server_init_listener_data` that succeeded. -/
def afterSetup : ListenerSetup → ProgramState
  | .creating => .initializingServer .reusingAddress
  | .reusingAddress => .initializingServer .reusingPort
  | .reusingPort => .initializingServer .binding
  | .binding => .initializingServer .allocating
  | .allocating => .serving ServerMain.start

/-- What follows a step of the server; the listener may have called `exit`. -/
def afterServing (s : ServerMain) : ProgramState :=
  if s.process.listener.state.point = .exited then
    .exited exitFailure
  else if s.point = .ended then
    .exited exitSuccess
  else
    .serving s

/-- `tftp_free_operation_data` of an operation that is refused, and `return`. -/
def discard (fd : Int) : ProgramState :=
  if fd > 0 then .discarding fd else .exited exitFailure

/-- What follows a step of `client_start_operation`. -/
def afterOperation (state : ClientState) : ProgramState :=
  match state with
  | .returned op outcome =>
      if op.dataSocket > 0 then .closing op outcome else .exited exitSuccess
  | .exited => .exited exitFailure
  | .fault => .fault
  | state => .operating state

/-- What `tftp_init_operation_data` leads to. -/
def onInitialized (args : InitArguments) (socket : DataSocket) : ProgramState :=
  match tftpInitOperationData socket args with
  | none => .fault
  | some .exits => .exited exitFailure
  | some (.rejected fd reply) =>
      if forwardsErrors args.peer then .rejecting fd args.peer reply else discard fd
  | some (.created op) => afterOperation (ClientState.start op)

end ProgramState

inductive ProgramMove
  /-- A call of `server_init_listener_data` returned. -/
  | setup (ok : Bool)
  /-- A step of the server. -/
  | server (m : MainMove)
  /-- A call of the client. -/
  | call (e : Event)
  deriving DecidableEq, Repr

/-- One call of the program. -/
def program (host : Host) (mem : ListenerMemory) (s : ProgramState) (m : ProgramMove) :
    Option ProgramState :=
  match s, m with
  | .initializingServer point, .setup ok =>
      some (if ok then ProgramState.afterSetup point else .exited exitSuccess)
  | .serving s, .server m =>
      (serverStart { host with isServer := true } mem s m).map ProgramState.afterServing
  | .initializing args, .call (.dataSocket socket) =>
      some (ProgramState.onInitialized args socket)
  | .rejecting fd peer reply, .call (.sendto other packet _) =>
      if other = peer ∧ packet = errorPacket reply then some (ProgramState.discard fd) else none
  | .discarding fd, .call (.close closed) =>
      if closed = fd then some (.exited exitFailure) else none
  | .operating state, .call e =>
      (clientStartOperation { host with isServer := false } state e).map
        ProgramState.afterOperation
  | .closing op _, .call (.close closed) =>
      if closed = op.dataSocket then some (.exited exitSuccess) else none
  | _, _ => none

/-! ## The selection -/

/-- `argv`, every argument with its terminator. -/
structure CommandLine where
  argv : List CharPtr
  terminated : ∀ p ∈ argv, 0 ∈ p

namespace CommandLine

variable {line : CommandLine}

/-- The operation mode asked for. -/
def name (line : CommandLine) : Option (List UInt8) :=
  line.argv[1]?.bind cstr

theorem name_eq_none (h : line.name = none) : line.argv.length ≤ 1 := by
  by_contra hlong
  have hget : line.argv[1]? = some line.argv[1] := List.getElem?_eq_getElem (by omega)
  have hcstr := cstr_of_mem (line.terminated _ (List.getElem_mem (by omega : 1 < _)))
  rw [name, hget, Option.bind_some, hcstr] at h
  cases h

end CommandLine

/-- A name cut at the eight bytes that are compared is still told from the others. -/
theorem take_maxlength {s name : List UInt8} (h : name.length < tftpOperationModeStringMaxlength) :
    s.take tftpOperationModeStringMaxlength = name.take tftpOperationModeStringMaxlength ↔
      s = name := by
  rw [List.take_of_length_le (le_of_lt h)]
  constructor
  · intro htake
    have hlen := congrArg List.length htake
    rw [List.length_take] at hlen
    rwa [List.take_of_length_le (by omega)] at htake
  · rintro rfl
    exact List.take_of_length_le (le_of_lt h)

/-- The operation modes by their name. -/
def modeSelection (argc : Nat) (name : List UInt8) : Selection :=
  if name = ascii "serve" then .mode 0
  else if name = ascii "write" then if argc ≥ 4 then .mode 1 else .exits
  else if name = ascii "read" then if argc ≥ 4 then .mode 2 else .exits
  else if name = ascii "delete" then if argc ≥ 4 then .mode 3 else .exits
  else .invalid

/-- The name has to be that of a mode, and not only to start like it. -/
theorem selectMode_eq {argc : Nat} (hargc : 2 ≤ argc) {p : CharPtr} {name : List UInt8}
    (h : cstr p = some name) :
    selectMode argc p 0 operationModes = some (modeSelection argc name) := by
  have hcompare : ∀ mode : List UInt8, mode.all (fun c => c != 0) = true →
      mode.length < tftpOperationModeStringMaxlength →
        strncmpEq tftpOperationModeStringMaxlength p (mode ++ [0]) =
          some (decide (name = mode)) := by
    intro mode hmode hlen
    rw [strncmpEq_of_cstr h (cstr_terminated (ne_zero_of_all hmode) [])]
    simp only [take_maxlength hlen]
  simp only [operationModes, selectMode, Option.bind_eq_bind,
    hcompare (ascii "serve") (by decide) (by decide),
    hcompare (ascii "write") (by decide) (by decide),
    hcompare (ascii "read") (by decide) (by decide),
    hcompare (ascii "delete") (by decide) (by decide),
    Option.bind_some, decide_eq_true_eq, modeSelection]
  split_ifs <;> rfl

theorem getSelectionFromArgs_eq {line : CommandLine} {name : List UInt8}
    (h : line.name = some name) :
    getSelectionFromArgs line.argv = some (modeSelection line.argv.length name) := by
  unfold CommandLine.name at h
  cases hargv : line.argv with
  | nil => simp [hargv] at h
  | cons first rest =>
      cases rest with
      | nil => simp [hargv] at h
      | cons p rest =>
          rw [hargv] at h
          exact selectMode_eq (by simp) h

theorem getSelectionFromArgs_none {line : CommandLine} (h : line.name = none) :
    getSelectionFromArgs line.argv = some .invalid := by
  have hlen := CommandLine.name_eq_none h
  cases hargv : line.argv with
  | nil => rfl
  | cons first rest =>
      cases rest with
      | nil => rfl
      | cons p rest =>
          rw [hargv] at hlen
          simp at hlen

/-! ## The first call -/

/-- The modes of the client, with their operations. -/
def clientModes : List (List UInt8 × OperationId) :=
  [(ascii "write", .send), (ascii "read", .receive), (ascii "delete", .requestDelete)]

section Start

variable {line : CommandLine} {stack : UInt32} {name : List UInt8} {operation : OperationId}

/-- The test of `parse_address` is passed whatever `inet_pton` returned. -/
theorem parseAddress_true (address : Option UInt32) : parseAddress address = true := by
  unfold parseAddress
  split <;> decide

theorem start_serve (h : line.name = some (ascii "serve")) :
    ProgramState.start stack line.argv = .initializingServer .creating := by
  rw [ProgramState.start, getSelectionFromArgs_eq h]
  rfl

theorem start_missing (hmode : (name, operation) ∈ clientModes) (h : line.name = some name)
    (hargc : line.argv.length < 4) :
    ProgramState.start stack line.argv = .exited exitInvalid := by
  have hnot : ¬ line.argv.length ≥ 4 := by omega
  rw [ProgramState.start, getSelectionFromArgs_eq h]
  simp only [clientModes, List.mem_cons, Prod.mk.injEq, List.not_mem_nil, or_false] at hmode
  rcases hmode with ⟨rfl, -⟩ | ⟨rfl, -⟩ | ⟨rfl, -⟩
  · simp [modeSelection, hnot, ascii]
  · simp [modeSelection, hnot, ascii]
  · simp [modeSelection, hnot, ascii]

theorem startClient_eq (selection : Nat)
    (hselection : ProgramState.clientOperation selection = some operation)
    (hargc : 4 ≤ line.argv.length) :
    ∃ address path, (line.argv[2]?.bind cstr) = some address ∧ line.argv[3]? = some path ∧
      ProgramState.startClient stack selection line.argv =
        .initializing
          (ProgramState.clientArguments stack operation (inetPton address) path line.argv) := by
  have hhost : line.argv[2]? = some line.argv[2] := List.getElem?_eq_getElem (by omega)
  have hpath : line.argv[3]? = some line.argv[3] := List.getElem?_eq_getElem (by omega)
  obtain ⟨address, haddress⟩ : ∃ address, cstr line.argv[2] = some address :=
    ⟨_, cstr_of_mem (line.terminated _ (List.getElem_mem (by omega)))⟩
  refine ⟨address, line.argv[3], ?_, hpath, ?_⟩
  · rw [hhost, Option.bind_some]
    exact haddress
  · simp only [ProgramState.startClient, hhost, hpath, haddress, parseAddress_true, if_true,
      hselection]

variable (stack) in
theorem start_client (hmode : (name, operation) ∈ clientModes) (h : line.name = some name)
    (hargc : 4 ≤ line.argv.length) :
    ∃ address path, (line.argv[2]?.bind cstr) = some address ∧ line.argv[3]? = some path ∧
      ProgramState.start stack line.argv =
        .initializing
          (ProgramState.clientArguments stack operation (inetPton address) path line.argv) := by
  rw [ProgramState.start, getSelectionFromArgs_eq h]
  simp only [clientModes, List.mem_cons, Prod.mk.injEq, List.not_mem_nil, or_false] at hmode
  rcases hmode with ⟨rfl, rfl⟩ | ⟨rfl, rfl⟩ | ⟨rfl, rfl⟩
  · simpa [modeSelection, hargc, ascii] using startClient_eq 1 rfl hargc
  · simpa [modeSelection, hargc, ascii] using startClient_eq 2 rfl hargc
  · simpa [modeSelection, hargc, ascii] using startClient_eq 3 rfl hargc

theorem start_invalid (h : ∀ mode ∈ operationModes, line.name ≠ some mode.inputString) :
    ProgramState.start stack line.argv = .exited exitFailure := by
  rw [ProgramState.start]
  cases hname : line.name with
  | none => rw [getSelectionFromArgs_none hname]
  | some name =>
      simp only [operationModes, List.mem_cons, List.not_mem_nil, or_false, forall_eq_or_imp,
        forall_eq, hname, ne_eq, Option.some.injEq] at h
      obtain ⟨hserve, hwrite, hread, hdelete⟩ := h
      rw [getSelectionFromArgs_eq hname]
      simp [modeSelection, hserve, hwrite, hread, hdelete]

end Start

/-! ## Runs of the client -/

/-- Nothing was sent or received, and no file used. -/
def Quiet (moves : List ProgramMove) : Prop :=
  ∀ e, .call e ∈ moves → e.usesSocket = false ∧ e.usesFile = false

/-- A packet was handed to `sendto`. -/
def Spoke (moves : List ProgramMove) : Prop :=
  ∃ peer packet ok, .call (.sendto peer packet ok) ∈ moves

section Traces

variable {moves : List ProgramMove} {e : Event}

theorem Quiet.snoc (h : Quiet moves) (hsocket : e.usesSocket = false)
    (hfile : e.usesFile = false) : Quiet (moves ++ [.call e]) := by
  intro e' he'
  rcases List.mem_append.mp he' with hmem | hlast
  · exact h e' hmem
  · obtain rfl := ProgramMove.call.inj (List.mem_singleton.mp hlast)
    exact ⟨hsocket, hfile⟩

theorem Spoke.snoc (h : Spoke moves) (m : ProgramMove) : Spoke (moves ++ [m]) := by
  obtain ⟨peer, packet, ok, hmem⟩ := h
  exact ⟨peer, packet, ok, List.mem_append_left _ hmem⟩

theorem spoke_last (peer : SockAddr) (packet : List UInt8) (ok : Bool) :
    Spoke (moves ++ [.call (.sendto peer packet ok)]) :=
  ⟨peer, packet, ok, by simp⟩

end Traces

/-- How far a client has come, by what it has sent.  The request is not made where it could be
refused, and behind it the program ends with one status. -/
def ProgramState.ClientAt (moves : List ProgramMove) : ProgramState → Prop
  | .initializing args => args.peer.port = 69 ∧ Quiet moves
  | .discarding _ => Quiet moves
  | .operating state => state.Asked = false ∧ Quiet moves ∨ Spoke moves
  | .closing _ _ => Spoke moves
  | .exited status =>
      status = exitSuccess ∧ Spoke moves ∨ status = exitFailure ∧ Quiet moves
  | .fault => True
  | _ => False

/-- The server ends by itself, or where a data socket could not be had. -/
def ProgramState.ServerAt (moves : List ProgramMove) : ProgramState → Prop
  | .initializingServer _ => True
  | .serving s => s.process.listener.state.point ≠ .exited
  | .exited status => status = exitSuccess ∨ status = exitFailure ∧
      ∃ pre, moves = pre ++ [.server (.process (.listener (.dataSocket .exits)))]
  | _ => False

section Steps

variable {host : Host} {mem : ListenerMemory} {s s' : ProgramState} {m : ProgramMove}
  {moves : List ProgramMove} {status : Nat}

/-- The program has ended. -/
theorem run_exited (hrun : Run (program host mem) (.exited status) moves s) :
    moves = [] ∧ s = .exited status := by
  cases moves with
  | nil => exact ⟨rfl, hrun.eq_of_nil⟩
  | cons m moves =>
      obtain ⟨t, hstep, -⟩ := hrun.of_cons
      cases m <;> cases hstep

theorem clientAt_afterOperation {state : ClientState} (hasked : state.Asked = true)
    (hspoke : Spoke moves) : (ProgramState.afterOperation state).ClientAt moves := by
  unfold ProgramState.afterOperation
  split
  · split
    · exact hspoke
    · exact Or.inl ⟨rfl, hspoke⟩
  · cases hasked
  · trivial
  · exact Or.inr hspoke

theorem clientAt_start (op : OperationData) (hquiet : Quiet moves) :
    (ProgramState.afterOperation (ClientState.start op)).ClientAt moves := by
  unfold ClientState.start
  split
  · trivial
  · exact Or.inr ⟨rfl, hquiet⟩
  · exact Or.inl ⟨rfl, hquiet⟩

theorem clientAt_onInitialized {args : InitArguments} {socket : DataSocket}
    (hport : args.peer.port = 69) (hquiet : Quiet moves) :
    (ProgramState.onInitialized args socket).ClientAt moves := by
  unfold ProgramState.onInitialized
  split
  · trivial
  · exact Or.inr ⟨rfl, hquiet⟩
  · -- the requests port is told nothing
    have hsilent : forwardsErrors args.peer = false := by
      rw [forwardsErrors, hport]
      rfl
    rw [if_neg (by rw [hsilent]; decide), ProgramState.discard]
    split
    · exact hquiet
    · exact Or.inr ⟨rfl, hquiet⟩
  · exact clientAt_start _ hquiet

/-- A client that has not made its request makes it in its next step. -/
theorem asks_step {c c' : ClientState} {e : Event} (h : c.Asked = false)
    (hstep : clientStartOperation host c e = some c') :
    ∃ peer packet ok, e = .sendto peer packet ok := by
  cases client_called hstep with
  | requesting op packet ok => exact ⟨_, _, _, rfl⟩
  | _ => cases h

theorem clientAt_step (h : s.ClientAt moves) (hstep : program host mem s m = some s') :
    s'.ClientAt (moves ++ [m]) := by
  unfold program at hstep
  split at hstep
  case h_1 => cases h
  case h_2 => cases h
  case h_3 args socket =>
    obtain rfl := Option.some.inj hstep
    exact clientAt_onInitialized h.1 (h.2.snoc rfl rfl)
  case h_4 => cases h
  case h_5 fd closed =>
    obtain ⟨rfl, hnext⟩ := Option.ite_none_right_eq_some.mp hstep
    obtain rfl := Option.some.inj hnext
    exact Or.inr ⟨rfl, Quiet.snoc h rfl rfl⟩
  case h_6 state e =>
    obtain ⟨state', hcall, rfl⟩ := Option.map_eq_some_iff.mp hstep
    apply clientAt_afterOperation (ClientState.asked_step hcall)
    rcases h with ⟨hnot, -⟩ | hspoke
    · obtain ⟨peer, packet, ok, rfl⟩ := asks_step hnot hcall
      exact spoke_last peer packet ok
    · exact hspoke.snoc _
  case h_7 op outcome closed =>
    obtain ⟨rfl, hnext⟩ := Option.ite_none_right_eq_some.mp hstep
    obtain rfl := Option.some.inj hnext
    exact Or.inl ⟨rfl, Spoke.snoc h _⟩
  case h_8 => cases hstep

/-! ## Runs of the server -/

theorem clear_alive (state : ListenerState) : state.clear.point ≠ .exited := by
  intro h
  cases h

theorem refuse_alive (state : ListenerState) (reply : ErrorReply) :
    (state.refuse reply).point ≠ .exited := by
  unfold ListenerState.refuse
  split
  · simp
  · exact clear_alive state

theorem onAcquired_alive (state : ListenerState) (slot : Option Nat) :
    (state.onAcquired host mem slot).point ≠ .exited := by
  unfold ListenerState.onAcquired
  split
  · exact refuse_alive state _
  · split <;> simp

theorem dispatch_alive (state : ListenerState) :
    (state.dispatch host mem).point ≠ .exited := by
  unfold ListenerState.dispatch
  split
  · simp
  · split
    · simp
    · split
      · simp
      · split
        · simp
        · exact refuse_alive state _

theorem freeOperationData_alive (state : ListenerState) (slot : Nat) (fd : Int) :
    (state.freeOperationData slot fd).point ≠ .exited := by
  unfold ListenerState.freeOperationData
  split <;> simp

theorem onInitialized_exits {state : ListenerState} {slot : Nat} {args : InitArguments}
    {socket : DataSocket} (h : (state.onInitialized slot args socket).point = .exited) :
    socket = .exits := by
  unfold ListenerState.onInitialized at h
  split at h
  · split at h <;> cases h
  · rename_i houtcome
    cases init_returned houtcome with
    | exits => rfl
    | transfer fd port path size hpath hlen hcheck =>
        have hsocket := socket_checkBlockSize
          (blankOperation args fd port path (UInt16.ofNat (path.length + 1))) size
        rw [hcheck] at hsocket
        cases hsocket
  · split at h
    · cases h
    · exact absurd h (freeOperationData_alive state slot _)
  · cases h

/-- The listener calls `exit` for want of a data socket, and nowhere else. -/
theorem loop_exits {state state' : ListenerState} {e : Event}
    (hloop : serverListenerLoop host mem state e = some state')
    (hexited : state'.point = .exited) : e = .dataSocket .exits := by
  cases loop_called hloop with
  | looping set hpoint => cases set <;> cases hexited
  | awaiting result hpoint => cases result <;> cases hexited
  | received set hpoint =>
      cases set with
      | true => cases hexited
      | false => exact absurd hexited (dispatch_alive state)
  | refusing reply ok hpoint => cases hexited
  | acquiring slot hpoint => exact absurd hexited (onAcquired_alive state slot)
  | initializing slot args socket hpoint => rw [onInitialized_exits hexited]
  | rejecting slot fd client reply ok hpoint =>
      exact absurd hexited (freeOperationData_alive state slot fd)
  | closing slot fd hpoint => cases hexited
  | releasing slot hpoint => cases hexited
  | spawning slot op ok hpoint => cases hexited

theorem listener_exits {p p' : ServerProcess} {move : ProcessMove}
    (halive : p.listener.state.point ≠ .exited) (hstep : serverProcess host mem p move = some p')
    (hexited : p'.listener.state.point = .exited) :
    move = .listener (.dataSocket .exits) := by
  cases listener_moved hstep with
  | stayed heq =>
      rw [heq] at hexited
      exact absurd hexited halive
  | looped e hm hcall hloop => rw [hm, loop_exits hloop hexited]
  | acquired slot hpoint heq =>
      rw [heq] at hexited
      exact absurd hexited (onAcquired_alive _ slot)
  | cleared heq =>
      rw [heq] at hexited
      cases hexited

theorem serverAt_step (h : s.ServerAt moves) (hstep : program host mem s m = some s') :
    s'.ServerAt (moves ++ [m]) := by
  unfold program at hstep
  split at hstep
  case h_1 point ok =>
    obtain rfl := Option.some.inj hstep
    cases ok with
    | false => exact Or.inl rfl
    | true =>
        cases point with
        | allocating => simp [ProgramState.afterSetup, ProgramState.ServerAt, ServerMain.start,
            ServerProcess.start, ListenerThread.enter, ListenerState.start]
        | _ => trivial
  case h_2 server move =>
    obtain ⟨server', hserver, rfl⟩ := Option.map_eq_some_iff.mp hstep
    unfold ProgramState.afterServing
    split
    · rename_i hexited
      refine Or.inr ⟨rfl, moves, ?_⟩
      by_cases hprocess : ∃ inner, move = .process inner
      · obtain ⟨inner, rfl⟩ := hprocess
        simp only [serverStart] at hserver
        split at hserver
        · cases hserver
        · obtain ⟨process, hprocess, rfl⟩ := Option.map_eq_some_iff.mp hserver
          rw [listener_exits h hprocess hexited]
      · have hsame := ServerMain.process_of_main (fun inner heq => hprocess ⟨inner, heq⟩) hserver
        rw [hsame] at hexited
        exact absurd hexited h
    · rename_i hrunning
      split
      · exact Or.inl rfl
      · exact hrunning
  case h_3 => cases h
  case h_4 => cases h
  case h_5 => cases h
  case h_6 => cases h
  case h_7 => cases h
  case h_8 => cases hstep

/-! ## The exit status -/

variable {line : CommandLine} {stack : UInt32}

theorem exited_of_start {first : Nat}
    (hstart : ProgramState.start stack line.argv = .exited first)
    (hrun : Run (program host mem) (.start stack line.argv) moves (.exited status)) :
    status = first ∧ moves = [] := by
  rw [hstart] at hrun
  obtain ⟨hmoves, hstatus⟩ := run_exited hrun
  exact ⟨ProgramState.exited.inj hstatus, hmoves⟩

/-- What the exit status says.  A server ends with 0, unless it was the listener that could not
have a data socket.  A client that lacks arguments ends with `EINVAL` at once; otherwise its
status is 0 if it came to make a request, whatever became of the request, and
`EXIT_FAILURE` if it used neither its socket nor a file.  Any other command line ends with
`EXIT_FAILURE` at once. -/
theorem exit_status
    (hrun : Run (program host mem) (.start stack line.argv) moves (.exited status)) :
    (line.name = some (ascii "serve") →
      status = exitSuccess ∨ status = exitFailure ∧
        ∃ pre, moves = pre ++ [.server (.process (.listener (.dataSocket .exits)))]) ∧
    (∀ name operation, (name, operation) ∈ clientModes → line.name = some name →
      (line.argv.length < 4 → status = exitInvalid ∧ moves = []) ∧
      (4 ≤ line.argv.length →
        status = exitSuccess ∧ (∃ peer packet ok, .call (.sendto peer packet ok) ∈ moves) ∨
        status = exitFailure ∧
          ∀ e, .call e ∈ moves → e.usesSocket = false ∧ e.usesFile = false)) ∧
    ((∀ mode ∈ operationModes, line.name ≠ some mode.inputString) →
      status = exitFailure ∧ moves = []) := by
  refine ⟨?_, ?_, ?_⟩
  · intro hserve
    rw [start_serve hserve] at hrun
    exact hrun.traced (I := fun moves s => s.ServerAt moves)
      (fun _ _ _ _ h hstep => serverAt_step h hstep) trivial
  · intro name operation hmode hname
    constructor
    · intro hargc
      exact exited_of_start (start_missing hmode hname hargc) hrun
    · intro hargc
      obtain ⟨address, path, -, -, hstart⟩ := start_client stack hmode hname hargc
      rw [hstart] at hrun
      exact hrun.traced (I := fun moves s => s.ClientAt moves)
        (fun _ _ _ _ h hstep => clientAt_step h hstep) ⟨rfl, by simp [Quiet]⟩
  · intro hnone
    exact exited_of_start (start_invalid hnone) hrun

end Steps

section FixedRuns

/-- `stftpu write 127.0.0.1 storage/a octet 8`. -/
def writeLine : CommandLine where
  argv := [ascii "stftpu" ++ [0], ascii "write" ++ [0], ascii "127.0.0.1" ++ [0],
    ascii "storage/a" ++ [0], ascii "octet" ++ [0], ascii "8" ++ [0]]
  terminated := by decide

/-- The server refuses the request. -/
def refusedWrite : List ProgramMove :=
  [.call (.dataSocket (.bound 4 40001)),
    .call (.sendto (localhost 69) [0, 2, 97, 0, 111, 99, 116, 101, 116, 0, 98, 108, 107, 115, 105,
      122, 101, 0, 48, 48, 48, 48, 56, 0, 0] true),
    .call (.malloc tftpResponsePacketMaxSize (some (List.replicate tftpResponsePacketMaxSize 0))),
    .call (.recvfrom tftpResponsePacketMaxSize
      (.datagram (localhost 50001) (errorPacket ListenerState.noSlotReply))),
    .call (.close 4)]

set_option maxRecDepth 8000 in
/-- The operation was aborted, and the status is 0. -/
theorem exit_status_aborted :
    Run (program littleHost .strict) (.start 0 writeLine.argv) refusedWrite (.exited 0) ∧
      ∃ peer packet ok, .call (.sendto peer packet ok) ∈ refusedWrite := by
  have hrun : Run (program littleHost .strict) (.start 0 writeLine.argv) refusedWrite
      (.exited 0) := run_iff_exec.mpr rfl
  refine ⟨hrun, ?_⟩
  rcases ((exit_status hrun).2.1 (ascii "write") .send (by decide) (by decide)).2 (by decide) with
    ⟨-, hspoke⟩ | ⟨hfailure, -⟩
  · exact hspoke
  · cases hfailure

end FixedRuns

end Stftpu
