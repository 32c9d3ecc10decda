import Stftpu.Transfer.Session
import Stftpu.Transfer.SoleRequest

/-!
# A client and the server over a perfect channel

Both programs with their files, as in a session over a lossy channel, but every packet arrives
once and in order: what the client sends to the requests port at the listener, what it sends to
any other at the task, and what the server sends at the client, from a port that is not the
requests port.  The system grants whatever is asked of it, and a file that is there is opened.

* `perfectSession` — one step of either program.
* `ClientStepped`, `ServerStepped` — all that a step does.
* `FillState.Smooth` — `tftp_fill_transfer_data` where nothing fails.
* `Lockstep.restart_sender`, `Lockstep.restart_receiver` — a party that has not made a call yet.
-/

namespace Stftpu

open Library

/-! ## The channel -/

/-- A session, and what is on its way to the data sockets of the server. -/
structure PerfectSession (ν : Type) extends Session ν where
  toTasks : List (List UInt8)

/-- The client calls `client_start_operation`. -/
def PerfectSession.start {ν : Type} (op : OperationData) (files : Storage ν)
    (server : ServerProcess) (storage : Storage ν) : PerfectSession ν :=
  { toSession := Session.start op files server storage, toTasks := [] }

namespace Event

/-- `sendto` of a packet to the requests port. -/
def toRequests : Event → Bool
  | .sendto peer _ _ => peer.port == 69
  | _ => false

/-- A datagram that is received is not from the requests port. -/
def fromTask : Event → Bool
  | .recvfrom _ (.datagram source _) => source.port != 69
  | _ => true

/-- A file that is there is opened for reading. -/
def opens {ν : Type} (resolve : List UInt8 → ν) (files : Storage ν) : Event → Bool
  | .fopen path .read error => error.isNone || (files.entry (resolve path)).isNone
  | _ => true

end Event

namespace ProcessMove

def opens {ν : Type} (resolve : List UInt8 → ν) (files : Storage ν) : ProcessMove → Bool
  | .task _ e => e.opens resolve files
  | _ => true

/-- The queues to the requests port and to the data sockets, behind a step of the server. -/
def arrives (toServer toTasks : List (List UInt8)) :
    ProcessMove → Option (List (List UInt8) × List (List UInt8))
  | .listener e => (Stftpu.arrive toServer e).map fun queue => (queue, toTasks)
  | .task _ e => (Stftpu.arrive toTasks e).map fun queue => (toServer, queue)
  | _ => some (toServer, toTasks)

end ProcessMove

section Steps

variable {ν : Type} [DecidableEq ν] (setup : SessionSetup ν)

/-- One move over a perfect channel. -/
def perfectSession (s : PerfectSession ν) : SessionMove → Option (PerfectSession ν)
  | .client e =>
      if e.granted ∧ e.opens setup.resolveLocal s.files ∧ e.fromTask then
        match s.clientStep setup e, arrive s.toClient e with
        | some t, some toClient =>
            some
              { t with
                toServer := s.toServer ++ if e.toRequests then launched e else []
                toClient := toClient
                toTasks := s.toTasks ++ if e.toRequests then [] else launched e }
        | _, _ => none
      else
        none
  | .server m =>
      if m.granted ∧ m.opens setup.resolve s.storage then
        match s.serverStep setup m, m.arrives s.toServer s.toTasks with
        | some t, some (toServer, toTasks) =>
            some
              { t with
                toServer := toServer
                toClient := s.toClient ++ m.launched
                toTasks := toTasks }
        | _, _ => none
      else
        none

end Steps

/-! ### All that a move does -/

section Inversion

variable {ν : Type} [DecidableEq ν] {setup : SessionSetup ν} {s s' : PerfectSession ν}
  {e : Event} {m : ProcessMove}

/-- A step of the client. -/
structure ClientStepped (setup : SessionSetup ν) (s : PerfectSession ν) (e : Event)
    (s' : PerfectSession ν) : Prop where
  granted : e.granted = true
  opens : e.opens setup.resolveLocal s.files = true
  source : e.fromTask = true
  call : clientStartOperation setup.clientHost s.client e = some s'.client
  access : accessFiles setup.resolveLocal s.files s.stream e = some (s'.files, s'.stream)
  arrives : arrive s.toClient e = some s'.toClient
  toServer : s'.toServer = s.toServer ++ if e.toRequests then launched e else []
  toTasks : s'.toTasks = s.toTasks ++ if e.toRequests then [] else launched e
  server : s'.server = s.server
  storage : s'.storage = s.storage
  streams : s'.streams = s.streams

/-- A step of the server. -/
structure ServerStepped (setup : SessionSetup ν) (s : PerfectSession ν) (m : ProcessMove)
    (s' : PerfectSession ν) : Prop where
  granted : m.granted = true
  opens : m.opens setup.resolve s.storage = true
  move : serverProcess setup.serverHost setup.mem s.server m = some s'.server
  arrives : m.arrives s.toServer s.toTasks = some (s'.toServer, s'.toTasks)
  toClient : s'.toClient = s.toClient ++ m.launched
  client : s'.client = s.client
  files : s'.files = s.files
  stream : s'.stream = s.stream
  access : (∀ k e, m ≠ .task k e) ∧ s'.storage = s.storage ∧ s'.streams = s.streams ∨
    ∃ k e file, m = .task k e ∧
      accessFiles setup.resolve s.storage (s.streams k) e = some (s'.storage, file) ∧
      s'.streams = Function.update s.streams k file

theorem perfectSession_client (h : perfectSession setup s (.client e) = some s') :
    ClientStepped setup s e s' := by
  simp only [perfectSession] at h
  split at h
  · rename_i hanswered
    obtain ⟨hgranted, hopens, hsource⟩ := hanswered
    split at h
    · rename_i t toClient ht harrive
      obtain rfl := Option.some.inj h
      unfold Session.clientStep at ht
      split at ht
      · rename_i client files stream hcall haccess
        obtain rfl := Option.some.inj ht
        exact ⟨hgranted, hopens, hsource, hcall, haccess, harrive, rfl, rfl, rfl, rfl, rfl⟩
      · cases ht
    · cases h
  · cases h

theorem perfectSession_server (h : perfectSession setup s (.server m) = some s') :
    ServerStepped setup s m s' := by
  simp only [perfectSession] at h
  split at h
  · rename_i hanswered
    obtain ⟨hgranted, hopens⟩ := hanswered
    split at h
    · rename_i t toServer toTasks ht harrives
      obtain rfl := Option.some.inj h
      unfold Session.serverStep at ht
      split at ht
      · cases ht
      · rename_i server hserver
        split at ht
        · rename_i k e
          obtain ⟨⟨storage, file⟩, haccess, rfl⟩ := Option.map_eq_some_iff.mp ht
          exact ⟨hgranted, hopens, hserver, harrives, rfl, rfl, rfl, rfl,
            Or.inr ⟨k, e, file, rfl, haccess, rfl⟩⟩
        · rename_i hnot
          obtain rfl := Option.some.inj ht
          exact ⟨hgranted, hopens, hserver, harrives, rfl, rfl, rfl, rfl, Or.inl ⟨hnot, rfl, rfl⟩⟩
    · cases h
  · cases h

/-- What lets the client take a step. -/
theorem perfectSession_client_of (hgranted : e.granted = true)
    (hopens : e.opens setup.resolveLocal s.files = true) (hsource : e.fromTask = true)
    (hcall : (clientStartOperation setup.clientHost s.client e).isSome = true)
    (haccess : (accessFiles setup.resolveLocal s.files s.stream e).isSome = true)
    (harrive : (arrive s.toClient e).isSome = true) :
    (perfectSession setup s (.client e)).isSome = true := by
  obtain ⟨client, hclient⟩ := Option.isSome_iff_exists.mp hcall
  obtain ⟨⟨files, stream⟩, hfiles⟩ := Option.isSome_iff_exists.mp haccess
  obtain ⟨queue, hqueue⟩ := Option.isSome_iff_exists.mp harrive
  simp [perfectSession, Session.clientStep, hgranted, hopens, hsource, hclient, hfiles, hqueue]

/-- What lets the server take one. -/
theorem perfectSession_server_of (hgranted : m.granted = true)
    (hopens : m.opens setup.resolve s.storage = true)
    (hmove : (serverProcess setup.serverHost setup.mem s.server m).isSome = true)
    (harrives : (m.arrives s.toServer s.toTasks).isSome = true)
    (haccess : ∀ k e, m = .task k e →
      (accessFiles setup.resolve s.storage (s.streams k) e).isSome = true) :
    (perfectSession setup s (.server m)).isSome = true := by
  obtain ⟨p, hp⟩ := Option.isSome_iff_exists.mp hmove
  obtain ⟨⟨toServer, toTasks⟩, hqueues⟩ := Option.isSome_iff_exists.mp harrives
  have hserves : (s.serverStep setup m).isSome = true := by
    unfold Session.serverStep
    rw [hp]
    cases m with
    | task k e =>
        rw [Option.isSome_map]
        exact haccess k e rfl
    | _ => rfl
  obtain ⟨t, ht⟩ := Option.isSome_iff_exists.mp hserves
  simp [perfectSession, hgranted, hopens, ht, hqueues]

/-- A step that neither sends nor receives leaves the queues. -/
theorem arrive_of_silent (h : e.usesSocket = false) (queue : List (List UInt8)) :
    arrive queue e = some queue := by
  cases e with
  | recvfrom size result => cases h
  | _ => rfl

theorem launched_of_silent (h : e.usesSocket = false) : launched e = [] := by
  cases e with
  | sendto peer packet ok => cases h
  | _ => rfl

theorem arrives_of_silent (h : m.Silent) (toServer toTasks : List (List UInt8)) :
    m.arrives toServer toTasks = some (toServer, toTasks) := by
  cases m with
  | listener e =>
      simp only [ProcessMove.arrives, arrive_of_silent (h e rfl), Option.map_some]
  | task k e =>
      simp only [ProcessMove.arrives, arrive_of_silent (h e rfl), Option.map_some]
  | _ => rfl

theorem launched_move_of_silent (h : m.Silent) : m.launched = [] := by
  unfold ProcessMove.launched
  cases hcall : m.call with
  | none => rfl
  | some e => exact launched_of_silent (h e hcall)

end Inversion

/-! ## The stream of a transfer -/

section Streams

variable {ν : Type} [DecidableEq ν] {resolve : List UInt8 → ν} {store store' : Storage ν}
  {stream stream' : Option (OpenFile ν)} {e : Event}

/-- The file of the transfer has not been closed. -/
def StreamOpen (stream : Option (OpenFile ν)) : Prop :=
  ∃ f, stream = some f ∧ f.isOpen = true

/-- The file has been opened for reading, and not been closed. -/
def StreamReads (stream : Option (OpenFile ν)) : Prop :=
  ∃ f, stream = some f ∧ f.isOpen = true ∧ f.mode = .read

/-- When it is closed, nothing is handed over to it. -/
theorem StreamReads.close {lost : Nat} (h : StreamReads stream)
    (haccess : accessFiles resolve store stream (.fclose lost) = some (store', stream')) :
    store' = store := by
  obtain ⟨f, rfl, -, hmode⟩ := h
  refine (access_reading ?_ rfl haccess).1
  rintro g hg
  rw [← Option.some.inj hg]
  exact hmode

theorem StreamReads.close_isSome (h : StreamReads stream) :
    (accessFiles resolve store stream (.fclose 0)).isSome = true := by
  obtain ⟨f, rfl, hopen, -⟩ := h
  exact access_close_isSome hopen 0

theorem streamOpen_step (h : StreamOpen stream) (hclose : ∀ lost, e ≠ .fclose lost)
    (haccess : accessFiles resolve store stream e = some (store', stream')) :
    StreamOpen stream' := by
  have hsame : accessFiles resolve store stream e = some (store, stream) →
      StreamOpen stream' := by
    intro hkept
    obtain ⟨-, rfl⟩ := Prod.mk.inj (Option.some.inj (hkept.symm.trans haccess))
    exact h
  cases e with
  | fopen path mode error =>
      cases error with
      | some errno => exact hsame access_fopen_failed
      | none =>
          cases mode with
          | read =>
              obtain ⟨n, -, -, rfl⟩ := access_open haccess
              exact ⟨_, rfl, rfl⟩
          | write =>
              obtain ⟨-, rfl⟩ := access_created haccess
              exact ⟨_, rfl, rfl⟩
  | fread size bytes eof =>
      obtain ⟨f, position, -, hopen, -, -, -, rfl⟩ := access_read haccess
      exact ⟨_, rfl, hopen⟩
  | fwrite bytes count kept =>
      obtain ⟨f, f', -, rfl, -, -, -, hopen, -⟩ := access_write haccess
      exact ⟨f', rfl, hopen⟩
  | fclose lost => exact absurd rfl (hclose lost)
  | remove path error =>
      cases error with
      | some errno => exact hsame rfl
      | none =>
          obtain ⟨-, rfl⟩ := access_remove haccess
          exact h
  | _ => exact hsame rfl

end Streams

/-! ## The setting up -/

namespace FillState

/-- Nothing has failed so far. -/
def Smooth (s : FillState) : Prop :=
  match s.point with
  | .probing => s.receiver = true
  | .opening => True
  | .allocatingData _ => True
  | .allocatingResponse _ data => data.isSome = true
  | .ready _ _ => True
  | _ => False

variable {host : Host} {b : BlockSize} {path : List UInt8} {receiver : Bool} {s s' : FillState}
  {e : Event}

theorem smooth_start (op : OperationData) : (start op true receiver).Smooth := by
  cases receiver <;> simp [start, Smooth]

/-- A file that is to be written is not there, and one that is to be read is. -/
theorem smooth_step (hfor : s.For b path receiver) (h : s.Smooth) (hgranted : e.granted = true)
    (hprobe : ∀ p, s.point = .probing → e ≠ .fopen p .read none)
    (hopen : ∀ p errno, s.point = .opening → e ≠ .fopen p .read (some errno))
    (hstep : tftpFillTransferData host s e = some s') : s'.Smooth := by
  cases hpoint : s.point with
  | probing =>
      obtain ⟨error, rfl, ⟨rfl, -⟩ | ⟨-, rfl⟩⟩ := fill_probing hpoint hstep
      · exact absurd rfl (hprobe _ hpoint)
      · trivial
  | opening =>
      obtain ⟨error, rfl, ⟨-, rfl⟩ | ⟨errno, rfl, -⟩⟩ := fill_opening hpoint hstep
      · rw [checkBlockSize_eq (s := { s with fileOpen := true }) hfor.size]
        trivial
      · cases hreceiver : s.receiver with
        | true =>
            rw [hreceiver] at hgranted
            cases hgranted
        | false =>
            rw [hreceiver] at hopen
            exact absurd rfl (hopen _ errno hpoint)
  | allocatingData b' =>
      obtain ⟨block, data, rfl, hdata, rfl⟩ := fill_allocatingData hpoint hstep
      obtain ⟨block, rfl⟩ := Option.isSome_iff_exists.mp hgranted
      obtain ⟨full, rfl⟩ := allocation_some hdata
      exact (rfl : (some full).isSome = true)
  | allocatingResponse b' data =>
      obtain ⟨block, response, rfl, hresponse, rfl⟩ := fill_allocatingResponse hpoint hstep
      obtain ⟨block, rfl⟩ := Option.isSome_iff_exists.mp hgranted
      obtain ⟨full, rfl⟩ := allocation_some hresponse
      simp only [Smooth, hpoint] at h
      obtain ⟨data, rfl⟩ := Option.isSome_iff_exists.mp h
      exact trivial
  | ready b' tx =>
      rw [fill_ready hpoint] at hstep
      cases hstep
  | _ => simp [Smooth, hpoint] at h

/-- It sends nothing, then. -/
theorem silent_of_smooth (h : s.Smooth) (hstep : tftpFillTransferData host s e = some s') :
    e.usesSocket = false := by
  cases e with
  | sendto peer packet ok =>
      cases hpoint : s.point with
      | failing reply => simp [Smooth, hpoint] at h
      | _ => simp [tftpFillTransferData, hpoint] at hstep
  | recvfrom size result => cases hpoint : s.point <;> simp [tftpFillTransferData, hpoint] at hstep
  | _ => rfl

theorem not_probing_fail (reply : ErrorReply) : (s.fail reply).point ≠ .probing := by
  rcases s.fail_point reply with h | h
  · simp [h]
  · simp [h]

/-- The existence check is the first call, and made once. -/
theorem not_probing_step (hstep : tftpFillTransferData host s e = some s') :
    s'.point ≠ .probing := by
  cases hpoint : s.point with
  | probing =>
      obtain ⟨error, -, ⟨-, rfl⟩ | ⟨-, rfl⟩⟩ := fill_probing hpoint hstep
      · simp
      · simp
  | describing =>
      obtain ⟨timestamp, -, rfl⟩ := fill_describing hpoint hstep
      exact not_probing_fail _
  | opening =>
      obtain ⟨error, -, ⟨-, rfl⟩ | ⟨errno, -, rfl⟩⟩ := fill_opening hpoint hstep
      · rcases checkBlockSize_cases (s := { s with fileOpen := true }) with ⟨b, hb⟩ | ⟨reply, hb⟩
        · simp [hb]
        · rw [hb]
          exact not_probing_fail reply
      · exact not_probing_fail _
  | allocatingData b =>
      obtain ⟨block, data, -, -, rfl⟩ := fill_allocatingData hpoint hstep
      simp
  | allocatingResponse b data =>
      obtain ⟨block, response, -, -, rfl⟩ := fill_allocatingResponse hpoint hstep
      rcases s.onAllocated_cases host data response with ⟨_, _, heq⟩ | ⟨reply, heq⟩
      · simp [heq]
      · rw [heq]
        exact not_probing_fail reply
  | failing reply =>
      obtain ⟨ok, -, rfl⟩ := fill_failing hpoint hstep
      simp
  | ready b tx =>
      rw [fill_ready hpoint] at hstep
      cases hstep
  | failed =>
      rw [fill_failed hpoint] at hstep
      cases hstep

/-- Until it has returned, the function makes its next call. -/
theorem smooth_enabled {ν : Type} {resolve : List UInt8 → ν} {store : Storage ν}
    {stream : Option (OpenFile ν)} [DecidableEq ν] (host : Host) (h : s.Smooth)
    (hready : ∀ b tx, s.point ≠ .ready b tx)
    (hprobe : s.point = .probing → store.entry (resolve s.op.path) = none)
    (hopen : s.point = .opening → s.receiver = false →
      (store.entry (resolve s.op.path)).isSome = true) :
    ∃ e, e.granted = true ∧ e.opens resolve store = true ∧ e.usesSocket = false ∧
      (tftpFillTransferData host s e).isSome = true ∧
      (accessFiles resolve store stream e).isSome = true := by
  cases hpoint : s.point with
  | probing =>
      exact ⟨.fopen s.op.path .read (some (.other 2)), rfl,
        by simp [Event.opens, hprobe hpoint], rfl, by simp [tftpFillTransferData, hpoint], rfl⟩
  | opening =>
      cases hreceiver : s.receiver with
      | true =>
          exact ⟨.fopen s.op.path .write none, rfl, rfl, rfl,
            by simp [tftpFillTransferData, hpoint, hreceiver], rfl⟩
      | false =>
          have hentry := hopen hpoint hreceiver
          exact ⟨.fopen s.op.path .read none, rfl, rfl, rfl,
            by simp [tftpFillTransferData, hpoint, hreceiver],
            by rw [accessFiles, Option.isSome_map]; exact hentry⟩
  | allocatingData b' =>
      exact ⟨.malloc (dataPacketMaxSize b') (some (List.replicate (dataPacketMaxSize b') 0)),
        rfl, rfl, rfl, by simp [tftpFillTransferData, hpoint, allocation], rfl⟩
  | allocatingResponse b' data =>
      exact ⟨.malloc responsePacketMaxSize (some (List.replicate responsePacketMaxSize 0)),
        rfl, rfl, rfl, by simp [tftpFillTransferData, hpoint, allocation], rfl⟩
  | ready b' tx => exact absurd hpoint (hready b' tx)
  | _ => simp [Smooth, hpoint] at h

end FillState

/-! ## A party that has not begun -/

section Restart

variable {b : BlockSize} {file : List UInt8} {s : Exchange b} {n : Nat}

/-- Nothing of the file has been sent before the sender's first call. -/
theorem lockstep_ready_of_entry (h : Lockstep file s n) (hentry : s.sender.state.point = .entry) :
    s.receiver.At file 0 ∧ Listening s.receiver.state.point ∧ s.toReceiver = [] ∧
      s.toSender = [] ∧
      n = 16 * chunkCount b.val file + 6 + 5 + receiveTurns s.receiver.state.point := by
  cases h with
  | ready k sender frame turns receiver listening toReceiver toSender =>
      have hzero := sender.2
      simp only [hentry] at hzero
      obtain ⟨rfl, -⟩ := hzero
      exact ⟨receiver, listening, toReceiver, toSender, by rw [hentry]; rfl⟩
  | done k receiver sent received =>
      rw [hentry] at sent
      cases sent
  | sent k sender frame waits => rw [hentry] at waits; cases waits
  | writing k sender frame waits => rw [hentry] at waits; cases waits
  | acknowledging k sender frame waits => rw [hentry] at waits; cases waits
  | acked k sender frame waits => rw [hentry] at waits; cases waits
  | answered k sender frame waits => rw [hentry] at waits; cases waits

/-- The sender's call begins: whatever stood for it so far is replaced. -/
theorem Lockstep.restart_sender (h : Lockstep file s n) (hentry : s.sender.state.point = .entry)
    {op : OperationData} {tx : TransferData b}
    (hat : Sender.At file 0 { state := TransmitState.start op tx, pos := 0 }) :
    Lockstep file
      { s with sender := { state := TransmitState.start op tx, pos := 0 } } n := by
  obtain ⟨hreceiver, hlistening, htoReceiver, htoSender, rfl⟩ := lockstep_ready_of_entry h hentry
  exact .ready 0 hat trivial (by simp [TransmitState.start, sendTurns]) hreceiver hlistening
    htoReceiver htoSender

/-- The receiver's call begins, the first block not having been received. -/
theorem Lockstep.restart_receiver (h : Lockstep file s n)
    (hentry : s.receiver.state.point = .entry) {op : OperationData} {tx : TransferData b} :
    Lockstep file { s with receiver := Receiver.start op tx } n := by
  have hstart := Receiver.at_start file op tx
  have hturns : receiveTurns s.receiver.state.point =
      receiveTurns (Receiver.start op tx).state.point := by
    rw [hentry]
    rfl
  have hlistening : Listening (Receiver.start op tx).state.point := Or.inl rfl
  cases h with
  | ready k sender frame turns receiver listening toReceiver toSender =>
      have hzero := receiver
      simp only [Receiver.At, hentry] at hzero
      obtain ⟨rfl, -⟩ := hzero
      rw [hturns]
      exact .ready 0 sender frame turns hstart hlistening toReceiver toSender
  | sent k sender frame waits receiver listening toReceiver toSender =>
      have hzero := receiver
      simp only [Receiver.At, hentry] at hzero
      obtain ⟨rfl, -⟩ := hzero
      rw [hturns]
      exact .sent 0 sender frame waits hstart hlistening toReceiver toSender
  | acked k sender frame waits full receiver listening toReceiver toSender =>
      simp only [Receiver.At, hentry] at receiver
      exact absurd receiver.1 (Nat.succ_ne_zero k)
  | writing k sender frame waits receiver arrived =>
      rw [hentry] at arrived
      cases arrived
  | acknowledging k sender frame waits receiver written =>
      rw [hentry] at written
      cases written
  | answered k sender frame waits short receiver finished =>
      rw [hentry] at finished
      cases finished
  | done k receiver sent received =>
      rw [hentry] at received
      cases received

/-- Neither party fails in lockstep. -/
theorem Lockstep.receiver_point (h : Lockstep file s n) :
    (∀ reply, s.receiver.state.point ≠ .failing reply) ∧
      s.receiver.state.point ≠ .fault ∧
      ∀ exit, s.receiver.state.point = .returned exit → exit = .success := by
  cases h with
  | writing k sender frame waits receiver arrived => simp [arrived]
  | acknowledging k sender frame waits receiver written => simp [written]
  | answered k sender frame waits short receiver finished => simp [finished]
  | done k receiver sent received => simp [received]
  | ready k sender frame turns receiver listening =>
      rcases listening with hpoint | hpoint | hpoint <;> simp [hpoint]
  | sent k sender frame waits receiver listening =>
      rcases listening with hpoint | hpoint | hpoint <;> simp [hpoint]
  | acked k sender frame waits full receiver listening =>
      rcases listening with hpoint | hpoint | hpoint <;> simp [hpoint]

theorem Lockstep.sender_point (h : Lockstep file s n) :
    ∀ exit, s.sender.state.point = .returned exit → exit = .success := by
  cases h with
  | ready k sender frame turns =>
      intro exit hexit
      rw [hexit] at turns
      cases turns
  | done k receiver sent received => simp [sent]
  | sent k sender frame waits => simp [waits]
  | writing k sender frame waits => simp [waits]
  | acknowledging k sender frame waits => simp [waits]
  | acked k sender frame waits => simp [waits]
  | answered k sender frame waits => simp [waits]

end Restart

end Stftpu
