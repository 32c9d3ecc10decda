import Stftpu.Transfer.Await
import Stftpu.Transfer.ErrorReplies
import Stftpu.Transfer.OwnBytes

/-!
# The messages printed

Whoever takes a datagram for an ERROR packet prints what stands at `error.error_message`, as a
string: up to the first zero byte of the receive buffer, of what earlier datagrams left there,
or of the memory behind it.  Nothing terminates what was received.

* `errorMessage` — the string read.
* `MessageReceived` — it ends inside the bytes of the datagram.
* `printed_messages_iff` — the runs of the three functions in which this holds of every message
  printed, and the replies of `tftp_send_error` short enough for a buffer.
-/

namespace Stftpu

open Library

/-! ## The string -/

/-- `error.error_message` of a packet, with the memory behind its block. -/
def errorMessage {n : Nat} (packet : Buffer n) (slack : List UInt8) : Option (List UInt8) :=
  cstr ((packet.bytes ++ slack).drop sizeofPacket)

/-- The message can be read, and its terminator is one of the bytes received. -/
def MessageReceived {n : Nat} (packet : Buffer n) (slack : List UInt8) (received : Nat) : Prop :=
  ∃ text, errorMessage packet slack = some text ∧ sizeofPacket + text.length < min received n

/-- Of a datagram received into a block of `n` bytes, a zero byte behind the header is
left. -/
def Terminated (n : Nat) (datagram : List UInt8) : Prop :=
  0 ∈ (datagram.take n).drop sizeofPacket

instance (n : Nat) : DecidablePred (Terminated n) :=
  fun datagram => inferInstanceAs (Decidable (0 ∈ (datagram.take n).drop sizeofPacket))

theorem messageReceived_iff {n : Nat} (buf : Buffer n) (datagram slack : List UInt8) :
    MessageReceived (buf.receive datagram) slack datagram.length ↔ Terminated n datagram := by
  have hlength : (datagram.take n).length = min datagram.length n := by
    rw [List.length_take, min_comm]
  have hbytes : (buf.receive datagram).bytes ++ slack =
      datagram.take n ++ (buf.bytes.drop datagram.length ++ slack) := by
    rw [Buffer.receive_bytes, List.append_assoc]
  unfold MessageReceived Terminated errorMessage
  rw [hbytes, ← hlength]
  rcases Nat.lt_or_ge (datagram.take n).length sizeofPacket with hshort | hlong
  · refine iff_of_false ?_ ?_
    · rintro ⟨text, -, hlt⟩
      omega
    · rw [List.drop_eq_nil_of_le (by omega)]
      exact List.not_mem_nil
  · rw [List.drop_append_of_le_length hlong, ← cstr_append_iff]
    refine exists_congr fun text => and_congr_right fun _ => ?_
    rw [List.length_drop]
    omega

theorem zero_mem_take_iff {text : List UInt8} (h : IsText text) (rest : List UInt8) (m : Nat) :
    0 ∈ (text ++ 0 :: rest).take m ↔ text.length < m := by
  have hnot : 0 ∉ text.take m := fun hmem => h 0 (List.mem_of_mem_take hmem) rfl
  rw [List.take_append, List.mem_append, or_iff_right hnot]
  cases hroom : m - text.length with
  | zero =>
      simp only [List.take_zero, List.not_mem_nil, false_iff]
      omega
  | succ k =>
      simp only [List.take_succ_cons, List.mem_cons, true_or, true_iff]
      omega

/-- A packet of `tftp_send_error` keeps its terminator in a block that has room for its
text. -/
theorem terminated_errorPacket {reply : ErrorReply} (h : reply.Texts) (n : Nat) :
    Terminated n (errorPacket reply) ↔
      sizeofPacket + (reply.message ++ reply.item.getD []).length < n := by
  rw [Terminated, List.drop_take, errorPacket_drop, zero_mem_take_iff h.text]
  omega

/-! ## The functions -/

section Prints

variable {σ : Type*} {n : Nat}

/-- A message that a function prints on its way out ends where the datagram does, or
before. -/
def PrintsReceived (step : σ → Event → Option σ) (printed : σ → Prop) (packet : σ → Buffer n)
    (slack : List UInt8) (s : σ) (e : Event) : Prop :=
  ∀ size source datagram t, e = .recvfrom size (.datagram source datagram) →
    step s e = some t → printed t → MessageReceived (packet t) slack datagram.length

/-- A datagram taken for an ERROR packet has a terminated message. -/
def ReceivesTerminated (n : Nat) (taken : σ → List UInt8 → Prop) (s : σ) (e : Event) : Prop :=
  ∀ size source datagram, e = .recvfrom size (.datagram source datagram) → taken s datagram →
    Terminated n datagram

/-- A function that receives into its buffer, and prints what it takes for an ERROR packet. -/
theorem printsReceived_iff {step : σ → Event → Option σ} {printed : σ → Prop}
    {packet : σ → Buffer n} {taken : σ → List UInt8 → Prop} {s t : σ} {e : Event}
    (slack : List UInt8) (hstep : step s e = some t)
    (hreceived : ∀ size source datagram, e = .recvfrom size (.datagram source datagram) →
      packet t = (packet s).receive datagram ∧ (printed t ↔ taken s datagram)) :
    PrintsReceived step printed packet slack s e ↔ ReceivesTerminated n taken s e := by
  constructor
  · intro hprints size source datagram he htaken
    obtain ⟨hpacket, hprinted⟩ := hreceived size source datagram he
    have hmessage := hprints size source datagram t he hstep (hprinted.mpr htaken)
    rw [hpacket] at hmessage
    exact (messageReceived_iff _ datagram slack).mp hmessage
  · intro hterminated size source datagram t' he hstep' hprinted'
    obtain rfl := Option.some.inj (hstep.symm.trans hstep')
    obtain ⟨hpacket, hprinted⟩ := hreceived size source datagram he
    rw [hpacket]
    exact (messageReceived_iff _ datagram slack).mpr
      (hterminated size source datagram he (hprinted.mp hprinted'))

end Prints

namespace AwaitState

variable {host : Host} {s t : AwaitState} {e : Event}

/-- An ERROR packet has ended the wait. -/
def Printed (s : AwaitState) : Prop :=
  s.point = .returned .peerError

/-- The datagram is not empty, and with what stands behind it in the block it has the opcode of
an ERROR packet. -/
def TakesError (s : AwaitState) (datagram : List UInt8) : Prop :=
  datagram ≠ [] ∧ opcodeOf (s.incomingPacket.completed datagram) = TFTPOpcode.error.code

theorem loopTest_not_printed (s : AwaitState) : ¬ s.loopTest.Printed := by
  rcases s.loopTest_cases with ⟨-, h⟩ | h
  · simp [Printed, h]
  · simp [Printed, h]

theorem onReceived_printed_iff (source : SockAddr) (datagram : List UInt8) :
    (s.onReceived host (.datagram source datagram)).Printed ↔ s.TakesError datagram := by
  have hopcode := ntohs_loadOpcode_completed host s.incomingPacket datagram (by decide)
  simp only [onReceived, hopcode, List.length_eq_zero_iff]
  by_cases hempty : datagram = []
  · rw [if_pos hempty]
    exact iff_of_false (loopTest_not_printed _) (fun h => h.1 hempty)
  · rw [if_neg hempty]
    by_cases hack : opcodeOf (s.incomingPacket.completed datagram) = TFTPOpcode.ack.code ∧
        ntohs host.order (loadBlockNumber host (s.incomingPacket.receive datagram)) =
          s.blockNumber
    · rw [if_pos hack]
      refine iff_of_false (by simp [Printed]) ?_
      rintro ⟨-, herror⟩
      rw [hack.1] at herror
      cases herror
    · rw [if_neg hack]
      by_cases herror : opcodeOf (s.incomingPacket.completed datagram) = TFTPOpcode.error.code
      · rw [if_pos herror]
        exact iff_of_true rfl ⟨hempty, herror⟩
      · rw [if_neg herror]
        exact iff_of_false (loopTest_not_printed _) (fun h => herror h.2)

theorem loopTest_incomingPacket (s : AwaitState) :
    s.loopTest.incomingPacket = s.incomingPacket := by
  rcases s.loopTest_cases with ⟨-, h⟩ | h
  · rw [h]
  · rw [h]

theorem onReceived_incomingPacket (source : SockAddr) (datagram : List UInt8) :
    (s.onReceived host (.datagram source datagram)).incomingPacket =
      s.incomingPacket.receive datagram := by
  simp only [onReceived]
  split
  · rw [loopTest_incomingPacket]
  · split
    · rfl
    · split
      · rfl
      · rw [loopTest_incomingPacket]

theorem received_step (hstep : tftpAwaitAcknowledgement host s e = some t) (size : Nat)
    (source : SockAddr) (datagram : List UInt8)
    (he : e = .recvfrom size (.datagram source datagram)) :
    t.incomingPacket = s.incomingPacket.receive datagram ∧
      (t.Printed ↔ s.TakesError datagram) := by
  subst he
  obtain ⟨-, rfl⟩ := await_recvfrom hstep
  exact ⟨onReceived_incomingPacket source datagram, onReceived_printed_iff source datagram⟩

end AwaitState

namespace ReceiveState

variable {b : BlockSize} {host : Host} {s t : ReceiveState b} {e : Event}

def Printed (s : ReceiveState b) : Prop :=
  s.point = .returned .peerError

def TakesError (s : ReceiveState b) (datagram : List UInt8) : Prop :=
  datagram ≠ [] ∧ opcodeOf (s.completed datagram) = TFTPOpcode.error.code

theorem not_printed_fail (reply : ErrorReply) : ¬ (s.fail reply).Printed := by
  rcases s.fail_point reply with h | h
  · simp [Printed, h]
  · simp [Printed, h]

theorem not_printed_missed : ¬ s.missed.Printed := by
  unfold missed
  split
  · simp [Printed]
  · exact not_printed_fail _

theorem not_printed_accept : ¬ s.accept.Printed := by
  rcases s.accepted_accept with ⟨payload, h⟩ | h
  · simp [Printed, h]
  · simp [Printed, h]

theorem onPacket_printed_iff (hpoint : s.point = .awaiting) (source : SockAddr)
    (datagram : List UInt8) :
    (s.onPacket host (.datagram source datagram)).Printed ↔ s.TakesError datagram := by
  have herror : (s.received source datagram).looksLikeError host = true ↔
      opcodeOf (s.completed datagram) = TFTPOpcode.error.code :=
    looksLikeError_completed source datagram
  simp only [onPacket]
  by_cases hempty : datagram = []
  · have hnone : ¬ (s.received source datagram).tx.bytesReceived > 0 := by
      simp [received, hempty]
    rw [if_neg hnone]
    exact iff_of_false not_printed_missed (fun h => h.1 hempty)
  · rw [if_pos (received_pos s source hempty)]
    by_cases hlooks : (s.received source datagram).looksLikeError host = true
    · rw [if_pos hlooks]
      exact iff_of_true rfl ⟨hempty, herror.mp hlooks⟩
    · rw [if_neg hlooks]
      refine iff_of_false ?_ (fun h => hlooks (herror.mpr h.2))
      split
      · exact not_printed_accept
      · intro hprinted
        cases hpoint.symm.trans hprinted

theorem accept_tx : s.accept.tx = s.tx := by
  simp only [accept]
  split <;> rfl

theorem missed_dataPacket : s.missed.tx.dataPacket = s.tx.dataPacket := by
  unfold missed
  split
  · rfl
  · rw [fail_tx]

theorem onPacket_dataPacket (source : SockAddr) (datagram : List UInt8) :
    (s.onPacket host (.datagram source datagram)).tx.dataPacket =
      s.tx.dataPacket.receive datagram := by
  simp only [onPacket]
  split
  · split
    · rfl
    · split
      · rw [accept_tx]
        rfl
      · rfl
  · rw [missed_dataPacket]
    rfl

theorem received_step (hstep : tftpReceiveFile host s e = some t) (size : Nat)
    (source : SockAddr) (datagram : List UInt8)
    (he : e = .recvfrom size (.datagram source datagram)) :
    t.tx.dataPacket = s.tx.dataPacket.receive datagram ∧
      (t.Printed ↔ s.TakesError datagram) := by
  subst he
  obtain ⟨hpoint, rfl⟩ := receive_recvfrom hstep
  exact ⟨onPacket_dataPacket source datagram, onPacket_printed_iff hpoint source datagram⟩

end ReceiveState

namespace TransmitState

variable {b : BlockSize} {host : Host} {s t : TransmitState b} {e : Event}

def Printed (s : TransmitState b) : Prop :=
  s.point = .returned .peerError

/-- The opcode field of the buffer, loaded and not converted, is that of an ERROR packet, whether
or not anything was received. -/
def TakesError (host : Host) (s : TransmitState b) (datagram : List UInt8) : Prop :=
  loadOpcode host (s.tx.responsePacket.receive datagram) = TFTPOpcode.error.code

theorem not_printed_fail (reply : ErrorReply) : ¬ (s.fail reply).Printed := by
  rcases s.fail_point reply with h | h
  · simp [Printed, h]
  · simp [Printed, h]

theorem not_printed_outerTest : ¬ s.outerTest.Printed := by
  unfold outerTest
  split
  · simp [Printed]
  · simp [Printed]

theorem not_printed_retry : ¬ s.retry.Printed := by
  unfold retry
  split
  · exact not_printed_fail _
  · unfold innerTest
    split
    · simp [Printed]
    · exact not_printed_outerTest

theorem onResponse_printed_iff (source : SockAddr) (datagram : List UInt8) :
    (s.onResponse host (.datagram source datagram)).Printed ↔ s.TakesError host datagram := by
  have hlooks : (s.received source datagram).looksLikeError host = true ↔
      s.TakesError host datagram := looksLikeError_iff host _
  rw [← hlooks]
  simp only [onResponse]
  split
  · rename_i h
    exact iff_of_true rfl h
  · rename_i h
    refine iff_of_false ?_ h
    split
    · exact not_printed_outerTest
    · exact not_printed_retry

theorem retry_responsePacket : s.retry.tx.responsePacket = s.tx.responsePacket := by
  unfold retry
  split
  · rw [fail_tx]
  · rw [innerTest_tx]

theorem onResponse_responsePacket (source : SockAddr) (datagram : List UInt8) :
    (s.onResponse host (.datagram source datagram)).tx.responsePacket =
      s.tx.responsePacket.receive datagram := by
  simp only [onResponse]
  split
  · rfl
  · split
    · rw [outerTest_tx]
      rfl
    · rw [retry_responsePacket]
      rfl

theorem received_step (hstep : tftpTransmitFile host s e = some t) (size : Nat)
    (source : SockAddr) (datagram : List UInt8)
    (he : e = .recvfrom size (.datagram source datagram)) :
    t.tx.responsePacket = s.tx.responsePacket.receive datagram ∧
      (t.Printed ↔ s.TakesError host datagram) := by
  subst he
  obtain ⟨-, rfl⟩ := transmit_recvfrom hstep
  exact ⟨onResponse_responsePacket source datagram, onResponse_printed_iff source datagram⟩

end TransmitState

/-- The string every message is printed from ends among the bytes received with it exactly in
the runs in which every datagram taken for an ERROR packet has a zero byte behind its header, as
far as the buffer takes it; and a packet of `tftp_send_error` has one for a buffer with room for
its text and the terminator. -/
theorem printed_messages_iff (host : Host) (slack : List UInt8) :
    (∀ blockNumber op tr s,
      Run (tftpAwaitAcknowledgement host) (AwaitState.start blockNumber op) tr s →
      (EveryStep (tftpAwaitAcknowledgement host)
          (PrintsReceived (tftpAwaitAcknowledgement host) AwaitState.Printed
            AwaitState.incomingPacket slack) (AwaitState.start blockNumber op) tr ↔
        EveryStep (tftpAwaitAcknowledgement host)
          (ReceivesTerminated tftpResponsePacketMaxSize AwaitState.TakesError)
          (AwaitState.start blockNumber op) tr)) ∧
    (∀ (b : BlockSize) op (tx : TransferData b) tr s,
      Run (tftpReceiveFile host) (ReceiveState.start op tx) tr s →
      (EveryStep (tftpReceiveFile host)
          (PrintsReceived (tftpReceiveFile host) ReceiveState.Printed
            (fun s => s.tx.dataPacket) slack) (ReceiveState.start op tx) tr ↔
        EveryStep (tftpReceiveFile host)
          (ReceivesTerminated (dataPacketMaxSize b) ReceiveState.TakesError)
          (ReceiveState.start op tx) tr)) ∧
    (∀ (b : BlockSize) op (tx : TransferData b) tr s,
      Run (tftpTransmitFile host) (TransmitState.start op tx) tr s →
      (EveryStep (tftpTransmitFile host)
          (PrintsReceived (tftpTransmitFile host) TransmitState.Printed
            (fun s => s.tx.responsePacket) slack) (TransmitState.start op tx) tr ↔
        EveryStep (tftpTransmitFile host)
          (ReceivesTerminated responsePacketMaxSize (TransmitState.TakesError host))
          (TransmitState.start op tx) tr)) ∧
    ∀ reply : ErrorReply, reply.Texts → ∀ n, (Terminated n (errorPacket reply) ↔
      sizeofPacket + (reply.message ++ reply.item.getD []).length < n) := by
  refine ⟨?_, ?_, ?_, fun reply h n => terminated_errorPacket h n⟩
  · intro blockNumber op tr s hrun
    exact hrun.everyStep_congr fun _ _ _ hstep =>
      printsReceived_iff slack hstep (AwaitState.received_step hstep)
  · intro b op tx tr s hrun
    exact hrun.everyStep_congr fun _ _ _ hstep =>
      printsReceived_iff slack hstep (ReceiveState.received_step hstep)
  · intro b op tx tr s hrun
    exact hrun.everyStep_congr fun _ _ _ hstep =>
      printsReceived_iff slack hstep (TransmitState.received_step hstep)

section FixedRuns

/-- The reply of the server to the deletion of a file it does not have. -/
def notFoundReply (filename : List UInt8) : ErrorReply :=
  { code := TFTPErrorCode.fileNotFound.code
    message := ascii "file not found: "
    item := some filename }

theorem texts_notFoundReply {filename : List UInt8} (h : IsText filename) :
    (notFoundReply filename).Texts where
  message := by
    show IsText (ascii "file not found: ")
    decide
  item := by
    intro item hitem
    obtain rfl := Option.some.inj hitem
    exact h

/-- A client waits for the answer to a deletion, and the file is not found. -/
def notFoundTrace (filename : List UInt8) : List Event :=
  [.malloc tftpResponsePacketMaxSize (some (List.replicate tftpResponsePacketMaxSize 0)),
    .recvfrom tftpResponsePacketMaxSize
      (.datagram (localhost 49152) (errorPacket (notFoundReply filename)))]

/-- The wait behind its allocation. -/
def firstWait : AwaitState :=
  { AwaitState.start 0 sampleOperation with point := .awaiting, retryCounter := 1 }

set_option maxRecDepth 8000 in
theorem run_firstWait :
    Run (tftpAwaitAcknowledgement littleHost) (AwaitState.start 0 sampleOperation)
      [.malloc tftpResponsePacketMaxSize (some (List.replicate tftpResponsePacketMaxSize 0))]
      firstWait :=
  Run.single rfl

theorem run_notFoundTrace (filename : List UInt8) :
    ∃ s, Run (tftpAwaitAcknowledgement littleHost) (AwaitState.start 0 sampleOperation)
      (notFoundTrace filename) s ∧ tftpAwaitAcknowledgement littleHost firstWait
        (.recvfrom tftpResponsePacketMaxSize
          (.datagram (localhost 49152) (errorPacket (notFoundReply filename)))) = some s ∧
      s.Printed := by
  have hstep : tftpAwaitAcknowledgement littleHost firstWait
      (.recvfrom tftpResponsePacketMaxSize
        (.datagram (localhost 49152) (errorPacket (notFoundReply filename)))) =
      some (firstWait.onReceived littleHost
        (.datagram (localhost 49152) (errorPacket (notFoundReply filename)))) := by
    simp [tftpAwaitAcknowledgement, firstWait]
  refine ⟨_, run_firstWait.snoc hstep, hstep, ?_⟩
  rw [AwaitState.onReceived_error]
  rfl

/-- A short name is printed as it was sent. -/
theorem printed_messages_short :
    ∃ s, Run (tftpAwaitAcknowledgement littleHost) (AwaitState.start 0 sampleOperation)
        (notFoundTrace (ascii "a")) s ∧
      EveryStep (tftpAwaitAcknowledgement littleHost)
        (PrintsReceived (tftpAwaitAcknowledgement littleHost) AwaitState.Printed
          AwaitState.incomingPacket []) (AwaitState.start 0 sampleOperation)
        (notFoundTrace (ascii "a")) := by
  obtain ⟨s, hrun, -⟩ := run_notFoundTrace (ascii "a")
  refine ⟨s, hrun, ((printed_messages_iff littleHost []).1 0 sampleOperation _ s hrun).mpr ?_⟩
  refine everyStep_of_forall ?_
  intro e he s size source datagram hreceived _
  subst hreceived
  simp only [notFoundTrace, List.mem_cons, List.not_mem_nil, or_false, reduceCtorEq, false_or,
    Event.recvfrom.injEq, RecvResult.datagram.injEq] at he
  obtain ⟨-, -, rfl⟩ := he
  decide

/-- A name of 255 bytes fills the buffer, and the string goes on behind it. -/
theorem printed_messages_long :
    ∃ s, Run (tftpAwaitAcknowledgement littleHost) (AwaitState.start 0 sampleOperation)
        (notFoundTrace (List.replicate tftpFilenameMax 97)) s ∧
      ¬ EveryStep (tftpAwaitAcknowledgement littleHost)
        (PrintsReceived (tftpAwaitAcknowledgement littleHost) AwaitState.Printed
          AwaitState.incomingPacket []) (AwaitState.start 0 sampleOperation)
        (notFoundTrace (List.replicate tftpFilenameMax 97)) := by
  obtain ⟨s, hrun, hstep, hprinted⟩ := run_notFoundTrace (List.replicate tftpFilenameMax 97)
  refine ⟨s, hrun, ?_⟩
  intro hevery
  have hlast : PrintsReceived (tftpAwaitAcknowledgement littleHost) AwaitState.Printed
      AwaitState.incomingPacket [] firstWait _ := hevery.last run_firstWait
  have hmessage := hlast _ _ _ s rfl hstep hprinted
  obtain ⟨hpacket, -⟩ := AwaitState.received_step hstep _ _ _ rfl
  rw [hpacket] at hmessage
  have hterminated := (messageReceived_iff _ _ _).mp hmessage
  have htext : IsText (List.replicate tftpFilenameMax 97) := by
    intro c hc
    rw [List.eq_of_mem_replicate hc]
    decide
  have hlength := (terminated_errorPacket (texts_notFoundReply htext) _).mp hterminated
  have hname : ((notFoundReply (List.replicate tftpFilenameMax 97)).item.getD []).length = 255 :=
    List.length_replicate
  have hsize : tftpResponsePacketMaxSize = 132 := rfl
  rw [List.length_append] at hlength
  omega

end FixedRuns

end Stftpu
