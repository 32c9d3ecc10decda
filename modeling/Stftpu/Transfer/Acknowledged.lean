import Stftpu.Client.Operation

/-!
# Every block acknowledged

`tftp_transmit_file` leaves the retry loop in two ways, by an ACK and by the loop
test, and both lead to the test of the outer loop: a block that was never
acknowledged is passed over.  This module says when that does not happen.

* `BlocksAcknowledged` — the sender moves on from a block only on that block's ACK,
  and a transfer that returns `true` had every block acknowledged.
* `AcksDecided` — the condition on what each `recvfrom` brings.
* `transmit_blocksAcknowledged_iff` — over any run the two are equivalent, and
  `client_write_acknowledged` carries the result to `client_start_operation`.
-/

namespace Stftpu

open Library

/-- The datagram itself is an ACK with the given block number. -/
def IsAckOf (n : UInt16) : RecvResult → Prop
  | .datagram _ bytes =>
      sizeofPacket ≤ bytes.length ∧ opcodeOf bytes = TFTPOpcode.ack.code ∧
        blockNumberOf bytes = n
  | .failed _ => False

instance (n : UInt16) : DecidablePred (IsAckOf n)
  | .datagram _ bytes => inferInstanceAs (Decidable (sizeofPacket ≤ bytes.length ∧
      opcodeOf bytes = TFTPOpcode.ack.code ∧ blockNumberOf bytes = n))
  | .failed _ => inferInstanceAs (Decidable False)

/-- An ACK with the given number arrives before the next block is read. -/
def AckArrives (n : UInt16) : List Event → Prop
  | [] => False
  | .fread _ _ _ :: _ => False
  | .recvfrom _ result :: rest => IsAckOf n result ∨ AckArrives n rest
  | _ :: rest => AckArrives n rest

instance AckArrives.decidable (n : UInt16) : ∀ tr, Decidable (AckArrives n tr)
  | [] => isFalse id
  | .fread _ _ _ :: _ => isFalse id
  | .recvfrom _ result :: rest =>
      have := AckArrives.decidable n rest
      inferInstanceAs (Decidable (IsAckOf n result ∨ AckArrives n rest))
  | .poll _ :: rest | .malloc _ _ :: rest | .fopen _ _ _ :: rest | .stat _ _ :: rest
  | .fwrite _ _ _ :: rest | .fclose _ :: rest | .remove _ _ :: rest | .sendto _ _ _ :: rest
  | .close _ :: rest | .dataSocket _ :: rest | .acquire _ :: rest | .create _ :: rest
  | .release :: rest => AckArrives.decidable n rest

theorem ackArrives_append {n : UInt16} {tr tr' : List Event} (h : AckArrives n tr) :
    AckArrives n (tr ++ tr') := by
  induction tr with
  | nil => exact h.elim
  | cons e rest ih =>
      cases e with
      | fread size bytes eof => exact h.elim
      | recvfrom size result =>
          rcases h with hack | hlater
          · exact Or.inl hack
          · exact Or.inr (ih hlater)
      | _ => exact ih h

/-- Every DATA packet sent is followed by an ACK with its number before the next
block is read or the trace ends. -/
def AllBlocksAcknowledged (tr : List Event) : Prop :=
  ∀ pre peer n payload post,
    tr = pre ++ .sendto peer (dataPacket n payload) true :: post → AckArrives n post

namespace TransmitState

variable {b : BlockSize}

/-- The wait of the current block is over and the function has not failed. -/
def MovesOn (s : TransmitState b) : Prop :=
  s.point = .nextBlock ∨ s.point = .returned .success

/-- The response is taken for the ACK of the current block. -/
def TakenForAck (host : Host) (s : TransmitState b) : RecvResult → Prop
  | .datagram source bytes =>
      (s.received source bytes).looksLikeError host = false ∧
        (s.received source bytes).looksLikeAck host = true
  | .failed _ => False

/-- The response makes the function return `false`. -/
def Fatal (host : Host) (s : TransmitState b) : RecvResult → Prop
  | .datagram source bytes => (s.received source bytes).looksLikeError host = true
  | .failed errno => errno ≠ .ETIMEDOUT

instance (host : Host) (s : TransmitState b) : DecidablePred (s.TakenForAck host)
  | .datagram source bytes => inferInstanceAs (Decidable (
      (s.received source bytes).looksLikeError host = false ∧
        (s.received source bytes).looksLikeAck host = true))
  | .failed _ => inferInstanceAs (Decidable False)

instance (host : Host) (s : TransmitState b) : DecidablePred (s.Fatal host)
  | .datagram source bytes => inferInstanceAs (Decidable (
      (s.received source bytes).looksLikeError host = true))
  | .failed errno => inferInstanceAs (Decidable (errno ≠ .ETIMEDOUT))

/-- What a response must be like: it is taken for an ACK only if it is one, and the
last attempt brings the ACK or a fatal response. -/
def AcksDecided (host : Host) (s : TransmitState b) : Event → Prop
  | .recvfrom _ result =>
      (s.TakenForAck host result → IsAckOf s.tx.currentBlockNumber result) ∧
        (maxRetryCount ≤ s.tx.resendCounter + 1 →
          IsAckOf s.tx.currentBlockNumber result ∨ s.Fatal host result)
  | _ => True

instance (host : Host) (s : TransmitState b) : DecidablePred (s.AcksDecided host)
  | .recvfrom _ result => inferInstanceAs (Decidable (
      (s.TakenForAck host result → IsAckOf s.tx.currentBlockNumber result) ∧
        (maxRetryCount ≤ s.tx.resendCounter + 1 →
          IsAckOf s.tx.currentBlockNumber result ∨ s.Fatal host result)))
  | .poll _ | .malloc _ _ | .fopen _ _ _ | .stat _ _ | .fread _ _ _ | .fwrite _ _ _ | .fclose _
  | .remove _ _ | .sendto _ _ _ | .close _ | .dataSocket _ | .acquire _ | .create _
  | .release => isTrue trivial

end TransmitState

/-- Over a run: a wait that leads on brought the block's own ACK, and if the run
returns `true` then every block it sent was acknowledged before the next was read. -/
structure BlocksAcknowledged {b : BlockSize} (host : Host) (s : TransmitState b)
    (tr : List Event) : Prop where
  advance : ∀ pre size result post t t',
    tr = pre ++ .recvfrom size result :: post →
    Run (tftpTransmitFile host) s pre t →
    tftpTransmitFile host t (.recvfrom size result) = some t' →
    t'.MovesOn → IsAckOf t.tx.currentBlockNumber result
  returned : ∀ s', Run (tftpTransmitFile host) s tr s' → s'.point = .returned .success →
    AllBlocksAcknowledged tr

namespace TransmitState

variable {b : BlockSize} {host : Host} {s s' : TransmitState b} {e : Event}
  {tr : List Event}

theorem not_movesOn_fail (reply : ErrorReply) : ¬ (s.fail reply).MovesOn := by
  rcases s.fail_point reply with h | h
  · simp [MovesOn, h]
  · simp [MovesOn, h]

theorem movesOn_outerTest : s.outerTest.MovesOn :=
  s.outerTest_point

/-- Another attempt is made as long as there is one left. -/
theorem movesOn_retry (hlt : s.tx.resendCounter < maxRetryCount) :
    s.retry.MovesOn ↔ maxRetryCount ≤ s.tx.resendCounter + 1 := by
  rw [s.retry_of_lt hlt]
  by_cases hnext : s.tx.resendCounter + 1 < maxRetryCount
  · rw [innerTest_lt _ hnext]
    constructor
    · rintro (h | h)
      · cases h
      · cases h
    · intro h
      omega
  · rw [innerTest_ge _ hnext]
    exact ⟨fun _ => by omega, fun _ => movesOn_outerTest⟩

/-- A wait leads on exactly when the response is taken for the ACK, or when it is
neither that nor fatal and no attempt is left. -/
theorem movesOn_onResponse (hlt : s.tx.resendCounter < maxRetryCount) (result : RecvResult) :
    (s.onResponse host result).MovesOn ↔
      s.TakenForAck host result ∨
        ¬ s.TakenForAck host result ∧ ¬ s.Fatal host result ∧
          maxRetryCount ≤ s.tx.resendCounter + 1 := by
  rcases s.onResponse_cases host result with
    ⟨source, bytes, rfl, ⟨herr, heq⟩ | ⟨herr, hack, heq⟩ | ⟨herr, hack, heq⟩⟩ |
      ⟨errno, rfl, ⟨herrno, heq⟩ | ⟨herrno, reply, heq⟩⟩
  · rw [heq]
    simp [MovesOn, TakenForAck, Fatal, herr]
  · rw [heq]
    simp only [TakenForAck, herr, hack, and_self, true_or, iff_true]
    exact movesOn_outerTest
  · rw [heq, movesOn_retry (s := s.received source bytes) hlt]
    simp [TakenForAck, Fatal, herr, hack]
  · rw [heq, movesOn_retry (s := { s with tx := { s.tx with bytesReceived := -1 } }) hlt]
    simp [TakenForAck, Fatal, herrno]
  · rw [heq]
    simp [TakenForAck, Fatal, herrno, not_movesOn_fail]

/-- Under the condition, a wait that leads on brought the ACK. -/
theorem ack_of_decided {size : Nat} {result : RecvResult} (hframe : s.Framed)
    (hdecided : s.AcksDecided host (.recvfrom size result))
    (hstep : tftpTransmitFile host s (.recvfrom size result) = some s') (hon : s'.MovesOn) :
    IsAckOf s.tx.currentBlockNumber result := by
  obtain ⟨hpoint, rfl⟩ := transmit_recvfrom hstep
  simp only [Framed, hpoint] at hframe
  rcases (movesOn_onResponse hframe.2 result).mp hon with htaken | ⟨-, hfatal, hlast⟩
  · exact hdecided.1 htaken
  · exact (hdecided.2 hlast).resolve_right hfatal

/-- In the retry loop of block `n`. -/
def InRetryLoop (n : UInt16) (s : TransmitState b) : Prop :=
  (s.point = .attempt ∨ s.point = .sending ∨ s.point = .awaiting) ∧
    s.tx.currentBlockNumber = n

theorem doomed_run {u : TransmitState b} (h : Run (tftpTransmitFile host) s tr u)
    (hs : s.Doomed) : u.Doomed :=
  h.invariant (fun _ _ _ hI hstep => doomed_step hI hstep) hs

/-- A response that does not lead on keeps the block in its retry loop or dooms the
function. -/
theorem onResponse_inRetryLoop {n : UInt16} {result : RecvResult} (hn : s.tx.currentBlockNumber = n)
    (hon : ¬ (s.onResponse host result).MovesOn) :
    InRetryLoop n (s.onResponse host result) ∨ (s.onResponse host result).Doomed := by
  have hretry : ∀ t : TransmitState b, t.tx.currentBlockNumber = n → ¬ t.retry.MovesOn →
      InRetryLoop n t.retry ∨ t.retry.Doomed := by
    intro t ht hnot
    unfold retry at hnot ⊢
    split
    · exact Or.inr (doomed_fail _)
    · rename_i hle
      simp only [hle, if_false] at hnot
      by_cases hlt : t.tx.resendCounter + 1 < maxRetryCount
      · rw [innerTest_lt _ hlt]
        exact Or.inl ⟨Or.inl rfl, ht⟩
      · rw [innerTest_ge _ hlt] at hnot
        exact absurd movesOn_outerTest hnot
  rcases s.onResponse_cases host result with
    ⟨source, bytes, rfl, ⟨-, heq⟩ | ⟨-, -, heq⟩ | ⟨-, -, heq⟩⟩ |
      ⟨errno, rfl, ⟨-, heq⟩ | ⟨-, reply, heq⟩⟩
  · rw [heq]
    exact Or.inr (Or.inr (Or.inr rfl))
  · rw [heq] at hon
    exact absurd movesOn_outerTest hon
  · rw [heq] at hon ⊢
    exact hretry _ (by simpa [received] using hn) hon
  · rw [heq] at hon ⊢
    exact hretry _ hn hon
  · rw [heq]
    exact Or.inr (doomed_fail _)

/-- From inside a block's retry loop, a run that returns `true` and moves on only on
ACKs sees the block's ACK before it reads again. -/
theorem ackArrives_of_success {n : UInt16} {u : TransmitState b}
    (h : Run (tftpTransmitFile host) s tr u) (hu : u.point = .returned .success)
    (hs : InRetryLoop n s)
    (hacked : ∀ pre size result post t t',
      tr = pre ++ .recvfrom size result :: post →
      Run (tftpTransmitFile host) s pre t →
      tftpTransmitFile host t (.recvfrom size result) = some t' →
      t'.MovesOn → IsAckOf t.tx.currentBlockNumber result) :
    AckArrives n tr := by
  -- by induction on the run: as long as the loop is not left, the block is the same
  induction tr generalizing s with
  | nil =>
      obtain rfl := h.eq_of_nil
      rcases hs.1 with hp | hp | hp <;> rw [hu] at hp <;> cases hp
  | cons e tr ih =>
      obtain ⟨t, hstep, hrest⟩ := h.of_cons
      have hlater : ∀ pre size result post v v',
          tr = pre ++ .recvfrom size result :: post →
          Run (tftpTransmitFile host) t pre v →
          tftpTransmitFile host v (.recvfrom size result) = some v' →
          v'.MovesOn → IsAckOf v.tx.currentBlockNumber result := by
        intro pre size result post v v' htr hrun
        exact hacked (e :: pre) size result post v v' (by simp [htr]) (Run.cons hstep hrun)
      -- a run that still returns `true` has not failed on the way
      have hnotDoomed : ¬ t.Doomed := fun hd =>
        not_doomed_of_success hu (doomed_run hrest hd)
      obtain ⟨hp | hp | hp, hn⟩ := hs
      · obtain ⟨set, rfl, rfl⟩ := transmit_attempt hp hstep
        cases set with
        | true => exact absurd (doomed_fail _) hnotDoomed
        | false => exact ih hrest ⟨Or.inr (Or.inl rfl), hn⟩ hlater
      · obtain ⟨ok, rfl, rfl⟩ := transmit_sending hp hstep
        cases ok with
        | true => exact ih hrest ⟨Or.inr (Or.inr rfl), hn⟩ hlater
        | false => exact absurd (doomed_fail _) hnotDoomed
      · obtain ⟨result, rfl, rfl⟩ := transmit_awaiting hp hstep
        -- the loop is left with the ACK, or goes on
        by_cases hon : (s.onResponse host result).MovesOn
        · have hack := hacked [] _ result tr s _ rfl Run.nil hstep hon
          rw [hn] at hack
          exact Or.inl hack
        · rcases onResponse_inRetryLoop hn hon with hloop | hdoom
          · exact Or.inr (ih hrest hloop hlater)
          · exact absurd hdoom hnotDoomed

/-- Only the retry loop sends DATA packets, each with the current block's number. -/
theorem sent_data {peer : SockAddr} {n : UInt16} {data : List UInt8} {ok : Bool}
    (hframe : s.Framed)
    (hstep : tftpTransmitFile host s (.sendto peer (dataPacket n data) ok) = some s') :
    s.point = .sending ∧ s.tx.currentBlockNumber = n := by
  obtain ⟨-, ⟨hpoint, hpacket⟩ | ⟨reply, -, hpacket⟩⟩ := transmit_sendto hstep
  · simp only [Framed, hpoint] at hframe
    rw [outgoing_eq hframe.1] at hpacket
    have hnum := congrArg blockNumberOf hpacket
    exact ⟨hpoint, by simpa using hnum.symm⟩
  · -- an ERROR packet is no DATA packet
    have hop := congrArg opcodeOf hpacket
    simp at hop

/-- What the advance condition gives for a whole run. -/
theorem allBlocksAcknowledged_of_advance {u : TransmitState b}
    (h : Run (tftpTransmitFile host) s tr u) (hu : u.point = .returned .success)
    (hframe : s.Framed)
    (hacked : ∀ pre size result post t t',
      tr = pre ++ .recvfrom size result :: post →
      Run (tftpTransmitFile host) s pre t →
      tftpTransmitFile host t (.recvfrom size result) = some t' →
      t'.MovesOn → IsAckOf t.tx.currentBlockNumber result) :
    AllBlocksAcknowledged tr := by
  rintro pre peer n data post rfl
  obtain ⟨t, t', hpre, hstep, hpost⟩ := h.step_at
  have hframed : t.Framed := hpre.invariant (fun _ _ _ hI hs => framed_step hI hs) hframe
  obtain ⟨hp, hn⟩ := sent_data hframed hstep
  obtain ⟨ok, he, rfl⟩ := transmit_sending hp hstep
  obtain rfl : true = ok := by
    simp only [Event.sendto.injEq] at he
    exact he.2.2
  refine ackArrives_of_success hpost hu ⟨Or.inr (Or.inr rfl), hn⟩ ?_
  intro pre' size result post' v v' htr hrun
  exact hacked (pre ++ .sendto peer (dataPacket n data) true :: pre') size result post' v v'
    (by simp [htr]) (hpre.append (Run.cons hstep hrun))

/-- Over any run, acknowledged blocks and decided acknowledgements are the same. -/
theorem blocksAcknowledged_iff {op : OperationData} {tx : TransferData b}
    (h : Run (tftpTransmitFile host) (start op tx) tr s) :
    BlocksAcknowledged host (start op tx) tr ↔
      EveryStep (tftpTransmitFile host) (AcksDecided host) (start op tx) tr := by
  constructor
  · intro hacked
    rw [everyStep_iff]
    rintro pre e post t rfl hpre
    obtain ⟨t', u, hpre', hstep, -⟩ := h.step_at
    obtain rfl := hpre.deterministic hpre'
    cases e with
    | recvfrom size result =>
        have hadvance := hacked.advance pre size result post t u rfl hpre hstep
        obtain ⟨hpoint, rfl⟩ := transmit_recvfrom hstep
        have hlt : t.tx.resendCounter < maxRetryCount := by
          have hframe := framed_run hpre
          simp only [Framed, hpoint] at hframe
          exact hframe.2
        rw [movesOn_onResponse hlt] at hadvance
        refine ⟨fun htaken => hadvance (Or.inl htaken), ?_⟩
        intro hlast
        -- the last attempt moves on whatever it was, so it must have been the ACK
        by_cases hfatal : t.Fatal host result
        · exact Or.inr hfatal
        · by_cases htaken : t.TakenForAck host result
          · exact Or.inl (hadvance (Or.inl htaken))
          · exact Or.inl (hadvance (Or.inr ⟨htaken, hfatal, hlast⟩))
    | _ => trivial
  · intro hdecided
    have hadvance : ∀ pre size result post t t',
        tr = pre ++ .recvfrom size result :: post →
        Run (tftpTransmitFile host) (start op tx) pre t →
        tftpTransmitFile host t (.recvfrom size result) = some t' →
        t'.MovesOn → IsAckOf t.tx.currentBlockNumber result := by
      intro pre size result post t t' htr hpre hstep hon
      exact ack_of_decided (framed_run hpre)
        (everyStep_iff.mp hdecided pre _ post t htr hpre) hstep hon
    exact ⟨hadvance, fun u hu hsuccess =>
      allBlocksAcknowledged_of_advance hu hsuccess trivial hadvance⟩

end TransmitState

/-! ### The client's write -/

namespace ClientState

/-- `AcksDecided` while the client transmits. -/
def AcksDecided (host : Host) : ClientState → Event → Prop
  | .transmitting _ s, e => s.AcksDecided host e
  | _, _ => True

instance (host : Host) : ∀ (s : ClientState) (e : Event), Decidable (s.AcksDecided host e)
  | .transmitting _ s, e => inferInstanceAs (Decidable (s.AcksDecided host e))
  | .requesting _ _, _ | .awaitingRequest _, _ | .awaitingDeletion _, _ | .allocating _, _
  | .filling _, _ | .receiving _ _, _ | .closing _ _, _ | .returned _ _, _ | .exited, _
  | .fault, _ => isTrue trivial

/-- The request is no DATA packet, and the packets of a transfer are framed. -/
def Framed : ClientState → Prop
  | .requesting _ packet => opcodeOf packet ≠ TFTPOpcode.data.code
  | .transmitting _ s => s.Framed
  | _ => True

variable {host : Host} {c c' : ClientState} {e : Event}

theorem framed_start (op : OperationData) : (start op).Framed := by
  unfold start
  split
  · trivial
  · trivial
  · rename_i packet hpacket
    obtain ⟨opcode, hop, hcode⟩ := sendRequestPacket_opcode hpacket
    show opcodeOf packet ≠ _
    rw [hcode]
    cases hid : op.operationId <;> simp [requestOpcode, hid] at hop <;> subst hop <;> decide

theorem framed_acknowledged (op : OperationData) : (acknowledged op).Framed := by
  unfold acknowledged
  split <;> trivial

theorem framed_freeTransferData (op : OperationData) (fileOpen outcome : Bool) :
    (freeTransferData op fileOpen outcome).Framed := by
  unfold freeTransferData
  split <;> trivial

theorem framed_afterFill (s : FillState) : (afterFill s).Framed := by
  unfold afterFill
  split
  · split <;> trivial
  · split
    · exact framed_freeTransferData _ _ _
    · trivial
  · trivial

theorem framed_afterTransmit {b : BlockSize} {s : TransmitState b} (h : s.Framed) :
    (afterTransmit s).Framed := by
  unfold afterTransmit
  split
  · exact framed_freeTransferData _ _ _
  · exact h

theorem afterTransmit_of_not_finished {b : BlockSize} {s : TransmitState b}
    (h : ∀ exit, s.point ≠ .returned exit) : afterTransmit s = .transmitting b s := by
  unfold afterTransmit
  split
  · rename_i exit hexit
    exact absurd hexit (h exit)
  · rfl

/-- The value returned is the one carried through `fclose`. -/
theorem closing_outcome {op op' : OperationData} {outcome : Bool} {tr : List Event}
    (h : Run (clientStartOperation host) (.closing op outcome) tr (.returned op' true)) :
    outcome ≠ false := by
  cases tr with
  | nil =>
      have heq := h.eq_of_nil
      cases heq
  | cons e tr =>
      obtain ⟨c, hstep, hrest⟩ := h.of_cons
      cases client_called hstep with
      | closing =>
          cases tr with
          | nil =>
              have heq := hrest.eq_of_nil
              cases heq
              decide
          | cons e tr =>
              obtain ⟨c, hstep', -⟩ := hrest.of_cons
              cases client_called hstep'

theorem framed_step (h : c.Framed) (hstep : clientStartOperation host c e = some c') :
    c'.Framed := by
  cases client_called hstep with
  | requesting op packet ok =>
      unfold onRequested
      split
      · split
        · exact framed_acknowledged op
        · trivial
      · trivial
  | awaitingRequest s t ht =>
      unfold afterRequest
      split
      · exact framed_acknowledged _
      · trivial
      · trivial
  | awaitingDeletion s t ht =>
      unfold afterDeletion
      split <;> trivial
  | allocating op block =>
      unfold onAllocated
      split
      · exact framed_afterFill _
      · exact framed_afterFill _
      · trivial
  | filling s t ht => exact framed_afterFill t
  | receiving b s t ht =>
      unfold afterReceive
      split
      · exact framed_freeTransferData _ _ _
      · trivial
      · trivial
  | transmitting b s t ht => exact framed_afterTransmit (TransmitState.framed_step h ht)
  | closing op outcome => trivial

/-- Only `tftp_transmit_file` sends DATA packets. -/
theorem sent_data {peer : SockAddr} {n : UInt16} {data : List UInt8} {ok : Bool}
    (h : c.Framed)
    (hstep : clientStartOperation host c (.sendto peer (dataPacket n data) ok) = some c') :
    ∃ b s s', c = .transmitting b s ∧ s.Framed ∧
      tftpTransmitFile host s (.sendto peer (dataPacket n data) ok) = some s' ∧
      c' = afterTransmit s' := by
  cases client_called hstep with
  | requesting op =>
      -- what was framed as a request is no DATA packet
      exact absurd (opcodeOf_dataPacket n data) h
  | awaitingRequest s t ht =>
      rw [await_sendto] at ht
      cases ht
  | awaitingDeletion s t ht =>
      rw [await_sendto] at ht
      cases ht
  | filling s t ht =>
      have hop := fill_sent ht
      simp [TFTPOpcode.code] at hop
  | receiving b s t ht =>
      have hop := receive_sent ht
      simp [TFTPOpcode.code] at hop
  | transmitting b s t ht => exact ⟨b, s, t, rfl, h, ht, rfl⟩

/-- A client that returns `true` from within `tftp_transmit_file` left it with
success. -/
theorem run_transmitting {b : BlockSize} {s : TransmitState b} {op' : OperationData}
    {tr : List Event}
    (h : Run (clientStartOperation host) (.transmitting b s) tr (.returned op' true)) :
    ∃ tr₁ tr₂ u, tr = tr₁ ++ tr₂ ∧ Run (tftpTransmitFile host) s tr₁ u ∧
      u.point = .returned .success := by
  have hembedded := Run.embedded (tftpTransmitFile host) (.transmitting b) afterTransmit
    (fun u => ∃ exit, u.point = .returned exit) (fun _ _ => rfl)
    (fun u hu => afterTransmit_of_not_finished fun exit hexit => hu ⟨exit, hexit⟩) h
  rcases hembedded with ⟨u, -, hu⟩ | ⟨tr₁, tr₂, u, htr, hrun, ⟨exit, hexit⟩, hrest⟩
  · cases hu
  · refine ⟨tr₁, tr₂, u, htr, hrun, ?_⟩
    simp only [afterTransmit, hexit, freeTransferData, if_true] at hrest
    cases exit with
    | success => exact hexit
    | failure => exact absurd rfl (closing_outcome hrest)
    | peerError => exact absurd rfl (closing_outcome hrest)

/-- A step of `tftp_transmit_file` that has not returned is a step of the client. -/
theorem lift_transmitting {b : BlockSize} {s u : TransmitState b} {tr : List Event}
    (h : Run (tftpTransmitFile host) s tr u) (hu : ∀ exit, u.point ≠ .returned exit) :
    Run (clientStartOperation host) (.transmitting b s) tr (.transmitting b u) :=
  Run.lift (tftpTransmitFile host) (.transmitting b) afterTransmit
    (fun u => ∃ exit, u.point = .returned exit) (fun _ _ => rfl)
    (fun _ hu => afterTransmit_of_not_finished fun exit hexit => hu ⟨exit, hexit⟩)
    (fun _ _ ⟨_, hexit⟩ => transmit_returned hexit) h (fun ⟨exit, hexit⟩ => hu exit hexit)

/-- A client that returns `true` with every acknowledgement decided had every block it
sent acknowledged. -/
theorem allBlocksAcknowledged {op op' : OperationData} {tr : List Event}
    (h : Run (clientStartOperation host) (start op) tr (.returned op' true))
    (hdecided : EveryStep (clientStartOperation host) (AcksDecided host) (start op) tr) :
    AllBlocksAcknowledged tr := by
  rintro pre peer n data post rfl
  obtain ⟨c, c', hpre, hstep, hpost⟩ := h.step_at
  have hframe : c.Framed := hpre.invariant (fun _ _ _ hI hs => framed_step hI hs) (framed_start op)
  obtain ⟨b, s, s', rfl, hsframe, hsend, rfl⟩ := sent_data hframe hstep
  obtain ⟨hp, hn⟩ := TransmitState.sent_data hsframe hsend
  obtain ⟨ok, he, rfl⟩ := transmit_sending hp hsend
  obtain rfl : true = ok := by
    simp only [Event.sendto.injEq] at he
    exact he.2.2
  obtain ⟨tr₁, tr₂, u, rfl, hrun, hu⟩ := run_transmitting hpost
  refine ackArrives_append (TransmitState.ackArrives_of_success hrun hu
    ⟨Or.inr (Or.inr rfl), hn⟩ ?_)
  intro pre' size result post' t t' htr hpre' hwait hon
  have hnot : ∀ exit, t.point ≠ .returned exit := by
    intro exit hexit
    rw [transmit_returned hexit] at hwait
    cases hwait
  have hclient := hpre.append (Run.cons hstep (lift_transmitting hpre' hnot))
  refine TransmitState.ack_of_decided ?_ ?_ hwait hon
  · exact hpre'.invariant (fun _ _ _ hI hs => TransmitState.framed_step hI hs)
      (TransmitState.framed_step hsframe hsend)
  · exact everyStep_iff.mp hdecided _ (.recvfrom size result) (post' ++ tr₂) _ (by simp [htr])
      hclient

end ClientState

/-- `tftp_transmit_file` moves on only from acknowledged blocks exactly when every
response taken for an ACK is one and every last attempt brings the ACK or a fatal
response; a client that returns `true` under that condition had every block
acknowledged. -/
theorem write_blocks_acknowledged (host : Host) :
    (∀ (b : BlockSize) (op : OperationData) (tx : TransferData b) (tr : List Event)
        (s : TransmitState b),
      Run (tftpTransmitFile host) (TransmitState.start op tx) tr s →
      (BlocksAcknowledged host (TransmitState.start op tx) tr ↔
        EveryStep (tftpTransmitFile host) (TransmitState.AcksDecided host)
          (TransmitState.start op tx) tr)) ∧
    ∀ (op op' : OperationData) (tr : List Event),
      Run (clientStartOperation host) (ClientState.start op) tr (.returned op' true) →
      EveryStep (clientStartOperation host) (ClientState.AcksDecided host)
        (ClientState.start op) tr →
      AllBlocksAcknowledged tr :=
  ⟨fun _ _ _ _ _ h => TransmitState.blocksAcknowledged_iff h,
    fun _ _ _ h hdecided => ClientState.allBlocksAcknowledged h hdecided⟩

/-! ### Runs on fixed inputs -/

section FixedRuns

/-- One attempt at a block of eight bytes: the packet and the response. -/
def attemptEvents (packet : List UInt8) (response : RecvResult) : List Event :=
  [.poll false, .sendto (localhost 50001) packet true,
    .recvfrom responsePacketMaxSize response]

/-- An ACK from the peer. -/
def ackFrom (n : UInt16) : RecvResult :=
  .datagram (localhost 50001) (ackPacket n)

/-- A file of eight bytes, sent in blocks of eight, both blocks acknowledged. -/
def acknowledgedTransmission : List Event :=
  [.poll false, .poll false, .fread 8 (ascii "contents") false] ++
    attemptEvents (dataPacket 1 (ascii "contents")) (ackFrom 1) ++
    [.poll false, .fread 8 [] true] ++
    attemptEvents (dataPacket 2 []) (ackFrom 2)

/-- The same file while five duplicates of ACK 0 use up the attempts at block 1. -/
def staleTransmission : List Event :=
  [.poll false, .poll false, .fread 8 (ascii "contents") false] ++
    (List.replicate 5 (attemptEvents (dataPacket 1 (ascii "contents")) (ackFrom 0))).flatten ++
    [.poll false, .fread 8 [] true] ++
    attemptEvents (dataPacket 2 []) (ackFrom 2)

/-- What the client does before it transmits that file. -/
def writeRequest : List Event :=
  [.sendto (localhost 50001) [0, 2, 97, 0, 111, 99, 116, 101, 116, 0, 98, 108, 107, 115, 105,
      122, 101, 0, 48, 48, 48, 48, 56, 0, 0] true,
    .malloc tftpResponsePacketMaxSize (some (List.replicate tftpResponsePacketMaxSize 0)),
    .recvfrom tftpResponsePacketMaxSize (ackFrom 0),
    .malloc sizeofTransferData (some (List.replicate sizeofTransferData 0)),
    .fopen (ascii "storage/a") .read none,
    .malloc 12 (some (List.replicate 12 0)),
    .malloc 36 (some (List.replicate 36 0))]

set_option maxRecDepth 8000 in
theorem write_blocks_acknowledged_answered :
    (∃ s, Run (tftpTransmitFile littleHost) (TransmitState.start sampleOperation sampleTransfer)
        acknowledgedTransmission s ∧ s.point = .returned .success ∧
      BlocksAcknowledged littleHost (TransmitState.start sampleOperation sampleTransfer)
        acknowledgedTransmission) ∧
    AllBlocksAcknowledged (writeRequest ++ acknowledgedTransmission ++ [.fclose 0]) := by
  have hrun : ∃ s, Run (tftpTransmitFile littleHost)
      (TransmitState.start sampleOperation sampleTransfer) acknowledgedTransmission s ∧
      s.point = .returned .success := exists_run_of_exec (by decide)
  have hwrite : ∃ c, Run (clientStartOperation littleHost) (ClientState.start sampleOperation)
      (writeRequest ++ acknowledgedTransmission ++ [.fclose 0]) c ∧
      c = .returned sampleOperation true := exists_run_of_exec (by decide)
  obtain ⟨s, hs, hpoint⟩ := hrun
  obtain ⟨c, hc, rfl⟩ := hwrite
  refine ⟨⟨s, hs, hpoint, ?_⟩, ?_⟩
  · exact ((write_blocks_acknowledged littleHost).1 _ _ _ _ s hs).mpr (by decide)
  · exact (write_blocks_acknowledged littleHost).2 _ _ _ hc (by decide)

set_option maxRecDepth 4000 in
theorem write_blocks_acknowledged_stale :
    ∃ s, Run (tftpTransmitFile littleHost) (TransmitState.start sampleOperation sampleTransfer)
        staleTransmission s ∧ s.point = .returned .success ∧
      ¬ AllBlocksAcknowledged staleTransmission := by
  have hrun : ∃ s, Run (tftpTransmitFile littleHost)
      (TransmitState.start sampleOperation sampleTransfer) staleTransmission s ∧
      s.point = .returned .success := exists_run_of_exec (by decide)
  obtain ⟨s, hs, hpoint⟩ := hrun
  refine ⟨s, hs, hpoint, ?_⟩
  intro hall
  have hack := hall (staleTransmission.take 4) (localhost 50001) 1 (ascii "contents")
    (staleTransmission.drop 5) (by decide)
  revert hack
  decide

end FixedRuns

end Stftpu
