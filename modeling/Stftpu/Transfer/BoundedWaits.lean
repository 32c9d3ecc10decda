import Stftpu.Transfer.OwnAcks

/-!
# How long a wait can take

The three waits count their attempts in three ways.  `tftp_await_acknowledgement` counts
every receive, the retry loop of `tftp_transmit_file` every send, and `tftp_receive_file`
only the receives that bring nothing: a datagram that is passed over does not count, and the
wait goes on.

* `receivesSince`, `datagramsSince` — the receives of a trace since the wait was opened, and
  those of them that brought something.
* `WaitsEnd` — every wait of a run takes a bounded number of receives, and ends with the
  packet awaited or with `false`.
* `waits_end` — this holds of the first function, of the second as long as the last attempt
  is not passed over, and of the third as long as nothing is passed over; the waits of the third
  have a bound exactly when the datagrams that come in one of them have.
* `ReceiveState.waits_on` — a packet that is passed over can be sent for ever.
-/

namespace Stftpu

open Library

/-- The receives since an event that opens a wait, behind one more event. -/
def noteReceive (opens : Event → Bool) (count : Nat) (e : Event) : Nat :=
  if opens e then
    0
  else
    match e with
    | .recvfrom _ _ => count + 1
    | _ => count

/-- The receives of a trace since the last event that opens a wait. -/
def receivesSince (opens : Event → Bool) (tr : List Event) : Nat :=
  tr.foldl (noteReceive opens) 0

@[simp] theorem receivesSince_snoc (opens : Event → Bool) (tr : List Event) (e : Event) :
    receivesSince opens (tr ++ [e]) = noteReceive opens (receivesSince opens tr) e := by
  simp [receivesSince]

/-- The nonempty datagrams since an event that opens a wait, behind one more event. -/
def noteDatagram (opens : Event → Bool) (count : Nat) (e : Event) : Nat :=
  if opens e then
    0
  else
    match e with
    | .recvfrom _ (.datagram _ bytes) => if bytes = [] then count else count + 1
    | _ => count

/-- The nonempty datagrams of a trace since the last event that opens a wait. -/
def datagramsSince (opens : Event → Bool) (tr : List Event) : Nat :=
  tr.foldl (noteDatagram opens) 0

@[simp] theorem datagramsSince_snoc (opens : Event → Bool) (tr : List Event) (e : Event) :
    datagramsSince opens (tr ++ [e]) = noteDatagram opens (datagramsSince opens tr) e := by
  simp [datagramsSince]

theorem noteDatagram_le {opens : Event → Bool} {n m : Nat} (h : m ≤ n) (e : Event) :
    noteDatagram opens m e ≤ noteReceive opens n e := by
  unfold noteDatagram noteReceive
  split
  · exact le_refl _
  · cases e with
    | recvfrom size result =>
        cases result with
        | failed errno => exact Nat.le_succ_of_le h
        | datagram source bytes =>
            by_cases hnil : bytes = []
            · simp only [hnil, if_true]
              exact Nat.le_succ_of_le h
            · simp only [hnil, if_false]
              exact Nat.succ_le_succ h
    | _ => exact h

theorem datagramsSince_le (opens : Event → Bool) (tr : List Event) :
    datagramsSince opens tr ≤ receivesSince opens tr := by
  induction tr using List.reverseRecOn with
  | nil => exact le_refl _
  | append_singleton tr e ih =>
      rw [datagramsSince_snoc, receivesSince_snoc]
      exact noteDatagram_le ih e

/-- Every wait of a run takes at most `bound` receives and fewer while it goes on, and the
receive that ends it ends it well. -/
structure WaitsEnd {σ : Type} (step : σ → Event → Option σ) (opens : Event → Bool)
    (bound : Nat) (waiting : σ → Prop) (ends : σ → RecvResult → σ → Prop) (s : σ)
    (tr : List Event) : Prop where
  bounded : ∀ pre post t, tr = pre ++ post → Run step s pre t →
    receivesSince opens pre ≤ bound ∧ (waiting t → receivesSince opens pre < bound)
  ended : ∀ pre size result post t t', tr = pre ++ .recvfrom size result :: post →
    Run step s pre t → step t (.recvfrom size result) = some t' →
    waiting t' ∨ ends t result t'

/-- The rule: a bound on the receives that every step keeps, and what one receive leads to. -/
theorem waitsEnd_of_step {σ : Type} {step : σ → Event → Option σ} {opens : Event → Bool}
    {bound : Nat} {waiting : σ → Prop} {ends : σ → RecvResult → σ → Prop} {s t : σ}
    {tr : List Event} {C : σ → Event → Prop} {I : Nat → σ → Prop}
    (hrun : Run step s tr t) (hC : EveryStep step C s tr) (h0 : I 0 s)
    (hkeep : ∀ n t e u, I n t → C t e → step t e = some u → I (noteReceive opens n e) u)
    (hbound : ∀ n t, I n t → n ≤ bound ∧ (waiting t → n < bound))
    (hends : ∀ n size result t u, I n t → C t (.recvfrom size result) →
      step t (.recvfrom size result) = some u → waiting u ∨ ends t result u) :
    WaitsEnd step opens bound waiting ends s tr := by
  have hreach : ∀ pre post t, tr = pre ++ post → Run step s pre t →
      I (receivesSince opens pre) t := by
    rintro pre post t rfl hpre
    have hCpre := hC.of_append
    clear hrun hC
    induction hpre with
    | nil => exact h0
    | snoc hprev hstep ih =>
        rw [receivesSince_snoc]
        exact hkeep _ _ _ _ (ih hCpre.of_snoc) (hCpre.last hprev) hstep
  refine ⟨?_, ?_⟩
  · intro pre post t htr hpre
    exact hbound _ _ (hreach pre post t htr hpre)
  · intro pre size result post t u htr hpre hstep
    exact hends _ size result t u (hreach pre _ t htr hpre)
      (everyStep_iff.mp hC pre _ post t htr hpre) hstep

/-! ### The ACK of a request -/

namespace AwaitState

variable {host : Host} {s t : AwaitState} {e : Event}

def InWait (s : AwaitState) : Prop :=
  s.point = .awaiting

/-- The ACK awaited stands in the block and `true` is returned, or `false` is. -/
def Ends (host : Host) (s : AwaitState) (_ : RecvResult) (t : AwaitState) : Prop :=
  t.point = .returned .success ∧ HoldsAck host t.incomingPacket s.blockNumber ∨
    t.point = .returned .failure ∨ t.point = .returned .peerError

/-- The receives so far are those the retry counter has counted, the one under way left
out. -/
def Counts (n : Nat) (s : AwaitState) : Prop :=
  match s.point with
  | .allocating => n = 0 ∧ s.retryCounter = 0
  | .awaiting => n + 1 = s.retryCounter ∧ s.retryCounter ≤ maxRetryCount
  | .returned _ => n ≤ maxRetryCount

theorem counts_loopTest {n : Nat} (hn : n = s.retryCounter) (hle : n ≤ maxRetryCount) :
    Counts n s.loopTest := by
  rcases s.loopTest_cases with ⟨hlt, heq⟩ | heq
  · rw [heq]
    exact ⟨by rw [hn], hlt⟩
  · rw [heq]
    exact hle

theorem counts_step {n : Nat} (h : Counts n s)
    (hstep : tftpAwaitAcknowledgement host s e = some t) :
    Counts (noteReceive (fun _ => false) n e) t := by
  cases hpoint : s.point with
  | allocating =>
      simp only [Counts, hpoint] at h
      obtain ⟨block, packet, rfl, rfl⟩ := await_allocating hpoint hstep
      obtain ⟨rfl, hzero⟩ := h
      show Counts 0 _
      exact counts_loopTest (s := { s with incomingPacket := packet }) hzero.symm
        (Nat.zero_le _)
  | awaiting =>
      simp only [Counts, hpoint] at h
      obtain ⟨result, rfl, rfl⟩ := await_awaiting hpoint hstep
      obtain ⟨hn, hle⟩ := h
      have hnext : n + 1 ≤ maxRetryCount := by omega
      show Counts (n + 1) _
      cases result with
      | failed errno => exact counts_loopTest hn hnext
      | datagram source bytes =>
          simp only [onReceived]
          split
          · exact counts_loopTest hn hnext
          · split
            · exact hnext
            · split
              · exact hnext
              · exact counts_loopTest hn hnext
  | returned exit => cases e <;> simp [tftpAwaitAcknowledgement, hpoint] at hstep

theorem ends_step {size : Nat} {result : RecvResult}
    (hstep : tftpAwaitAcknowledgement host s (.recvfrom size result) = some t) :
    t.InWait ∨ s.Ends host result t := by
  have hloop : ∀ u : AwaitState, u.loopTest.InWait ∨ s.Ends host result u.loopTest := by
    intro u
    rcases u.loopTest_cases with ⟨-, heq⟩ | heq
    · exact Or.inl (by rw [heq]; rfl)
    · exact Or.inr (Or.inr (Or.inl (by rw [heq])))
  obtain ⟨hpoint, rfl⟩ := await_recvfrom hstep
  cases result with
  | failed errno => exact hloop s
  | datagram source bytes =>
      simp only [onReceived]
      split
      · exact hloop _
      · split
        · rename_i hack
          exact Or.inr (Or.inl ⟨rfl, hack⟩)
        · split
          · exact Or.inr (Or.inr (Or.inr rfl))
          · exact hloop _

end AwaitState

/-! ### The ACK of a block -/

namespace TransmitState

variable {b : BlockSize} {host : Host} {s t : TransmitState b} {e : Event}

/-- In the retry loop. -/
def InWait (s : TransmitState b) : Prop :=
  s.point = .attempt ∨ s.point = .sending ∨ s.point = .awaiting

/-- The response is taken for the ACK of the block, or the function returns `false`. -/
def Ends (host : Host) (s : TransmitState b) (result : RecvResult) (t : TransmitState b) :
    Prop :=
  s.TakenForAck host result ∨ t.Doomed

/-- The response to the last attempt at a block is not passed over. -/
def LastAttemptDecides (host : Host) (s : TransmitState b) : Event → Prop
  | .recvfrom _ result =>
      maxRetryCount ≤ s.tx.resendCounter + 1 → s.TakenForAck host result ∨ s.Fatal host result
  | _ => True

/-- `fread` opens the wait for a block's ACK. -/
def isRead : Event → Bool
  | .fread _ _ _ => true
  | _ => false

/-- In the retry loop the receives are the attempts counted. -/
def Counts (n : Nat) (s : TransmitState b) : Prop :=
  s.Framed ∧ n ≤ maxRetryCount ∧ (s.InWait → n = s.tx.resendCounter)

theorem not_waiting_fail (reply : ErrorReply) : ¬ (s.fail reply).InWait := by
  rcases s.fail_point reply with h | h <;> simp [InWait, h]

theorem not_waiting_outerTest : ¬ s.outerTest.InWait := by
  rcases s.outerTest_point with h | h <;> simp [InWait, h]

theorem counts_retry {n : Nat} (hn : n = s.tx.resendCounter) :
    s.retry.InWait → n + 1 = s.retry.tx.resendCounter := by
  unfold retry
  split
  · intro h
    exact absurd h (not_waiting_fail _)
  · intro _
    rw [innerTest_tx, hn]

/-- A response counts as an attempt unless it ends the loop. -/
theorem counts_onResponse {n : Nat} (hn : n = s.tx.resendCounter) (result : RecvResult) :
    (s.onResponse host result).InWait →
      n + 1 = (s.onResponse host result).tx.resendCounter := by
  rcases s.onResponse_cases host result with
    ⟨source, bytes, -, ⟨-, heq⟩ | ⟨-, -, heq⟩ | ⟨-, -, heq⟩⟩ |
    ⟨errno, -, ⟨-, heq⟩ | ⟨-, reply, heq⟩⟩
  · rw [heq]
    intro h
    simp [InWait] at h
  · rw [heq]
    intro h
    exact absurd h not_waiting_outerTest
  · rw [heq]
    exact counts_retry (s := s.received source bytes) hn
  · rw [heq]
    exact counts_retry (s := { s with tx := { s.tx with bytesReceived := -1 } }) hn
  · rw [heq]
    intro h
    exact absurd h (not_waiting_fail _)

theorem counts_step {n : Nat} (h : Counts n s) (hstep : tftpTransmitFile host s e = some t) :
    Counts (noteReceive isRead n e) t := by
  obtain ⟨hframe, hle, hn⟩ := h
  refine ⟨framed_step hframe hstep, ?_⟩
  cases hpoint : s.point with
  | entry =>
      obtain ⟨set, rfl, rfl⟩ := transmit_entry hpoint hstep
      refine ⟨hle, fun hwaiting => ?_⟩
      cases set with
      | true => exact absurd hwaiting (not_waiting_fail _)
      | false => exact absurd hwaiting not_waiting_outerTest
  | nextBlock =>
      obtain ⟨set, rfl, rfl⟩ := transmit_nextBlock hpoint hstep
      refine ⟨hle, fun hwaiting => ?_⟩
      cases set with
      | true => exact absurd hwaiting (not_waiting_fail _)
      | false => simp [InWait, startBlock] at hwaiting
  | reading =>
      simp only [Framed, hpoint] at hframe
      -- a read starts the count of receives anew, with the counter
      obtain ⟨bytes, eof, rfl, -, rfl⟩ := transmit_reading hpoint hstep
      refine ⟨Nat.zero_le _, fun hwaiting => ?_⟩
      unfold onRead at hwaiting ⊢
      split at hwaiting
      · exact absurd hwaiting (not_waiting_fail _)
      · rename_i hread
        rw [if_neg hread, innerTest_tx]
        exact hframe.2.symm
  | attempt =>
      obtain ⟨set, rfl, rfl⟩ := transmit_attempt hpoint hstep
      refine ⟨hle, fun hwaiting => ?_⟩
      cases set with
      | true => exact absurd hwaiting (not_waiting_fail _)
      | false => exact hn (Or.inl hpoint)
  | sending =>
      obtain ⟨ok, rfl, rfl⟩ := transmit_sending hpoint hstep
      refine ⟨hle, fun hwaiting => ?_⟩
      cases ok with
      | true => exact hn (Or.inr (Or.inl hpoint))
      | false => exact absurd hwaiting (not_waiting_fail _)
  | awaiting =>
      simp only [Framed, hpoint] at hframe
      obtain ⟨result, rfl, rfl⟩ := transmit_awaiting hpoint hstep
      -- the receive is counted, and the loop test keeps the counter below the limit
      have hcounter := hn (Or.inr (Or.inr hpoint))
      have hlt := hframe.2
      refine ⟨?_, counts_onResponse hcounter result⟩
      show n + 1 ≤ maxRetryCount
      omega
  | failing reply =>
      obtain ⟨ok, rfl, rfl⟩ := transmit_failing hpoint hstep
      refine ⟨hle, fun hwaiting => ?_⟩
      simp [InWait] at hwaiting
  | returned exit =>
      rw [transmit_returned hpoint] at hstep
      cases hstep

theorem counts_lt {n : Nat} (h : Counts n s) (hwaiting : s.InWait) : n < maxRetryCount := by
  obtain ⟨hframe, -, hn⟩ := h
  rw [hn hwaiting]
  rcases hwaiting with hpoint | hpoint | hpoint <;>
  · simp only [Framed, hpoint] at hframe
    exact hframe.2

/-- A receive that is not the last attempt's, or is not passed over, goes on or ends well. -/
theorem ends_step {size : Nat} {result : RecvResult} (hframe : s.Framed)
    (hdecides : s.LastAttemptDecides host (.recvfrom size result))
    (hstep : tftpTransmitFile host s (.recvfrom size result) = some t) :
    t.InWait ∨ s.Ends host result t := by
  obtain ⟨hpoint, rfl⟩ := transmit_recvfrom hstep
  simp only [Framed, hpoint] at hframe
  by_cases hon : (s.onResponse host result).MovesOn
  · rcases (movesOn_onResponse hframe.2 result).mp hon with htaken | ⟨hnot, hfatal, hlast⟩
    · exact Or.inr (Or.inl htaken)
    · exact Or.inr (Or.inl ((hdecides hlast).resolve_right hfatal))
  · rcases onResponse_inRetryLoop rfl hon with hloop | hdoomed
    · exact Or.inl hloop.1
    · exact Or.inr (Or.inr hdoomed)

/-- Otherwise the loop is left with neither. -/
theorem lastAttemptDecides_of_ends {size : Nat} {result : RecvResult} (hframe : s.Framed)
    (hstep : tftpTransmitFile host s (.recvfrom size result) = some t)
    (hends : t.InWait ∨ s.Ends host result t) :
    s.LastAttemptDecides host (.recvfrom size result) := by
  obtain ⟨hpoint, rfl⟩ := transmit_recvfrom hstep
  simp only [Framed, hpoint] at hframe
  intro hlast
  by_contra hnot
  obtain ⟨htaken, hfatal⟩ := not_or.mp hnot
  have hon : (s.onResponse host result).MovesOn :=
    (movesOn_onResponse hframe.2 result).mpr (Or.inr ⟨htaken, hfatal, hlast⟩)
  rcases hends with hwaiting | htaken' | hdoomed
  · rcases hon with hp | hp <;> simp [InWait, hp] at hwaiting
  · exact htaken htaken'
  · rcases hon with hp | hp
    · simp [Doomed, hp] at hdoomed
    · exact not_doomed_of_success hp hdoomed

/-- Over a run, every wait ends well exactly when no last attempt is passed over. -/
theorem waitsEnd_iff {op : OperationData} {tx : TransferData b} {tr : List Event}
    (h : Run (tftpTransmitFile host) (start op tx) tr s) :
    WaitsEnd (tftpTransmitFile host) isRead maxRetryCount InWait (Ends host) (start op tx) tr ↔
      EveryStep (tftpTransmitFile host) (LastAttemptDecides host) (start op tx) tr := by
  constructor
  · intro hends
    rw [everyStep_iff]
    rintro pre e post t rfl hpre
    obtain ⟨t', u, hpre', hstep, -⟩ := h.step_at
    obtain rfl := hpre.deterministic hpre'
    cases e with
    | recvfrom size result =>
        exact lastAttemptDecides_of_ends (framed_run hpre) hstep
          (hends.ended pre size result post t u rfl hpre hstep)
    | _ => trivial
  · intro hdecides
    refine waitsEnd_of_step (I := Counts) h hdecides ?_ ?_ ?_ ?_
    · refine ⟨trivial, Nat.zero_le _, fun hwaiting => ?_⟩
      simp [InWait, start] at hwaiting
    · intro n t e u hcounts _ hstep
      exact counts_step hcounts hstep
    · intro n t hcounts
      exact ⟨hcounts.2.1, counts_lt hcounts⟩
    · intro n size result t u hcounts hlast hstep
      exact ends_step hcounts.1 hlast hstep

end TransmitState

/-! ### The next block -/

namespace ReceiveState

variable {b : BlockSize} {host : Host} {s t : ReceiveState b} {e : Event}

def InWait (s : ReceiveState b) : Prop :=
  s.point = .awaiting

/-- The function is about to return `false`. -/
def Doomed (s : ReceiveState b) : Prop :=
  (∃ reply, s.point = .failing reply) ∨ s.point = .returned .failure ∨
    s.point = .returned .peerError

/-- The awaited block is accepted, or the function returns `false`. -/
def Ends (_ : ReceiveState b) (_ : RecvResult) (t : ReceiveState b) : Prop :=
  t.Accepted ∨ t.Doomed

/-- A nonempty datagram, with what stands behind it in the buffer, is an ERROR packet or the
awaited block. -/
def NothingPassedOver (s : ReceiveState b) : Event → Prop
  | .recvfrom _ (.datagram _ bytes) =>
      bytes ≠ [] →
        opcodeOf (s.completed bytes) = TFTPOpcode.error.code ∨
        opcodeOf (s.completed bytes) = TFTPOpcode.data.code ∧
          blockNumberOf (s.completed bytes) = s.tx.currentBlockNumber
  | _ => True

/-- A look at `should_terminate` opens the wait for a block. -/
def isPoll : Event → Bool
  | .poll _ => true
  | _ => false

/-- While the function waits, every receive has counted but for the nonempty datagrams. -/
def Counts (n m : Nat) (s : ReceiveState b) : Prop :=
  n ≤ m + maxRetryCount + 1 ∧
    (s.InWait → n ≤ m + s.tx.resendCounter ∧ (n ≤ m ∨ s.tx.resendCounter ≤ maxRetryCount))

theorem doomed_fail (reply : ErrorReply) : (s.fail reply).Doomed := by
  rcases s.fail_point reply with h | h
  · exact Or.inl ⟨reply, h⟩
  · exact Or.inr (Or.inl h)

theorem not_waiting_fail (reply : ErrorReply) : ¬ (s.fail reply).InWait := by
  rcases s.fail_point reply with h | h <;> simp [InWait, h]

/-- What a receive leads to: a miss is counted, a nonempty datagram is passed over, or the wait
is over. -/
theorem onPacket_cases (host : Host) (size : Nat) (result : RecvResult) :
    (∃ u : ReceiveState b, u.tx.resendCounter = s.tx.resendCounter ∧
        s.onPacket host result = u.missed ∧
        ∀ m, noteDatagram isPoll m (.recvfrom size result) = m) ∨
      (∃ source bytes, result = .datagram source bytes ∧
        ¬ s.NothingPassedOver (.recvfrom size result) ∧
        s.onPacket host result = s.received source bytes ∧
        ∀ m, noteDatagram isPoll m (.recvfrom size result) = m + 1) ∨
      ¬ (s.onPacket host result).InWait ∧
        ((s.onPacket host result).Accepted ∨ (s.onPacket host result).Doomed) ∧
        ∀ m, noteDatagram isPoll m (.recvfrom size result) = m + 1 := by
  cases result with
  | failed errno =>
      exact Or.inl ⟨{ s with tx := { s.tx with bytesReceived := -1 } }, rfl, rfl, fun _ => rfl⟩
  | datagram source bytes =>
      by_cases hne : bytes = []
      · subst hne
        have hnone : ¬ (s.received source []).tx.bytesReceived > 0 := by
          simp [received]
        refine Or.inl ⟨s.received source [], rfl, ?_, fun _ => rfl⟩
        simp only [onPacket, if_neg hnone]
      · right
        have hcounts : ∀ m, noteDatagram isPoll m (.recvfrom size (.datagram source bytes)) =
            m + 1 := fun m => by simp [noteDatagram, isPoll, hne]
        simp only [onPacket, if_pos (received_pos s source hne)]
        have herror : (s.received source bytes).looksLikeError host = true ↔
            opcodeOf (s.completed bytes) = TFTPOpcode.error.code :=
          looksLikeError_completed source bytes
        have hawaited : (s.received source bytes).looksAwaited host = true ↔
            opcodeOf (s.completed bytes) = TFTPOpcode.data.code ∧
              blockNumberOf (s.completed bytes) = s.tx.currentBlockNumber :=
          looksAwaited_completed source bytes
        split
        · exact Or.inr ⟨by simp [InWait], Or.inr (Or.inr (Or.inr rfl)), hcounts⟩
        · rename_i hnoError
          split
          · have haccepted : (s.received source bytes).accept.Accepted := accepted_accept
            refine Or.inr ⟨?_, Or.inl haccepted, hcounts⟩
            rcases haccepted with ⟨payload, hp⟩ | hp <;> simp [InWait, hp]
          · rename_i hnoData
            refine Or.inl ⟨source, bytes, rfl, ?_, rfl, hcounts⟩
            intro hnothing
            rcases hnothing hne with herr | hdata
            · exact hnoError (herror.mpr herr)
            · exact hnoData (hawaited.mpr hdata)

/-- A receive that leaves the wait has ended it well. -/
theorem ends_step {size : Nat} {result : RecvResult}
    (hstep : tftpReceiveFile host s (.recvfrom size result) = some t) :
    t.InWait ∨ s.Ends result t := by
  obtain ⟨hpoint, rfl⟩ := receive_recvfrom hstep
  rcases onPacket_cases host size result with
    ⟨u, -, heq, -⟩ | ⟨source, bytes, -, -, heq, -⟩ | ⟨-, hover, -⟩
  · rw [heq]
    unfold missed
    split
    · exact Or.inl rfl
    · exact Or.inr (Or.inr (doomed_fail _))
  · rw [heq]
    exact Or.inl hpoint
  · exact Or.inr hover

theorem counts_step {n m : Nat} (h : Counts n m s)
    (hstep : tftpReceiveFile host s e = some t) :
    Counts (noteReceive isPoll n e) (noteDatagram isPoll m e) t := by
  obtain ⟨hle, hn⟩ := h
  cases hpoint : s.point with
  | entry =>
      obtain ⟨set, rfl, rfl⟩ := receive_entry hpoint hstep
      exact ⟨Nat.zero_le _, fun _ => ⟨Nat.zero_le _, Or.inl (le_refl _)⟩⟩
  | nextBlock =>
      obtain ⟨set, rfl, rfl⟩ := receive_nextBlock hpoint hstep
      exact ⟨Nat.zero_le _, fun _ => ⟨Nat.zero_le _, Or.inl (le_refl _)⟩⟩
  | awaiting =>
      obtain ⟨result, rfl, rfl⟩ := receive_awaiting hpoint hstep
      obtain ⟨hcount, hlimit⟩ := hn hpoint
      show Counts (n + 1) _ _
      rcases onPacket_cases host (dataPacketMaxSize b) result with
        ⟨u, hu, heq, hnote⟩ | ⟨source, bytes, -, -, heq, hnote⟩ | ⟨hover, -, hnote⟩
      · rw [heq, hnote]
        refine ⟨by omega, fun hwaiting => ?_⟩
        unfold missed at hwaiting ⊢
        split at hwaiting
        · rename_i hlt
          rw [if_pos hlt]
          refine ⟨?_, Or.inr hlt⟩
          show n + 1 ≤ m + (u.tx.resendCounter + 1)
          omega
        · exact absurd hwaiting (not_waiting_fail _)
      · -- both counts grow, and the counter stays
        rw [heq, hnote]
        refine ⟨by omega, fun _ => ⟨?_, ?_⟩⟩
        · show n + 1 ≤ m + 1 + s.tx.resendCounter
          omega
        · exact hlimit.imp_left Nat.succ_le_succ
      · rw [hnote]
        exact ⟨by omega, fun hwaiting => absurd hwaiting hover⟩
  | writing payload =>
      obtain ⟨count, kept, rfl, -, rfl⟩ := receive_writing hpoint hstep
      refine ⟨hle, fun hwaiting => ?_⟩
      unfold onWritten at hwaiting
      split at hwaiting
      · exact absurd hwaiting (not_waiting_fail _)
      · simp [InWait] at hwaiting
  | acknowledging =>
      obtain ⟨ok, rfl, rfl⟩ := receive_acknowledging hpoint hstep
      refine ⟨hle, fun hwaiting => ?_⟩
      have hleft : s.onAcknowledged.point = .nextBlock ∨
          s.onAcknowledged.point = .returned .success := outerTest_point _
      rcases hleft with hp | hp <;> simp [InWait, hp] at hwaiting
  | failing reply =>
      obtain ⟨ok, rfl, rfl⟩ := receive_failing hpoint hstep
      refine ⟨hle, fun hwaiting => ?_⟩
      simp [InWait] at hwaiting
  | returned exit =>
      rw [receive_returned hpoint] at hstep
      cases hstep
  | fault =>
      rw [receive_fault hpoint] at hstep
      cases hstep

/-- Where nothing is passed over, a wait that goes on has had no datagram. -/
theorem counts_step_nothing {n : Nat} (h : Counts n 0 s) (hnothing : s.NothingPassedOver e)
    (hstep : tftpReceiveFile host s e = some t) : Counts (noteReceive isPoll n e) 0 t := by
  have hcounts := counts_step h hstep
  by_cases hnote : noteDatagram isPoll 0 e = 0
  · rwa [hnote] at hcounts
  · cases e with
    | recvfrom size result =>
        obtain ⟨hpoint, rfl⟩ := receive_recvfrom hstep
        rcases onPacket_cases host size result with
          ⟨-, -, -, hmiss⟩ | ⟨source, bytes, -, hpassed, -⟩ | ⟨hover, -⟩
        · exact absurd (hmiss 0) hnote
        · exact absurd hnothing hpassed
        · refine ⟨?_, fun hwaiting => absurd hwaiting hover⟩
          show n + 1 ≤ 0 + maxRetryCount + 1
          have := h.2 hpoint
          omega
    | _ => exact absurd (by simp [noteDatagram]) hnote

theorem counts_run {op : OperationData} {tx : TransferData b} {tr : List Event}
    (h : Run (tftpReceiveFile host) (start op tx) tr s) :
    Counts (receivesSince isPoll tr) (datagramsSince isPoll tr) s := by
  induction h with
  | nil =>
      refine ⟨Nat.zero_le _, fun hwaiting => ?_⟩
      simp [InWait, start] at hwaiting
  | snoc _ hstep ih =>
      rw [receivesSince_snoc, datagramsSince_snoc]
      exact counts_step ih hstep

/-- Where at most so many datagrams come in a wait, so many more receives end it. -/
theorem waitsEnd_of_datagrams {op : OperationData} {tx : TransferData b} {tr : List Event}
    {most : Nat} (hmost : ∀ pre post, tr = pre ++ post → datagramsSince isPoll pre ≤ most) :
    WaitsEnd (tftpReceiveFile host) isPoll (most + maxRetryCount + 1) InWait Ends (start op tx)
      tr := by
  refine ⟨?_, ?_⟩
  · intro pre post t htr hpre
    obtain ⟨hle, hwaits⟩ := counts_run hpre
    have hfew := hmost pre post htr
    refine ⟨by omega, fun hwaiting => ?_⟩
    have := hwaits hwaiting
    omega
  · intro pre size result post t u htr hpre hstep
    exact ends_step hstep

/-- Of any runs, the receives in a wait have a bound exactly when the datagrams in a wait
have. -/
theorem waitsEnd_iff_datagrams {op : OperationData} {tx : TransferData b}
    {runs : Set (List Event)}
    (hruns : ∀ tr ∈ runs, ∃ s, Run (tftpReceiveFile host) (start op tx) tr s) :
    (∃ bound, ∀ tr ∈ runs,
      WaitsEnd (tftpReceiveFile host) isPoll bound InWait Ends (start op tx) tr) ↔
      ∃ most, ∀ tr ∈ runs, ∀ pre post, tr = pre ++ post → datagramsSince isPoll pre ≤ most := by
  constructor
  · rintro ⟨bound, hbound⟩
    refine ⟨bound, ?_⟩
    rintro tr htr pre post rfl
    obtain ⟨s, hs⟩ := hruns _ htr
    obtain ⟨t, hpre, -⟩ := hs.split
    have hreceives := ((hbound _ htr).bounded pre post t rfl hpre).1
    exact (datagramsSince_le isPoll pre).trans hreceives
  · rintro ⟨most, hmost⟩
    exact ⟨_, fun tr htr => waitsEnd_of_datagrams (hmost tr htr)⟩

/-- A packet that is passed over leaves the wait where it is, as often as it comes. -/
theorem waits_on (source : SockAddr) {bytes : List UInt8} (hlen : sizeofPacket ≤ bytes.length)
    (hfit : bytes.length ≤ dataPacketMaxSize b)
    (herror : opcodeOf bytes ≠ TFTPOpcode.error.code)
    (hdata : opcodeOf bytes ≠ TFTPOpcode.data.code) (hwaiting : s.InWait) (times : Nat) :
    ∃ t : ReceiveState b, t.InWait ∧ Run (tftpReceiveFile host) s
      (List.replicate times (.recvfrom (dataPacketMaxSize b) (.datagram source bytes))) t := by
  induction times generalizing s with
  | zero => exact ⟨s, hwaiting, Run.nil⟩
  | succ times ih =>
      have hstep : tftpReceiveFile host s
          (.recvfrom (dataPacketMaxSize b) (.datagram source bytes)) =
          some (s.received source bytes) := by
        have hpoint : s.point = .awaiting := hwaiting
        simp only [tftpReceiveFile, hpoint, if_true]
        rw [s.onPacket_datagram host source hlen hfit, if_neg herror,
          if_neg fun h => hdata h.1]
      obtain ⟨t, ht, hrun⟩ := ih (s := s.received source bytes) hwaiting
      exact ⟨t, ht, Run.cons hstep hrun⟩

end ReceiveState

/-- Over every run of each function: the wait for the ACK of a request ends; the wait for the
ACK of a block does so exactly when no last attempt is passed over; and the wait for a block
does so when nothing is passed over, and over any set of runs has a bound exactly when the
nonempty datagrams that come in one wait have. -/
theorem waits_end (host : Host) :
    (∀ n op tr s, Run (tftpAwaitAcknowledgement host) (AwaitState.start n op) tr s →
      WaitsEnd (tftpAwaitAcknowledgement host) (fun _ => false) maxRetryCount
        AwaitState.InWait (AwaitState.Ends host) (AwaitState.start n op) tr) ∧
    (∀ (b : BlockSize) (op : OperationData) (tx : TransferData b) tr s,
      Run (tftpTransmitFile host) (TransmitState.start op tx) tr s →
      (WaitsEnd (tftpTransmitFile host) TransmitState.isRead maxRetryCount
          TransmitState.InWait (TransmitState.Ends host) (TransmitState.start op tx) tr ↔
        EveryStep (tftpTransmitFile host) (TransmitState.LastAttemptDecides host)
          (TransmitState.start op tx) tr)) ∧
    (∀ (b : BlockSize) (op : OperationData) (tx : TransferData b) tr s,
      Run (tftpReceiveFile host) (ReceiveState.start op tx) tr s →
      EveryStep (tftpReceiveFile host) ReceiveState.NothingPassedOver
        (ReceiveState.start op tx) tr →
      WaitsEnd (tftpReceiveFile host) ReceiveState.isPoll (maxRetryCount + 1)
        ReceiveState.InWait ReceiveState.Ends (ReceiveState.start op tx) tr) ∧
    (∀ (b : BlockSize) (op : OperationData) (tx : TransferData b) (runs : Set (List Event)),
      (∀ tr ∈ runs, ∃ s, Run (tftpReceiveFile host) (ReceiveState.start op tx) tr s) →
      ((∃ bound, ∀ tr ∈ runs, WaitsEnd (tftpReceiveFile host) ReceiveState.isPoll bound
          ReceiveState.InWait ReceiveState.Ends (ReceiveState.start op tx) tr) ↔
        ∃ most, ∀ tr ∈ runs, ∀ pre post, tr = pre ++ post →
          datagramsSince ReceiveState.isPoll pre ≤ most)) := by
  refine ⟨?_, ?_, ?_, ?_⟩
  · intro n op tr s hrun
    refine waitsEnd_of_step (C := fun _ _ => True) (I := AwaitState.Counts) hrun
      (everyStep_of_forall fun _ _ _ => trivial) ⟨rfl, rfl⟩ ?_ ?_ ?_
    · intro n t e u hcounts _ hstep
      exact AwaitState.counts_step hcounts hstep
    · intro n t hcounts
      cases hpoint : t.point with
      | allocating =>
          simp only [AwaitState.Counts, hpoint] at hcounts
          exact ⟨by omega, fun hwaiting => by simp [AwaitState.InWait, hpoint] at hwaiting⟩
      | awaiting =>
          simp only [AwaitState.Counts, hpoint] at hcounts
          exact ⟨by omega, fun _ => by omega⟩
      | returned exit =>
          simp only [AwaitState.Counts, hpoint] at hcounts
          exact ⟨hcounts, fun hwaiting => by simp [AwaitState.InWait, hpoint] at hwaiting⟩
    · intro n size result t u _ _ hstep
      exact AwaitState.ends_step hstep
  · intro b op tx tr s hrun
    exact TransmitState.waitsEnd_iff hrun
  · intro b op tx tr s hrun hnothing
    refine waitsEnd_of_step (I := fun n t => ReceiveState.Counts n 0 t) hrun hnothing ?_ ?_ ?_ ?_
    · refine ⟨Nat.zero_le _, fun hwaiting => ?_⟩
      simp [ReceiveState.InWait, ReceiveState.start] at hwaiting
    · intro n t e u hcounts hclear hstep
      exact ReceiveState.counts_step_nothing hcounts hclear hstep
    · intro n t hcounts
      obtain ⟨hle, hwaits⟩ := hcounts
      refine ⟨by omega, fun hwaiting => ?_⟩
      -- the counter is at most the limit, and the receives one more
      have := hwaits hwaiting
      omega
    · intro n size result t u _ _ hstep
      exact ReceiveState.ends_step hstep
  · intro b op tx runs hruns
    exact ReceiveState.waitsEnd_iff_datagrams hruns

section FixedRuns

instance {b : BlockSize} (host : Host) (s : TransmitState b) :
    DecidablePred (s.LastAttemptDecides host)
  | .recvfrom _ result => inferInstanceAs (Decidable (
      maxRetryCount ≤ s.tx.resendCounter + 1 → s.TakenForAck host result ∨ s.Fatal host result))
  | .poll _ | .malloc _ _ | .fopen _ _ _ | .stat _ _ | .fread _ _ _ | .fwrite _ _ _ | .fclose _
  | .remove _ _ | .sendto _ _ _ | .close _ | .dataSocket _ | .acquire _ | .create _
  | .release => isTrue trivial

instance {b : BlockSize} (s : ReceiveState b) : DecidablePred s.NothingPassedOver
  | .recvfrom _ (.datagram _ bytes) => inferInstanceAs (Decidable (
      bytes ≠ [] →
        opcodeOf (s.completed bytes) = TFTPOpcode.error.code ∨
        opcodeOf (s.completed bytes) = TFTPOpcode.data.code ∧
          blockNumberOf (s.completed bytes) = s.tx.currentBlockNumber))
  | .recvfrom _ (.failed _) => isTrue trivial
  | .poll _ | .malloc _ _ | .fopen _ _ _ | .stat _ _ | .fread _ _ _ | .fwrite _ _ _ | .fclose _
  | .remove _ _ | .sendto _ _ _ | .close _ | .dataSocket _ | .acquire _ | .create _
  | .release => isTrue trivial

/-- Six receives in a row bring nothing. -/
def sixMisses : List Event :=
  [.poll false, .poll false] ++ List.replicate 6 (.recvfrom 12 (.failed .EAGAIN))

set_option maxRecDepth 8000 in
theorem waits_end_answered :
    WaitsEnd (tftpAwaitAcknowledgement littleHost) (fun _ => false) maxRetryCount
        AwaitState.InWait (AwaitState.Ends littleHost) (AwaitState.start 0 sampleOperation)
        answeredWait ∧
      WaitsEnd (tftpTransmitFile littleHost) TransmitState.isRead maxRetryCount
        TransmitState.InWait (TransmitState.Ends littleHost)
        (TransmitState.start sampleOperation staleTransfer) wholeResponse ∧
      WaitsEnd (tftpReceiveFile littleHost) ReceiveState.isPoll (maxRetryCount + 1)
        ReceiveState.InWait ReceiveState.Ends
        (ReceiveState.start sampleOperation sampleTransfer) sixMisses := by
  have hreceive : ∃ s, Run (tftpReceiveFile littleHost)
      (ReceiveState.start sampleOperation sampleTransfer) sixMisses s ∧
      s.point ≠ .awaiting := exists_run_of_exec (by decide)
  obtain ⟨s, hs, -⟩ := run_answeredWait
  obtain ⟨t, ht, -⟩ := run_wholeResponse
  obtain ⟨u, hu, -⟩ := hreceive
  have hends := waits_end littleHost
  exact ⟨hends.1 0 sampleOperation answeredWait s hs,
    (hends.2.1 sampleBlockSize sampleOperation staleTransfer wholeResponse t ht).mpr (by decide),
    hends.2.2.1 sampleBlockSize sampleOperation sampleTransfer sixMisses u hu (by decide)⟩

theorem receivesSince_replicate (opens : Event → Bool) (tr : List Event) (times size : Nat)
    (result : RecvResult) (hopens : opens (.recvfrom size result) = false) :
    receivesSince opens (tr ++ List.replicate times (.recvfrom size result)) =
      receivesSince opens tr + times := by
  induction times with
  | zero => simp
  | succ times ih =>
      rw [List.replicate_succ', ← List.append_assoc, receivesSince_snoc, ih]
      simp [noteReceive, hopens, Nat.add_assoc]

set_option maxRecDepth 8000 in
/-- No number of receives bounds the wait for block 1 while ACK packets keep coming; and
behind five such packets in a row the wait for the ACK of a block ends with neither. -/
theorem waits_go_on :
    (¬ ∃ bound, ∀ tr s, Run (tftpReceiveFile littleHost)
      (ReceiveState.start sampleOperation sampleTransfer) tr s →
      receivesSince ReceiveState.isPoll tr ≤ bound) ∧
    ¬ WaitsEnd (tftpTransmitFile littleHost) TransmitState.isRead maxRetryCount
      TransmitState.InWait (TransmitState.Ends littleHost)
      (TransmitState.start sampleOperation sampleTransfer) staleTransmission := by
  constructor
  · rintro ⟨bound, hbound⟩
    -- the receiver waits for block 1, and every ACK packet leaves it there
    let first : ReceiveState sampleBlockSize :=
      { (ReceiveState.start sampleOperation sampleTransfer).begin with point := .awaiting }
    have hopen : Run (tftpReceiveFile littleHost)
        (ReceiveState.start sampleOperation sampleTransfer) [.poll false, .poll false] first :=
      Run.cons rfl (Run.single rfl)
    have hfirst : first.InWait := rfl
    have hmore : ∃ t : ReceiveState sampleBlockSize, t.InWait ∧ Run (tftpReceiveFile littleHost)
        first (List.replicate (bound + 1) (.recvfrom 12 (.datagram (localhost 50001)
          (ackPacket 9)))) t :=
      ReceiveState.waits_on (localhost 50001) (by decide) (by decide) (by decide) (by decide)
        hfirst (bound + 1)
    obtain ⟨t, -, hrun⟩ := hmore
    have hle := hbound _ t (hopen.append hrun)
    rw [receivesSince_replicate ReceiveState.isPoll _ _ _ _ rfl] at hle
    omega
  · -- the sender gives block 1 up as sent behind five ACKs of another block
    have hsend : ∃ s, Run (tftpTransmitFile littleHost)
        (TransmitState.start sampleOperation sampleTransfer) staleTransmission s ∧
        s.point = .returned .success := exists_run_of_exec (by decide)
    obtain ⟨s, hs, -⟩ := hsend
    rw [TransmitState.waitsEnd_iff hs]
    decide

end FixedRuns

end Stftpu
