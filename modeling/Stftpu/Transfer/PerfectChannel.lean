import Stftpu.Transfer.Parties

/-!
# A transfer over a perfect channel

The channel is a queue in each direction: every packet arrives once and in order, no
receive fails, nobody asks for termination, and reads and writes are complete.  The
parties still take their steps in any order.

* `Lockstep` — the states such an exchange passes through, with the number of steps
  left: the sender never runs ahead of the receiver.
* `lockstep_step` — a step stays in lockstep, unless the receiver writes an empty
  block and takes that for a failure.
* `perfect_channel_delivers_iff` — every run ends with the file delivered exactly when
  the file is no multiple of the block size.
-/

namespace Stftpu

open Library

/-- Nothing but the exchange itself happens: no signal, no failing read and no short
write. -/
def Undisturbed : Event → Prop
  | .poll set => set = false
  | .fread _ bytes eof => ¬ (bytes = [] ∧ eof = false)
  | .fwrite bytes count _ => count = bytes.length
  | _ => True

instance : DecidablePred Undisturbed
  | .poll set => inferInstanceAs (Decidable (set = false))
  | .fread _ bytes eof => inferInstanceAs (Decidable (¬ (bytes = [] ∧ eof = false)))
  | .fwrite bytes count _ => inferInstanceAs (Decidable (count = bytes.length))
  | .malloc _ _ | .fopen _ _ _ | .stat _ _ | .fclose _ | .remove _ _ | .sendto _ _ _
  | .recvfrom _ _ | .close _ | .dataSocket _ | .acquire _ | .create _
  | .release => isTrue trivial

/-- The queue towards a party behind one of its events: what it receives is the
head. -/
def arrive (queue : List (List UInt8)) : Event → Option (List (List UInt8))
  | .recvfrom _ (.datagram _ bytes) =>
      match queue with
      | [] => none
      | packet :: rest => if bytes = packet then some rest else none
  | .recvfrom _ (.failed _) => none
  | _ => some queue

/-- The queue away from a party behind one of its events. -/
def depart (queue : List (List UInt8)) : Event → Option (List (List UInt8))
  | .sendto _ packet ok => if ok then some (queue ++ [packet]) else none
  | _ => some queue

/-- One system call of either party over a perfect channel. -/
def perfectStep {b : BlockSize} (setup : Setup b) (file : List UInt8) (s : Exchange b) :
    Move → Option (Exchange b)
  | .sender e =>
      if Undisturbed e then
        match s.sender.step setup.sendHost file e, arrive s.toSender e,
          depart s.toReceiver e with
        | some sender, some toSender, some toReceiver =>
            some { s with sender := sender, toSender := toSender, toReceiver := toReceiver }
        | _, _, _ => none
      else
        none
  | .receiver e =>
      if Undisturbed e then
        match s.receiver.step setup.receiveHost e, arrive s.toReceiver e,
          depart s.toSender e with
        | some receiver, some toReceiver, some toSender =>
            some { s with receiver := receiver, toReceiver := toReceiver, toSender := toSender }
        | _, _, _ => none
      else
        none

/-- Both functions returned `true` and the file arrived. -/
def TransferSucceeds {b : BlockSize} (file : List UInt8) (s : Exchange b) : Prop :=
  s.sender.state.point = .returned .success ∧
    s.receiver.state.point = .returned .success ∧ s.receiver.written = file

/-- Every run over the perfect channel is bounded, and one that cannot go on has
delivered the file. -/
def AlwaysDelivers {b : BlockSize} (setup : Setup b) (file : List UInt8) : Prop :=
  (∃ bound, ∀ tr s, Run (perfectStep setup file) (Exchange.start setup) tr s →
    tr.length ≤ bound) ∧
  ∀ tr s, Run (perfectStep setup file) (Exchange.start setup) tr s →
    Stuck (perfectStep setup file) s → TransferSucceeds file s

section Queues

variable {queue queue' : List (List UInt8)}

/-- Only the first packet on its way is received. -/
theorem arrive_datagram {size : Nat} {source : SockAddr} {bytes : List UInt8}
    (h : arrive queue (.recvfrom size (.datagram source bytes)) = some queue') :
    queue = bytes :: queue' := by
  cases queue with
  | nil => cases h
  | cons packet rest =>
      obtain ⟨rfl, hrest⟩ := Option.ite_none_right_eq_some.mp h
      rw [Option.some.inj hrest]

theorem depart_sendto {peer : SockAddr} {packet : List UInt8} {ok : Bool}
    (h : depart queue (.sendto peer packet ok) = some queue') :
    ok = true ∧ queue' = queue ++ [packet] := by
  obtain ⟨hok, hqueue⟩ := Option.ite_none_right_eq_some.mp h
  exact ⟨hok, (Option.some.inj hqueue).symm⟩

end Queues

section Steps

variable {b : BlockSize} {setup : Setup b} {file : List UInt8} {s s' : Exchange b} {e : Event}

theorem perfectStep_sender (h : perfectStep setup file s (.sender e) = some s') :
    Undisturbed e ∧ s.sender.step setup.sendHost file e = some s'.sender ∧
      arrive s.toSender e = some s'.toSender ∧
      depart s.toReceiver e = some s'.toReceiver ∧ s'.receiver = s.receiver := by
  simp only [perfectStep] at h
  split at h
  · rename_i hquiet
    split at h
    · rename_i hsender harrive hdepart
      obtain rfl := Option.some.inj h
      exact ⟨hquiet, hsender, harrive, hdepart, rfl⟩
    · cases h
  · cases h

theorem perfectStep_receiver (h : perfectStep setup file s (.receiver e) = some s') :
    Undisturbed e ∧ s.receiver.step setup.receiveHost e = some s'.receiver ∧
      arrive s.toReceiver e = some s'.toReceiver ∧
      depart s.toSender e = some s'.toSender ∧ s'.sender = s.sender := by
  simp only [perfectStep] at h
  split at h
  · rename_i hquiet
    split at h
    · rename_i hreceiver harrive hdepart
      obtain rfl := Option.some.inj h
      exact ⟨hquiet, hreceiver, harrive, hdepart, rfl⟩
    · cases h
  · cases h

end Steps

/-! ## Lockstep -/

/-- System calls left to the sender before it waits for an ACK. -/
def sendTurns : TransmitPoint → Nat
  | .entry => 5
  | .nextBlock => 4
  | .reading => 3
  | .attempt => 2
  | .sending => 1
  | _ => 0

/-- System calls left to the receiver before it waits for a block. -/
def receiveTurns : ReceivePoint → Nat
  | .entry => 2
  | .nextBlock => 1
  | _ => 0

/-- The receiver waits for a block, or is about to. -/
def Listening (p : ReceivePoint) : Prop :=
  p = .entry ∨ p = .nextBlock ∨ p = .awaiting

theorem awaiting_of_turns {p : ReceivePoint} (h : Listening p) (hturns : ¬ 0 < receiveTurns p) :
    p = .awaiting := by
  rcases h with rfl | rfl | rfl
  · exact absurd (by decide) hturns
  · exact absurd (by decide) hturns
  · rfl

section Parties

variable {b : BlockSize} {host : Host} {file : List UInt8} {e : Event} {k : Nat}

/-- On its way to the wait, the sender comes one call closer or sends its block. -/
theorem Sender.advance {s s' : Sender b} (h : s.At file k) (hframe : s.state.Framed)
    (hturns : 0 < sendTurns s.state.point) (hquiet : Undisturbed e)
    (hstep : s.step host file e = some s') :
    s'.At file k ∧ s'.state.Framed ∧
      (sendTurns s'.state.point + 1 = sendTurns s.state.point ∧
          0 < sendTurns s'.state.point ∧
          (∀ queue, arrive queue e = some queue ∧ depart queue e = some queue) ∨
        s.state.point = .sending ∧ ∃ peer ok,
          e = .sendto peer (dataPacket (UInt16.ofNat (k + 1)) (chunk b.val file k)) ok ∧
            (ok = true → s'.state.point = .awaiting)) := by
  obtain ⟨ht, hpos, hreads⟩ := Sender.step_eq hstep
  have hnotAwaiting : s.state.point ≠ .awaiting := by
    intro hp
    rw [hp] at hturns
    cases hturns
  refine ⟨Sender.step_same h hframe hnotAwaiting hstep, TransmitState.framed_step hframe ht, ?_⟩
  obtain ⟨hk, hat⟩ := h
  cases hpoint : s.state.point with
  | entry =>
      obtain ⟨set, rfl, heq⟩ := transmit_entry hpoint ht
      obtain rfl : set = false := hquiet
      rw [heq]
      exact Or.inl ⟨by simp [TransmitState.begin, TransmitState.outerTest, sendTurns],
        by simp [TransmitState.begin, TransmitState.outerTest, sendTurns], fun _ => ⟨rfl, rfl⟩⟩
  | nextBlock =>
      obtain ⟨set, rfl, heq⟩ := transmit_nextBlock hpoint ht
      obtain rfl : set = false := hquiet
      rw [heq]
      exact Or.inl ⟨rfl, by simp [TransmitState.startBlock, sendTurns], fun _ => ⟨rfl, rfl⟩⟩
  | reading =>
      simp only [hpoint] at hat
      simp only [TransmitState.Framed, hpoint] at hframe
      obtain ⟨bytes, eof, rfl, -, heq⟩ := transmit_reading hpoint ht
      rw [hat.1] at hpos
      rcases Sender.filePosition_fread hpos hreads with ⟨hbytes, heof, -⟩ | ⟨rfl, rfl, -⟩
      · have hattempt := (Sender.at_onRead hk hframe.2 hat.2 hbytes heof).1
        rw [heq, hattempt]
        exact Or.inl ⟨rfl, by decide, fun _ => ⟨rfl, rfl⟩⟩
      · exact absurd ⟨rfl, rfl⟩ hquiet
  | attempt =>
      obtain ⟨set, rfl, heq⟩ := transmit_attempt hpoint ht
      obtain rfl : set = false := hquiet
      rw [heq]
      exact Or.inl ⟨rfl, by simp [sendTurns], fun _ => ⟨rfl, rfl⟩⟩
  | sending =>
      simp only [hpoint] at hat
      simp only [TransmitState.Framed, hpoint] at hframe
      obtain ⟨ok, rfl, heq⟩ := transmit_sending hpoint ht
      obtain ⟨-, hnum, -, hpayload⟩ := hat
      rw [TransmitState.outgoing_eq hframe.1, hnum, hpayload]
      refine Or.inr ⟨rfl, _, ok, rfl, ?_⟩
      rintro rfl
      rw [heq]
      rfl
  | _ => simp [hpoint, sendTurns] at hturns

/-- Before it waits, the receiver comes one call closer. -/
theorem Receiver.advance {r r' : Receiver b} (h : r.At file k)
    (hlistening : Listening r.state.point) (hturns : 0 < receiveTurns r.state.point)
    (hquiet : Undisturbed e) (hstep : r.step host e = some r') :
    r'.At file k ∧ Listening r'.state.point ∧
      receiveTurns r'.state.point + 1 = receiveTurns r.state.point ∧
      ∀ queue, arrive queue e = some queue ∧ depart queue e = some queue := by
  obtain ⟨ht, hwritten⟩ := Receiver.step_eq hstep
  obtain ⟨t', written'⟩ := r'
  rcases hlistening with hpoint | hpoint | hpoint
  · obtain ⟨set, rfl, rfl⟩ := receive_entry hpoint ht
    obtain rfl : set = false := hquiet
    obtain rfl : written' = r.written := hwritten
    simp only [Receiver.At, hpoint] at h
    obtain ⟨rfl, hempty, hprev⟩ := h
    refine ⟨⟨by simp [hempty], hprev, rfl⟩, Or.inr (Or.inl rfl), ?_, fun _ => ⟨rfl, rfl⟩⟩
    rw [hpoint]
    rfl
  · obtain ⟨set, rfl, rfl⟩ := receive_nextBlock hpoint ht
    obtain rfl : set = false := hquiet
    obtain rfl : written' = r.written := hwritten
    simp only [Receiver.At, hpoint] at h
    refine ⟨h, Or.inr (Or.inr rfl), ?_, fun _ => ⟨rfl, rfl⟩⟩
    rw [hpoint]
    rfl
  · rw [hpoint] at hturns
    cases hturns

/-- The awaited block is written next. -/
theorem Receiver.accept_block {r r' : Receiver b} (h : r.At file k)
    (hpoint : r.state.point = .awaiting) (hk : k < chunkCount b.val file)
    {size : Nat} {source : SockAddr}
    (hstep : r.step host (.recvfrom size
      (.datagram source (dataPacket (UInt16.ofNat (k + 1)) (chunk b.val file k)))) = some r') :
    r'.At file k ∧ r'.state.point = .writing (chunk b.val file k) := by
  obtain ⟨ht, hwritten⟩ := Receiver.step_eq hstep
  obtain ⟨t', written'⟩ := r'
  obtain ⟨result, he, rfl⟩ := receive_awaiting hpoint ht
  obtain rfl : written' = r.written := hwritten
  obtain ⟨-, rfl⟩ := Event.recvfrom.inj he
  refine ⟨Receiver.at_onPacket hpoint h (Or.inl ⟨k, hk, rfl, fun _ => rfl⟩), ?_⟩
  simp only [Receiver.At, hpoint] at h
  have hle := chunk_length_le b.val file k
  have hfit : (dataPacket (UInt16.ofNat (k + 1)) (chunk b.val file k)).length ≤
      dataPacketMaxSize b := by
    rw [dataPacket_length, dataPacketMaxSize]
    omega
  show (r.state.onPacket host _).point = _
  rw [r.state.onPacket_datagram host source (by simp) hfit, opcodeOf_dataPacket,
    blockNumberOf_dataPacket, dataPacket_drop, if_neg (by decide), if_pos ⟨rfl, h.2.2.symm⟩]

end Parties

/-- The states of an exchange over a perfect channel, block by block, with a bound on
the number of steps left. -/
inductive Lockstep {b : BlockSize} (file : List UInt8) (s : Exchange b) : Nat → Prop
  /-- The sender is about to send block `k`. -/
  | ready (k : Nat) (sender : s.sender.At file k) (frame : s.sender.state.Framed)
      (turns : 0 < sendTurns s.sender.state.point) (receiver : s.receiver.At file k)
      (listening : Listening s.receiver.state.point)
      (toReceiver : s.toReceiver = []) (toSender : s.toSender = []) :
      Lockstep file s (16 * (chunkCount b.val file - k) + 6 +
        sendTurns s.sender.state.point + receiveTurns s.receiver.state.point)
  /-- Block `k` is on its way. -/
  | sent (k : Nat) (sender : s.sender.At file k) (frame : s.sender.state.Framed)
      (waits : s.sender.state.point = .awaiting) (receiver : s.receiver.At file k)
      (listening : Listening s.receiver.state.point)
      (toReceiver : s.toReceiver = [dataPacket (UInt16.ofNat (k + 1)) (chunk b.val file k)])
      (toSender : s.toSender = []) :
      Lockstep file s (16 * (chunkCount b.val file - k) + 5 +
        receiveTurns s.receiver.state.point)
  /-- Block `k` has arrived. -/
  | writing (k : Nat) (sender : s.sender.At file k) (frame : s.sender.state.Framed)
      (waits : s.sender.state.point = .awaiting) (receiver : s.receiver.At file k)
      (arrived : s.receiver.state.point = .writing (chunk b.val file k))
      (toReceiver : s.toReceiver = []) (toSender : s.toSender = []) :
      Lockstep file s (16 * (chunkCount b.val file - k) + 4)
  /-- Block `k` has been written. -/
  | acknowledging (k : Nat) (sender : s.sender.At file k) (frame : s.sender.state.Framed)
      (waits : s.sender.state.point = .awaiting) (receiver : s.receiver.At file k)
      (written : s.receiver.state.point = .acknowledging)
      (toReceiver : s.toReceiver = []) (toSender : s.toSender = []) :
      Lockstep file s (16 * (chunkCount b.val file - k) + 3)
  /-- The ACK of block `k`, a full one, is on its way. -/
  | acked (k : Nat) (sender : s.sender.At file k) (frame : s.sender.state.Framed)
      (waits : s.sender.state.point = .awaiting) (full : (chunk b.val file k).length = b.val)
      (receiver : s.receiver.At file (k + 1)) (listening : Listening s.receiver.state.point)
      (toReceiver : s.toReceiver = [])
      (toSender : s.toSender = [ackPacket (UInt16.ofNat (k + 1))]) :
      Lockstep file s (16 * (chunkCount b.val file - k) + 1 +
        receiveTurns s.receiver.state.point)
  /-- The ACK of the last block is on its way. -/
  | answered (k : Nat) (sender : s.sender.At file k) (frame : s.sender.state.Framed)
      (waits : s.sender.state.point = .awaiting) (short : (chunk b.val file k).length ≠ b.val)
      (receiver : s.receiver.At file (k + 1))
      (finished : s.receiver.state.point = .returned .success)
      (toReceiver : s.toReceiver = [])
      (toSender : s.toSender = [ackPacket (UInt16.ofNat (k + 1))]) :
      Lockstep file s (16 * (chunkCount b.val file - k) + 1)
  /-- Both have returned. -/
  | done (k : Nat) (receiver : s.receiver.At file k)
      (sent : s.sender.state.point = .returned .success)
      (received : s.receiver.state.point = .returned .success) : Lockstep file s 0

/-- The receiver has given up. -/
def ReceiverFailed {b : BlockSize} (s : Exchange b) : Prop :=
  (∃ reply, s.receiver.state.point = .failing reply) ∨
    s.receiver.state.point = .returned .failure

section Lockstep

variable {b : BlockSize} {setup : Setup b} {file : List UInt8} {s s' : Exchange b} {e : Event}
  {n : Nat}

theorem lockstep_start (setup : Setup b) (file : List UInt8) :
    ∃ n, Lockstep file (Exchange.start setup) n :=
  ⟨_, .ready 0 (Sender.at_start file _ _ _) trivial (by simp [Exchange.start, Sender.start,
    TransmitState.start, sendTurns]) (Receiver.at_start file _ _) (Or.inl rfl) rfl rfl⟩

/-- A function that returned makes no more calls. -/
theorem Sender.step_returned {t : Sender b} {exit : Exit} {host : Host}
    (h : t.state.point = .returned exit) : t.step host file e = none := by
  simp [Sender.step, transmit_returned h]

theorem Receiver.step_returned {r : Receiver b} {exit : Exit} {host : Host}
    (h : r.state.point = .returned exit) : r.step host e = none := by
  simp [Receiver.step, receive_returned h]

/-- With nothing to receive, a waiting sender does not move. -/
theorem awaiting_sender_idle (hwait : s.sender.state.point = .awaiting) (hempty : s.toSender = [])
    (h : perfectStep setup file s (.sender e) = some s') : False := by
  obtain ⟨-, hstep, harrive, -, -⟩ := perfectStep_sender h
  obtain ⟨result, rfl, -⟩ := transmit_awaiting hwait (Sender.step_eq hstep).1
  rw [hempty] at harrive
  cases result <;> cases harrive

theorem awaiting_receiver_idle (hwait : s.receiver.state.point = .awaiting)
    (hempty : s.toReceiver = []) (h : perfectStep setup file s (.receiver e) = some s') :
    False := by
  obtain ⟨-, hstep, harrive, -, -⟩ := perfectStep_receiver h
  obtain ⟨result, rfl, -⟩ := receive_awaiting hwait (Receiver.step_eq hstep).1
  rw [hempty] at harrive
  cases result <;> cases harrive

theorem lockstep_ready_sender {k : Nat} (sender : s.sender.At file k)
    (frame : s.sender.state.Framed) (turns : 0 < sendTurns s.sender.state.point)
    (receiver : s.receiver.At file k) (listening : Listening s.receiver.state.point)
    (toReceiver : s.toReceiver = []) (toSender : s.toSender = [])
    (h : perfectStep setup file s (.sender e) = some s') :
    ∃ m < 16 * (chunkCount b.val file - k) + 6 + sendTurns s.sender.state.point +
        receiveTurns s.receiver.state.point, Lockstep file s' m := by
  obtain ⟨hquiet, hstep, harrive, hdepart, hsame⟩ := perfectStep_sender h
  obtain ⟨hat, hframe, ⟨hturns, hpositive, hqueues⟩ | ⟨hpoint, peer, ok, rfl, hsent⟩⟩ :=
    Sender.advance sender frame turns hquiet hstep
  · rw [(hqueues _).1, toSender] at harrive
    rw [(hqueues _).2, toReceiver] at hdepart
    refine ⟨_, ?_, .ready k hat hframe hpositive (hsame ▸ receiver) (hsame ▸ listening)
      (Option.some.inj hdepart).symm (Option.some.inj harrive).symm⟩
    rw [hsame]
    omega
  · obtain ⟨hok, hto⟩ := depart_sendto hdepart
    rw [toReceiver] at hto
    change some s.toSender = _ at harrive
    rw [toSender] at harrive
    refine ⟨_, ?_, .sent k hat hframe (hsent hok) (hsame ▸ receiver) (hsame ▸ listening) hto
      (Option.some.inj harrive).symm⟩
    rw [hsame, hpoint]
    simp only [sendTurns]
    omega

theorem lockstep_ready_receiver {k : Nat} (sender : s.sender.At file k)
    (frame : s.sender.state.Framed) (turns : 0 < sendTurns s.sender.state.point)
    (receiver : s.receiver.At file k) (listening : Listening s.receiver.state.point)
    (toReceiver : s.toReceiver = []) (toSender : s.toSender = [])
    (h : perfectStep setup file s (.receiver e) = some s') :
    ∃ m < 16 * (chunkCount b.val file - k) + 6 + sendTurns s.sender.state.point +
        receiveTurns s.receiver.state.point, Lockstep file s' m := by
  obtain ⟨hquiet, hstep, harrive, hdepart, hsame⟩ := perfectStep_receiver h
  by_cases hturns : 0 < receiveTurns s.receiver.state.point
  · obtain ⟨hat, hlistening, hdrop, hqueues⟩ :=
      Receiver.advance receiver listening hturns hquiet hstep
    rw [(hqueues _).1, toReceiver] at harrive
    rw [(hqueues _).2, toSender] at hdepart
    refine ⟨_, ?_, .ready k (hsame ▸ sender) (hsame ▸ frame) (hsame ▸ turns) hat hlistening
      (Option.some.inj harrive).symm (Option.some.inj hdepart).symm⟩
    rw [hsame]
    omega
  · exact (awaiting_receiver_idle (awaiting_of_turns listening hturns) toReceiver h).elim

theorem lockstep_sent_receiver {k : Nat} (sender : s.sender.At file k)
    (frame : s.sender.state.Framed) (waits : s.sender.state.point = .awaiting)
    (receiver : s.receiver.At file k) (listening : Listening s.receiver.state.point)
    (toReceiver : s.toReceiver = [dataPacket (UInt16.ofNat (k + 1)) (chunk b.val file k)])
    (toSender : s.toSender = [])
    (h : perfectStep setup file s (.receiver e) = some s') :
    ∃ m < 16 * (chunkCount b.val file - k) + 5 + receiveTurns s.receiver.state.point,
      Lockstep file s' m := by
  obtain ⟨hquiet, hstep, harrive, hdepart, hsame⟩ := perfectStep_receiver h
  by_cases hturns : 0 < receiveTurns s.receiver.state.point
  · obtain ⟨hat, hlistening, hdrop, hqueues⟩ :=
      Receiver.advance receiver listening hturns hquiet hstep
    rw [(hqueues _).1, toReceiver] at harrive
    rw [(hqueues _).2, toSender] at hdepart
    refine ⟨_, ?_, .sent k (hsame ▸ sender) (hsame ▸ frame) (hsame ▸ waits) hat hlistening
      (Option.some.inj harrive).symm (Option.some.inj hdepart).symm⟩
    omega
  · have hpoint := awaiting_of_turns listening hturns
    obtain ⟨result, rfl, -⟩ := receive_awaiting hpoint (Receiver.step_eq hstep).1
    cases result with
    | failed errno => cases harrive
    | datagram source bytes =>
        obtain ⟨rfl, hto⟩ := List.cons.inj (toReceiver.symm.trans (arrive_datagram harrive))
        obtain ⟨hat, harrived⟩ := Receiver.accept_block receiver hpoint sender.1 hstep
        change some s.toSender = _ at hdepart
        rw [toSender] at hdepart
        refine ⟨_, ?_, .writing k (hsame ▸ sender) (hsame ▸ frame) (hsame ▸ waits) hat harrived
          hto.symm (Option.some.inj hdepart).symm⟩
        omega

/-- An empty block is the one thing the receiver fails on. -/
theorem lockstep_writing_receiver {k : Nat} (sender : s.sender.At file k)
    (frame : s.sender.state.Framed) (waits : s.sender.state.point = .awaiting)
    (receiver : s.receiver.At file k)
    (arrived : s.receiver.state.point = .writing (chunk b.val file k))
    (toReceiver : s.toReceiver = []) (toSender : s.toSender = [])
    (h : perfectStep setup file s (.receiver e) = some s') :
    (∃ m < 16 * (chunkCount b.val file - k) + 4, Lockstep file s' m) ∨
      file.length % b.val = 0 ∧ ReceiverFailed s' := by
  obtain ⟨hquiet, hstep, harrive, hdepart, hsame⟩ := perfectStep_receiver h
  obtain ⟨ht, hwritten⟩ := Receiver.step_eq hstep
  obtain ⟨count, kept, rfl, -, heq⟩ := receive_writing arrived ht
  obtain rfl : count = _ := hquiet
  have hreceiver : s'.receiver =
      { state := s.receiver.state.onWritten (chunk b.val file k).length
        written := s.receiver.written ++ chunk b.val file k } :=
    Receiver.ext heq (by simpa [fileContents] using hwritten)
  have hat := Receiver.at_onWritten arrived receiver
  rw [← hreceiver] at hat
  -- `fwrite` of an empty block returns 0, which counts as a failure
  by_cases hempty : (chunk b.val file k).length = 0
  · refine Or.inr ⟨?_, ?_⟩
    · have hb := b.pos
      have hlast := eq_last_of_chunk_short b.pos sender.1 (by omega)
      rw [← chunk_last_length b.pos file, ← hlast, hempty]
    · rw [ReceiverFailed, heq, ReceiveState.onWritten, if_pos hempty]
      rcases s.receiver.state.fail_point _ with hp | hp
      · exact Or.inl ⟨_, hp⟩
      · exact Or.inr hp
  · refine Or.inl ⟨_, ?_, .acknowledging k (hsame ▸ sender) (hsame ▸ frame) (hsame ▸ waits) hat ?_
      ?_ ?_⟩
    · omega
    · rw [heq, ReceiveState.onWritten, if_neg hempty]
    · change some s.toReceiver = _ at harrive
      rw [toReceiver] at harrive
      exact (Option.some.inj harrive).symm
    · change some s.toSender = _ at hdepart
      rw [toSender] at hdepart
      exact (Option.some.inj hdepart).symm

theorem lockstep_acknowledging_receiver {k : Nat} (sender : s.sender.At file k)
    (frame : s.sender.state.Framed) (waits : s.sender.state.point = .awaiting)
    (receiver : s.receiver.At file k) (written : s.receiver.state.point = .acknowledging)
    (toReceiver : s.toReceiver = []) (toSender : s.toSender = [])
    (h : perfectStep setup file s (.receiver e) = some s') :
    ∃ m < 16 * (chunkCount b.val file - k) + 3, Lockstep file s' m := by
  obtain ⟨hquiet, hstep, harrive, hdepart, hsame⟩ := perfectStep_receiver h
  obtain ⟨ht, hwritten⟩ := Receiver.step_eq hstep
  obtain ⟨ok, rfl, heq⟩ := receive_acknowledging written ht
  have hnum : s.receiver.state.tx.currentBlockNumber = UInt16.ofNat (k + 1) := by
    have hat := receiver
    simp only [Receiver.At, written] at hat
    exact hat.2.2.1
  have hreceiver : s'.receiver =
      { state := s.receiver.state.onAcknowledged, written := s.receiver.written } :=
    Receiver.ext heq hwritten
  change some s.toReceiver = _ at harrive
  rw [toReceiver] at harrive
  obtain ⟨-, hto⟩ := depart_sendto hdepart
  rw [hnum, toSender] at hto
  obtain ⟨hat, ⟨hfull, hpoint⟩ | ⟨hshort, hpoint⟩⟩ :=
    Receiver.at_onAcknowledged written receiver
  · rw [← hreceiver] at hat
    rw [← heq] at hpoint
    refine ⟨_, ?_, .acked k (hsame ▸ sender) (hsame ▸ frame) (hsame ▸ waits) hfull hat
      (Or.inr (Or.inl hpoint)) (Option.some.inj harrive).symm hto⟩
    rw [hpoint]
    simp only [receiveTurns]
    omega
  · -- the short block was the last one
    rw [← hreceiver] at hat
    rw [← heq] at hpoint
    refine ⟨_, ?_, .answered k (hsame ▸ sender) (hsame ▸ frame) (hsame ▸ waits) hshort hat hpoint
      (Option.some.inj harrive).symm hto⟩
    omega

/-- The ACK of block `k` is taken in, and the outer loop test follows. -/
theorem acked_sender {k : Nat} (sender : s.sender.At file k)
    (waits : s.sender.state.point = .awaiting)
    (toSender : s.toSender = [ackPacket (UInt16.ofNat (k + 1))])
    (h : perfectStep setup file s (.sender e) = some s') :
    ∃ source, s'.sender.state =
        (s.sender.state.received source (ackPacket (UInt16.ofNat (k + 1)))).outerTest ∧
      s'.sender.pos = s.sender.pos ∧ s'.toSender = [] ∧ s'.toReceiver = s.toReceiver ∧
      s'.receiver = s.receiver := by
  obtain ⟨-, hstep, harrive, hdepart, hsame⟩ := perfectStep_sender h
  obtain ⟨ht, hpos, -⟩ := Sender.step_eq hstep
  obtain ⟨result, rfl, heq⟩ := transmit_awaiting waits ht
  cases result with
  | failed errno => cases harrive
  | datagram source bytes =>
      obtain ⟨rfl, hto⟩ := List.cons.inj (toSender.symm.trans (arrive_datagram harrive))
      have hnum := sender.2
      simp only [waits] at hnum
      refine ⟨source, ?_, (Option.some.inj hpos).symm, hto.symm,
        (Option.some.inj hdepart).symm, hsame⟩
      rw [heq]
      refine TransmitState.onResponse_ack _ _ (by simp) (opcodeOf_ackPacket _) ?_
      rw [blockNumberOf_ackPacket, hnum.2.1]

/-- The last ACK ends the transfer; any other ACK opens the next block. -/
theorem lockstep_acked_sender {k : Nat} (sender : s.sender.At file k)
    (frame : s.sender.state.Framed) (waits : s.sender.state.point = .awaiting)
    (full : (chunk b.val file k).length = b.val) (receiver : s.receiver.At file (k + 1))
    (listening : Listening s.receiver.state.point)
    (toReceiver : s.toReceiver = [])
    (toSender : s.toSender = [ackPacket (UInt16.ofNat (k + 1))])
    (h : perfectStep setup file s (.sender e) = some s') :
    ∃ m < 16 * (chunkCount b.val file - k) + 1 + receiveTurns s.receiver.state.point,
      Lockstep file s' m := by
  have hframe := TransmitState.framed_step frame (Sender.step_eq (perfectStep_sender h).2.1).1
  obtain ⟨source, heq, hpos, hback, hto, hsame⟩ := acked_sender sender waits toSender h
  have hk := sender.1
  have hat := sender.2
  simp only [waits] at hat
  obtain ⟨hp, hnum, -, -, hsent⟩ := hat
  rcases Sender.at_outerTest
      (t := s.sender.state.received source (ackPacket (UInt16.ofNat (k + 1))))
      hnum hsent with ⟨-, houter, hnext⟩ | ⟨hshort, -⟩
  · have hsender : s'.sender = { state := s'.sender.state, pos := s'.sender.pos } := rfl
    rw [← heq, ← hp, ← hpos, ← hsender] at hnext
    have hpoint : s'.sender.state.point = .nextBlock := by rw [heq, houter]
    refine ⟨_, ?_, .ready (k + 1) hnext hframe (by rw [hpoint]; decide) (hsame ▸ receiver)
      (hsame ▸ listening) (hto.trans toReceiver) hback⟩
    rw [hpoint, hsame]
    simp only [sendTurns]
    omega
  · exact absurd full hshort

theorem lockstep_answered_sender {k : Nat} (sender : s.sender.At file k)
    (waits : s.sender.state.point = .awaiting) (short : (chunk b.val file k).length ≠ b.val)
    (receiver : s.receiver.At file (k + 1))
    (finished : s.receiver.state.point = .returned .success)
    (toSender : s.toSender = [ackPacket (UInt16.ofNat (k + 1))])
    (h : perfectStep setup file s (.sender e) = some s') : Lockstep file s' 0 := by
  obtain ⟨source, heq, -, -, -, hsame⟩ := acked_sender sender waits toSender h
  have hat := sender.2
  simp only [waits] at hat
  obtain ⟨-, hnum, -, -, hsent⟩ := hat
  rcases Sender.at_outerTest
      (t := s.sender.state.received source (ackPacket (UInt16.ofNat (k + 1))))
      hnum hsent with ⟨hfull, -, -⟩ | ⟨-, houter⟩
  · exact absurd hfull short
  · exact .done (k + 1) (hsame ▸ receiver) (by rw [heq, houter]) (hsame ▸ finished)

/-- Every step stays in lockstep, one step closer to the end, unless the receiver fails
on the empty block behind a multiple of the block size. -/
theorem lockstep_step {m : Move} (h : Lockstep file s n)
    (hstep : perfectStep setup file s m = some s') :
    (∃ n' < n, Lockstep file s' n') ∨ file.length % b.val = 0 ∧ ReceiverFailed s' := by
  cases h with
  | ready k sender frame turns receiver listening toReceiver toSender =>
      cases m with
      | sender e =>
          exact Or.inl (lockstep_ready_sender sender frame turns receiver listening toReceiver
            toSender hstep)
      | receiver e =>
          exact Or.inl (lockstep_ready_receiver sender frame turns receiver listening toReceiver
            toSender hstep)
  | sent k sender frame waits receiver listening toReceiver toSender =>
      cases m with
      | sender e => exact (awaiting_sender_idle waits toSender hstep).elim
      | receiver e =>
          exact Or.inl (lockstep_sent_receiver sender frame waits receiver listening toReceiver
            toSender hstep)
  | writing k sender frame waits receiver arrived toReceiver toSender =>
      cases m with
      | sender e => exact (awaiting_sender_idle waits toSender hstep).elim
      | receiver e =>
          exact lockstep_writing_receiver sender frame waits receiver arrived toReceiver toSender
            hstep
  | acknowledging k sender frame waits receiver written toReceiver toSender =>
      cases m with
      | sender e => exact (awaiting_sender_idle waits toSender hstep).elim
      | receiver e =>
          exact Or.inl (lockstep_acknowledging_receiver sender frame waits receiver written
            toReceiver toSender hstep)
  | acked k sender frame waits full receiver listening toReceiver toSender =>
      cases m with
      | sender e =>
          exact Or.inl (lockstep_acked_sender sender frame waits full receiver listening
            toReceiver toSender hstep)
      | receiver e =>
          by_cases hturns : 0 < receiveTurns s.receiver.state.point
          · obtain ⟨hquiet, hmove, harrive, hdepart, hsame⟩ := perfectStep_receiver hstep
            obtain ⟨hat, hlistening, hdrop, hqueues⟩ :=
              Receiver.advance receiver listening hturns hquiet hmove
            rw [(hqueues _).1, toReceiver] at harrive
            rw [(hqueues _).2, toSender] at hdepart
            refine Or.inl ⟨_, ?_, .acked k (hsame ▸ sender) (hsame ▸ frame) (hsame ▸ waits) full hat
              hlistening (Option.some.inj harrive).symm (Option.some.inj hdepart).symm⟩
            omega
          · exact (awaiting_receiver_idle (awaiting_of_turns listening hturns) toReceiver
              hstep).elim
  | answered k sender frame waits short receiver finished toReceiver toSender =>
      cases m with
      | sender e =>
          exact Or.inl ⟨0, by omega,
            lockstep_answered_sender sender waits short receiver finished toSender hstep⟩
      | receiver e =>
          have hmove := (perfectStep_receiver hstep).2.1
          rw [Receiver.step_returned finished] at hmove
          cases hmove
  | done k receiver sent received =>
      cases m with
      | sender e =>
          have hmove := (perfectStep_sender hstep).2.1
          rw [Sender.step_returned sent] at hmove
          cases hmove
      | receiver e =>
          have hmove := (perfectStep_receiver hstep).2.1
          rw [Receiver.step_returned received] at hmove
          cases hmove

/-- Once the receiver has given up it never returns `true`. -/
theorem receiverFailed_step {m : Move} (h : ReceiverFailed s)
    (hstep : perfectStep setup file s m = some s') : ReceiverFailed s' := by
  cases m with
  | sender e =>
      rw [ReceiverFailed, (perfectStep_sender hstep).2.2.2.2]
      exact h
  | receiver e =>
      have hmove := (perfectStep_receiver hstep).2.1
      rcases h with ⟨reply, hp⟩ | hp
      · obtain ⟨ok, -, heq⟩ := receive_failing hp (Receiver.step_eq hmove).1
        exact Or.inr (by rw [heq])
      · rw [Receiver.step_returned hp] at hmove
        cases hmove

theorem not_stuck_of_sender {t : TransmitState b} {pos : Nat}
    {toSender toReceiver : List (List UInt8)}
    (ht : tftpTransmitFile setup.sendHost s.sender.state e = some t)
    (hpos : filePosition file s.sender.pos e = some pos) (hreads : e.ReadsWhole)
    (hquiet : Undisturbed e)
    (harrive : arrive s.toSender e = some toSender)
    (hdepart : depart s.toReceiver e = some toReceiver) :
    ¬ Stuck (perfectStep setup file) s := by
  intro hstuck
  have hnone := hstuck (.sender e)
  simp [perfectStep, Sender.step, ht, hpos, hreads, hquiet, harrive, hdepart] at hnone

theorem not_stuck_of_receiver {t : ReceiveState b} {toSender toReceiver : List (List UInt8)}
    (ht : tftpReceiveFile setup.receiveHost s.receiver.state e = some t)
    (hquiet : Undisturbed e) (harrive : arrive s.toReceiver e = some toReceiver)
    (hdepart : depart s.toSender e = some toSender) :
    ¬ Stuck (perfectStep setup file) s := by
  intro hstuck
  have hnone := hstuck (.receiver e)
  simp [perfectStep, Receiver.step, ht, hquiet, harrive, hdepart] at hnone

/-- In lockstep there is always a next call until both have returned. -/
theorem lockstep_stuck (h : Lockstep file s n) (hstuck : Stuck (perfectStep setup file) s) :
    TransferSucceeds file s ∧ file.length % b.val ≠ 0 := by
  cases h with
  | ready k sender frame turns receiver listening toReceiver toSender =>
      refine absurd hstuck ?_
      -- the sender's next call, whichever it is, is answered
      cases hpoint : s.sender.state.point with
      | entry =>
          exact not_stuck_of_sender (e := .poll false) (by simp [tftpTransmitFile, hpoint]; rfl)
            rfl trivial rfl rfl rfl
      | nextBlock =>
          exact not_stuck_of_sender (e := .poll false) (by simp [tftpTransmitFile, hpoint]; rfl)
            rfl trivial rfl rfl rfl
      | reading =>
          have hb := b.pos
          refine not_stuck_of_sender (e := .fread b.val ((file.drop s.sender.pos).take b.val)
            (decide (((file.drop s.sender.pos).take b.val).length < b.val)))
            (by simp [tftpTransmitFile, hpoint]; rfl) (if_pos ⟨rfl, rfl⟩)
            (Event.readsWhole_of_eof (List.length_take_le _ _)) ?_ rfl rfl
          rintro ⟨hnil, heof⟩
          rw [hnil, decide_eq_false_iff_not] at heof
          exact heof hb
      | attempt =>
          exact not_stuck_of_sender (e := .poll false) (by simp [tftpTransmitFile, hpoint]; rfl)
            rfl trivial rfl rfl rfl
      | sending =>
          exact not_stuck_of_sender
            (e := .sendto s.sender.state.op.peerAddress s.sender.state.outgoing true)
            (by simp [tftpTransmitFile, hpoint]; rfl) rfl trivial trivial rfl rfl
      | _ => simp [hpoint, sendTurns] at turns
  | sent k sender frame waits receiver listening toReceiver toSender =>
      refine absurd hstuck ?_
      rcases listening with hpoint | hpoint | hpoint
      · exact not_stuck_of_receiver (e := .poll false) (by simp [tftpReceiveFile, hpoint]; rfl)
          rfl rfl rfl
      · exact not_stuck_of_receiver (e := .poll false) (by simp [tftpReceiveFile, hpoint]; rfl)
          rfl rfl rfl
      · exact not_stuck_of_receiver (e := .recvfrom (dataPacketMaxSize b)
          (.datagram (localhost 0) (dataPacket (UInt16.ofNat (k + 1)) (chunk b.val file k))))
          (by simp [tftpReceiveFile, hpoint]; rfl) trivial
          (by rw [toReceiver]; exact if_pos rfl) rfl
  | writing k sender frame waits receiver arrived toReceiver toSender =>
      exact absurd hstuck (not_stuck_of_receiver
        (e := .fwrite (chunk b.val file k) (chunk b.val file k).length 0)
        (by simp [tftpReceiveFile, arrived]; rfl) rfl rfl rfl)
  | acknowledging k sender frame waits receiver written toReceiver toSender =>
      exact absurd hstuck (not_stuck_of_receiver
        (e := .sendto s.receiver.state.op.peerAddress
          (ackPacket s.receiver.state.tx.currentBlockNumber) true)
        (by simp [tftpReceiveFile, written]; rfl) trivial rfl rfl)
  | acked k sender frame waits full receiver listening toReceiver toSender =>
      exact absurd hstuck (not_stuck_of_sender (e := .recvfrom responsePacketMaxSize
        (.datagram (localhost 0) (ackPacket (UInt16.ofNat (k + 1)))))
        (by simp [tftpTransmitFile, waits]; rfl) rfl trivial trivial
        (by rw [toSender]; exact if_pos rfl) rfl)
  | answered k sender frame waits short receiver finished toReceiver toSender =>
      exact absurd hstuck (not_stuck_of_sender (e := .recvfrom responsePacketMaxSize
        (.datagram (localhost 0) (ackPacket (UInt16.ofNat (k + 1)))))
        (by simp [tftpTransmitFile, waits]; rfl) rfl trivial trivial
        (by rw [toSender]; exact if_pos rfl) rfl)
  | done k receiver sent received =>
      simp only [Receiver.At, received] at receiver
      obtain ⟨hfile, hmod⟩ := receiver.2.2 trivial
      exact ⟨⟨sent, received, hfile⟩, hmod⟩

end Lockstep

/-- Over the perfect channel every run comes to an end with both functions returning
`true` and the file delivered, for any number of blocks, exactly when the file is no
multiple of the block size. -/
theorem perfect_channel_delivers_iff {b : BlockSize} (setup : Setup b) (file : List UInt8) :
    AlwaysDelivers setup file ↔ file.length % b.val ≠ 0 := by
  obtain ⟨n, hstart⟩ := lockstep_start setup file
  constructor
  · rintro ⟨⟨bound, hbound⟩, hdelivers⟩
    -- the run that cannot go on is either in lockstep or failed
    obtain ⟨tr, s, hrun, hstuck⟩ := exists_stuck_run hbound
    have hinv : (∃ n, Lockstep file s n) ∨ ReceiverFailed s := by
      refine hrun.invariant (I := fun s => (∃ n, Lockstep file s n) ∨ ReceiverFailed s) ?_
        (Or.inl ⟨n, hstart⟩)
      rintro t m u (⟨n, hlock⟩ | hfailed) hstep
      · rcases lockstep_step hlock hstep with ⟨n', -, hlock'⟩ | ⟨-, hfailed⟩
        · exact Or.inl ⟨n', hlock'⟩
        · exact Or.inr hfailed
      · exact Or.inr (receiverFailed_step hfailed hstep)
    rcases hinv with ⟨n, hlock⟩ | ⟨reply, hpoint⟩ | hpoint
    · exact (lockstep_stuck hlock hstuck).2
    · have hsuccess := (hdelivers tr s hrun hstuck).2.1
      rw [hpoint] at hsuccess
      cases hsuccess
    · have hsuccess := (hdelivers tr s hrun hstuck).2.1
      rw [hpoint] at hsuccess
      cases hsuccess
  · intro hmod
    -- without the empty block every step is one of the lockstep
    have hrank : ∀ tr s, Run (perfectStep setup file) (Exchange.start setup) tr s →
        ∃ m, Lockstep file s m ∧ tr.length + m ≤ n := by
      intro tr s hrun
      refine hrun.length_le (I := Lockstep file) ?_ hstart
      intro t n m u hlock hstep
      rcases lockstep_step hlock hstep with hnext | ⟨hzero, -⟩
      · exact hnext
      · exact absurd hzero hmod
    refine ⟨⟨n, ?_⟩, ?_⟩
    · intro tr s hrun
      obtain ⟨m, -, hlen⟩ := hrank tr s hrun
      omega
    · intro tr s hrun hstuck
      obtain ⟨m, hlock, -⟩ := hrank tr s hrun
      exact (lockstep_stuck hlock hstuck).1

section FixedRuns

/-- The empty file: its one block is empty, and writing it counts as a failure. -/
def emptyFileMoves : List Move :=
  [.sender (.poll false), .sender (.poll false), .sender (.fread 8 [] true),
    .sender (.poll false), .sender (.sendto (localhost 50001) (dataPacket 1 []) true),
    .receiver (.poll false), .receiver (.poll false),
    .receiver (.recvfrom 12 (.datagram (localhost 40001) (dataPacket 1 []))),
    .receiver (.fwrite [] 0 0),
    .receiver (.sendto (localhost 40001) (errorPacket
      { code := 0, message := ascii "Writing to file failed", item := none }) true)]

set_option maxRecDepth 4000 in
theorem perfect_channel_empty_file :
    ∃ s, Run (perfectStep sampleSetup []) (Exchange.start sampleSetup) emptyFileMoves s ∧
      s.receiver.state.point = .returned .failure :=
  exists_run_of_exec (by decide)

end FixedRuns

end Stftpu
