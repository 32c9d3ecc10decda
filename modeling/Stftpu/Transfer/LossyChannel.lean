import Stftpu.Transfer.Parties

/-!
# A transfer over a lossy channel

The channel may lose, duplicate, delay and reorder the packets of both parties: a
packet in flight can be received at any time and any number of times, until it is
lost.  Receives may time out or fail, the user may ask for termination, sends and
reads may fail, and the sender may give up or skip ahead; only writes are complete, and no
read stops inside a block.

* `Consistent` — the invariant: every DATA packet in flight carries the block its
  number says, and every ACK in flight names a block the receiver has written.
* `lossy_channel_prefix` — what the receiver's file holds at every moment.
-/

namespace Stftpu

open Library

/-- A step of a party or a loss in the channel. -/
inductive LossyMove
  | party (m : Move)
  /-- The packet at an index on its way to the receiver is lost. -/
  | loseToReceiver (index : Nat)
  /-- The packet at an index on its way to the sender is lost. -/
  | loseToSender (index : Nat)
  deriving DecidableEq, Repr

/-- A datagram received is one in flight; it may arrive again. -/
def Carried (flight : List (List UInt8)) : Event → Prop
  | .recvfrom _ (.datagram _ bytes) => bytes ∈ flight
  | _ => True

instance (flight : List (List UInt8)) : DecidablePred (Carried flight)
  | .recvfrom _ (.datagram _ bytes) => inferInstanceAs (Decidable (bytes ∈ flight))
  | .recvfrom _ (.failed _) | .poll _ | .malloc _ _ | .fopen _ _ _ | .stat _ _ | .fread _ _ _
  | .fwrite _ _ _ | .fclose _ | .remove _ _ | .sendto _ _ _ | .close _ | .dataSocket _
  | .acquire _ | .create _ | .release => isTrue trivial

/-- `fwrite` writes all it is given, and `fclose` loses nothing of it. -/
def WritesAll : Event → Prop
  | .fwrite bytes count _ => count = bytes.length
  | .fclose lost => lost = 0
  | _ => True

instance : DecidablePred WritesAll
  | .fwrite bytes count _ => inferInstanceAs (Decidable (count = bytes.length))
  | .fclose lost => inferInstanceAs (Decidable (lost = 0))
  | .poll _ | .malloc _ _ | .fopen _ _ _ | .stat _ _ | .fread _ _ _ | .remove _ _
  | .sendto _ _ _ | .recvfrom _ _ | .close _ | .dataSocket _ | .acquire _ | .create _
  | .release => isTrue trivial

/-- The packets an event puts into flight. -/
def launched : Event → List (List UInt8)
  | .sendto _ packet true => [packet]
  | _ => []

/-- One move over a lossy channel. -/
def lossyStep {b : BlockSize} (setup : Setup b) (file : List UInt8) (s : Exchange b) :
    LossyMove → Option (Exchange b)
  | .party (.sender e) =>
      if Carried s.toSender e then
        (s.sender.step setup.sendHost file e).map fun sender =>
          { s with sender := sender, toReceiver := s.toReceiver ++ launched e }
      else
        none
  | .party (.receiver e) =>
      if Carried s.toReceiver e ∧ WritesAll e then
        (s.receiver.step setup.receiveHost e).map fun receiver =>
          { s with receiver := receiver, toSender := s.toSender ++ launched e }
      else
        none
  | .loseToReceiver index => some { s with toReceiver := s.toReceiver.eraseIdx index }
  | .loseToSender index => some { s with toSender := s.toSender.eraseIdx index }

/-- The blocks the receiver has written: those `prev_block_number` counts, and the one
whose ACK is being sent. -/
def blocksWritten {b : BlockSize} (r : Receiver b) : Nat :=
  if r.state.point = .acknowledging then
    r.state.prevBlockNumber.toNat + 1
  else
    r.state.prevBlockNumber.toNat

/-- What the receiver's file holds at a moment of the transfer. -/
structure HoldsPrefix {b : BlockSize} (file : List UInt8) (s : Exchange b) : Prop where
  written : s.receiver.written =
    (List.range (blocksWritten s.receiver)).flatMap (chunk b.val file)
  acknowledged : ∀ n : UInt16, ackPacket n ∈ s.toSender → n.toNat ≤ blocksWritten s.receiver
  complete : s.receiver.state.point = .returned .success → s.receiver.written = file

/-- A packet of the sender, at block `k` or behind it. -/
def SenderPacket (b : BlockSize) (file : List UInt8) (k : Nat) (packet : List UInt8) : Prop :=
  (∃ i ≤ k, i < chunkCount b.val file ∧
      packet = dataPacket (UInt16.ofNat (i + 1)) (chunk b.val file i)) ∨
    ∃ reply, packet = errorPacket reply

/-- A packet of the receiver, with `m` blocks written. -/
def ReceiverPacket (m : Nat) (packet : List UInt8) : Prop :=
  (∃ n ≤ m, packet = ackPacket (UInt16.ofNat n)) ∨ ∃ reply, packet = errorPacket reply

/-- The number of blocks in the file of a receiver at block `j`. -/
def blocksAt {b : BlockSize} (j : Nat) (r : Receiver b) : Nat :=
  if r.state.point = .acknowledging then j + 1 else j

/-- The sender is at block `k`, the receiver at block `j`, and the packets in flight are
theirs. -/
structure Consistent {b : BlockSize} (file : List UInt8) (k j : Nat) (s : Exchange b) :
    Prop where
  sender : s.sender.At file k
  framed : s.sender.state.Framed
  receiver : s.receiver.At file j
  bounded : j ≤ chunkCount b.val file
  toReceiver : ∀ packet ∈ s.toReceiver, SenderPacket b file k packet
  toSender : ∀ packet ∈ s.toSender, ReceiverPacket (blocksAt j s.receiver) packet

section Packets

variable {b : BlockSize} {host : Host} {file : List UInt8} {k j : Nat}
  {peer : SockAddr} {packet : List UInt8} {ok : Bool}

/-- What a sender at block `k` sends. -/
theorem Sender.sent_packet {s s' : Sender b} (h : s.At file k) (hframe : s.state.Framed)
    (hstep : s.step host file (.sendto peer packet ok) = some s') :
    SenderPacket b file k packet := by
  obtain ⟨ht, -⟩ := Sender.step_eq hstep
  obtain ⟨hk, hat⟩ := h
  obtain ⟨-, ⟨hpoint, rfl⟩ | ⟨reply, -, rfl⟩⟩ := transmit_sendto ht
  · simp only [hpoint] at hat
    simp only [TransmitState.Framed, hpoint] at hframe
    refine Or.inl ⟨k, le_refl k, hk, ?_⟩
    rw [TransmitState.outgoing_eq hframe.1, hat.2.1, hat.2.2.2]
  · exact Or.inr ⟨reply, rfl⟩

/-- What a receiver at block `j` sends. -/
theorem Receiver.sent_packet {r r' : Receiver b} (h : r.At file j)
    (hstep : r.step host (.sendto peer packet ok) = some r') :
    ReceiverPacket (blocksAt j r) packet := by
  obtain ⟨ht, -⟩ := Receiver.step_eq hstep
  obtain ⟨-, ⟨hpoint, rfl⟩ | ⟨reply, -, rfl⟩⟩ := receive_sendto ht
  · simp only [Receiver.At, hpoint] at h
    refine Or.inl ⟨j + 1, ?_, by rw [h.2.2.1]⟩
    rw [blocksAt, if_pos hpoint]
  · exact Or.inr ⟨reply, rfl⟩

theorem SenderPacket.mono {k' : Nat} (hk : k ≤ k') (h : SenderPacket b file k packet) :
    SenderPacket b file k' packet := by
  rcases h with ⟨i, hi, hcount, rfl⟩ | herror
  · exact Or.inl ⟨i, hi.trans hk, hcount, rfl⟩
  · exact Or.inr herror

theorem ReceiverPacket.mono {m m' : Nat} (hm : m ≤ m') (h : ReceiverPacket m packet) :
    ReceiverPacket m' packet := by
  rcases h with ⟨n, hn, rfl⟩ | herror
  · exact Or.inl ⟨n, hn.trans hm, rfl⟩
  · exact Or.inr herror

/-- With at most 65535 blocks no two of them share a number, and the receiver is never
one step from a number that comes again. -/
theorem SenderPacket.expected (hcount : chunkCount b.val file ≤ 65535)
    (hj : j ≤ chunkCount b.val file) (h : SenderPacket b file k packet) :
    Receiver.Expected b file j packet := by
  rcases h with ⟨i, -, hi, rfl⟩ | herror
  · refine Or.inl ⟨i, hi, rfl, ?_⟩
    intro heq
    have hmod := congrArg UInt16.toNat heq
    simp only [UInt16.toNat_ofNat'] at hmod
    omega
  · exact Or.inr herror

/-- What is launched by an event is what it sends. -/
theorem mem_launched {e : Event} (h : packet ∈ launched e) :
    ∃ peer, e = .sendto peer packet true := by
  cases e with
  | sendto peer sent ok =>
      cases ok with
      | true =>
          obtain rfl : packet = sent := by simpa [launched] using h
          exact ⟨peer, rfl⟩
      | false => simp [launched] at h
  | _ => simp [launched] at h

end Packets

section Invariant

variable {b : BlockSize} {setup : Setup b} {file : List UInt8} {s s' : Exchange b} {k j : Nat}

theorem consistent_start : Consistent file 0 0 (Exchange.start setup) :=
  { sender := Sender.at_start file _ _ _
    framed := trivial
    receiver := Receiver.at_start file _ _
    bounded := Nat.zero_le _
    toReceiver := by simp [Exchange.start]
    toSender := by simp [Exchange.start] }

theorem consistent_sender {e : Event} (h : Consistent file k j s)
    (hstep : lossyStep setup file s (.party (.sender e)) = some s') :
    ∃ k', Consistent file k' j s' := by
  simp only [lossyStep] at hstep
  split at hstep
  · obtain ⟨t, ht, rfl⟩ := Option.map_eq_some_iff.mp hstep
    have hframed := TransmitState.framed_step h.framed (Sender.step_eq ht).1
    have hto : ∀ packet ∈ s.toReceiver ++ launched e, SenderPacket b file k packet := by
      intro packet hmem
      rcases List.mem_append.mp hmem with hold | hnew
      · exact h.toReceiver packet hold
      · obtain ⟨peer, rfl⟩ := mem_launched hnew
        exact Sender.sent_packet h.sender h.framed ht
    rcases Sender.step_at h.sender h.framed ht with hsame | ⟨-, -, -, hnext⟩
    · exact ⟨k, { h with sender := hsame, framed := hframed, toReceiver := hto }⟩
    · exact ⟨k + 1, { h with
        sender := hnext
        framed := hframed
        toReceiver := fun packet hmem => (hto packet hmem).mono (Nat.le_succ k) }⟩
  · cases hstep

theorem consistent_receiver {e : Event} (hcount : chunkCount b.val file ≤ 65535)
    (h : Consistent file k j s)
    (hstep : lossyStep setup file s (.party (.receiver e)) = some s') :
    ∃ j', Consistent file k j' s' := by
  simp only [lossyStep] at hstep
  split at hstep
  · rename_i hallowed
    obtain ⟨hcarried, hwrites⟩ := hallowed
    obtain ⟨r, hr, rfl⟩ := Option.map_eq_some_iff.mp hstep
    have hto : ∀ m, blocksAt j s.receiver ≤ m →
        ∀ packet ∈ s.toSender ++ launched e, ReceiverPacket m packet := by
      intro m hm packet hmem
      rcases List.mem_append.mp hmem with hold | hnew
      · exact (h.toSender packet hold).mono hm
      · obtain ⟨peer, rfl⟩ := mem_launched hnew
        exact (Receiver.sent_packet h.receiver hr).mono hm
    by_cases hpoint : s.receiver.state.point = .acknowledging
    · obtain ⟨hj, hnext, houter⟩ := Receiver.step_acknowledges h.receiver hpoint hr
      refine ⟨j + 1, { h with receiver := hnext, bounded := hj, toSender := hto _ ?_ }⟩
      have hleft : r.state.point ≠ .acknowledging := by
        rcases houter with hp | hp
        · simp [hp]
        · simp [hp]
      simp [blocksAt, hpoint, hleft]
    · have hsame := Receiver.step_keeps h.receiver hpoint
        (by
          rintro size source bytes rfl
          exact (h.toReceiver bytes hcarried).expected hcount h.bounded)
        (by
          rintro bytes count kept rfl
          exact hwrites) hr
      refine ⟨j, { h with receiver := hsame, toSender := hto _ ?_ }⟩
      simp only [blocksAt, hpoint, if_false]
      split <;> omega
  · cases hstep

/-- Every move keeps the exchange consistent. -/
theorem consistent_step {m : LossyMove} (hcount : chunkCount b.val file ≤ 65535)
    (h : Consistent file k j s) (hstep : lossyStep setup file s m = some s') :
    ∃ k' j', Consistent file k' j' s' := by
  cases m with
  | party m =>
      cases m with
      | sender e =>
          obtain ⟨k', h'⟩ := consistent_sender h hstep
          exact ⟨k', j, h'⟩
      | receiver e =>
          obtain ⟨j', h'⟩ := consistent_receiver hcount h hstep
          exact ⟨k, j', h'⟩
  | loseToReceiver index =>
      obtain rfl := Option.some.inj hstep
      exact ⟨k, j, { h with
        toReceiver := fun packet hmem => h.toReceiver packet (List.mem_of_mem_eraseIdx hmem) }⟩
  | loseToSender index =>
      obtain rfl := Option.some.inj hstep
      exact ⟨k, j, { h with
        toSender := fun packet hmem => h.toSender packet (List.mem_of_mem_eraseIdx hmem) }⟩

/-- What the invariant says about the receiver's file. -/
theorem Consistent.holdsPrefix (hcount : chunkCount b.val file ≤ 65535)
    (h : Consistent file k j s) : HoldsPrefix file s := by
  have hj := h.bounded
  have hprev : s.receiver.state.prevBlockNumber.toNat = j := by
    rw [Receiver.prev_of_at h.receiver, UInt16.toNat_ofNat']
    omega
  have hblocks : blocksWritten s.receiver = blocksAt j s.receiver := by
    rw [blocksWritten, blocksAt, hprev]
  have hbound : blocksAt j s.receiver ≤ chunkCount b.val file := by
    rw [blocksAt]
    split
    · rename_i hpoint
      have hat := h.receiver
      simp only [Receiver.At, hpoint] at hat
      exact hat.2.2.2.1
    · exact hj
  refine ⟨?_, ?_, ?_⟩
  · rw [hblocks, flatMap_chunk]
    exact Receiver.written_of_at h.receiver
  · intro n hn
    rw [hblocks]
    rcases h.toSender _ hn with ⟨i, hi, heq⟩ | ⟨reply, heq⟩
    · have hnum := congrArg blockNumberOf heq
      simp only [blockNumberOf_ackPacket] at hnum
      rw [hnum, UInt16.toNat_ofNat']
      omega
    · have hop := congrArg opcodeOf heq
      simp at hop
  · intro hpoint
    have hat := h.receiver
    simp only [Receiver.At, hpoint] at hat
    exact (hat.2.2 trivial).1

end Invariant

/-- At every moment of a transfer of at most 65535 blocks over a lossy channel the
receiver's file is the concatenation of the first blocks of the sender's file, ACKs in
flight are for blocks already written, and a receiver that returns `true` has the whole
file. -/
theorem lossy_channel_prefix {b : BlockSize} (setup : Setup b) (file : List UInt8)
    (hcount : chunkCount b.val file ≤ 65535) {tr : List LossyMove} {s : Exchange b}
    (h : Run (lossyStep setup file) (Exchange.start setup) tr s) : HoldsPrefix file s := by
  have hinv : ∃ k j, Consistent file k j s := by
    refine h.invariant (I := fun s => ∃ k j, Consistent file k j s) ?_ ⟨0, 0, consistent_start⟩
    rintro t m u ⟨k, j, ht⟩ hstep
    exact consistent_step hcount ht hstep
  obtain ⟨k, j, hs⟩ := hinv
  exact hs.holdsPrefix hcount

section FixedRuns

/-- A file of three bytes goes as one short block, which arrives and is written. -/
def shortFileMoves : List LossyMove :=
  [.party (.sender (.poll false)), .party (.sender (.poll false)),
    .party (.sender (.fread 8 (ascii "abc") true)), .party (.sender (.poll false)),
    .party (.sender (.sendto (localhost 50001) (dataPacket 1 (ascii "abc")) true)),
    .party (.receiver (.poll false)), .party (.receiver (.poll false)),
    .party (.receiver (.recvfrom 12 (.datagram (localhost 40001) (dataPacket 1 (ascii "abc"))))),
    .party (.receiver (.fwrite (ascii "abc") 3 0))]

/-- The ACK of that block is sent and lost. -/
def shortFileLostAck : List LossyMove :=
  shortFileMoves ++
    [.party (.receiver (.sendto (localhost 40001) (ackPacket 1) true)), .loseToSender 0]

theorem lossy_channel_prefix_lost_ack :
    ∃ s, Run (lossyStep sampleSetup (ascii "abc")) (Exchange.start sampleSetup)
        shortFileLostAck s ∧ s.receiver.state.point = .returned .success ∧
      HoldsPrefix (ascii "abc") s := by
  have hrun : ∃ s, Run (lossyStep sampleSetup (ascii "abc")) (Exchange.start sampleSetup)
      shortFileLostAck s ∧ s.receiver.state.point = .returned .success :=
    exists_run_of_exec (by decide)
  obtain ⟨s, hs, hpoint⟩ := hrun
  exact ⟨s, hs, hpoint, lossy_channel_prefix sampleSetup (ascii "abc") (by decide) hs⟩

/-- Between the write of a block and the count behind its ACK the file is one block
ahead of `prev_block_number`. -/
theorem lossy_channel_block_ahead :
    ∃ s, Run (lossyStep sampleSetup (ascii "abc")) (Exchange.start sampleSetup)
        shortFileMoves s ∧
      s.receiver.written ≠
        (List.range s.receiver.state.prevBlockNumber.toNat).flatMap
          (chunk sampleBlockSize.val (ascii "abc")) :=
  exists_run_of_exec (by decide)

end FixedRuns

end Stftpu
