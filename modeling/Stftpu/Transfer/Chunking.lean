import Stftpu.Transfer.Parties

/-!
# What a sender puts on the wire

Every DATA packet of `tftp_transmit_file`, resends included, over any run and any responses.

* `dataSent` — the DATA packets of a trace.
* `SentInBlocks` — these are the blocks of the file in order, each sent one to
  `max_retry_count` times in a row without a change, and `total_file_bytes_transmitted`
  counts each block once.
* `Answered` — the function has been given certain responses, and no other call failed.
* `transmit_sends_in_blocks` — there is such a run over any responses, and behind every run
  the packets sent are the blocks.
-/

namespace Stftpu

open Library

/-- A DATA packet that was sent. -/
def dataOf : Event → Option (List UInt8)
  | .sendto _ packet true =>
      if opcodeOf packet = TFTPOpcode.data.code then some packet else none
  | _ => none

/-- The DATA packets sent, resends included. -/
def dataSent (tr : List Event) : List (List UInt8) :=
  tr.filterMap dataOf

theorem dataSent_snoc (tr : List Event) (e : Event) :
    dataSent (tr ++ [e]) = dataSent tr ++ (dataOf e).toList := by
  cases he : dataOf e <;> simp [dataSent, he]

/-- The packet of block `k` of a file, counted from zero. -/
def blockPacket (b : BlockSize) (file : List UInt8) (k : Nat) : List UInt8 :=
  dataPacket (UInt16.ofNat (k + 1)) (chunk b.val file k)

/-- What was sent is the front of the file, block by block, and the sender has counted it.
Block `k + 1` carries bytes `k * b` to `(k + 1) * b` of the file, as far as it goes. -/
structure SentInBlocks {b : BlockSize} (file : List UInt8) (counts : List Nat)
    (packets : List (List UInt8)) (s : Sender b) : Prop where
  packets_eq : packets = repeated counts (blockPacket b file)
  count_pos : ∀ c ∈ counts, 0 < c
  count_le : ∀ c ∈ counts, c ≤ maxRetryCount
  blocks_le : counts.length ≤ chunkCount b.val file
  full : ∀ k, k + 1 < counts.length → (chunk b.val file k).length = b.val
  total : s.state.tx.totalFileBytesTransmitted = min (counts.length * b.val) file.length
  returned : s.state.point = .returned .success →
    counts.length = file.length / b.val + 1 ∧
      (chunk b.val file (file.length / b.val)).length < b.val

/-- `should_terminate` is not set, and `sendto` sends what it is given. -/
def Unhindered : Event → Prop
  | .poll set => set = false
  | .sendto _ _ ok => ok = true
  | _ => True

/-- The function has been given these responses, until it returned. -/
structure Answered {b : BlockSize} (results : List RecvResult) (tr : List Event) (s : Sender b) :
    Prop where
  unhindered : ∀ e ∈ tr, Unhindered e
  received : resultsOf tr <+: results
  ended : s.state.point = .awaiting ∧ resultsOf tr = results ∨
    ∃ exit, s.state.point = .returned exit

namespace Sender

variable {b : BlockSize} {host : Host} {file : List UInt8} {s s' : Sender b} {e : Event}
  {k : Nat} {counts : List Nat} {packets : List (List UInt8)} {tr : List Event}

/-- Behind the blocks counted, the packets are theirs and the bytes are counted once. -/
structure Counted (file : List UInt8) (counts : List Nat) (packets : List (List UInt8))
    (s : Sender b) : Prop where
  packets_eq : packets = repeated counts (blockPacket b file)
  bounds : ∀ c ∈ counts, 0 < c ∧ c ≤ maxRetryCount
  total : s.state.tx.totalFileBytesTransmitted = min (counts.length * b.val) file.length

/-- How many blocks a sender at block `k` has sent, and how often the last of them. -/
def Standing (file : List UInt8) (k : Nat) (counts : List Nat) (s : Sender b) : Prop :=
  match s.state.point with
  | .entry | .nextBlock | .reading => counts.length = k
  | .attempt | .sending =>
      s.state.tx.resendCounter = 0 ∧ counts.length = k ∨
        ∃ before, counts = before ++ [s.state.tx.resendCounter] ∧ before.length = k
  | .awaiting =>
      ∃ before, counts = before ++ [s.state.tx.resendCounter + 1] ∧ before.length = k
  | .returned .success => counts.length = k + 1 ∧ (chunk b.val file k).length ≠ b.val
  | _ => counts.length ≤ k + 1

/-- The sender stands at some block of the file and has sent what lies before it. -/
def Progress (file : List UInt8) (s : Sender b) (packets : List (List UInt8)) : Prop :=
  ∃ k counts, s.At file k ∧ Standing file k counts s ∧ Counted file counts packets s

theorem standing_le (h : Standing file k counts s) : counts.length ≤ k + 1 := by
  unfold Standing at h
  split at h
  · omega
  · omega
  · omega
  · rcases h with ⟨-, hlen⟩ | ⟨before, rfl, hlen⟩
    · omega
    · simp [hlen]
  · rcases h with ⟨-, hlen⟩ | ⟨before, rfl, hlen⟩
    · omega
    · simp [hlen]
  · obtain ⟨before, rfl, hlen⟩ := h
    simp [hlen]
  · omega
  · exact h

theorem standing_fail {t : TransmitState b} {reply : ErrorReply} {pos : Nat}
    (h : counts.length ≤ k + 1) :
    Standing file k counts { state := t.fail reply, pos := pos } := by
  rcases t.fail_point reply with hp | hp
  · simpa [Standing, hp] using h
  · simpa [Standing, hp] using h

theorem dataOf_of_not_data (h : ∀ peer packet ok, e = .sendto peer packet ok →
    opcodeOf packet ≠ TFTPOpcode.data.code) : dataOf e = none := by
  cases e with
  | sendto peer packet ok =>
      cases ok with
      | true => simp [dataOf, h peer packet true rfl]
      | false => rfl
  | _ => rfl

/-- Whatever was received, the bytes counted stay as they are. -/
theorem onResponse_total (t : TransmitState b) (result : RecvResult) :
    (t.onResponse host result).tx.totalFileBytesTransmitted =
      t.tx.totalFileBytesTransmitted := by
  rcases t.onResponse_cases host result with
    ⟨source, bytes, -, ⟨-, heq⟩ | ⟨-, -, heq⟩ | ⟨-, -, heq⟩⟩ |
    ⟨errno, -, ⟨-, heq⟩ | ⟨-, reply, heq⟩⟩ <;>
  · rw [heq]
    simp [TransmitState.received]

/-- The counter of bytes moves nowhere but behind `sendto`, and no DATA packet is sent
anywhere else. -/
theorem step_silent (hnot : s.state.point ≠ .sending) (hstep : s.step host file e = some s') :
    dataOf e = none ∧
      s'.state.tx.totalFileBytesTransmitted = s.state.tx.totalFileBytesTransmitted := by
  obtain ⟨ht, -⟩ := step_eq hstep
  obtain ⟨t', pos'⟩ := s'
  cases hpoint : s.state.point with
  | entry =>
      obtain ⟨set, rfl, rfl⟩ := transmit_entry hpoint ht
      cases set with
      | true => exact ⟨rfl, by simp⟩
      | false => exact ⟨rfl, by simp [TransmitState.begin]⟩
  | nextBlock =>
      obtain ⟨set, rfl, rfl⟩ := transmit_nextBlock hpoint ht
      cases set with
      | true => exact ⟨rfl, by simp⟩
      | false => exact ⟨rfl, rfl⟩
  | reading =>
      obtain ⟨bytes, eof, rfl, -, rfl⟩ := transmit_reading hpoint ht
      refine ⟨rfl, ?_⟩
      simp only [TransmitState.onRead]
      split <;> simp
  | attempt =>
      obtain ⟨set, rfl, rfl⟩ := transmit_attempt hpoint ht
      cases set with
      | true => exact ⟨rfl, by simp⟩
      | false => exact ⟨rfl, rfl⟩
  | sending => exact absurd hpoint hnot
  | awaiting =>
      obtain ⟨result, rfl, rfl⟩ := transmit_awaiting hpoint ht
      exact ⟨rfl, onResponse_total _ _⟩
  | failing reply =>
      obtain ⟨ok, rfl, rfl⟩ := transmit_failing hpoint ht
      -- an ERROR packet is no DATA packet
      refine ⟨dataOf_of_not_data ?_, rfl⟩
      intro peer packet ok' he
      obtain ⟨-, rfl, -⟩ := Event.sendto.inj he
      rw [opcodeOf_errorPacket]
      decide
  | returned exit =>
      rw [transmit_returned hpoint] at ht
      cases ht

/-- The test of the outer loop, behind a block that has been sent. -/
theorem standing_outerTest {t : TransmitState b} (hk : k < chunkCount b.val file)
    (hnum : t.tx.currentBlockNumber = UInt16.ofNat (k + 1))
    (hsent : t.tx.bytesSent = sizeofPacket + (chunk b.val file k).length)
    (hlen : counts.length = k + 1) :
    ∃ k', At file k' ⟨t.outerTest, k * b.val + (chunk b.val file k).length⟩ ∧
      Standing file k' counts ⟨t.outerTest, k * b.val + (chunk b.val file k).length⟩ := by
  rcases at_outerTest hnum hsent with ⟨-, heq, hnext⟩ | ⟨hshort, heq⟩
  · refine ⟨k + 1, hnext, ?_⟩
    rw [heq]
    exact hlen
  · rw [heq]
    exact ⟨k, ⟨hk, trivial⟩, hlen, hshort⟩

/-- What a response leads to: whatever was received, the block in the packet is still
block `k`, and has been sent once more than the counter says. -/
theorem standing_onResponse {result : RecvResult} (h : s.At file k)
    (hstand : Standing file k counts s) (hpoint : s.state.point = .awaiting) :
    ∃ k', At file k' ⟨s.state.onResponse host result, s.pos⟩ ∧
      Standing file k' counts ⟨s.state.onResponse host result, s.pos⟩ := by
  have hle := standing_le hstand
  obtain ⟨hk, hat⟩ := h
  simp only [hpoint] at hat
  obtain ⟨hp, hnum, hread, hpayload, hsent⟩ := hat
  simp only [Standing, hpoint] at hstand
  obtain ⟨before, rfl, hbefore⟩ := hstand
  -- with this attempt the counts reach the block itself
  have hlen : (before ++ [s.state.tx.resendCounter + 1]).length = k + 1 := by simp [hbefore]
  have hfail : ∀ (t : TransmitState b) reply,
      At file k ⟨t.fail reply, s.pos⟩ ∧
        Standing file k (before ++ [s.state.tx.resendCounter + 1]) ⟨t.fail reply, s.pos⟩ :=
    fun t reply => ⟨at_fail hk, standing_fail hle⟩
  -- another turn sends the same block once more, and behind the last turn the next one
  have hretry : ∀ t : TransmitState b, t.tx.currentBlockNumber = UInt16.ofNat (k + 1) →
      t.tx.bytesSent = sizeofPacket + (chunk b.val file k).length →
      t.tx.latestFileBytesRead = (chunk b.val file k).length →
      t.payload = chunk b.val file k → t.tx.resendCounter = s.state.tx.resendCounter →
      ∃ k', At file k' ⟨t.retry, s.pos⟩ ∧
        Standing file k' (before ++ [s.state.tx.resendCounter + 1]) ⟨t.retry, s.pos⟩ := by
    intro t htnum htsent htread htpayload hcounter
    unfold TransmitState.retry
    split
    · exact ⟨k, hfail t _⟩
    · by_cases hlt : t.tx.resendCounter + 1 < maxRetryCount
      · rw [TransmitState.innerTest_lt _ hlt]
        refine ⟨k, ⟨hk, hp, htnum, htread, htpayload⟩, Or.inr ⟨before, ?_, hbefore⟩⟩
        rw [hcounter]
      · rw [TransmitState.innerTest_ge _ hlt, hp]
        exact standing_outerTest hk htnum htsent hlen
  rcases s.state.onResponse_cases host result with
    ⟨source, bytes, -, ⟨-, heq⟩ | ⟨-, -, heq⟩ | ⟨-, -, heq⟩⟩ |
    ⟨errno, -, ⟨-, heq⟩ | ⟨-, reply, heq⟩⟩
  · rw [heq]
    exact ⟨k, ⟨hk, trivial⟩, hle⟩
  · rw [heq, hp]
    exact standing_outerTest hk hnum hsent hlen
  · rw [heq]
    exact hretry _ hnum hsent hread hpayload rfl
  · rw [heq]
    exact hretry _ hnum hsent hread hpayload rfl
  · rw [heq]
    exact ⟨k, hfail _ reply⟩

/-- The block goes out, the first time or once more. -/
theorem progress_onSent {peer : SockAddr} (hat : s.At file k)
    (hstand : Standing file k counts s) (hcounted : Counted file counts packets s)
    (hframe : s.state.Framed) (hpoint : s.state.point = .sending) :
    Progress file ⟨s.state.onSent true, s.pos⟩
      (packets ++ (dataOf (.sendto peer s.state.outgoing true)).toList) := by
  obtain ⟨hk, hat⟩ := hat
  simp only [hpoint] at hat
  obtain ⟨hp, hnum, hread, hpayload⟩ := hat
  simp only [TransmitState.Framed, hpoint] at hframe
  simp only [Standing, hpoint] at hstand
  obtain ⟨rfl, hbounds, htotal⟩ := hcounted
  have hpacket : dataOf (.sendto peer s.state.outgoing true) = some (blockPacket b file k) := by
    rw [TransmitState.outgoing_eq hframe.1, hnum, hpayload]
    simp [dataOf, blockPacket, TFTPOpcode.code]
  have hat' : At file k ⟨s.state.onSent true, s.pos⟩ := by
    refine ⟨hk, hp, hnum, hread, hpayload, ?_⟩
    show (↑(sizeofPacket + s.state.tx.latestFileBytesRead) : Int) = _
    rw [hread]
    rfl
  -- the block starts inside the file, so what is counted never exceeds it
  have hsize : k * b.val ≤ file.length := by
    have hdiv : k ≤ file.length / b.val := by
      unfold chunkCount at hk
      omega
    exact (Nat.le_div_iff_mul_le b.pos).mp hdiv
  rw [hpacket]
  rcases hstand with ⟨hzero, hlen⟩ | ⟨before, rfl, hbefore⟩
  · -- the first time: the bytes of the block are counted
    subst hlen
    refine ⟨counts.length, counts ++ [1], hat', ⟨counts, ?_, rfl⟩, ?_, ?_, ?_⟩
    · show counts ++ [1] = counts ++ [s.state.tx.resendCounter + 1]
      rw [hzero]
    · exact (repeated_first counts _).symm
    · intro c hc
      rcases List.mem_append.mp hc with hold | hnew
      · exact hbounds c hold
      · obtain rfl := List.mem_singleton.mp hnew
        decide
    · show (if s.state.tx.resendCounter = 0 then _ else _) = _
      rw [if_pos hzero, htotal, hread, List.length_append, List.length_singleton,
        min_succ_mul b.val file hsize]
  · -- once more: they are not
    have hpos : 0 < s.state.tx.resendCounter := (hbounds _ (by simp)).1
    refine ⟨k, before ++ [s.state.tx.resendCounter + 1], hat', ⟨before, rfl, hbefore⟩, ?_, ?_, ?_⟩
    · rw [repeated_again, hbefore]
      rfl
    · intro c hc
      rcases List.mem_append.mp hc with hold | hnew
      · exact hbounds c (List.mem_append.mpr (Or.inl hold))
      · obtain rfl := List.mem_singleton.mp hnew
        have := hframe.2
        omega
    · show (if s.state.tx.resendCounter = 0 then _ else _) = _
      rw [if_neg (by omega), htotal]
      simp

/-- Every step adds the block it sends, if it sends one. -/
theorem step_progress (h : Progress file s packets) (hframe : s.state.Framed)
    (hstep : s.step host file e = some s') :
    Progress file s' (packets ++ (dataOf e).toList) := by
  obtain ⟨k, counts, hat, hstand, hcounted⟩ := h
  obtain ⟨ht, hpos, -⟩ := step_eq hstep
  by_cases hsending : s.state.point = .sending
  · obtain ⟨ok, rfl, htx⟩ := transmit_sending hsending ht
    obtain ⟨t', pos'⟩ := s'
    obtain rfl : s.pos = pos' := by simpa using hpos
    obtain rfl : t' = s.state.onSent ok := htx
    cases ok with
    | true => exact progress_onSent hat hstand hcounted hframe hsending
    | false =>
        refine ⟨k, counts, at_fail hat.1, standing_fail (standing_le hstand), ?_⟩
        refine ⟨by simpa [dataOf] using hcounted.packets_eq, hcounted.bounds, ?_⟩
        simpa [TransmitState.onSent] using hcounted.total
  · -- any other call sends no block and leaves the counter alone
    obtain ⟨hsilent, htotal⟩ := step_silent hsending hstep
    have hkeeps : ∀ k', s'.At file k' → Standing file k' counts s' →
        Progress file s' (packets ++ (dataOf e).toList) := by
      intro k' hat' hstand'
      refine ⟨k', counts, hat', hstand', ?_, hcounted.bounds, htotal.trans hcounted.total⟩
      simpa [hsilent] using hcounted.packets_eq
    have hsame : s.state.point ≠ .awaiting → s'.At file k :=
      fun hnot => step_same hat hframe hnot hstep
    have hle := standing_le hstand
    obtain ⟨t', pos'⟩ := s'
    cases hpoint : s.state.point with
    | entry =>
        refine hkeeps k (hsame (by simp [hpoint])) ?_
        simp only [Standing, hpoint] at hstand
        obtain ⟨set, rfl, rfl⟩ := transmit_entry hpoint ht
        cases set with
        | true => exact standing_fail hle
        | false => simpa [Standing, TransmitState.begin, TransmitState.outerTest] using hstand
    | nextBlock =>
        refine hkeeps k (hsame (by simp [hpoint])) ?_
        simp only [Standing, hpoint] at hstand
        obtain ⟨set, rfl, rfl⟩ := transmit_nextBlock hpoint ht
        cases set with
        | true => exact standing_fail hle
        | false => exact hstand
    | reading =>
        refine hkeeps k (hsame (by simp [hpoint])) ?_
        simp only [Standing, hpoint] at hstand
        simp only [TransmitState.Framed, hpoint] at hframe
        obtain ⟨bytes, eof, rfl, -, rfl⟩ := transmit_reading hpoint ht
        have hresend := hframe.2
        simp only [TransmitState.onRead]
        split
        · exact standing_fail hle
        · rw [TransmitState.innerTest_lt _ (by simp [hresend, maxRetryCount])]
          exact Or.inl ⟨hresend, hstand⟩
    | attempt =>
        refine hkeeps k (hsame (by simp [hpoint])) ?_
        simp only [Standing, hpoint] at hstand
        obtain ⟨set, rfl, rfl⟩ := transmit_attempt hpoint ht
        cases set with
        | true => exact standing_fail hle
        | false => exact hstand
    | sending => exact absurd hpoint hsending
    | awaiting =>
        obtain ⟨result, rfl, rfl⟩ := transmit_awaiting hpoint ht
        obtain rfl : s.pos = pos' := by simpa using hpos
        have hnext : ∃ k', At file k' ⟨s.state.onResponse host result, s.pos⟩ ∧
            Standing file k' counts ⟨s.state.onResponse host result, s.pos⟩ :=
          standing_onResponse hat hstand hpoint
        obtain ⟨k', hat', hstand'⟩ := hnext
        exact hkeeps k' hat' hstand'
    | failing reply =>
        refine hkeeps k (hsame (by simp [hpoint])) ?_
        obtain ⟨ok, rfl, rfl⟩ := transmit_failing hpoint ht
        exact hle
    | returned exit =>
        rw [transmit_returned hpoint] at ht
        cases ht

/-- What the invariant says of what was sent. -/
theorem sentInBlocks_of_progress (h : Progress file s packets) :
    ∃ counts, SentInBlocks file counts packets s := by
  obtain ⟨k, counts, ⟨hk, -⟩, hstand, hcounted⟩ := h
  have hle := standing_le hstand
  have hblocks : counts.length ≤ chunkCount b.val file := by omega
  refine ⟨counts, hcounted.packets_eq, fun c hc => (hcounted.bounds c hc).1,
    fun c hc => (hcounted.bounds c hc).2, hblocks, ?_, hcounted.total, ?_⟩
  · intro i hi
    exact chunk_full_of_lt (by omega)
  · intro hpoint
    simp only [Standing, hpoint] at hstand
    obtain ⟨hlen, hshort⟩ := hstand
    have hlast : k = file.length / b.val := eq_last_of_chunk_short b.pos hk hshort
    rw [← hlast]
    exact ⟨hlen, lt_of_le_of_ne (chunk_length_le _ _ _) hshort⟩

/-! ### The run over given responses -/

/-- The sender gets to its next receive, or to its return, without one. -/
def SettlesUnhindered (host : Host) (file : List UInt8) : Sender b → Prop :=
  Settles (step host file) resultOf Unhindered (fun s => s.state.point = .awaiting)
    (fun s => ∃ exit, s.state.point = .returned exit)

theorem settles_fail (t : TransmitState b) (reply : ErrorReply) (pos : Nat) :
    SettlesUnhindered host file ⟨t.fail reply, pos⟩ := by
  rcases t.fail_point reply with hp | hp
  · refine Settles.of_step (.sendto (t.fail reply).op.peerAddress (errorPacket reply) true)
      ⟨{ t.fail reply with point := .returned .failure }, pos⟩ ?_ rfl rfl ?_
    · exact step_of (by simp [tftpTransmitFile, hp]) rfl trivial
    · exact Settles.of_ready (Or.inr ⟨.failure, rfl⟩)
  · exact Settles.of_ready (Or.inr ⟨.failure, hp⟩)

/-- An attempt sends the block. -/
theorem settles_attempt (t : TransmitState b) (hpoint : t.point = .attempt) (pos : Nat) :
    SettlesUnhindered host file ⟨t, pos⟩ := by
  refine Settles.of_step (.poll false) ⟨{ t with point := .sending }, pos⟩ ?_ rfl rfl ?_
  · exact step_of (by simp [tftpTransmitFile, hpoint]) rfl trivial
  refine Settles.of_step (.sendto t.op.peerAddress t.outgoing true)
    ⟨{ t with point := .sending }.onSent true, pos⟩ ?_ rfl rfl ?_
  · exact step_of (by simp [tftpTransmitFile, TransmitState.outgoing]) rfl trivial
  · exact Settles.of_ready (Or.inl rfl)

/-- A new block is read and sent. -/
theorem settles_nextBlock (t : TransmitState b) (hpoint : t.point = .nextBlock) (pos : Nat) :
    SettlesUnhindered host file ⟨t, pos⟩ := by
  have hb := b.pos
  have hlen : ((file.drop pos).take b.val).length ≤ b.val := List.length_take_le _ _
  refine Settles.of_step (.poll false) ⟨t.startBlock, pos⟩ ?_ rfl rfl ?_
  · exact step_of (by simp [tftpTransmitFile, hpoint]) rfl trivial
  refine Settles.of_step
    (.fread b.val ((file.drop pos).take b.val)
      (decide (((file.drop pos).take b.val).length < b.val)))
    ⟨t.startBlock.onRead ((file.drop pos).take b.val)
        (decide (((file.drop pos).take b.val).length < b.val)),
      pos + ((file.drop pos).take b.val).length⟩ ?_ trivial rfl ?_
  · refine step_of ?_ ?_ (Event.readsWhole_of_eof hlen)
    · simp [tftpTransmitFile, TransmitState.startBlock]
    · simp [filePosition]
  · have hread : ¬ (((file.drop pos).take b.val).length = 0 ∧
        decide (((file.drop pos).take b.val).length < b.val) = false) := by
      rintro ⟨hnone, hfull⟩
      rw [decide_eq_false_iff_not] at hfull
      omega
    simp only [TransmitState.onRead, if_neg hread]
    rw [TransmitState.innerTest_lt _ (by simp [TransmitState.startBlock, maxRetryCount])]
    exact settles_attempt _ rfl _

theorem settles_outerTest (t : TransmitState b) (pos : Nat) :
    SettlesUnhindered host file ⟨t.outerTest, pos⟩ := by
  rcases t.outerTest_point with hp | hp
  · exact settles_nextBlock _ hp pos
  · exact Settles.of_ready (Or.inr ⟨.success, hp⟩)

/-- Whatever a response is taken for, the sender settles. -/
theorem settles_onResponse (t : TransmitState b) (r : RecvResult) (pos : Nat) :
    SettlesUnhindered host file ⟨t.onResponse host r, pos⟩ := by
  have hretry : ∀ u : TransmitState b, SettlesUnhindered host file ⟨u.retry, pos⟩ := by
    intro u
    unfold TransmitState.retry
    split
    · exact settles_fail _ _ _
    · unfold TransmitState.innerTest
      split
      · exact settles_attempt _ rfl _
      · exact settles_outerTest _ _
  cases r with
  | failed errno =>
      simp only [TransmitState.onResponse]
      split
      · exact hretry _
      · exact settles_fail _ _ _
  | datagram source bytes =>
      simp only [TransmitState.onResponse]
      split
      · exact Settles.of_ready (Or.inr ⟨.peerError, rfl⟩)
      · split
        · exact settles_outerTest _ _
        · exact hretry _

/-- There is a run over any responses. -/
theorem exists_run_answered (op : OperationData) (tx : TransferData b)
    (results : List RecvResult) :
    ∃ tr t, Run (step host file) (start op tx) tr t ∧ Answered results tr t := by
  have hstart : SettlesUnhindered host file (start op tx) := by
    refine Settles.of_step (.poll false) ⟨(TransmitState.start op tx).begin, 0⟩ ?_ rfl rfl ?_
    · exact step_of rfl rfl trivial
    · exact settles_outerTest _ _
  have hresult : ∀ s : Sender b, s.state.point = .awaiting → ∀ r ∈ results, ∃ e t,
      s.step host file e = some t ∧ Unhindered e ∧ resultOf e = some r ∧
        t.SettlesUnhindered host file := by
    intro s hpoint r _
    refine ⟨.recvfrom responsePacketMaxSize r, ⟨s.state.onResponse host r, s.pos⟩, ?_, trivial,
      rfl, settles_onResponse s.state r s.pos⟩
    exact step_of (by simp [tftpTransmitFile, hpoint]) rfl trivial
  obtain ⟨tr, t, hrun, hfed⟩ := exists_run_fed hresult hstart
  exact ⟨tr, t, hrun, hfed.calm, hfed.received, hfed.ended⟩

end Sender

/-- On a file of any size, whatever the block size and whatever is received, `tftp_transmit_file`
has a run over these responses, and in every run the packets sent are the blocks of the file in
order. -/
theorem transmit_sends_in_blocks (host : Host) {b : BlockSize} (file : List UInt8)
    (op : OperationData) (data : Buffer (dataPacketMaxSize b))
    (response : Buffer responsePacketMaxSize) :
    (∀ results, ∃ tr s,
      Run (Sender.step host file) (Sender.start op (FillState.cleared data response)) tr s ∧
        Answered results tr s) ∧
    ∀ tr s,
      Run (Sender.step host file) (Sender.start op (FillState.cleared data response)) tr s →
        ∃ counts, SentInBlocks file counts (dataSent tr) s := by
  refine ⟨Sender.exists_run_answered op _, ?_⟩
  intro tr s h
  have hprogress : s.state.Framed ∧ Sender.Progress file s (dataSent tr) := by
    induction h with
    | nil =>
        refine ⟨trivial, 0, [], Sender.at_start file op _ _, rfl, rfl, ?_, ?_⟩
        · simp
        · simp [Sender.start, TransmitState.start, FillState.cleared]
    | snoc _ hstep ih =>
        obtain ⟨hframe, hprogress⟩ := ih
        refine ⟨TransmitState.framed_step hframe (Sender.step_eq hstep).1, ?_⟩
        have hnext := Sender.step_progress hprogress hframe hstep
        rwa [dataSent_snoc]
  exact Sender.sentInBlocks_of_progress hprogress.2

section FixedRuns

/-- A file of nine bytes: block 1 is sent twice, block 2 once. -/
def nineBytes : List Event :=
  [.poll false, .poll false, .fread 8 (ascii "12345678") false,
    .poll false, .sendto (localhost 50001) (dataPacket 1 (ascii "12345678")) true,
    .recvfrom 36 (.datagram (localhost 50001) (ackPacket 7)),
    .poll false, .sendto (localhost 50001) (dataPacket 1 (ascii "12345678")) true,
    .recvfrom 36 (.datagram (localhost 50001) (ackPacket 1)),
    .poll false, .fread 8 (ascii "9") true,
    .poll false, .sendto (localhost 50001) (dataPacket 2 (ascii "9")) true,
    .recvfrom 36 (.datagram (localhost 50001) (ackPacket 2))]

set_option maxRecDepth 8000 in
theorem transmit_sends_in_blocks_nine :
    ∃ (s : Sender sampleBlockSize) (counts : List Nat),
      Run (Sender.step littleHost (ascii "123456789"))
          (Sender.start sampleOperation (FillState.cleared (Buffer.zero _) (Buffer.zero _)))
          nineBytes s ∧
        s.state.point = .returned .success ∧
        SentInBlocks (ascii "123456789") counts (dataSent nineBytes) s := by
  have hrun : ∃ s : Sender sampleBlockSize, Run (Sender.step littleHost (ascii "123456789"))
      (Sender.start sampleOperation (FillState.cleared (Buffer.zero _) (Buffer.zero _)))
      nineBytes s ∧ s.state.point = .returned .success := exists_run_of_exec (by decide)
  obtain ⟨s, hs, hpoint⟩ := hrun
  obtain ⟨counts, hcounts⟩ := (transmit_sends_in_blocks littleHost (ascii "123456789")
    sampleOperation (Buffer.zero _) (Buffer.zero _)).2 nineBytes s hs
  exact ⟨s, counts, hs, hpoint, hcounts⟩

end FixedRuns

end Stftpu
