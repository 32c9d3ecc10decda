import Stftpu.Library.Greedy
import Stftpu.Transfer.Parties

/-!
# What a receiver makes of the packets it gets

A reading of the results of `recvfrom` that knows nothing of `tftp_receive_file`: the DATA
packets picked from them in order of their numbers, up to an interruption.

* `matchedBlocks` — the payloads of the packets numbered 1, 2, 3, … modulo `2 ^ 16`, picked
  greedily up to the first short one.
* `Interrupted` — an ERROR packet came, or more than `max_retry_count` receives brought
  nothing since a block was matched.
* `receive_reassembles` — the function writes what was matched before the interruption, and
  returns `true` exactly when that includes a short block.
-/

namespace Stftpu

open Library

/-! ## Reading a sequence of results -/

/-- The receive timed out, or brought an empty datagram. -/
def isMiss : RecvResult → Bool
  | .failed _ => true
  | .datagram _ bytes => bytes.isEmpty

def isErrorPacket : RecvResult → Bool
  | .datagram _ bytes => opcodeOf bytes = TFTPOpcode.error.code
  | .failed _ => false

/-- The payload of the DATA packet with number `n` modulo `2 ^ 16`. -/
def blockPayload (n : Nat) : RecvResult → Option (List UInt8)
  | .datagram _ bytes =>
      if opcodeOf bytes = TFTPOpcode.data.code ∧ blockNumberOf bytes = UInt16.ofNat n then
        some (bytes.drop sizeofPacket)
      else
        none
  | .failed _ => none

def isShort (b : BlockSize) (payload : List UInt8) : Bool :=
  payload.length < b.val

/-- The payloads of the matched blocks. -/
def matchedBlocks (b : BlockSize) (results : List RecvResult) : List (List UInt8) :=
  matched blockPayload (isShort b) 1 results

/-- The reading ends before the end of these results. -/
def Interrupted (b : BlockSize) (results : List RecvResult) : Prop :=
  (∃ r ∈ results, isErrorPacket r = true) ∨
    Overruns blockPayload (isShort b) isMiss 1 maxRetryCount results

/-- A timeout, an empty datagram, or a datagram with a whole header that fits the buffer; a
DATA packet has a payload. -/
def Proper (b : BlockSize) : RecvResult → Prop
  | .failed _ => True
  | .datagram _ bytes =>
      bytes = [] ∨ sizeofPacket ≤ bytes.length ∧ bytes.length ≤ dataPacketMaxSize b ∧
        (opcodeOf bytes = TFTPOpcode.data.code → sizeofPacket < bytes.length)

/-- `should_terminate` is not set, and `fwrite` writes all it is given. -/
def Calm : Event → Prop
  | .poll set => set = false
  | .fwrite bytes count _ => count = bytes.length
  | _ => True

/-- The function has been given these results, until it returned. -/
structure Given {b : BlockSize} (results : List RecvResult) (tr : List Event) (s : Receiver b) :
    Prop where
  calm : ∀ e ∈ tr, Calm e
  received : resultsOf tr <+: results
  ended : s.state.point = .awaiting ∧ resultsOf tr = results ∨
    ∃ exit, s.state.point = .returned exit

/-- Position `k` is where the reading of the results ends, and what was matched before it is
what was written. -/
structure Reassembled (b : BlockSize) (results : List RecvResult) (k : Nat) (s : Receiver b) :
    Prop where
  uninterrupted : ¬ Interrupted b (results.take k)
  longest : k = results.length ∨ k < results.length ∧ Interrupted b (results.take (k + 1))
  written : s.written = (matchedBlocks b (results.take k)).flatten
  returned : s.state.point = .returned .success ↔
    ∃ payload ∈ matchedBlocks b (results.take k), payload.length < b.val

section Reading

variable {b : BlockSize} {results rest : List RecvResult} {r : RecvResult} {m : Nat}
  {payload : List UInt8}

theorem not_interrupted_nil : ¬ Interrupted b [] := by
  rintro (⟨r, hr, -⟩ | hover)
  · cases hr
  · exact not_overruns_nil hover

/-- One more result interrupts the reading if it is an ERROR packet, or one miss too many. -/
theorem interrupted_concat_iff (hnot : ¬ Interrupted b results)
    (h : MissesSince blockPayload (isShort b) isMiss 1 (results ++ [r]) m) :
    Interrupted b (results ++ [r]) ↔ isErrorPacket r = true ∨ maxRetryCount < m := by
  have hover : ¬ Overruns blockPayload (isShort b) isMiss 1 maxRetryCount results :=
    fun hover => hnot (Or.inr hover)
  rw [Interrupted, overruns_concat_iff hover h]
  constructor
  · rintro (⟨r', hr', herror⟩ | hlimit)
    · rcases List.mem_append.mp hr' with hold | hnew
      · exact absurd (Or.inl ⟨r', hold, herror⟩) hnot
      · obtain rfl := List.mem_singleton.mp hnew
        exact Or.inl herror
    · exact Or.inr hlimit
  · rintro (herror | hlimit)
    · exact Or.inl ⟨r, by simp, herror⟩
    · exact Or.inr hlimit

/-- The reading ends at some position behind any position it has reached. -/
theorem exists_longest (hnot : ¬ Interrupted b results) :
    ∃ k, results.length ≤ k ∧ ¬ Interrupted b ((results ++ rest).take k) ∧
      (k = (results ++ rest).length ∨
        k < (results ++ rest).length ∧ Interrupted b ((results ++ rest).take (k + 1))) := by
  induction rest generalizing results with
  | nil => exact ⟨results.length, Nat.le_refl _, by simpa using hnot, Or.inl (by simp)⟩
  | cons r rest ih =>
      by_cases hnext : Interrupted b (results ++ [r])
      · refine ⟨results.length, Nat.le_refl _, by simpa using hnot, Or.inr ⟨by simp, ?_⟩⟩
        rw [show results ++ r :: rest = (results ++ [r]) ++ rest by simp,
          show results.length + 1 = (results ++ [r]).length by simp, List.take_left]
        exact hnext
      · obtain ⟨k, hk, hrest⟩ := ih hnext
        rw [show results ++ [r] ++ rest = results ++ r :: rest by simp] at hrest
        exact ⟨k, by simp only [List.length_append] at hk; omega, hrest⟩

end Reading

/-! ## The receiver -/

namespace Receiver

variable {b : BlockSize} {host : Host} {s s' : Receiver b} {e : Event}
  {consumed : List RecvResult} {r : RecvResult} {payload : List UInt8}

/-- Everything received so far has been dealt with, and the next block is awaited. -/
structure Waiting (consumed : List RecvResult) (s : Receiver b) : Prop where
  written : s.written = (matchedBlocks b consumed).flatten
  number : s.state.tx.currentBlockNumber =
    UInt16.ofNat (1 + (matchedBlocks b consumed).length)
  full : ∀ payload ∈ matchedBlocks b consumed, isShort b payload = false
  misses : MissesSince blockPayload (isShort b) isMiss 1 consumed s.state.tx.resendCounter
  misses_le : s.state.tx.resendCounter ≤ maxRetryCount
  uninterrupted : ¬ Interrupted b consumed

/-- The block received last is the one awaited. -/
structure Accepted (consumed : List RecvResult) (payload : List UInt8) (s : Receiver b) :
    Prop where
  matched_eq : ∃ before, matchedBlocks b consumed = before ++ [payload] ∧
    ∀ payload ∈ before, isShort b payload = false
  number : s.state.tx.currentBlockNumber = UInt16.ofNat (matchedBlocks b consumed).length
  misses : MissesSince blockPayload (isShort b) isMiss 1 consumed 0
  uninterrupted : ¬ Interrupted b consumed
  received : s.state.tx.bytesReceived = sizeofPacket + payload.length
  payload_le : payload.length ≤ b.val
  nonempty : payload ≠ []

/-- The last result received interrupted the transfer. -/
def Stopped (b : BlockSize) (consumed : List RecvResult) (written : List UInt8) : Prop :=
  ∃ before r, consumed = before ++ [r] ∧ ¬ Interrupted b before ∧ Interrupted b consumed ∧
    written = (matchedBlocks b before).flatten ∧
    ∀ payload ∈ matchedBlocks b before, isShort b payload = false

/-- Where the receiver stands behind the results it has been given. -/
def ReadsOn (consumed : List RecvResult) (s : Receiver b) : Prop :=
  match s.state.point with
  | .entry => consumed = [] ∧ s.written = [] ∧ s.state.tx.resendCounter = 0
  | .nextBlock | .awaiting => Waiting consumed s
  | .writing payload =>
      Accepted consumed payload s ∧
        s.written ++ payload = (matchedBlocks b consumed).flatten
  | .acknowledging =>
      ∃ payload, Accepted consumed payload s ∧
        s.written = (matchedBlocks b consumed).flatten
  | .returned .success =>
      ¬ Interrupted b consumed ∧ s.written = (matchedBlocks b consumed).flatten ∧
        ∃ payload ∈ matchedBlocks b consumed, isShort b payload = true
  | .failing _ | .returned _ => Stopped b consumed s.written
  | .fault => False

theorem readsOn_fail {t : ReceiveState b} {reply : ErrorReply} {written : List UInt8}
    (h : Stopped b consumed written) : ReadsOn consumed ⟨t.fail reply, written⟩ := by
  rcases t.fail_point reply with hp | hp
  · simpa [ReadsOn, hp] using h
  · simpa [ReadsOn, hp] using h

/-- A receive that brings nothing. -/
theorem readsOn_missed {t : ReceiveState b} (h : Waiting consumed ⟨t, s.written⟩)
    (hmiss : isMiss r = true)
    (hpick : ∀ n, blockPayload n r = none) (herror : isErrorPacket r = false) :
    ReadsOn (consumed ++ [r]) ⟨t.missed, s.written⟩ := by
  have hsame : matchedBlocks b (consumed ++ [r]) = matchedBlocks b consumed := by
    rw [matchedBlocks, matched_concat h.full, hpick]
    exact List.append_nil _
  have hmisses := missesSince_of_passed h.misses hsame
  rw [hmiss, if_pos rfl] at hmisses
  have hiff := interrupted_concat_iff h.uninterrupted hmisses
  unfold ReceiveState.missed
  split
  · rename_i hlt
    refine ⟨?_, ?_, ?_, hmisses, hlt, ?_⟩
    · rw [hsame]
      exact h.written
    · rw [hsame]
      exact h.number
    · rw [hsame]
      exact h.full
    · rw [hiff, herror]
      rintro (hfalse | hlimit)
      · cases hfalse
      · exact absurd hlimit (by show ¬ maxRetryCount < t.tx.resendCounter + 1; omega)
  · rename_i hge
    refine readsOn_fail ⟨consumed, r, rfl, h.uninterrupted, ?_, h.written, h.full⟩
    exact hiff.mpr (Or.inr (by show maxRetryCount < t.tx.resendCounter + 1; omega))

/-- What a datagram with a whole header leads to. -/
theorem readsOn_datagram {source : SockAddr} {bytes : List UInt8}
    (h : Waiting consumed s) (hpoint : s.state.point = .awaiting)
    (hlen : sizeofPacket ≤ bytes.length) (hfit : bytes.length ≤ dataPacketMaxSize b)
    (hdata : opcodeOf bytes = TFTPOpcode.data.code → sizeofPacket < bytes.length) :
    ReadsOn (consumed ++ [.datagram source bytes])
      ⟨s.state.onPacket host (.datagram source bytes), s.written⟩ := by
  have hmiss : isMiss (.datagram source bytes) = false := by
    cases bytes with
    | nil => simp [sizeofPacket] at hlen
    | cons byte bytes => rfl
  have hconcat : matchedBlocks b (consumed ++ [.datagram source bytes]) =
      matchedBlocks b consumed ++
        (blockPayload (1 + (matchedBlocks b consumed).length)
          (.datagram source bytes)).toList := matched_concat h.full
  rw [s.state.onPacket_datagram host source hlen hfit]
  split
  · -- an ERROR packet
    rename_i herror
    have hdatagram : isErrorPacket (.datagram source bytes) = true := by
      simp [isErrorPacket, herror]
    refine ⟨consumed, _, rfl, h.uninterrupted, ?_, h.written, h.full⟩
    exact Or.inl ⟨_, by simp, hdatagram⟩
  · rename_i herror
    have hnoError : isErrorPacket (.datagram source bytes) = false := by
      simp [isErrorPacket, herror]
    split
    · -- the awaited block
      rename_i hawaited
      have hpick : blockPayload (1 + (matchedBlocks b consumed).length) (.datagram source bytes) =
          some (bytes.drop sizeofPacket) := by
        rw [blockPayload, if_pos ⟨hawaited.1, hawaited.2.trans h.number⟩]
      rw [hpick] at hconcat
      have hmisses : MissesSince blockPayload (isShort b) isMiss 1
          (consumed ++ [.datagram source bytes]) 0 := missesSince_of_picked hconcat
      have hlonger := hdata hawaited.1
      refine ⟨⟨⟨_, hconcat, h.full⟩, ?_, hmisses, ?_, ?_, ?_, ?_⟩, ?_⟩
      · rw [hconcat]
        show s.state.tx.currentBlockNumber = _
        rw [h.number]
        simp [Nat.add_comm]
      · rw [interrupted_concat_iff h.uninterrupted hmisses, hnoError]
        simp
      · show (min _ _ : Int) = _
        rw [List.length_drop]
        omega
      · rw [List.length_drop]
        simp only [dataPacketMaxSize] at hfit
        omega
      · intro hempty
        have := congrArg List.length hempty
        rw [List.length_drop, List.length_nil] at this
        omega
      · rw [hconcat, List.flatten_append, h.written]
        simp
    · -- passed over
      rename_i hother
      have hpick : blockPayload (1 + (matchedBlocks b consumed).length) (.datagram source bytes) =
          none := by
        rw [blockPayload, if_neg]
        rintro ⟨hopcode, hnumber⟩
        exact hother ⟨hopcode, hnumber.trans h.number.symm⟩
      rw [hpick] at hconcat
      have hsame : matchedBlocks b (consumed ++ [.datagram source bytes]) =
          matchedBlocks b consumed := hconcat.trans (List.append_nil _)
      have hmisses := missesSince_of_passed h.misses hsame
      simp only [hmiss, Bool.false_eq_true, if_false, Nat.add_zero] at hmisses
      have hwaiting : Waiting (consumed ++ [.datagram source bytes])
          ⟨s.state.received source bytes, s.written⟩ := by
        refine ⟨by rw [hsame]; exact h.written, by rw [hsame]; exact h.number,
          by rw [hsame]; exact h.full, hmisses, h.misses_le, ?_⟩
        rw [interrupted_concat_iff h.uninterrupted hmisses, hnoError]
        rintro (hfalse | hlimit)
        · cases hfalse
        · exact absurd hlimit (Nat.not_lt.mpr h.misses_le)
      simpa only [ReadsOn, ReceiveState.received_point, hpoint] using hwaiting

/-- The ACK takes the receiver to the next block behind a full one, and to its return behind
a short one. -/
theorem readsOn_onAcknowledged (h : Accepted consumed payload s)
    (hwritten : s.written = (matchedBlocks b consumed).flatten) :
    ReadsOn consumed ⟨s.state.onAcknowledged, s.written⟩ := by
  obtain ⟨before, hmatched, hbefore⟩ := h.matched_eq
  have hsize : s.state.tx.bytesReceived = dataPacketMaxSize b ↔ payload.length = b.val := by
    rw [h.received, dataPacketMaxSize]
    omega
  -- `bytes_received` is the whole packet exactly for a full block
  by_cases hfull : payload.length = b.val
  · have houter : s.state.onAcknowledged.point = .nextBlock := by
      simp [ReceiveState.onAcknowledged, ReceiveState.outerTest, hsize.mpr hfull]
    have hwaiting : Waiting consumed ⟨s.state.onAcknowledged, s.written⟩ := by
      refine ⟨hwritten, ?_, ?_, ?_, ?_, h.uninterrupted⟩
      · simp only [ReceiveState.onAcknowledged, ReceiveState.outerTest_tx, h.number]
        rw [Nat.add_comm, UInt16.ofNat_add]
        rfl
      · rw [hmatched]
        intro p hp
        rcases List.mem_append.mp hp with hold | hnew
        · exact hbefore p hold
        · obtain rfl := List.mem_singleton.mp hnew
          simp [isShort, hfull]
      · simpa [ReceiveState.onAcknowledged] using h.misses
      · simp [ReceiveState.onAcknowledged]
    simpa only [ReadsOn, houter] using hwaiting
  · have houter : s.state.onAcknowledged.point = .returned .success := by
      simp [ReceiveState.onAcknowledged, ReceiveState.outerTest, mt hsize.mp hfull]
    simp only [ReadsOn, houter]
    refine ⟨h.uninterrupted, hwritten, payload, ?_, ?_⟩
    · rw [hmatched]
      simp
    · have hle := h.payload_le
      simp only [isShort, decide_eq_true_eq]
      omega

/-- Every step reads on. -/
theorem step_readsOn (h : ReadsOn consumed s) (hcalm : Calm e)
    (hproper : ∀ r ∈ resultOf e, Proper b r) (hstep : s.step host e = some s') :
    ReadsOn (consumed ++ (resultOf e).toList) s' := by
  obtain ⟨ht, hwritten'⟩ := step_eq hstep
  obtain ⟨t', written'⟩ := s'
  cases hpoint : s.state.point with
  | entry =>
      simp only [ReadsOn, hpoint] at h
      obtain ⟨rfl, hwritten, hcounter⟩ := h
      obtain ⟨set, rfl, rfl⟩ := receive_entry hpoint ht
      obtain rfl : written' = s.written := hwritten'
      obtain rfl : set = false := hcalm
      refine ⟨hwritten, rfl, ?_, ?_, ?_, not_interrupted_nil⟩
      · simp [matchedBlocks, resultOf]
      · show MissesSince _ _ _ 1 [] s.state.tx.resendCounter
        rw [hcounter]
        exact missesSince_nil
      · show s.state.tx.resendCounter ≤ maxRetryCount
        omega
  | nextBlock =>
      simp only [ReadsOn, hpoint] at h
      obtain ⟨set, rfl, rfl⟩ := receive_nextBlock hpoint ht
      obtain rfl : written' = s.written := hwritten'
      obtain rfl : set = false := hcalm
      show ReadsOn (consumed ++ []) _
      rw [List.append_nil]
      exact ⟨h.written, h.number, h.full, h.misses, h.misses_le, h.uninterrupted⟩
  | awaiting =>
      simp only [ReadsOn, hpoint] at h
      obtain ⟨result, rfl, rfl⟩ := receive_awaiting hpoint ht
      obtain rfl : written' = s.written := hwritten'
      have hresult := hproper result rfl
      cases result with
      | failed errno =>
          refine readsOn_missed ?_ rfl (fun n => rfl) rfl
          exact ⟨h.written, h.number, h.full, h.misses, h.misses_le, h.uninterrupted⟩
      | datagram source bytes =>
          -- an empty datagram is a miss, as a receive that fails is
          rcases hresult with rfl | ⟨hlen, hfit, hdata⟩
          · have hnone : ¬ (s.state.received source []).tx.bytesReceived > 0 := by
              simp [ReceiveState.received]
            simp only [ReceiveState.onPacket, if_neg hnone]
            refine readsOn_missed ?_ rfl (fun n => ?_) ?_
            · exact ⟨h.written, h.number, h.full, h.misses, h.misses_le, h.uninterrupted⟩
            · simp [blockPayload, opcodeOf, be16, TFTPOpcode.code]
            · simp [isErrorPacket, opcodeOf, be16, TFTPOpcode.code]
          · exact readsOn_datagram h hpoint hlen hfit hdata
  | writing payload =>
      simp only [ReadsOn, hpoint] at h
      obtain ⟨haccepted, hwrites⟩ := h
      obtain ⟨count, kept, rfl, -, rfl⟩ := receive_writing hpoint ht
      obtain rfl : count = payload.length := hcalm
      obtain rfl : written' = s.written ++ payload := by
        simpa [fileContents] using hwritten'
      have hcount : payload.length ≠ 0 := by
        simpa using haccepted.nonempty
      show ReadsOn (consumed ++ []) _
      rw [List.append_nil, ReceiveState.onWritten, if_neg hcount]
      exact ⟨payload, ⟨haccepted.matched_eq, haccepted.number, haccepted.misses,
        haccepted.uninterrupted, haccepted.received, haccepted.payload_le,
        haccepted.nonempty⟩, hwrites⟩
  | acknowledging =>
      simp only [ReadsOn, hpoint] at h
      obtain ⟨payload, haccepted, hwritten⟩ := h
      obtain ⟨ok, rfl, rfl⟩ := receive_acknowledging hpoint ht
      obtain rfl : written' = s.written := hwritten'
      show ReadsOn (consumed ++ []) _
      rw [List.append_nil]
      exact readsOn_onAcknowledged haccepted hwritten
  | failing reply =>
      simp only [ReadsOn, hpoint] at h
      obtain ⟨ok, rfl, rfl⟩ := receive_failing hpoint ht
      obtain rfl : written' = s.written := hwritten'
      show ReadsOn (consumed ++ []) _
      rw [List.append_nil]
      exact h
  | returned exit =>
      rw [receive_returned hpoint] at ht
      cases ht
  | fault =>
      rw [receive_fault hpoint] at ht
      cases ht

/-- Every run does. -/
theorem run_readsOn {op : OperationData} {data : Buffer (dataPacketMaxSize b)}
    {response : Buffer responsePacketMaxSize} {tr : List Event}
    (h : Run (step host) (start op (FillState.cleared data response)) tr s)
    (hcalm : ∀ e ∈ tr, Calm e) (hproper : ∀ r ∈ resultsOf tr, Proper b r) :
    ReadsOn (resultsOf tr) s := by
  induction h with
  | nil => exact ⟨rfl, rfl, rfl⟩
  | @snoc tr t u e _ hstep ih =>
      rw [resultsOf_snoc] at hproper ⊢
      refine step_readsOn (ih ?_ ?_) (hcalm e (by simp)) ?_ hstep
      · exact fun e' he' => hcalm e' (by simp [he'])
      · exact fun r hr => hproper r (by simp [hr])
      · intro r hr
        exact hproper r (List.mem_append.mpr (Or.inr (Option.mem_toList.mpr hr)))

/-- A receiver that was given all the results, or returned, has reassembled them. -/
theorem reassembled_of_readsOn {results : List RecvResult} (h : ReadsOn consumed s)
    (hinitial : consumed <+: results)
    (hended : s.state.point = .awaiting ∧ consumed = results ∨
      ∃ exit, s.state.point = .returned exit) :
    ∃ k, Reassembled b results k s := by
  obtain ⟨rest, rfl⟩ := hinitial
  have hstopped : s.state.point ≠ .returned .success → Stopped b consumed s.written →
      ∃ k, Reassembled b (consumed ++ rest) k s := by
    rintro hfailed ⟨before, r, rfl, hnot, hinterrupted, hwritten, hfull⟩
    have hfront : (before ++ [r] ++ rest).take before.length = before := by
      rw [List.append_assoc, List.take_left]
    have hnext : (before ++ [r] ++ rest).take (before.length + 1) = before ++ [r] := by
      rw [show before.length + 1 = (before ++ [r]).length by simp, List.take_left]
    refine ⟨before.length, ?_, Or.inr ⟨by simp, ?_⟩, ?_, ?_⟩
    · rw [hfront]
      exact hnot
    · rw [hnext]
      exact hinterrupted
    · rw [hfront]
      exact hwritten
    · rw [hfront]
      refine iff_of_false hfailed ?_
      rintro ⟨payload, hpayload, hshort⟩
      have := hfull payload hpayload
      simp [isShort, hshort] at this
  rcases hended with ⟨hpoint, hall⟩ | ⟨exit, hpoint⟩
  · simp only [ReadsOn, hpoint] at h
    refine ⟨consumed.length, ?_⟩
    rw [← hall]
    refine ⟨?_, Or.inl rfl, ?_, ?_⟩
    · rw [List.take_length]
      exact h.uninterrupted
    · rw [List.take_length]
      exact h.written
    · rw [List.take_length, hpoint]
      refine iff_of_false (by simp) ?_
      rintro ⟨payload, hpayload, hshort⟩
      have := h.full payload hpayload
      simp [isShort, hshort] at this
  · cases exit with
    | success =>
        simp only [ReadsOn, hpoint] at h
        obtain ⟨hnot, hwritten, payload, hpayload, hshort⟩ := h
        have hlonger : ∃ k, consumed.length ≤ k ∧ ¬ Interrupted b ((consumed ++ rest).take k) ∧
            (k = (consumed ++ rest).length ∨ k < (consumed ++ rest).length ∧
              Interrupted b ((consumed ++ rest).take (k + 1))) := exists_longest hnot
        obtain ⟨k, hk, hreading, hlongest⟩ := hlonger
        -- behind the short block nothing more is matched
        have hsame : matchedBlocks b ((consumed ++ rest).take k) = matchedBlocks b consumed := by
          rw [List.take_append, List.take_of_length_le hk]
          exact matched_append_of_last ⟨payload, hpayload, hshort⟩
        refine ⟨k, hreading, hlongest, ?_, ?_⟩
        · rw [hsame]
          exact hwritten
        · rw [hsame, hpoint]
          refine iff_of_true rfl ⟨payload, hpayload, ?_⟩
          simpa [isShort] using hshort
    | failure =>
        simp only [ReadsOn, hpoint] at h
        exact hstopped (by simp [hpoint]) h
    | peerError =>
        simp only [ReadsOn, hpoint] at h
        exact hstopped (by simp [hpoint]) h

/-! ### The run over given results -/

/-- The receiver gets to its next receive, or to its return, without one. -/
def SettlesCalmly (host : Host) : Receiver b → Prop :=
  Settles (step host) resultOf Calm (fun s => s.state.point = .awaiting)
    (fun s => ∃ exit, s.state.point = .returned exit)

theorem settles_fail (t : ReceiveState b) (reply : ErrorReply) (written : List UInt8) :
    SettlesCalmly host ⟨t.fail reply, written⟩ := by
  rcases t.fail_point reply with hp | hp
  · refine Settles.of_step (.sendto (t.fail reply).op.peerAddress (errorPacket reply) true)
      ⟨{ t.fail reply with point := .returned .failure }, written⟩ ?_ trivial rfl ?_
    · simp [step, tftpReceiveFile, hp, fileContents]
    · exact Settles.of_ready (Or.inr ⟨.failure, rfl⟩)
  · exact Settles.of_ready (Or.inr ⟨.failure, hp⟩)

theorem settles_acknowledging (hpoint : s.state.point = .acknowledging) : s.SettlesCalmly host := by
  refine Settles.of_step
    (.sendto s.state.op.peerAddress (ackPacket s.state.tx.currentBlockNumber) true)
    ⟨s.state.onAcknowledged, s.written⟩ ?_ trivial rfl ?_
  · simp [step, tftpReceiveFile, hpoint, fileContents]
  · rcases ReceiveState.outerTest_point { s.state with
        prevBlockNumber := s.state.prevBlockNumber + 1
        tx := { s.state.tx with
          resendCounter := 0
          currentBlockNumber := s.state.tx.currentBlockNumber + 1 } } with hp | hp
    · refine Settles.of_step (.poll false)
        ⟨{ s.state.onAcknowledged with point := .awaiting }, s.written⟩ ?_ rfl rfl ?_
      · simp [step, tftpReceiveFile, ReceiveState.onAcknowledged, hp, fileContents]
      · exact Settles.of_ready (Or.inl rfl)
    · exact Settles.of_ready (Or.inr ⟨.success, hp⟩)

theorem settles_writing (hpoint : s.state.point = .writing payload) : s.SettlesCalmly host := by
  refine Settles.of_step (.fwrite payload payload.length 0)
    ⟨s.state.onWritten payload.length, s.written ++ payload⟩ ?_ rfl rfl ?_
  · simp [step, tftpReceiveFile, hpoint, fileContents]
  · unfold ReceiveState.onWritten
    split
    · exact settles_fail _ _ _
    · exact settles_acknowledging rfl

/-- Whatever a receive brings, if it is proper, the receiver settles. -/
theorem settles_onPacket (hpoint : s.state.point = .awaiting) (hproper : Proper b r) :
    SettlesCalmly host ⟨s.state.onPacket host r, s.written⟩ := by
  have hmissed : ∀ t : ReceiveState b, SettlesCalmly host ⟨t.missed, s.written⟩ := by
    intro t
    unfold ReceiveState.missed
    split
    · exact Settles.of_ready (Or.inl rfl)
    · exact settles_fail _ _ _
  cases r with
  | failed errno => exact hmissed _
  | datagram source bytes =>
      rcases hproper with rfl | ⟨hlen, hfit, -⟩
      · have hnone : ¬ (s.state.received source []).tx.bytesReceived > 0 := by
          simp [ReceiveState.received]
        simp only [ReceiveState.onPacket, if_neg hnone]
        exact hmissed _
      · rw [s.state.onPacket_datagram host source hlen hfit]
        split
        · exact Settles.of_ready (Or.inr ⟨.peerError, rfl⟩)
        · split
          · exact settles_writing rfl
          · exact Settles.of_ready (Or.inl hpoint)

/-- Behind two looks at `should_terminate` comes the first receive. -/
theorem settles_start (op : OperationData) (tx : TransferData b) :
    SettlesCalmly host (start op tx) := by
  refine Settles.of_step (.poll false) ⟨(ReceiveState.start op tx).begin, []⟩ rfl rfl rfl ?_
  refine Settles.of_step (.poll false)
    ⟨{ (ReceiveState.start op tx).begin with point := .awaiting }, []⟩ rfl rfl rfl ?_
  exact Settles.of_ready (Or.inl rfl)

/-- There is a run over any proper results. -/
theorem exists_run_given (op : OperationData) (tx : TransferData b) (results : List RecvResult)
    (hproper : ∀ r ∈ results, Proper b r) :
    ∃ tr t, Run (step host) (start op tx) tr t ∧ Given results tr t := by
  have hstart : SettlesCalmly host (start op tx) := settles_start op tx
  have hresult : ∀ s : Receiver b, s.state.point = .awaiting → ∀ r ∈ results, ∃ e t,
      s.step host e = some t ∧ Calm e ∧ resultOf e = some r ∧ t.SettlesCalmly host := by
    intro s hpoint r hr
    refine ⟨.recvfrom (dataPacketMaxSize b) r, ⟨s.state.onPacket host r, s.written⟩, ?_, trivial,
      rfl, settles_onPacket hpoint (hproper r hr)⟩
    simp [step, tftpReceiveFile, hpoint, fileContents]
  obtain ⟨tr, t, hrun, hfed⟩ := exists_run_fed hresult hstart
  exact ⟨tr, t, hrun, hfed.calm, hfed.received, hfed.ended⟩

end Receiver

/-- Whatever the block size and whatever proper results `tftp_receive_file` is given, it has a
run over them, and every such run writes the matched blocks that come before the first
interruption and returns `true` exactly when these include a short one. -/
theorem receive_reassembles (host : Host) {b : BlockSize} (op : OperationData)
    (data : Buffer (dataPacketMaxSize b)) (response : Buffer responsePacketMaxSize)
    (results : List RecvResult) (hproper : ∀ r ∈ results, Proper b r) :
    (∃ tr s, Run (Receiver.step host) (Receiver.start op (FillState.cleared data response)) tr s ∧
      Given results tr s) ∧
    ∀ tr s, Run (Receiver.step host) (Receiver.start op (FillState.cleared data response)) tr s →
      Given results tr s → ∃ k, Reassembled b results k s := by
  refine ⟨?_, ?_⟩
  · exact Receiver.exists_run_given op (FillState.cleared data response) results hproper
  · intro tr s hrun hgiven
    have hreads := Receiver.run_readsOn hrun hgiven.calm
      fun r hr => hproper r (hgiven.received.subset hr)
    exact Receiver.reassembled_of_readsOn hreads hgiven.received hgiven.ended

section FixedRuns

instance (b : BlockSize) : DecidablePred (Proper b)
  | .failed _ => isTrue trivial
  | .datagram _ bytes => inferInstanceAs (Decidable (bytes = [] ∨
      sizeofPacket ≤ bytes.length ∧ bytes.length ≤ dataPacketMaxSize b ∧
        (opcodeOf bytes = TFTPOpcode.data.code → sizeofPacket < bytes.length)))

/-- A full block, a timeout, an ACK that is passed over, a short block, and an ERROR packet
that comes too late. -/
def twoBlocks : List RecvResult :=
  [.datagram (localhost 50001) (dataPacket 1 (ascii "12345678")), .failed .EAGAIN,
    .datagram (localhost 50001) (ackPacket 2),
    .datagram (localhost 50001) (dataPacket 2 (ascii "9")),
    .datagram (localhost 50001) (errorPacket { code := 0, message := [], item := none })]

theorem receive_reassembles_two :
    ∃ tr s k, Run (Receiver.step littleHost)
        (Receiver.start sampleOperation sampleTransfer) tr s ∧
      Given twoBlocks tr s ∧ Reassembled sampleBlockSize twoBlocks k s := by
  obtain ⟨⟨tr, s, hrun, hgiven⟩, hall⟩ := receive_reassembles littleHost sampleOperation
    (b := sampleBlockSize) (Buffer.zero _) (Buffer.zero _) twoBlocks (by decide)
  obtain ⟨k, hk⟩ := hall tr s hrun hgiven
  exact ⟨tr, s, k, hrun, hgiven, hk⟩

end FixedRuns

end Stftpu
