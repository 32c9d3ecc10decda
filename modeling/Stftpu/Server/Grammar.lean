import Stftpu.Server.Listener

/-!
# Requests and the reference grammar

The grammar splits a request at its zero bytes and never looks at lengths, guards or
earlier requests.  The listener reads the same fields from a buffer it shares between
all requests.

* `nulField`, `ArgumentsMatch` — the grammar.
* `cleared_step` — the buffer is zero at every `recvfrom`, whatever came before.
* `request_follows_grammar` — from any reachable state, the arguments handed to
  `tftp_init_operation_data` are those of the grammar.
-/

namespace Stftpu

open Library

/-! ## The grammar -/

/-- Field `n`, counted from zero, of bytes separated by zeros; behind their end all
fields are empty, as if zeros followed. -/
def nulField : Nat → List UInt8 → List UInt8
  | 0, bytes => bytes.takeWhile (· ≠ 0)
  | n + 1, bytes => nulField n (bytes.drop ((bytes.takeWhile (· ≠ 0)).length + 1))

/-- The fields of a request, behind its opcode. -/
def requestField (n : Nat) (datagram : List UInt8) : List UInt8 :=
  nulField n (datagram.drop 2)

/-- Equal but for case. -/
def SameIgnoringCase (s t : List UInt8) : Prop :=
  s.map tolower = t.map tolower

instance (s t : List UInt8) : Decidable (SameIgnoringCase s t) :=
  inferInstanceAs (Decidable (s.map tolower = t.map tolower))

/-- The mode and block size strings of a request: a delete request has neither, and a
block size is what follows a third field that says so. -/
def grammarMode (operation : OperationId) (datagram : List UInt8) : Option (List UInt8) :=
  if operation = .handleDelete then none else some (requestField 1 datagram)

def grammarBlocksize (operation : OperationId) (datagram : List UInt8) :
    Option (List UInt8) :=
  if operation = .handleDelete then
    none
  else if SameIgnoringCase (requestField 2 datagram) tftpBlksizeString then
    some (requestField 3 datagram)
  else
    none

/-- The arguments are those of the grammar for a datagram from a client. -/
structure ArgumentsMatch (args : InitArguments) (source : SockAddr) (datagram : List UInt8) :
    Prop where
  operation : requestOperation (opcodeOf datagram) = some args.operation
  peer : args.peer = source
  path : cstr args.filename = some (serverStoragePath ++ requestField 0 datagram)
  mode : args.mode.map cstr = (grammarMode args.operation datagram).map some
  blocksize : args.blocksize.map cstr = (grammarBlocksize args.operation datagram).map some

/-- The fields of a string and what follows its terminator. -/
theorem nulField_zero_terminated {s : List UInt8} (hs : ∀ c ∈ s, c ≠ 0) (rest : List UInt8) :
    nulField 0 (s ++ 0 :: rest) = s := by
  rw [nulField, List.takeWhile_append_of_pos (by simpa using hs)]
  simp

theorem nulField_succ_terminated {s : List UInt8} (hs : ∀ c ∈ s, c ≠ 0) (n : Nat)
    (rest : List UInt8) : nulField (n + 1) (s ++ 0 :: rest) = nulField n rest := by
  have hfirst := nulField_zero_terminated hs rest
  simp only [nulField] at hfirst ⊢
  rw [hfirst]
  congr 1
  rw [List.drop_append, List.drop_of_length_le (Nat.le_succ s.length)]
  simp

/-! ## Fields in zero-padded memory -/

section Fields

variable {body slack : List UInt8} {n idx : Nat}

theorem takeWhile_length_le (p : UInt8 → Bool) (l : List UInt8) :
    (l.takeWhile p).length ≤ l.length :=
  (List.takeWhile_sublist p).length_le

/-- A pointer into the padded bytes, or just behind their end, spells what precedes the
next zero. -/
theorem cstr_drop_padded (body slack : List UInt8) (n idx : Nat)
    (hidx : idx ≤ body.length + 1) (hn : 2 ≤ n) :
    cstr ((body ++ List.replicate n 0 ++ slack).drop idx) =
      some ((body.drop idx).takeWhile (· ≠ 0)) := by
  have hdrop : (body ++ List.replicate n 0 ++ slack).drop idx =
      body.drop idx ++ List.replicate (n - (idx - body.length)) 0 ++ slack := by
    rw [List.append_assoc, List.drop_append, List.drop_append_of_le_length (by simp; omega),
      List.drop_replicate, List.append_assoc]
  rw [hdrop]
  exact cstr_padded _ _ (by omega)

theorem tftpBlksizeString_ne_zero : ∀ l ∈ tftpBlksizeString, l ≠ 0 :=
  ne_zero_of_all (by decide)

theorem length_of_sameIgnoringCase {s t : List UInt8} (h : SameIgnoringCase s t) :
    s.length = t.length := by
  have hlen := congrArg List.length h
  simpa using hlen

/-- The two guards neither reject an option that is there nor admit one that is not. -/
theorem blocksizeField_padded (body slack : List UInt8) (n idx : Nat)
    (hidx : idx ≤ body.length + 1) (hn : 2 ≤ n) :
    ∃ blocksize,
      blocksizeField (body ++ List.replicate n 0 ++ slack) idx ((body.length + 2 : Nat) : Int) =
        some blocksize ∧
      blocksize.map cstr =
        if SameIgnoringCase (nulField 1 (body.drop idx)) tftpBlksizeString then
          some (some (nulField 2 (body.drop idx)))
        else
          none := by
  have hmode := cstr_drop_padded body slack n idx hidx hn
  -- the third field of the request lies behind the mode and its terminator
  have hmodeLen := takeWhile_length_le (· ≠ 0) (body.drop idx)
  rw [List.length_drop] at hmodeLen
  obtain ⟨idx₂, hidx₂⟩ : ∃ i, i = idx + ((body.drop idx).takeWhile (· ≠ 0)).length + 1 := ⟨_, rfl⟩
  have hthird : nulField 1 (body.drop idx) = (body.drop idx₂).takeWhile (· ≠ 0) := by
    simp only [nulField, List.drop_drop, hidx₂, Nat.add_assoc]
  have hthirdLen := takeWhile_length_le (· ≠ 0) (body.drop idx₂)
  rw [List.length_drop] at hthirdLen
  have hblkLen : tftpBlksizeString.length = 7 := by decide
  by_cases hguard : ((idx + 4 : Int) < ((body.length + 2 : Nat) : Int))
  · have hoption := cstr_drop_padded body slack n idx₂ (by omega) hn
    by_cases hsame : SameIgnoringCase (nulField 1 (body.drop idx)) tftpBlksizeString
    · have hlen := length_of_sameIgnoringCase hsame
      rw [hthird, hblkLen] at hlen
      have hvalue := cstr_drop_padded body slack n (idx₂ + 7 + 1) (by omega) hn
      refine ⟨some ((body ++ List.replicate n 0 ++ slack).drop (idx₂ + 7 + 1)), ?_, ?_⟩
      · unfold blocksizeField
        rw [if_pos hguard, strlen_of_cstr hmode]
        simp only [Option.bind_eq_bind, Option.bind_some, ← hidx₂]
        rw [strcasecmpEq_of_cstr hoption tftpBlksizeString_ne_zero, strlen_of_cstr hoption, hlen]
        have hcase : ((body.drop idx₂).takeWhile (· ≠ 0)).map tolower =
            tftpBlksizeString.map tolower := by
          rw [← hthird]
          exact hsame
        have hsecond : ((idx₂ + 4 : Int) < ((body.length + 2 : Nat) : Int)) := by omega
        simp only [decide_eq_true hcase, decide_eq_true hsecond, Option.bind_some, Bool.and_self,
          if_true]
      · rw [if_pos hsame, Option.map_some, hvalue]
        simp only [nulField] at hthird ⊢
        rw [hthird, hlen, List.drop_drop, List.drop_drop, hidx₂]
        congr 4
    · refine ⟨none, ?_, by rw [if_neg hsame]; rfl⟩
      have hcase : ¬ ((body.drop idx₂).takeWhile (· ≠ 0)).map tolower =
          tftpBlksizeString.map tolower := by
        rw [← hthird]
        exact hsame
      unfold blocksizeField
      rw [if_pos hguard, strlen_of_cstr hmode]
      simp only [Option.bind_eq_bind, Option.bind_some, ← hidx₂]
      rw [strcasecmpEq_of_cstr hoption tftpBlksizeString_ne_zero]
      simp only [decide_eq_false hcase, Option.bind_some, Bool.false_and, Bool.false_eq_true,
        if_false]
  · refine ⟨none, if_neg hguard, ?_⟩
    rw [if_neg]
    · rfl
    · intro hsame
      have hlen := length_of_sameIgnoringCase hsame
      rw [hthird, hblkLen] at hlen
      omega

end Fields

/-! ## The listener -/

section Parse

variable {host : Host} {mem : ListenerMemory} {s : ListenerState} {datagram : List UInt8}

theorem serverStoragePath_ne_zero : ∀ c ∈ serverStoragePath, c ≠ 0 :=
  ne_zero_of_all (by decide)

/-- In a cleared buffer the opcode is the datagram's, even when it is cut short. -/
theorem incomingOpcode_cleared (host : Host)
    (hbuf : s.requestBuffer = (Buffer.zero requestBufferSize).receive datagram) :
    s.incomingOpcode host = opcodeOf datagram := by
  have hsize : 2 ≤ requestBufferSize := by decide
  have hbyte : ∀ i < 2, ((Buffer.zero requestBufferSize).completed datagram).getD i 0 =
      datagram.getD i 0 := by
    intro i hi
    simp only [Buffer.completed, Buffer.zero_bytes, List.drop_replicate,
      List.getD_eq_getElem?_getD]
    rcases Nat.lt_or_ge i datagram.length with hin | hout
    · rw [List.getElem?_append_left hin]
    · rw [List.getElem?_append_right hout, List.getElem?_replicate,
        List.getElem?_eq_none hout]
      split <;> rfl
  rw [ListenerState.incomingOpcode, hbuf, ntohs_loadOpcode_completed host _ datagram hsize]
  rw [opcodeOf, hbyte 0 (by decide), hbyte 1 (by decide), opcodeOf]

/-- A request has a whole opcode. -/
theorem two_le_of_requestOperation {operation : OperationId}
    (h : requestOperation (opcodeOf datagram) = some operation) : 2 ≤ datagram.length := by
  by_contra hshort
  have hlow : datagram.getD 1 0 = 0 := by
    rw [List.getD_eq_getElem?_getD, List.getElem?_eq_none (by omega)]
    rfl
  have hmod : (opcodeOf datagram).toNat % 256 = 0 := by
    rw [opcodeOf, be16_toNat, hlow]
    simp
  unfold requestOperation at h
  split at h
  · rename_i hop
    rw [hop] at hmod
    revert hmod
    decide
  · split at h
    · rename_i hop
      rw [hop] at hmod
      revert hmod
      decide
    · split at h
      · rename_i hop
        rw [hop] at hmod
        revert hmod
        decide
      · cases h

theorem contents_cleared (mem : ListenerMemory)
    (hbuf : s.requestBuffer = (Buffer.zero requestBufferSize).receive datagram)
    (htwo : 2 ≤ datagram.length) (hlen : datagram.length ≤ requestBufferSize) :
    s.contents mem =
      datagram.drop 2 ++ List.replicate (requestBufferSize - datagram.length) 0 ++ mem.slack := by
  rw [ListenerState.contents, hbuf, Buffer.receive_zero_bytes hlen, List.append_assoc,
    List.drop_append_of_le_length htwo, List.append_assoc]

/-- A request that leaves two bytes of the cleared buffer is parsed by the grammar, the
path cut at the longest filename. -/
theorem serverParseRequestData_cleared (host : Host) (mem : ListenerMemory)
    (hbuf : s.requestBuffer = (Buffer.zero requestBufferSize).receive datagram)
    (hbytes : s.bytesReceived = datagram.length) (hlen : datagram.length + 2 ≤ requestBufferSize)
    {operation : OperationId} (hop : requestOperation (opcodeOf datagram) = some operation) :
    ∃ args, serverParseRequestData host mem s = some (some args) ∧
      args.operation = operation ∧ args.peer = s.clientAddress ∧
      cstr args.filename =
        some (serverStoragePath ++ (requestField 0 datagram).take tftpFilenameMax) ∧
      args.mode.map cstr = (grammarMode operation datagram).map some ∧
      args.blocksize.map cstr = (grammarBlocksize operation datagram).map some := by
  have htwo := two_le_of_requestOperation hop
  have hcontents := contents_cleared mem hbuf htwo (by omega)
  have hopcode := incomingOpcode_cleared host hbuf
  have hbody : (datagram.drop 2).length + 2 = datagram.length := by
    rw [List.length_drop]
    omega
  -- the datagram is followed by the `n` zeros that are left of the buffer
  obtain ⟨n, hn⟩ : ∃ n, n = requestBufferSize - datagram.length := ⟨_, rfl⟩
  have hname := cstr_drop_padded (datagram.drop 2) mem.slack n 0 (Nat.zero_le _) (by omega)
  rw [List.drop_zero, List.drop_zero] at hname
  obtain ⟨filePath, hcat, hpath⟩ := strncat_padded serverStoragePath_ne_zero hname
    tftpFilenameMax (tftpFilenameMax * 2 - serverStoragePath.length) (by decide)
  rw [← hn] at hcontents
  unfold serverParseRequestData
  simp only [hcontents, initialFilePath, hcat, hopcode, hop, Option.bind_eq_bind, Option.bind_some]
  by_cases hdelete : operation = .handleDelete
  · subst hdelete
    exact ⟨_, rfl, rfl, rfl, hpath, rfl, rfl⟩
  · have hnameLen := takeWhile_length_le (· ≠ 0) (datagram.drop 2)
    -- the fields behind the filename start behind its terminator
    obtain ⟨blocksize, hfield, hblocksize⟩ := blocksizeField_padded (datagram.drop 2)
      mem.slack n (((datagram.drop 2).takeWhile (· ≠ 0)).length + 1) (by omega) (by omega)
    have hmode := cstr_drop_padded (datagram.drop 2) mem.slack n
      (((datagram.drop 2).takeWhile (· ≠ 0)).length + 1) (by omega) (by omega)
    rw [hbody, ← hbytes] at hfield
    refine ⟨{
      operation := operation
      peer := s.clientAddress
      filename := filePath
      mode := some ((datagram.drop 2 ++ List.replicate n 0 ++ mem.slack).drop
        (((datagram.drop 2).takeWhile (· ≠ 0)).length + 1))
      blocksize := blocksize }, ?_, rfl, rfl, hpath, ?_, ?_⟩
    · cases operation with
      | handleDelete => exact absurd rfl hdelete
      | _ => simp only [strlen_of_cstr hname, Option.bind_some, hfield]
    · rw [grammarMode, if_neg hdelete, Option.map_some, hmode]
      rfl
    · rw [hblocksize, grammarBlocksize, if_neg hdelete]
      show (if SameIgnoringCase (requestField 2 datagram) tftpBlksizeString then
        some (some (requestField 3 datagram)) else none) = _
      by_cases hsame : SameIgnoringCase (requestField 2 datagram) tftpBlksizeString
      · rw [if_pos hsame, if_pos hsame, Option.map_some]
      · rw [if_neg hsame, if_neg hsame, Option.map_none]

/-- The state of the listener when a request has been taken in. -/
def ListenerState.requested (s : ListenerState) (source : SockAddr) (datagram : List UInt8)
    (point : ListenerPoint) : ListenerState :=
  { s with
    point := point
    clientAddress := source
    bytesReceived := datagram.length
    requestBuffer := (Buffer.zero requestBufferSize).receive datagram }

/-- The dump of a datagram that leaves two bytes of the buffer stays inside it. -/
theorem readBytes_contents (mem : ListenerMemory) (t : ListenerState)
    (hlen : datagram.length + 2 ≤ requestBufferSize) :
    ∃ bytes, readBytes (t.contents mem) datagram.length = some bytes := by
  refine ⟨_, if_pos ?_⟩
  rw [ListenerState.contents, List.length_drop, List.length_append, t.requestBuffer.length_eq]
  omega

/-- From a cleared buffer, a request takes the listener to the search for a slot. -/
theorem run_request (host : Host) (mem : ListenerMemory) (source : SockAddr)
    (hpoint : s.point = .awaiting)
    (hzero : s.requestBuffer = Buffer.zero requestBufferSize)
    (hlen : datagram.length + 2 ≤ requestBufferSize) {operation : OperationId}
    (hop : requestOperation (opcodeOf datagram) = some operation) :
    Run (serverListenerLoop host mem) s
      [.recvfrom requestBufferSize (.datagram source datagram), .poll false]
      (s.requested source datagram .acquiring) := by
  have htwo := two_le_of_requestOperation hop
  have hreceived : s.onReceived (.datagram source datagram) =
      s.requested source datagram .received := by
    have hmin : min (datagram.length : Int) requestBufferSize = datagram.length := by omega
    simp only [ListenerState.onReceived, ListenerState.requested, hzero, hmin]
  have hopcode : (s.requested source datagram .received).incomingOpcode host = opcodeOf datagram :=
    incomingOpcode_cleared host rfl
  obtain ⟨dump, hdump⟩ :=
    readBytes_contents mem (s.requested source datagram .received) hlen
  -- the dump reads inside the buffer, and the opcode is that of a request
  have hdispatch : (s.requested source datagram .received).dispatch host mem =
      s.requested source datagram .acquiring := by
    have hbytes : ¬ (s.requested source datagram .received).bytesReceived ≤ 0 := by
      simp only [ListenerState.requested]
      omega
    have hcount : (s.requested source datagram .received).bytesReceived.toNat =
        datagram.length := rfl
    simp only [ListenerState.dispatch, hbytes, if_false, hcount, hdump, hopcode, hop]
    rfl
  have hrun := ListenerState.run_dispatch host mem hpoint
    (.datagram source datagram)
  rw [hreceived, hdispatch] at hrun
  exact hrun

/-- From a cleared buffer, a request that finds a slot is handed to
`tftp_init_operation_data` field by field. -/
theorem run_parse (host : Host) (mem : ListenerMemory) (source : SockAddr)
    (datagram : List UInt8) (hpoint : s.point = .awaiting)
    (hzero : s.requestBuffer = Buffer.zero requestBufferSize)
    (hlen : datagram.length + 2 ≤ requestBufferSize)
    (hop : requestOperation (opcodeOf datagram) ≠ none)
    (hname : (requestField 0 datagram).length ≤ tftpFilenameMax) (slot : Nat) :
    ∃ args,
      Run (serverListenerLoop host mem) s
        [.recvfrom requestBufferSize (.datagram source datagram), .poll false,
          .acquire (some slot)]
        (s.requested source datagram (.initializing slot args)) ∧
      ArgumentsMatch args source datagram := by
  obtain ⟨operation, hoperation⟩ := Option.ne_none_iff_exists'.mp hop
  have hrequest := run_request host mem source hpoint hzero hlen
    hoperation
  obtain ⟨args, hparse, hargs, hpeer, hpath, hmode, hblocksize⟩ :=
    serverParseRequestData_cleared host mem
      (s := s.requested source datagram .acquiring) rfl rfl hlen hoperation
  rw [List.take_of_length_le hname] at hpath
  refine ⟨args, hrequest.append (Run.single (e := Event.acquire (some slot)) ?_),
    { operation := by rw [hargs, hoperation]
      peer := hpeer
      path := hpath
      mode := by rw [hargs]; exact hmode
      blocksize := by rw [hargs]; exact hblocksize }⟩
  show some ((s.requested source datagram .acquiring).onAcquired host mem (some slot)) = _
  simp only [ListenerState.onAcquired, hparse]
  rfl

end Parse

/-- Whatever the listener handled before, the arguments it hands to
`tftp_init_operation_data` for a request are those of the grammar on that request's
datagram alone. -/
theorem request_follows_grammar (host : Host) (mem : ListenerMemory) {history : List Event}
    {s : ListenerState}
    (h : Run (serverListenerLoop host mem) ListenerState.start history s)
    (hpoint : s.point = .awaiting) (source : SockAddr) (datagram : List UInt8)
    (hlen : datagram.length ≤ 512)
    (hop : requestOperation (opcodeOf datagram) ≠ none)
    (hname : (requestField 0 datagram).length ≤ tftpFilenameMax) (slot : Nat) :
    ∃ t args,
      Run (serverListenerLoop host mem) s
        [.recvfrom requestBufferSize (.datagram source datagram), .poll false,
          .acquire (some slot)] t ∧
      t.point = .initializing slot args ∧ ArgumentsMatch args source datagram := by
  have hfit : datagram.length + 2 ≤ requestBufferSize := by
    simp only [requestBufferSize, sizeofPacket, tftpFilenameMax]
    omega
  obtain ⟨args, hrun, hmatch⟩ := run_parse host mem source datagram hpoint
    (ListenerState.buffer_zero_of_run h hpoint) hfit hop hname slot
  exact ⟨_, args, hrun, rfl, hmatch⟩

set_option maxRecDepth 8000 in
/-- A read request with a block size, behind one that left a longer request in the
buffer. -/
theorem request_follows_grammar_reused :
    ∃ s t args,
      Run (serverListenerLoop littleHost ListenerMemory.strict) ListenerState.start
        [.poll false,
          .recvfrom requestBufferSize (.datagram (localhost 50001)
            ([0, 6] ++ ascii "a-much-longer-name-than-the-next" ++ [0])),
          .poll false, .acquire none,
          .sendto (localhost 50001) (errorPacket ListenerState.noSlotReply) true, .poll false] s ∧
      Run (serverListenerLoop littleHost ListenerMemory.strict) s
        [.recvfrom requestBufferSize (.datagram (localhost 50002)
            ([0, 1] ++ ascii "a" ++ [0] ++ ascii "OCTET" ++ [0] ++ ascii "BlkSize" ++ [0] ++
              ascii "1024" ++ [0])),
          .poll false, .acquire (some 0)] t ∧
      t.point = .initializing 0 args ∧
      ArgumentsMatch args (localhost 50002)
        ([0, 1] ++ ascii "a" ++ [0] ++ ascii "OCTET" ++ [0] ++ ascii "BlkSize" ++ [0] ++
          ascii "1024" ++ [0]) := by
  -- the first request finds no slot and is refused; what it left is cleared away
  have hrun : ∃ s, Run (serverListenerLoop littleHost ListenerMemory.strict) ListenerState.start
      [.poll false,
        .recvfrom requestBufferSize (.datagram (localhost 50001)
          ([0, 6] ++ ascii "a-much-longer-name-than-the-next" ++ [0])),
        .poll false, .acquire none,
        .sendto (localhost 50001) (errorPacket ListenerState.noSlotReply) true, .poll false] s ∧
      s.point = .awaiting := exists_run_of_exec (by decide)
  obtain ⟨s, hs, hpoint⟩ := hrun
  obtain ⟨t, args, ht, hinit, hmatch⟩ := request_follows_grammar littleHost ListenerMemory.strict
    hs hpoint (localhost 50002)
    ([0, 1] ++ ascii "a" ++ [0] ++ ascii "OCTET" ++ [0] ++ ascii "BlkSize" ++ [0] ++
      ascii "1024" ++ [0]) (by decide) (by decide) (by decide) 0
  exact ⟨s, t, args, hs, ht, hinit, hmatch⟩

end Stftpu
