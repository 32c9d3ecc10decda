import Stftpu.Server.RoundTrip
import Stftpu.Server.Task

/-!
# Names and paths

The buffer holds names of up to 507 bytes and more, but `server_parse_request_data` appends at
most 255 of them to the storage path and goes on with what it has, so names that agree so far
are names of one file.

* `CarriedOut` — a request leads to an operation.
* `CarriedOut.path_eq` — the path of the operation.
* `RemovesOnly` — the path is the only one a task removes.
* `requests_apart_iff` — the requests whose paths are their own.
-/

namespace Stftpu

open Library

/-! ## From the request to the path -/

/-- A request of at most 512 bytes, taken in whenever the listener awaits one, becomes an
operation. -/
structure CarriedOut (host : Host) (mem : ListenerMemory) (datagram : List UInt8)
    (op : OperationData) : Prop where
  request : requestOperation (opcodeOf datagram) ≠ none
  length_le : datagram.length ≤ 512
  run : ∃ history s source slot socket t,
    Run (serverListenerLoop host mem) ListenerState.start history s ∧ s.point = .awaiting ∧
      Run (serverListenerLoop host mem) s
        [.recvfrom requestBufferSize (.datagram source datagram), .poll false,
          .acquire (some slot), .dataSocket socket] t ∧
      t.point = .spawning slot op

/-- The name a request is about. -/
def requestName (datagram : List UInt8) : List UInt8 :=
  requestField 0 datagram

section Path

variable {host : Host} {mem : ListenerMemory} {datagram : List UInt8} {op : OperationData}

/-- The listener creates a task for the operation it was given, and for no other. -/
theorem created_of_spawning {s : ListenerState} {slot slot' : Nat} {args : InitArguments}
    {socket : DataSocket} (h : (s.onInitialized slot args socket).point = .spawning slot' op) :
    tftpInitOperationData socket args = some (.created op) := by
  cases houtcome : tftpInitOperationData socket args with
  | none =>
      simp only [ListenerState.onInitialized, houtcome] at h
      split at h <;> cases h
  | some outcome =>
      simp only [ListenerState.onInitialized, houtcome] at h
      cases outcome with
      | exits => cases h
      | rejected fd reply =>
          simp only at h
          split at h
          · cases h
          · unfold ListenerState.freeOperationData at h
            split at h <;> cases h
      | created op' =>
          obtain ⟨-, rfl⟩ := ListenerPoint.spawning.inj h
          rfl

/-- The operation has the server's identifier for the request, and the path of its name, cut
at 255 bytes. -/
theorem CarriedOut.operation_eq (h : CarriedOut host mem datagram op) :
    requestOperation (opcodeOf datagram) = some op.operationId ∧
      op.path = serverStoragePath ++ (requestName datagram).take tftpFilenameMax := by
  obtain ⟨history, s, source, slot, socket, t, hhistory, hpoint, hrun, hspawning⟩ := h.run
  obtain ⟨operation, hoperation⟩ := Option.ne_none_iff_exists'.mp h.request
  have hlen := h.length_le
  have hfit : datagram.length + 2 ≤ requestBufferSize := by
    simp only [requestBufferSize, sizeofPacket, tftpFilenameMax]
    omega
  have hzero := ListenerState.buffer_zero_of_run hhistory hpoint
  have hrequest := run_request host mem source hpoint hzero hfit hoperation
  obtain ⟨args, hparse, hargs, -, hpath, -, -⟩ :=
    serverParseRequestData_cleared host mem
      (s := s.requested source datagram .acquiring) rfl rfl hfit hoperation
  -- the first two calls lead to the search for a slot, the third to the arguments
  obtain ⟨t₁, hfirst, hrest⟩ := Run.split (show Run (serverListenerLoop host mem) s
    ([.recvfrom requestBufferSize (.datagram source datagram), .poll false] ++
      [.acquire (some slot), .dataSocket socket]) t from hrun)
  obtain rfl := hrequest.deterministic hfirst
  obtain ⟨t₂, hacquire, hrest⟩ := hrest.of_cons
  have hinit := hrest.step_of_single
  have ht₂ : t₂ = s.requested source datagram (.initializing slot args) := by
    have hstep : some ((s.requested source datagram .acquiring).onAcquired host mem
        (some slot)) = some t₂ := hacquire
    simp only [ListenerState.onAcquired, hparse, Option.some.injEq] at hstep
    exact hstep.symm
  subst ht₂
  have ht : (s.requested source datagram (.initializing slot args)).onInitialized slot args
      socket = t := Option.some.inj hinit
  rw [← ht] at hspawning
  have hcreated := created_of_spawning hspawning
  obtain ⟨fd, port, -, rfl, -⟩ := created_bound hcreated
  obtain ⟨hid, hopPath, -⟩ := created_fields hcreated hpath
  exact ⟨by rw [hoperation, hid, hargs], hopPath⟩

theorem CarriedOut.path_eq (h : CarriedOut host mem datagram op) :
    op.path = serverStoragePath ++ (requestName datagram).take tftpFilenameMax :=
  h.operation_eq.2

/-- The operation is about the file of its request's name exactly if that was not cut. -/
theorem CarriedOut.path_exact_iff (h : CarriedOut host mem datagram op) :
    op.path = serverStoragePath ++ requestName datagram ↔
      (requestName datagram).length ≤ tftpFilenameMax := by
  rw [h.path_eq, List.append_cancel_left_eq, List.take_eq_self_iff]

end Path

/-! ## The deletion of a file -/

/-- Whatever the task of an operation removes, it is this path. -/
def RemovesOnly (host : Host) (op : OperationData) (path : List UInt8) : Prop :=
  ∀ tr t, Run (serverTaskStart host) (.starting op) tr t →
    ∀ removed error, Event.remove removed error ∈ tr → removed = path

section Removes

variable {host : Host} {op : OperationData} {t t' : TaskState} {e : Event}

/-- The task of a deletion is at its file, or past it. -/
def TaskState.Deletes (op : OperationData) : TaskState → Prop
  | .starting op' => op' = op
  | .deleting _ op' => op' = op
  | .closingSocket _ _ => True
  | .releasing _ => True
  | .ended _ => True
  | _ => False

theorem TaskState.deletes_freeOperationData (op' : OperationData) (result : Option Bool) :
    (freeOperationData op' result).Deletes op := by
  unfold freeOperationData
  split <;> trivial

/-- A step of a deletion removes its own file, if any. -/
theorem TaskState.deletes_step (hop : op.operationId = .handleDelete) (h : t.Deletes op)
    (hstep : serverTaskStart host t e = some t') :
    t'.Deletes op ∧ ∀ removed error, e = .remove removed error → removed = op.path := by
  cases task_called hstep with
  | starting op' set =>
      obtain rfl : op' = op := h
      refine ⟨?_, by simp⟩
      cases set with
      | true => trivial
      | false =>
          simp only [Bool.false_eq_true, if_false, dispatch, hop]
          rfl
  | deleting point op' hdelete =>
      obtain rfl : op' = op := h
      have hdeletes : t'.Deletes op' := by
        rcases deleting_step hdelete with ⟨point', rfl⟩ | ⟨result, rfl⟩
        · rfl
        · exact deletes_freeOperationData _ _
      refine ⟨hdeletes, ?_⟩
      rintro removed error rfl
      cases delete_called hdelete with
      | removed => rfl
      | kept errno => rfl
  | closingSocket op' result => exact ⟨trivial, by simp⟩
  | releasing result => exact ⟨trivial, by simp⟩
  | _ => exact h.elim

theorem removes_own (hop : op.operationId = .handleDelete) : RemovesOnly host op op.path := by
  intro tr t hrun
  have hown : t.Deletes op ∧ ∀ removed error, Event.remove removed error ∈ tr →
      removed = op.path := by
    induction hrun with
    | nil => exact ⟨rfl, by simp⟩
    | snoc hrun hs ih =>
        obtain ⟨hdeletes, hremoved⟩ := TaskState.deletes_step hop ih.1 hs
        refine ⟨hdeletes, ?_⟩
        intro removed error hmem
        rcases List.mem_append.mp hmem with hbefore | hlast
        · exact ih.2 removed error hbefore
        · exact hremoved removed error (List.mem_singleton.mp hlast).symm
  exact hown.2

/-- A deletion that finds its file. -/
def deletionTrace (op : OperationData) : List Event :=
  [.poll false, .sendto op.peerAddress (ackPacket 0) true, .fopen op.path .read none, .fclose 0,
    .remove op.path none]

theorem run_deletionTrace (hop : op.operationId = .handleDelete) :
    Run (serverTaskStart host) (.starting op) (deletionTrace op) (.deleting .confirming op) := by
  refine run_iff_exec.mpr ?_
  simp [deletionTrace, exec, serverTaskStart, TaskState.dispatch, hop, serverDeleteFile]

theorem removesOnly_iff (hop : op.operationId = .handleDelete) (path : List UInt8) :
    RemovesOnly host op path ↔ op.path = path := by
  constructor
  · intro honly
    exact honly _ _ (run_deletionTrace hop) op.path none (by simp [deletionTrace])
  · rintro rfl
    exact removes_own hop

end Removes

/-! ## From the client's request -/

/-- The request for a deletion that a client sends names the last component of its path. -/
theorem requestName_of_client {socket : DataSocket} {args : InitArguments}
    {client : OperationData} {packet : List UInt8}
    (hinit : tftpInitOperationData socket args = some (.created client))
    (hdelete : args.operation = .requestDelete)
    (hsend : sendRequestPacket client = some (.built packet)) :
    opcodeOf packet = TFTPOpcode.drq.code ∧ requestName packet = afterLast 47 client.path := by
  have hlen := created_length_lt hinit
  obtain ⟨fd, port, path, rfl, hpath⟩ := created_bound hinit
  obtain ⟨hid, hopPath, hpathLen, hmode, -⟩ := created_fields hinit hpath
  have hrequest : client.operationId = .requestDelete := hid.trans hdelete
  have htext : ∀ c ∈ client.path, c ≠ 0 := by
    rw [hopPath]
    exact (cstr_eq_some hpath).1
  have hpacket : sendRequestPacket client =
      some (.built (requestBytes client .drq (afterLast 47 client.path))) :=
    sendRequestPacket_eq_of_lt (by rw [hrequest]; rfl) hmode htext hlen
      (by rw [hpathLen, hopPath]) (fun hnot => absurd hrequest hnot)
  obtain rfl := RequestPacket.built.inj (Option.some.inj (hpacket.symm.trans hsend))
  exact ⟨opcodeOf_requestBytes,
    requestField_zero fun c hc => htext c (mem_of_mem_afterLast hc)⟩

/-- Two requests for different names that are both carried out lead to different paths exactly
if the names differ in their first 255 bytes, and each to the path of its own name exactly if
that has no more; so a client's deletion removes no other file than the one it names exactly if
the name has at most 255 bytes. -/
theorem requests_apart_iff (host : Host) (mem : ListenerMemory) :
    (∀ datagram₁ datagram₂ op₁ op₂, CarriedOut host mem datagram₁ op₁ →
      CarriedOut host mem datagram₂ op₂ →
      ((requestName datagram₁ ≠ requestName datagram₂ → op₁.path ≠ op₂.path) ↔
        (requestName datagram₁ ≠ requestName datagram₂ →
          (requestName datagram₁).take tftpFilenameMax ≠
            (requestName datagram₂).take tftpFilenameMax)) ∧
      (op₁.path = serverStoragePath ++ requestName datagram₁ ↔
        (requestName datagram₁).length ≤ tftpFilenameMax)) ∧
    ∀ socket args client packet op,
      tftpInitOperationData socket args = some (.created client) →
      args.operation = .requestDelete →
      sendRequestPacket client = some (.built packet) → CarriedOut host mem packet op →
      (RemovesOnly host op (serverStoragePath ++ afterLast 47 client.path) ↔
        (afterLast 47 client.path).length ≤ tftpFilenameMax) := by
  constructor
  · intro datagram₁ datagram₂ op₁ op₂ h₁ h₂
    refine ⟨?_, h₁.path_exact_iff⟩
    rw [h₁.path_eq, h₂.path_eq]
    exact imp_congr_right fun _ => not_congr (by rw [List.append_cancel_left_eq])
  · intro socket args client packet op hinit hdelete hsend hcarried
    obtain ⟨hopcode, hname⟩ := requestName_of_client hinit hdelete hsend
    have hop : op.operationId = .handleDelete := by
      have hoperation := hcarried.operation_eq.1
      rw [hopcode] at hoperation
      exact (Option.some.inj hoperation).symm
    rw [removesOnly_iff hop, ← hname]
    exact hcarried.path_exact_iff

section FixedRuns

/-- The request for the deletion of a file. -/
def deleteRequest (name : List UInt8) : List UInt8 :=
  [0, 6] ++ name ++ [0]

theorem requestName_deleteRequest {name : List UInt8} (hname : ∀ c ∈ name, c ≠ 0) :
    requestName (deleteRequest name) = name :=
  nulField_zero_terminated hname []

/-- Every one that fits is carried out. -/
theorem exists_carriedOut (host : Host) (mem : ListenerMemory) {name : List UInt8}
    (hlen : name.length ≤ 509) : ∃ op, CarriedOut host mem (deleteRequest name) op := by
  have hlength : (deleteRequest name).length ≤ 512 := by
    simp only [deleteRequest, List.length_append, List.length_cons, List.length_nil]
    omega
  have hfit : (deleteRequest name).length + 2 ≤ requestBufferSize := by
    simp only [requestBufferSize, sizeofPacket, tftpFilenameMax]
    omega
  have hopcode : opcodeOf (deleteRequest name) = TFTPOpcode.drq.code := opcodeOf_eq_of_take rfl
  have hop : requestOperation (opcodeOf (deleteRequest name)) = some .handleDelete := by
    rw [hopcode]
    rfl
  have hstart : Run (serverListenerLoop host mem) ListenerState.start [.poll false]
      { ListenerState.start with point := .awaiting } := Run.single rfl
  obtain ⟨s, hs⟩ : ∃ s, s = { ListenerState.start with point := .awaiting } := ⟨_, rfl⟩
  have hrequest := run_request host mem (localhost 50001) (s := s) (by rw [hs])
    (by rw [hs]; rfl) hfit hop
  -- from the cleared buffer the parser reads the request as it was sent
  obtain ⟨args, hparse, hargs, -, hpath, -, -⟩ :=
    serverParseRequestData_cleared host mem
      (s := s.requested (localhost 50001) (deleteRequest name) .acquiring) rfl rfl hfit hop
  -- the storage directory and a cut name are far below what a `uint16_t` holds
  have hpathLen : (serverStoragePath ++
      (requestField 0 (deleteRequest name)).take tftpFilenameMax).length < 65535 := by
    have hstorage : serverStoragePath.length = 8 := by decide
    have hname := List.length_take_le tftpFilenameMax (requestField 0 (deleteRequest name))
    simp only [tftpFilenameMax] at hname
    rw [List.length_append, hstorage, tftpFilenameMax]
    omega
  obtain ⟨op, hinit⟩ : ∃ op, tftpInitOperationData (.bound 4 49152) args = some (.created op) :=
    ⟨_, tftpInitOperationData_delete hpath hpathLen (by rw [hargs]; rfl)⟩
  -- the two calls behind the dispatch: the slot, then the data socket
  have hacquire : serverListenerLoop host mem
      (s.requested (localhost 50001) (deleteRequest name) .acquiring) (.acquire (some 0)) =
      some (s.requested (localhost 50001) (deleteRequest name) (.initializing 0 args)) := by
    show some (ListenerState.onAcquired host mem _ (some 0)) = _
    simp only [ListenerState.onAcquired, hparse]
    rfl
  have hspawn : serverListenerLoop host mem
      (s.requested (localhost 50001) (deleteRequest name) (.initializing 0 args))
      (.dataSocket (.bound 4 49152)) =
      some { s.requested (localhost 50001) (deleteRequest name) (.initializing 0 args) with
        point := .spawning 0 op } := by
    show some (ListenerState.onInitialized _ 0 args (.bound 4 49152)) = _
    simp only [ListenerState.onInitialized, hinit]
  rw [← hs] at hstart
  refine ⟨op, by rw [hop]; simp, hlength, ?_⟩
  exact ⟨_, s, localhost 50001, 0, .bound 4 49152, _, hstart, by rw [hs],
    (hrequest.snoc hacquire).snoc hspawn, rfl⟩

/-- The deletions of `a` and of `b`. -/
theorem requests_apart_short : ∃ op₁ op₂,
    CarriedOut littleHost .strict (deleteRequest (ascii "a")) op₁ ∧
      CarriedOut littleHost .strict (deleteRequest (ascii "b")) op₂ ∧ op₁.path ≠ op₂.path := by
  obtain ⟨op₁, h₁⟩ := exists_carriedOut littleHost .strict
    (show (ascii "a").length ≤ 509 by decide)
  obtain ⟨op₂, h₂⟩ := exists_carriedOut littleHost .strict
    (show (ascii "b").length ≤ 509 by decide)
  refine ⟨op₁, op₂, h₁, h₂, ?_⟩
  exact ((requests_apart_iff littleHost .strict).1 _ _ op₁ op₂ h₁ h₂).1.mpr
    (fun _ => by decide) (by decide)

/-- A name of 255 bytes and one more. -/
def longName (last : UInt8) : List UInt8 :=
  List.replicate tftpFilenameMax 97 ++ [last]

theorem longName_ne_zero {last : UInt8} (hlast : last ≠ 0) : ∀ c ∈ longName last, c ≠ 0 := by
  intro c hc
  rcases List.mem_append.mp hc with hmem | hmem
  · rw [List.eq_of_mem_replicate hmem]
    decide
  · rw [List.mem_singleton.mp hmem]
    exact hlast

theorem longName_take (last : UInt8) :
    (longName last).take tftpFilenameMax = List.replicate tftpFilenameMax 97 := by
  rw [longName, List.take_append_of_le_length (by simp), List.take_of_length_le (by simp)]

/-- The deletions of two names of 256 bytes that differ in the last are one. -/
theorem requests_alias : ∃ op₁ op₂,
    CarriedOut littleHost .strict (deleteRequest (longName 98)) op₁ ∧
      CarriedOut littleHost .strict (deleteRequest (longName 99)) op₂ ∧
      requestName (deleteRequest (longName 98)) ≠ requestName (deleteRequest (longName 99)) ∧
      op₁.path = op₂.path := by
  have hlength : ∀ last, (longName last).length ≤ 509 := by
    intro last
    rw [longName, List.length_append, List.length_replicate, tftpFilenameMax]
    simp
  obtain ⟨op₁, h₁⟩ := exists_carriedOut littleHost .strict (hlength 98)
  obtain ⟨op₂, h₂⟩ := exists_carriedOut littleHost .strict (hlength 99)
  have hname₁ := requestName_deleteRequest (longName_ne_zero (show (98 : UInt8) ≠ 0 by decide))
  have hname₂ := requestName_deleteRequest (longName_ne_zero (show (99 : UInt8) ≠ 0 by decide))
  refine ⟨op₁, op₂, h₁, h₂, ?_, ?_⟩
  · rw [hname₁, hname₂, longName, longName]
    intro heq
    have hlast := List.append_cancel_left heq
    revert hlast
    decide
  · rw [h₁.path_eq, h₂.path_eq, hname₁, hname₂, longName_take, longName_take]

end FixedRuns

end Stftpu
