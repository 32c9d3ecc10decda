import Stftpu.Transfer.DeleteAgreement
import Stftpu.Transfer.Session

/-!
# A read over a lossy channel

The client asks for a file, and every copy of its request that arrives starts a task that
sends it, so that several tasks may be sending the blocks of one file at a time, each at a
block of its own.

* `DownloadTask`, `DownloadClient` — where a task and the client can be.
* `DownloadOk` — what holds of both and the packets between them.
* `read_agreement` — what a client that returned `true` has on its disk.
-/

namespace Stftpu

open Library

namespace TransferCase

variable {ν : Type} (c : TransferCase ν)

/-- Where a task that sends the file can be. -/
def DownloadTask (storage : Storage ν) (stream : Option (OpenFile ν)) : TaskState → Prop
  | .starting op => c.request.Serves op
  | .allocating op => c.request.Serves op
  | .filling s => FillsSupply c.blockSize c.request.path storage c.content stream s
  | .transmitting b s => b = c.blockSize ∧ ∃ k, SendsAt storage c.content stream k s
  | .closingFile _ _ => True
  | .closingSocket _ _ => True
  | .releasing _ => True
  | .ended _ => True
  | .fault => True
  | _ => False

/-- Where a client that receives the file can be. -/
def DownloadClient (files : Storage ν) (stream : Option (OpenFile ν)) : ClientState → Prop
  | .requesting op packet =>
      c.Asks .receive op ∧ packet = c.request.packet ∧ ReadOnly stream
  | .allocating op => c.Asks .receive op ∧ ReadOnly stream
  | .filling s =>
      FillsCollect c.blockSize c.path c.localName files stream s ∧
        Delivers c.localName files c.content stream
  | .receiving b s =>
      b = c.blockSize ∧ ∃ j ≤ chunkCount b.val c.content,
        CollectsAt c.localName files c.content stream j s
  | .closing _ outcome =>
      Delivers c.localName files c.content stream ∧
        (outcome = true → Collect c.localName files stream c.content ∧
          c.content.length % c.blockSize.val ≠ 0)
  | .returned _ outcome => outcome = true →
      files.lookup c.localName = some c.content ∧ c.content.length % c.blockSize.val ≠ 0
  | .exited => True
  | .fault => True
  | _ => False

/-- The client's file is as it was, or holds a beginning of the one sent. -/
def Partial (start files : Storage ν) : Prop :=
  files.lookup c.localName = start.lookup c.localName ∨
    ∃ held, files.lookup c.localName = some held ∧ held <+: c.content

/-- What holds of both programs and the packets between them. -/
structure DownloadOk (start storage : Storage ν) (s : Session ν) : Prop where
  server : c.request.ServerFor (fun k => c.DownloadTask s.storage (s.streams k)) s.server
  storage : s.storage = storage
  reads : ∀ k, ReadOnly (s.streams k)
  client : c.DownloadClient s.files s.stream s.client
  files : c.Partial start s.files
  toServer : ∀ packet ∈ s.toServer, c.request.Heard packet
  toClient : ∀ packet ∈ s.toClient, c.OfFile packet

/-! ## A task that sends -/

section Task

variable {c} {storage storage' : Storage ν} {stream stream' : Option (OpenFile ν)}
  {host : Host} {t t' : TaskState} {e : Event}

theorem downloadTask_freeOperationData (op : OperationData) (result : Option Bool) :
    c.DownloadTask storage stream (TaskState.freeOperationData op result) := by
  unfold TaskState.freeOperationData
  split <;> trivial

theorem downloadTask_afterFill {s : FillState}
    (h : FillsSupply c.blockSize c.request.path storage c.content stream s) :
    c.DownloadTask storage stream (TaskState.afterFill s) := by
  unfold TaskState.afterFill
  split
  · rename_i b tx hpoint
    obtain ⟨hb, hsends⟩ := h.ready hpoint
    rw [h.receiver, if_neg Bool.false_ne_true]
    exact ⟨hb, 0, hsends⟩
  · split
    · unfold TaskState.freeTransferData
      split
      · trivial
      · exact downloadTask_freeOperationData _ _
    · trivial
  · exact h

/-- No call of a task opens a file for writing or removes one. -/
theorem downloadTask_names (h : c.DownloadTask storage stream t)
    (hstep : serverTaskStart host t e = some t') : e.changesNames = false := by
  cases task_called hstep with
  | filling s s' hs => exact changesNames_of_quiet (FillsSupply.quiet h hs)
  | transmitting b s s' hs => exact changesNames_of_quiet (TransmitState.quiet hs)
  | starting op set => rfl
  | allocating op block => rfl
  | closingFile op result => rfl
  | closingSocket op result => rfl
  | releasing result => rfl
  | _ => exact h.elim

variable [DecidableEq ν]

/-- Every call of a task: the storage stays as it is, and what is sent is of the file. -/
theorem downloadTask_step (hsend : c.request.operation = .send)
    (h : c.DownloadTask storage stream t)
    (hfound : ∀ content, storage.lookup c.name = some content → content = c.content)
    (hwhole : e.ReadsWhole) (hstep : serverTaskStart host t e = some t')
    (haccess : accessFiles c.setup.resolve storage stream e = some (storage', stream')) :
    c.DownloadTask storage stream' t' ∧ ∀ packet ∈ launched e, c.OfFile packet := by
  have hsilent : launched e = [] → ∀ packet ∈ launched e, c.OfFile packet := by
    intro hlaunched
    rw [hlaunched]
    exact fun packet hmem => absurd hmem List.not_mem_nil
  cases task_called hstep with
  | starting op set =>
      refine ⟨?_, hsilent rfl⟩
      have hoperation : op.operationId = .send := h.operation.trans hsend
      cases set with
      | true => trivial
      | false =>
          simp only [TaskState.dispatch, hoperation, Bool.false_eq_true, if_false]
          exact h
  | allocating op block =>
      refine ⟨?_, hsilent rfl⟩
      have hoperation : op.operationId = .send := h.operation.trans hsend
      have hreceiver : decide (op.operationId = .receive) = false := by simp [hoperation]
      unfold TaskState.onAllocated
      rw [hreceiver]
      exact downloadTask_afterFill (fillsSupply_start block.isSome h.path h.size)
  | filling s s' hs =>
      obtain ⟨rfl, hfills⟩ := FillsSupply.step h hfound hs haccess
      refine ⟨downloadTask_afterFill hfills, ?_⟩
      intro packet hmem
      exact ⟨0, Or.inr (FillState.launched_fill hs hmem)⟩
  | transmitting b s s' hs =>
      obtain ⟨rfl, k, hsends⟩ := h
      obtain ⟨rfl, hnext, hsent⟩ := hsends.step hs hwhole haccess
      refine ⟨?_, fun packet hmem => ⟨k, hsent packet hmem⟩⟩
      unfold TaskState.afterTransmit
      split
      · trivial
      · rcases hnext with hsame | ⟨-, -, -, hnext⟩
        · exact ⟨rfl, k, hsame⟩
        · exact ⟨rfl, k + 1, hnext⟩
  | closingFile op result => exact ⟨downloadTask_freeOperationData _ _, hsilent rfl⟩
  | closingSocket op result => exact ⟨trivial, hsilent rfl⟩
  | releasing result => exact ⟨trivial, hsilent rfl⟩
  | _ => exact h.elim

end Task

/-! ## The client -/

section Client

variable {c} {start files files' : Storage ν} {stream stream' : Option (OpenFile ν)}
  {host : Host} {t t' : ClientState} {e : Event}

theorem downloadClient_afterFill {s : FillState}
    (h : FillsCollect c.blockSize c.path c.localName files stream s)
    (hdelivers : Delivers c.localName files c.content stream) :
    c.DownloadClient files stream (ClientState.afterFill s) := by
  unfold ClientState.afterFill
  split
  · rename_i b tx hpoint
    obtain ⟨hb, hcollects⟩ := h.ready hpoint c.content s.op
    rw [h.receiver, if_pos rfl]
    exact ⟨hb, 0, Nat.zero_le _, hcollects⟩
  · split
    · unfold ClientState.freeTransferData
      split
      · exact ⟨hdelivers, nofun⟩
      · exact nofun
    · trivial
  · exact ⟨h, hdelivers⟩

variable [DecidableEq ν]

/-- Every call of the client on packets of the file. -/
theorem downloadClient_step (hcount : chunkCount c.blockSize.val c.content ≤ 65535)
    (h : c.DownloadClient files stream t) (hheld : c.Partial start files)
    (hreceived : ∀ size source bytes, e = .recvfrom size (.datagram source bytes) →
      c.OfFile bytes) (hwrites : WritesAll e)
    (hstep : clientStartOperation host t e = some t')
    (haccess : accessFiles c.setup.resolveLocal files stream e = some (files', stream')) :
    c.DownloadClient files' stream' t' ∧ c.Partial start files' ∧
      ∀ packet ∈ launched e, c.request.Heard packet := by
  cases client_called hstep with
  | requesting op packet ok =>
      obtain ⟨hasks, rfl, hreads⟩ := h
      obtain ⟨rfl, rfl⟩ := Prod.mk.inj (Option.some.inj haccess)
      refine ⟨?_, hheld, ?_⟩
      · cases ok with
        | true =>
            simp only [ClientState.onRequested, if_true, hasks.operation,
              ClientState.acknowledged]
            exact ⟨hasks, hreads⟩
        | false =>
            intro hsuccess
            cases hsuccess
      · intro packet hmem
        obtain ⟨peer, he⟩ := mem_launched hmem
        obtain ⟨-, rfl, -⟩ := Event.sendto.inj he
        exact Or.inl rfl
  | allocating op block =>
      obtain ⟨hasks, hreads⟩ := h
      obtain ⟨rfl, rfl⟩ := Prod.mk.inj (Option.some.inj haccess)
      refine ⟨?_, hheld, fun packet hmem => absurd hmem List.not_mem_nil⟩
      simp only [ClientState.onAllocated, hasks.operation]
      exact downloadClient_afterFill (fillsCollect_start block.isSome hasks.path hasks.size)
        (Or.inl hreads)
  | filling s s' hs =>
      obtain ⟨hfills, hdelivers⟩ := h
      obtain ⟨hfills', hfiles⟩ := FillsCollect.step hfills hs haccess
      refine ⟨downloadClient_afterFill hfills' (hdelivers.fill hfills hs haccess), ?_, ?_⟩
      · rcases hfiles with rfl | ⟨-, rfl⟩
        · exact hheld
        · exact Or.inr ((collect_create haccess).lookup List.nil_prefix)
      · intro packet hmem
        obtain ⟨reply, rfl⟩ := FillState.launched_fill hs hmem
        exact heard_errorPacket reply
  | receiving b s s' hs =>
      obtain ⟨rfl, j, hj, hcollects⟩ := h
      have hexpected : ∀ size source bytes, e = .recvfrom size (.datagram source bytes) →
          Receiver.Expected c.blockSize c.content j bytes ∨ Receiver.Foreign bytes := by
        intro size source bytes he
        obtain ⟨k, hpacket⟩ := hreceived size source bytes he
        exact Or.inl (hpacket.expected hcount hj)
      obtain ⟨hnext, hsent⟩ := hcollects.step hs haccess hexpected hwrites
      have hcollects' : ∃ j ≤ chunkCount c.blockSize.val c.content,
          CollectsAt c.localName files' c.content stream' j s' := by
        rcases hnext with ⟨-, hsame⟩ | ⟨-, hlt, -, hnext⟩
        · exact ⟨j, hj, hsame⟩
        · exact ⟨j + 1, hlt, hnext⟩
      obtain ⟨j', hj', hat⟩ := hcollects'
      obtain ⟨written, hcollect, hleading⟩ := hat.written_prefix
      refine ⟨?_, Or.inr (hcollect.lookup hleading), ?_⟩
      · unfold ClientState.afterReceive
        split
        · rename_i exit hpoint
          refine ⟨hat.delivers, ?_⟩
          intro hvalue
          have hexit : exit = .success := by
            cases exit with
            | success => rfl
            | failure => cases hvalue
            | peerError => cases hvalue
          rw [hexit] at hpoint
          exact hat.success hpoint
        · trivial
        · exact ⟨rfl, j', hj', hat⟩
      · intro packet hmem
        rcases hsent packet hmem with ⟨-, rfl⟩ | ⟨reply, rfl⟩
        · exact heard_ackPacket _
        · exact heard_errorPacket reply
  | closing op outcome =>
      obtain ⟨hdelivers, hwritten⟩ := h
      refine ⟨?_, ?_, fun packet hmem => absurd hmem List.not_mem_nil⟩
      · intro houtcome
        obtain ⟨hcollect, hshort⟩ := hwritten houtcome
        obtain ⟨held, hlookup, -, hheld⟩ := hcollect.close haccess
        obtain rfl := hheld hwrites
        exact ⟨hlookup, hshort⟩
      · rcases hdelivers.close haccess with rfl | hpartial
        · exact hheld
        · exact Or.inr hpartial
  | _ => exact h.elim

end Client

/-! ## Every run -/

section Runs

variable {c} {start storage : Storage ν} {s s' : Session ν}

/-- A client that has returned `true` has the file of the server. -/
theorem DownloadOk.fetched {op : OperationData} (h : c.DownloadOk start storage s)
    (hcontent : (storage.lookup c.name).getD [] = c.content)
    (hreturned : s.client = .returned op true) :
    storage.lookup c.name = some c.content ∧ s.files.lookup c.localName = some c.content := by
  have hclient := h.client
  rw [hreturned] at hclient
  obtain ⟨hlookup, hshort⟩ := hclient rfl
  refine ⟨lookup_of_ne_nil hcontent ?_, hlookup⟩
  intro hnil
  rw [hnil] at hshort
  exact hshort (Nat.zero_mod _)

variable [DecidableEq ν]

theorem DownloadOk.clientMove {e : Event} (h : c.DownloadOk start storage s)
    (hcount : chunkCount c.blockSize.val c.content ≤ 65535) (hwrites : WritesAll e)
    (hstep : lossySession c.setup s (.client e) = some s') : c.DownloadOk start storage s' := by
  obtain ⟨hcarried, hclient, haccess, hserver, hstorage, hstreams, htoClient, htoServer⟩ :=
    session_client hstep
  have hreceived : ∀ size source bytes, e = .recvfrom size (.datagram source bytes) →
      c.OfFile bytes := by
    rintro size source bytes rfl
    exact h.toClient bytes hcarried
  obtain ⟨hclient', hheld, hsent⟩ :=
    downloadClient_step hcount h.client h.files hreceived hwrites hclient haccess
  refine ⟨?_, hstorage.trans h.storage, by rw [hstreams]; exact h.reads, hclient', hheld, ?_, ?_⟩
  · rw [hserver, hstorage, hstreams]
    exact h.server
  · intro packet hmem
    rw [htoServer] at hmem
    rcases List.mem_append.mp hmem with hold | hnew
    · exact h.toServer packet hold
    · exact hsent packet hnew
  · rw [htoClient]
    exact h.toClient

theorem DownloadOk.serverMove {m : ProcessMove} (h : c.DownloadOk start storage s)
    (hsend : c.request.operation = .send)
    (hfound : ∀ content, storage.lookup c.name = some content → content = c.content)
    (hwhole : (SessionMove.server m).WholeFiles)
    (hstep : lossySession c.setup s (.server m) = some s') : c.DownloadOk start storage s' := by
  obtain ⟨hcarried, hserver, hclient, hfiles, hstream, htoServer, htoClient, hstreams⟩ :=
    session_server hstep
  have hreaches := reaches_of_heard h.toServer hcarried
  rw [← h.storage] at hfound
  -- what a task sends, and what the listener sends
  have hsent : ∀ packet ∈ m.launched, c.OfFile packet := by
    intro packet hmem
    obtain ⟨e, hcall, hlaunched⟩ := mem_launched_move hmem
    cases m with
    | listener e' =>
        obtain rfl := Option.some.inj hcall
        exact ⟨0, Or.inr (launched_listener hserver hlaunched)⟩
    | task k e' =>
        obtain rfl := Option.some.inj hcall
        obtain ⟨task, t, t', htask, hstate, -, hcalled, -⟩ := task_eq hserver
        rcases hstreams with ⟨hnot, -⟩ | ⟨k', e, file, hm, haccess, -⟩
        · exact absurd rfl (hnot k e')
        · obtain ⟨rfl, rfl⟩ := ProcessMove.task.inj hm
          exact (downloadTask_step hsend (h.server.running k task t htask hstate) hfound hwhole.2
            hcalled haccess).2 packet hlaunched
    | _ => cases hcall
  -- no task has a stream for writing
  have hstorage : s'.storage = s.storage ∧ ∀ k, ReadOnly (s'.streams k) := by
    rcases hstreams with ⟨-, hsame, hkept⟩ | ⟨k, e, file, rfl, haccess, hupdate⟩
    · exact ⟨hsame, by rw [hkept]; exact h.reads⟩
    · obtain ⟨task, t, t', htask, hstate, -, hcalled, -⟩ := task_eq hserver
      have hnames := downloadTask_names (h.server.running k task t htask hstate) hcalled
      obtain ⟨hsame, hreads⟩ := access_reading (h.reads k) hnames haccess
      refine ⟨hsame, ?_⟩
      intro j
      rw [hupdate]
      by_cases hne : j = k
      · rw [hne, Function.update_self]
        exact hreads
      · rw [Function.update_of_ne hne]
        exact h.reads j
  obtain ⟨hstorage, hreads⟩ := hstorage
  refine ⟨?_, hstorage.trans h.storage, hreads, by rw [hfiles, hstream, hclient]; exact h.client,
    by rw [hfiles]; exact h.files, by rw [htoServer]; exact h.toServer, ?_⟩
  · refine h.server.step hreaches hserver ?_ (fun _ _ _ hserves => hserves) ?_
      (fun _ _ _ => trivial)
    · -- the streams of the other tasks are as they were
      intro k t hnot htask
      rw [hstorage]
      rcases hstreams with ⟨-, -, hsame⟩ | ⟨k', e, file, rfl, -, hupdate⟩
      · rw [hsame]
        exact htask
      · have hne : k ≠ k' := by
          rintro rfl
          exact hnot e rfl
        rw [hupdate, Function.update_of_ne hne]
        exact htask
    · rintro k e t t' rfl htask hcalled
      rw [hstorage]
      rcases hstreams with ⟨hnot, -⟩ | ⟨k', e', file, hm, haccess, hupdate⟩
      · exact absurd rfl (hnot k e)
      · obtain ⟨rfl, rfl⟩ := ProcessMove.task.inj hm
        rw [hupdate, Function.update_self]
        exact (downloadTask_step hsend htask hfound hwhole.2 hcalled haccess).1
  · intro packet hmem
    rw [htoClient] at hmem
    rcases List.mem_append.mp hmem with hold | hnew
    · exact h.toClient packet hold
    · exact hsent packet hnew

theorem DownloadOk.run {tr : List SessionMove} (hrun : Run (lossySession c.setup) s tr s')
    (hsend : c.request.operation = .send)
    (hfound : ∀ content, storage.lookup c.name = some content → content = c.content)
    (hcount : chunkCount c.blockSize.val c.content ≤ 65535)
    (hwhole : EveryStep (lossySession c.setup) (fun _ m => m.WholeFiles) s tr)
    (h : c.DownloadOk start storage s) : c.DownloadOk start storage s' := by
  refine hrun.invariant_of_everyStep (I := c.DownloadOk start storage) ?_ hwhole h
  intro t move u ht hwhole hstep
  cases move with
  | client e => exact ht.clientMove hcount hwhole.1 hstep
  | server m => exact ht.serverMove hsend hfound hwhole hstep

end Runs

end TransferCase

section Agreement

variable {ν : Type} [DecidableEq ν]

/-- The invariant holds of every run against an idle server. -/
theorem downloadOk_of_run (setup : SessionSetup ν) {files storage : Storage ν}
    {history : List ProcessMove} {server : ServerProcess} {args : InitArguments}
    {path : List UInt8} {fd : Int} {port : UInt16} {op : OperationData}
    {tr : List SessionMove} {s : Session ν}
    (hhistory : Run (serverProcess setup.serverHost setup.mem) .start history server)
    (hidle : DeleteRequest.Idle server) (hoperation : args.operation = .receive)
    (hpath : cstr args.filename = some path) (hlen : path.length < 65535)
    (hname : (afterLast 47 path).length ≤ tftpFilenameMax)
    (hclient : tftpInitOperationData (.bound fd port) args = some (.created op))
    (hcount : ∀ content,
      storage.lookup (setup.resolve (serverStoragePath ++ afterLast 47 path)) = some content →
      chunkCount op.blockSize.toNat content ≤ 65535)
    (hrun : Run (lossySession setup) (Session.start op files server storage) tr s)
    (hwhole : EveryStep (lossySession setup) (fun _ m => m.WholeFiles)
      (Session.start op files server storage) tr) :
    ∃ c : TransferCase ν, c.localName = setup.resolveLocal path ∧
      c.name = setup.resolve (serverStoragePath ++ afterLast 47 path) ∧
      c.blockSize.val = op.blockSize.toNat ∧ (storage.lookup c.name).getD [] = c.content ∧
      c.DownloadOk files storage s := by
  obtain ⟨c, rfl, rfl, hcontent, hcname, hmirrored, hstart, hasks⟩ := transferCase setup
    ((storage.lookup (setup.resolve (serverStoragePath ++ afterLast 47 path))).getD [])
    (Or.inl hoperation) hpath hlen hname hclient
  rw [← hcname] at hcontent
  have hfound : ∀ other, storage.lookup c.name = some other → other = c.content :=
    fun other hother => eq_of_lookup hcontent.symm hother
  have hfits : chunkCount c.blockSize.val c.content ≤ 65535 := by
    rw [← hasks.size]
    refine chunkCount_of_lookup hcontent.symm (by decide) ?_
    rw [hcname]
    exact hcount
  have hsend : c.request.operation = .send := by
    rw [hmirrored, hoperation]
    rfl
  have hok : c.DownloadOk files storage (Session.start op files server storage) := by
    refine ⟨serverFor_of_idle c.request (fun _ _ => trivial) hhistory hidle, rfl, nofun, ?_,
      Or.inl rfl, by simp [Session.start], by simp [Session.start]⟩
    simp only [Session.start, hstart]
    rw [hoperation] at hasks
    exact ⟨hasks, rfl, nofun⟩
  exact ⟨c, rfl, hcname, hasks.size.symm, hcontent.symm,
    hok.run hrun hsend hfound hfits hwhole⟩

/-- A client that asks an idle server for a file, over a lossy channel that may bring copies of
its request, too.  The files of the server stay as they are; if the client returns `true` it has
the file the server has, and at every moment the file under its path is as it was or a beginning
of the server's. -/
theorem read_agreement (setup : SessionSetup ν) (files storage : Storage ν)
    {history : List ProcessMove} {server : ServerProcess} {args : InitArguments}
    {path : List UInt8} {fd : Int} {port : UInt16} {op : OperationData}
    (hhistory : Run (serverProcess setup.serverHost setup.mem) .start history server)
    (hidle : DeleteRequest.Idle server) (hoperation : args.operation = .receive)
    (hpath : cstr args.filename = some path) (hlen : path.length < 65535)
    (hname : (afterLast 47 path).length ≤ tftpFilenameMax)
    (hclient : tftpInitOperationData (.bound fd port) args = some (.created op))
    (hcount : ∀ content,
      storage.lookup (setup.resolve (serverStoragePath ++ afterLast 47 path)) = some content →
      chunkCount op.blockSize.toNat content ≤ 65535)
    {tr : List SessionMove} {s : Session ν}
    (hrun : Run (lossySession setup) (Session.start op files server storage) tr s)
    (hwhole : EveryStep (lossySession setup) (fun _ m => m.WholeFiles)
      (Session.start op files server storage) tr) :
    s.storage = storage ∧
      (∀ op', s.client = .returned op' true → ∃ content,
        storage.lookup (setup.resolve (serverStoragePath ++ afterLast 47 path)) = some content ∧
          s.files.lookup (setup.resolveLocal path) = some content) ∧
      (s.files.lookup (setup.resolveLocal path) = files.lookup (setup.resolveLocal path) ∨
        ∃ held, s.files.lookup (setup.resolveLocal path) = some held ∧
          held <+: (storage.lookup
            (setup.resolve (serverStoragePath ++ afterLast 47 path))).getD []) := by
  obtain ⟨c, hlocal, hcname, -, hcontent, hend⟩ := downloadOk_of_run setup hhistory
    hidle hoperation hpath hlen hname hclient hcount hrun hwhole
  rw [← hlocal, ← hcname, hcontent]
  exact ⟨hend.storage, fun op' hreturned => ⟨c.content, hend.fetched hcontent hreturned⟩,
    hend.files⟩

end Agreement

section FixedRuns

/-- `read <address> a octet 8`. -/
def readArguments : InitArguments :=
  { operation := .receive
    peer := localhost 40000
    filename := ascii "a" ++ [0]
    mode := some (ascii "octet" ++ [0])
    blocksize := some (ascii "8" ++ [0]) }

/-- The operation of that client. -/
def readingOperation : OperationData :=
  { blankOperation readArguments 4 50001 (ascii "a") 2 with
    transferMode := .octet
    blockSize := 8 }

def readingSetup : SessionSetup (List UInt8) :=
  { clientHost := { littleHost with isServer := false }
    serverHost := littleHost
    mem := .strict
    resolveLocal := id
    resolve := id }

/-- A request arrives, and a task is created for it. -/
def servedFor (request : List UInt8) (slot : Nat) (fd : Int) (port : UInt16) :
    List ProcessMove :=
  [.listener (.poll false),
    .listener (.recvfrom requestBufferSize (.datagram (localhost 50001) request)),
    .listener (.poll false)] ++
  List.replicate (slot + 6) .listenerCall ++ [.listener (.dataSocket (.bound fd port))] ++
  spawnMoves

/-- A task sends the one block of the file. -/
def readSent (k : Nat) : List ProcessMove :=
  [.begin k, .task k (.poll false), .task k (.malloc sizeofTransferData (some [])),
    .task k (.fopen (ascii "storage/a") .read none),
    .task k (.malloc 12 (some (List.replicate 12 0))),
    .task k (.malloc 36 (some (List.replicate 36 0))), .task k (.poll false),
    .task k (.poll false), .task k (.fread 8 (ascii "abc") true), .task k (.poll false),
    .task k (.sendto (localhost 50001) (dataPacket 1 (ascii "abc")) true)]

/-- The client opens its file, and receives that block. -/
def readReceived : List Event :=
  [.malloc sizeofTransferData (some []), .fopen (ascii "a") .read (some (.other 2)),
    .fopen (ascii "a") .write none, .malloc 12 (some (List.replicate 12 0)),
    .malloc 36 (some (List.replicate 36 0)), .poll false, .poll false,
    .recvfrom 12 (.datagram (localhost 40001) (dataPacket 1 (ascii "abc"))),
    .fwrite (ascii "abc") 3 0, .sendto (localhost 40001) (ackPacket 1) true, .fclose 0]

/-- The request arrives twice, and two tasks are there to send the file. -/
def readMoves : List SessionMove :=
  let request := requestBytes readingOperation .rrq (ascii "a")
  [.client (.sendto (localhost 40000) request true)] ++
  (servedFor request 0 4 40001 ++ servedFor request 1 5 40002 ++ readSent 0).map .server ++
  readReceived.map .client

set_option maxRecDepth 8000 in
theorem read_agreement_one_file :
    ∃ s, Run (lossySession readingSetup)
        (Session.start readingOperation emptyStorage .start oneFile) readMoves s ∧
      s.files.lookup (ascii "a") = some (ascii "abc") := by
  have hop : tftpInitOperationData (.bound 4 50001) readArguments =
      some (.created readingOperation) := rfl
  have hrun : ∃ s, Run (lossySession readingSetup)
      (Session.start readingOperation emptyStorage .start oneFile) readMoves s ∧
      s.client = .returned { readingOperation with peerAddress := localhost 40001 } true :=
    exists_run_of_exec (by decide)
  have hwhole : EveryStep (lossySession readingSetup) (fun _ m => m.WholeFiles)
      (Session.start readingOperation emptyStorage .start oneFile) readMoves :=
    everyStep_of_forall (by
      intro m hm s
      revert m
      decide)
  obtain ⟨s, hs, hclient⟩ := hrun
  have hagreement := read_agreement readingSetup emptyStorage oneFile Run.nil idle_start rfl rfl
    (by decide) (by decide) hop (by
      intro content hcontent
      obtain rfl : ascii "abc" = content := Option.some.inj hcontent
      decide) hs hwhole
  obtain ⟨-, hsame, -⟩ := hagreement
  obtain ⟨content, hcontent, hlookup⟩ := hsame _ hclient
  obtain rfl : ascii "abc" = content := Option.some.inj hcontent
  exact ⟨s, hs, hlookup⟩

end FixedRuns

end Stftpu
