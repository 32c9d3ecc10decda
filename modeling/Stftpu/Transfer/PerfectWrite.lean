import Stftpu.Transfer.PerfectStore
import Stftpu.Transfer.WriteAgreement

/-!
# A write over a perfect channel

From the client's request to the end of both programs.

* `WriteAt` — where the client and the server are, and the exchange they carry out.
* `writeAt_step`, `writeAt_stuck` — every step comes closer to the end, and the end is the file on
  the server.
* `perfect_write_iff` — when every run comes to that end.
-/

namespace Stftpu

open Library

/-- Every run over the perfect channel is bounded, and one that cannot go on has the file under
its name on the server, the client and the one task there was having returned `true`, and an idle
server; the client's files are as they were. -/
def AlwaysStores {ν : Type} [DecidableEq ν] (setup : SessionSetup ν) (start : PerfectSession ν)
    (name : ν) (content : List UInt8) : Prop :=
  (∃ bound, ∀ tr s, Run (perfectSession setup) start tr s → tr.length ≤ bound) ∧
    ∀ tr s, Run (perfectSession setup) start tr s → Stuck (perfectSession setup) s →
      (∃ op, s.client = .returned op true) ∧ s.storage.lookup name = some content ∧
        (∃ task, s.server.tasks = start.server.tasks ++ [task] ∧
          task.state = some (.ended (some true))) ∧
        s.files = start.files ∧ DeleteRequest.Idle s.server

namespace TransferCase

variable {ν : Type} (c : TransferCase ν)

/-- Where both programs are, with the steps left inside and outside the exchange. -/
structure WriteAt (old : List TaskThread) (files : Storage ν) (s : PerfectSession ν)
    (ex : Exchange c.blockSize) (asked answered heard : Bool) (n m l : Nat) : Prop where
  lock : Lockstep c.content ex n
  toReceiver : ex.toReceiver = s.toTasks
  toClient : s.toClient = answerOnWay answered heard ++ ex.toSender
  order : heard = true → answered = true
  client : c.Offering s.files s.stream ex.sender asked heard s.client m
  server : c.Stores old s ex.receiver answered asked l
  threads : c.request.ServerFor (fun _ _ => True) s.server
  files : s.files = files

section Steps

variable {c} {old : List TaskThread} {s s' : PerfectSession ν} {ex : Exchange c.blockSize}
  {asked answered heard : Bool} {n m l : Nat} {files : Storage ν}

/-- Both programs when the client is started. -/
theorem writeAt_start {op : OperationData} {files storage : Storage ν}
    {server : ServerProcess} (hstart : ClientState.start op = .requesting op c.request.packet)
    (hasks : c.Asks .send op) (hport : op.peerAddress.port = 69)
    (hmissing : storage.entry c.name = none) (hidle : DeleteRequest.Idle server)
    (hfree : server.slots.HasFree) (hthreads : c.request.ServerFor (fun _ _ => True) server) :
    ∃ n l, c.WriteAt server.tasks files (PerfectSession.start op files server storage)
      (Exchange.start c.upload) false false false n 15 l := by
  obtain ⟨n, hlock⟩ := lockstep_start c.upload c.content
  refine ⟨n, _, hlock, rfl, rfl, nofun, ?_,
    .arriving false hidle.listener rfl hfree rfl ⟨rfl, hmissing, rfl⟩, hthreads, rfl⟩
  simp only [PerfectSession.start, Session.start, hstart]
  exact .requesting op hasks hport rfl

/-- Before the client has the ACK of its request, it has not begun to send. -/
theorem Offering.entry_of_unheard {files : Storage ν} {stream : Option (OpenFile ν)}
    {sender : Sender c.blockSize} {t : ClientState}
    (h : c.Offering files stream sender asked false t m) : sender.state.point = .entry := by
  cases h with
  | requesting op asks port begins => exact begins
  | preparing a asks number first point begins => exact begins
  | awaiting a asks number point begins => exact begins

variable [DecidableEq ν]

/-- Every step comes closer to the end, unless the task gives up on the empty block behind a
multiple of the block size. -/
theorem writeAt_step {move : SessionMove}
    (h : c.WriteAt old files s ex asked answered heard n m l)
    (hold : ∀ task ∈ old, ¬ task.Live) (hreceive : c.request.operation = .receive)
    (hstored : files.lookup c.localName = some c.content)
    (hstep : perfectSession c.setup s move = some s') :
    (∃ ex' asked' answered' heard' n' m' l',
        c.WriteAt old files s' ex' asked' answered' heard' n' m' l' ∧ n' + m' + l' < n + m + l) ∨
      c.content.length % c.blockSize.val = 0 ∧ AbandonedBy s'.server old.length := by
  cases move with
  | client e =>
      have hstepped := perfectSession_client hstep
      have hthere : s.files.lookup c.localName = some c.content := by
        rw [h.files]
        exact hstored
      obtain ⟨ex', n', m', heard', hlt, hoffer⟩ :=
        offering_step h.client h.lock h.toReceiver h.toClient h.order hthere hstepped
      refine Or.inl ⟨ex', true, answered, heard', n', m', l, ?_, by omega⟩
      exact
        { lock := hoffer.lock
          toReceiver := hoffer.toReceiver
          toClient := hoffer.toClient
          order := hoffer.order
          client := hoffer.client
          server := by
            unfold Stores
            rw [hoffer.receiver, hstepped.storage, hstepped.streams]
            exact h.server.of_client hstepped.server hoffer.toServer id fun _ _ hwork => hwork
          threads := by
            rw [hstepped.server]
            exact h.threads
          files := hoffer.files.trans h.files }
  | server move =>
      have hstepped := perfectSession_server hstep
      have hunheard : answered = false → heard = false ∧ ex.sender.state.point = .entry := by
        intro hanswered
        have hfalse : heard = false := by
          cases hheard : heard with
          | false => rfl
          | true =>
              have hanswered' := h.order hheard
              rw [hanswered] at hanswered'
              cases hanswered'
        have hclient := h.client
        rw [hfalse] at hclient
        exact ⟨hfalse, hclient.entry_of_unheard⟩
      rcases write_server_step h.server hold h.threads hreceive h.lock hunheard h.toReceiver
        h.toClient hstepped with
        ⟨ex', n', l', answered', hlock, hlt, hsender, hreceives, hsends, hkept, hserver⟩ | hgiven
      · have hreaches := h.server.reaches hstepped
        refine Or.inl ⟨ex', asked, answered', heard, n', m, l', ?_, by omega⟩
        exact
          { lock := hlock
            toReceiver := hreceives
            toClient := hsends
            order := fun hheard => hkept (h.order hheard)
            client := by
              rw [hstepped.files, hstepped.stream, hstepped.client, hsender]
              exact h.client
            server := hserver
            threads := h.threads.step hreaches hstepped.move (fun _ _ _ _ => trivial)
              (fun _ _ _ _ => trivial) (fun _ _ _ _ _ _ _ => trivial) (fun _ _ _ => trivial)
            files := hstepped.files.trans h.files }
      · exact Or.inr hgiven

/-- The end of a run is the end of the exchange. -/
theorem writeAt_stuck (h : c.WriteAt old files s ex asked answered heard n m l)
    (hold : ∀ task ∈ old, ¬ task.Live) (hstored : files.lookup c.localName = some c.content)
    (hstuck : Stuck (perfectSession c.setup) s) :
    (∃ op, s.client = .returned op true) ∧ s.storage.lookup c.name = some c.content ∧
      (∃ task, s.server.tasks = old ++ [task] ∧ task.state = some (.ended (some true))) ∧
      DeleteRequest.Idle s.server ∧ c.content.length % c.blockSize.val ≠ 0 := by
  have hnone : ∀ move, (perfectSession c.setup s move).isSome = true → False := by
    intro move hsome
    rw [hstuck move] at hsome
    cases hsome
  have hthere : s.files.lookup c.localName = some c.content := by
    rw [h.files]
    exact hstored
  -- while the client waits, the ACK alone is on its way
  have hback : heard = false → answered = true → s.toClient = [ackPacket 0] := by
    rintro rfl rfl
    obtain ⟨-, -, -, htoSender, -⟩ := lockstep_ready_of_entry h.lock h.client.entry_of_unheard
    rw [h.toClient, htoSender]
    rfl
  obtain ⟨rfl, hwhere⟩ := (offering_enabled h.client hback hthere).resolve_left
    fun ⟨e, hsome⟩ => hnone _ hsome
  obtain ⟨rfl, hserver⟩ :=
    (write_server_enabled h.server hold h.threads.toProcessOk).resolve_left
      fun ⟨move, hsome⟩ => hnone _ hsome
  obtain ⟨rfl, hclient⟩ := hwhere.resolve_left fun hwaiting => by cases hwaiting.2
  have htoClient : s.toClient = ex.toSender := by
    rw [h.toClient, answerOnWay_heard, List.nil_append]
  have hexchange : Stuck (perfectStep c.upload c.content) ex := by
    refine exchange_stuck ?_ ?_
    · rcases hclient with ⟨hsending, hsupply, hopened, -⟩ | ⟨hfinished, -⟩
      · refine Or.inl fun e hsome => ?_
        obtain ⟨e', hsession⟩ := offered_enabled hsending hsupply hopened htoClient hsome
        exact hnone _ hsession
      · exact Or.inr hfinished
    · rcases hserver with ⟨task, htask, hlistening, -, hstate, hcollect⟩ | ⟨hfinished, -⟩
      · refine Or.inl fun e hsome => ?_
        obtain ⟨move, hsession⟩ :=
          stored_enabled hlistening htask hstate hcollect h.toReceiver hsome
        exact hnone _ hsession
      · exact Or.inr hfinished
  obtain ⟨⟨hsent, hreceived, hwritten⟩, hmod⟩ := lockstep_stuck h.lock hexchange
  rcases hclient with ⟨-, -, -, hrunning⟩ | ⟨-, hreturned⟩
  · exact absurd hsent (hrunning _)
  rcases hserver with ⟨task, -, -, hrunning, -⟩ | ⟨-, hlookup, hidle, hended⟩
  · exact absurd hreceived (hrunning _)
  · exact ⟨hreturned, by rw [hlookup, hwritten], hended, hidle, hmod⟩

end Steps

end TransferCase

section Writes

variable {ν : Type} [DecidableEq ν]

/-- A client that asks an idle server with a free slot to write a file, over a perfect channel,
under a name the server has no file of, and where the system grants what the two programs ask of
it.  Every run comes to an end with the file stored and the server idle again, exactly when the
file is no multiple of the block size. -/
theorem perfect_write_iff (setup : SessionSetup ν) {files storage : Storage ν}
    {history : List ProcessMove} {server : ServerProcess} {args : InitArguments}
    {path content : List UInt8} {fd : Int} {port : UInt16} {op : OperationData}
    (hhistory : Run (serverProcess setup.serverHost setup.mem) .start history server)
    (hidle : DeleteRequest.Idle server) (hfree : server.slots.HasFree)
    (hoperation : args.operation = .send) (hport : args.peer.port = 69)
    (hpath : cstr args.filename = some path) (hlen : path.length < 65535)
    (hname : (afterLast 47 path).length ≤ tftpFilenameMax)
    (hclient : tftpInitOperationData (.bound fd port) args = some (.created op))
    (hstored : files.lookup (setup.resolveLocal path) = some content)
    (hmissing : storage.entry (setup.resolve (serverStoragePath ++ afterLast 47 path)) = none) :
    AlwaysStores setup (PerfectSession.start op files server storage)
        (setup.resolve (serverStoragePath ++ afterLast 47 path)) content ↔
      content.length % op.blockSize.toNat ≠ 0 := by
  obtain ⟨c, rfl, rfl, rfl, hcname, hmirrored, hstart, hasks⟩ :=
    transferCase setup content (Or.inr hoperation) hpath hlen hname hclient
  have hreceive : c.request.operation = .receive := by
    rw [hmirrored, hoperation]
    rfl
  have hold : ∀ task ∈ server.tasks, ¬ task.Live := hidle.tasks
  rw [hoperation] at hasks
  rw [← hcname] at hmissing ⊢
  obtain ⟨n, l, hbegin⟩ := TransferCase.writeAt_start hstart hasks
    (by rw [created_peer hclient]; exact hport) hmissing hidle hfree
    (serverFor_of_idle c.request (fun _ _ => trivial) hhistory hidle)
  rw [hasks.size]
  constructor
  · rintro ⟨⟨bound, hbound⟩, hstores⟩
    -- the run that cannot go on comes to the end of the exchange, or its task has given up
    obtain ⟨tr, s, hrun, hstuck⟩ := exists_stuck_run hbound
    have hinv : (∃ ex asked answered heard n m l,
        c.WriteAt server.tasks files s ex asked answered heard n m l) ∨
          TransferCase.AbandonedBy s.server server.tasks.length := by
      refine hrun.invariant (I := fun s => (∃ ex asked answered heard n m l,
        c.WriteAt server.tasks files s ex asked answered heard n m l) ∨
          TransferCase.AbandonedBy s.server server.tasks.length) ?_
        (Or.inl ⟨_, _, _, _, _, _, _, hbegin⟩)
      rintro t move u (⟨ex, asked, answered, heard, n, m, l, ht⟩ | hgiven) hstep
      · rcases TransferCase.writeAt_step ht hold hreceive hstored hstep with
          ⟨ex', asked', answered', heard', n', m', l', hu, -⟩ | ⟨-, hgiven⟩
        · exact Or.inl ⟨ex', asked', answered', heard', n', m', l', hu⟩
        · exact Or.inr hgiven
      · right
        cases move with
        | client e =>
            rw [(perfectSession_client hstep).server]
            exact hgiven
        | server m => exact TransferCase.abandonedBy_step hgiven (perfectSession_server hstep).move
    rcases hinv with ⟨ex, asked, answered, heard, n, m, l, hs⟩ | hgiven
    · exact (TransferCase.writeAt_stuck hs hold hstored hstuck).2.2.2.2
    · -- the task has not returned `true`
      obtain ⟨-, -, ⟨task, htasks, hended⟩, -⟩ := hstores tr s hrun hstuck
      obtain ⟨other, t, hother, hstate, habandons⟩ := hgiven
      have htask : s.server.tasks[server.tasks.length]? = some task := by
        rw [htasks]
        exact List.getElem?_concat_length
      obtain rfl := Option.some.inj (htask.symm.trans hother)
      obtain rfl := Option.some.inj (hended.symm.trans hstate)
      cases habandons
  · intro hmod
    -- without the empty block every step is one of the exchange, or beside it
    have hrank : ∀ tr s,
        Run (perfectSession c.setup) (PerfectSession.start op files server storage) tr s →
        ∃ k, (∃ ex asked answered heard n m l,
          c.WriteAt server.tasks files s ex asked answered heard n m l ∧ n + m + l = k) ∧
            tr.length + k ≤ n + 15 + l := by
      intro tr s hrun
      refine hrun.length_le (I := fun s k => ∃ ex asked answered heard n m l,
        c.WriteAt server.tasks files s ex asked answered heard n m l ∧ n + m + l = k) ?_
        ⟨_, _, _, _, _, _, _, hbegin, rfl⟩
      rintro t k move u ⟨ex, asked, answered, heard, n, m, l, ht, rfl⟩ hstep
      rcases TransferCase.writeAt_step ht hold hreceive hstored hstep with
        ⟨ex', asked', answered', heard', n', m', l', hu, hlt⟩ | ⟨hzero, -⟩
      · exact ⟨_, hlt, ex', asked', answered', heard', n', m', l', hu, rfl⟩
      · exact absurd hzero hmod
    refine ⟨⟨n + 15 + l, ?_⟩, ?_⟩
    · intro tr s hrun
      obtain ⟨k, -, hbound⟩ := hrank tr s hrun
      omega
    · intro tr s hrun hstuck
      obtain ⟨k, ⟨ex, asked, answered, heard, n, m, l, hs, -⟩, -⟩ := hrank tr s hrun
      obtain ⟨hreturned, hlookup, hended, hidle', -⟩ :=
        TransferCase.writeAt_stuck hs hold hstored hstuck
      exact ⟨hreturned, hlookup, hended, hs.files, hidle'⟩

end Writes

section FixedRuns

/-- `write <address> a octet 8`, to the requests port. -/
def storeArguments : InitArguments :=
  { writerArguments with peer := localhost 69 }

/-- The operation of that client. -/
def storingOperation : OperationData :=
  { writingOperation with peerAddress := localhost 69 }

/-- A file of three bytes is stored in every run. -/
theorem perfect_write_three_bytes :
    AlwaysStores readingSetup
      (PerfectSession.start storingOperation writerFiles .start emptyStorage)
      (ascii "storage/a") (ascii "abc") := by
  have hop : tftpInitOperationData (.bound 4 50001) storeArguments =
      some (.created storingOperation) := rfl
  have hfree : ServerProcess.start.slots.HasFree := ⟨0, by decide, rfl⟩
  have hpath : cstr storeArguments.filename = some (ascii "a") := rfl
  have hstored : writerFiles.lookup (readingSetup.resolveLocal (ascii "a")) =
      some (ascii "abc") := rfl
  have hmissing : emptyStorage.entry
      (readingSetup.resolve (serverStoragePath ++ afterLast 47 (ascii "a"))) = none := rfl
  have hiff := perfect_write_iff readingSetup Run.nil idle_start hfree rfl rfl hpath (by decide)
    (by decide) hop hstored hmissing
  exact hiff.mpr (by decide)

end FixedRuns

end Stftpu
