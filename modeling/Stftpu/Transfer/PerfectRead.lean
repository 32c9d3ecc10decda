import Stftpu.Transfer.PerfectFetch
import Stftpu.Transfer.PerfectSupply
import Stftpu.Transfer.ReadAgreement

/-!
# A read over a perfect channel

From the client's request to the end of both programs.

* `ReadAt` — where the client and the server are, and the exchange they carry out.
* `readAt_step`, `readAt_stuck` — every step comes closer to the end, and the end is the file on
  the client's disk.
* `perfect_read_iff` — when every run comes to that end.
-/

namespace Stftpu

open Library

/-- Every run over the perfect channel is bounded, and one that cannot go on has the file under
its name on the client's disk, the client having returned `true`, and an idle server with its
files as they were. -/
def AlwaysFetches {ν : Type} [DecidableEq ν] (setup : SessionSetup ν) (start : PerfectSession ν)
    (name : ν) (content : List UInt8) : Prop :=
  (∃ bound, ∀ tr s, Run (perfectSession setup) start tr s → tr.length ≤ bound) ∧
    ∀ tr s, Run (perfectSession setup) start tr s → Stuck (perfectSession setup) s →
      (∃ op, s.client = .returned op true) ∧ s.files.lookup name = some content ∧
        s.storage = start.storage ∧ DeleteRequest.Idle s.server

namespace TransferCase

variable {ν : Type} (c : TransferCase ν)

/-- Where both programs are, with the steps left inside and outside the exchange. -/
structure ReadAt (old : List TaskThread) (storage : Storage ν) (s : PerfectSession ν)
    (ex : Exchange c.blockSize) (asked : Bool) (n m l : Nat) : Prop where
  lock : Lockstep c.content ex n
  toReceiver : ex.toReceiver = s.toClient
  toSender : ex.toSender = s.toTasks
  client : c.Fetching s.files s.stream ex.receiver asked s.client m
  server : c.Supplies old s ex.sender asked l
  threads : c.request.ServerFor (fun _ _ => True) s.server
  storage : s.storage = storage

section Steps

variable {c} {old : List TaskThread} {s s' : PerfectSession ν} {ex : Exchange c.blockSize}
  {asked : Bool} {n m l : Nat} {storage : Storage ν}

/-- Both programs when the client is started. -/
theorem readAt_start {op : OperationData} {files storage : Storage ν}
    {server : ServerProcess} (hstart : ClientState.start op = .requesting op c.request.packet)
    (hasks : c.Asks .receive op) (hport : op.peerAddress.port = 69)
    (hmissing : files.entry c.localName = none) (hidle : DeleteRequest.Idle server)
    (hfree : server.slots.HasFree) (hthreads : c.request.ServerFor (fun _ _ => True) server) :
    ∃ n l, c.ReadAt server.tasks storage (PerfectSession.start op files server storage)
      (Exchange.start c.download) false n 13 l := by
  obtain ⟨n, hlock⟩ := lockstep_start c.download c.content
  refine ⟨n, _, hlock, rfl, rfl, ?_, .arriving false hidle.listener rfl hfree rfl rfl, hthreads,
    rfl⟩
  simp only [PerfectSession.start, Session.start, hstart]
  exact .requesting op hasks hport hmissing rfl

variable [DecidableEq ν]

/-- Every step comes closer to the end, unless the receiver gives up on the empty block behind a
multiple of the block size. -/
theorem readAt_step {move : SessionMove} (h : c.ReadAt old storage s ex asked n m l)
    (hold : ∀ task ∈ old, ¬ task.Live) (hsend : c.request.operation = .send)
    (hstored : storage.lookup c.name = some c.content)
    (hstep : perfectSession c.setup s move = some s') :
    (∃ ex' asked' n' m' l', c.ReadAt old storage s' ex' asked' n' m' l' ∧
        n' + m' + l' < n + m + l) ∨
      c.content.length % c.blockSize.val = 0 ∧ Lost s'.client := by
  cases move with
  | client e =>
      have hstepped := perfectSession_client hstep
      rcases fetching_step h.client h.lock h.toReceiver h.toSender hstepped with
        ⟨ex', n', m', hlock, hlt, hsender, hreceives, hsends, hfetching, htoServer⟩ | hlost
      · refine Or.inl ⟨ex', true, n', m', l, ?_, by omega⟩
        exact
          { lock := hlock
            toReceiver := hreceives
            toSender := hsends
            client := hfetching
            server := by
              unfold Supplies
              rw [hsender, hstepped.storage, hstepped.streams]
              exact h.server.of_client hstepped.server htoServer id fun _ _ hwork => hwork
            threads := by
              rw [hstepped.server]
              exact h.threads
            storage := hstepped.storage.trans h.storage }
      · exact Or.inr hlost
  | server move =>
      have hstepped := perfectSession_server hstep
      have hthere : s.storage.lookup c.name = some c.content := by
        rw [h.storage]
        exact hstored
      obtain ⟨hstorage, ex', n', l', hlock, hlt, hreceiver, hreceives, hsends, hserver⟩ :=
        read_server_step h.server hold h.threads hsend hthere h.lock h.toReceiver h.toSender
          hstepped
      have hreaches := h.server.reaches hstepped
      refine Or.inl ⟨ex', asked, n', m, l', ?_, by omega⟩
      exact
        { lock := hlock
          toReceiver := hreceives
          toSender := hsends
          client := by
            rw [hstepped.files, hstepped.stream, hstepped.client, hreceiver]
            exact h.client
          server := hserver
          threads := h.threads.step hreaches hstepped.move (fun _ _ _ _ => trivial)
            (fun _ _ _ _ => trivial) (fun _ _ _ _ _ _ _ => trivial) (fun _ _ _ => trivial)
          storage := hstorage.trans h.storage }

/-- The end of a run is the end of the exchange. -/
theorem readAt_stuck (h : c.ReadAt old storage s ex asked n m l)
    (hold : ∀ task ∈ old, ¬ task.Live) (hstored : storage.lookup c.name = some c.content)
    (hstuck : Stuck (perfectSession c.setup) s) :
    (∃ op, s.client = .returned op true) ∧ s.files.lookup c.localName = some c.content ∧
      DeleteRequest.Idle s.server ∧ c.content.length % c.blockSize.val ≠ 0 := by
  have hnone : ∀ move, (perfectSession c.setup s move).isSome = true → False := by
    intro move hsome
    rw [hstuck move] at hsome
    cases hsome
  have hthere : s.storage.lookup c.name = some c.content := by
    rw [h.storage]
    exact hstored
  rcases fetching_enabled h.client with ⟨e, hsome⟩ | ⟨rfl, hclient⟩
  · exact (hnone _ hsome).elim
  · have hserver := (read_server_enabled h.server hold h.threads.toProcessOk hthere).resolve_left
      fun ⟨move, hsome⟩ => hnone _ hsome
    have hexchange : Stuck (perfectStep c.download c.content) ex := by
      refine exchange_stuck ?_ ?_
      · rcases hserver with
          ⟨task, htask, hlistening, -, hstate, hsupply, hopened⟩ | ⟨hfinished, -⟩
        · refine Or.inl fun e hsome => ?_
          obtain ⟨move, hsession⟩ := transmitting_enabled hlistening htask hstate hsupply hopened
            h.toSender hsome
          exact hnone _ hsession
        · exact Or.inr hfinished
      · rcases hclient with ⟨hreceiving, hcollect, -⟩ | ⟨hfinished, -⟩
        · refine Or.inl fun e hsome => ?_
          obtain ⟨e', hsession⟩ := receiving_enabled hreceiving hcollect h.toReceiver hsome
          exact hnone _ hsession
        · exact Or.inr hfinished
    obtain ⟨⟨hsent, hreceived, hwritten⟩, hmod⟩ := lockstep_stuck h.lock hexchange
    have hidle : DeleteRequest.Idle s.server := by
      rcases hserver with ⟨task, -, -, hrunning, -⟩ | ⟨-, hidle⟩
      · exact absurd hsent (hrunning _)
      · exact hidle
    rcases hclient with ⟨-, -, hrunning⟩ | ⟨-, op, hreturned, hlookup⟩
    · exact absurd hreceived (hrunning _)
    · exact ⟨⟨op, hreturned⟩, by rw [hlookup, hwritten], hidle, hmod⟩

end Steps

end TransferCase

section Reads

variable {ν : Type} [DecidableEq ν]

/-- A client that asks an idle server with a free slot for a file, over a perfect channel, with
no file under the path on its own disk, and where the system grants what the two programs ask of
it.  Every run comes to an end with the file fetched and the server idle again, exactly when the
file is no multiple of the block size. -/
theorem perfect_read_iff (setup : SessionSetup ν) {files storage : Storage ν}
    {history : List ProcessMove} {server : ServerProcess} {args : InitArguments}
    {path content : List UInt8} {fd : Int} {port : UInt16} {op : OperationData}
    (hhistory : Run (serverProcess setup.serverHost setup.mem) .start history server)
    (hidle : DeleteRequest.Idle server) (hfree : server.slots.HasFree)
    (hoperation : args.operation = .receive) (hport : args.peer.port = 69)
    (hpath : cstr args.filename = some path) (hlen : path.length < 65535)
    (hname : (afterLast 47 path).length ≤ tftpFilenameMax)
    (hclient : tftpInitOperationData (.bound fd port) args = some (.created op))
    (hstored : storage.lookup (setup.resolve (serverStoragePath ++ afterLast 47 path)) =
      some content)
    (hmissing : files.entry (setup.resolveLocal path) = none) :
    AlwaysFetches setup (PerfectSession.start op files server storage)
        (setup.resolveLocal path) content ↔
      content.length % op.blockSize.toNat ≠ 0 := by
  obtain ⟨c, rfl, rfl, rfl, hcname, hmirrored, hstart, hasks⟩ :=
    transferCase setup content (Or.inl hoperation) hpath hlen hname hclient
  have hsend : c.request.operation = .send := by
    rw [hmirrored, hoperation]
    rfl
  have hold : ∀ task ∈ server.tasks, ¬ task.Live := hidle.tasks
  rw [hoperation] at hasks
  rw [← hcname] at hstored
  obtain ⟨n, l, hbegin⟩ := TransferCase.readAt_start hstart hasks
    (by rw [created_peer hclient]; exact hport) hmissing hidle hfree
    (serverFor_of_idle c.request (fun _ _ => trivial) hhistory hidle)
  rw [hasks.size]
  constructor
  · rintro ⟨⟨bound, hbound⟩, hfetches⟩
    -- the run that cannot go on comes to the end of the exchange, or has lost the client
    obtain ⟨tr, s, hrun, hstuck⟩ := exists_stuck_run hbound
    have hinv : (∃ ex asked n m l, c.ReadAt server.tasks storage s ex asked n m l) ∨
        TransferCase.Lost s.client := by
      refine hrun.invariant (I := fun s =>
        (∃ ex asked n m l, c.ReadAt server.tasks storage s ex asked n m l) ∨
          TransferCase.Lost s.client) ?_ (Or.inl ⟨_, _, _, _, _, hbegin⟩)
      rintro t move u (⟨ex, asked, n, m, l, ht⟩ | hlost) hstep
      · rcases TransferCase.readAt_step ht hold hsend hstored hstep with
          ⟨ex', asked', n', m', l', hu, -⟩ | ⟨-, hlost⟩
        · exact Or.inl ⟨ex', asked', n', m', l', hu⟩
        · exact Or.inr hlost
      · right
        cases move with
        | client e => exact TransferCase.lost_step hlost (perfectSession_client hstep).call
        | server m =>
            rw [(perfectSession_server hstep).client]
            exact hlost
    rcases hinv with ⟨ex, asked, n, m, l, hs⟩ | hlost
    · exact (TransferCase.readAt_stuck hs hold hstored hstuck).2.2.2
    · obtain ⟨⟨op', hreturned⟩, -⟩ := hfetches tr s hrun hstuck
      rw [hreturned] at hlost
      cases hlost
  · intro hmod
    -- without the empty block every step is one of the exchange, or beside it
    have hrank : ∀ tr s,
        Run (perfectSession c.setup) (PerfectSession.start op files server storage) tr s →
        ∃ k, (∃ ex asked n m l, c.ReadAt server.tasks storage s ex asked n m l ∧ n + m + l = k) ∧
          tr.length + k ≤ n + 13 + l := by
      intro tr s hrun
      refine hrun.length_le (I := fun s k =>
        ∃ ex asked n m l, c.ReadAt server.tasks storage s ex asked n m l ∧ n + m + l = k) ?_
        ⟨_, _, _, _, _, hbegin, rfl⟩
      rintro t k move u ⟨ex, asked, n, m, l, ht, rfl⟩ hstep
      rcases TransferCase.readAt_step ht hold hsend hstored hstep with
        ⟨ex', asked', n', m', l', hu, hlt⟩ | ⟨hzero, -⟩
      · exact ⟨_, hlt, ex', asked', n', m', l', hu, rfl⟩
      · exact absurd hzero hmod
    refine ⟨⟨n + 13 + l, ?_⟩, ?_⟩
    · intro tr s hrun
      obtain ⟨k, -, hbound⟩ := hrank tr s hrun
      omega
    · intro tr s hrun hstuck
      obtain ⟨k, ⟨ex, asked, n, m, l, hs, -⟩, -⟩ := hrank tr s hrun
      obtain ⟨hreturned, hlookup, hidle', -⟩ :=
        TransferCase.readAt_stuck hs hold hstored hstuck
      exact ⟨hreturned, hlookup, hs.storage, hidle'⟩

end Reads

section FixedRuns

/-- `read <address> a octet 8`, to the requests port. -/
def fetchArguments : InitArguments :=
  { readArguments with peer := localhost 69 }

/-- The operation of that client. -/
def fetchingOperation : OperationData :=
  { readingOperation with peerAddress := localhost 69 }

/-- A file of three bytes is fetched in every run. -/
theorem perfect_read_three_bytes :
    AlwaysFetches readingSetup
      (PerfectSession.start fetchingOperation emptyStorage .start oneFile) (ascii "a")
      (ascii "abc") := by
  have hop : tftpInitOperationData (.bound 4 50001) fetchArguments =
      some (.created fetchingOperation) := rfl
  have hfree : ServerProcess.start.slots.HasFree := ⟨0, by decide, rfl⟩
  have hpath : cstr fetchArguments.filename = some (ascii "a") := rfl
  have hstored : oneFile.lookup
      (readingSetup.resolve (serverStoragePath ++ afterLast 47 (ascii "a"))) =
        some (ascii "abc") := rfl
  have hmissing : emptyStorage.entry (readingSetup.resolveLocal (ascii "a")) = none := rfl
  have hiff := perfect_read_iff readingSetup Run.nil idle_start hfree rfl rfl hpath (by decide)
    (by decide) hop hstored hmissing
  exact hiff.mpr (by decide)

end FixedRuns

end Stftpu
