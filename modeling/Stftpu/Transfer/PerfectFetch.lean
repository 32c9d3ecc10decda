import Stftpu.Transfer.DeleteAgreement
import Stftpu.Transfer.Interruption
import Stftpu.Transfer.PerfectTransfer

/-!
# The client's part of a read

A client that asks for a file over a perfect channel, from its request to its end.  Outside
`tftp_receive_file` every call is one of a number known beforehand; inside it the client is in
lockstep with the task, whichever of them is ahead with its setting up.

* `Fetching` — where the client can be, with the steps left beside those of the transfer.
* `fetching_step` — every step comes closer to the end, but for an empty block at the end of the
  file.
* `fetching_enabled`, `receiving_enabled` — there is always a next step until it has returned.
-/

namespace Stftpu

open Library

namespace TransferCase

variable {ν : Type} (c : TransferCase ν)

/-- Where a client that receives the file can be, whether it has made its request, and the steps
it has left beside those of `tftp_receive_file`. -/
inductive Fetching (files : Storage ν) (stream : Option (OpenFile ν))
    (receiver : Receiver c.blockSize) : Bool → ClientState → Nat → Prop
  | requesting (op : OperationData) (asks : c.Asks .receive op)
      (port : op.peerAddress.port = 69) (missing : files.entry c.localName = none)
      (begins : receiver.state.point = .entry) :
      Fetching files stream receiver false (.requesting op c.request.packet) 13
  | allocating (op : OperationData) (asks : c.Asks .receive op)
      (missing : files.entry c.localName = none) (begins : receiver.state.point = .entry) :
      Fetching files stream receiver true (.allocating op) 12
  | filling (s : FillState)
      (fills : FillsCollect c.blockSize c.path c.localName files stream s) (smooth : s.Smooth)
      (missing : s.point = .probing → files.entry c.localName = none)
      (unready : ∀ b tx, s.point ≠ .ready b tx) (begins : receiver.state.point = .entry) :
      Fetching files stream receiver true (.filling s) (5 + s.left)
  | receiving (collect : Collect c.localName files stream receiver.written)
      (running : ∀ exit, receiver.state.point ≠ .returned exit)
      (port : Listening receiver.state.point ∨ receiver.state.op.peerAddress.port ≠ 69) :
      Fetching files stream receiver true (.receiving c.blockSize receiver.state) 3
  | closing (op : OperationData) (collect : Collect c.localName files stream receiver.written)
      (finished : receiver.state.point = .returned .success) :
      Fetching files stream receiver true (.closing op true) 1
  | returned (op : OperationData)
      (lookup : files.lookup c.localName = some receiver.written)
      (finished : receiver.state.point = .returned .success) :
      Fetching files stream receiver true (.returned op true) 0

/-- The client will not return `true`. -/
def Lost : ClientState → Prop
  | .receiving _ t => ∃ reply, t.point = .failing reply
  | .closing _ outcome => outcome = false
  | .returned _ outcome => outcome = false
  | _ => False

section Client

variable {c} {s s' : PerfectSession ν} {ex : Exchange c.blockSize} {n m : Nat} {e : Event}
  {t : ClientState} {asked : Bool}

theorem lost_afterReceive {b : BlockSize} {r : ReceiveState b}
    (h : (∃ reply, r.point = .failing reply) ∨ r.point = .returned .failure) :
    Lost (ClientState.afterReceive r) := by
  rcases h with ⟨reply, hpoint⟩ | hpoint
  · simp only [ClientState.afterReceive, hpoint]
    exact ⟨reply, hpoint⟩
  · simp only [ClientState.afterReceive, hpoint, ClientState.freeTransferData, if_true]
    rfl

theorem lost_step {host : Host} {t t' : ClientState} (h : Lost t)
    (hstep : clientStartOperation host t e = some t') : Lost t' := by
  cases client_called hstep with
  | receiving b r r' hr =>
      obtain ⟨reply, hpoint⟩ := h
      obtain ⟨ok, -, rfl⟩ := receive_failing hpoint hr
      exact lost_afterReceive (Or.inr rfl)
  | closing op outcome => exact h
  | _ => exact h.elim

/-- What follows a call of `tftp_fill_transfer_data`. -/
theorem fetching_afterFill {files : Storage ν} {stream : Option (OpenFile ν)} {f : FillState}
    (hfills : FillsCollect c.blockSize c.path c.localName files stream f) (hsmooth : f.Smooth)
    (hmissing : f.point = .probing → files.entry c.localName = none)
    (hbegins : ex.receiver.state.point = .entry) (hlock : Lockstep c.content ex n) :
    ∃ receiver m, Lockstep c.content { ex with receiver := receiver } n ∧ m ≤ 5 + f.left ∧
      c.Fetching files stream receiver true (ClientState.afterFill f) m := by
  cases hpoint : f.point with
  | ready b tx =>
      obtain ⟨rfl, written, hcollect, hat⟩ := hfills.ready hpoint c.content f.op
      obtain ⟨-, rfl, -⟩ : 0 = 0 ∧ written = [] ∧ _ := hat
      refine ⟨Receiver.start f.op tx, 3, hlock.restart_receiver hbegins, by omega, ?_⟩
      have hfetching : c.Fetching files stream (Receiver.start f.op tx) true
          (.receiving c.blockSize (Receiver.start f.op tx).state) 3 :=
        .receiving hcollect (by simp [Receiver.start, ReceiveState.start]) (Or.inl (Or.inl rfl))
      simp only [ClientState.afterFill, hpoint, hfills.receiver, if_true]
      exact hfetching
  | failed => simp [FillState.Smooth, hpoint] at hsmooth
  | _ =>
      refine ⟨ex.receiver, _, hlock, le_refl _, ?_⟩
      simp only [ClientState.afterFill, hpoint]
      exact .filling f hfills hsmooth hmissing (by simp [hpoint]) hbegins

/-- A packet that the client sends from `tftp_receive_file` goes to the task. -/
theorem toRequests_of_receive {b : BlockSize} {host : Host} {r r' : ReceiveState b}
    (hport : Listening r.point ∨ r.op.peerAddress.port ≠ 69)
    (hfails : ∀ reply, r.point ≠ .failing reply) (hstep : tftpReceiveFile host r e = some r') :
    e.toRequests = false := by
  cases e with
  | sendto peer packet ok =>
      obtain ⟨rfl, ⟨hpoint, -⟩ | ⟨reply, hpoint, -⟩⟩ := receive_sendto hstep
      · rcases hport with (h | h | h) | hport
        · rw [hpoint] at h
          cases h
        · rw [hpoint] at h
          cases h
        · rw [hpoint] at h
          cases h
        · simp [Event.toRequests, hport]
      · exact absurd hpoint (hfails reply)
  | _ => rfl

/-- Once a block has arrived, the ACKs go to where it came from. -/
theorem port_receive {b : BlockSize} {host : Host} {r r' : ReceiveState b}
    (hport : Listening r.point ∨ r.op.peerAddress.port ≠ 69) (hgranted : e.granted = true)
    (hsource : e.fromTask = true) (hstep : tftpReceiveFile host r e = some r') :
    Listening r'.point ∨ r'.op.peerAddress.port ≠ 69 := by
  obtain ⟨hpeer, -⟩ := ReceiveState.step_peer hstep
  cases e with
  | recvfrom size result =>
      cases result with
      | failed errno => cases hgranted
      | datagram source bytes =>
          right
          rw [hpeer]
          simpa [Event.fromTask, Event.sourceAfter] using hsource
  | poll set =>
      obtain rfl : set = false := by simpa [Event.granted] using hgranted
      cases hpoint : r.point with
      | entry =>
          obtain ⟨set, hset, rfl⟩ := receive_entry hpoint hstep
          obtain rfl := Event.poll.inj hset
          exact Or.inl (Or.inr (Or.inl rfl))
      | nextBlock =>
          obtain ⟨set, hset, rfl⟩ := receive_nextBlock hpoint hstep
          obtain rfl := Event.poll.inj hset
          exact Or.inl (Or.inr (Or.inr rfl))
      | _ => simp [tftpReceiveFile, hpoint] at hstep
  | _ =>
      -- any other call is made behind a block
      right
      rw [hpeer]
      refine hport.resolve_left ?_
      rintro (hpoint | hpoint | hpoint)
      · simp [tftpReceiveFile, hpoint] at hstep
      · simp [tftpReceiveFile, hpoint] at hstep
      · simp [tftpReceiveFile, hpoint] at hstep

variable [DecidableEq ν]

/-- A call of the client in the middle of the transfer is a step of the exchange. -/
theorem receiving_step (hlock : Lockstep c.content ex n)
    (hto : ex.toReceiver = s.toClient) (hback : ex.toSender = s.toTasks)
    (hcollect : Collect c.localName s.files s.stream ex.receiver.written)
    (hport : Listening ex.receiver.state.point ∨ ex.receiver.state.op.peerAddress.port ≠ 69)
    (hclient : s.client = .receiving c.blockSize ex.receiver.state)
    (hstep : ClientStepped c.setup s e s') :
    s'.toServer = s.toServer ∧
      ((∃ ex' n' m, Lockstep c.content ex' n' ∧ n' + m < n + 3 ∧ ex'.sender = ex.sender ∧
          ex'.toReceiver = s'.toClient ∧ ex'.toSender = s'.toTasks ∧
          c.Fetching s'.files s'.stream ex'.receiver true s'.client m) ∨
        c.content.length % c.blockSize.val = 0 ∧ Lost s'.client) := by
  have hcall := hstep.call
  rw [hclient] at hcall
  obtain ⟨t', hreceive, hclient'⟩ := Option.map_eq_some_iff.mp hcall
  obtain ⟨hnotFailing, -, -⟩ := hlock.receiver_point
  have htasks := toRequests_of_receive hport hnotFailing hreceive
  have hport' := port_receive hport hstep.granted hstep.source hreceive
  have htoServer := hstep.toServer
  have htoTasks := hstep.toTasks
  rw [htasks, if_neg Bool.false_ne_true] at htoServer htoTasks
  rw [List.append_nil] at htoServer
  have harrive := hstep.arrives
  rw [← hto] at harrive
  refine ⟨htoServer, ?_⟩
  rcases receiver_step c.download hlock hcollect hstep.granted hreceive hstep.access harrive with
    ⟨ex', n', hlock', hlt, rfl, hsender, hreceives, hsends, hcollect'⟩ | ⟨hmod, hfailed⟩
  · rw [hback, ← htoTasks] at hsends
    obtain ⟨-, hnotFault, hsuccess⟩ := hlock'.receiver_point
    rw [← hclient']
    refine Or.inl ⟨ex', n', ?_⟩
    cases hpoint : ex'.receiver.state.point with
    | returned exit =>
        obtain rfl := hsuccess exit hpoint
        refine ⟨1, hlock', by omega, hsender, hreceives, hsends, ?_⟩
        simp only [ClientState.afterReceive, hpoint, ClientState.freeTransferData, if_true]
        exact .closing _ hcollect' hpoint
    | fault => exact absurd hpoint hnotFault
    | _ =>
        refine ⟨3, hlock', by omega, hsender, hreceives, hsends, ?_⟩
        simp only [ClientState.afterReceive, hpoint]
        exact .receiving hcollect' (by simp [hpoint]) hport'
  · refine Or.inr ⟨hmod, ?_⟩
    rw [← hclient']
    exact lost_afterReceive hfailed

/-- Every call of the client comes closer to the end, unless the receiver gives up on the empty
block behind a multiple of the block size. -/
theorem fetching_step (h : c.Fetching s.files s.stream ex.receiver asked s.client m)
    (hlock : Lockstep c.content ex n) (hto : ex.toReceiver = s.toClient)
    (hback : ex.toSender = s.toTasks) (hstep : ClientStepped c.setup s e s') :
    (∃ ex' n' m', Lockstep c.content ex' n' ∧ n' + m' < n + m ∧ ex'.sender = ex.sender ∧
        ex'.toReceiver = s'.toClient ∧ ex'.toSender = s'.toTasks ∧
        c.Fetching s'.files s'.stream ex'.receiver true s'.client m' ∧
        s'.toServer = s.toServer ++ if asked then [] else [c.request.packet]) ∨
      c.content.length % c.blockSize.val = 0 ∧ Lost s'.client := by
  have hcall := hstep.call
  have haccess := hstep.access
  -- the queues behind a call that neither sends nor receives
  have hqueues : e.usesSocket = false → ex.toReceiver = s'.toClient ∧ ex.toSender = s'.toTasks ∧
      s'.toServer = s.toServer ++ [] := by
    intro hquiet
    have harrive := hstep.arrives
    rw [arrive_of_silent hquiet] at harrive
    refine ⟨hto.trans (Option.some.inj harrive), ?_, ?_⟩
    · rw [hback, hstep.toTasks, launched_of_silent hquiet]
      simp
    · rw [hstep.toServer, launched_of_silent hquiet]
      simp
  generalize hclient : s.client = t at h hcall
  generalize hclient' : s'.client = t' at hcall ⊢
  cases h with
  | requesting op asks port missing begins =>
      cases client_called hcall with
      | requesting op packet ok =>
          obtain rfl : ok = true := hstep.granted
          have hrequests :
              (Event.sendto op.peerAddress c.request.packet true).toRequests = true := by
            simp [Event.toRequests, port]
          have htoTasks := hstep.toTasks
          rw [hrequests, if_pos rfl, List.append_nil] at htoTasks
          obtain ⟨hfiles, hstream⟩ := Prod.mk.inj (Option.some.inj haccess)
          refine Or.inl ⟨ex, n, 12, hlock, by omega, rfl,
            hto.trans (Option.some.inj hstep.arrives), hback.trans htoTasks.symm, ?_, ?_⟩
          · simp only [ClientState.onRequested, if_true, asks.operation, ClientState.acknowledged]
            rw [← hfiles, ← hstream]
            exact .allocating op asks missing begins
          · rw [hstep.toServer, hrequests]
            rfl
  | allocating op asks missing begins =>
      cases client_called hcall with
      | allocating op block =>
          obtain ⟨block, rfl⟩ := Option.isSome_iff_exists.mp hstep.granted
          obtain ⟨hreceiver, hsender, hserver⟩ := hqueues rfl
          obtain ⟨hfiles, hstream⟩ := Prod.mk.inj (Option.some.inj haccess)
          rw [← hfiles, ← hstream]
          obtain ⟨receiver, m', hlock', hm, hfetching⟩ := fetching_afterFill
            (fillsCollect_start true asks.path asks.size) (FillState.smooth_start op)
            (fun _ => missing) begins hlock
          have hleft := FillState.left_start op true true
          refine Or.inl ⟨_, n, m', hlock', by omega, rfl, hreceiver, hsender, ?_, hserver⟩
          simp only [ClientState.onAllocated, asks.operation]
          exact hfetching
  | filling f fills smooth missing unready begins =>
      cases client_called hcall with
      | filling f f' hf =>
          obtain ⟨hreceiver, hsender, hserver⟩ := hqueues (FillState.silent_of_smooth smooth hf)
          obtain ⟨hfills, -⟩ := FillsCollect.step fills hf haccess
          have hsmooth := fills.smooth smooth missing hstep.granted hf haccess
          obtain ⟨receiver, m', hlock', hm, hfetching⟩ := fetching_afterFill hfills hsmooth
            (fun hpoint => absurd hpoint (FillState.not_probing_step hf)) begins hlock
          have hleft := FillState.left_step hf
          exact Or.inl ⟨_, n, m', hlock', by omega, rfl, hreceiver, hsender, hfetching, hserver⟩
  | receiving collect running port =>
      obtain ⟨hserver, hstepped⟩ := receiving_step hlock hto hback collect port hclient hstep
      rw [hclient'] at hstepped
      rcases hstepped with
        ⟨ex', n', m', hlock', hlt, hsender, hreceives, hsends, hfetching⟩ | hlost
      · exact Or.inl ⟨ex', n', m', hlock', hlt, hsender, hreceives, hsends, hfetching,
          by simp [hserver]⟩
      · exact Or.inr hlost
  | closing op collect finished =>
      cases client_called hcall with
      | closing op outcome =>
          obtain ⟨hreceiver, hsender, hserver⟩ := hqueues rfl
          obtain ⟨held, hlookup, -, hheld⟩ := collect.close haccess
          obtain rfl := hheld ((granted_fclose _).mp hstep.granted)
          exact Or.inl ⟨ex, n, 0, hlock, by omega, rfl, hreceiver, hsender,
            .returned op hlookup finished, hserver⟩
  | returned op lookup finished => cases hcall

/-! ### The client is never held up -/

/-- Outside `tftp_receive_file` the client makes its next call, until it has returned. -/
theorem fetching_enabled {receiver : Receiver c.blockSize}
    (h : c.Fetching s.files s.stream receiver asked s.client m) :
    (∃ e, (perfectSession c.setup s (.client e)).isSome = true) ∨
      asked = true ∧ (s.client = .receiving c.blockSize receiver.state ∧
          Collect c.localName s.files s.stream receiver.written ∧
          (∀ exit, receiver.state.point ≠ .returned exit) ∨
        receiver.state.point = .returned .success ∧ ∃ op, s.client = .returned op true ∧
          s.files.lookup c.localName = some receiver.written) := by
  generalize hclient : s.client = t at h
  cases h with
  | requesting op asks port missing begins =>
      refine Or.inl ⟨.sendto op.peerAddress c.request.packet true,
        perfectSession_client_of rfl rfl rfl ?_ rfl rfl⟩
      simp [hclient, clientStartOperation]
  | allocating op asks missing begins =>
      refine Or.inl ⟨.malloc sizeofTransferData (some []),
        perfectSession_client_of rfl rfl rfl ?_ rfl rfl⟩
      simp [hclient, clientStartOperation]
  | filling f fills smooth missing unready begins =>
      obtain ⟨e, hgranted, hopens, hquiet, hfill, haccess⟩ :=
        fills.enabled c.setup.clientHost smooth unready missing
      refine Or.inl ⟨e, perfectSession_client_of hgranted hopens (fromTask_of_silent hquiet) ?_
        haccess ?_⟩
      · rw [hclient, clientStartOperation, Option.isSome_map]
        exact hfill
      · rw [arrive_of_silent hquiet]
        rfl
  | receiving collect running port => exact Or.inr ⟨rfl, Or.inl ⟨rfl, collect, running⟩⟩
  | closing op collect finished =>
      obtain ⟨f, hstream, hopen, -⟩ := collect
      refine Or.inl ⟨.fclose 0, perfectSession_client_of rfl rfl rfl ?_ ?_ rfl⟩
      · simp [hclient, clientStartOperation]
      · rw [hstream]
        exact access_close_isSome hopen 0
  | returned op lookup finished => exact Or.inr ⟨rfl, Or.inr ⟨finished, op, rfl, lookup⟩⟩

/-- In `tftp_receive_file` the client goes on where the exchange does. -/
theorem receiving_enabled (hclient : s.client = .receiving c.blockSize ex.receiver.state)
    (hcollect : Collect c.localName s.files s.stream ex.receiver.written)
    (hto : ex.toReceiver = s.toClient)
    (hperfect : (perfectStep c.download c.content ex (.receiver e)).isSome = true) :
    ∃ e, (perfectSession c.setup s (.client e)).isSome = true := by
  obtain ⟨e', hgranted, hopens, hsource, hcall, haccess, harrive⟩ :
      ∃ e', e'.granted = true ∧ e'.opens c.setup.resolveLocal s.files = true ∧
        e'.fromTask = true ∧
        (tftpReceiveFile c.setup.clientHost ex.receiver.state e').isSome = true ∧
        (accessFiles c.setup.resolveLocal s.files s.stream e').isSome = true ∧
        (arrive ex.toReceiver e').isSome = true := receiver_enabled hcollect hperfect
  rw [hto] at harrive
  refine ⟨e', perfectSession_client_of hgranted hopens hsource ?_ haccess harrive⟩
  rw [hclient, clientStartOperation, Option.isSome_map]
  exact hcall

end Client

end TransferCase

end Stftpu
