import Stftpu.Transfer.DeleteAgreement
import Stftpu.Transfer.Interruption
import Stftpu.Transfer.PerfectTransfer

/-!
# The client's part of a write

A client that asks to write a file over a perfect channel: it waits for the ACK of its request,
which only the task it is served by can send, and is in lockstep with that task from then on.

* `Offering` — where the client can be, with the steps left beside those of the transfer.
* `OfferStepped`, `offering_step` — every step comes closer to the end.
* `offering_enabled`, `offered_enabled` — there is always a next step until it has returned, but
  for the wait for the ACK.
-/

namespace Stftpu

open Library

namespace FillState

variable {host : Host} {f f' : FillState} {e : Event}

theorem checkBlockSize_peer : f.checkBlockSize.op.peerAddress = f.op.peerAddress := by
  unfold checkBlockSize
  split
  · rfl
  · split
    · rfl
    · rw [fail_op]

/-- The function hears nothing, so that the peer stays who it is. -/
theorem step_peer (hstep : tftpFillTransferData host f e = some f') :
    f'.op.peerAddress = f.op.peerAddress := by
  cases hpoint : f.point with
  | probing =>
      obtain ⟨error, -, ⟨-, rfl⟩ | ⟨-, rfl⟩⟩ := fill_probing hpoint hstep
      · rfl
      · rfl
  | describing =>
      obtain ⟨timestamp, -, rfl⟩ := fill_describing hpoint hstep
      rw [fail_op]
  | opening =>
      obtain ⟨error, -, ⟨-, rfl⟩ | ⟨errno, -, rfl⟩⟩ := fill_opening hpoint hstep
      · exact checkBlockSize_peer
      · rw [fail_op]
  | allocatingData b =>
      obtain ⟨block, data, -, -, rfl⟩ := fill_allocatingData hpoint hstep
      rfl
  | allocatingResponse b data =>
      obtain ⟨block, response, -, -, rfl⟩ := fill_allocatingResponse hpoint hstep
      rcases f.onAllocated_cases host data response with ⟨_, _, heq⟩ | ⟨reply, heq⟩
      · rw [heq]
      · rw [heq, fail_op]
  | failing reply =>
      obtain ⟨ok, -, rfl⟩ := fill_failing hpoint hstep
      rfl
  | ready b tx =>
      rw [fill_ready hpoint] at hstep
      cases hstep
  | failed =>
      rw [fill_failed hpoint] at hstep
      cases hstep

end FillState

/-- The ACK of the request, between the task that has sent it and the client. -/
def answerOnWay (answered heard : Bool) : List (List UInt8) :=
  if answered && !heard then [ackPacket 0] else []

@[simp] theorem answerOnWay_heard (answered : Bool) : answerOnWay answered true = [] := by
  cases answered <;> rfl

namespace TransferCase

variable {ν : Type} (c : TransferCase ν)

/-- Where a client that sends the file can be, whether it has made its request and whether it has
received the ACK, and the steps it has left beside those of `tftp_transmit_file`. -/
inductive Offering (files : Storage ν) (stream : Option (OpenFile ν))
    (sender : Sender c.blockSize) : Bool → Bool → ClientState → Nat → Prop
  | requesting (op : OperationData) (asks : c.Asks .send op) (port : op.peerAddress.port = 69)
      (begins : sender.state.point = .entry) :
      Offering files stream sender false false (.requesting op c.request.packet) 15
  | preparing (a : AwaitState) (asks : c.Asks .send a.op) (number : a.blockNumber = 0)
      (first : a.retryCounter = 0) (point : a.point = .allocating)
      (begins : sender.state.point = .entry) :
      Offering files stream sender true false (.awaitingRequest a) 14
  | awaiting (a : AwaitState) (asks : c.Asks .send a.op) (number : a.blockNumber = 0)
      (point : a.point = .awaiting) (begins : sender.state.point = .entry) :
      Offering files stream sender true false (.awaitingRequest a) 13
  | allocating (op : OperationData) (asks : c.Asks .send op) (port : op.peerAddress.port ≠ 69)
      (begins : sender.state.point = .entry) :
      Offering files stream sender true true (.allocating op) 12
  | filling (s : FillState) (fills : FillsSupply c.blockSize c.path files c.content stream s)
      (smooth : s.Smooth) (opened : s.Opened → StreamOpen stream)
      (unready : ∀ b tx, s.point ≠ .ready b tx) (port : s.op.peerAddress.port ≠ 69)
      (begins : sender.state.point = .entry) :
      Offering files stream sender true true (.filling s) (5 + s.left)
  | transmitting (supply : Supply files c.content stream sender.pos) (opened : StreamOpen stream)
      (running : ∀ exit, sender.state.point ≠ .returned exit)
      (port : sender.state.op.peerAddress.port ≠ 69) :
      Offering files stream sender true true (.transmitting c.blockSize sender.state) 3
  | closing (op : OperationData) (reads : StreamReads stream)
      (finished : sender.state.point = .returned .success) :
      Offering files stream sender true true (.closing op true) 1
  | returned (op : OperationData) (finished : sender.state.point = .returned .success) :
      Offering files stream sender true true (.returned op true) 0

section Client

variable {c} {s s' : PerfectSession ν} {ex : Exchange c.blockSize} {n m : Nat} {e : Event}
  {t : ClientState} {asked heard answered : Bool}

/-- What follows a call of `tftp_fill_transfer_data`. -/
theorem offering_afterFill {files : Storage ν} {stream : Option (OpenFile ν)} {f : FillState}
    (hfills : FillsSupply c.blockSize c.path files c.content stream f) (hsmooth : f.Smooth)
    (hopened : f.Opened → StreamOpen stream) (hport : f.op.peerAddress.port ≠ 69)
    (hbegins : ex.sender.state.point = .entry) (hlock : Lockstep c.content ex n) :
    ∃ sender m, Lockstep c.content { ex with sender := sender } n ∧ m ≤ 5 + f.left ∧
      c.Offering files stream sender true true (ClientState.afterFill f) m := by
  cases hpoint : f.point with
  | ready b tx =>
      have hsized := hfills.sized
      simp only [FillState.Sized, hpoint] at hsized
      obtain ⟨rfl, data, response, rfl⟩ := hsized
      have hready : f.Opened := by simp [FillState.Opened, hpoint]
      have hat := Sender.at_start c.content f.op data response
      refine ⟨_, 3, hlock.restart_sender hbegins hat, by omega, ?_⟩
      have hoffering : ∀ sender : Sender c.blockSize,
          sender =
            { state := TransmitState.start f.op (FillState.cleared data response), pos := 0 } →
          c.Offering files stream sender true true (.transmitting c.blockSize sender.state) 3 := by
        rintro sender rfl
        exact .transmitting (hfills.opened hready) (hopened hready)
          (by simp [TransmitState.start]) hport
      simp only [ClientState.afterFill, hpoint, hfills.receiver, Bool.false_eq_true, if_false]
      exact hoffering _ rfl
  | failed => simp [FillState.Smooth, hpoint] at hsmooth
  | _ =>
      refine ⟨ex.sender, _, hlock, le_refl _, ?_⟩
      simp only [ClientState.afterFill, hpoint]
      exact .filling f hfills hsmooth hopened (by simp [hpoint]) hport hbegins

/-- A packet that goes anywhere but to the requests port. -/
theorem toRequests_of_transmit {b : BlockSize} {host : Host} {t t' : TransmitState b}
    (hport : t.op.peerAddress.port ≠ 69) (hstep : tftpTransmitFile host t e = some t') :
    e.toRequests = false := by
  cases e with
  | sendto peer packet ok =>
      obtain ⟨rfl, -⟩ := transmit_sendto hstep
      simp [Event.toRequests, hport]
  | _ => rfl

/-- What the client is sent does not come from the requests port. -/
theorem port_transmit {b : BlockSize} {host : Host} {t t' : TransmitState b}
    (hport : t.op.peerAddress.port ≠ 69) (hsource : e.fromTask = true)
    (hstep : tftpTransmitFile host t e = some t') : t'.op.peerAddress.port ≠ 69 := by
  obtain ⟨hpeer, -⟩ := TransmitState.step_peer hstep
  rw [hpeer]
  cases e with
  | recvfrom size result =>
      cases result with
      | failed errno => exact hport
      | datagram source bytes => simpa [Event.fromTask, Event.sourceAfter] using hsource
  | _ => exact hport

variable [DecidableEq ν]

/-- What the client has done in a step, and where it is. -/
structure OfferStepped (c : TransferCase ν) (s s' : PerfectSession ν)
    (ex ex' : Exchange c.blockSize) (asked answered heard : Bool) (n m : Nat) : Prop where
  files : s'.files = s.files
  lock : Lockstep c.content ex' n
  receiver : ex'.receiver = ex.receiver
  toReceiver : ex'.toReceiver = s'.toTasks
  toClient : s'.toClient = answerOnWay answered heard ++ ex'.toSender
  order : heard = true → answered = true
  client : c.Offering s'.files s'.stream ex'.sender true heard s'.client m
  toServer : s'.toServer = s.toServer ++ if asked then [] else [c.request.packet]

/-- A call that neither sends nor receives, behind which the sender is as it was or begins. -/
theorem offering_silent {r : Nat} (hto : ex.toReceiver = s.toTasks)
    (hback : s.toClient = answerOnWay answered heard ++ ex.toSender)
    (horder : heard = true → answered = true) (hstep : ClientStepped c.setup s e s')
    (hquiet : e.usesSocket = false) (hfiles : s'.files = s.files)
    (hnext : ∃ sender m', Lockstep c.content { ex with sender := sender } n ∧ m' ≤ r ∧
      c.Offering s'.files s'.stream sender true heard s'.client m')
    (hlt : r < m) :
    ∃ ex' n' m' heard', n' + m' < n + m ∧
      OfferStepped c s s' ex ex' true answered heard' n' m' := by
  obtain ⟨sender, m', hlock, hle, hoffering⟩ := hnext
  have harrive := hstep.arrives
  rw [arrive_of_silent hquiet] at harrive
  refine ⟨{ ex with sender := sender }, n, m', heard, by omega, ?_⟩
  exact
    { files := hfiles
      lock := hlock
      receiver := rfl
      toReceiver := by
        rw [hstep.toTasks, launched_of_silent hquiet]
        simp [hto]
      toClient := (Option.some.inj harrive).symm.trans hback
      order := horder
      client := hoffering
      toServer := by
        rw [hstep.toServer, launched_of_silent hquiet]
        simp }

/-- A call of the client while it waits: only the ACK of the request can arrive. -/
theorem awaiting_step {a : AwaitState} (hlock : Lockstep c.content ex n)
    (hto : ex.toReceiver = s.toTasks)
    (hback : s.toClient = answerOnWay answered false ++ ex.toSender)
    (hclient : s.client = .awaitingRequest a) (asks : c.Asks .send a.op)
    (number : a.blockNumber = 0) (point : a.point = .awaiting)
    (begins : ex.sender.state.point = .entry) (hstep : ClientStepped c.setup s e s') :
    OfferStepped c s s' ex ex true answered true n 12 := by
  have hcall := hstep.call
  have haccess := hstep.access
  have harrive := hstep.arrives
  rw [hclient] at hcall
  obtain ⟨a', ha, hclient'⟩ := Option.map_eq_some_iff.mp hcall
  obtain ⟨result, rfl, rfl⟩ := await_awaiting point ha
  obtain ⟨-, -, -, htoSender, -⟩ := lockstep_ready_of_entry hlock begins
  obtain ⟨hfiles, -⟩ := Prod.mk.inj (Option.some.inj haccess)
  cases result with
  | failed errno => cases harrive
  | datagram source bytes =>
      have hqueue := arrive_datagram harrive
      rw [hback, htoSender, List.append_nil] at hqueue
      cases answered with
      | false => cases hqueue
      | true =>
          obtain ⟨rfl, hempty⟩ := List.cons.inj hqueue
          have hport : source.port ≠ 69 := by simpa [Event.fromTask] using hstep.source
          have hdelete : a.op.operationId ≠ .requestDelete := by
            rw [asks.operation]
            decide
          have honward : ClientState.acknowledged { a.op with peerAddress := source } =
              .allocating { a.op with peerAddress := source } := if_neg hdelete
          exact
            { files := hfiles.symm
              lock := hlock
              receiver := rfl
              toReceiver := by
                rw [hstep.toTasks]
                simp [launched, hto]
              toClient := by
                rw [← hempty, htoSender]
                rfl
              order := fun _ => rfl
              client := by
                rw [← hclient', AwaitState.onReceived_ack, if_pos number.symm]
                simp only [ClientState.afterRequest, AwaitState.received, honward]
                exact .allocating _ ⟨asks.operation, asks.path, asks.size⟩ hport begins
              toServer := by
                rw [hstep.toServer]
                simp [launched] }

/-- A call of the client in the middle of the transfer is a step of the exchange. -/
theorem offered_step (hlock : Lockstep c.content ex n) (hto : ex.toReceiver = s.toTasks)
    (hback : s.toClient = ex.toSender) (hanswered : answered = true)
    (hclient : s.client = .transmitting c.blockSize ex.sender.state)
    (supply : Supply s.files c.content s.stream ex.sender.pos) (opened : StreamOpen s.stream)
    (port : ex.sender.state.op.peerAddress.port ≠ 69) (hstep : ClientStepped c.setup s e s') :
    ∃ ex' n' m', n' + m' < n + 3 ∧ OfferStepped c s s' ex ex' true answered true n' m' := by
  have hcall := hstep.call
  rw [hclient] at hcall
  obtain ⟨t', htransmit, hclient'⟩ := Option.map_eq_some_iff.mp hcall
  have htasks := toRequests_of_transmit port htransmit
  have hport := port_transmit port hstep.source htransmit
  have htoServer := hstep.toServer
  have htoTasks := hstep.toTasks
  rw [htasks, if_neg Bool.false_ne_true] at htoServer htoTasks
  have harrive := hstep.arrives
  rw [hback] at harrive
  obtain ⟨hfiles, ex', n', hlock', hlt, rfl, hreceiver, hreceives, hsends, hsupply, hopened⟩ :=
    sender_step c.upload hlock supply opened hstep.granted htransmit hstep.access harrive
  rw [hto, ← htoTasks] at hreceives
  have honward : ∃ m' ≤ 3, c.Offering s'.files s'.stream ex'.sender true true s'.client m' := by
    rw [← hclient']
    cases hpoint : ex'.sender.state.point with
    | returned exit =>
        obtain rfl := hlock'.sender_point exit hpoint
        refine ⟨1, by decide, ?_⟩
        simp only [ClientState.afterTransmit, hpoint, ClientState.freeTransferData, if_true]
        exact .closing _ (hsupply.reads hopened) hpoint
    | _ =>
        refine ⟨3, le_refl _, ?_⟩
        simp only [ClientState.afterTransmit, hpoint]
        exact .transmitting hsupply hopened (by simp [hpoint]) hport
  obtain ⟨m', hle, hoffering⟩ := honward
  refine ⟨ex', n', m', by omega, ?_⟩
  exact
    { files := hfiles
      lock := hlock'
      receiver := hreceiver
      toReceiver := hreceives
      toClient := by simp [hsends]
      order := fun _ => hanswered
      client := hoffering
      toServer := htoServer }

/-- Every call of the client comes closer to its end. -/
theorem offering_step (h : c.Offering s.files s.stream ex.sender asked heard s.client m)
    (hlock : Lockstep c.content ex n) (hto : ex.toReceiver = s.toTasks)
    (hback : s.toClient = answerOnWay answered heard ++ ex.toSender)
    (horder : heard = true → answered = true)
    (hstored : s.files.lookup c.localName = some c.content)
    (hstep : ClientStepped c.setup s e s') :
    ∃ ex' n' m' heard', n' + m' < n + m ∧
      OfferStepped c s s' ex ex' asked answered heard' n' m' := by
  have hcall := hstep.call
  have haccess := hstep.access
  generalize hclient : s.client = t at h hcall
  generalize hclient' : s'.client = t' at hcall
  cases h with
  | requesting op asks port begins =>
      cases client_called hcall with
      | requesting op packet ok =>
          obtain rfl : ok = true := hstep.granted
          have hrequests :
              (Event.sendto op.peerAddress c.request.packet true).toRequests = true := by
            simp [Event.toRequests, port]
          have htoTasks := hstep.toTasks
          rw [hrequests, if_pos rfl, List.append_nil] at htoTasks
          obtain ⟨hfiles, hstream⟩ := Prod.mk.inj (Option.some.inj haccess)
          have honward : ClientState.onRequested op true =
              .awaitingRequest (AwaitState.start 0 op) := by
            simp [ClientState.onRequested, asks.operation]
          refine ⟨ex, n, 14, false, by omega, ?_⟩
          exact
            { files := hfiles.symm
              lock := hlock
              receiver := rfl
              toReceiver := hto.trans htoTasks.symm
              toClient := (Option.some.inj hstep.arrives).symm.trans hback
              order := horder
              client := by
                rw [hclient', honward]
                exact .preparing (AwaitState.start 0 op) asks rfl rfl rfl begins
              toServer := by
                rw [hstep.toServer, hrequests]
                rfl }
  | preparing a asks number first point begins =>
      cases client_called hcall with
      | awaitingRequest a a' ha =>
          obtain ⟨block, packet, rfl, rfl⟩ := await_allocating point ha
          obtain ⟨hfiles, -⟩ := Prod.mk.inj (Option.some.inj haccess)
          have hloop : AwaitState.loopTest { a with incomingPacket := packet } =
              { a with
                incomingPacket := packet
                retryCounter := a.retryCounter + 1
                point := .awaiting } :=
            if_pos (show a.retryCounter < maxRetryCount by rw [first]; decide)
          refine offering_silent hto hback horder hstep rfl hfiles.symm
            ⟨ex.sender, 13, hlock, le_refl _, ?_⟩ (by decide)
          rw [hclient', hloop]
          exact .awaiting _ asks number rfl begins
  | awaiting a asks number point begins =>
      exact ⟨ex, n, 12, true, by omega,
        awaiting_step hlock hto hback hclient asks number point begins hstep⟩
  | allocating op asks port begins =>
      cases client_called hcall with
      | allocating op block =>
          obtain ⟨block, rfl⟩ := Option.isSome_iff_exists.mp hstep.granted
          obtain ⟨hfiles, hstream⟩ := Prod.mk.inj (Option.some.inj haccess)
          have hleft := FillState.left_start op true false
          refine offering_silent hto hback horder hstep rfl hfiles.symm
            (r := 5 + (FillState.start op true false).left) ?_ (by omega)
          rw [hclient']
          simp only [ClientState.onAllocated, asks.operation]
          exact offering_afterFill (fillsSupply_start true asks.path asks.size)
            (FillState.smooth_start op)
            (fun hopened => absurd hopened (FillState.not_opened_start op true false)) port begins
            hlock
  | filling f fills smooth opened unready port begins =>
      cases client_called hcall with
      | filling f f' hf =>
          have hfound : ∀ other, s.files.lookup (c.setup.resolveLocal c.path) = some other →
              other = c.content := by
            intro other hother
            exact (Option.some.inj (hstored.symm.trans hother)).symm
          obtain ⟨hfiles, hfills⟩ := FillsSupply.step fills hfound hf haccess
          have hsmooth := fills.smooth smooth hstored hstep.granted hstep.opens hf
          have hleft := FillState.left_step hf
          have hport : f'.op.peerAddress.port ≠ 69 := by
            rw [FillState.step_peer hf]
            exact port
          refine offering_silent hto hback horder hstep (FillState.silent_of_smooth smooth hf)
            hfiles ?_ (Nat.add_lt_add_left hleft 5)
          rw [hclient', hfiles]
          exact offering_afterFill hfills hsmooth
            (opened_fill fills.receiver opened hf haccess) hport begins hlock
  | transmitting supply opened running port =>
      rw [answerOnWay_heard, List.nil_append] at hback
      obtain ⟨ex', n', m', hlt, hstepped⟩ :=
        offered_step hlock hto hback (horder rfl) hclient supply opened port hstep
      exact ⟨ex', n', m', true, hlt, hstepped⟩
  | closing op reads finished =>
      cases client_called hcall with
      | closing op outcome =>
          refine offering_silent hto hback horder hstep rfl (reads.close haccess)
            ⟨ex.sender, 0, hlock, le_refl _, ?_⟩ (by decide)
          rw [hclient']
          exact .returned op finished
  | returned op finished => cases hcall

/-! ### When the client goes on -/

/-- Outside `tftp_transmit_file` the client makes its next call, until it has returned or waits
for the ACK. -/
theorem offering_enabled {sender : Sender c.blockSize}
    (h : c.Offering s.files s.stream sender asked heard s.client m)
    (hback : heard = false → answered = true → s.toClient = [ackPacket 0])
    (hstored : s.files.lookup c.localName = some c.content) :
    (∃ e, (perfectSession c.setup s (.client e)).isSome = true) ∨
      asked = true ∧ (heard = false ∧ answered = false ∨
        heard = true ∧ (s.client = .transmitting c.blockSize sender.state ∧
            Supply s.files c.content s.stream sender.pos ∧ StreamOpen s.stream ∧
            (∀ exit, sender.state.point ≠ .returned exit) ∨
          sender.state.point = .returned .success ∧ ∃ op, s.client = .returned op true)) := by
  generalize hclient : s.client = t at h
  cases h with
  | requesting op asks port begins =>
      refine Or.inl ⟨.sendto op.peerAddress c.request.packet true,
        perfectSession_client_of rfl rfl rfl ?_ rfl rfl⟩
      simp [hclient, clientStartOperation]
  | preparing a asks number first point begins =>
      refine Or.inl ⟨.malloc tftpResponsePacketMaxSize
        (some (List.replicate tftpResponsePacketMaxSize 0)),
        perfectSession_client_of rfl rfl rfl ?_ rfl rfl⟩
      simp [hclient, clientStartOperation, tftpAwaitAcknowledgement, point]
  | awaiting a asks number point begins =>
      cases answered with
      | false => exact Or.inr ⟨rfl, Or.inl ⟨rfl, rfl⟩⟩
      | true =>
          refine Or.inl ⟨.recvfrom tftpResponsePacketMaxSize
            (.datagram (localhost 50001) (ackPacket 0)),
            perfectSession_client_of rfl rfl (by simp [Event.fromTask, localhost]) ?_ rfl ?_⟩
          · simp [hclient, clientStartOperation, tftpAwaitAcknowledgement, point]
          · simp [hback rfl rfl, arrive]
  | allocating op asks port begins =>
      refine Or.inl ⟨.malloc sizeofTransferData (some []),
        perfectSession_client_of rfl rfl rfl ?_ rfl rfl⟩
      simp [hclient, clientStartOperation]
  | filling f fills smooth opened unready port begins =>
      obtain ⟨e, hgranted, hopens, hquiet, hfill, haccess⟩ :=
        fills.enabled c.setup.clientHost smooth unready hstored
      refine Or.inl ⟨e, perfectSession_client_of hgranted hopens (fromTask_of_silent hquiet) ?_
        haccess ?_⟩
      · rw [hclient, clientStartOperation, Option.isSome_map]
        exact hfill
      · rw [arrive_of_silent hquiet]
        rfl
  | transmitting supply opened running port =>
      exact Or.inr ⟨rfl, Or.inr ⟨rfl, Or.inl ⟨rfl, supply, opened, running⟩⟩⟩
  | closing op reads finished =>
      refine Or.inl ⟨.fclose 0, perfectSession_client_of rfl rfl rfl ?_ reads.close_isSome rfl⟩
      simp [hclient, clientStartOperation]
  | returned op finished => exact Or.inr ⟨rfl, Or.inr ⟨rfl, Or.inr ⟨finished, op, rfl⟩⟩⟩

/-- In `tftp_transmit_file` the client goes on where the exchange does. -/
theorem offered_enabled (hclient : s.client = .transmitting c.blockSize ex.sender.state)
    (hsupply : Supply s.files c.content s.stream ex.sender.pos) (hopened : StreamOpen s.stream)
    (hback : s.toClient = ex.toSender)
    (hperfect : (perfectStep c.upload c.content ex (.sender e)).isSome = true) :
    ∃ e, (perfectSession c.setup s (.client e)).isSome = true := by
  obtain ⟨e', hgranted, hopens, hsource, hcall, haccess, harrive⟩ :
      ∃ e', e'.granted = true ∧ e'.opens c.setup.resolveLocal s.files = true ∧
        e'.fromTask = true ∧
        (tftpTransmitFile c.setup.clientHost ex.sender.state e').isSome = true ∧
        (accessFiles c.setup.resolveLocal s.files s.stream e').isSome = true ∧
        (arrive ex.toSender e').isSome = true := sender_enabled hsupply hopened hperfect
  rw [← hback] at harrive
  refine ⟨e', perfectSession_client_of hgranted hopens hsource ?_ haccess harrive⟩
  rw [hclient, clientStartOperation, Option.isSome_map]
  exact hcall

end Client

end TransferCase

end Stftpu
