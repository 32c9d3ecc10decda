import Stftpu.Transfer.PerfectSession

/-!
# The two functions of a transfer over a perfect channel

`tftp_transmit_file` and `tftp_receive_file`, each with its file, while the other program is in
the other one: a call of either is a step of the exchange, and each goes on where the exchange
does.

* `FillsSupply.smooth`, `FillsCollect.smooth` — their setting up does not fail.
* `sender_step`, `receiver_step` — what a call does.
* `sender_enabled`, `receiver_enabled` — the next call.
* `exchange_stuck` — an exchange in which there is none.
-/

namespace Stftpu

open Library

/-- The hosts of an exchange; a step over the channel looks at nothing else. -/
def Setup.ofHosts {b : BlockSize} (sendHost receiveHost : Host) : Setup b :=
  { sendHost := sendHost
    receiveHost := receiveHost
    sendOp := sampleOperation
    receiveOp := sampleOperation
    sendData := Buffer.zero _
    sendResponse := Buffer.zero _
    receiveData := Buffer.zero _
    receiveResponse := Buffer.zero _ }

namespace TransferCase

/-- The exchange in which the server sends. -/
def download {ν : Type} (c : TransferCase ν) : Setup c.blockSize :=
  Setup.ofHosts c.setup.serverHost c.setup.clientHost

/-- The exchange in which the client sends. -/
def upload {ν : Type} (c : TransferCase ν) : Setup c.blockSize :=
  Setup.ofHosts c.setup.clientHost c.setup.serverHost

end TransferCase

theorem depart_of_granted {e : Event} (h : e.granted = true) (queue : List (List UInt8)) :
    depart queue e = some (queue ++ launched e) := by
  cases e with
  | sendto peer packet ok =>
      obtain rfl : ok = true := h
      rfl
  | _ => simp [depart, launched]

section Sides

variable {ν : Type} {b : BlockSize} {setup : Setup b} {content : List UInt8}
  {ex : Exchange b} {n : Nat} {e : Event} {resolve : List UInt8 → ν}
  {storage storage' : Storage ν} {stream stream' : Option (OpenFile ν)} {name : ν}
  {queue : List (List UInt8)}

/-- Nothing fails on the side that sends, where the file is there. -/
theorem FillsSupply.smooth {path : List UInt8} {host : Host} {f f' : FillState}
    (h : FillsSupply b path storage content stream f) (hsmooth : f.Smooth)
    (hstored : storage.lookup (resolve path) = some content) (hgranted : e.granted = true)
    (hopens : e.opens resolve storage = true) (hstep : tftpFillTransferData host f e = some f') :
    f'.Smooth := by
  refine FillState.smooth_step h.toFor hsmooth hgranted ?_ ?_ hstep
  · rintro p hpoint -
    simp only [FillState.Smooth, hpoint, h.receiver] at hsmooth
    cases hsmooth
  · rintro p errno hpoint rfl
    obtain ⟨error, hopen, -⟩ := fill_opening hpoint hstep
    obtain ⟨rfl, -, -⟩ := Event.fopen.inj hopen
    obtain ⟨number, hentry, -⟩ := Option.map_eq_some_iff.mp hstored
    simp [Event.opens, h.path, hentry] at hopens

/-- The stream of a side that sends. -/
theorem Supply.reads {position : Nat} (h : Supply storage content stream position)
    (hopened : StreamOpen stream) : StreamReads stream := by
  obtain ⟨f, hf, hmode, -⟩ := h
  obtain ⟨g, hg, hopen⟩ := hopened
  obtain rfl := Option.some.inj (hf.symm.trans hg)
  exact ⟨f, hf, hopen, hmode⟩

variable [DecidableEq ν]

/-- The stream stays open behind the calls that set the transfer up. -/
theorem opened_fill {host : Host} {f f' : FillState} (hreceiver : f.receiver = false)
    (hopened : f.Opened → StreamOpen stream) (hstep : tftpFillTransferData host f e = some f')
    (haccess : accessFiles resolve storage stream e = some (storage', stream')) :
    f'.Opened → StreamOpen stream' := by
  intro hopened'
  rcases FillState.opened_step hstep hopened' with hbefore | rfl
  · refine streamOpen_step (hopened hbefore) ?_ haccess
    rcases FillState.opened_quiet hbefore hstep with ⟨size, block, rfl⟩ | ⟨peer, packet, ok, rfl⟩
    · simp
    · simp
  · rw [hreceiver, if_neg Bool.false_ne_true] at haccess
    obtain ⟨number, -, -, rfl⟩ := access_open haccess
    exact ⟨_, rfl, rfl⟩

/-- Nothing fails on the side that receives, where the file is not there yet. -/
theorem FillsCollect.smooth {path : List UInt8} {host : Host} {f f' : FillState}
    (h : FillsCollect b path name storage stream f) (hsmooth : f.Smooth)
    (hmissing : f.point = .probing → storage.entry (resolve path) = none)
    (hgranted : e.granted = true) (hstep : tftpFillTransferData host f e = some f')
    (haccess : accessFiles resolve storage stream e = some (storage', stream')) :
    f'.Smooth := by
  refine FillState.smooth_step h.toFor hsmooth hgranted ?_ ?_ hstep
  · rintro p hpoint rfl
    obtain ⟨error, hopen, -⟩ := fill_probing hpoint hstep
    obtain ⟨rfl, -, -⟩ := Event.fopen.inj hopen
    obtain ⟨number, hentry, -⟩ := access_open haccess
    rw [h.path] at hentry
    exact absurd ((hmissing hpoint).symm.trans hentry) (by simp)
  · rintro p errno hpoint rfl
    obtain ⟨error, hopen, -⟩ := fill_opening hpoint hstep
    rw [h.receiver, if_pos rfl] at hopen
    cases hopen

/-- Either side makes its next call, until its blocks are there. -/
theorem FillsSupply.enabled {path : List UInt8} {f : FillState} (host : Host)
    (h : FillsSupply b path storage content stream f) (hsmooth : f.Smooth)
    (hunready : ∀ b tx, f.point ≠ .ready b tx)
    (hstored : storage.lookup (resolve path) = some content) :
    ∃ e, e.granted = true ∧ e.opens resolve storage = true ∧ e.usesSocket = false ∧
      (tftpFillTransferData host f e).isSome = true ∧
      (accessFiles resolve storage stream e).isSome = true := by
  obtain ⟨number, hentry, -⟩ := Option.map_eq_some_iff.mp hstored
  refine FillState.smooth_enabled host hsmooth hunready ?_ ?_
  · intro hpoint
    simp only [FillState.Smooth, hpoint, h.receiver] at hsmooth
    cases hsmooth
  · intro _ _
    rw [h.path, hentry]
    rfl

theorem FillsCollect.enabled {path : List UInt8} {f : FillState} (host : Host)
    (h : FillsCollect b path name storage stream f) (hsmooth : f.Smooth)
    (hunready : ∀ b tx, f.point ≠ .ready b tx)
    (hmissing : f.point = .probing → storage.entry (resolve path) = none) :
    ∃ e, e.granted = true ∧ e.opens resolve storage = true ∧ e.usesSocket = false ∧
      (tftpFillTransferData host f e).isSome = true ∧
      (accessFiles resolve storage stream e).isSome = true := by
  refine FillState.smooth_enabled host hsmooth hunready ?_ ?_
  · intro hpoint
    rw [h.path]
    exact hmissing hpoint
  · intro _ hreceiver
    rw [h.receiver] at hreceiver
    cases hreceiver

theorem fromTask_of_silent (h : e.usesSocket = false) : e.fromTask = true := by
  cases e with
  | recvfrom size result => cases h
  | _ => rfl

/-- A call of `tftp_transmit_file`. -/
theorem sender_step (setup : Setup b) {t : TransmitState b} (hlock : Lockstep content ex n)
    (hsupply : Supply storage content stream ex.sender.pos) (hopened : StreamOpen stream)
    (hgranted : e.granted = true)
    (hcall : tftpTransmitFile setup.sendHost ex.sender.state e = some t)
    (haccess : accessFiles resolve storage stream e = some (storage', stream'))
    (harrive : arrive ex.toSender e = some queue) :
    storage' = storage ∧ ∃ ex' n', Lockstep content ex' n' ∧ n' < n ∧ ex'.sender.state = t ∧
      ex'.receiver = ex.receiver ∧ ex'.toReceiver = ex.toReceiver ++ launched e ∧
      ex'.toSender = queue ∧ Supply storage' content stream' ex'.sender.pos ∧
      StreamOpen stream' := by
  obtain ⟨f, rfl, hmode, hpos, hcontents⟩ := hsupply
  obtain ⟨g, rfl, hnumber, hgmode, hmoved⟩ := sender_of_access hcall haccess
    (readsWhole_of_granted hgranted) hmode hcontents
  have hquiet := TransmitState.quiet hcall
  have hclose : ∀ lost, e ≠ .fclose lost := by
    rintro lost rfl
    cases hquiet
  have hstorage := (access_quiet hquiet haccess).1
  have hperfect : perfectStep setup content ex (.sender e) =
      some
        { ex with
          sender := { state := t, pos := g.position }
          toSender := queue
          toReceiver := ex.toReceiver ++ launched e } := by
    have hquiet := undisturbed_of_granted hgranted
    have hdepart := depart_of_granted hgranted ex.toReceiver
    rw [hpos] at hmoved
    simp only [perfectStep, if_pos hquiet]
    rw [hmoved, harrive, hdepart]
  refine ⟨hstorage, ?_⟩
  rcases lockstep_step hlock hperfect with ⟨n', hlt, hlock'⟩ | ⟨-, hfailed⟩
  · exact ⟨_, n', hlock', hlt, rfl, rfl, rfl, rfl,
      ⟨g, rfl, hgmode, rfl, by rw [hnumber, hstorage]; exact hcontents⟩,
      streamOpen_step hopened hclose haccess⟩
  · -- the receiver has not moved
    obtain ⟨hnotFailing, -, hsuccess⟩ := hlock.receiver_point
    rcases hfailed with ⟨reply, hpoint⟩ | hpoint
    · exact absurd hpoint (hnotFailing reply)
    · cases hsuccess _ hpoint

/-- A call of `tftp_receive_file`, which gives up on the empty block behind a multiple of the
block size. -/
theorem receiver_step (setup : Setup b) {t : ReceiveState b} (hlock : Lockstep content ex n)
    (hcollect : Collect name storage stream ex.receiver.written) (hgranted : e.granted = true)
    (hcall : tftpReceiveFile setup.receiveHost ex.receiver.state e = some t)
    (haccess : accessFiles resolve storage stream e = some (storage', stream'))
    (harrive : arrive ex.toReceiver e = some queue) :
    (∃ ex' n', Lockstep content ex' n' ∧ n' < n ∧ ex'.receiver.state = t ∧
        ex'.sender = ex.sender ∧ ex'.toReceiver = queue ∧
        ex'.toSender = ex.toSender ++ launched e ∧
        Collect name storage' stream' ex'.receiver.written) ∨
      content.length % b.val = 0 ∧
        ((∃ reply, t.point = .failing reply) ∨ t.point = .returned .failure) := by
  obtain ⟨hcollect', hmoved⟩ := receiver_of_access hcollect hcall haccess
  have hperfect : perfectStep setup content ex (.receiver e) =
      some
        { ex with
          receiver := { state := t, written := fileContents ex.receiver.written e }
          toReceiver := queue
          toSender := ex.toSender ++ launched e } := by
    have hquiet := undisturbed_of_granted hgranted
    have hdepart := depart_of_granted hgranted ex.toSender
    simp only [perfectStep, if_pos hquiet]
    rw [hmoved, harrive, hdepart]
  rcases lockstep_step hlock hperfect with ⟨n', hlt, hlock'⟩ | hfailed
  · exact Or.inl ⟨_, n', hlock', hlt, rfl, rfl, rfl, rfl, hcollect'⟩
  · exact Or.inr hfailed

/-- Where the exchange goes on with the sender, so does `tftp_transmit_file`; what it receives
may come from any port but that of the requests. -/
theorem sender_enabled (hsupply : Supply storage content stream ex.sender.pos)
    (hopened : StreamOpen stream)
    (hperfect : (perfectStep setup content ex (.sender e)).isSome = true) :
    ∃ e', e'.granted = true ∧ e'.opens resolve storage = true ∧ e'.fromTask = true ∧
      (tftpTransmitFile setup.sendHost ex.sender.state e').isSome = true ∧
      (accessFiles resolve storage stream e').isSome = true ∧
      (arrive ex.toSender e').isSome = true := by
  obtain ⟨ex', hex'⟩ := Option.isSome_iff_exists.mp hperfect
  obtain ⟨hquiet, hmoved, harrive, hdepart, -⟩ := perfectStep_sender hex'
  obtain ⟨htransmit, hposition, hreads⟩ := Sender.step_eq hmoved
  obtain ⟨f, rfl, hopen⟩ := hopened
  obtain ⟨g, hg, hmode, hpos, hcontents⟩ := hsupply
  obtain rfl : f = g := Option.some.inj hg
  have hcall : (tftpTransmitFile setup.sendHost ex.sender.state e).isSome = true := by
    rw [htransmit]
    rfl
  cases e with
  | poll set =>
      obtain rfl : set = false := hquiet
      exact ⟨.poll false, rfl, rfl, rfl, hcall, rfl, rfl⟩
  | fread size bytes eof =>
      refine ⟨.fread size bytes eof, ?_, rfl, rfl, hcall, ?_, rfl⟩
      · cases eof with
        | true => simp [Event.granted]
        | false =>
            have hne : bytes ≠ [] := fun hnil => hquiet ⟨hnil, rfl⟩
            simp [Event.granted, hne, (hreads rfl).resolve_left hne]
      · rw [accessFiles, if_pos ⟨hopen, hmode⟩, Option.isSome_map, hcontents, hpos, hposition]
        rfl
  | sendto peer packet ok =>
      obtain ⟨rfl, -⟩ := depart_sendto hdepart
      exact ⟨.sendto peer packet true, rfl, rfl, rfl, hcall, rfl, rfl⟩
  | recvfrom size result =>
      cases result with
      | failed errno => cases harrive
      | datagram source bytes =>
          refine ⟨.recvfrom size (.datagram (localhost 50001) bytes), rfl, rfl,
            by simp [Event.fromTask, localhost], ?_, rfl, ?_⟩
          · cases hpoint : ex.sender.state.point with
            | awaiting =>
                simp only [tftpTransmitFile, hpoint] at hcall ⊢
                split at hcall
                · rename_i hsize
                  rw [if_pos hsize]
                  rfl
                · cases hcall
            | _ => simp [tftpTransmitFile, hpoint] at hcall
          · simp [arrive, arrive_datagram harrive]
  | _ => cases hpoint : ex.sender.state.point <;> simp [tftpTransmitFile, hpoint] at hcall

/-- Where the exchange goes on with the receiver, so does `tftp_receive_file`. -/
theorem receiver_enabled (hcollect : Collect name storage stream ex.receiver.written)
    (hperfect : (perfectStep setup content ex (.receiver e)).isSome = true) :
    ∃ e', e'.granted = true ∧ e'.opens resolve storage = true ∧ e'.fromTask = true ∧
      (tftpReceiveFile setup.receiveHost ex.receiver.state e').isSome = true ∧
      (accessFiles resolve storage stream e').isSome = true ∧
      (arrive ex.toReceiver e').isSome = true := by
  obtain ⟨ex', hex'⟩ := Option.isSome_iff_exists.mp hperfect
  obtain ⟨hquiet, hmoved, harrive, hdepart, -⟩ := perfectStep_receiver hex'
  obtain ⟨hreceive, -⟩ := Receiver.step_eq hmoved
  have hcall : (tftpReceiveFile setup.receiveHost ex.receiver.state e).isSome = true := by
    rw [hreceive]
    rfl
  cases e with
  | poll set =>
      obtain rfl : set = false := hquiet
      exact ⟨.poll false, rfl, rfl, rfl, hcall, rfl, rfl⟩
  | fwrite bytes count kept =>
      obtain ⟨f, rfl, hopen, hmode, -⟩ := hcollect
      refine ⟨.fwrite bytes count kept, ?_, rfl, rfl, hcall, ?_, rfl⟩
      swap
      · simp [accessFiles, hopen, hmode]
      simpa [Event.granted, Undisturbed] using hquiet
  | sendto peer packet ok =>
      obtain ⟨rfl, -⟩ := depart_sendto hdepart
      exact ⟨.sendto peer packet true, rfl, rfl, rfl, hcall, rfl, rfl⟩
  | recvfrom size result =>
      cases result with
      | failed errno => cases harrive
      | datagram source bytes =>
          refine ⟨.recvfrom size (.datagram (localhost 50001) bytes), rfl, rfl,
            by simp [Event.fromTask, localhost], ?_, rfl, ?_⟩
          · cases hpoint : ex.receiver.state.point with
            | awaiting =>
                simp only [tftpReceiveFile, hpoint] at hcall ⊢
                split at hcall
                · rename_i hsize
                  rw [if_pos hsize]
                  rfl
                · cases hcall
            | _ => simp [tftpReceiveFile, hpoint] at hcall
          · simp [arrive, arrive_datagram harrive]
  | _ => cases hpoint : ex.receiver.state.point <;> simp [tftpReceiveFile, hpoint] at hcall

/-- An exchange in which each party has returned or cannot go on. -/
theorem exchange_stuck
    (hsender : (∀ e, (perfectStep setup content ex (.sender e)).isSome = true → False) ∨
      ex.sender.state.point = .returned .success)
    (hreceiver : (∀ e, (perfectStep setup content ex (.receiver e)).isSome = true → False) ∨
      ex.receiver.state.point = .returned .success) :
    Stuck (perfectStep setup content) ex := by
  intro move
  cases hmove : perfectStep setup content ex move with
  | none => rfl
  | some ex' =>
      cases move with
      | sender e =>
          rcases hsender with hnone | hfinished
          · exact (hnone e (by rw [hmove]; rfl)).elim
          · obtain ⟨-, hmoved, -⟩ := perfectStep_sender hmove
            obtain ⟨htransmit, -⟩ := Sender.step_eq hmoved
            rw [transmit_returned hfinished] at htransmit
            cases htransmit
      | receiver e =>
          rcases hreceiver with hnone | hfinished
          · exact (hnone e (by rw [hmove]; rfl)).elim
          · obtain ⟨-, hmoved, -⟩ := perfectStep_receiver hmove
            obtain ⟨hreceive, -⟩ := Receiver.step_eq hmoved
            rw [receive_returned hfinished] at hreceive
            cases hreceive

end Sides

end Stftpu
