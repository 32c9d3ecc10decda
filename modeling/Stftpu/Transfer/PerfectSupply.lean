import Stftpu.Transfer.DeleteAgreement
import Stftpu.Transfer.Interruption
import Stftpu.Transfer.PerfectServer
import Stftpu.Transfer.PerfectTransfer

/-!
# The server's part of a read

An idle server that gets the request over a perfect channel and sends the file.

* `Supplying` — where the task can be, with the steps left beside those of `tftp_transmit_file`.
* `supplying_step`, `read_server_step` — every step comes closer to the end.
* `supplying_enabled`, `transmitting_enabled` — there is always a next step until the task has
  ended.
-/

namespace Stftpu

open Library

namespace TransferCase

variable {ν : Type} (c : TransferCase ν)

/-- Where a task that sends the file can be behind its first step. -/
inductive Supplying (storage : Storage ν) (stream : Option (OpenFile ν))
    (sender : Sender c.blockSize) : TaskState → Nat → Prop
  | starting (op : OperationData) (serves : c.request.Serves op)
      (begins : sender.state.point = .entry) : Supplying storage stream sender (.starting op) 23
  | allocating (op : OperationData) (serves : c.request.Serves op)
      (begins : sender.state.point = .entry) : Supplying storage stream sender (.allocating op) 22
  | filling (s : FillState)
      (fills : FillsSupply c.blockSize c.request.path storage c.content stream s)
      (smooth : s.Smooth) (opened : s.Opened → StreamOpen stream)
      (unready : ∀ b tx, s.point ≠ .ready b tx) (begins : sender.state.point = .entry) :
      Supplying storage stream sender (.filling s) (10 + s.left)
  | transmitting (supply : Supply storage c.content stream sender.pos)
      (opened : StreamOpen stream) (running : ∀ exit, sender.state.point ≠ .returned exit) :
      Supplying storage stream sender (.transmitting c.blockSize sender.state) 9
  | closingFile (op : OperationData) (result : Option Bool) (reads : StreamReads stream)
      (finished : sender.state.point = .returned .success) :
      Supplying storage stream sender (.closingFile op result) 8
  | closingSocket (op : OperationData) (result : Option Bool)
      (finished : sender.state.point = .returned .success) :
      Supplying storage stream sender (.closingSocket op result) 7
  | releasing (result : Option Bool) (finished : sender.state.point = .returned .success) :
      Supplying storage stream sender (.releasing result) 6
  | ended (result : Option Bool) (finished : sender.state.point = .returned .success) :
      Supplying storage stream sender (.ended result) 0

/-- Where the server can be that sends the file. -/
def Supplies (old : List TaskThread) (s : PerfectSession ν) (sender : Sender c.blockSize)
    (asked : Bool) (n : Nat) : Prop :=
  RequestAt c.request old (c.Supplying s.storage (s.streams old.length) sender)
    (sender.state.point = .entry) s asked n

/-! ## The task -/

section Task

variable {c} {s s' : PerfectSession ν} {ex : Exchange c.blockSize} {n m k : Nat} {e : Event}
  {t t' : TaskState} {task : TaskThread} {storage : Storage ν} {stream : Option (OpenFile ν)}
  {sender : Sender c.blockSize}

theorem supplying_freeOperationData (op : OperationData) (result : Option Bool)
    (finished : sender.state.point = .returned .success) :
    ∃ m, m ≤ 7 ∧ c.Supplying storage stream sender (TaskState.freeOperationData op result) m := by
  unfold TaskState.freeOperationData
  split
  · exact ⟨7, le_refl _, .closingSocket op result finished⟩
  · exact ⟨6, by decide, .releasing result finished⟩

/-- What follows a call of `tftp_fill_transfer_data`. -/
theorem supplying_afterFill {f : FillState}
    (hfills : FillsSupply c.blockSize c.request.path storage c.content stream f)
    (hsmooth : f.Smooth) (hopened : f.Opened → StreamOpen stream)
    (hbegins : ex.sender.state.point = .entry) (hlock : Lockstep c.content ex n) :
    ∃ sender m, Lockstep c.content { ex with sender := sender } n ∧ m ≤ 10 + f.left ∧
      c.Supplying storage stream sender (TaskState.afterFill f) m := by
  cases hpoint : f.point with
  | ready b tx =>
      have hsized := hfills.sized
      simp only [FillState.Sized, hpoint] at hsized
      obtain ⟨rfl, data, response, rfl⟩ := hsized
      have hready : f.Opened := by simp [FillState.Opened, hpoint]
      have hat := Sender.at_start c.content f.op data response
      refine ⟨_, 9, hlock.restart_sender hbegins hat, by omega, ?_⟩
      have hsupplying : ∀ sender : Sender c.blockSize,
          sender =
            { state := TransmitState.start f.op (FillState.cleared data response), pos := 0 } →
          c.Supplying storage stream sender (.transmitting c.blockSize sender.state) 9 := by
        rintro sender rfl
        exact .transmitting (hfills.opened hready) (hopened hready)
          (by simp [TransmitState.start])
      simp only [TaskState.afterFill, hpoint, hfills.receiver, Bool.false_eq_true, if_false]
      exact hsupplying _ rfl
  | failed => simp [FillState.Smooth, hpoint] at hsmooth
  | _ =>
      refine ⟨ex.sender, _, hlock, le_refl _, ?_⟩
      simp only [TaskState.afterFill, hpoint]
      exact .filling f hfills hsmooth hopened (by simp [hpoint]) hbegins

theorem releases_supplying : Releases (c.Supplying storage stream sender) := by
  intro result l h
  cases h with
  | releasing result finished => exact ⟨rfl, .ended result finished⟩

variable [DecidableEq ν]

/-- Every call of the task comes closer to its end. -/
theorem supplying_step {toTasks : List (List UInt8)} {storage' : Storage ν}
    {stream' : Option (OpenFile ν)} (h : c.Supplying storage stream ex.sender t m)
    (hunreleased : ∀ result, t ≠ .releasing result) (hsend : c.request.operation = .send)
    (hstored : storage.lookup c.name = some c.content) (hlock : Lockstep c.content ex n)
    (hgranted : e.granted = true) (hopens : e.opens c.setup.resolve storage = true)
    (hcall : serverTaskStart c.setup.serverHost t e = some t')
    (haccess : accessFiles c.setup.resolve storage stream e = some (storage', stream'))
    (harrive : arrive ex.toSender e = some toTasks) :
    storage' = storage ∧ ∃ ex' n' m', Lockstep c.content ex' n' ∧ n' + m' < n + m ∧
      ex'.receiver = ex.receiver ∧ ex'.toReceiver = ex.toReceiver ++ launched e ∧
      ex'.toSender = toTasks ∧ c.Supplying storage' stream' ex'.sender t' m' := by
  -- a call that neither sends nor receives, behind which the sender is as it was or begins
  have hsilent : ∀ {r}, e.usesSocket = false → storage' = storage →
      (∃ sender m', Lockstep c.content { ex with sender := sender } n ∧ m' ≤ r ∧
        c.Supplying storage' stream' sender t' m') → r < m →
      storage' = storage ∧ ∃ ex' n' m', Lockstep c.content ex' n' ∧ n' + m' < n + m ∧
        ex'.receiver = ex.receiver ∧ ex'.toReceiver = ex.toReceiver ++ launched e ∧
        ex'.toSender = toTasks ∧ c.Supplying storage' stream' ex'.sender t' m' := by
    rintro r hquiet hstorage ⟨sender, m', hlock', hle, hsupplying⟩ hlt
    rw [arrive_of_silent hquiet] at harrive
    refine ⟨hstorage, _, n, m', hlock', by omega, rfl, ?_, Option.some.inj harrive, hsupplying⟩
    rw [launched_of_silent hquiet, List.append_nil]
  cases h with
  | starting op serves begins =>
      cases task_called hcall with
      | starting op set =>
          obtain rfl : set = false := by simpa [Event.granted] using hgranted
          obtain ⟨rfl, rfl⟩ := Prod.mk.inj (Option.some.inj haccess)
          have hoperation : op.operationId = .send := serves.operation.trans hsend
          refine hsilent rfl rfl ⟨ex.sender, 22, hlock, le_refl _, ?_⟩ (by decide)
          simp only [TaskState.dispatch, hoperation, Bool.false_eq_true, if_false]
          exact .allocating op serves begins
  | allocating op serves begins =>
      cases task_called hcall with
      | allocating op block =>
          obtain ⟨block, rfl⟩ := Option.isSome_iff_exists.mp hgranted
          obtain ⟨rfl, rfl⟩ := Prod.mk.inj (Option.some.inj haccess)
          have hoperation : op.operationId = .send := serves.operation.trans hsend
          have hreceiver : decide (op.operationId = .receive) = false := by simp [hoperation]
          have hleft := FillState.left_start op true false
          refine hsilent rfl rfl (r := 10 + (FillState.start op true false).left) ?_ (by omega)
          unfold TaskState.onAllocated
          rw [hreceiver]
          exact supplying_afterFill (fillsSupply_start true serves.path serves.size)
            (FillState.smooth_start op)
            (fun hopened => absurd hopened (FillState.not_opened_start op true false)) begins hlock
  | filling f fills smooth opened unready begins =>
      cases task_called hcall with
      | filling f f' hf =>
          have hfound : ∀ other, storage.lookup (c.setup.resolve c.request.path) = some other →
              other = c.content := by
            intro other hother
            exact (Option.some.inj (hstored.symm.trans hother)).symm
          obtain ⟨rfl, hfills⟩ := FillsSupply.step fills hfound hf haccess
          have hsmooth := fills.smooth smooth hstored hgranted hopens hf
          have hleft := FillState.left_step hf
          exact hsilent (FillState.silent_of_smooth smooth hf) rfl
            (supplying_afterFill hfills hsmooth (opened_fill fills.receiver opened hf haccess)
              begins hlock) (by omega)
  | transmitting supply opened running =>
      obtain ⟨f', hf, rfl⟩ := Option.map_eq_some_iff.mp hcall
      obtain ⟨hstorage, ex', n', hlock', hlt, rfl, hreceiver, hto, hback, hsupply, hopened⟩ :=
        sender_step c.download hlock supply opened hgranted hf haccess harrive
      refine ⟨hstorage, ex', n', ?_⟩
      cases hpoint : ex'.sender.state.point with
      | returned exit =>
          obtain rfl := hlock'.sender_point exit hpoint
          simp only [TaskState.afterTransmit, hpoint]
          exact ⟨8, hlock', by omega, hreceiver, hto, hback,
            .closingFile _ _ (hsupply.reads hopened) hpoint⟩
      | _ =>
          simp only [TaskState.afterTransmit, hpoint]
          exact ⟨9, hlock', by omega, hreceiver, hto, hback,
            .transmitting hsupply hopened (by simp [hpoint])⟩
  | closingFile op result reads finished =>
      cases task_called hcall with
      | closingFile op result =>
          obtain ⟨m', hle, hsupplying⟩ := supplying_freeOperationData op result finished
          exact hsilent rfl (reads.close haccess) ⟨ex.sender, m', hlock, hle, hsupplying⟩
            (by decide)
  | closingSocket op result finished =>
      cases task_called hcall with
      | closingSocket op result =>
          obtain ⟨rfl, rfl⟩ := Prod.mk.inj (Option.some.inj haccess)
          exact hsilent rfl rfl ⟨ex.sender, 6, hlock, le_refl _, .releasing result finished⟩
            (by decide)
  | releasing result finished => exact absurd rfl (hunreleased result)
  | ended result finished => cases hcall

end Task

/-! ## The server -/

section Server

variable {c} {s s' : PerfectSession ν} {ex : Exchange c.blockSize} {n m : Nat}
  {move : ProcessMove} {old : List TaskThread} {asked : Bool}

variable [DecidableEq ν]

/-- Every step of the server comes closer to the end. -/
theorem read_server_step (h : c.Supplies old s ex.sender asked m)
    (hold : ∀ task ∈ old, ¬ task.Live) (hfor : c.request.ServerFor (fun _ _ => True) s.server)
    (hsend : c.request.operation = .send) (hstored : s.storage.lookup c.name = some c.content)
    (hlock : Lockstep c.content ex n) (hto : ex.toReceiver = s.toClient)
    (hback : ex.toSender = s.toTasks) (hstep : ServerStepped c.setup s move s') :
    s'.storage = s.storage ∧ ∃ ex' n' m', Lockstep c.content ex' n' ∧ n' + m' < n + m ∧
      ex'.receiver = ex.receiver ∧ ex'.toReceiver = s'.toClient ∧ ex'.toSender = s'.toTasks ∧
      c.Supplies old s' ex'.sender asked m' := by
  -- behind a step that is no call of the task
  have hbeside : Beside s s' → (∃ m' < m, RequestAt c.request old
      (c.Supplying s.storage (s.streams old.length) ex.sender)
      (ex.sender.state.point = .entry) s' asked m') →
      s'.storage = s.storage ∧ ∃ ex' n' m', Lockstep c.content ex' n' ∧ n' + m' < n + m ∧
        ex'.receiver = ex.receiver ∧ ex'.toReceiver = s'.toClient ∧ ex'.toSender = s'.toTasks ∧
        c.Supplies old s' ex'.sender asked m' := by
    rintro hbeside ⟨m', hlt, hnext⟩
    refine ⟨hbeside.storage, ex, n, m', hlock, by omega, rfl, hto.trans hbeside.toClient.symm,
      hback.trans hbeside.toTasks.symm, ?_⟩
    unfold Supplies
    rw [hbeside.storage, hbeside.streams]
    exact hnext
  cases hindex : move.taskIndex with
  | none =>
      obtain ⟨hbesides, hnext⟩ := RequestAt.listener_step h hfor hindex hstep
      exact hbeside hbesides hnext
  | some k =>
      obtain ⟨rfl, hmoved⟩ := RequestAt.task_step h hold hfor
        (fun begins op serves => .starting op serves begins) releases_supplying hindex hstep
      rcases hmoved with ⟨hbesides, hnext⟩ | ⟨e, t, t', l, hcall, hwork, hcontinue⟩
      · exact hbeside hbesides hnext
      · have harrive := hcall.arrives
        rw [← hback] at harrive
        obtain ⟨hstorage, ex', n', l', hlock', hlt, hreceiver, hreceives, hsends, hnext⟩ :=
          supplying_step hwork hcall.unreleased hsend hstored hlock hcall.granted hcall.opens
            hcall.call hcall.access harrive
        obtain ⟨m', hle, hat⟩ := hcontinue _ (ex'.sender.state.point = .entry) l'
          releases_supplying hnext
        exact ⟨hstorage, ex', n', m', hlock', by omega, hreceiver,
          by rw [hreceives, hto, hcall.toClient], hsends, hat⟩

/-- Outside `tftp_transmit_file` the task makes its next call. -/
theorem supplying_enabled {storage : Storage ν} {stream : Option (OpenFile ν)}
    {sender : Sender c.blockSize} {t : TaskState} (host : Host)
    (h : c.Supplying storage stream sender t m)
    (hstored : storage.lookup c.name = some c.content) :
    (∃ e, e.granted = true ∧ e.opens c.setup.resolve storage = true ∧ e.usesSocket = false ∧
        (serverTaskStart host t e).isSome = true ∧
        (accessFiles c.setup.resolve storage stream e).isSome = true) ∨
      (t = .transmitting c.blockSize sender.state ∧
        (∀ exit, sender.state.point ≠ .returned exit) ∧
        Supply storage c.content stream sender.pos ∧ StreamOpen stream) ∨
      (∃ result, t = .releasing result) ∨
      sender.state.point = .returned .success ∧ ∃ result, t = .ended result := by
  cases h with
  | starting op serves begins => exact Or.inl ⟨.poll false, rfl, rfl, rfl, rfl, rfl⟩
  | allocating op serves begins =>
      exact Or.inl ⟨.malloc sizeofTransferData (some []), rfl, rfl, rfl,
        by simp [serverTaskStart], rfl⟩
  | filling f fills smooth opened unready begins =>
      obtain ⟨e, hgranted, hopens, hquiet, hfill, haccess⟩ :=
        fills.enabled host smooth unready hstored
      refine Or.inl ⟨e, hgranted, hopens, hquiet, ?_, haccess⟩
      rw [serverTaskStart, Option.isSome_map]
      exact hfill
  | transmitting supply opened running => exact Or.inr (Or.inl ⟨rfl, running, supply, opened⟩)
  | closingFile op result reads finished =>
      exact Or.inl ⟨.fclose 0, rfl, rfl, rfl, rfl, reads.close_isSome⟩
  | closingSocket op result finished =>
      exact Or.inl ⟨.close op.dataSocket, rfl, rfl, rfl, by simp [serverTaskStart], rfl⟩
  | releasing result finished => exact Or.inr (Or.inr (Or.inl ⟨result, rfl⟩))
  | ended result finished => exact Or.inr (Or.inr (Or.inr ⟨finished, result, rfl⟩))

/-- Once the request has been made, the server takes its next step, unless the task is in
`tftp_transmit_file`, or has ended and the listener waits for another request. -/
theorem read_server_enabled {sender : Sender c.blockSize} (h : c.Supplies old s sender true m)
    (hold : ∀ task ∈ old, ¬ task.Live) (hok : ProcessOk s.server)
    (hstored : s.storage.lookup c.name = some c.content) :
    (∃ move, (perfectSession c.setup s (.server move)).isSome = true) ∨
      (∃ task, s.server.tasks[old.length]? = some task ∧ s.server.listener.Listening ∧
        (∀ exit, sender.state.point ≠ .returned exit) ∧
        task.state = some (.transmitting c.blockSize sender.state) ∧
        Supply s.storage c.content (s.streams old.length) sender.pos ∧
        StreamOpen (s.streams old.length)) ∨
      sender.state.point = .returned .success ∧ DeleteRequest.Idle s.server := by
  rcases RequestAt.enabled h hold hok with
    hsome | ⟨task, t, l, tasks, listening, state, unreleased, hwork⟩
  · exact Or.inl hsome
  · have htask : s.server.tasks[old.length]? = some task := by simp [tasks]
    rcases supplying_enabled c.setup.serverHost hwork hstored with
      ⟨e, hgranted, hopens, hquiet, hcall, haccess⟩ | ⟨rfl, hrunning, hsupply, hopened⟩ |
        ⟨result, rfl⟩ | ⟨hfinished, result, rfl⟩
    · refine Or.inl ⟨.task old.length e, perfectSession_task listening htask state
        unreleased hgranted hopens hcall haccess ?_⟩
      rw [arrive_of_silent hquiet]
      rfl
    · exact Or.inr (Or.inl ⟨task, htask, listening, hrunning, state, hsupply, hopened⟩)
    · exact absurd rfl (unreleased result)
    · exact Or.inr (Or.inr ⟨hfinished, idle_of_ended hold tasks listening state⟩)

/-- In `tftp_transmit_file` the task goes on where the exchange does. -/
theorem transmitting_enabled {k : Nat} {task : TaskThread} {e : Event}
    (hlistening : s.server.listener.Listening) (htask : s.server.tasks[k]? = some task)
    (hstate : task.state = some (.transmitting c.blockSize ex.sender.state))
    (hsupply : Supply s.storage c.content (s.streams k) ex.sender.pos)
    (hopened : StreamOpen (s.streams k)) (hback : ex.toSender = s.toTasks)
    (hperfect : (perfectStep c.download c.content ex (.sender e)).isSome = true) :
    ∃ move, (perfectSession c.setup s (.server move)).isSome = true := by
  obtain ⟨e', hgranted, hopens, -, hcall, haccess, harrive⟩ :
      ∃ e', e'.granted = true ∧ e'.opens c.setup.resolve s.storage = true ∧
        e'.fromTask = true ∧
        (tftpTransmitFile c.setup.serverHost ex.sender.state e').isSome = true ∧
        (accessFiles c.setup.resolve s.storage (s.streams k) e').isSome = true ∧
        (arrive ex.toSender e').isSome = true := sender_enabled hsupply hopened hperfect
  rw [hback] at harrive
  refine ⟨.task k e', perfectSession_task hlistening htask hstate (by simp) hgranted hopens ?_
    haccess harrive⟩
  rw [serverTaskStart, Option.isSome_map]
  exact hcall

end Server

end TransferCase

end Stftpu
