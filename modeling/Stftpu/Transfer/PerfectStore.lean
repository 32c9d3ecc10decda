import Stftpu.Transfer.PerfectOffer
import Stftpu.Transfer.PerfectServer

/-!
# The server's part of a write

An idle server that gets the request over a perfect channel, answers it and receives the file.

* `Storing` — where the task can be, with the steps left beside those of `tftp_receive_file`.
* `Abandons` — the task that has given up on the file.
* `StoreStepped`, `storing_step`, `write_server_step` — every step comes closer to the end, but
  for an empty block at the end of the file.
* `storing_enabled`, `stored_enabled` — there is always a next step until the task has ended.
-/

namespace Stftpu

open Library

namespace TransferCase

variable {ν : Type} (c : TransferCase ν)

/-- Where a task that receives the file can be, and whether it has answered the request. -/
inductive Storing (storage : Storage ν) (stream : Option (OpenFile ν))
    (receiver : Receiver c.blockSize) : Bool → TaskState → Nat → Prop
  | starting (op : OperationData) (serves : c.request.Serves op)
      (missing : storage.entry c.name = none) (begins : receiver.state.point = .entry) :
      Storing storage stream receiver false (.starting op) 23
  | allocating (op : OperationData) (serves : c.request.Serves op)
      (missing : storage.entry c.name = none) (begins : receiver.state.point = .entry) :
      Storing storage stream receiver false (.allocating op) 22
  | filling (s : FillState)
      (fills : FillsCollect c.blockSize c.request.path c.name storage stream s)
      (smooth : s.Smooth) (missing : s.point = .probing → storage.entry c.name = none)
      (unready : ∀ b tx, s.point ≠ .ready b tx) (begins : receiver.state.point = .entry) :
      Storing storage stream receiver false (.filling s) (11 + s.left)
  | acknowledging (op : OperationData) (tx : TransferData c.blockSize)
      (collect : Collect c.name storage stream []) (begins : receiver.state.point = .entry) :
      Storing storage stream receiver false (.acknowledging c.blockSize op tx) 11
  | receiving (collect : Collect c.name storage stream receiver.written)
      (running : ∀ exit, receiver.state.point ≠ .returned exit) :
      Storing storage stream receiver true (.receiving c.blockSize receiver.state) 9
  | closingFile (op : OperationData) (collect : Collect c.name storage stream receiver.written)
      (finished : receiver.state.point = .returned .success) :
      Storing storage stream receiver true (.closingFile op (some true)) 8
  | closingSocket (op : OperationData) (lookup : storage.lookup c.name = some receiver.written)
      (finished : receiver.state.point = .returned .success) :
      Storing storage stream receiver true (.closingSocket op (some true)) 7
  | releasing (lookup : storage.lookup c.name = some receiver.written)
      (finished : receiver.state.point = .returned .success) :
      Storing storage stream receiver true (.releasing (some true)) 6
  | ended (lookup : storage.lookup c.name = some receiver.written)
      (finished : receiver.state.point = .returned .success) :
      Storing storage stream receiver true (.ended (some true)) 0

/-- Where the server can be that receives the file. -/
def Stores (old : List TaskThread) (s : PerfectSession ν) (receiver : Receiver c.blockSize)
    (answered asked : Bool) (n : Nat) : Prop :=
  RequestAt c.request old (c.Storing s.storage (s.streams old.length) receiver answered)
    (answered = false ∧ s.storage.entry c.name = none ∧ receiver.state.point = .entry) s asked n

/-! ## A task that gives up -/

/-- `tftp_receive_file` does not return `true`. -/
def Abandons : TaskState → Prop
  | .receiving _ r => ∃ reply, r.point = .failing reply
  | .closingPartial _ => True
  | .removingPartial _ => True
  | t => t.result = some false

/-- The task `k` is one of these. -/
def AbandonedBy (p : ServerProcess) (k : Nat) : Prop :=
  ∃ task t, p.tasks[k]? = some task ∧ task.state = some t ∧ Abandons t

theorem abandons_freeOperationData (op : OperationData) :
    Abandons (TaskState.freeOperationData op (some false)) := by
  unfold TaskState.freeOperationData
  split
  · rfl
  · rfl

theorem abandons_afterReceive {b : BlockSize} {r : ReceiveState b}
    (h : (∃ reply, r.point = .failing reply) ∨ r.point = .returned .failure) :
    Abandons (TaskState.afterReceive r) := by
  rcases h with ⟨reply, hpoint⟩ | hpoint
  · simp only [TaskState.afterReceive, hpoint]
    exact ⟨reply, hpoint⟩
  · simp only [TaskState.afterReceive, hpoint]
    exact trivial

theorem abandons_step {host : Host} {t t' : TaskState} {e : Event} (h : Abandons t)
    (hstep : serverTaskStart host t e = some t') : Abandons t' := by
  cases task_called hstep with
  | receiving b r r' hr =>
      obtain ⟨reply, hpoint⟩ := h
      obtain ⟨ok, -, rfl⟩ := receive_failing hpoint hr
      exact abandons_afterReceive (Or.inr rfl)
  | closingPartial op => trivial
  | removingPartial op error => exact abandons_freeOperationData op
  | closingFile op result =>
      obtain rfl : result = some false := h
      exact abandons_freeOperationData op
  | closingSocket op result => exact h
  | releasing result => exact h
  | _ => cases h

/-- It does not come back to the transfer. -/
theorem abandonedBy_step {host : Host} {mem : ListenerMemory} {p p' : ServerProcess}
    {move : ProcessMove} {k : Nat} (h : AbandonedBy p k)
    (hstep : serverProcess host mem p move = some p') : AbandonedBy p' k := by
  obtain ⟨task, t, htask, hstate, habandons⟩ := h
  obtain ⟨task', htask', hmoved⟩ := task_kept hstep htask
  cases hmoved with
  | stayed => exact ⟨task, t, htask', hstate, habandons⟩
  | began hm hfresh =>
      rw [hstate] at hfresh
      cases hfresh
  | called e state state' hm hbefore hnot hcall =>
      obtain rfl := Option.some.inj (hstate.symm.trans hbefore)
      exact ⟨_, state', htask', rfl, abandons_step habandons hcall⟩
  | detached result hm hbefore => exact ⟨_, t, htask', hstate, habandons⟩
  | releasing result next hm hbefore hdetached => exact ⟨_, t, htask', hstate, habandons⟩
  | released result hm hbefore hdetached =>
      obtain rfl := Option.some.inj (hstate.symm.trans hbefore)
      exact ⟨_, .ended result, htask', rfl, habandons⟩

/-! ## The task -/

section Task

variable {c} {ex : Exchange c.blockSize} {n m : Nat} {e : Event} {t t' : TaskState}
  {storage : Storage ν} {stream : Option (OpenFile ν)} {receiver : Receiver c.blockSize}
  {answered heard : Bool}

theorem storing_freeOperationData (op : OperationData)
    (lookup : storage.lookup c.name = some receiver.written)
    (finished : receiver.state.point = .returned .success) :
    ∃ m, m ≤ 7 ∧
      c.Storing storage stream receiver true (TaskState.freeOperationData op (some true)) m := by
  unfold TaskState.freeOperationData
  split
  · exact ⟨7, le_refl _, .closingSocket op lookup finished⟩
  · exact ⟨6, by decide, .releasing lookup finished⟩

/-- What follows a call of `tftp_fill_transfer_data`. -/
theorem storing_afterFill {f : FillState}
    (hfills : FillsCollect c.blockSize c.request.path c.name storage stream f)
    (hsmooth : f.Smooth) (hmissing : f.point = .probing → storage.entry c.name = none)
    (hbegins : receiver.state.point = .entry) :
    ∃ m, m ≤ 11 + f.left ∧
      c.Storing storage stream receiver false (TaskState.afterFill f) m := by
  cases hpoint : f.point with
  | ready b tx =>
      obtain ⟨rfl, written, hcollect, hat⟩ := hfills.ready hpoint c.content f.op
      obtain ⟨-, rfl, -⟩ : 0 = 0 ∧ written = [] ∧ _ := hat
      refine ⟨11, by omega, ?_⟩
      simp only [TaskState.afterFill, hpoint, hfills.receiver, if_true]
      exact .acknowledging f.op tx hcollect hbegins
  | failed => simp [FillState.Smooth, hpoint] at hsmooth
  | _ =>
      refine ⟨_, le_refl _, ?_⟩
      simp only [TaskState.afterFill, hpoint]
      exact .filling f hfills hsmooth hmissing (by simp [hpoint]) hbegins

theorem releases_storing : Releases (c.Storing storage stream receiver answered) := by
  intro result l h
  cases h with
  | releasing lookup finished => exact ⟨rfl, .ended lookup finished⟩

/-- What the task has done in a call, and where it is. -/
structure StoreStepped (c : TransferCase ν) (ex ex' : Exchange c.blockSize) (e : Event)
    (toTasks : List (List UInt8)) (storage : Storage ν) (stream : Option (OpenFile ν))
    (t : TaskState) (heard answered answered' : Bool) (n m : Nat) : Prop where
  lock : Lockstep c.content ex' n
  sender : ex'.sender = ex.sender
  toReceiver : ex'.toReceiver = toTasks
  toSender : answerOnWay answered heard ++ ex.toSender ++ launched e =
    answerOnWay answered' heard ++ ex'.toSender
  kept : answered = true → answered' = true
  task : c.Storing storage stream ex'.receiver answered' t m

/-- A call that neither sends nor receives. -/
theorem storing_silent {r : Nat} {toTasks : List (List UInt8)} (hlock : Lockstep c.content ex n)
    (harrive : arrive ex.toReceiver e = some toTasks) (hquiet : e.usesSocket = false)
    (hnext : ∃ m' ≤ r, c.Storing storage stream ex.receiver answered t' m') (hlt : r < m) :
    ∃ ex' n' m' answered', n' + m' < n + m ∧
      StoreStepped c ex ex' e toTasks storage stream t' heard answered answered' n' m' := by
  obtain ⟨m', hle, hstoring⟩ := hnext
  rw [arrive_of_silent hquiet] at harrive
  refine ⟨ex, n, m', answered, by omega, ?_⟩
  exact
    { lock := hlock
      sender := rfl
      toReceiver := Option.some.inj harrive
      toSender := by rw [launched_of_silent hquiet, List.append_nil]
      kept := id
      task := hstoring }

variable [DecidableEq ν]

/-- A call of the task in the middle of the transfer is a step of the exchange. -/
theorem stored_step {toTasks : List (List UInt8)} {storage' : Storage ν}
    {stream' : Option (OpenFile ν)} {r' : ReceiveState c.blockSize}
    (hlock : Lockstep c.content ex n)
    (hcollect : Collect c.name storage stream ex.receiver.written) (hgranted : e.granted = true)
    (hcall : tftpReceiveFile c.setup.serverHost ex.receiver.state e = some r')
    (haccess : accessFiles c.setup.resolve storage stream e = some (storage', stream'))
    (harrive : arrive ex.toReceiver e = some toTasks) :
    (∃ ex' n' m', n' + m' < n + 9 ∧
        StoreStepped c ex ex' e toTasks storage' stream' (TaskState.afterReceive r') heard true
          true n' m') ∨
      c.content.length % c.blockSize.val = 0 ∧ Abandons (TaskState.afterReceive r') := by
  rcases receiver_step c.upload hlock hcollect hgranted hcall haccess harrive with
    ⟨ex', n', hlock', hlt, rfl, hsender, hreceives, hsends, hcollect'⟩ | ⟨hmod, hfailed⟩
  · obtain ⟨-, hnotFault, hsuccess⟩ := hlock'.receiver_point
    have honward : ∃ m' ≤ 9, c.Storing storage' stream' ex'.receiver true
        (TaskState.afterReceive ex'.receiver.state) m' := by
      cases hpoint : ex'.receiver.state.point with
      | returned exit =>
          obtain rfl := hsuccess exit hpoint
          refine ⟨8, by decide, ?_⟩
          simp only [TaskState.afterReceive, hpoint]
          exact .closingFile _ hcollect' hpoint
      | fault => exact absurd hpoint hnotFault
      | _ =>
          refine ⟨9, le_refl _, ?_⟩
          simp only [TaskState.afterReceive, hpoint]
          exact .receiving hcollect' (by simp [hpoint])
    obtain ⟨m', hle, hstoring⟩ := honward
    refine Or.inl ⟨ex', n', m', by omega, ?_⟩
    exact
      { lock := hlock'
        sender := hsender
        toReceiver := hreceives
        toSender := by rw [hsends, List.append_assoc]
        kept := id
        task := hstoring }
  · exact Or.inr ⟨hmod, abandons_afterReceive hfailed⟩

/-- Every call of the task comes closer to its end, unless it gives up on the empty block behind
a multiple of the block size. -/
theorem storing_step {toTasks : List (List UInt8)} {storage' : Storage ν}
    {stream' : Option (OpenFile ν)} (h : c.Storing storage stream ex.receiver answered t m)
    (hunreleased : ∀ result, t ≠ .releasing result) (hreceive : c.request.operation = .receive)
    (hlock : Lockstep c.content ex n)
    (hunheard : answered = false → heard = false ∧ ex.sender.state.point = .entry)
    (hgranted : e.granted = true)
    (hcall : serverTaskStart c.setup.serverHost t e = some t')
    (haccess : accessFiles c.setup.resolve storage stream e = some (storage', stream'))
    (harrive : arrive ex.toReceiver e = some toTasks) :
    (∃ ex' n' m' answered', n' + m' < n + m ∧
        StoreStepped c ex ex' e toTasks storage' stream' t' heard answered answered' n' m') ∨
      c.content.length % c.blockSize.val = 0 ∧ Abandons t' := by
  cases h with
  | starting op serves missing begins =>
      cases task_called hcall with
      | starting op set =>
          obtain rfl : set = false := by simpa [Event.granted] using hgranted
          obtain ⟨rfl, rfl⟩ := Prod.mk.inj (Option.some.inj haccess)
          have hoperation : op.operationId = .receive := serves.operation.trans hreceive
          refine Or.inl (storing_silent hlock harrive rfl ⟨22, le_refl _, ?_⟩ (by decide))
          simp only [TaskState.dispatch, hoperation, Bool.false_eq_true, if_false]
          exact .allocating op serves missing begins
  | allocating op serves missing begins =>
      cases task_called hcall with
      | allocating op block =>
          obtain ⟨block, rfl⟩ := Option.isSome_iff_exists.mp hgranted
          obtain ⟨rfl, rfl⟩ := Prod.mk.inj (Option.some.inj haccess)
          have hoperation : op.operationId = .receive := serves.operation.trans hreceive
          have hreceiver : decide (op.operationId = .receive) = true := by simp [hoperation]
          have hleft := FillState.left_start op true true
          refine Or.inl (storing_silent hlock harrive rfl
            (r := 11 + (FillState.start op true true).left) ?_ (by omega))
          unfold TaskState.onAllocated
          rw [hreceiver]
          exact storing_afterFill (fillsCollect_start true serves.path serves.size)
            (FillState.smooth_start op) (fun _ => missing) begins
  | filling f fills smooth missing unready begins =>
      cases task_called hcall with
      | filling f f' hf =>
          obtain ⟨hfills, -⟩ := FillsCollect.step fills hf haccess
          have hsmooth := fills.smooth smooth missing hgranted hf haccess
          have hleft := FillState.left_step hf
          exact Or.inl (storing_silent hlock harrive (FillState.silent_of_smooth smooth hf)
            (storing_afterFill hfills hsmooth
              (fun hpoint => absurd hpoint (FillState.not_probing_step hf)) begins)
            (Nat.add_lt_add_left hleft 11))
  | acknowledging op tx collect begins =>
      cases task_called hcall with
      | acknowledging b op tx ok =>
          obtain rfl : ok = true := hgranted
          obtain ⟨rfl, rfl⟩ := Prod.mk.inj (Option.some.inj haccess)
          obtain ⟨rfl, hsender⟩ := hunheard rfl
          obtain ⟨-, -, -, htoSender, -⟩ := lockstep_ready_of_entry hlock hsender
          -- the receiver of the exchange is the function that begins here
          refine Or.inl ⟨{ ex with receiver := Receiver.start op tx }, n, 9, true, by omega, ?_⟩
          exact
            { lock := hlock.restart_receiver begins
              sender := rfl
              toReceiver := Option.some.inj harrive
              toSender := by
                rw [htoSender]
                rfl
              kept := fun _ => rfl
              task := by
                have hstoring : c.Storing storage stream (Receiver.start op tx) true
                    (.receiving c.blockSize (Receiver.start op tx).state) 9 :=
                  .receiving collect (by simp [Receiver.start, ReceiveState.start])
                exact hstoring }
  | receiving collect running =>
      obtain ⟨r', hr, rfl⟩ := Option.map_eq_some_iff.mp hcall
      rcases stored_step hlock collect hgranted hr haccess harrive with
        ⟨ex', n', m', hlt, hstepped⟩ | hgiven
      · exact Or.inl ⟨ex', n', m', true, hlt, hstepped⟩
      · exact Or.inr hgiven
  | closingFile op collect finished =>
      cases task_called hcall with
      | closingFile op result =>
          obtain ⟨held, hlookup, -, hheld⟩ := collect.close haccess
          obtain rfl := hheld ((granted_fclose _).mp hgranted)
          exact Or.inl (storing_silent hlock harrive rfl
            (storing_freeOperationData op hlookup finished) (by decide))
  | closingSocket op lookup finished =>
      cases task_called hcall with
      | closingSocket op result =>
          obtain ⟨rfl, rfl⟩ := Prod.mk.inj (Option.some.inj haccess)
          exact Or.inl (storing_silent hlock harrive rfl
            ⟨6, le_refl _, .releasing lookup finished⟩ (by decide))
  | releasing lookup finished => exact absurd rfl (hunreleased _)
  | ended lookup finished => cases hcall

/-- Outside `tftp_receive_file` the task makes its next call; none of these is a receive. -/
theorem storing_enabled (host : Host)
    (h : c.Storing storage stream receiver answered t m) :
    (∃ e, e.granted = true ∧ e.opens c.setup.resolve storage = true ∧
        (∀ queue, (arrive queue e).isSome = true) ∧
        (serverTaskStart host t e).isSome = true ∧
        (accessFiles c.setup.resolve storage stream e).isSome = true) ∨
      answered = true ∧
        (t = .receiving c.blockSize receiver.state ∧
            (∀ exit, receiver.state.point ≠ .returned exit) ∧
            Collect c.name storage stream receiver.written ∨
          (∃ result, t = .releasing result) ∨
          receiver.state.point = .returned .success ∧ t = .ended (some true) ∧
            storage.lookup c.name = some receiver.written) := by
  cases h with
  | starting op serves missing begins =>
      exact Or.inl ⟨.poll false, rfl, rfl, fun _ => rfl, rfl, rfl⟩
  | allocating op serves missing begins =>
      exact Or.inl ⟨.malloc sizeofTransferData (some []), rfl, rfl, fun _ => rfl,
        by simp [serverTaskStart], rfl⟩
  | filling f fills smooth missing unready begins =>
      obtain ⟨e, hgranted, hopens, hquiet, hfill, haccess⟩ :=
        fills.enabled host smooth unready missing
      refine Or.inl ⟨e, hgranted, hopens, ?_, ?_, haccess⟩
      · intro queue
        rw [arrive_of_silent hquiet]
        rfl
      · rw [serverTaskStart, Option.isSome_map]
        exact hfill
  | acknowledging op tx collect begins =>
      exact Or.inl ⟨.sendto op.peerAddress (ackPacket 0) true, rfl, rfl, fun _ => rfl,
        by simp [serverTaskStart], rfl⟩
  | receiving collect running => exact Or.inr ⟨rfl, Or.inl ⟨rfl, running, collect⟩⟩
  | closingFile op collect finished =>
      obtain ⟨f, rfl, hopen, -⟩ := collect
      exact Or.inl ⟨.fclose 0, rfl, rfl, fun _ => rfl, rfl, access_close_isSome hopen 0⟩
  | closingSocket op lookup finished =>
      exact Or.inl ⟨.close op.dataSocket, rfl, rfl, fun _ => rfl, by simp [serverTaskStart], rfl⟩
  | releasing lookup finished => exact Or.inr ⟨rfl, Or.inr (Or.inl ⟨_, rfl⟩)⟩
  | ended lookup finished => exact Or.inr ⟨rfl, Or.inr (Or.inr ⟨finished, rfl, lookup⟩)⟩

end Task

/-! ## The server -/

section Server

variable {c} {s s' : PerfectSession ν} {ex : Exchange c.blockSize} {n m : Nat} {e : Event}
  {move : ProcessMove} {old : List TaskThread} {asked answered heard : Bool}

/-- A task that has given up, wherever it goes on. -/
theorem abandonedBy_of_requestAt {r : TransferRequest} {W : TaskState → Nat → Prop}
    (h : RequestAt r old W False s asked n) (habandons : ∀ t l, W t l → Abandons t) :
    AbandonedBy s.server old.length := by
  cases h with
  | arriving asked listening tasks free toServer start => exact start.elim
  | parsing requested tasks toServer start => exact start.elim
  | working task l listening tasks work toServer =>
      have htask : s.server.tasks[old.length]? = some task := by simp [tasks]
      cases work with
      | waiting fresh start => exact start.elim
      | running t l state unreleased work => exact ⟨task, t, htask, state, habandons t l work⟩
      | releasing result state work => exact ⟨task, _, htask, state, habandons _ _ work⟩

variable [DecidableEq ν]

/-- Every step of the server comes closer to the end, unless the task gives up. -/
theorem write_server_step (h : c.Stores old s ex.receiver answered asked m)
    (hold : ∀ task ∈ old, ¬ task.Live) (hfor : c.request.ServerFor (fun _ _ => True) s.server)
    (hreceive : c.request.operation = .receive) (hlock : Lockstep c.content ex n)
    (hunheard : answered = false → heard = false ∧ ex.sender.state.point = .entry)
    (hto : ex.toReceiver = s.toTasks)
    (hback : s.toClient = answerOnWay answered heard ++ ex.toSender)
    (hstep : ServerStepped c.setup s move s') :
    (∃ ex' n' m' answered', Lockstep c.content ex' n' ∧ n' + m' < n + m ∧
        ex'.sender = ex.sender ∧ ex'.toReceiver = s'.toTasks ∧
        s'.toClient = answerOnWay answered' heard ++ ex'.toSender ∧
        (answered = true → answered' = true) ∧
        c.Stores old s' ex'.receiver answered' asked m') ∨
      c.content.length % c.blockSize.val = 0 ∧ AbandonedBy s'.server old.length := by
  -- behind a step that is no call of the task
  have hbeside : Beside s s' → (∃ m' < m, RequestAt c.request old
      (c.Storing s.storage (s.streams old.length) ex.receiver answered)
      (answered = false ∧ s.storage.entry c.name = none ∧ ex.receiver.state.point = .entry)
      s' asked m') →
      ∃ ex' n' m' answered', Lockstep c.content ex' n' ∧ n' + m' < n + m ∧
        ex'.sender = ex.sender ∧ ex'.toReceiver = s'.toTasks ∧
        s'.toClient = answerOnWay answered' heard ++ ex'.toSender ∧
        (answered = true → answered' = true) ∧
        c.Stores old s' ex'.receiver answered' asked m' := by
    rintro hbeside ⟨m', hlt, hnext⟩
    refine ⟨ex, n, m', answered, hlock, by omega, rfl, hto.trans hbeside.toTasks.symm,
      hbeside.toClient.trans hback, id, ?_⟩
    unfold Stores
    rw [hbeside.storage, hbeside.streams]
    exact hnext
  cases hindex : move.taskIndex with
  | none =>
      obtain ⟨hbesides, hnext⟩ := RequestAt.listener_step h hfor hindex hstep
      exact Or.inl (hbeside hbesides hnext)
  | some k =>
      have hbegins : (answered = false ∧ s.storage.entry c.name = none ∧
          ex.receiver.state.point = .entry) → ∀ op, c.request.Serves op →
            c.Storing s.storage (s.streams old.length) ex.receiver answered (.starting op) 23 := by
        rintro ⟨hanswered, missing, begins⟩ op serves
        rw [hanswered]
        exact .starting op serves missing begins
      obtain ⟨rfl, hmoved⟩ :=
        RequestAt.task_step h hold hfor hbegins releases_storing hindex hstep
      rcases hmoved with ⟨hbesides, hnext⟩ | ⟨e, t, t', l, hcall, hwork, hcontinue⟩
      · exact Or.inl (hbeside hbesides hnext)
      · have harrive := hcall.arrives
        rw [← hto] at harrive
        rcases storing_step hwork hcall.unreleased hreceive hlock hunheard hcall.granted
          hcall.call hcall.access harrive with
          ⟨ex', n', l', answered', hlt, hstored⟩ | ⟨hmod, habandons⟩
        · obtain ⟨m', hle, hat⟩ := hcontinue _ (answered' = false ∧
            s'.storage.entry c.name = none ∧ ex'.receiver.state.point = .entry) l'
            releases_storing hstored.task
          exact Or.inl ⟨ex', n', m', answered', hstored.lock, by omega, hstored.sender,
            hstored.toReceiver, by rw [hcall.toClient, hback, hstored.toSender], hstored.kept, hat⟩
        · obtain ⟨m', -, hat⟩ := hcontinue
            (fun t l => Abandons t ∧ ∀ result, t = .releasing result → l = 6) False 6
            (fun result l hw => ⟨hw.2 result rfl, hw.1, nofun⟩) ⟨habandons, fun _ _ => rfl⟩
          exact Or.inr ⟨hmod, abandonedBy_of_requestAt hat fun _ _ hw => hw.1⟩

/-- Once the request has been made, the server takes its next step, unless the task is in
`tftp_receive_file`, or has ended and the listener waits for another request. -/
theorem write_server_enabled {receiver : Receiver c.blockSize}
    (h : c.Stores old s receiver answered true m) (hold : ∀ task ∈ old, ¬ task.Live)
    (hok : ProcessOk s.server) :
    (∃ move, (perfectSession c.setup s (.server move)).isSome = true) ∨
      answered = true ∧
        ((∃ task, s.server.tasks[old.length]? = some task ∧ s.server.listener.Listening ∧
            (∀ exit, receiver.state.point ≠ .returned exit) ∧
            task.state = some (.receiving c.blockSize receiver.state) ∧
            Collect c.name s.storage (s.streams old.length) receiver.written) ∨
          receiver.state.point = .returned .success ∧
            s.storage.lookup c.name = some receiver.written ∧ DeleteRequest.Idle s.server ∧
            ∃ task, s.server.tasks = old ++ [task] ∧ task.state = some (.ended (some true))) := by
  rcases RequestAt.enabled h hold hok with
    hsome | ⟨task, t, l, tasks, listening, state, unreleased, hwork⟩
  · exact Or.inl hsome
  · have htask : s.server.tasks[old.length]? = some task := by simp [tasks]
    rcases storing_enabled c.setup.serverHost hwork with
      ⟨e, hgranted, hopens, harrive, hcall, haccess⟩ | ⟨hanswered, hrest⟩
    · exact Or.inl ⟨.task old.length e, perfectSession_task listening htask state
        unreleased hgranted hopens hcall haccess (harrive _)⟩
    · rcases hrest with ⟨rfl, hrunning, hcollect⟩ | ⟨result, rfl⟩ | ⟨hfinished, rfl, hlookup⟩
      · exact Or.inr ⟨hanswered,
          Or.inl ⟨task, htask, listening, hrunning, state, hcollect⟩⟩
      · exact absurd rfl (unreleased result)
      · exact Or.inr ⟨hanswered, Or.inr ⟨hfinished, hlookup,
          idle_of_ended hold tasks listening state, task, tasks, state⟩⟩

/-- In `tftp_receive_file` the task goes on where the exchange does. -/
theorem stored_enabled {k : Nat} {task : TaskThread}
    (hlistening : s.server.listener.Listening) (htask : s.server.tasks[k]? = some task)
    (hstate : task.state = some (.receiving c.blockSize ex.receiver.state))
    (hcollect : Collect c.name s.storage (s.streams k) ex.receiver.written)
    (hto : ex.toReceiver = s.toTasks)
    (hperfect : (perfectStep c.upload c.content ex (.receiver e)).isSome = true) :
    ∃ move, (perfectSession c.setup s (.server move)).isSome = true := by
  obtain ⟨e', hgranted, hopens, -, hcall, haccess, harrive⟩ :
      ∃ e', e'.granted = true ∧ e'.opens c.setup.resolve s.storage = true ∧
        e'.fromTask = true ∧
        (tftpReceiveFile c.setup.serverHost ex.receiver.state e').isSome = true ∧
        (accessFiles c.setup.resolve s.storage (s.streams k) e').isSome = true ∧
        (arrive ex.toReceiver e').isSome = true := receiver_enabled hcollect hperfect
  rw [hto] at harrive
  refine ⟨.task k e', perfectSession_task hlistening htask hstate (by simp) hgranted hopens ?_
    haccess harrive⟩
  rw [serverTaskStart, Option.isSome_map]
  exact hcall

end Server

end TransferCase

end Stftpu
