import Stftpu.Transfer.Deletion
import Stftpu.Transfer.PerfectChannel

/-!
# The deletion of a file over a perfect channel

The request and all replies arrive once, in order and in time, a slot is free, and nothing
but the file decides what becomes of the deletion: whether it is there, can be opened and can
be removed.

* `perfectDeletion` — one step over the perfect channel.
* `acquire_finds` — a free slot is found.
* `DeletionCase` — what decides the outcome, and `told_step`, what the task sends of it.
-/

namespace Stftpu

open Library

/-! ## The channel -/

namespace ProcessMove

/-- No signal arrives, no call for a resource fails, and no packet is lost on the way out. -/
def undisturbed : ProcessMove → Bool
  | .listener (.poll set) => !set
  | .listener (.sendto _ _ ok) => ok
  | .listener (.dataSocket .exits) => false
  | .taskArgs allocated => allocated
  | .createFailed _ => false
  | .task _ (.poll set) => !set
  | .task _ (.sendto _ _ ok) => ok
  | _ => true

/-- The queue towards the server behind a step: what the listener receives is the head. -/
def arrive (client : SockAddr) (queue : List (List UInt8)) :
    ProcessMove → Option (List (List UInt8))
  | .listener (.recvfrom _ (.datagram source bytes)) =>
      match queue with
      | [] => none
      | packet :: rest => if source = client ∧ bytes = packet then some rest else none
  | .listener (.recvfrom _ (.failed _)) => none
  | _ => some queue

end ProcessMove

/-- The server has nothing to do until a request arrives. -/
def ServerProcess.Waits (s : ServerProcess) : Prop :=
  s.listener.state.point = .awaiting ∧ ∀ task ∈ s.tasks, ¬ task.Live

instance : DecidablePred ServerProcess.Waits :=
  fun s => inferInstanceAs
    (Decidable (s.listener.state.point = .awaiting ∧ ∀ task ∈ s.tasks, ¬ task.Live))

section Channel

variable {ν : Type} [DecidableEq ν] (setup : DeletionSetup ν)

/-- Nothing is on its way, nor will be. -/
def Deletion.Silent {ν : Type} (s : Deletion ν) : Prop :=
  s.server.Waits ∧ s.toServer = [] ∧ s.toClient = []

instance {ν : Type} (s : Deletion ν) : Decidable s.Silent :=
  inferInstanceAs (Decidable (s.server.Waits ∧ s.toServer = [] ∧ s.toClient = []))

/-- `fopen` and `remove` of a file that is there. -/
def Deletion.answers {ν : Type} (setup : DeletionSetup ν) (openError removeError : Option Errno)
    (s : Deletion ν) : ProcessMove → Bool
  | .task _ (.fopen path _ error) =>
      (s.storage.entry (setup.resolve path)).isNone || error = openError
  | .task _ (.remove path error) =>
      (s.storage.entry (setup.resolve path)).isNone || error = removeError
  | _ => true

/-- One move over a perfect channel.  A receive of the client times out only when no reply is
still to come. -/
def perfectDeletion (openError removeError : Option Errno) (s : Deletion ν) :
    DeletionMove → Option (Deletion ν)
  | .client (.recvfrom size (.failed errno)) =>
      if s.Silent then s.clientStep setup (.recvfrom size (.failed errno)) else none
  | .client e =>
      match s.clientStep setup e, arrive s.toClient e, depart s.toServer e with
      | some t, some toClient, some toServer =>
          some { t with toClient := toClient, toServer := toServer }
      | _, _, _ => none
  | .server m =>
      if m.undisturbed && s.answers setup openError removeError m then
        match s.serverStep setup m, m.arrive setup.client s.toServer with
        | some t, some toServer =>
            some { t with toServer := toServer, toClient := s.toClient ++ m.replies setup.client }
        | _, _ => none
      else
        none

end Channel

/-! ### All that a move does -/

/-- Only the first packet on its way is received, and it is the client's. -/
theorem ProcessMove.arrive_datagram {client source : SockAddr} {bytes : List UInt8} {size : Nat}
    {queue queue' : List (List UInt8)}
    (h : ProcessMove.arrive client queue (.listener (.recvfrom size (.datagram source bytes))) =
      some queue') : source = client ∧ queue = bytes :: queue' := by
  cases queue with
  | nil => cases h
  | cons packet rest =>
      obtain ⟨⟨hsource, rfl⟩, hrest⟩ := Option.ite_none_right_eq_some.mp h
      exact ⟨hsource, by rw [Option.some.inj hrest]⟩

section Inversion

variable {ν : Type} [DecidableEq ν] {setup : DeletionSetup ν}
  {openError removeError : Option Errno} {s s' : Deletion ν} {e : Event} {m : ProcessMove}

theorem perfect_server
    (h : perfectDeletion setup openError removeError s (.server m) = some s') :
    m.undisturbed = true ∧ s.answers setup openError removeError m = true ∧
      m.arrive setup.client s.toServer = some s'.toServer ∧
      s'.toClient = s.toClient ++ m.replies setup.client ∧ s'.client = s.client ∧
      serverProcess setup.serverHost setup.mem s.server m = some s'.server ∧
      ((∀ k e, m ≠ .task k e) ∧ s'.storage = s.storage ∧ s'.streams = s.streams ∨
        ∃ k e file, m = .task k e ∧
          accessFiles setup.resolve s.storage (s.streams k) e = some (s'.storage, file) ∧
          s'.streams = Function.update s.streams k file) := by
  simp only [perfectDeletion] at h
  split at h
  · rename_i hquiet
    rw [Bool.and_eq_true] at hquiet
    split at h
    · rename_i t toServer ht harrive
      obtain rfl := Option.some.inj h
      obtain ⟨hserver, hclient, -, -, hfiles⟩ := serverStep_eq ht
      exact ⟨hquiet.1, hquiet.2, harrive, rfl, hclient, hserver, hfiles⟩
    · cases h
  · cases h

theorem perfect_client (h : perfectDeletion setup openError removeError s (.client e) = some s') :
    clientStartOperation setup.clientHost s.client e = some s'.client ∧
      s'.server = s.server ∧ s'.storage = s.storage ∧ s'.streams = s.streams ∧
      ((∃ size errno, e = .recvfrom size (.failed errno)) ∧ s.Silent ∧
          s'.toClient = s.toClient ∧ s'.toServer = s.toServer ∨
        arrive s.toClient e = some s'.toClient ∧ depart s.toServer e = some s'.toServer) := by
  unfold perfectDeletion at h
  split at h
  · rename_i size errno heq
    obtain rfl := DeletionMove.client.inj heq
    split at h
    · rename_i hsilent
      obtain ⟨client, hclient, rfl⟩ := clientStep_eq h
      exact ⟨hclient, rfl, rfl, rfl, Or.inl ⟨⟨size, errno, rfl⟩, hsilent, rfl, rfl⟩⟩
    · cases h
  · rename_i e' hnot heq
    obtain rfl := DeletionMove.client.inj heq
    split at h
    · rename_i t toClient toServer ht harrive hdepart
      obtain rfl := Option.some.inj h
      obtain ⟨client, hclient, rfl⟩ := clientStep_eq ht
      exact ⟨hclient, rfl, rfl, rfl, Or.inr ⟨harrive, hdepart⟩⟩
    · cases h
  · rename_i heq
    cases heq

end Inversion

/-! ## The search for a slot -/

/-- Steps left of `server_acquire_connection_slot`. -/
def acquireTurns : AcquirePoint → Nat
  | .locking => 10
  | .testing => 9
  | .scanning i => 3 + (serverMaxConnections - i)
  | .marking _ => 3
  | .counting _ => 2
  | .unlocking _ => 1

/-- Some slot is free. -/
def ServerSlots.HasFree (slots : ServerSlots) : Prop :=
  ∃ i < serverMaxConnections, slots.slotOccupiedFlags i = false

/-- A slot is free, or has been found. -/
def Finds (slots : ServerSlots) : AcquirePoint → Prop
  | .counting _ => True
  | .unlocking (some _) => True
  | _ => slots.HasFree

section Acquire

variable {slots slots' : ServerSlots} {phase : ServerThread → SlotPhase} {t : ServerThread}
  {point : AcquirePoint}

/-- With a slot free, every statement comes closer to its being found. -/
theorem acquire_finds (hok : SlotsOk slots phase) (hpoint : phase t = .acquiring point)
    (h : Finds slots point) {next : AcquirePoint ⊕ Option Nat}
    (hstep : serverAcquireConnectionSlot t slots point = some (slots', next)) :
    (∃ point', next = .inl point' ∧ Finds slots' point' ∧
        acquireTurns point' < acquireTurns point) ∨
      ∃ slot, next = .inr (some slot) := by
  have hknows := hok.knows t
  rw [hpoint] at hknows
  cases acquire_eq hstep with
  | locked slots' hlock =>
      refine Or.inl ⟨_, rfl, ?_, by simp [acquireTurns]⟩
      obtain ⟨i, hi, hfree⟩ := h
      exact ⟨i, hi, by rw [lock_flags hlock]; exact hfree⟩
  | counted hpositive =>
      exact Or.inl ⟨_, rfl, h, by simp [acquireTurns, serverMaxConnections]⟩
  | full hnone => exact Or.inl ⟨_, rfl, h, by simp [acquireTurns]⟩
  | occupied j hj hset =>
      refine Or.inl ⟨_, rfl, h, ?_⟩
      simp only [acquireTurns]
      omega
  | found j hj hfree =>
      refine Or.inl ⟨_, rfl, h, ?_⟩
      simp only [acquireTurns]
      omega
  | exhausted j hj =>
      refine Or.inl ⟨_, rfl, h, ?_⟩
      simp only [acquireTurns]
      omega
  | marked j => exact Or.inl ⟨_, rfl, trivial, by simp [acquireTurns]⟩
  | taken j => exact Or.inl ⟨_, rfl, trivial, by simp [acquireTurns]⟩
  | unlocked retval =>
      cases retval with
      | some slot => exact Or.inr ⟨slot, rfl⟩
      | none =>
          -- all flags were seen set
          obtain ⟨i, hi, hfree⟩ := h
          have hset := hknows i hi
          rw [hfree] at hset
          cases hset

/-- Nothing holds it up while the mutex is free or its own. -/
theorem acquire_enabled (hmutex : slots.slotsMutex = none ∨ point ≠ .locking) :
    ∃ next, serverAcquireConnectionSlot t slots point = some next := by
  cases point with
  | locking =>
      rcases hmutex with hfree | hne
      · exact ⟨_, by simp [serverAcquireConnectionSlot, ServerSlots.lock, hfree]; rfl⟩
      · exact absurd rfl hne
  | testing =>
      simp only [serverAcquireConnectionSlot]
      split <;> exact ⟨_, rfl⟩
  | scanning j =>
      simp only [serverAcquireConnectionSlot]
      split
      · split <;> exact ⟨_, rfl⟩
      · exact ⟨_, rfl⟩
  | _ => exact ⟨_, rfl⟩

/-- Steps left of `server_release_connection_slot`. -/
def releaseTurns : ReleasePoint → Nat
  | .locking => 4
  | .clearing => 3
  | .counting => 2
  | .unlocking => 1

theorem release_turns {slotIndex : Nat} {point next : ReleasePoint}
    (hstep : serverReleaseConnectionSlot t slotIndex slots point = some (slots', .inl next)) :
    releaseTurns next < releaseTurns point := by
  cases release_eq hstep with
  | locked slots' hlock => decide
  | cleared => decide
  | counted => decide

theorem release_enabled {point : ReleasePoint} (slotIndex : Nat)
    (hmutex : slots.slotsMutex = none ∨ point ≠ .locking) :
    ∃ next, serverReleaseConnectionSlot t slotIndex slots point = some next := by
  cases point with
  | locking =>
      rcases hmutex with hfree | hne
      · exact ⟨_, by simp [serverReleaseConnectionSlot, ServerSlots.lock, hfree]; rfl⟩
      · exact absurd rfl hne
  | _ => exact ⟨_, rfl⟩

end Acquire

/-! ## The task -/

/-- What decides the outcome of a deletion. -/
structure DeletionCase (ν : Type) where
  setup : DeletionSetup ν
  request : DeleteRequest
  /-- The files before the deletion. -/
  storage : Storage ν
  /-- What keeps the file from being opened. -/
  openError : Option Errno
  /-- What keeps it from being removed. -/
  removeError : Option Errno
  /-- The tasks of requests before this one. -/
  old : List TaskThread
  client_eq : setup.client = request.client
  old_ended : ∀ task ∈ old, ¬ task.Live

namespace DeletionCase

section Defs

variable {ν : Type} (c : DeletionCase ν)

/-- The file is there. -/
def present : Bool :=
  (c.storage.entry (c.setup.resolve c.request.path)).isSome

/-- The file is there, can be opened and can be removed. -/
def succeeds : Bool :=
  c.present && c.openError.isNone && c.removeError.isNone

/-- The packets a task has sent when it has done with the file. -/
def Final (sent : List (List UInt8)) : Prop :=
  sent = [ackPacket 0, ackPacket 1] ∧ c.succeeds = true ∨
    (sent = [ackPacket 0] ∨ ∃ reply, sent = [ackPacket 0, errorPacket reply]) ∧
      c.succeeds = false

/-- What a task has sent at a control point, and what it knows of the file. -/
def Told (storage : Storage ν) (stream : Option (OpenFile ν)) (sent : List (List UInt8)) :
    TaskState → Prop
  | .starting _ => sent = [] ∧ storage = c.storage
  | .deleting .acknowledging _ => sent = [] ∧ storage = c.storage
  | .deleting .opening _ => sent = [ackPacket 0] ∧ storage = c.storage
  | .deleting .closing _ =>
      sent = [ackPacket 0] ∧ storage = c.storage ∧ c.present = true ∧ c.openError = none ∧
        ∃ f, stream = some f ∧ f.isOpen = true ∧ f.mode = .read
  | .deleting .removing _ =>
      sent = [ackPacket 0] ∧ storage = c.storage ∧ c.present = true ∧ c.openError = none
  | .deleting .confirming _ => sent = [ackPacket 0] ∧ c.succeeds = true
  | .deleting (.failing _) _ => sent = [ackPacket 0] ∧ c.succeeds = false
  | .closingSocket _ _ => c.Final sent
  | .releasing _ => c.Final sent
  | .ended _ => c.Final sent
  | _ => False

end Defs

/-- Steps left of a deletion, up to the release of the slot. -/
def stateTurns : TaskState → Nat
  | .starting _ => 14
  | .deleting .acknowledging _ => 13
  | .deleting .opening _ => 12
  | .deleting .closing _ => 11
  | .deleting .removing _ => 10
  | .deleting .confirming _ => 9
  | .deleting (.failing _) _ => 9
  | .closingSocket _ _ => 8
  | .releasing _ => 6
  | _ => 0

section Outcome

variable {ν : Type} {c : DeletionCase ν} {sent : List (List UInt8)}

theorem told_freeOperationData (h : c.Final sent) (storage : Storage ν)
    (stream : Option (OpenFile ν)) (op : OperationData) (result : Option Bool) :
    c.Told storage stream sent (TaskState.freeOperationData op result) ∧
      stateTurns (TaskState.freeOperationData op result) < 9 := by
  unfold TaskState.freeOperationData
  split
  · exact ⟨h, by simp [stateTurns]⟩
  · exact ⟨h, by simp [stateTurns]⟩

theorem told_failDelete (hsent : sent = [ackPacket 0]) (hfails : c.succeeds = false)
    (storage : Storage ν) (stream : Option (OpenFile ν)) (op : OperationData)
    (reply : ErrorReply) :
    c.Told storage stream sent (TaskState.failDelete op reply) ∧
      stateTurns (TaskState.failDelete op reply) < 10 := by
  unfold TaskState.failDelete
  split
  · exact ⟨⟨hsent, hfails⟩, by simp [stateTurns]⟩
  · obtain ⟨htold, hturns⟩ :=
      told_freeOperationData (Or.inr ⟨Or.inl hsent, hfails⟩) storage stream op (some false)
    exact ⟨htold, by omega⟩

end Outcome

section Task

variable {ν : Type} [DecidableEq ν] {c : DeletionCase ν} {storage storage' : Storage ν}
  {stream stream' : Option (OpenFile ν)} {sent : List (List UInt8)} {t t' : TaskState}
  {e : Event} {k : Nat}

/-- A call of the task: what it sends, and what it learns of the file. -/
theorem told_step (h : c.Told storage stream sent t) (hstep : c.request.TaskStep t e t')
    (hquiet : (ProcessMove.task k e).undisturbed = true)
    (hopens : ∀ path mode error, e = .fopen path mode error →
      (storage.entry (c.setup.resolve path)).isSome = true → error = c.openError)
    (hremoves : ∀ path error, e = .remove path error →
      (storage.entry (c.setup.resolve path)).isSome = true → error = c.removeError)
    (haccess : accessFiles c.setup.resolve storage stream e = some (storage', stream')) :
    c.Told storage' stream' (sent ++ (ProcessMove.task k e).replies c.setup.client) t' ∧
      stateTurns t' < stateTurns t := by
  have hreply : ∀ packet,
      (ProcessMove.task k (.sendto c.request.client packet true)).replies c.setup.client =
        [packet] := by
    intro packet
    simp [ProcessMove.replies, c.client_eq]
  cases hstep with
  | terminated op => cases hquiet
  | started op hop =>
      obtain ⟨rfl, rfl⟩ := h
      exact ⟨⟨rfl, (access_quiet rfl haccess).1⟩, by simp [stateTurns]⟩
  | acknowledged op hop ok =>
      obtain ⟨rfl, rfl⟩ := h
      obtain rfl : ok = true := hquiet
      exact ⟨⟨hreply _, (access_quiet rfl haccess).1⟩, by simp [stateTurns]⟩
  | opened op hop =>
      obtain ⟨rfl, rfl⟩ := h
      obtain ⟨n, hentry, rfl, rfl⟩ := access_open haccess
      have hpresent : c.present = true := by simp [present, hentry]
      exact ⟨⟨rfl, rfl, hpresent, (hopens _ _ _ rfl hpresent).symm, _, rfl, rfl, rfl⟩,
        by simp [stateTurns]⟩
  | missing op hop errno reply =>
      obtain ⟨rfl, rfl⟩ := h
      -- the file is not there, or it cannot be opened
      have hfails : c.succeeds = false := by
        cases hpresent : c.present with
        | false => simp [succeeds, hpresent]
        | true =>
            have herror := hopens _ _ _ rfl hpresent
            simp [succeeds, ← herror]
      obtain ⟨htold, hturns⟩ := told_failDelete (c := c) rfl hfails storage' stream' op reply
      exact ⟨htold, hturns.trans (show 10 < 12 by decide)⟩
  | closed op hop =>
      obtain ⟨rfl, rfl, hpresent, hopen, f, rfl, -, hmode⟩ := h
      have hreads : ReadOnly (some f) := fun g hg => Option.some.inj hg ▸ hmode
      obtain ⟨hstorage, -⟩ := access_reading hreads rfl haccess
      exact ⟨⟨rfl, hstorage, hpresent, hopen⟩, by simp [stateTurns]⟩
  | removed op hop =>
      obtain ⟨rfl, rfl, hpresent, hopen⟩ := h
      -- the last call that the outcome depends on
      have hremove := hremoves _ _ rfl hpresent
      refine ⟨⟨rfl, ?_⟩, by simp [stateTurns]⟩
      simp [succeeds, hpresent, hopen, ← hremove]
  | kept op hop errno reply =>
      obtain ⟨rfl, rfl, hpresent, hopen⟩ := h
      have hremove := hremoves _ _ rfl hpresent
      exact told_failDelete rfl (by simp [succeeds, ← hremove]) storage' stream' op reply
  | confirmed op ok =>
      obtain ⟨rfl, hsucceeds⟩ := h
      obtain rfl : ok = true := hquiet
      rw [hreply]
      exact told_freeOperationData (Or.inl ⟨rfl, hsucceeds⟩) storage' stream' op (some true)
  | failed op reply ok =>
      obtain ⟨rfl, hfails⟩ := h
      obtain rfl : ok = true := hquiet
      rw [hreply]
      exact told_freeOperationData (Or.inr ⟨Or.inr ⟨reply, rfl⟩, hfails⟩) storage' stream' op
        (some false)
  | closedSocket op result =>
      refine ⟨?_, by simp [stateTurns]⟩
      rw [show (ProcessMove.task k (.close op.dataSocket)).replies c.setup.client = [] from rfl,
        List.append_nil]
      exact h
  | released result =>
      refine ⟨?_, by simp [stateTurns]⟩
      rw [show (ProcessMove.task k .release).replies c.setup.client = [] from rfl,
        List.append_nil]
      exact h

end Task

end DeletionCase

end Stftpu
