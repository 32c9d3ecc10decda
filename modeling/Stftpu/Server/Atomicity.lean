import Stftpu.Operation
import Stftpu.Server.StoreIntegrity
import Stftpu.Transfer.OwnBytes

/-!
# Uploads that fail

The task of a write request creates the file before it allocates its buffers and before it
answers the request, and removes it again only when `tftp_receive_file` has returned
`false`.  What fails in between leaves an empty file behind.

* `UploadPhase` — how far an upload alone with the storage has come.
* `phase_step` — a step leads to `left` exactly when it is not `Unbroken`.
* `upload_atomic_iff` — the failed uploads after which the storage is as it was.
-/

namespace Stftpu

open Library

/-- The block size of the operation passes the check behind `fopen`. -/
def ValidBlockSize (op : OperationData) : Prop :=
  tftpBlksizeMin ≤ op.blockSize.toNat ∧ op.blockSize.toNat ≤ tftpBlksizeMax

namespace TaskState

/-- Nothing is left to be called, or nothing more can be said. -/
def Over : TaskState → Prop
  | .ended _ => True
  | .fault => True
  | _ => False

/-- A write request whose file has not been created, nor will be once it is refused. -/
def NotCreated : TaskState → Prop
  | .starting op => op.operationId = .receive ∧ ValidBlockSize op
  | .allocating op => op.operationId = .receive ∧ ValidBlockSize op
  | .filling s => s.receiver = true ∧ ValidBlockSize s.op ∧ ¬ s.Opened
  | .closingFile _ result => result = none
  | .closingSocket _ result => result = none
  | .releasing result => result = none
  | .ended result => result = none
  | .fault => True
  | _ => False

/-- A write request whose file has been created, and that goes on with it. -/
def Unfinished : TaskState → Prop
  | .filling s =>
      s.receiver = true ∧ ((∃ b, s.point = .allocatingData b) ∨
        ∃ b data, s.point = .allocatingResponse b (some data))
  | .acknowledging _ _ _ => True
  | .receiving _ _ => True
  | .closingPartial _ => True
  | .removingPartial _ => True
  | _ => False

/-- A write request that leaves the file it has created. -/
def Leaving : TaskState → Prop
  | .filling s =>
      s.receiver = true ∧
        ((∃ b, s.point = .allocatingResponse b none) ∨ ∃ reply, s.point = .failing reply)
  | .closingFile _ result => result ≠ some true
  | .closingSocket _ result => result ≠ some true
  | .releasing result => result ≠ some true
  | .ended result => result ≠ some true
  | .fault => True
  | _ => False

/-- The file has been removed, and what is left to do is not about files. -/
def Undone : TaskState → Prop
  | .closingSocket _ result => result = some false
  | .releasing result => result = some false
  | .ended result => result = some false
  | _ => False

/-- Between its creation and its removal, nothing keeps the file from being received or
removed: both buffers are allocated, ACK 0 is sent, no datagram makes `fwrite` leave the
buffer, and `remove` succeeds. -/
def Unbroken (t : TaskState) (e : Event) : Prop :=
  match t, e with
  | .filling _, .malloc _ block => block.isSome = true
  | .acknowledging _ _ _, .sendto _ _ ok => ok = true
  | .receiving _ s, .recvfrom _ (.datagram _ bytes) => ¬ s.Completes bytes
  | .removingPartial _, .remove _ error => error = none
  | _, _ => True

section Points

variable {op : OperationData} {result : Option Bool} {fileOpen : Bool} {s : FillState}

theorem notCreated_freeTransferData : (freeTransferData op fileOpen none).NotCreated := by
  unfold freeTransferData
  split
  · rfl
  · unfold freeOperationData
    split <;> rfl

theorem leaving_freeOperationData (h : result ≠ some true) :
    (freeOperationData op result).Leaving := by
  unfold freeOperationData
  split <;> exact h

theorem undone_freeOperationData : (freeOperationData op (some false)).Undone := by
  unfold freeOperationData
  split <;> rfl

theorem leaving_freeTransferData (h : result ≠ some true) :
    (freeTransferData op fileOpen result).Leaving := by
  unfold freeTransferData
  split
  · exact h
  · exact leaving_freeOperationData h

/-- `tftp_fill_transfer_data` goes on without a file, or has returned `false`. -/
theorem notCreated_afterFill (hreceiver : s.receiver = true) (hsize : ValidBlockSize s.op)
    (hopened : ¬ s.Opened) : (afterFill s).NotCreated := by
  unfold afterFill
  split
  · rename_i hpoint
    exact absurd (by simp [FillState.Opened, hpoint]) hopened
  · split
    · exact notCreated_freeTransferData
    · trivial
  · exact ⟨hreceiver, hsize, hopened⟩

theorem leaving_afterFill_fail (hreceiver : s.receiver = true) (reply : ErrorReply) :
    (afterFill (s.fail reply)).Leaving := by
  unfold afterFill
  rcases s.fail_point reply with hp | hp
  · rw [hp]
    exact ⟨by rw [FillState.fail_receiver, hreceiver], Or.inr ⟨reply, hp⟩⟩
  · rw [hp]
    simp only []
    split
    · exact leaving_freeTransferData (by simp)
    · trivial

theorem checkBlockSize_of_valid (h : ValidBlockSize s.op) :
    ∃ b, s.checkBlockSize.point = .allocatingData b := by
  unfold FillState.checkBlockSize
  split
  · exact ⟨_, rfl⟩
  · have hrange : tftpBlksizeMin ≤ s.op.blockSize.toNat ∧
        s.op.blockSize.toNat ≤ tftpBlksizeMax := h
    rw [dif_pos hrange]
    exact ⟨_, rfl⟩

end Points

section Steps

variable {host : Host} {t t' : TaskState} {e : Event}

/-- A request without a file opens none for writing but the one it creates, and goes on without
it until then. -/
theorem notCreated_step (h : t.NotCreated) (hstep : serverTaskStart host t e = some t') :
    (e.changesNames = false ∧ t'.NotCreated) ∨
      ∃ path, e = .fopen path .write none ∧ t'.Unfinished ∧ t'.path = some path := by
  cases task_called hstep with
  | starting op set =>
      refine Or.inl ⟨rfl, ?_⟩
      cases set with
      | true => rfl
      | false => simpa [dispatch, h.1, NotCreated] using h
  | allocating op block =>
      refine Or.inl ⟨rfl, ?_⟩
      unfold onAllocated
      refine notCreated_afterFill ?_ ?_ (FillState.not_opened_start _ _ _)
      · cases block <;> simp [FillState.start, h.1]
      · cases block <;> simpa [FillState.start] using h.2
  | filling s s' hs =>
      obtain ⟨hreceiver, hsize, hopened⟩ := h
      cases hpoint : s.point with
      | probing =>
          obtain ⟨error, rfl, ⟨-, rfl⟩ | ⟨-, rfl⟩⟩ := fill_probing hpoint hs
          · exact Or.inl ⟨by cases error <;> rfl, notCreated_afterFill hreceiver hsize id⟩
          · exact Or.inl ⟨by cases error <;> rfl, notCreated_afterFill hreceiver hsize id⟩
      | describing =>
          obtain ⟨timestamp, rfl, rfl⟩ := fill_describing hpoint hs
          refine Or.inl ⟨rfl, notCreated_afterFill ?_ ?_ (FillState.not_opened_fail _)⟩
          · simpa using hreceiver
          · simpa using hsize
      | opening =>
          obtain ⟨error, rfl, ⟨rfl, rfl⟩ | ⟨errno, rfl, rfl⟩⟩ := fill_opening hpoint hs
          · -- the creation
            obtain ⟨b, hb⟩ := checkBlockSize_of_valid (s := { s with fileOpen := true }) hsize
            obtain ⟨hpath, hreceiver'⟩ := FillState.checkBlockSize_keeps
              (s := { s with fileOpen := true })
            rw [if_pos hreceiver]
            refine Or.inr ⟨s.op.path, rfl, ?_⟩
            unfold afterFill
            rw [hb]
            exact ⟨⟨hreceiver'.trans hreceiver, Or.inl ⟨b, hb⟩⟩, congrArg some hpath⟩
          · refine Or.inl ⟨?_, notCreated_afterFill ?_ ?_ (FillState.not_opened_fail _)⟩
            · split <;> rfl
            · simpa using hreceiver
            · simpa using hsize
      | allocatingData b => exact absurd (by simp [FillState.Opened, hpoint]) hopened
      | allocatingResponse b data => exact absurd (by simp [FillState.Opened, hpoint]) hopened
      | ready b tx => exact absurd (by simp [FillState.Opened, hpoint]) hopened
      | failing reply =>
          -- a reply changes no file
          obtain ⟨ok, rfl, rfl⟩ := fill_failing hpoint hs
          exact Or.inl ⟨rfl, notCreated_afterFill hreceiver hsize id⟩
      | failed =>
          rw [fill_failed hpoint] at hs
          cases hs
  | closingFile op result =>
      obtain rfl : result = none := h
      refine Or.inl ⟨rfl, ?_⟩
      unfold freeOperationData
      split <;> rfl
  | closingSocket op result => exact Or.inl ⟨rfl, h⟩
  | releasing result => exact Or.inl ⟨rfl, h⟩
  | _  => exact h.elim

/-- Nothing that happens without a file breaks anything. -/
theorem unbroken_of_notCreated (h : t.NotCreated)
    (hstep : serverTaskStart host t e = some t') : t.Unbroken e := by
  cases t with
  | filling s =>
      cases e with
      | malloc size block =>
          obtain ⟨-, -, hopened⟩ := h
          obtain ⟨s', hs, -⟩ := Option.map_eq_some_iff.mp hstep
          cases hpoint : s.point with
          | allocatingData b => exact absurd (by simp [FillState.Opened, hpoint]) hopened
          | allocatingResponse b data =>
              exact absurd (by simp [FillState.Opened, hpoint]) hopened
          | _ => simp [tftpFillTransferData, hpoint] at hs
      | _ => trivial
  | _ => trivial

/-- Nor does anything behind the return of a transfer. -/
theorem unbroken_of_result {value : Bool} (h : t.result = some value) (e : Event) :
    t.Unbroken e := by
  cases t with
  | closingFile op result => trivial
  | closingSocket op result => trivial
  | releasing result => trivial
  | ended result => trivial
  | _ => cases h

/-- A request that leaves its file at most closes it. -/
theorem leaving_step (h : t.Leaving) (hstep : serverTaskStart host t e = some t') :
    t'.Leaving ∧ e.changesNames = false ∧ ∀ path mode error, e ≠ .fopen path mode error := by
  cases task_called hstep with
  | filling s s' hs =>
      obtain ⟨hreceiver, hpoint⟩ := h
      rcases hpoint with ⟨b, hpoint⟩ | ⟨reply, hpoint⟩
      · obtain ⟨block, response, rfl, -, rfl⟩ := fill_allocatingResponse hpoint hs
        exact ⟨leaving_afterFill_fail hreceiver _, rfl, by simp⟩
      · obtain ⟨ok, rfl, rfl⟩ := fill_failing hpoint hs
        refine ⟨?_, rfl, by simp⟩
        unfold afterFill
        simp only []
        split
        · exact leaving_freeTransferData (by simp)
        · trivial
  | closingFile op result => exact ⟨leaving_freeOperationData h, rfl, by simp⟩
  | closingSocket op result => exact ⟨h, rfl, by simp⟩
  | releasing result => exact ⟨h, rfl, by simp⟩
  | _  => exact h.elim

/-- Behind the removal no call is on files. -/
theorem undone_step (h : t.Undone) (hstep : serverTaskStart host t e = some t') :
    t'.Undone ∧ e.changesFiles = false := by
  cases task_called hstep with
  | closingSocket op result => exact ⟨h, rfl⟩
  | releasing result => exact ⟨h, rfl⟩
  | _ => exact h.elim

theorem unbroken_of_undone (h : t.Undone) (e : Event) : t.Unbroken e := by
  cases t with
  | closingSocket op result => trivial
  | releasing result => trivial
  | ended result => trivial
  | _ => exact h.elim

/-- What becomes of a request that goes on with its file. -/
inductive UnfinishedStep (t t' : TaskState) (e : Event) : Prop
  /-- It goes on. -/
  | goesOn (unfinished : t'.Unfinished) (path : t'.path = t.path)
      (opens : ∀ path mode error, e ≠ .fopen path mode error)
      (removes : ∀ path, e ≠ .remove path none) (unbroken : t.Unbroken e)
  /-- The file has been received whole. -/
  | whole (result : t'.result = some true) (unbroken : t.Unbroken e)
  /-- The file is removed. -/
  | removed (path : List UInt8) (named : t.path = some path) (event : e = .remove path none)
      (undone : t'.Undone) (unbroken : t.Unbroken e)
  /-- The file is left. -/
  | left (leaving : t'.Leaving) (opens : ∀ path mode error, e ≠ .fopen path mode error)
      (removes : ∀ path, e ≠ .remove path none) (broken : ¬ t.Unbroken e)

theorem unbroken_receiving {b : BlockSize} {s : ReceiveState b}
    (h : ∀ size source bytes, e = .recvfrom size (.datagram source bytes) → ¬ s.Completes bytes) :
    (TaskState.receiving b s).Unbroken e := by
  cases e with
  | recvfrom size result =>
      cases result with
      | datagram source bytes => exact h size source bytes rfl
      | failed errno => trivial
  | _ => trivial

/-- Reception returns `true`, or goes on up to the removal of the file. -/
theorem afterReceive_cases {b : BlockSize} {s : ReceiveState b} (h : s.point ≠ .fault) :
    (afterReceive s).result = some true ∨
      ((afterReceive s).Unfinished ∧ (afterReceive s).path = some s.op.path) := by
  unfold afterReceive
  split
  · rename_i exit hpoint
    cases exit with
    | success => exact Or.inl rfl
    | failure => exact Or.inr ⟨trivial, rfl⟩
    | peerError => exact Or.inr ⟨trivial, rfl⟩
  · exact absurd (by assumption) h
  · exact Or.inr ⟨trivial, rfl⟩

theorem unfinished_step (h : t.Unfinished) (hstep : serverTaskStart host t e = some t') :
    UnfinishedStep t t' e := by
  cases task_called hstep with
  | filling s s' hs =>
      obtain ⟨hreceiver, hpoint⟩ := h
      rcases hpoint with ⟨b, hpoint⟩ | ⟨b, data, hpoint⟩
      · -- the data packet buffer: without it the fill goes on to the next allocation
        obtain ⟨block, data, rfl, hdata, rfl⟩ := fill_allocatingData hpoint hs
        cases block with
        | none =>
            obtain rfl := Option.some.inj hdata
            exact .left ⟨hreceiver, Or.inl ⟨b, rfl⟩⟩ (by simp) (by simp) (by simp [Unbroken])
        | some block =>
            obtain ⟨full, rfl⟩ := allocation_some hdata
            exact .goesOn ⟨hreceiver, Or.inr ⟨b, full, rfl⟩⟩ rfl (by simp) (by simp)
              (by simp [Unbroken])
      · -- the response packet buffer: with both of them the file is acknowledged
        obtain ⟨block, response, rfl, hresponse, rfl⟩ := fill_allocatingResponse hpoint hs
        cases block with
        | none =>
            obtain rfl := Option.some.inj hresponse
            exact .left (leaving_afterFill_fail hreceiver _) (by simp) (by simp)
              (by simp [Unbroken])
        | some block =>
            obtain ⟨full, rfl⟩ := allocation_some hresponse
            have hready : afterFill (s.onAllocated host b (some data) (some full)) =
                .acknowledging b s.op (FillState.cleared data full) := by
              simp [afterFill, FillState.onAllocated, hreceiver]
            refine .goesOn ?_ ?_ (by simp) (by simp) (by simp [Unbroken])
            · rw [hready]
              trivial
            · rw [hready]
              rfl
  | acknowledging b op tx ok =>
      cases ok with
      | true => exact .goesOn trivial rfl (by simp) (by simp) rfl
      | false =>
          refine .left ?_ (by simp) (by simp) (by simp [Unbroken])
          simp [onAcknowledged, Leaving]
  | receiving b s s' hs =>
      have hpath := ReceiveState.step_path host hs
      have hopens : ∀ path mode error, e ≠ .fopen path mode error := by
        rintro path mode error rfl
        rw [receive_fopen] at hs
        cases hs
      have hremoves : ∀ path, e ≠ .remove path none := by
        rintro path rfl
        rw [receive_remove] at hs
        cases hs
      have hfault := ReceiveState.step_fault_iff hs
      -- the receive's only fault is the datagram that completes the buffer
      by_cases hbroken : s'.point = .fault
      · obtain ⟨size, source, bytes, rfl, hcompletes⟩ := hfault.mp hbroken
        refine .left ?_ hopens hremoves (fun hunbroken => hunbroken hcompletes)
        simp [afterReceive, hbroken, Leaving]
      · have hunbroken := unbroken_receiving fun size source bytes he hcompletes =>
          hbroken (hfault.mpr ⟨size, source, bytes, he, hcompletes⟩)
        rcases afterReceive_cases hbroken with hafter | hafter
        · exact .whole hafter hunbroken
        · refine .goesOn hafter.1 ?_ hopens hremoves hunbroken
          rw [hafter.2, hpath]
          rfl
  | closingPartial op => exact .goesOn trivial rfl (by simp) (by simp) trivial
  | removingPartial op error =>
      cases error with
      | none => exact .removed op.path rfl rfl undone_freeOperationData rfl
      | some errno =>
          exact .left (leaving_freeOperationData (by simp)) (by simp) (by simp)
            (by simp [Unbroken])
  | _  => exact h.elim

end Steps

end TaskState

/-! ## The upload and the storage -/

/-- How far an upload has come. -/
inductive UploadPhase
  /-- No file has been created. -/
  | before
  /-- The file has been created and is the upload's. -/
  | uploading
  /-- The file has been removed. -/
  | undone
  /-- The file has been received whole. -/
  | whole
  /-- The file stays although it was not received. -/
  | left
  deriving DecidableEq, Repr

section Atomicity

variable {ν : Type} [DecidableEq ν] {host : Host} {resolve : List UInt8 → ν}
  {start : Storage ν} {w w' : Alone TaskState ν} {e : Event} {phase : UploadPhase}
  {tr : List Event}

/-- What a phase says of the task and of the storage. -/
def UploadAt (resolve : List UInt8 → ν) (start : Storage ν) (w : Alone TaskState ν) :
    UploadPhase → Prop
  | .before => w.state.NotCreated ∧ w.Reads ∧ w.storage = start
  | .uploading =>
      w.state.Unfinished ∧ ∃ path, w.state.path = some path ∧ Added start (resolve path) w
  | .undone => w.state.Undone ∧ start.SameFiles w.storage
  | .whole => w.state.result = some true
  | .left => w.state.Leaving ∧ ∃ name, Added start name w

/-- A step leads to the next phase; it leads to `left` exactly when it breaks the upload. -/
theorem phase_step (h : UploadAt resolve start w phase) (hnew : CreatesNew resolve w e)
    (hstep : alone (serverTaskStart host) resolve w e = some w') :
    ∃ phase', UploadAt resolve start w' phase' ∧
      (phase' = .left ↔ phase = .left ∨ ¬ w.state.Unbroken e) := by
  obtain ⟨hstate, -⟩ := alone_eq hstep
  cases phase with
  | before =>
      -- nothing of the storage has changed yet; the creation adds the name
      obtain ⟨hbefore, hreads, rfl⟩ := h
      have hunbroken : w.state.Unbroken e := TaskState.unbroken_of_notCreated hbefore hstate
      rcases TaskState.notCreated_step hbefore hstate with
        ⟨hnames, hbefore'⟩ | ⟨path, rfl, hunfinished, hpath⟩
      · obtain ⟨hsame, hreads'⟩ := alone_reading hstep hreads hnames
        exact ⟨.before, ⟨hbefore', hreads', hsame⟩, by simp [hunbroken]⟩
      · exact ⟨.uploading, ⟨hunfinished, path, hpath, added_create hstep hnew⟩,
          by simp [hunbroken]⟩
  | uploading =>
      obtain ⟨hunfinished, path, hpath, hadded⟩ := h
      cases TaskState.unfinished_step hunfinished hstate with
      | goesOn hunfinished' hpath' hopens hremoves hunbroken =>
          exact ⟨.uploading, ⟨hunfinished', path, hpath'.trans hpath,
            hadded.keep hstep hopens hremoves⟩, by simp [hunbroken]⟩
      | whole hresult hunbroken => exact ⟨.whole, hresult, by simp [hunbroken]⟩
      | removed path' hnamed he hundone hunbroken =>
          obtain rfl : path = path' := Option.some.inj (hpath.symm.trans hnamed)
          subst he
          exact ⟨.undone, ⟨hundone, hadded.removed hstep⟩, by simp [hunbroken]⟩
      | left hleaving hopens hremoves hbroken =>
          exact ⟨.left, ⟨hleaving, resolve path, hadded.keep hstep hopens hremoves⟩,
            by simp [hbroken]⟩
  | undone =>
      -- the file is gone again, and the way out touches no other
      obtain ⟨hundone, hsame⟩ := h
      obtain ⟨hundone', hquiet⟩ := TaskState.undone_step hundone hstate
      have hunbroken := TaskState.unbroken_of_undone hundone e
      refine ⟨.undone, ⟨hundone', ?_⟩, by simp [hunbroken]⟩
      rw [alone_quiet hstep hquiet]
      exact hsame
  | whole =>
      obtain ⟨hresult', -⟩ := TaskState.result_step h hstate
      have hunbroken := TaskState.unbroken_of_result h e
      exact ⟨.whole, hresult', by simp [hunbroken]⟩
  | left =>
      obtain ⟨hleaving, name, hadded⟩ := h
      obtain ⟨hleaving', hnames, hopens⟩ := TaskState.leaving_step hleaving hstate
      refine ⟨.left, ⟨hleaving', name, hadded.keep hstep hopens ?_⟩, by simp⟩
      rintro path rfl
      cases hnames

/-- The condition on a step of the task. -/
def UnbrokenStep (w : Alone TaskState ν) (e : Event) : Prop :=
  w.state.Unbroken e

theorem phase_run {op : OperationData} (hop : op.operationId = .receive)
    (hsize : ValidBlockSize op)
    (h : Run (alone (serverTaskStart host) resolve) (Alone.start (.starting op) start) tr w)
    (hnew : EveryStep (alone (serverTaskStart host) resolve) (CreatesNew resolve)
      (Alone.start (.starting op) start) tr) :
    ∃ phase, UploadAt resolve start w phase ∧
      (phase = .left ↔ ¬ EveryStep (alone (serverTaskStart host) resolve) UnbrokenStep
        (Alone.start (.starting op) start) tr) := by
  induction h with
  | nil => exact ⟨.before, ⟨⟨hop, hsize⟩, nofun, rfl⟩, by simp [EveryStep]⟩
  | snoc hrun hs ih =>
      obtain ⟨phase, hphase, hleft⟩ := ih hnew.of_snoc
      obtain ⟨phase', hphase', hleft'⟩ := phase_step hphase (hnew.last hrun) hs
      refine ⟨phase', hphase', ?_⟩
      rw [hleft', hleft, everyStep_snoc_iff hrun, not_and_or]
      rfl

/-- A task alone with the storage handles a write request and ends without having received
the file whole.  Where it creates a file only under a free name, the storage is then as it
was exactly when both buffers were allocated, ACK 0 was sent, no datagram made `fwrite`
leave the buffer, and the removal succeeded. -/
theorem upload_atomic_iff (host : Host) (resolve : List UInt8 → ν) (start : Storage ν)
    {socket : DataSocket} {args : InitArguments} {op : OperationData}
    (hop : tftpInitOperationData socket args = some (.created op))
    (hreceive : args.operation = .receive)
    (h : Run (alone (serverTaskStart host) resolve) (Alone.start (.starting op) start) tr w)
    (hover : w.state.Over) (hresult : w.state.result ≠ some true)
    (hnew : EveryStep (alone (serverTaskStart host) resolve) (CreatesNew resolve)
      (Alone.start (.starting op) start) tr) :
    start.SameFiles w.storage ↔
      EveryStep (alone (serverTaskStart host) resolve) UnbrokenStep
        (Alone.start (.starting op) start) tr := by
  obtain ⟨hoperation, hrange⟩ := created_operation hop
  obtain ⟨phase, hphase, hleft⟩ := phase_run (hoperation.trans hreceive)
    (hrange (by rw [hreceive]; rfl)) h hnew
  cases phase with
  | before =>
      obtain ⟨-, -, rfl⟩ := hphase
      have hall := not_not.mp fun hnot => absurd (hleft.mpr hnot) (by decide)
      exact ⟨fun _ => hall, fun _ => FileStore.SameFiles.refl _⟩
  | uploading =>
      -- the task would still have to receive or to remove the file
      obtain ⟨hunfinished, -⟩ := hphase
      cases hstate : w.state <;> simp [hstate, TaskState.Over, TaskState.Unfinished] at *
  | undone =>
      obtain ⟨-, hsame⟩ := hphase
      have hall := not_not.mp fun hnot => absurd (hleft.mpr hnot) (by decide)
      exact ⟨fun _ => hall, fun _ => hsame⟩
  | whole => exact absurd hphase hresult
  | left =>
      obtain ⟨-, name, hadded⟩ := hphase
      exact ⟨fun hsame => absurd hsame hadded.not_sameFiles,
        fun hall => absurd hall (hleft.mp rfl)⟩

end Atomicity

section FixedRuns

/-- A request to write `storage/a` in blocks of eight bytes. -/
def writeArguments : InitArguments :=
  { operation := .receive
    peer := localhost 50001
    filename := ascii "storage/a" ++ [0]
    mode := none
    blocksize := some (ascii "8" ++ [0]) }

def writeOperation : OperationData :=
  { uploadOperation 4 50001 with localAddress := { address := 0, port := 40001 } }

/-- The task creates the file and allocates its buffers. -/
def createdUpload : List Event :=
  [.poll false, .malloc sizeofTransferData (some []),
    .fopen (ascii "storage/a") .read (some (.other 2)), .fopen (ascii "storage/a") .write none,
    .malloc 12 (some (List.replicate 12 0)), .malloc 36 (some (List.replicate 36 0))]

/-- The server is asked to terminate before the first block is received. -/
def terminatedUpload : List Event :=
  createdUpload ++ [.sendto (localhost 50001) (ackPacket 0) true, .poll true,
    .sendto (localhost 50001) (errorPacket (terminationReply littleHost)) true, .fclose 0,
    .remove (ascii "storage/a") none, .close 4, .release]

/-- ACK 0 cannot be sent. -/
def unansweredUpload : List Event :=
  createdUpload ++ [.sendto (localhost 50001) (ackPacket 0) false, .fclose 0, .close 4, .release]

instance (t : TaskState) (e : Event) : Decidable (t.Unbroken e) := by
  cases t with
  | filling s =>
      cases e with
      | malloc size block => exact inferInstanceAs (Decidable (block.isSome = true))
      | _ => exact isTrue trivial
  | acknowledging b op tx =>
      cases e with
      | sendto peer packet ok => exact inferInstanceAs (Decidable (ok = true))
      | _ => exact isTrue trivial
  | receiving b s =>
      cases e with
      | recvfrom size result =>
          cases result with
          | datagram source bytes => exact inferInstanceAs (Decidable (¬ s.Completes bytes))
          | failed errno => exact isTrue trivial
      | _ => exact isTrue trivial
  | removingPartial op =>
      cases e with
      | remove path error => exact inferInstanceAs (Decidable (error = none))
      | _ => exact isTrue trivial
  | _ => exact isTrue trivial

instance {ν : Type} (w : Alone TaskState ν) (e : Event) : Decidable (UnbrokenStep w e) :=
  inferInstanceAs (Decidable (w.state.Unbroken e))

set_option maxRecDepth 4000 in
/-- The file of an upload cut short is removed again. -/
theorem upload_atomic_terminated :
    ∃ w, Run (alone (serverTaskStart littleHost) id)
        (Alone.start (.starting writeOperation) emptyStorage) terminatedUpload w ∧
      emptyStorage.SameFiles w.storage := by
  have hrun : ∃ w, Run (alone (serverTaskStart littleHost) id)
      (Alone.start (.starting writeOperation) emptyStorage) terminatedUpload w ∧
      w.state = .ended (some false) := exists_run_of_exec (by decide)
  obtain ⟨w, hw, hstate⟩ := hrun
  refine ⟨w, hw, ?_⟩
  have hop : tftpInitOperationData (.bound 4 40001) writeArguments =
      some (.created writeOperation) := rfl
  exact (upload_atomic_iff littleHost id emptyStorage hop rfl hw (by rw [hstate]; trivial)
    (by rw [hstate]; decide) (by decide)).mpr (by decide)

set_option maxRecDepth 4000 in
/-- Without an answer to the request, an empty file stays behind. -/
theorem upload_left_behind :
    tftpInitOperationData (.bound 4 40001) writeArguments = some (.created writeOperation) ∧
    ∃ w, Run (alone (serverTaskStart littleHost) id)
        (Alone.start (.starting writeOperation) emptyStorage) unansweredUpload w ∧
      w.state = .ended none ∧ w.storage.lookup (ascii "storage/a") = some [] ∧
      ¬ emptyStorage.SameFiles w.storage := by
  have hrun : ∃ w, Run (alone (serverTaskStart littleHost) id)
      (Alone.start (.starting writeOperation) emptyStorage) unansweredUpload w ∧
      w.state = .ended none ∧ w.storage.lookup (ascii "storage/a") = some [] :=
    exists_run_of_exec (by decide)
  obtain ⟨w, hw, hstate, hfound⟩ := hrun
  refine ⟨rfl, w, hw, hstate, hfound, ?_⟩
  intro hsame
  have hname := hsame (ascii "storage/a")
  rw [hfound] at hname
  cases hname

end FixedRuns

end Stftpu
