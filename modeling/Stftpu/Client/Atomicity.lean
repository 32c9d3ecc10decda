import Stftpu.Client.Operation
import Stftpu.Files

/-!
# Downloads that fail

A client that reads a file creates it before the first packet of the answer has arrived, and
removes it on no path.  So what a failed download leaves of the local files hangs on whether
it came to the creation.

* `ClientState.notCreated_step`, `ClientState.created_step` — a step before the creation and
  behind it.
* `download_atomic_iff` — the failed downloads after which the files are as they were.
-/

namespace Stftpu

open Library

namespace ClientState

/-- A read request whose file has not been created, nor will be once it has failed. -/
def NotCreated : ClientState → Prop
  | .requesting op _ => op.operationId = .receive
  | .allocating op => op.operationId = .receive
  | .filling s => s.receiver = true ∧ ¬ s.Created ∨ ∃ reply, s.point = .failing reply
  | .closing _ _ => True
  | .returned _ _ => True
  | .exited => True
  | .fault => True
  | _ => False

/-- A read request behind the creation of its file. -/
def HasCreated : ClientState → Prop
  | .filling s => s.receiver = true ∧ s.Created
  | .receiving _ _ => True
  | .closing _ _ => True
  | .returned _ _ => True
  | .fault => True
  | _ => False

section Points

variable {op : OperationData} {fileOpen outcome : Bool} {s : FillState}

theorem notCreated_freeTransferData : (freeTransferData op fileOpen outcome).NotCreated := by
  unfold freeTransferData
  split <;> trivial

theorem hasCreated_freeTransferData : (freeTransferData op fileOpen outcome).HasCreated := by
  unfold freeTransferData
  split <;> trivial

/-- `tftp_fill_transfer_data` sends its ERROR packet, or has returned `false`. -/
theorem notCreated_afterFill_fail (reply : ErrorReply) :
    (afterFill (s.fail reply)).NotCreated := by
  unfold afterFill
  rcases s.fail_point reply with hp | hp
  · rw [hp]
    exact Or.inr ⟨reply, hp⟩
  · rw [hp]
    simp only []
    split
    · exact notCreated_freeTransferData
    · trivial

theorem hasCreated_afterFill (hreceiver : s.receiver = true) (hcreated : s.Created) :
    (afterFill s).HasCreated := by
  unfold afterFill
  split
  · rw [if_pos hreceiver]
    trivial
  · split
    · exact hasCreated_freeTransferData
    · trivial
  · exact ⟨hreceiver, hcreated⟩

end Points

section Steps

variable {host : Host} {t t' : ClientState} {e : Event}

/-- Before the creation of its file, a download touches none. -/
theorem notCreated_step (h : t.NotCreated) (hstep : clientStartOperation host t e = some t') :
    (e.changesNames = false ∧ t'.NotCreated) ∨
      ∃ path, e = .fopen path .write none ∧ t'.HasCreated := by
  cases client_called hstep with
  | requesting op packet ok =>
      -- a download does not wait for an ACK of its request
      have hreceive : op.operationId = .receive := h
      refine Or.inl ⟨rfl, ?_⟩
      cases ok with
      | true => simp [onRequested, acknowledged, hreceive, NotCreated]
      | false => trivial
  | allocating op block =>
      have hreceive : op.operationId = .receive := h
      refine Or.inl ⟨rfl, ?_⟩
      simp only [onAllocated, hreceive]
      cases block with
      | none => exact notCreated_afterFill_fail _
      | some block => exact Or.inl ⟨rfl, id⟩
  | filling s s' hs =>
      rcases h with ⟨hreceiver, hcreated⟩ | ⟨reply, hpoint⟩
      · cases hpoint : s.point with
        | probing =>
            obtain ⟨error, rfl, ⟨-, rfl⟩ | ⟨-, rfl⟩⟩ := fill_probing hpoint hs
            · exact Or.inl ⟨by cases error <;> rfl, Or.inl ⟨hreceiver, id⟩⟩
            · exact Or.inl ⟨by cases error <;> rfl, Or.inl ⟨hreceiver, id⟩⟩
        | describing =>
            obtain ⟨timestamp, rfl, rfl⟩ := fill_describing hpoint hs
            exact Or.inl ⟨rfl, notCreated_afterFill_fail _⟩
        | opening =>
            obtain ⟨error, rfl, ⟨rfl, rfl⟩ | ⟨errno, rfl, rfl⟩⟩ := fill_opening hpoint hs
            · -- the creation
              rw [if_pos hreceiver]
              exact Or.inr ⟨s.op.path, rfl, hasCreated_afterFill
                (FillState.checkBlockSize_keeps.2.trans hreceiver)
                FillState.created_checkBlockSize⟩
            · refine Or.inl ⟨?_, notCreated_afterFill_fail _⟩
              split <;> rfl
        | _ => exact absurd (by simp [FillState.Created, hpoint]) hcreated
      · -- the reply of a failed fill is sent, and the client leaves
        obtain ⟨ok, rfl, rfl⟩ := fill_failing hpoint hs
        refine Or.inl ⟨rfl, ?_⟩
        unfold afterFill
        simp only []
        split
        · exact notCreated_freeTransferData
        · trivial
  | closing op outcome => exact Or.inl ⟨rfl, trivial⟩
  | _ => exact h.elim

/-- Behind it, a download opens no other file and removes none. -/
theorem created_step (h : t.HasCreated) (hstep : clientStartOperation host t e = some t') :
    t'.HasCreated ∧ (∀ path mode error, e ≠ .fopen path mode error) ∧
      ∀ path error, e ≠ .remove path error := by
  cases client_called hstep with
  | filling s s' hs =>
      obtain ⟨hreceiver, hcreated⟩ := h
      obtain ⟨hcreated', he⟩ := FillState.created_step hcreated hs
      refine ⟨hasCreated_afterFill ((FillState.step_keeps hs).2.trans hreceiver) hcreated', ?_, ?_⟩
      · rintro path mode error rfl
        simp at he
      · rintro path error rfl
        simp at he
  | receiving b s s' hs =>
      refine ⟨?_, ?_, ?_⟩
      · unfold afterReceive
        split
        · exact hasCreated_freeTransferData
        · trivial
        · trivial
      · rintro path mode error rfl
        rw [receive_fopen] at hs
        cases hs
      · rintro path error rfl
        rw [receive_remove] at hs
        cases hs
  | closing op outcome => exact ⟨trivial, by simp, by simp⟩
  | _ => exact h.elim

/-- The call itself touches nothing. -/
theorem notCreated_start {op : OperationData} (h : op.operationId = .receive) :
    (start op).NotCreated := by
  unfold start
  split
  · trivial
  · trivial
  · exact h

end Steps

end ClientState

section Atomicity

variable {ν : Type} [DecidableEq ν] {host : Host} {resolve : List UInt8 → ν}
  {start : Storage ν} {w w' : Alone ClientState ν} {op : OperationData} {tr : List Event}

/-- Before the creation the files are as they were, and behind the creation under a free
name there is one more. -/
theorem download_run (hop : op.operationId = .receive)
    (h : Run (alone (clientStartOperation host) resolve) (Alone.start (.start op) start) tr w) :
    ((∀ path, .fopen path .write none ∉ tr) ∧ w.state.NotCreated ∧ w.Reads ∧
        w.storage = start) ∨
      ((∃ path, .fopen path .write none ∈ tr) ∧ w.state.HasCreated ∧
        (EveryStep (alone (clientStartOperation host) resolve) (CreatesNew resolve)
          (Alone.start (.start op) start) tr → ∃ name, Added start name w)) := by
  induction h with
  | nil => exact Or.inl ⟨by simp, ClientState.notCreated_start hop, nofun, rfl⟩
  | @snoc tr t u e hrun hs ih =>
      obtain ⟨hstate, -⟩ := alone_eq hs
      rcases ih with ⟨hnone, hbefore, hreads, hstorage⟩ | ⟨⟨path, hcreated⟩, hbehind, hadded⟩
      · rcases ClientState.notCreated_step hbefore hstate with
          ⟨hquiet, hbefore'⟩ | ⟨path, rfl, hbehind⟩
        · obtain ⟨hsame, hreads'⟩ := alone_reading hs hreads hquiet
          refine Or.inl ⟨?_, hbefore', hreads', hsame.trans hstorage⟩
          intro path hmem
          rcases List.mem_append.mp hmem with hold | hlast
          · exact hnone path hold
          · obtain rfl := List.mem_singleton.mp hlast
            cases hquiet
        · refine Or.inr ⟨⟨path, by simp⟩, hbehind, ?_⟩
          intro hnew
          have hfree := hnew.last hrun
          rw [← hstorage]
          exact ⟨_, added_create hs hfree⟩
      · obtain ⟨hbehind', hopens, hremoves⟩ := ClientState.created_step hbehind hstate
        refine Or.inr ⟨⟨path, by simp [hcreated]⟩, hbehind', ?_⟩
        intro hnew
        obtain ⟨name, hname⟩ := hadded hnew.of_snoc
        exact ⟨name, hname.keep hs hopens fun path => hremoves path none⟩

/-- A client that reads a file returns `false`.  Where `fopen` for writing creates files only
under free names, the local files are then as they were exactly when the run has come to no
such creation; and whatever the names, they are as they were when it has not. -/
theorem download_atomic_iff (host : Host) (resolve : List UInt8 → ν) (start : Storage ν)
    {op op' : OperationData} (hop : op.operationId = .receive)
    (h : Run (alone (clientStartOperation host) resolve) (Alone.start (.start op) start) tr w)
    (_ : w.state = .returned op' false) :
    ((∀ path, .fopen path .write none ∉ tr) → start.SameFiles w.storage) ∧
      (EveryStep (alone (clientStartOperation host) resolve) (CreatesNew resolve)
          (Alone.start (.start op) start) tr →
        (start.SameFiles w.storage ↔ ∀ path, .fopen path .write none ∉ tr)) := by
  rcases download_run hop h with ⟨hnone, -, -, rfl⟩ | ⟨⟨path, hcreated⟩, -, hadded⟩
  · have hsame : w.storage.SameFiles w.storage := FileStore.SameFiles.refl _
    exact ⟨fun _ => hsame, fun _ => ⟨fun _ => hnone, fun _ => hsame⟩⟩
  · refine ⟨fun hnone => absurd hcreated (hnone path), ?_⟩
    intro hnew
    obtain ⟨name, hname⟩ := hadded hnew
    exact ⟨fun hsame => absurd hsame hname.not_sameFiles,
      fun hnone => absurd hcreated (hnone path)⟩

end Atomicity

section FixedRuns

/-- A client that reads `storage/a` into a file of that name. -/
def readOperation : OperationData :=
  { sampleOperation with operationId := .receive }

/-- The request of that client. -/
def readRequest : List Event :=
  [.sendto (localhost 50001) [0, 1, 97, 0, 111, 99, 116, 101, 116, 0, 98, 108, 107, 115, 105,
      122, 101, 0, 48, 48, 48, 48, 56, 0, 0] true,
    .malloc sizeofTransferData (some [])]

/-- There is such a file already, and the client leaves it alone. -/
def refusedDownload : List Event :=
  readRequest ++ [.fopen (ascii "storage/a") .read none, .stat (ascii "storage/a") [],
    .sendto (localhost 50001)
      (errorPacket { code := 4, message := fileExistsMessage, item := some [] }) true, .fclose 0]

/-- There is none, and the server answers that it has none either. -/
def unansweredDownload : List Event :=
  readRequest ++ [.fopen (ascii "storage/a") .read (some (.other 2)),
    .fopen (ascii "storage/a") .write none, .malloc 12 (some (List.replicate 12 0)),
    .malloc 36 (some (List.replicate 36 0)), .poll false, .poll false,
    .recvfrom 12 (.datagram (localhost 50001)
      (errorPacket { code := 0, message := ascii "no such file", item := none })), .fclose 0]

set_option maxRecDepth 4000 in
theorem download_atomic_refused :
    ∃ w, Run (alone (clientStartOperation littleHost) id)
        (Alone.start (.start readOperation) oneFileThere) refusedDownload w ∧
      oneFileThere.SameFiles w.storage := by
  have hrun : ∃ w, Run (alone (clientStartOperation littleHost) id)
      (Alone.start (.start readOperation) oneFileThere) refusedDownload w ∧
      w.state = .returned readOperation false := exists_run_of_exec (by decide)
  obtain ⟨w, hw, hstate⟩ := hrun
  refine ⟨w, hw, ?_⟩
  refine (download_atomic_iff littleHost id oneFileThere rfl hw hstate).1 ?_
  simp [refusedDownload, readRequest]

set_option maxRecDepth 4000 in
/-- An empty file stays behind, and keeps the next attempt from being made. -/
theorem download_left_behind :
    ∃ w, Run (alone (clientStartOperation littleHost) id)
        (Alone.start (.start readOperation) emptyStorage) unansweredDownload w ∧
      w.state = .returned readOperation false ∧ w.storage.lookup (ascii "storage/a") = some [] ∧
      ¬ emptyStorage.SameFiles w.storage := by
  have hrun : ∃ w, Run (alone (clientStartOperation littleHost) id)
      (Alone.start (.start readOperation) emptyStorage) unansweredDownload w ∧
      w.state = .returned readOperation false ∧
      w.storage.lookup (ascii "storage/a") = some [] := exists_run_of_exec (by decide)
  obtain ⟨w, hw, hstate, hfound⟩ := hrun
  refine ⟨w, hw, hstate, hfound, ?_⟩
  intro hsame
  have hname := hsame (ascii "storage/a")
  rw [hfound] at hname
  cases hname

end FixedRuns

end Stftpu
