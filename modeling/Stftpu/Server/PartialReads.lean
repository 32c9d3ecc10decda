import Stftpu.Server.StoreIntegrity
import Stftpu.Transfer.BlocksSent

/-!
# Downloads beside uploads

A read request opens whatever is found under its name, a file still being received
included.  Once the file is whole and the stream it came through holds nothing back, nothing
but a creation over it changes it, and then what `tftp_transmit_file` reads and sends is the
file, unless a read stops inside a block.

* `Whole` — nobody is still writing the file.
* `SparesFile` — a step that creates nothing over it.
* `ServerMove.ReadsWhole` — a step at which a task reads a block or none.
* `Serving` — a download of such a file, and how far it has come.
* `download_complete` — what a download that returned `true` has sent.
-/

namespace Stftpu

open Library

namespace TaskState

/-- Before the first packet of a transfer. -/
def Early : TaskState → Prop
  | .starting _ => True
  | .allocating _ => True
  | .filling _ => True
  | _ => False

variable {host : Host} {t t' : TaskState} {e : Event}

theorem not_early_freeOperationData {op : OperationData} {result : Option Bool} :
    ¬ (freeOperationData op result).Early := by
  unfold freeOperationData
  split <;> exact id

/-- A task that has sent no block of a file has sent no DATA packet. -/
theorem early_step (hstep : serverTaskStart host t e = some t') (hearly : t'.Early) :
    t.Early ∧ ∀ packets, noteSent packets e = packets := by
  cases task_called hstep with
  | starting op set => exact ⟨trivial, fun _ => rfl⟩
  | allocating op block => exact ⟨trivial, fun _ => rfl⟩
  | filling s s' hs =>
      refine ⟨trivial, fun packets => noteSent_of_not_data ?_⟩
      rintro peer packet ok rfl
      rw [fill_sent hs]
      decide
  | acknowledging b op tx ok =>
      cases ok <;> exact hearly.elim
  | receiving b s s' hs =>
      unfold afterReceive at hearly
      split at hearly
      · split at hearly <;> exact hearly.elim
      · exact hearly.elim
      · exact hearly.elim
  | closingPartial op => exact hearly.elim
  | removingPartial op error => exact absurd hearly not_early_freeOperationData
  | transmitting b s s' hs =>
      unfold afterTransmit at hearly
      split at hearly <;> exact hearly.elim
  | deleting point op hdelete =>
      rcases deleting_step hdelete with ⟨point', rfl⟩ | ⟨result, rfl⟩
      · exact hearly.elim
      · exact absurd hearly not_early_freeOperationData
  | closingFile op result => exact absurd hearly not_early_freeOperationData
  | closingSocket op result => exact hearly.elim
  | releasing result => exact hearly.elim

end TaskState

section Downloads

variable {ν : Type}

/-- Every upload of the file has ended with `tftp_receive_file` returning `true`, and its stream
holds nothing back; a file there when the server started had none. -/
def Whole (w : ServerState ν) (n : Nat) : Prop :=
  ∀ j task f, HasUpload w j task f → f.number = n →
    task.state.result = some true ∧ f.buffer = []

/-- No file is created over the one with this number. -/
def SparesFile (resolve : List UInt8 → ν) (n : Nat) (w : ServerState ν) : ServerMove → Prop
  | .call _ (.fopen path .write none) => w.storage.entry (resolve path) ≠ some n
  | _ => True

/-- The task's `fread` does not stop inside a block. -/
def ServerMove.ReadsWhole (i : Nat) : ServerMove → Prop
  | .call j e => j = i → e.ReadsWhole
  | _ => True

/-- How far a task has come with the file it opened for reading. -/
def Served (file : List UInt8) (position : Nat) (log : List Event) : TaskState → Prop
  | .filling s => s.receiver = false ∧ s.Created ∧ position = 0 ∧ blocksSent log = []
  | .transmitting _ s =>
      s.Framed ∧ Sender.Sends file { state := s, pos := position } (blocksSent log)
  | .closingFile _ result => result = some true → contentsSent log = file
  | .closingSocket _ result => result = some true → contentsSent log = file
  | .releasing result => result = some true → contentsSent log = file
  | .ended result => result = some true → contentsSent log = file
  | .fault => True
  | _ => False

/-- Task `i` serves the whole file `n`, which holds `file`. -/
structure Serving (file : List UInt8) (n i : Nat) (w : ServerState ν) : Prop where
  number_lt : n < w.storage.fresh
  contents : w.storage.contents n = file
  whole : Whole w n
  served : ∃ task f, w.tasks[i]? = some task ∧ task.file = some f ∧ f.number = n ∧
    f.mode = .read ∧ Served file f.position task.log task.state

theorem served_freeOperationData {file : List UInt8} {position : Nat} {log : List Event}
    {op : OperationData} {result : Option Bool}
    (h : result = some true → contentsSent log = file) :
    Served file position log (TaskState.freeOperationData op result) := by
  unfold TaskState.freeOperationData
  split <;> exact h

/-- What follows a step of `tftp_fill_transfer_data` behind the opening of the file. -/
theorem served_afterFill {file : List UInt8} {log : List Event} {s : FillState}
    (hreceiver : s.receiver = false) (hcreated : s.Created) (hlog : blocksSent log = [])
    (hready : ∀ b tx, s.point = .ready b tx →
      ∃ data response, tx = FillState.cleared data response) :
    Served file 0 log (TaskState.afterFill s) := by
  unfold TaskState.afterFill
  split
  · rename_i b tx hpoint
    obtain ⟨data, response, rfl⟩ := hready b tx hpoint
    rw [if_neg (by simp [hreceiver])]
    refine ⟨trivial, 0, Sender.at_start file s.op data response, ?_⟩
    rw [hlog]
    rfl
  · split
    · unfold TaskState.freeTransferData
      split
      · exact nofun
      · exact served_freeOperationData nofun
    · trivial
  · exact ⟨hreceiver, hcreated, rfl, hlog⟩

/-- What follows a step of `tftp_transmit_file`. -/
theorem served_afterTransmit {file : List UInt8} {position : Nat} {log : List Event}
    {b : BlockSize} {s : TransmitState b} (hframed : s.Framed)
    (hsends : Sender.Sends file { state := s, pos := position } (blocksSent log)) :
    Served file position log (TaskState.afterTransmit s) := by
  unfold TaskState.afterTransmit
  split
  · rename_i exit hpoint
    intro htrue
    have hsuccess : exit = .success := by
      cases exit with
      | success => rfl
      | failure => cases htrue
      | peerError => cases htrue
    rw [hsuccess] at hpoint
    exact Sender.contents_of_success hsends hpoint
  · exact ⟨hframed, hsends⟩

/-- What a task has sent when `tftp_transmit_file` has returned `true`. -/
theorem Serving.contents_sent {file : List UInt8} {n i : Nat} {w : ServerState ν}
    {task : Task ν} (h : Serving file n i w)
    (htask : w.tasks[i]? = some task) (hreturned : task.state.result = some true) :
    contentsSent task.log = file := by
  obtain ⟨task', f, htask', -, -, -, hserved⟩ := h.served
  obtain rfl := Option.some.inj (htask.symm.trans htask')
  cases ht : task.state with
  | closingFile op result =>
      rw [ht] at hserved hreturned
      exact hserved hreturned
  | closingSocket op result =>
      rw [ht] at hserved hreturned
      exact hserved hreturned
  | releasing result =>
      rw [ht] at hserved hreturned
      exact hserved hreturned
  | ended result =>
      rw [ht] at hserved hreturned
      exact hserved hreturned
  | _ =>
      rw [ht] at hreturned
      cases hreturned

/-- A task about to open the file it is to send. -/
def TaskState.OpensToSend : TaskState → Prop
  | .filling s => s.point = .opening ∧ s.receiver = false
  | _ => False

/-- A file that was there when the server started, or that an upload received whole. -/
def FullyStored (start : Storage ν) (w : ServerState ν) (n : Nat) (file : List UInt8) : Prop :=
  (n < start.fresh ∧ start.contents n = file) ∨
    ∃ j task f, HasUpload w j task f ∧ f.number = n ∧ task.state.result = some true ∧
      payloadsWritten task.log = file

/-- Files from before the start are as they were, and every other file is some task's
upload. -/
structure Accounted (start : Storage ν) (w : ServerState ν) : Prop where
  untouched : ∀ n < start.fresh, w.storage.contents n = start.contents n
  uploaded : ∀ n, start.fresh ≤ n → n < w.storage.fresh →
    ∃ j task f, HasUpload w j task f ∧ f.number = n

theorem accounted_start (start : Storage ν) : Accounted start (ServerState.start start) where
  untouched := fun _ _ => rfl
  uploaded := fun _ hge hlt => absurd hlt (Nat.not_lt.mpr hge)

/-- A file that nobody is writing is fully stored. -/
theorem Accounted.fullyStored {start : Storage ν} {resolve : List UInt8 → ν}
    {w : ServerState ν} {n : Nat} (hsound : Sound start.fresh resolve w)
    (h : Accounted start w) (hwhole : Whole w n) (hlt : n < w.storage.fresh) :
    FullyStored start w n (w.storage.contents n) := by
  rcases Nat.lt_or_ge n start.fresh with hold | hge
  · exact Or.inl ⟨hold, (h.untouched n hold).symm⟩
  · obtain ⟨j, task, f, hupload, rfl⟩ := h.uploaded n hge hlt
    have hok := hsound.upload j task f hupload.1 hupload.2.1 hupload.2.2
    obtain ⟨hresult, hbuffer⟩ := hwhole j task f hupload rfl
    have hcontents := hok.contents
    rw [hbuffer, List.append_nil] at hcontents
    exact Or.inr ⟨j, task, f, hupload, rfl, hresult, hcontents.symm⟩

variable {host : Host} {resolve : List UInt8 → ν} {w w' : ServerState ν}
  {i j n : Nat} {e : Event} {task : Task ν} {f : OpenFile ν} {file : List UInt8}

/-- The stream of an upload received whole has nothing left to hand over when it is closed, and
its task writes nothing more. -/
theorem Serving.handed {state : TaskState} {bytes : List UInt8} {storage : Storage ν}
    {g g' : OpenFile ν} (h : Serving file n i w)
    (hstate : serverTaskStart host task.state e = some state) (hupload : HasUpload w j task g)
    (hnumber : g.number = n) (hhands : e.Hands bytes)
    (hhanded : g.HandsOver w.storage bytes storage g') :
    storage = w.storage ∧ g'.buffer = [] := by
  obtain ⟨hresult, hbuffer⟩ := h.whole j task g hupload hnumber
  cases hhands with
  | fclose lost => exact hhanded.nothing hbuffer
  | fwrite bytes count kept =>
      rcases (TaskState.result_step hresult hstate).2 with ⟨lost, he⟩ | ⟨fd, he⟩ | he <;> cases he

variable [DecidableEq ν]

/-- The file keeps what it holds. -/
theorem Serving.contents_step (h : Serving file n i w)
    (hspares : SparesFile resolve n w (.call j e))
    (hstep : serverStep host resolve w (.call j e) = some w') :
    w'.storage.contents n = file := by
  obtain ⟨other, state, file', hother, hstate, haccess, -⟩ := call_eq hstep
  rcases changesFiles_cases e with hquiet | ⟨path, rfl⟩ | ⟨bytes, hhands⟩ | ⟨path, rfl⟩
  · rw [(access_quiet hquiet haccess).1]
    exact h.contents
  · rw [(access_created haccess).1,
      w.storage.create_contents_of_ne _ hspares h.number_lt]
    exact h.contents
  · obtain ⟨g, g', hg, -, -, ⟨-, hstorage, -⟩ | ⟨hgmode, hhanded⟩⟩ := access_hands hhands haccess
    · rw [hstorage]
      exact h.contents
    · by_cases heq : n = g.number
      · rw [(h.handed hstate ⟨hother, hg, hgmode⟩ heq.symm hhands hhanded).1]
        exact h.contents
      · rw [hhanded.contents_of_ne heq]
        exact h.contents
  · rw [(access_remove haccess).1, FileStore.remove_contents]
    exact h.contents

/-- Nobody begins to write the file. -/
theorem Serving.whole_step (h : Serving file n i w)
    (hspares : SparesFile resolve n w (.call j e))
    (hstep : serverStep host resolve w (.call j e) = some w') : Whole w' n := by
  rintro k task f ⟨htask, hf, hmode⟩ hnumber
  by_cases hk : k = j
  · subst hk
    obtain ⟨before, hbefore, hstate, haccess, -⟩ := call_self hstep htask
    have hresult : ∀ g, before.file = some g → g.mode = .write → g.number = n →
        task.state.result = some true ∧ g.buffer = [] := by
      intro g hg hgmode hgnumber
      obtain ⟨hreturned, hbuffer⟩ := h.whole k before g ⟨hbefore, hg, hgmode⟩ hgnumber
      exact ⟨(TaskState.result_step hreturned hstate).1, hbuffer⟩
    rcases changesFiles_cases e with hquiet | ⟨path, rfl⟩ | ⟨bytes, hhands⟩ | ⟨path, rfl⟩
    · obtain ⟨-, hcontinues⟩ := access_quiet hquiet haccess
      obtain ⟨g, hg, hgf⟩ := hcontinues f hf hmode
      rw [hgf.buffer]
      exact hresult g hg (hgf.mode.symm.trans hmode) (hgf.number.symm.trans hnumber)
    · obtain ⟨-, hfile⟩ := access_created haccess
      obtain rfl := Option.some.inj (hf.symm.trans hfile)
      exact absurd hnumber (w.storage.create_number_ne _ hspares h.number_lt)
    · obtain ⟨g, g', hg, hfile, -, ⟨hgmode, -, rfl⟩ | ⟨hgmode, hhanded⟩⟩ :=
        access_hands hhands haccess
      · obtain rfl := Option.some.inj (hf.symm.trans hfile)
        rw [hgmode] at hmode
        cases hmode
      · obtain rfl := Option.some.inj (hf.symm.trans hfile)
        have hgnumber := hhanded.number.symm.trans hnumber
        exact ⟨(hresult g hg hgmode hgnumber).1,
          (h.handed hstate ⟨hbefore, hg, hgmode⟩ hgnumber hhands hhanded).2⟩
    · obtain ⟨-, hsame⟩ := access_remove haccess
      exact hresult f (hsame.symm.trans hf) hmode hnumber
  · rw [call_other hstep hk] at htask
    exact h.whole k task f ⟨htask, hf, hmode⟩ hnumber

/-- A call of `tftp_transmit_file` on a file that holds `file` is a step of the sender of
`file`. -/
theorem sender_of_access {b : BlockSize} {s s' : TransmitState b} {storage storage' : Storage ν}
    {file' : Option (OpenFile ν)} (hs : tftpTransmitFile host s e = some s')
    (haccess : accessFiles resolve storage (some f) e = some (storage', file'))
    (hreads : e.ReadsWhole) (hmode : f.mode = .read)
    (hcontents : storage.contents f.number = file) :
    ∃ f', file' = some f' ∧ f'.number = f.number ∧ f'.mode = .read ∧
      Sender.step host file { state := s, pos := f.position } e =
        some { state := s', pos := f'.position } := by
  have hsame : filePosition file f.position e = some f.position →
      Sender.step host file { state := s, pos := f.position } e =
        some { state := s', pos := f.position } :=
    fun hpos => Sender.step_of hs hpos hreads
  cases e with
  | poll set =>
      obtain ⟨-, rfl⟩ := Prod.mk.inj (Option.some.inj haccess)
      exact ⟨f, rfl, rfl, hmode, hsame rfl⟩
  | sendto peer packet ok =>
      obtain ⟨-, rfl⟩ := Prod.mk.inj (Option.some.inj haccess)
      exact ⟨f, rfl, rfl, hmode, hsame rfl⟩
  | recvfrom size result =>
      obtain ⟨-, rfl⟩ := Prod.mk.inj (Option.some.inj haccess)
      exact ⟨f, rfl, rfl, hmode, hsame rfl⟩
  | fread size bytes eof =>
      obtain ⟨g, position, hg, -, -, hposition, -, rfl⟩ := access_read haccess
      obtain rfl := Option.some.inj hg
      rw [hcontents] at hposition
      exact ⟨_, rfl, rfl, hmode, Sender.step_of hs hposition hreads⟩
  | _ => cases hpoint : s.point <;> simp [tftpTransmitFile, hpoint] at hs

/-- What a call of the serving task leads to. -/
theorem served_step {storage storage' : Storage ν} {file' : Option (OpenFile ν)}
    {log : List Event} {t t' : TaskState} (hserved : Served file f.position log t)
    (hreads : e.ReadsWhole) (hmode : f.mode = .read)
    (hcontents : storage.contents f.number = file)
    (hstate : serverTaskStart host t e = some t')
    (haccess : accessFiles resolve storage (some f) e = some (storage', file')) :
    ∃ f', file' = some f' ∧ f'.number = f.number ∧ f'.mode = .read ∧
      Served file f'.position (log ++ [e]) t' := by
  -- behind the transfer, the stream stays and nothing more is sent
  have hbehind : ∀ result, (result = some true → contentsSent log = file) →
      ((∃ lost, e = .fclose lost) ∨ (∃ fd, e = .close fd) ∨ e = .release) →
      (∃ f', file' = some f' ∧ f'.number = f.number ∧ f'.mode = .read) ∧
        (result = some true → contentsSent (log ++ [e]) = file) := by
    intro result hresult he
    have hopens : ∀ path mode error, e ≠ .fopen path mode error := by
      rintro path mode error rfl
      simp at he
    obtain ⟨f', hf', -, hnumber, hmode'⟩ := access_keeps hopens haccess rfl
    refine ⟨⟨f', hf', hnumber, hmode'.trans hmode⟩, ?_⟩
    intro htrue
    rw [contentsSent, blocksSent_snoc]
    rcases he with ⟨lost, rfl⟩ | ⟨fd, rfl⟩ | rfl <;> exact hresult htrue
  cases task_called hstate with
  | filling s s' hs =>
      obtain ⟨hreceiver, hcreated, hposition, hlog⟩ := hserved
      obtain ⟨-, hreceiver'⟩ := FillState.step_keeps hs
      obtain ⟨hcreated', he⟩ := FillState.created_step hcreated hs
      have hlog' : blocksSent (log ++ [e]) = [] := by
        rw [blocksSent_snoc, hlog]
        refine noteSent_of_not_data ?_
        rintro peer packet ok rfl
        rw [fill_sent hs]
        decide
      have hfile : file' = some f := by
        rcases he with ⟨size, block, rfl⟩ | ⟨peer, packet, ok, rfl⟩
        · exact (Prod.mk.inj (Option.some.inj haccess)).2.symm
        · exact (Prod.mk.inj (Option.some.inj haccess)).2.symm
      refine ⟨f, hfile, rfl, hmode, ?_⟩
      rw [hposition]
      exact served_afterFill (hreceiver'.trans hreceiver) hcreated' hlog'
        fun b tx hready => FillState.ready_step hs hready
  | transmitting b s s' hs =>
      obtain ⟨hframed, hsends⟩ := hserved
      obtain ⟨f', hf', hnumber, hmode', hsender⟩ :=
        sender_of_access hs haccess hreads hmode hcontents
      refine ⟨f', hf', hnumber, hmode', ?_⟩
      refine served_afterTransmit (TransmitState.framed_step hframed hs) ?_
      rw [blocksSent_snoc]
      exact Sender.step_sends hsends hframed hsender
  | closingFile op result =>
      obtain ⟨⟨f', hf', hnumber, hmode'⟩, hsent⟩ := hbehind result hserved (Or.inl ⟨_, rfl⟩)
      exact ⟨f', hf', hnumber, hmode', served_freeOperationData hsent⟩
  | closingSocket op result =>
      obtain ⟨⟨f', hf', hnumber, hmode'⟩, hsent⟩ :=
        hbehind result hserved (Or.inr (Or.inl ⟨op.dataSocket, rfl⟩))
      exact ⟨f', hf', hnumber, hmode', hsent⟩
  | releasing result =>
      obtain ⟨⟨f', hf', hnumber, hmode'⟩, hsent⟩ := hbehind result hserved (Or.inr (Or.inr rfl))
      exact ⟨f', hf', hnumber, hmode', hsent⟩
  | _ => exact hserved.elim

/-- A step that creates nothing over the file keeps the download going. -/
theorem serving_step {m : ServerMove} (h : Serving file n i w) (hspares : SparesFile resolve n w m)
    (hreads : m.ReadsWhole i) (hstep : serverStep host resolve w m = some w') :
    Serving file n i w' := by
  obtain ⟨task, f, htask, hf, hnumber, hmode, hserved⟩ := h.served
  have hlt := (List.getElem?_eq_some_iff.mp htask).1
  cases m with
  | spawn op =>
      obtain ⟨hstorage, htasks⟩ := spawn_eq hstep
      exact
        { number_lt := by rw [hstorage]; exact h.number_lt
          contents := by rw [hstorage]; exact h.contents
          whole := by
            rintro j other g ⟨hother, hg, hgmode⟩ hgnumber
            -- a task that has just been created has no file
            rcases spawn_task hstep hother with hold | rfl
            · exact h.whole j other g ⟨hold, hg, hgmode⟩ hgnumber
            · cases hg
          served := by
            refine ⟨task, f, ?_, hf, hnumber, hmode, hserved⟩
            rw [htasks, List.getElem?_append_left hlt]
            exact htask }
  | call j e =>
      obtain ⟨other, state, file', hother, hstate, haccess, htasks⟩ := call_eq hstep
      refine
        { number_lt := lt_of_lt_of_le h.number_lt (access_fresh_le haccess)
          contents := h.contents_step hspares hstep
          whole := h.whole_step hspares hstep
          served := ?_ }
      -- another task leaves this one alone, and its write spares the file
      by_cases hne : i = j
      · subst hne
        obtain rfl := Option.some.inj (htask.symm.trans hother)
        rw [hf] at haccess
        obtain ⟨f', hf', hnumber', hmode', hserved'⟩ :=
          served_step hserved (hreads rfl) hmode (by rw [hnumber]; exact h.contents) hstate haccess
        refine ⟨{ state := state, file := file', log := task.log ++ [e] }, f', ?_, hf',
          hnumber'.trans hnumber, hmode', hserved'⟩
        rw [htasks, List.getElem?_set_self hlt]
      · exact ⟨task, f, (call_other hstep hne).trans htask, hf, hnumber, hmode, hserved⟩

/-! ### The file at its opening -/

/-- Before the first packet of its transfer, a task has sent no DATA packet. -/
theorem early_run {start : Storage ν} {tr : List ServerMove}
    (h : Run (serverStep host resolve) (ServerState.start start) tr w)
    (htask : w.tasks[i]? = some task) (hearly : task.state.Early) : blocksSent task.log = [] := by
  induction h generalizing task with
  | nil => cases htask
  | @snoc tr v w m _ hstep ih =>
      cases m with
      | spawn op =>
          rcases spawn_task hstep htask with hbefore | rfl
          · exact ih hbefore hearly
          · rfl
      | call j e =>
          by_cases hne : i = j
          · subst hne
            obtain ⟨before, hbefore, hstate, -, hlog⟩ := call_self hstep htask
            obtain ⟨hearly', hnote⟩ := TaskState.early_step hstate hearly
            rw [hlog, blocksSent_snoc, hnote]
            exact ih hbefore hearly'
          · rw [call_other hstep hne] at htask
            exact ih htask hearly

/-- Opening a file nobody is writing begins a download of it. -/
theorem serving_open {path : List UInt8} (htask : w.tasks[i]? = some task)
    (hopens : task.state.OpensToSend) (hlog : blocksSent task.log = [])
    (hstep : serverStep host resolve w (.call i (.fopen path .read none)) = some w') :
    ∃ n, w.storage.entry (resolve path) = some n ∧
      (Whole w n → Serving (w.storage.contents n) n i w') := by
  obtain ⟨before, state, file', hbefore, hstate, haccess, htasks⟩ := call_eq hstep
  obtain rfl := Option.some.inj (htask.symm.trans hbefore)
  obtain ⟨n, hentry, hstorage, rfl⟩ := access_open haccess
  refine ⟨n, hentry, ?_⟩
  intro hwhole
  have hlt : i < w.tasks.length := (List.getElem?_eq_some_iff.mp htask).1
  refine
    { number_lt := by rw [hstorage]; exact w.storage.entry_lt _ _ hentry
      contents := by rw [hstorage]
      whole := ?_
      served := ?_ }
  · rintro j other f ⟨hother, hf, hmode⟩ hnumber
    -- the stream that was opened is for reading; the others were there before
    by_cases hne : j = i
    · subst hne
      rw [htasks, List.getElem?_set_self hlt] at hother
      obtain rfl := Option.some.inj hother
      obtain rfl := Option.some.inj hf
      cases hmode
    · rw [call_other hstep hne] at hother
      exact hwhole j other f ⟨hother, hf, hmode⟩ hnumber
  · refine ⟨_, _, by rw [htasks, List.getElem?_set_self hlt], rfl, rfl, rfl, ?_⟩
    cases ht : task.state with
    | filling s =>
        rw [ht] at hopens hstate
        obtain ⟨hpoint, hreceiver⟩ := hopens
        obtain ⟨s', hs, rfl⟩ := Option.map_eq_some_iff.mp hstate
        obtain ⟨-, hreceiver'⟩ := FillState.step_keeps hs
        have hcreated : s'.Created := by
          obtain ⟨error, -, ⟨-, rfl⟩ | ⟨errno, -, rfl⟩⟩ := fill_opening hpoint hs
          · exact FillState.created_checkBlockSize
          · exact FillState.created_fail _
        -- nothing of the file has been sent so far
        refine served_afterFill (hreceiver'.trans hreceiver) hcreated ?_
          fun b tx hready => FillState.ready_step hs hready
        rw [blocksSent_snoc, hlog]
        rfl
    | _ =>
        rw [ht] at hopens
        exact hopens.elim

/-! ### Where a stored file comes from -/

/-- A task that has created a file keeps it. -/
theorem Sound.upload_kept {base : Nat} {m : ServerMove} (h : Sound base resolve w)
    (hstep : serverStep host resolve w m = some w') (hupload : HasUpload w i task f) :
    ∃ task' f', HasUpload w' i task' f' ∧ f'.number = f.number := by
  obtain ⟨htask, hf, hmode⟩ := hupload
  have hlt : i < w.tasks.length := (List.getElem?_eq_some_iff.mp htask).1
  cases m with
  | spawn op =>
      refine ⟨task, f, ⟨?_, hf, hmode⟩, rfl⟩
      rw [(spawn_eq hstep).2, List.getElem?_append_left hlt]
      exact htask
  | call j e =>
      by_cases hne : i = j
      · subst hne
        obtain ⟨before, state, file', hbefore, hstate, haccess, htasks⟩ := call_eq hstep
        obtain rfl := Option.some.inj (htask.symm.trans hbefore)
        have hup := TaskState.upload_step (h.upload i task f htask hf hmode).uploads hstate
        obtain ⟨f', hf', -, hnumber, hmode'⟩ := access_keeps hup.opens haccess hf
        exact ⟨_, f', ⟨by rw [htasks, List.getElem?_set_self hlt], hf', hmode'.trans hmode⟩,
          hnumber⟩
      · exact ⟨task, f, ⟨(call_other hstep hne).trans htask, hf, hmode⟩, rfl⟩

theorem accounted_step {start : Storage ν} {m : ServerMove} (hsound : Sound start.fresh resolve w)
    (h : Accounted start w) (hC : Orderly resolve w m)
    (hstep : serverStep host resolve w m = some w') : Accounted start w' := by
  -- a file that is not new is still the same task's
  have hold : ∀ n, start.fresh ≤ n → n < w.storage.fresh →
      ∃ j task f, HasUpload w' j task f ∧ f.number = n := by
    intro n hge hlt
    obtain ⟨j, task, f, hupload, rfl⟩ := h.uploaded n hge hlt
    obtain ⟨task', f', hupload', hnumber⟩ := hsound.upload_kept hstep hupload
    exact ⟨j, task', f', hupload', hnumber⟩
  cases m with
  | spawn op =>
      obtain ⟨hstorage, -⟩ := spawn_eq hstep
      exact
        { untouched := by rw [hstorage]; exact h.untouched
          uploaded := fun n hge hlt => hold n hge (by rwa [hstorage] at hlt) }
  | call i e =>
      obtain ⟨task, state, file', htask, -, haccess, htasks⟩ := call_eq hstep
      rcases changesFiles_cases e with hquiet | ⟨path, rfl⟩ | ⟨bytes, hhands⟩ | ⟨path, rfl⟩
      · have hstorage := (access_quiet hquiet haccess).1
        exact
          { untouched := by rw [hstorage]; exact h.untouched
            uploaded := fun n hge hlt => hold n hge (by rwa [hstorage] at hlt) }
      · obtain ⟨hstorage, hfile⟩ := access_create hC haccess
        refine ⟨?_, ?_⟩
        · intro n hn
          rw [hstorage, w.storage.add_contents_of_lt _ (lt_of_lt_of_le hn hsound.base_le)]
          exact h.untouched n hn
        · intro n hge hlt
          rw [hstorage, FileStore.add_fresh] at hlt
          rcases Nat.lt_succ_iff_lt_or_eq.mp hlt with hlt' | rfl
          · exact hold n hge hlt'
          · have hlength : i < w.tasks.length := (List.getElem?_eq_some_iff.mp htask).1
            exact ⟨i, _, _, ⟨by rw [htasks, List.getElem?_set_self hlength], hfile, rfl⟩, rfl⟩
      · obtain ⟨g, g', hg, -, -, ⟨-, hstorage, -⟩ | ⟨hgmode, hhanded⟩⟩ :=
          access_hands hhands haccess
        · exact
            { untouched := by rw [hstorage]; exact h.untouched
              uploaded := fun n hge hlt => hold n hge (by rwa [hstorage] at hlt) }
        · refine ⟨?_, fun n hge hlt => hold n hge (by rwa [hhanded.fresh] at hlt)⟩
          intro n hn
          have hbase := (hsound.upload i task g htask hg hgmode).base_le
          rw [hhanded.contents_of_ne (by omega)]
          exact h.untouched n hn
      · obtain ⟨hstorage, -⟩ := access_remove haccess
        refine ⟨?_, fun n hge hlt => hold n hge (by rwa [hstorage] at hlt)⟩
        rw [hstorage]
        exact h.untouched

theorem accounted_run {start : Storage ν} {tr : List ServerMove}
    (h : Run (serverStep host resolve) (ServerState.start start) tr w)
    (hC : EveryStep (serverStep host resolve) (Orderly resolve) (ServerState.start start) tr) :
    Sound start.fresh resolve w ∧ Accounted start w :=
  h.invariant_of_everyStep (I := fun w => Sound start.fresh resolve w ∧ Accounted start w)
    (fun _ _ _ hI hcond hs => ⟨sound_step hI.1 hcond hs, accounted_step hI.1 hI.2 hcond hs⟩) hC
    ⟨sound_start resolve start, accounted_start start⟩

/-- A task that opens a file nobody is writing, and over which nothing is created then, has
sent what the file held when `tftp_transmit_file` returns `true`, unless a read has stopped
inside a block.  That is all of a fully stored file, if the steps before were orderly. -/
theorem download_complete (host : Host) (resolve : List UInt8 → ν) (start : Storage ν)
    {tr tr' : List ServerMove} {w w₁ w₂ : ServerState ν} {i : Nat} {path : List UInt8}
    {task task' : Task ν}
    (h : Run (serverStep host resolve) (ServerState.start start) tr w)
    (htask : w.tasks[i]? = some task) (hopens : task.state.OpensToSend)
    (hstep : serverStep host resolve w (.call i (.fopen path .read none)) = some w₁)
    (h' : Run (serverStep host resolve) w₁ tr' w₂) (htask' : w₂.tasks[i]? = some task')
    (hreturned : task'.state.result = some true) :
    ∃ n, w.storage.entry (resolve path) = some n ∧
      (Whole w n → EveryStep (serverStep host resolve) (SparesFile resolve n) w₁ tr' →
        (∀ m ∈ tr', m.ReadsWhole i) →
        contentsSent task'.log = w.storage.contents n ∧
          (EveryStep (serverStep host resolve) (Orderly resolve) (ServerState.start start) tr →
            FullyStored start w n (contentsSent task'.log))) := by
  -- before the file is opened no block of one has been sent
  have hearly : task.state.Early := by
    cases ht : task.state with
    | filling s => trivial
    | _ =>
        rw [ht] at hopens
        exact hopens.elim
  obtain ⟨n, hentry, hserving⟩ := serving_open htask hopens (early_run h htask hearly) hstep
  refine ⟨n, hentry, ?_⟩
  intro hwhole hspares hreads
  have hfinal : Serving (w.storage.contents n) n i w₂ :=
    h'.invariant_of_everyStep
      (fun _ _ _ hI hcond hs => serving_step hI hcond.1 hcond.2 hs)
      (hspares.and (everyStep_of_forall fun m hm _ => hreads m hm)) (hserving hwhole)
  have hsent := hfinal.contents_sent htask' hreturned
  refine ⟨hsent, ?_⟩
  intro hC
  obtain ⟨hsound, haccounted⟩ := accounted_run h hC
  rw [hsent]
  exact haccounted.fullyStored hsound hwhole (w.storage.entry_lt _ _ hentry)

end Downloads

section FixedRuns

/-- `TaskState.OpensToSend`, evaluated. -/
def opensToSend : TaskState → Bool
  | .filling s => decide (s.point = .opening) && !s.receiver
  | _ => false

theorem opensToSend_iff (t : TaskState) : opensToSend t = true ↔ t.OpensToSend := by
  cases t <;> simp [opensToSend, TaskState.OpensToSend]

instance : DecidablePred TaskState.OpensToSend := fun t =>
  decidable_of_iff _ (opensToSend_iff t)

/-- A download of `storage/a` to a client's port. -/
def downloadOperation (fd : Int) (port : UInt16) : OperationData :=
  { uploadOperation fd port with operationId := .send }

/-- A server that stores one short file. -/
def oneFile : Storage (List UInt8) :=
  (emptyStorage.add (ascii "storage/a")).set 0 (ascii "abc")

/-- A task comes to its `fopen`. -/
def reachMoves (i : Nat) : List ServerMove :=
  [.call i (.poll false), .call i (.malloc sizeofTransferData (some []))]

/-- The `fopen`. -/
def openMove (i : Nat) : ServerMove :=
  .call i (.fopen (ascii "storage/a") .read none)

/-- It makes its buffers and enters `tftp_transmit_file`. -/
def bufferMoves (i : Nat) : List ServerMove :=
  [.call i (.malloc 12 (some (List.replicate 12 0))),
    .call i (.malloc 36 (some (List.replicate 36 0))), .call i (.poll false)]

/-- It reads a block, sends it and has it acknowledged. -/
def sendMoves (i : Nat) (port : UInt16) (n : UInt16) (payload : List UInt8) (eof : Bool) :
    List ServerMove :=
  [.call i (.poll false), .call i (.fread 8 payload eof), .call i (.poll false),
    .call i (.sendto (localhost port) (dataPacket n payload) true),
    .call i (.recvfrom 36 (.datagram (localhost port) (ackPacket n)))]

/-- A download by itself, up to its `fopen`. -/
def loneReach : List ServerMove :=
  .spawn (downloadOperation 4 50001) :: reachMoves 0

/-- The rest of it. -/
def loneDownload : List ServerMove :=
  bufferMoves 0 ++ sendMoves 0 50001 1 (ascii "abc") true

set_option maxRecDepth 4000 in
/-- A file that was there at the start is downloaded whole. -/
theorem download_complete_alone :
    ∃ w w₂ task, Run (serverStep littleHost id) (ServerState.start oneFile) loneReach w ∧
      Run (serverStep littleHost id) (ServerState.start oneFile)
        ((loneReach ++ [openMove 0]) ++ loneDownload) w₂ ∧
      w₂.tasks[0]? = some task ∧ FullyStored oneFile w 0 (contentsSent task.log) := by
  have hbefore : ∃ w, Run (serverStep littleHost id) (ServerState.start oneFile) loneReach w ∧
      (w.tasks[0]?).any (fun task => decide task.state.OpensToSend) = true ∧
        (∀ task ∈ w.tasks, task.file = none) ∧ w.storage.entry (ascii "storage/a") = some 0 :=
    exists_run_of_exec (by decide)
  have hafter : ∃ w₂, Run (serverStep littleHost id) (ServerState.start oneFile)
      ((loneReach ++ [openMove 0]) ++ loneDownload) w₂ ∧
      (w₂.tasks[0]?).any (fun task => decide (task.state.result = some true)) = true :=
    exists_run_of_exec (by decide)
  have hspares : ∀ m ∈ loneDownload, ∀ w, SparesFile id 0 w m := by
    simp [loneDownload, bufferMoves, sendMoves, SparesFile]
  have hreads : ∀ m ∈ loneDownload, m.ReadsWhole 0 := by
    simp [loneDownload, bufferMoves, sendMoves, ServerMove.ReadsWhole, Event.ReadsWhole]
  obtain ⟨w, h, htask, hfiles, hentry⟩ := hbefore
  obtain ⟨w₂, h₂, htask₂⟩ := hafter
  obtain ⟨task, htask, hopens⟩ := (Option.any_eq_true _ _).mp htask
  obtain ⟨task₂, htask₂, hreturned⟩ := (Option.any_eq_true _ _).mp htask₂
  -- the two runs are one, so the file is opened where the first one ended
  obtain ⟨w₁, h₁, hrest⟩ := h₂.split
  obtain ⟨w', h', hstep⟩ := h₁.of_snoc
  obtain rfl := h'.deterministic h
  refine ⟨w', w₂, task₂, h, h₂, htask₂, ?_⟩
  obtain ⟨n, hn, hcomplete⟩ := download_complete littleHost id oneFile h htask
    (of_decide_eq_true hopens) hstep hrest htask₂ (of_decide_eq_true hreturned)
  obtain rfl : 0 = n := Option.some.inj (hentry.symm.trans hn)
  refine (hcomplete ?_ (everyStep_of_forall hspares) hreads).2 (by decide)
  rintro j other f ⟨hother, hf, -⟩ -
  rw [hfiles other (List.mem_of_getElem? hother)] at hf
  cases hf

/-- An upload, and a download of the file while nothing is in it yet. -/
def earlyDownload : List ServerMove :=
  [.spawn (uploadOperation 4 50001), .spawn (downloadOperation 5 50002)] ++
    checkMoves 0 ++ createMoves 0 50001 ++
    reachMoves 1 ++ [openMove 1] ++ bufferMoves 1 ++ sendMoves 1 50002 1 [] true ++
    blockMoves 0 50001 (ascii "abc") ++ [loneAck] ++ loneEnd

set_option maxRecDepth 8000 in
/-- The download has every block acknowledged and returns `true`, but no fully stored file
is what it has sent, not even when the upload has ended. -/
theorem download_overtakes_upload :
    ∃ w task, Run (serverStep littleHost id) (ServerState.start emptyStorage) earlyDownload w ∧
      w.tasks[1]? = some task ∧ task.state.result = some true ∧
      ∀ n, ¬ FullyStored emptyStorage w n (contentsSent task.log) := by
  have hrun : ∃ w, Run (serverStep littleHost id) (ServerState.start emptyStorage)
      earlyDownload w ∧
      (w.tasks[1]?).any (fun task => decide (task.state.result = some true ∧
        ∀ other ∈ w.tasks, ∀ f ∈ other.file, f.mode = .write →
          payloadsWritten other.log ≠ contentsSent task.log)) = true :=
    exists_run_of_exec (by decide)
  obtain ⟨w, h, htask⟩ := hrun
  obtain ⟨task, htask, hdownload⟩ := (Option.any_eq_true _ _).mp htask
  obtain ⟨hreturned, hnone⟩ := of_decide_eq_true hdownload
  refine ⟨w, task, h, htask, hreturned, ?_⟩
  rintro n (⟨hlt, -⟩ | ⟨j, other, f, ⟨hother, hf, hmode⟩, -, -, hsent⟩)
  · exact Nat.not_lt_zero n hlt
  · exact hnone other (List.mem_of_getElem? hother) f hf hmode hsent

end FixedRuns

end Stftpu
