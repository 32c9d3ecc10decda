import Stftpu.Server.Tasks

/-!
# Uploads side by side

Write requests are refused for names that exist, and a file that is not received whole is
removed again.  The check and the creation are two calls, the removal goes by the path,
and a deletion may come at any time, so tasks can get in each other's way.

* `Orderly` — the steps at which they do not.
* `Sound` — what then holds of every upload: the file is the task's own, it and the buffer of
  the stream hold what was received, and it is found under its name until it is whole or
  removed.
* `WritesOut` — the last block of an upload does not stay in the buffer.
* `store_integrity` — the uploads of a run of orderly steps.
-/

namespace Stftpu

open Library

/-- The blocks a task received and wrote, put together. -/
def payloadsWritten (log : List Event) : List UInt8 :=
  log.flatMap fun e =>
    match e with
    | .fwrite bytes count _ => if count = 0 then [] else bytes
    | _ => []

/-- The task of a delete request. -/
def TaskState.isDeleting : TaskState → Bool
  | .deleting _ _ => true
  | _ => false

/-- The packet with the last block of an upload is in the buffer. -/
def TaskState.hasLastBlock : TaskState → Bool
  | .receiving b s => s.tx.bytesReceived ≠ dataPacketMaxSize b
  | _ => false

/-- The last block has been taken by `fwrite`. -/
def ReceiveState.TookLast {b : BlockSize} (s : ReceiveState b) : Prop :=
  s.point = .acknowledging ∧ s.tx.bytesReceived ≠ dataPacketMaxSize b ∨
    s.point = .returned .success

def TaskState.TookLast : TaskState → Prop
  | .receiving _ s => s.TookLast
  | t => t.result = some true

section Uploads

variable {ν : Type}

/-- A file is created only where there is none, a deletion removes no file whose upload
has not ended, and `fwrite` writes all it is given or nothing. -/
def Orderly (resolve : List UInt8 → ν) (w : ServerState ν) : ServerMove → Prop
  | .call _ (.fopen path .write none) => w.storage.entry (resolve path) = none
  | .call i (.remove path none) =>
      (w.tasks[i]?).any (fun task => task.state.isDeleting) = true →
        ∀ task ∈ w.tasks, ∀ f ∈ task.file, f.mode = .write → task.state.inUpload = true →
          f.name ≠ resolve path
  | .call _ (.fwrite bytes count _) => count = 0 ∨ count = bytes.length
  | _ => True

/-- With the last block of an upload `fwrite` leaves nothing in the buffer. -/
def WritesOut (i : Nat) (w : ServerState ν) : ServerMove → Prop
  | .call j (.fwrite _ _ kept) =>
      j = i → (w.tasks[i]?).any (fun task => task.state.hasLastBlock) = true → kept = 0
  | _ => True

/-- The upload of a task whose stream for writing is `f`; the numbers from `base` on were
given out since the server started. -/
structure UploadOk (base : Nat) (resolve : List UInt8 → ν) (storage : Storage ν)
    (task : Task ν) (f : OpenFile ν) : Prop where
  uploads : task.state.Uploads
  named : ∀ path, task.state.path = some path → resolve path = f.name
  base_le : base ≤ f.number
  number_lt : f.number < storage.fresh
  contents : storage.contents f.number ++ f.buffer = payloadsWritten task.log
  position : f.isOpen = true → f.position = (storage.contents f.number).length
  present : task.state.inUpload = true → storage.entry f.name = some f.number

/-- Every upload is in order, and no two have the same file. -/
structure Sound (base : Nat) (resolve : List UInt8 → ν) (w : ServerState ν) : Prop where
  base_le : base ≤ w.storage.fresh
  upload : ∀ (i : Nat) (task : Task ν) (f : OpenFile ν), w.tasks[i]? = some task →
    task.file = some f → f.mode = .write → UploadOk base resolve w.storage task f
  apart : ∀ (i j : Nat) (task other : Task ν) (f g : OpenFile ν), w.tasks[i]? = some task →
    w.tasks[j]? = some other → task.file = some f → other.file = some g → f.mode = .write →
    g.mode = .write → f.number = g.number → i = j
  hasFile : ∀ (i : Nat) (task : Task ν), w.tasks[i]? = some task → task.state.HasCreated →
    ∃ f, task.file = some f ∧ f.mode = .write
  silent : ∀ (i : Nat) (task : Task ν), w.tasks[i]? = some task →
    (∀ f, task.file = some f → f.mode ≠ .write) → payloadsWritten task.log = []

theorem sound_start (resolve : List UInt8 → ν) (storage : Storage ν) :
    Sound storage.fresh resolve (ServerState.start storage) where
  base_le := le_refl _
  upload := by
    intro i task f htask
    cases htask
  apart := by
    intro i j task other f g htask
    cases htask
  hasFile := by
    intro i task htask
    cases htask
  silent := by
    intro i task htask
    cases htask

variable {host : Host} {resolve : List UInt8 → ν} {base : Nat} {w : ServerState ν}
  {storage storage' : Storage ν} {i j : Nat} {e : Event} {task other : Task ν} {f g : OpenFile ν}

theorem payloadsWritten_snoc (log : List Event) (e : Event) :
    payloadsWritten (log ++ [e]) = payloadsWritten log ++ payloadsWritten [e] := by
  simp [payloadsWritten]

theorem payloadsWritten_of_not_fwrite (hwrite : ∀ bytes count kept, e ≠ .fwrite bytes count kept) :
    payloadsWritten [e] = [] := by
  cases e with
  | fwrite bytes count kept => exact absurd rfl (hwrite bytes count kept)
  | _ => rfl

/-- What a write whole or none adds. -/
theorem payloadsWritten_fwrite {bytes : List UInt8} {count kept : Nat}
    (h : count = 0 ∨ count = bytes.length) :
    payloadsWritten [.fwrite bytes count kept] = bytes.take count := by
  rcases h with rfl | rfl
  · rfl
  · by_cases hnil : bytes.length = 0
    · simp [payloadsWritten, List.eq_nil_of_length_eq_zero hnil]
    · simp [payloadsWritten, hnil]

/-- What a call adds is what it puts into the buffer. -/
theorem payloadsWritten_hands {bytes : List UInt8} (hhands : e.Hands bytes)
    (hC : Orderly resolve w (.call i e)) : payloadsWritten [e] = bytes := by
  cases hhands with
  | fwrite bytes count kept => exact payloadsWritten_fwrite hC
  | fclose lost => rfl

/-- An upload is untouched by a change elsewhere in the storage. -/
theorem UploadOk.keep (h : UploadOk base resolve storage task f)
    (hcontents : storage'.contents f.number = storage.contents f.number)
    (hentry : task.state.inUpload = true → storage'.entry f.name = storage.entry f.name)
    (hfresh : storage.fresh ≤ storage'.fresh) : UploadOk base resolve storage' task f where
  uploads := h.uploads
  named := h.named
  base_le := h.base_le
  number_lt := lt_of_lt_of_le h.number_lt hfresh
  contents := by rw [hcontents]; exact h.contents
  position := fun hopen => by rw [hcontents]; exact h.position hopen
  present := fun hin => (hentry hin).trans (h.present hin)

/-- A call of the uploading task itself. -/
theorem UploadOk.step (h : UploadOk base resolve storage task g)
    (hup : TaskState.UploadStep task.state other.state e) (hlog : other.log = task.log ++ [e])
    (hname : f.name = g.name) (hnumber : f.number = g.number)
    (hcontents : storage'.contents g.number ++ f.buffer =
      storage.contents g.number ++ g.buffer ++ payloadsWritten [e])
    (hposition : f.isOpen = true → f.position = (storage'.contents g.number).length)
    (hentry : other.state.inUpload = true → storage'.entry g.name = storage.entry g.name)
    (hfresh : storage.fresh ≤ storage'.fresh) : UploadOk base resolve storage' other f where
  uploads := hup.uploads
  named := fun path hpath => (h.named path (hup.path path hpath)).trans hname.symm
  base_le := hnumber ▸ h.base_le
  number_lt := hnumber ▸ lt_of_lt_of_le h.number_lt hfresh
  contents := by rw [hnumber, hcontents, h.contents, hlog, payloadsWritten_snoc]
  position := fun hopen => by rw [hnumber]; exact hposition hopen
  present := by
    intro hin
    rw [hname, hnumber, hentry hin]
    exact h.present (hup.inUpload hin)

/-- The name a task removes from the storage is not one under which another task is still
uploading. -/
theorem Sound.removes_apart (h : Sound base resolve w) {path : List UInt8} {state : TaskState}
    (hC : Orderly resolve w (.call i (.remove path none)))
    (htask : w.tasks[i]? = some task)
    (hstate : serverTaskStart host task.state (.remove path none) = some state)
    (hother : w.tasks[j]? = some other) (hne : j ≠ i) (hg : other.file = some g)
    (hgmode : g.mode = .write) (hin : other.state.inUpload = true) : g.name ≠ resolve path := by
  obtain ⟨op, rfl, ht | ht⟩ := TaskState.removes_file hstate
  · have hcreated : task.state.HasCreated := by
      rw [ht]
      trivial
    obtain ⟨f, hf, hmode⟩ := h.hasFile i task htask hcreated
    have hown := h.upload i task f htask hf hmode
    have hname : resolve op.path = f.name := hown.named op.path (by rw [ht]; rfl)
    intro heq
    refine hne (h.apart j i other task g f hother htask hg hf hgmode hmode ?_)
    have hpresent := (h.upload j other g hother hg hgmode).present hin
    rw [heq, hname, hown.present (by rw [ht]; rfl)] at hpresent
    exact (Option.some.inj hpresent).symm
  · refine hC ?_ other (List.mem_of_getElem? hother) g hg hgmode hin
    simp [htask, ht, TaskState.isDeleting]

/-! ### From its receipt to its deletion -/

/-- The upload of a task: its stream for writing. -/
def HasUpload (w : ServerState ν) (i : Nat) (task : Task ν) (f : OpenFile ν) : Prop :=
  w.tasks[i]? = some task ∧ task.file = some f ∧ f.mode = .write

/-- `tftp_receive_file` has returned `true`. -/
def ReceivedWhole (w : ServerState ν) (i : Nat) : Prop :=
  ∃ task f, HasUpload w i task f ∧ task.state.result = some true

/-- The name of the upload leads to its file. -/
def Found (w : ServerState ν) (i : Nat) : Prop :=
  ∃ task f, HasUpload w i task f ∧ task.state.result = some true ∧
    w.storage.entry f.name = some f.number

/-- All that was taken from the upload is in its file. -/
def WrittenOut (w : ServerState ν) (i : Nat) : Prop :=
  ∃ task f, HasUpload w i task f ∧ f.buffer = []

/-- The file is there, and it holds all that was received. -/
def InStorage (w : ServerState ν) (i : Nat) : Prop :=
  ∃ task f, HasUpload w i task f ∧ w.storage.entry f.name = some f.number ∧
    w.storage.contents f.number = payloadsWritten task.log

/-- No deletion of the upload's name succeeds. -/
def Spares (resolve : List UInt8 → ν) (i : Nat) (w : ServerState ν) : ServerMove → Prop
  | .call j (.remove path none) =>
      (w.tasks[j]?).any (fun task => task.state.isDeleting) = true →
        ∀ task ∈ w.tasks[i]?, ∀ f ∈ task.file, f.name ≠ resolve path
  | _ => True

/-- No two tasks have the same file open for writing. -/
def WritersApart (w : ServerState ν) : Prop :=
  ∀ i j task other f g, HasUpload w i task f → HasUpload w j other g →
    f.isOpen = true → g.isOpen = true → f.number = g.number → i = j

/-- A task about to remove a file finds its own under that name: one that was not there
when the server started and that no other task created. -/
def RemovesOwn (base : Nat) (resolve : List UInt8 → ν) (w : ServerState ν) : Prop :=
  ∀ i task op, w.tasks[i]? = some task → task.state = .removingPartial op →
    ∃ f, HasUpload w i task f ∧ w.storage.entry (resolve op.path) = some f.number ∧
      base ≤ f.number ∧ ∀ j other g, HasUpload w j other g → g.number = f.number → j = i

theorem HasUpload.unique (h : HasUpload w i task f) (hother : HasUpload w i other g) :
    other = task ∧ g = f := by
  obtain ⟨htask, hf, -⟩ := h
  obtain ⟨hsame, hg, -⟩ := hother
  obtain rfl := Option.some.inj (hsame.symm.trans htask)
  exact ⟨rfl, Option.some.inj (hg.symm.trans hf)⟩

/-- A file received whole is in storage when its stream holds nothing back. -/
theorem Sound.inStorage_iff (h : Sound base resolve w) (hfound : Found w i) :
    InStorage w i ↔ WrittenOut w i := by
  obtain ⟨task, f, hupload, -, hentry⟩ := hfound
  have hok := h.upload i task f hupload.1 hupload.2.1 hupload.2.2
  constructor
  · rintro ⟨other, g, hother, -, hcontents⟩
    obtain ⟨rfl, rfl⟩ := hupload.unique hother
    have hall := hok.contents
    rw [hcontents] at hall
    exact ⟨_, _, hother, List.append_right_eq_self.mp hall⟩
  · rintro ⟨other, g, hother, hbuffer⟩
    obtain ⟨rfl, rfl⟩ := hupload.unique hother
    have hall := hok.contents
    rw [hbuffer, List.append_nil] at hall
    exact ⟨_, _, hother, hentry, hall⟩

theorem Sound.removesOwn (h : Sound base resolve w) : RemovesOwn base resolve w := by
  intro i task op htask hstate
  have hcreated : task.state.HasCreated := by
    rw [hstate]
    trivial
  obtain ⟨f, hf, hmode⟩ := h.hasFile i task htask hcreated
  have hok := h.upload i task f htask hf hmode
  have hname : resolve op.path = f.name := hok.named op.path (by rw [hstate]; rfl)
  refine ⟨f, ⟨htask, hf, hmode⟩, ?_, hok.base_le, ?_⟩
  · rw [hname]
    exact hok.present (by rw [hstate]; rfl)
  · rintro j other g ⟨hother, hg, hgmode⟩ hnumber
    exact h.apart j i other task g f hother htask hg hf hgmode hmode hnumber

end Uploads

section Integrity

variable {ν : Type} [DecidableEq ν] {host : Host} {resolve : List UInt8 → ν} {base : Nat}
  {w w' : ServerState ν} {i j : Nat} {e : Event} {task other : Task ν} {f g : OpenFile ν}
  {storage : Storage ν}

/-- What a call leaves of the uploads of the other tasks. -/
theorem Sound.others_kept (h : Sound base resolve w) (hC : Orderly resolve w (.call i e))
    (hstep : serverStep host resolve w (.call i e) = some w') (hne : j ≠ i)
    (hother : w.tasks[j]? = some other) (hg : other.file = some g) (hgmode : g.mode = .write) :
    UploadOk base resolve w'.storage other g := by
  obtain ⟨task, state, file, htask, hstate, haccess, -⟩ := call_eq hstep
  have hok := h.upload j other g hother hg hgmode
  rcases changesFiles_cases e with hquiet | ⟨path, rfl⟩ | ⟨bytes, hhands⟩ | ⟨path, rfl⟩
  · rw [(access_quiet hquiet haccess).1]
    exact hok
  · rw [(access_create hC haccess).1]
    -- the created name was free, and so not the one of the upload
    refine hok.keep ?_ ?_ (Nat.le_succ _)
    · exact w.storage.add_contents_of_lt _ hok.number_lt
    · intro hin
      refine w.storage.add_entry_of_ne _ ?_
      intro heq
      have hpresent := hok.present hin
      rw [heq, hC] at hpresent
      cases hpresent
  · obtain ⟨f, f', hf, -, -, ⟨-, hstorage, -⟩ | ⟨hmode, hhanded⟩⟩ := access_hands hhands haccess
    · rw [hstorage]
      exact hok
    · refine hok.keep (hhanded.contents_of_ne ?_) ?_ (access_fresh_le haccess)
      · intro heq
        -- two streams for writing are never on one file
        exact hne (h.apart j i other task g f hother htask hg hf hgmode hmode heq)
      · intro _
        rw [hhanded.entry]
  · rw [(access_remove haccess).1]
    refine hok.keep rfl ?_ (le_refl _)
    intro hin
    exact w.storage.remove_entry_of_ne _
      (h.removes_apart hC htask hstate hother hne hg hgmode hin)

/-- What a call leaves of the upload of its own task: the one that was there, or a new
file. -/
theorem Sound.own_kept (h : Sound base resolve w) (hC : Orderly resolve w (.call i e))
    (hstep : serverStep host resolve w (.call i e) = some w')
    (htask : w'.tasks[i]? = some task) (hf : task.file = some f) (hmode : f.mode = .write) :
    UploadOk base resolve w'.storage task f ∧
      (f.number = w.storage.fresh ∨ ∃ before g, w.tasks[i]? = some before ∧
        before.file = some g ∧ g.mode = .write ∧ f.number = g.number) := by
  obtain ⟨before, hbefore, hstate, haccess, hlog⟩ := call_self hstep htask
  rcases changesFiles_cases e with hquiet | ⟨path, rfl⟩ | ⟨bytes, hhands⟩ | ⟨path, rfl⟩
  · obtain ⟨hstorage, hcontinues⟩ := access_quiet hquiet haccess
    obtain ⟨g, hg, hgf⟩ := hcontinues f hf hmode
    have hgmode : g.mode = .write := hgf.mode.symm.trans hmode
    have hok := h.upload i before g hbefore hg hgmode
    -- nothing is written, so the file keeps what it had
    have hnowrite : ∀ bytes count kept, e ≠ .fwrite bytes count kept := by
      rintro bytes count kept rfl
      cases hquiet
    rw [hstorage]
    refine ⟨hok.step (TaskState.upload_step hok.uploads hstate) hlog hgf.name hgf.number ?_ ?_
      (fun _ => rfl) (le_refl _), Or.inr ⟨before, g, hbefore, hg, hgmode, hgf.number⟩⟩
    · rw [payloadsWritten_of_not_fwrite hnowrite, List.append_nil, hgf.buffer]
    · intro hopen
      rw [hgf.position]
      exact hok.position (hgf.isOpen.symm.trans hopen)
  · obtain ⟨hstorage, hfile⟩ := access_create hC haccess
    obtain rfl : f = _ := Option.some.inj (hf.symm.trans hfile)
    obtain ⟨huploads, hpath, -⟩ := TaskState.creates_file hstate
    -- the file that is created is the first one of its task
    have hsilent : payloadsWritten before.log = [] := by
      refine h.silent i before hbefore ?_
      intro g hg hgmode
      have hok := h.upload i before g hbefore hg hgmode
      exact (TaskState.upload_step hok.uploads hstate).opens path .write none rfl
    rw [hstorage]
    refine ⟨?_, Or.inl rfl⟩
    exact
      { uploads := huploads
        named := fun p hp => by rw [hpath p hp]
        base_le := h.base_le
        number_lt := Nat.lt_succ_self _
        contents := by
          rw [hlog, payloadsWritten_snoc, hsilent, FileStore.add_contents_fresh]
          rfl
        position := fun _ => by rw [FileStore.add_contents_fresh]; rfl
        present := fun _ => w.storage.add_entry_self _ }
  · obtain ⟨g, f', hg, hfile, hopen, ⟨hgmode, -, rfl⟩ | ⟨hgmode, hhanded⟩⟩ :=
      access_hands hhands haccess
    · obtain rfl := Option.some.inj (hf.symm.trans hfile)
      rw [hgmode] at hmode
      cases hmode
    · obtain rfl := Option.some.inj (hf.symm.trans hfile)
      have hok := h.upload i before g hbefore hg hgmode
      -- what is handed over lands at the end, behind what was handed over before
      obtain ⟨hcontents, hposition⟩ := hhanded.contents_end (hok.position hopen)
      rw [← payloadsWritten_hands hhands hC] at hcontents
      refine ⟨hok.step (TaskState.upload_step hok.uploads hstate) hlog hhanded.name hhanded.number
        hcontents (fun _ => hposition) ?_ (access_fresh_le haccess),
        Or.inr ⟨before, g, hbefore, hg, hgmode, hhanded.number⟩⟩
      intro _
      rw [hhanded.entry]
  · obtain ⟨hstorage, hfile⟩ := access_remove haccess
    rw [hfile] at hf
    have hok := h.upload i before f hbefore hf hmode
    have hup := TaskState.upload_step hok.uploads hstate
    obtain ⟨-, hended, -⟩ := hup.removes path none rfl
    rw [hstorage]
    refine ⟨hok.step hup hlog rfl rfl ?_ (fun hopen => hok.position hopen) ?_ (le_refl _),
      Or.inr ⟨before, f, hbefore, hf, hmode, rfl⟩⟩
    · exact (List.append_nil _).symm
    · intro hin
      rw [hended] at hin
      cases hin

/-- Behind a call, an upload of its task has a number that no other upload has. -/
theorem Sound.own_apart (h : Sound base resolve w) (hC : Orderly resolve w (.call i e))
    (hstep : serverStep host resolve w (.call i e) = some w')
    (htask : w'.tasks[i]? = some task) (hf : task.file = some f) (hmode : f.mode = .write)
    (hne : j ≠ i) (hother : w.tasks[j]? = some other) (hg : other.file = some g)
    (hgmode : g.mode = .write) : f.number ≠ g.number := by
  intro hnumber
  obtain ⟨-, hfresh | ⟨before, f', hbefore, hf', hmode', hsame⟩⟩ :=
    h.own_kept hC hstep htask hf hmode
  · have hlt := (h.upload j other g hother hg hgmode).number_lt
    rw [← hnumber, hfresh] at hlt
    exact absurd hlt (Nat.lt_irrefl _)
  · refine hne.symm (h.apart i j before other f' g hbefore hother hf' hg hmode' hgmode ?_)
    rw [← hsame, hnumber]

/-- A task that can be only behind the creation of its file has it. -/
theorem Sound.own_hasFile (h : Sound base resolve w)
    (hstep : serverStep host resolve w (.call i e) = some w')
    (htask : w'.tasks[i]? = some task) (hcreated : task.state.HasCreated) :
    ∃ f, task.file = some f ∧ f.mode = .write := by
  obtain ⟨before, hbefore, hstate, haccess, -⟩ := call_self hstep htask
  rcases TaskState.hasCreated_step hstate hcreated with hcreated' | ⟨path, rfl⟩
  · obtain ⟨g, hg, hgmode⟩ := h.hasFile i before hbefore hcreated'
    have hup := TaskState.upload_step (TaskState.uploads_of_hasCreated hcreated') hstate
    obtain ⟨f, hf, -, -, hmode⟩ := access_keeps hup.opens haccess hg
    exact ⟨f, hf, hmode.trans hgmode⟩
  · obtain ⟨-, hfile⟩ := Prod.mk.inj (Option.some.inj haccess)
    exact ⟨_, hfile.symm, rfl⟩

/-- A task without a stream for writing has written nothing. -/
theorem Sound.own_silent (h : Sound base resolve w)
    (hstep : serverStep host resolve w (.call i e) = some w')
    (htask : w'.tasks[i]? = some task) (hfile : ∀ f, task.file = some f → f.mode ≠ .write) :
    payloadsWritten task.log = [] := by
  obtain ⟨before, hbefore, hstate, haccess, hlog⟩ := call_self hstep htask
  have hnowrite : ∀ bytes count kept, e ≠ .fwrite bytes count kept := by
    rintro bytes count kept rfl
    obtain ⟨g, f, -, hf, -, hgmode, hhanded, -⟩ := access_write haccess
    exact hfile f hf (hhanded.mode.trans hgmode)
  rw [hlog, payloadsWritten_snoc, payloadsWritten_of_not_fwrite hnowrite, List.append_nil]
  refine h.silent i before hbefore ?_
  intro g hg hgmode
  have hok := h.upload i before g hbefore hg hgmode
  obtain ⟨f, hf, -, -, hmode⟩ :=
    access_keeps (TaskState.upload_step hok.uploads hstate).opens haccess hg
  exact hfile f hf (hmode.trans hgmode)

/-- Every orderly step keeps the uploads in order. -/
theorem sound_step {m : ServerMove} (h : Sound base resolve w) (hC : Orderly resolve w m)
    (hstep : serverStep host resolve w m = some w') : Sound base resolve w' := by
  cases m with
  | spawn op =>
      obtain ⟨hstorage, htasks⟩ := spawn_eq hstep
      -- a task just created has no file, so every stream was there before
      have hbefore : ∀ {j : Nat} {task : Task ν} {f : OpenFile ν}, w'.tasks[j]? = some task →
          task.file = some f → w.tasks[j]? = some task := by
        intro j task f htask hf
        rcases spawn_task hstep htask with hbefore | rfl
        · exact hbefore
        · cases hf
      exact
        { base_le := by rw [hstorage]; exact h.base_le
          upload := by
            intro j task f htask hf hmode
            rw [hstorage]
            exact h.upload j task f (hbefore htask hf) hf hmode
          apart := by
            intro j k task other f g htask hother hf hg hfmode hgmode hnumber
            exact h.apart j k task other f g (hbefore htask hf) (hbefore hother hg) hf hg hfmode
              hgmode hnumber
          hasFile := by
            intro j task htask hcreated
            rcases spawn_task hstep htask with hbefore | rfl
            · exact h.hasFile j task hbefore hcreated
            · exact hcreated.elim
          silent := by
            intro j task htask hfile
            rcases spawn_task hstep htask with hbefore | rfl
            · exact h.silent j task hbefore hfile
            · rfl }
  | call i e =>
      have hfresh : w.storage.fresh ≤ w'.storage.fresh := by
        obtain ⟨task, state, file, -, -, haccess, -⟩ := call_eq hstep
        exact access_fresh_le haccess
      refine
        { base_le := le_trans h.base_le hfresh
          upload := ?_
          apart := ?_
          hasFile := ?_
          silent := ?_ }
      · intro j task f htask hf hmode
        by_cases hne : j = i
        · subst hne
          exact (h.own_kept hC hstep htask hf hmode).1
        · rw [call_other hstep hne] at htask
          exact h.others_kept hC hstep hne htask hf hmode
      · intro j k task other f g htask hother hf hg hfmode hgmode hnumber
        -- at most one of the two tasks has made the call
        by_cases hj : j = i
        · subst hj
          by_contra hne
          rw [call_other hstep (Ne.symm hne)] at hother
          exact h.own_apart hC hstep htask hf hfmode (Ne.symm hne) hother hg hgmode hnumber
        · rw [call_other hstep hj] at htask
          by_cases hk : k = i
          · subst hk
            exact absurd hnumber.symm
              (h.own_apart hC hstep hother hg hgmode hj htask hf hfmode)
          · rw [call_other hstep hk] at hother
            exact h.apart j k task other f g htask hother hf hg hfmode hgmode hnumber
      · intro j task htask hcreated
        by_cases hne : j = i
        · subst hne
          exact h.own_hasFile hstep htask hcreated
        · rw [call_other hstep hne] at htask
          exact h.hasFile j task htask hcreated
      · intro j task htask hfile
        by_cases hne : j = i
        · subst hne
          exact h.own_silent hstep htask hfile
        · rw [call_other hstep hne] at htask
          exact h.silent j task htask hfile

theorem sound_run {start : Storage ν} {tr : List ServerMove}
    (h : Run (serverStep host resolve) (ServerState.start start) tr w)
    (hC : EveryStep (serverStep host resolve) (Orderly resolve) (ServerState.start start) tr) :
    Sound start.fresh resolve w :=
  h.invariant_of_everyStep (fun _ _ _ hI hcond hs => sound_step hI hcond hs) hC
    (sound_start resolve start)

/-- No call takes the name of a file received whole away, unless it is a deletion. -/
theorem Sound.entry_kept (h : Sound base resolve w) (hC : Orderly resolve w (.call j e))
    (hspares : Spares resolve i w (.call j e))
    (hstep : serverStep host resolve w (.call j e) = some w') (hupload : HasUpload w i task f)
    (hresult : task.state.result = some true)
    (hentry : w.storage.entry f.name = some f.number) :
    w'.storage.entry f.name = some f.number := by
  obtain ⟨htask, hf, hmode⟩ := hupload
  obtain ⟨other, state, file, hother, hstate, haccess, -⟩ := call_eq hstep
  rcases changesFiles_cases e with hquiet | ⟨path, rfl⟩ | ⟨bytes, hhands⟩ | ⟨path, rfl⟩
  · rw [(access_quiet hquiet haccess).1]
    exact hentry
  · rw [(access_create hC haccess).1, FileStore.add_entry_of_ne]
    · exact hentry
    · intro heq
      rw [heq, hC] at hentry
      cases hentry
  · rw [access_hands_entry hhands haccess]
    exact hentry
  · rw [(access_remove haccess).1, FileStore.remove_entry_of_ne]
    · exact hentry
    · -- removed by the task that did not receive it whole, or by a deletion
      obtain ⟨op, rfl, hremoving | hdeleting⟩ := TaskState.removes_file hstate
      · obtain ⟨g, ⟨-, hg, hgmode⟩, hown, -, honly⟩ := h.removesOwn j other op hother hremoving
        intro heq
        rw [← heq, hentry] at hown
        obtain rfl := honly i task f ⟨htask, hf, hmode⟩ (Option.some.inj hown)
        obtain rfl := Option.some.inj (htask.symm.trans hother)
        rw [hremoving] at hresult
        cases hresult
      · refine hspares ?_ task htask f hf
        simp [hother, hdeleting, TaskState.isDeleting]

/-- A file received whole stays under its name. -/
theorem Sound.found_step {m : ServerMove} (h : Sound base resolve w)
    (hC : Orderly resolve w m) (hspares : Spares resolve i w m)
    (hstep : serverStep host resolve w m = some w') (hfound : Found w i) : Found w' i := by
  obtain ⟨task, f, ⟨htask, hf, hmode⟩, hresult, hentry⟩ := hfound
  cases m with
  | spawn op =>
      obtain ⟨hstorage, htasks⟩ := spawn_eq hstep
      refine ⟨task, f, ⟨?_, hf, hmode⟩, hresult, by rw [hstorage]; exact hentry⟩
      rw [htasks, List.getElem?_append_left (List.getElem?_eq_some_iff.mp htask).1]
      exact htask
  | call j e =>
      have hentry' := h.entry_kept hC hspares hstep ⟨htask, hf, hmode⟩ hresult hentry
      by_cases hne : i = j
      · subst hne
        obtain ⟨before, state, file, hbefore, hstate, haccess, htasks⟩ := call_eq hstep
        obtain rfl := Option.some.inj (htask.symm.trans hbefore)
        obtain ⟨hresult', he⟩ := TaskState.result_step hresult hstate
        have hopens : ∀ path mode error, e ≠ .fopen path mode error := by
          rintro path mode error rfl
          simp at he
        obtain ⟨g, hg, hname, hnumber, hgmode⟩ := access_keeps hopens haccess hf
        refine ⟨{ state := state, file := file, log := task.log ++ [e] }, g,
          ⟨?_, hg, hgmode.trans hmode⟩, hresult', by rw [hname, hnumber]; exact hentry'⟩
        rw [htasks, List.getElem?_set_self (List.getElem?_eq_some_iff.mp htask).1]
      · exact ⟨task, f, ⟨(call_other hstep hne).trans htask, hf, hmode⟩, hresult, hentry'⟩

/-- A stream for writing that a call has not opened was there before. -/
theorem stream_of_kept {file file' : Option (OpenFile ν)} {storage' : Storage ν}
    (hopens : ∀ path, e ≠ .fopen path .write none)
    (haccess : accessFiles resolve storage file e = some (storage', file'))
    (hf : file' = some f) (hmode : f.mode = .write) : ∃ g, file = some g ∧ g.mode = .write := by
  rcases changesFiles_cases e with hquiet | ⟨path, rfl⟩ | ⟨bytes, hhands⟩ | ⟨path, rfl⟩
  · obtain ⟨-, hcontinues⟩ := access_quiet hquiet haccess
    obtain ⟨g, hg, hgf⟩ := hcontinues f hf hmode
    exact ⟨g, hg, hgf.mode.symm.trans hmode⟩
  · exact absurd rfl (hopens path)
  · obtain ⟨g, f', hg, hf', -, ⟨hgmode, -, rfl⟩ | ⟨hgmode, -⟩⟩ := access_hands hhands haccess
    · obtain rfl := Option.some.inj (hf.symm.trans hf')
      exact ⟨g, hg, hmode⟩
    · exact ⟨g, hg, hgmode⟩
  · obtain ⟨-, hsame⟩ := access_remove haccess
    exact ⟨f, hsame.symm.trans hf, hmode⟩

/-- When `tftp_receive_file` returns `true`, the file is there. -/
theorem Sound.found_of_received {m : ServerMove} (h : Sound base resolve w)
    (hC : Orderly resolve w m) (hstep : serverStep host resolve w m = some w')
    (hbefore : ¬ ReceivedWhole w i) (hafter : ReceivedWhole w' i) : Found w' i := by
  obtain ⟨task, f, ⟨htask, hf, hmode⟩, hresult⟩ := hafter
  refine ⟨task, f, ⟨htask, hf, hmode⟩, hresult, ?_⟩
  cases m with
  | spawn op =>
      rcases spawn_task hstep htask with hold | rfl
      · exact absurd ⟨task, f, ⟨hold, hf, hmode⟩, hresult⟩ hbefore
      · cases hf
  | call j e =>
      by_cases hne : i = j
      · subst hne
        obtain ⟨before, hold, hstate, haccess, -⟩ := call_self hstep htask
        have hopens : ∀ path, e ≠ .fopen path .write none := by
          rintro path rfl
          rw [(TaskState.creates_file hstate).2.2] at hresult
          cases hresult
        obtain ⟨g, hg, hgmode⟩ := stream_of_kept hopens haccess hf hmode
        have hok := h.upload i before g hold hg hgmode
        have hup := TaskState.upload_step hok.uploads hstate
        -- the task was still in its upload, since the file was not whole before
        have hin : before.state.inUpload = true := by
          rcases hup.result hresult with htrue | hin
          · exact absurd ⟨before, g, ⟨hold, hg, hgmode⟩, htrue⟩ hbefore
          · exact hin
        obtain ⟨f', hf', hname, hnumber, -⟩ := access_keeps hup.opens haccess hg
        obtain rfl := Option.some.inj (hf.symm.trans hf')
        -- the call that returns changes no name
        have hentry : w'.storage.entry = w.storage.entry := by
          rcases changesFiles_cases e with hquiet | ⟨path, rfl⟩ | ⟨bytes, hhands⟩ | ⟨path, rfl⟩
          · rw [(access_quiet hquiet haccess).1]
          · exact absurd rfl (hup.opens path .write none)
          · exact access_hands_entry hhands haccess
          · exact absurd hresult (hup.removes path none rfl).2.2
        rw [hentry, hname, hnumber]
        exact hok.present hin
      · rw [call_other hstep hne] at htask
        exact absurd ⟨task, f, ⟨htask, hf, hmode⟩, hresult⟩ hbefore

theorem Sound.found_run {tr : List ServerMove} (h : Sound base resolve w)
    (hrun : Run (serverStep host resolve) w tr w')
    (hC : EveryStep (serverStep host resolve) (Orderly resolve) w tr)
    (hspares : EveryStep (serverStep host resolve) (Spares resolve i) w tr)
    (hfound : Found w i) : Sound base resolve w' ∧ Found w' i := by
  induction hrun with
  | nil => exact ⟨h, hfound⟩
  | snoc hrun hs ih =>
      obtain ⟨hsound, hfound⟩ := ih hC.of_snoc hspares.of_snoc
      exact ⟨sound_step hsound (hC.last hrun) hs,
        hsound.found_step (hC.last hrun) (hspares.last hrun) hs hfound⟩

/-! ### What the stream still holds -/

section LastBlock

variable {b : BlockSize} {s s' : ReceiveState b} {t t' : TaskState}

theorem ReceiveState.not_tookLast_fail (reply : ErrorReply) : ¬ (s.fail reply).TookLast := by
  rcases s.fail_point reply with h | h <;> simp [TookLast, h]

theorem ReceiveState.not_tookLast_missed : ¬ s.missed.TookLast := by
  unfold missed
  split
  · simp [TookLast]
  · exact not_tookLast_fail _

theorem ReceiveState.not_tookLast_onPacket (hpoint : s.point = .awaiting) (result : RecvResult) :
    ¬ (s.onPacket host result).TookLast := by
  cases result with
  | failed errno => exact not_tookLast_missed
  | datagram source bytes =>
      simp only [onPacket]
      split
      · split
        · simp [TookLast]
        · split
          · simp only [accept]
            split <;> simp [TookLast]
          · simp [TookLast, hpoint]
      · exact not_tookLast_missed

/-- The last block is taken by `fwrite`, and then acknowledged. -/
theorem ReceiveState.tookLast_step (h : tftpReceiveFile host s e = some s') (htook : s'.TookLast) :
    s.TookLast ∧ e.changesFiles = false ∨
      s.tx.bytesReceived ≠ dataPacketMaxSize b ∧
        ∃ bytes count kept, e = .fwrite bytes count kept := by
  cases hpoint : s.point with
  | entry =>
      obtain ⟨set, -, rfl⟩ := receive_entry hpoint h
      cases set with
      | true => exact absurd htook (not_tookLast_fail _)
      | false => simp [TookLast, begin] at htook
  | nextBlock =>
      obtain ⟨set, -, rfl⟩ := receive_nextBlock hpoint h
      cases set with
      | true => exact absurd htook (not_tookLast_fail _)
      | false => simp [TookLast] at htook
  | awaiting =>
      obtain ⟨result, -, rfl⟩ := receive_awaiting hpoint h
      exact absurd htook (not_tookLast_onPacket hpoint result)
  | writing payload =>
      obtain ⟨count, kept, rfl, -, rfl⟩ := receive_writing hpoint h
      refine Or.inr ⟨?_, payload, count, kept, rfl⟩
      unfold onWritten at htook
      split at htook
      · exact absurd htook (not_tookLast_fail _)
      · simpa [TookLast] using htook
  | acknowledging =>
      obtain ⟨ok, rfl, rfl⟩ := receive_acknowledging hpoint h
      refine Or.inl ⟨Or.inl ⟨hpoint, ?_⟩, rfl⟩
      -- behind a full block the function goes on
      intro hfull
      simp [TookLast, onAcknowledged, outerTest, hfull] at htook
  | failing reply =>
      obtain ⟨ok, -, rfl⟩ := receive_failing hpoint h
      simp [TookLast] at htook
  | returned exit =>
      rw [receive_returned hpoint] at h
      cases h
  | fault =>
      rw [receive_fault hpoint] at h
      cases h

theorem TaskState.tookLast_afterReceive (h : (afterReceive s).TookLast) : s.TookLast := by
  unfold afterReceive at h
  split at h
  · rename_i exit hpoint
    cases exit with
    | success => exact Or.inr hpoint
    | failure => cases h
    | peerError => cases h
  · cases h
  · exact h

theorem TaskState.not_tookLast_afterFill {s : FillState} : ¬ (afterFill s).TookLast := by
  unfold afterFill
  split
  · split <;> simp [TookLast, result]
  · split
    · unfold freeTransferData
      split
      · simp [TookLast, result]
      · unfold freeOperationData
        split <;> simp [TookLast, result]
    · simp [TookLast, result]
  · simp [TookLast, result]

/-- A task that has just created its file has taken nothing. -/
theorem TaskState.not_tookLast_of_creates {path : List UInt8} {error : Option Errno}
    (hstep : serverTaskStart host t (.fopen path .write error) = some t') : ¬ t'.TookLast := by
  cases task_called hstep with
  | filling s s' hs => exact not_tookLast_afterFill
  | receiving b s s' hs =>
      rw [receive_fopen] at hs
      cases hs
  | transmitting b s s' hs =>
      rw [transmit_fopen] at hs
      cases hs
  | deleting point op hdelete => cases delete_called hdelete

theorem TaskState.tookLast_of_result (h : t.result = some true) : t.TookLast := by
  cases t with
  | receiving b s => cases h
  | _ => exact h

/-- A task that has taken the last block of its upload had done so before, or is writing it. -/
theorem TaskState.tookLast_step (huploads : t.Uploads)
    (hstep : serverTaskStart host t e = some t') (htook : t'.TookLast) :
    t.TookLast ∧ (e.changesFiles = false ∨ ∃ lost, e = .fclose lost) ∨
      t.hasLastBlock = true ∧ ∃ bytes count kept, e = .fwrite bytes count kept := by
  have hfree : ∀ {op result}, (freeOperationData op result).TookLast → result = some true := by
    intro op result h
    unfold freeOperationData at h
    split at h <;> exact h
  cases task_called hstep with
  | starting op _ => exact huploads.elim
  | allocating op _ => exact huploads.elim
  | transmitting b s s' hs => exact huploads.elim
  | deleting point op hdelete => exact huploads.elim
  | filling s s' hs => exact absurd htook not_tookLast_afterFill
  | acknowledging b op tx ok =>
      cases ok with
      | true => simp [onAcknowledged, TookLast, ReceiveState.TookLast, ReceiveState.start] at htook
      | false => cases htook
  | receiving b s s' hs =>
      rcases ReceiveState.tookLast_step hs (tookLast_afterReceive htook) with
        ⟨htook', hquiet⟩ | ⟨hshort, hwrite⟩
      · exact Or.inl ⟨htook', Or.inl hquiet⟩
      · exact Or.inr ⟨by simpa [hasLastBlock] using hshort, hwrite⟩
  | closingPartial op => cases htook
  | removingPartial op error => cases hfree htook
  | closingFile op result => exact Or.inl ⟨hfree htook, Or.inr ⟨_, rfl⟩⟩
  | closingSocket op result => exact Or.inl ⟨htook, Or.inl rfl⟩
  | releasing result => exact Or.inl ⟨htook, Or.inl rfl⟩

end LastBlock

/-- Once the last block has been taken, the buffer is empty. -/
def KeepsNothing (i : Nat) (w : ServerState ν) : Prop :=
  ∀ task f, HasUpload w i task f → task.state.TookLast → f.buffer = []

theorem keepsNothing_step {m : ServerMove} (hsound : Sound base resolve w)
    (h : KeepsNothing i w) (hC : WritesOut i w m)
    (hstep : serverStep host resolve w m = some w') : KeepsNothing i w' := by
  rintro task f ⟨htask, hf, hmode⟩ htook
  cases m with
  | spawn op =>
      rcases spawn_task hstep htask with hold | rfl
      · exact h task f ⟨hold, hf, hmode⟩ htook
      · cases hf
  | call j e =>
      by_cases hne : i = j
      · subst hne
        obtain ⟨before, hbefore, hstate, haccess, -⟩ := call_self hstep htask
        have hopens : ∀ path, e ≠ .fopen path .write none := by
          rintro path rfl
          exact TaskState.not_tookLast_of_creates hstate htook
        obtain ⟨g, hg, hgmode⟩ := stream_of_kept hopens haccess hf hmode
        have hbuffer := h before g ⟨hbefore, hg, hgmode⟩
        have huploads := (hsound.upload i before g hbefore hg hgmode).uploads
        rcases TaskState.tookLast_step huploads hstate htook with
          ⟨htook', hquiet | ⟨lost, rfl⟩⟩ | ⟨hlast, bytes, count, kept, rfl⟩
        · obtain ⟨-, hcontinues⟩ := access_quiet hquiet haccess
          obtain ⟨g', hg', hgf⟩ := hcontinues f hf hmode
          obtain rfl := Option.some.inj (hg'.symm.trans hg)
          rw [hgf.buffer]
          exact hbuffer htook'
        · obtain ⟨g', f', hg', hf', -, -, ⟨hread, -⟩ | ⟨-, hhanded, -⟩⟩ := access_close haccess
          · obtain rfl := Option.some.inj (hg'.symm.trans hg)
            rw [hread] at hgmode
            cases hgmode
          · obtain rfl := Option.some.inj (hg'.symm.trans hg)
            obtain rfl := Option.some.inj (hf'.symm.trans hf)
            exact (hhanded.nothing (hbuffer htook')).2
        · obtain ⟨-, f', -, hf', -, -, -, -, hempty⟩ := access_write haccess
          obtain rfl := Option.some.inj (hf'.symm.trans hf)
          exact hempty (hC rfl (by simpa [hbefore] using hlast))
      · rw [call_other hstep hne] at htask
        exact h task f ⟨htask, hf, hmode⟩ htook

theorem keepsNothing_run {start : Storage ν} {tr : List ServerMove}
    (h : Run (serverStep host resolve) (ServerState.start start) tr w)
    (hC : EveryStep (serverStep host resolve) (Orderly resolve) (ServerState.start start) tr)
    (hwrites : EveryStep (serverStep host resolve) (WritesOut i) (ServerState.start start) tr) :
    KeepsNothing i w := by
  induction h with
  | nil =>
      rintro task f ⟨htask, -⟩
      cases htask
  | snoc h hs ih =>
      exact keepsNothing_step (sound_run h hC.of_snoc) (ih hC.of_snoc hwrites.of_snoc)
        (hwrites.last h) hs

/-- In a run whose steps are all orderly, the files of two uploads are never the same,
a task removes no file but the one it created, and a file received whole is found under its
name until a deletion of that name succeeds.  It has all its contents once the stream has
written them out: at any time after the receipt, if nothing of the last block stayed in the
buffer of the stream. -/
theorem store_integrity (host : Host) (resolve : List UInt8 → ν) (storage : Storage ν)
    {tr : List ServerMove} (h : Run (serverStep host resolve) (ServerState.start storage) tr w)
    (hC : EveryStep (serverStep host resolve) (Orderly resolve) (ServerState.start storage) tr) :
    WritersApart w ∧ RemovesOwn storage.fresh resolve w ∧
      ∀ i tr₁ m tr₂ w₁ w₂, tr = tr₁ ++ m :: tr₂ →
        Run (serverStep host resolve) (ServerState.start storage) tr₁ w₁ →
        serverStep host resolve w₁ m = some w₂ → ¬ ReceivedWhole w₁ i → ReceivedWhole w₂ i →
        EveryStep (serverStep host resolve) (Spares resolve i) w₂ tr₂ →
        Found w i ∧ (InStorage w i ↔ WrittenOut w i) ∧
          (EveryStep (serverStep host resolve) (WritesOut i) (ServerState.start storage) tr →
            InStorage w i) := by
  have hsound := sound_run h hC
  refine ⟨?_, hsound.removesOwn, ?_⟩
  · rintro i j task other f g ⟨htask, hf, hmode⟩ ⟨hother, hg, hgmode⟩ - - hnumber
    exact hsound.apart i j task other f g htask hother hf hg hmode hgmode hnumber
  · rintro i tr₁ m tr₂ w₁ w₂ rfl h₁ hm hbefore hafter hspares
    obtain ⟨w₃, w₄, h₃, hm', h₄⟩ := h.step_at
    obtain rfl := h₃.deterministic h₁
    obtain rfl := Option.some.inj (hm'.symm.trans hm)
    have hsound₁ := sound_run h₁ hC.of_append
    have hcond : EveryStep (serverStep host resolve) (Orderly resolve) w₃ (m :: tr₂) :=
      hC.suffix h₁
    have hsound₂ := sound_step hsound₁ hcond.1 hm
    have hfound := hsound₁.found_of_received hcond.1 hm hbefore hafter
    obtain ⟨hfinal, hfound'⟩ := hsound₂.found_run h₄ (hcond.2 _ hm) hspares hfound
    have hiff := hfinal.inStorage_iff hfound'
    refine ⟨hfound', hiff, ?_⟩
    intro hwrites
    obtain ⟨task, f, hupload, hresult, -⟩ := hfound'
    refine hiff.mpr ⟨task, f, hupload, keepsNothing_run h hC hwrites task f hupload ?_⟩
    exact TaskState.tookLast_of_result hresult

end Integrity

section FixedRuns

/-- An upload of `storage/a` from a client's port. -/
def uploadOperation (fd : Int) (port : UInt16) : OperationData :=
  { sampleOperation with
    operationId := .receive
    dataSocket := fd
    peerAddress := localhost port }

/-- A task finds that there is no such file yet. -/
def checkMoves (i : Nat) : List ServerMove :=
  [.call i (.poll false), .call i (.malloc sizeofTransferData (some [])),
    .call i (.fopen (ascii "storage/a") .read (some (.other 2)))]

/-- It creates the file and answers the request. -/
def createMoves (i : Nat) (port : UInt16) : List ServerMove :=
  [.call i (.fopen (ascii "storage/a") .write none),
    .call i (.malloc 12 (some (List.replicate 12 0))),
    .call i (.malloc 36 (some (List.replicate 36 0))),
    .call i (.sendto (localhost port) (ackPacket 0) true),
    .call i (.poll false), .call i (.poll false)]

/-- It receives a block and writes it. -/
def blockMoves (i : Nat) (port : UInt16) (payload : List UInt8) : List ServerMove :=
  [.call i (.recvfrom 12 (.datagram (localhost port) (dataPacket 1 payload))),
    .call i (.fwrite payload payload.length 0)]

/-- One upload by itself, up to the ACK of its last block. -/
def loneUpload : List ServerMove :=
  [.spawn (uploadOperation 4 50001)] ++ checkMoves 0 ++ createMoves 0 50001 ++
    blockMoves 0 50001 (ascii "abc")

/-- That ACK, and what is left of the task. -/
def loneAck : ServerMove :=
  .call 0 (.sendto (localhost 50001) (ackPacket 1) true)

def loneEnd : List ServerMove :=
  [.call 0 (.fclose 0), .call 0 (.close 4), .call 0 .release]

instance {ν : Type} (resolve : List UInt8 → ν) [DecidableEq ν] (w : ServerState ν)
    (m : ServerMove) : Decidable (Orderly resolve w m) := by
  unfold Orderly
  split <;> infer_instance

instance {ν : Type} (i : Nat) (w : ServerState ν) (m : ServerMove) :
    Decidable (WritesOut i w m) := by
  unfold WritesOut
  split <;> infer_instance

instance {ν : Type} (resolve : List UInt8 → ν) [DecidableEq ν] (i : Nat) (w : ServerState ν)
    (m : ServerMove) : Decidable (Spares resolve i w m) := by
  unfold Spares
  split <;> infer_instance

theorem exists_hasUpload_iff {ν : Type} {w : ServerState ν} {i : Nat}
    {P : Task ν → OpenFile ν → Prop} [∀ task f, Decidable (P task f)] :
    (∃ task f, HasUpload w i task f ∧ P task f) ↔
      ((w.tasks[i]?).any fun task =>
        task.file.any fun f => decide (f.mode = .write ∧ P task f)) = true := by
  simp only [HasUpload, Option.any_eq_true, decide_eq_true_eq]
  constructor
  · rintro ⟨task, f, ⟨htask, hf, hmode⟩, hP⟩
    exact ⟨task, htask, f, hf, hmode, hP⟩
  · rintro ⟨task, htask, f, hf, hmode, hP⟩
    exact ⟨task, f, ⟨htask, hf, hmode⟩, hP⟩

instance {ν : Type} (w : ServerState ν) (i : Nat) : Decidable (ReceivedWhole w i) :=
  decidable_of_iff _ exists_hasUpload_iff.symm

instance {ν : Type} [DecidableEq ν] (w : ServerState ν) (i : Nat) : Decidable (InStorage w i) :=
  decidable_of_iff _ exists_hasUpload_iff.symm

set_option maxRecDepth 4000 in
/-- A single upload is in storage when its task has ended. -/
theorem store_integrity_alone :
    ∃ w, Run (serverStep littleHost id) (ServerState.start emptyStorage)
        (loneUpload ++ loneAck :: loneEnd) w ∧ InStorage w 0 := by
  have hbefore : ∃ w₁, Run (serverStep littleHost id) (ServerState.start emptyStorage)
      loneUpload w₁ ∧ ¬ ReceivedWhole w₁ 0 := exists_run_of_exec (by decide)
  have hafter : ∃ w₂, Run (serverStep littleHost id) (ServerState.start emptyStorage)
      (loneUpload ++ [loneAck]) w₂ ∧ ReceivedWhole w₂ 0 := exists_run_of_exec (by decide)
  have hend : ∃ w, Run (serverStep littleHost id) (ServerState.start emptyStorage)
      (loneUpload ++ loneAck :: loneEnd) w ∧ True := exists_run_of_exec (by decide)
  obtain ⟨w₁, h₁, hnot⟩ := hbefore
  obtain ⟨w₂, h₂, hreceived⟩ := hafter
  obtain ⟨w, h, -⟩ := hend
  obtain ⟨w₁', h₁', hack⟩ := h₂.of_snoc
  obtain rfl := h₁'.deterministic h₁
  refine ⟨w, h, ?_⟩
  have hspares : EveryStep (serverStep littleHost id) (Spares id 0) w₂ loneEnd :=
    ⟨trivial, fun _ _ => ⟨trivial, fun _ _ => ⟨trivial, fun _ _ => trivial⟩⟩⟩
  obtain ⟨-, -, hstored⟩ :=
    (store_integrity littleHost id emptyStorage h (by decide)).2.2 0 loneUpload loneAck loneEnd
      w₁' w₂ rfl h₁ hack hnot hreceived hspares
  exact hstored (by decide)

/-- Two uploads of one name, each past its check before the other creates the file: the
first is received whole while the second still writes. -/
def twoUploads : List ServerMove :=
  [.spawn (uploadOperation 4 50001), .spawn (uploadOperation 5 50002)] ++
    checkMoves 0 ++ checkMoves 1 ++ createMoves 0 50001 ++ createMoves 1 50002 ++
    blockMoves 0 50001 (ascii "abc") ++ [loneAck] ++ blockMoves 1 50002 (ascii "xyz")

/-- One upload by itself, of which nothing comes out of the buffer. -/
def lostUpload : List ServerMove :=
  [.spawn (uploadOperation 4 50001)] ++ checkMoves 0 ++ createMoves 0 50001 ++
    [.call 0 (.recvfrom 12 (.datagram (localhost 50001) (dataPacket 1 (ascii "abc")))),
      .call 0 (.fwrite (ascii "abc") 3 3), loneAck, .call 0 (.fclose 3)]

set_option maxRecDepth 4000 in
/-- Both tasks have the one file open for writing, and the upload received whole is not
in storage; nor is an upload by itself whose `fclose` fails. -/
theorem uploads_collide :
    (∃ w, Run (serverStep littleHost id) (ServerState.start emptyStorage) twoUploads w ∧
      ¬ WritersApart w ∧ ReceivedWhole w 0 ∧ ¬ InStorage w 0) ∧
    ∃ w, Run (serverStep littleHost id) (ServerState.start emptyStorage) lostUpload w ∧
      ReceivedWhole w 0 ∧ ¬ InStorage w 0 := by
  have hrun : ∃ w, Run (serverStep littleHost id) (ServerState.start emptyStorage) twoUploads w ∧
      (((w.tasks[0]?).any fun task => task.file.any fun f =>
          decide (f.mode = .write ∧ f.isOpen = true ∧ f.number = 0)) = true ∧
        ((w.tasks[1]?).any fun task => task.file.any fun f =>
          decide (f.mode = .write ∧ f.isOpen = true ∧ f.number = 0)) = true) ∧
      ReceivedWhole w 0 ∧ ¬ InStorage w 0 := exists_run_of_exec (by decide)
  have hlost : ∃ w, Run (serverStep littleHost id) (ServerState.start emptyStorage) lostUpload w ∧
      ReceivedWhole w 0 ∧ ¬ InStorage w 0 := exists_run_of_exec (by decide)
  obtain ⟨w, h, ⟨hfirst, hsecond⟩, hreceived, hstorage⟩ := hrun
  refine ⟨⟨w, h, ?_, hreceived, hstorage⟩, hlost⟩
  obtain ⟨task, f, hf, hfopen, hfnumber⟩ :=
    exists_hasUpload_iff (P := fun _ f => f.isOpen = true ∧ f.number = 0).mpr hfirst
  obtain ⟨other, g, hg, hgopen, hgnumber⟩ :=
    exists_hasUpload_iff (P := fun _ g => g.isOpen = true ∧ g.number = 0).mpr hsecond
  intro hapart
  exact absurd (hapart 0 1 task other f g hf hg hfopen hgopen (hfnumber.trans hgnumber.symm))
    (by decide)

end FixedRuns

end Stftpu
