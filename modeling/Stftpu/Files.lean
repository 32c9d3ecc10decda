import Stftpu.Common
import Stftpu.Library.FileStore

/-!
# What the file system answers

The functions name their files by paths and use them through `FILE *`.  `accessFiles`
restricts their events to those a store of files allows and says what they do to it.

What `fwrite` takes goes through the buffer of the stream: how much of it comes into the file
with the call, and how much only with a later one or with `fclose`, is the library's affair,
and what is still in the buffer when `fclose` fails is lost.

* `accessFiles` — a call on files.
* `HandsOver` — what a stream's buffer hands over to the file.
* `alone` — a function that has the files to itself.
-/

namespace Stftpu

open Library

/-- The stored files, under names of any kind. -/
abbrev Storage (ν : Type) := FileStore ν UInt8

/-- The position of a file behind an event.  `fread` gives what is left of the file,
up to the size asked for, and comes to its end when that is less; or it stops before that
with an error, behind some of these bytes or none. -/
def filePosition (file : List UInt8) (pos : Nat) : Event → Option Nat
  | .fread size bytes eof =>
      if bytes = (file.drop pos).take size ∧ eof = decide (bytes.length < size) then
        some (pos + bytes.length)
      else if bytes <+: (file.drop pos).take size ∧ bytes.length < size ∧ eof = false then
        some (pos + bytes.length)
      else
        none
  | _ => some pos

/-- `fread` does not stop with an error behind some of the bytes it was asked for. -/
def Event.ReadsWhole : Event → Prop
  | .fread size bytes eof => eof = false → bytes = [] ∨ bytes.length = size
  | _ => True

instance : DecidablePred Event.ReadsWhole
  | .fread size bytes eof =>
      inferInstanceAs (Decidable (eof = false → bytes = [] ∨ bytes.length = size))
  | .poll _ | .malloc _ _ | .fopen _ _ _ | .stat _ _ | .fwrite _ _ _ | .fclose _ | .remove _ _
  | .sendto _ _ _ | .recvfrom _ _ | .close _ | .dataSocket _ | .acquire _ | .create _
  | .release => isTrue trivial

/-- An end of file is no such stop. -/
theorem Event.readsWhole_of_eof {size : Nat} {bytes : List UInt8} (h : bytes.length ≤ size) :
    (Event.fread size bytes (decide (bytes.length < size))).ReadsWhole := by
  intro heof
  exact Or.inr (Nat.le_antisymm h (Nat.le_of_not_lt (of_decide_eq_false heof)))

/-- A `FILE *`: the file behind it, the position in it, and what `fwrite` has taken and the
file does not hold.  The record stays when the stream is closed, with what was lost still in
its buffer. -/
structure OpenFile (ν : Type) where
  name : ν
  number : Nat
  mode : OpenMode
  position : Nat
  buffer : List UInt8
  isOpen : Bool
  deriving DecidableEq, Repr

/-- There is no stream for writing. -/
def ReadOnly {ν : Type} (file : Option (OpenFile ν)) : Prop :=
  ∀ f, file = some f → f.mode = .read

/-- The same stream, and nothing has gone through it. -/
structure OpenFile.Continues {ν : Type} (f f' : OpenFile ν) : Prop where
  name : f'.name = f.name
  number : f'.number = f.number
  mode : f'.mode = f.mode
  position : f'.position = f.position
  buffer : f'.buffer = f.buffer
  isOpen : f'.isOpen = f.isOpen

theorem OpenFile.Continues.refl {ν : Type} (f : OpenFile ν) : f.Continues f :=
  ⟨rfl, rfl, rfl, rfl, rfl, rfl⟩

/-- The stream hands its buffer over to the file, but for the last bytes in it. -/
def OpenFile.flush {ν : Type} (store : Storage ν) (f : OpenFile ν) (kept : Nat) :
    Storage ν × OpenFile ν :=
  let written := f.buffer.take (f.buffer.length - kept)
  (store.write 0 f.number f.position written,
    { f with
      position := f.position + written.length
      buffer := f.buffer.drop (f.buffer.length - kept) })

/-- More bytes are put into the buffer of a stream, and then the front of the buffer is put
into the file. -/
structure OpenFile.HandsOver {ν : Type} (store : Storage ν) (f : OpenFile ν) (bytes : List UInt8)
    (store' : Storage ν) (f' : OpenFile ν) : Prop where
  name : f'.name = f.name
  number : f'.number = f.number
  mode : f'.mode = f.mode
  written : ∃ written, f.buffer ++ bytes = written ++ f'.buffer ∧
    store' = store.write 0 f.number f.position written ∧
    f'.position = f.position + written.length

theorem OpenFile.handsOver_flush {ν : Type} (store : Storage ν) (f : OpenFile ν)
    (bytes : List UInt8) (kept : Nat) :
    f.HandsOver store bytes ({ f with buffer := f.buffer ++ bytes }.flush store kept).1
      ({ f with buffer := f.buffer ++ bytes }.flush store kept).2 where
  name := rfl
  number := rfl
  mode := rfl
  written := ⟨_, (List.take_append_drop _ _).symm, rfl, rfl⟩

namespace OpenFile.HandsOver

variable {ν : Type} {store store' : Storage ν} {f f' : OpenFile ν} {bytes : List UInt8}

theorem entry (h : f.HandsOver store bytes store' f') : store'.entry = store.entry := by
  obtain ⟨written, -, rfl, -⟩ := h.written
  rfl

theorem fresh (h : f.HandsOver store bytes store' f') : store'.fresh = store.fresh := by
  obtain ⟨written, -, rfl, -⟩ := h.written
  rfl

theorem contents_of_ne (h : f.HandsOver store bytes store' f') {n : Nat} (hne : n ≠ f.number) :
    store'.contents n = store.contents n := by
  obtain ⟨written, -, rfl, -⟩ := h.written
  exact store.write_contents_of_ne 0 _ _ _ hne

/-- At the end of the file nothing is put over what is there. -/
theorem contents_end (h : f.HandsOver store bytes store' f')
    (hposition : f.position = (store.contents f.number).length) :
    store'.contents f.number ++ f'.buffer = store.contents f.number ++ f.buffer ++ bytes ∧
      f'.position = (store'.contents f.number).length := by
  obtain ⟨written, hbuffer, rfl, hmoved⟩ := h.written
  rw [hposition, FileStore.write_contents_end, List.append_assoc, List.append_assoc, hbuffer,
    hmoved, hposition, List.length_append]
  exact ⟨rfl, rfl⟩

/-- Out of an empty buffer comes nothing. -/
theorem nothing (h : f.HandsOver store [] store' f') (hbuffer : f.buffer = []) :
    store' = store ∧ f'.buffer = [] := by
  obtain ⟨written, heq, rfl, -⟩ := h.written
  rw [hbuffer] at heq
  obtain ⟨rfl, hempty⟩ := List.append_eq_nil_iff.mp heq.symm
  exact ⟨FileStore.write_nil _ _ _ _, hempty⟩

end OpenFile.HandsOver

section Access

variable {ν : Type} [DecidableEq ν] (resolve : List UInt8 → ν)

/-- A system call on files, by a function with at most one stream.  A path is looked up
by `resolve`; a call may fail for reasons of its own, but `fopen` for reading, `remove` and
the use of a stream succeed only on a file that is there. -/
def accessFiles (store : Storage ν) (file : Option (OpenFile ν)) :
    Event → Option (Storage ν × Option (OpenFile ν))
  | .fopen path .read none =>
      (store.entry (resolve path)).map fun n =>
        (store, some
          { name := resolve path
            number := n
            mode := .read
            position := 0
            buffer := []
            isOpen := true })
  | .fopen path .write none =>
      let (created, n) := store.create (resolve path)
      some (created, some
        { name := resolve path
          number := n
          mode := .write
          position := 0
          buffer := []
          isOpen := true })
  | .fread size bytes eof =>
      match file with
      | some f =>
          if f.isOpen ∧ f.mode = .read then
            (filePosition (store.contents f.number) f.position (.fread size bytes eof)).map
              fun position => (store, some { f with position := position })
          else
            none
      | none => none
  | .fwrite bytes count kept =>
      match file with
      | some f =>
          if f.isOpen ∧ f.mode = .write then
            let (store, f) := { f with buffer := f.buffer ++ bytes.take count }.flush store kept
            some (store, some f)
          else
            none
      | none => none
  | .fclose lost =>
      match file with
      | some f =>
          if f.isOpen then
            match f.mode with
            | .read => some (store, some { f with isOpen := false })
            | .write =>
                let (store, f) := f.flush store lost
                some (store, some { f with isOpen := false })
          else
            none
      | none => none
  | .remove path none =>
      if (store.entry (resolve path)).isSome then
        some (store.remove (resolve path), file)
      else
        none
  | _ => some (store, file)

/-! ### What a call does to the storage and to the stream -/

/-- The calls that may change the storage when they succeed. -/
def Event.changesFiles : Event → Bool
  | .fopen _ .write none => true
  | .fwrite _ _ _ => true
  | .fclose _ => true
  | .remove _ none => true
  | _ => false

/-- The calls that open a file for writing or remove one when they succeed. -/
def Event.changesNames : Event → Bool
  | .fopen _ .write none => true
  | .remove _ none => true
  | _ => false

theorem changesNames_of_quiet {e : Event} (h : e.changesFiles = false) :
    e.changesNames = false := by
  cases e with
  | fopen path mode error => cases mode <;> cases error <;> first | rfl | cases h
  | remove path error =>
      cases error with
      | none => cases h
      | some errno => rfl
  | _ => rfl

/-- A call that has a stream hand over its buffer, and what it puts into the buffer before. -/
inductive Event.Hands : Event → List UInt8 → Prop
  | fwrite (bytes : List UInt8) (count kept : Nat) :
      Hands (.fwrite bytes count kept) (bytes.take count)
  | fclose (lost : Nat) : Hands (.fclose lost) []

theorem changesFiles_cases (e : Event) :
    e.changesFiles = false ∨ (∃ path, e = .fopen path .write none) ∨
      (∃ bytes, e.Hands bytes) ∨ ∃ path, e = .remove path none := by
  cases e with
  | fopen path mode error =>
      cases mode with
      | read => exact Or.inl rfl
      | write =>
          cases error with
          | none => exact Or.inr (Or.inl ⟨path, rfl⟩)
          | some errno => exact Or.inl rfl
  | fwrite bytes count kept => exact Or.inr (Or.inr (Or.inl ⟨_, .fwrite bytes count kept⟩))
  | fclose lost => exact Or.inr (Or.inr (Or.inl ⟨_, .fclose lost⟩))
  | remove path error =>
      cases error with
      | none => exact Or.inr (Or.inr (Or.inr ⟨path, rfl⟩))
      | some errno => exact Or.inl rfl
  | _ => exact Or.inl rfl

variable {resolve} {store store' : Storage ν} {file file' : Option (OpenFile ν)} {e : Event}

theorem access_created {path : List UInt8}
    (h : accessFiles resolve store file (.fopen path .write none) = some (store', file')) :
    store' = (store.create (resolve path)).1 ∧
      file' = some
        { name := resolve path
          number := (store.create (resolve path)).2
          mode := .write
          position := 0
          buffer := []
          isOpen := true } := by
  obtain ⟨rfl, rfl⟩ := Prod.mk.inj (Option.some.inj h)
  exact ⟨rfl, rfl⟩

/-- A name that is absent gets a new file. -/
theorem access_create {path : List UInt8} (habsent : store.entry (resolve path) = none)
    (h : accessFiles resolve store file (.fopen path .write none) = some (store', file')) :
    store' = store.add (resolve path) ∧
      file' = some
        { name := resolve path
          number := store.fresh
          mode := .write
          position := 0
          buffer := []
          isOpen := true } := by
  obtain ⟨rfl, rfl⟩ := access_created h
  rw [FileStore.create_of_none habsent]
  exact ⟨rfl, rfl⟩

/-- What is handed over comes from a stream for writing. -/
theorem access_write {bytes : List UInt8} {count kept : Nat}
    (h : accessFiles resolve store file (.fwrite bytes count kept) = some (store', file')) :
    ∃ f f', file = some f ∧ file' = some f' ∧ f.isOpen = true ∧ f.mode = .write ∧
      f.HandsOver store (bytes.take count) store' f' ∧ f'.isOpen = true ∧
      (kept = 0 → f'.buffer = []) := by
  cases file with
  | none => cases h
  | some f =>
      obtain ⟨hopen, heq⟩ := Option.ite_none_right_eq_some.mp h
      obtain ⟨rfl, rfl⟩ := Prod.mk.inj (Option.some.inj heq)
      refine ⟨f, _, rfl, rfl, hopen.1, hopen.2, f.handsOver_flush store _ kept, hopen.1, ?_⟩
      rintro rfl
      simp

/-- A stream for reading has nothing to hand over when it is closed, and one for writing has
handed over all that is not lost. -/
theorem access_close {lost : Nat}
    (h : accessFiles resolve store file (.fclose lost) = some (store', file')) :
    ∃ f f', file = some f ∧ file' = some f' ∧ f.isOpen = true ∧ f'.isOpen = false ∧
      (f.mode = .read ∧ store' = store ∧ f' = { f with isOpen := false } ∨
        f.mode = .write ∧ f.HandsOver store [] store' f' ∧ (lost = 0 → f'.buffer = [])) := by
  cases file with
  | none => cases h
  | some f =>
      obtain ⟨hopen, heq⟩ := Option.ite_none_right_eq_some.mp h
      split at heq
      · rename_i hmode
        obtain ⟨rfl, rfl⟩ := Prod.mk.inj (Option.some.inj heq)
        exact ⟨f, _, rfl, rfl, hopen, rfl, Or.inl ⟨hmode, rfl, rfl⟩⟩
      · rename_i hmode
        obtain ⟨rfl, rfl⟩ := Prod.mk.inj (Option.some.inj heq)
        have hflush := f.handsOver_flush store [] lost
        rw [List.append_nil] at hflush
        refine ⟨f, _, rfl, rfl, hopen, rfl, Or.inr ⟨hmode, ?_, ?_⟩⟩
        · exact ⟨hflush.name, hflush.number, hflush.mode, hflush.written⟩
        · rintro rfl
          simp

/-- An open stream can be closed. -/
theorem access_close_isSome {f : OpenFile ν} (hopen : f.isOpen = true) (lost : Nat) :
    (accessFiles resolve store (some f) (.fclose lost)).isSome = true := by
  simp only [accessFiles, hopen, if_true]
  split <;> rfl

/-- Either call leaves a stream behind that is the same but for what it has handed over. -/
theorem access_hands {bytes : List UInt8} (hhands : e.Hands bytes)
    (h : accessFiles resolve store file e = some (store', file')) :
    ∃ f f', file = some f ∧ file' = some f' ∧ f.isOpen = true ∧
      (f.mode = .read ∧ store' = store ∧ f' = { f with isOpen := false } ∨
        f.mode = .write ∧ f.HandsOver store bytes store' f') := by
  cases hhands with
  | fwrite bytes count kept =>
      obtain ⟨f, f', hf, hf', hopen, hmode, hhanded, -⟩ := access_write h
      exact ⟨f, f', hf, hf', hopen, Or.inr ⟨hmode, hhanded⟩⟩
  | fclose lost =>
      obtain ⟨f, f', hf, hf', hopen, -, hread | ⟨hmode, hhanded, -⟩⟩ := access_close h
      · exact ⟨f, f', hf, hf', hopen, Or.inl hread⟩
      · exact ⟨f, f', hf, hf', hopen, Or.inr ⟨hmode, hhanded⟩⟩

/-- Neither changes a name. -/
theorem access_hands_entry {bytes : List UInt8} (hhands : e.Hands bytes)
    (h : accessFiles resolve store file e = some (store', file')) :
    store'.entry = store.entry := by
  obtain ⟨f, f', -, -, -, ⟨-, rfl, -⟩ | ⟨-, hhanded⟩⟩ := access_hands hhands h
  · rfl
  · exact hhanded.entry

theorem access_remove {path : List UInt8}
    (h : accessFiles resolve store file (.remove path none) = some (store', file')) :
    store' = store.remove (resolve path) ∧ file' = file := by
  obtain ⟨-, heq⟩ := Option.ite_none_right_eq_some.mp h
  obtain ⟨rfl, rfl⟩ := Prod.mk.inj (Option.some.inj heq)
  exact ⟨rfl, rfl⟩

theorem access_read {size : Nat} {bytes : List UInt8} {eof : Bool}
    (h : accessFiles resolve store file (.fread size bytes eof) = some (store', file')) :
    ∃ f position, file = some f ∧ f.isOpen = true ∧ f.mode = .read ∧
      filePosition (store.contents f.number) f.position (.fread size bytes eof) =
        some position ∧
      store' = store ∧ file' = some { f with position := position } := by
  cases file with
  | none => cases h
  | some f =>
      obtain ⟨hopen, hread⟩ := Option.ite_none_right_eq_some.mp h
      obtain ⟨position, hposition, heq⟩ := Option.map_eq_some_iff.mp hread
      obtain ⟨rfl, rfl⟩ := Prod.mk.inj heq
      exact ⟨f, position, rfl, hopen.1, hopen.2, hposition, rfl, rfl⟩

theorem access_open {path : List UInt8}
    (h : accessFiles resolve store file (.fopen path .read none) = some (store', file')) :
    ∃ n, store.entry (resolve path) = some n ∧ store' = store ∧
      file' = some
        { name := resolve path
          number := n
          mode := .read
          position := 0
          buffer := []
          isOpen := true } := by
  obtain ⟨n, hn, heq⟩ := Option.map_eq_some_iff.mp h
  obtain ⟨rfl, rfl⟩ := Prod.mk.inj heq
  exact ⟨n, hn, rfl, rfl⟩

theorem access_fopen_failed {path : List UInt8} {mode : OpenMode} {errno : Errno} :
    accessFiles resolve store file (.fopen path mode (some errno)) = some (store, file) := by
  cases mode <;> rfl

/-- Every other call leaves the storage, and a stream for writing is one that was there. -/
theorem access_quiet (hquiet : e.changesFiles = false)
    (h : accessFiles resolve store file e = some (store', file')) :
    store' = store ∧
      ∀ f', file' = some f' → f'.mode = .write → ∃ f, file = some f ∧ f.Continues f' := by
  have hsame : ∀ {f'}, file = some f' → ∃ f, file = some f ∧ f.Continues f' :=
    fun hf => ⟨_, hf, OpenFile.Continues.refl _⟩
  cases e with
  | fopen path mode error =>
      cases error with
      | some errno =>
          rw [access_fopen_failed] at h
          obtain ⟨rfl, rfl⟩ := Prod.mk.inj (Option.some.inj h)
          exact ⟨rfl, fun f' hf _ => hsame hf⟩
      | none =>
          cases mode with
          | write => cases hquiet
          | read =>
              -- a stream opened for reading is not one for writing
              obtain ⟨n, -, rfl, rfl⟩ := access_open h
              refine ⟨rfl, ?_⟩
              intro f' hf hmode
              obtain rfl := Option.some.inj hf
              cases hmode
  | fread size bytes eof =>
      obtain ⟨f, position, rfl, -, hread, -, rfl, rfl⟩ := access_read h
      refine ⟨rfl, ?_⟩
      intro f' hf hmode
      obtain rfl := Option.some.inj hf
      rw [hread] at hmode
      cases hmode
  | fwrite bytes count kept => cases hquiet
  | fclose lost => cases hquiet
  | remove path error =>
      cases error with
      | none => cases hquiet
      | some errno =>
          obtain ⟨rfl, rfl⟩ := Prod.mk.inj (Option.some.inj h)
          exact ⟨rfl, fun f' hf _ => hsame hf⟩
  | _ =>
      obtain ⟨rfl, rfl⟩ := Prod.mk.inj (Option.some.inj h)
      exact ⟨rfl, fun f' hf _ => hsame hf⟩

/-- The stream stays, or it is one for reading. -/
theorem access_quiet_stream (hquiet : e.changesFiles = false)
    (h : accessFiles resolve store file e = some (store', file')) :
    file' = file ∨ ReadOnly file' := by
  cases e with
  | fopen path mode error =>
      cases error with
      | some errno =>
          rw [access_fopen_failed] at h
          exact Or.inl (Prod.mk.inj (Option.some.inj h)).2.symm
      | none =>
          cases mode with
          | write => cases hquiet
          | read =>
              obtain ⟨n, -, -, rfl⟩ := access_open h
              exact Or.inr fun f hf => Option.some.inj hf ▸ rfl
  | fread size bytes eof =>
      obtain ⟨f, position, -, -, hread, -, -, rfl⟩ := access_read h
      exact Or.inr fun f hf => Option.some.inj hf ▸ hread
  | fwrite bytes count kept => cases hquiet
  | fclose lost => cases hquiet
  | remove path error =>
      cases error with
      | none => cases hquiet
      | some errno => exact Or.inl (Prod.mk.inj (Option.some.inj h)).2.symm
  | _ => exact Or.inl (Prod.mk.inj (Option.some.inj h)).2.symm

/-- A function that has no stream for writing, and neither opens one nor removes a file, leaves
the storage. -/
theorem access_reading (hreads : ReadOnly file) (hnames : e.changesNames = false)
    (h : accessFiles resolve store file e = some (store', file')) :
    store' = store ∧ ReadOnly file' := by
  rcases changesFiles_cases e with hquiet | ⟨path, rfl⟩ | ⟨bytes, hhands⟩ | ⟨path, rfl⟩
  · refine ⟨(access_quiet hquiet h).1, ?_⟩
    rcases access_quiet_stream hquiet h with hsame | hreads'
    · rw [hsame]
      exact hreads
    · exact hreads'
  · cases hnames
  · obtain ⟨f, f', hf, hf', -, ⟨hmode, hstore, rfl⟩ | ⟨hmode, -⟩⟩ := access_hands hhands h
    · refine ⟨hstore, ?_⟩
      intro g hg
      obtain rfl := Option.some.inj (hf'.symm.trans hg)
      exact hmode
    · rw [hreads f hf] at hmode
      cases hmode
  · cases hnames

/-- Numbers are handed out once. -/
theorem access_fresh_le (h : accessFiles resolve store file e = some (store', file')) :
    store.fresh ≤ store'.fresh := by
  rcases changesFiles_cases e with hquiet | ⟨path, rfl⟩ | ⟨bytes, hhands⟩ | ⟨path, rfl⟩
  · rw [(access_quiet hquiet h).1]
  · rw [(access_created h).1]
    exact store.fresh_le_create _
  · obtain ⟨f, f', -, -, -, ⟨-, rfl, -⟩ | ⟨-, hhanded⟩⟩ := access_hands hhands h
    · exact le_refl _
    · obtain ⟨written, -, rfl, -⟩ := hhanded.written
      exact le_refl _
  · obtain ⟨rfl, -⟩ := access_remove h
    exact le_refl _

/-- A stream stays until another is opened in its place. -/
theorem access_keeps (hopens : ∀ path mode error, e ≠ .fopen path mode error)
    (h : accessFiles resolve store file e = some (store', file')) {f : OpenFile ν}
    (hfile : file = some f) :
    ∃ f', file' = some f' ∧ f'.name = f.name ∧ f'.number = f.number ∧ f'.mode = f.mode := by
  have hhanded : ∀ bytes, e.Hands bytes →
      ∃ f', file' = some f' ∧ f'.name = f.name ∧ f'.number = f.number ∧ f'.mode = f.mode := by
    intro bytes hhands
    obtain ⟨g, g', hg, hg', -, hcases⟩ := access_hands hhands h
    obtain rfl : f = g := Option.some.inj (hfile.symm.trans hg)
    rcases hcases with ⟨-, -, rfl⟩ | ⟨-, hover⟩
    · exact ⟨_, hg', rfl, rfl, rfl⟩
    · exact ⟨_, hg', hover.name, hover.number, hover.mode⟩
  cases e with
  | fopen path mode error => exact absurd rfl (hopens path mode error)
  | fread size bytes eof =>
      obtain ⟨g, position, hg, -, -, -, -, rfl⟩ := access_read h
      obtain rfl : f = g := Option.some.inj (hfile.symm.trans hg)
      exact ⟨_, rfl, rfl, rfl, rfl⟩
  | fwrite bytes count kept => exact hhanded _ (.fwrite bytes count kept)
  | fclose lost => exact hhanded _ (.fclose lost)
  | remove path error =>
      cases error with
      | none =>
          obtain ⟨-, rfl⟩ := access_remove h
          exact ⟨f, hfile, rfl, rfl, rfl⟩
      | some errno =>
          obtain ⟨-, rfl⟩ := Prod.mk.inj (Option.some.inj h)
          exact ⟨f, hfile, rfl, rfl, rfl⟩
  | _ =>
      obtain ⟨-, rfl⟩ := Prod.mk.inj (Option.some.inj h)
      exact ⟨f, hfile, rfl, rfl, rfl⟩

end Access

/-! ### A function with the files to itself -/

/-- The control point of a function, the files and the function's stream. -/
structure Alone (σ ν : Type) where
  state : σ
  storage : Storage ν
  file : Option (OpenFile ν)

section Alone

variable {σ ν : Type} [DecidableEq ν] (step : σ → Event → Option σ) (resolve : List UInt8 → ν)

/-- The call of the function. -/
def Alone.start (state : σ) (storage : Storage ν) : Alone σ ν :=
  { state := state, storage := storage, file := none }

/-- One step of the function, and what it does to the files. -/
def alone (w : Alone σ ν) (e : Event) : Option (Alone σ ν) :=
  match step w.state e, accessFiles resolve w.storage w.file e with
  | some state, some (storage, file) => some { state := state, storage := storage, file := file }
  | _, _ => none

variable {step resolve} {w w' : Alone σ ν} {e : Event}

/-- All that a step does. -/
theorem alone_eq (h : alone step resolve w e = some w') :
    step w.state e = some w'.state ∧
      accessFiles resolve w.storage w.file e = some (w'.storage, w'.file) := by
  unfold alone at h
  split at h
  · rename_i state storage file hstate haccess
    obtain rfl := Option.some.inj h
    exact ⟨hstate, haccess⟩
  · cases h

/-- A call that changes no file leaves the storage. -/
theorem alone_quiet (h : alone step resolve w e = some w') (hquiet : e.changesFiles = false) :
    w'.storage = w.storage :=
  (access_quiet hquiet (alone_eq h).2).1

/-- The function has no stream for writing. -/
def Alone.Reads (w : Alone σ ν) : Prop :=
  ReadOnly w.file

/-- Then a call that opens none leaves the storage. -/
theorem alone_reading (h : alone step resolve w e = some w') (hreads : w.Reads)
    (hnames : e.changesNames = false) : w'.storage = w.storage ∧ w'.Reads :=
  access_reading hreads hnames (alone_eq h).2

/-- Where a file is created, there is none. -/
def CreatesNew (resolve : List UInt8 → ν) (w : Alone σ ν) : Event → Prop
  | .fopen path .write none => w.storage.entry (resolve path) = none
  | _ => True

instance (resolve : List UInt8 → ν) (w : Alone σ ν) (e : Event) :
    Decidable (CreatesNew resolve w e) := by
  unfold CreatesNew
  split <;> infer_instance

/-! A file the function has created under a free name is all that has been added. -/

/-- The storage is the one at the start with one more file, behind the stream. -/
structure Added (start : Storage ν) (name : ν) (w : Alone σ ν) : Prop where
  free : start.entry name = none
  entry : w.storage.entry = Function.update start.entry name (some start.fresh)
  keeps : start.Keeps w.storage
  stream : ∃ f, w.file = some f ∧ f.number = start.fresh

variable {start : Storage ν} {name : ν} {path : List UInt8}

theorem added_create (h : alone step resolve w (.fopen path .write none) = some w')
    (hfree : w.storage.entry (resolve path) = none) : Added w.storage (resolve path) w' := by
  obtain ⟨-, haccess⟩ := alone_eq h
  obtain ⟨hstorage, hfile⟩ := access_create hfree haccess
  refine ⟨hfree, ?_, ?_, _, hfile, rfl⟩
  · rw [hstorage]
    rfl
  · rw [hstorage]
    exact FileStore.keeps_add _ _

/-- Until another file is opened or this one is removed, it stays so. -/
theorem Added.keep (h : Added start name w) (hstep : alone step resolve w e = some w')
    (hopens : ∀ path mode error, e ≠ .fopen path mode error)
    (hremoves : ∀ path, e ≠ .remove path none) : Added start name w' := by
  obtain ⟨f, hf, hnumber⟩ := h.stream
  obtain ⟨-, haccess⟩ := alone_eq hstep
  obtain ⟨f', hf', -, hnumber', -⟩ := access_keeps hopens haccess hf
  have hstream : ∃ f, w'.file = some f ∧ f.number = start.fresh :=
    ⟨f', hf', hnumber'.trans hnumber⟩
  rcases changesFiles_cases e with hquiet | ⟨path, rfl⟩ | ⟨bytes, hhands⟩ | ⟨path, rfl⟩
  · have hstorage := alone_quiet hstep hquiet
    exact ⟨h.free, by rw [hstorage]; exact h.entry, by rw [hstorage]; exact h.keeps, hstream⟩
  · exact absurd rfl (hopens path .write none)
  · obtain ⟨g, g', hg, -, -, ⟨-, hstorage, -⟩ | ⟨-, hhanded⟩⟩ := access_hands hhands haccess
    · exact ⟨h.free, by rw [hstorage]; exact h.entry, by rw [hstorage]; exact h.keeps, hstream⟩
    · obtain rfl : f = g := Option.some.inj (hf.symm.trans hg)
      obtain ⟨written, -, hstorage, -⟩ := hhanded.written
      refine ⟨h.free, ?_, ?_, hstream⟩
      · rw [hstorage]
        exact h.entry
      · rw [hstorage]
        exact h.keeps.write 0 (le_of_eq hnumber.symm)
  · exact absurd rfl (hremoves path)

/-- Its removal restores what was there. -/
theorem Added.removed (h : Added start (resolve path) w)
    (hstep : alone step resolve w (.remove path none) = some w') :
    start.SameFiles w'.storage := by
  obtain ⟨-, haccess⟩ := alone_eq hstep
  obtain ⟨hstorage, -⟩ := access_remove haccess
  rw [hstorage]
  refine (h.keeps.remove _).sameFiles ?_
  show Function.update w.storage.entry (resolve path) none = start.entry
  rw [h.entry, Function.update_idem, ← h.free, Function.update_eq_self]

/-- As long as it is there, the storage is another. -/
theorem Added.not_sameFiles (h : Added start name w) : ¬ start.SameFiles w.storage := by
  intro hsame
  have hname := hsame name
  simp [FileStore.lookup, h.entry, h.free] at hname

end Alone

/-- A server with nothing in its storage. -/
def emptyStorage : Storage (List UInt8) :=
  { entry := fun _ => none, contents := fun _ => [], fresh := 0, entry_lt := nofun }

/-- A directory in which the file is there. -/
def oneFileThere : Storage (List UInt8) :=
  emptyStorage.add (ascii "storage/a")

end Stftpu
