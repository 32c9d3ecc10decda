import Mathlib.Logic.Function.Basic
import Mathlib.Tactic

/-!
# A store of named files

A directory maps names to file numbers, and the files keep their contents under their
numbers.  Removing a name leaves the file to those who have it open.  Numbers are handed
out once: everything in the directory lies below `fresh`.

* `create` — open for writing from nothing, truncating a file that is there.
* `write` — put bytes at an offset of a file.
* `remove` — take a name out of the directory.
* `SameFiles` — two stores in which the same is found under every name.
* `Keeps` — the files of one store are as they were in another.
* `Beside` — they are, and only one name may lead to a file that was not there.
-/

namespace Library

/-- Names, the files they name and what these hold. -/
structure FileStore (ν α : Type*) where
  entry : ν → Option Nat
  contents : Nat → List α
  /-- The numbers from here on name no file. -/
  fresh : Nat
  entry_lt : ∀ name n, entry name = some n → n < fresh

/-- The bytes of a file once more bytes have been put at an offset. -/
def overwrite {α : Type*} (gap : α) (l : List α) (offset : Nat) (bytes : List α) : List α :=
  if bytes = [] then
    l
  else
    (l ++ List.replicate (offset - l.length) gap).take offset ++ bytes ++
      l.drop (offset + bytes.length)

/-- Bytes put at the end are appended. -/
@[simp] theorem overwrite_length {α : Type*} (gap : α) (l bytes : List α) :
    overwrite gap l l.length bytes = l ++ bytes := by
  unfold overwrite
  split
  · rename_i hnil
    simp [hnil]
  · simp

namespace FileStore

section Contents

variable {ν α : Type*} (s : FileStore ν α) (gap : α) (n offset : Nat) (l bytes : List α)

/-- Another content for one file. -/
def set : FileStore ν α :=
  { s with contents := Function.update s.contents n l }

/-- Put bytes at an offset of a file. -/
def write : FileStore ν α :=
  s.set n (overwrite gap (s.contents n) offset bytes)

@[simp] theorem set_contents_self : (s.set n l).contents n = l := by
  simp [set]

theorem set_contents_of_ne {m : Nat} (h : m ≠ n) : (s.set n l).contents m = s.contents m := by
  simp [set, h]

@[simp] theorem write_entry : (s.write gap n offset bytes).entry = s.entry := rfl

theorem write_contents_of_ne {m : Nat} (h : m ≠ n) :
    (s.write gap n offset bytes).contents m = s.contents m :=
  s.set_contents_of_ne n _ h

@[simp] theorem write_nil : s.write gap n offset [] = s := by
  simp [write, set, overwrite]

/-- A write at the end of a file appends. -/
@[simp] theorem write_contents_end :
    (s.write gap n (s.contents n).length bytes).contents n = s.contents n ++ bytes := by
  simp [write]

end Contents

section Names

variable {ν α : Type*} [DecidableEq ν] (s : FileStore ν α) (name : ν)

/-- A new, empty file under the name. -/
def add : FileStore ν α where
  entry := Function.update s.entry name (some s.fresh)
  contents := Function.update s.contents s.fresh []
  fresh := s.fresh + 1
  entry_lt := by
    intro other n h
    by_cases hname : other = name
    · rw [hname, Function.update_self] at h
      obtain rfl := Option.some.inj h
      exact Nat.lt_succ_self _
    · rw [Function.update_of_ne hname] at h
      exact Nat.lt_succ_of_lt (s.entry_lt other n h)

/-- Open a name for writing from nothing: the store and the number of the file. -/
def create : FileStore ν α × Nat :=
  match s.entry name with
  | some n => (s.set n [], n)
  | none => (s.add name, s.fresh)

/-- Take a name out of the directory. -/
def remove : FileStore ν α where
  entry := Function.update s.entry name none
  contents := s.contents
  fresh := s.fresh
  entry_lt := by
    intro other n h
    by_cases hname : other = name
    · rw [hname, Function.update_self] at h
      cases h
    · rw [Function.update_of_ne hname] at h
      exact s.entry_lt other n h

variable {s name}

theorem create_of_some {n : Nat} (h : s.entry name = some n) :
    s.create name = (s.set n [], n) := by
  simp [create, h]

theorem create_of_none (h : s.entry name = none) : s.create name = (s.add name, s.fresh) := by
  simp [create, h]

variable (s name)

@[simp] theorem add_fresh : (s.add name).fresh = s.fresh + 1 := rfl

@[simp] theorem add_entry_self : (s.add name).entry name = some s.fresh := by
  simp [add]

theorem add_entry_of_ne {other : ν} (h : other ≠ name) :
    (s.add name).entry other = s.entry other := by
  simp [add, h]

@[simp] theorem add_contents_fresh : (s.add name).contents s.fresh = [] := by
  simp [add]

theorem add_contents_of_lt {n : Nat} (h : n < s.fresh) :
    (s.add name).contents n = s.contents n := by
  simp [add, h.ne]

@[simp] theorem remove_contents : (s.remove name).contents = s.contents := rfl

theorem remove_entry_of_ne {other : ν} (h : other ≠ name) :
    (s.remove name).entry other = s.entry other := by
  simp [remove, h]

/-- Creating a file leaves the others. -/
theorem create_contents_of_ne {n : Nat} (h : s.entry name ≠ some n) (hn : n < s.fresh) :
    (s.create name).1.contents n = s.contents n := by
  cases hentry : s.entry name with
  | none =>
      rw [create_of_none hentry]
      exact s.add_contents_of_lt name hn
  | some m =>
      rw [create_of_some hentry]
      refine s.set_contents_of_ne m [] ?_
      intro heq
      exact h (hentry.trans (congrArg some heq.symm))

/-- Creating a file never gives it the number of another. -/
theorem create_number_ne {n : Nat} (h : s.entry name ≠ some n) (hn : n < s.fresh) :
    (s.create name).2 ≠ n := by
  cases hentry : s.entry name with
  | none =>
      rw [create_of_none hentry]
      exact hn.ne'
  | some m =>
      rw [create_of_some hentry]
      intro heq
      exact h (hentry.trans (congrArg some heq))

theorem fresh_le_create : s.fresh ≤ (s.create name).1.fresh := by
  unfold create
  split
  · exact le_refl _
  · exact Nat.le_succ _

end Names

section Found

variable {ν α : Type*} {s t u : FileStore ν α} {name : ν} {n : Nat}

/-- What is found under a name. -/
def lookup (s : FileStore ν α) (name : ν) : Option (List α) :=
  (s.entry name).map s.contents

/-- The same is found under every name. -/
def SameFiles (s t : FileStore ν α) : Prop :=
  ∀ name, t.lookup name = s.lookup name

/-- Everything that was a file is the same file still, under whatever names. -/
def Keeps (s t : FileStore ν α) : Prop :=
  s.fresh ≤ t.fresh ∧ ∀ n < s.fresh, t.contents n = s.contents n

theorem SameFiles.refl (s : FileStore ν α) : s.SameFiles s :=
  fun _ => rfl

theorem Keeps.refl (s : FileStore ν α) : s.Keeps s :=
  ⟨le_refl _, fun _ _ => rfl⟩

/-- A name that leads where it led finds what it found. -/
theorem Keeps.lookup_eq (h : s.Keeps t) (hentry : t.entry name = s.entry name) :
    t.lookup name = s.lookup name := by
  unfold lookup
  rw [hentry]
  cases hname : s.entry name with
  | none => rfl
  | some n => simp [h.2 n (s.entry_lt name n hname)]

theorem Keeps.sameFiles (h : s.Keeps t) (hentry : t.entry = s.entry) : s.SameFiles t :=
  fun name => h.lookup_eq (by rw [hentry])

/-- A write to a file that was not there. -/
theorem Keeps.write (h : s.Keeps t) (gap : α) {offset : Nat} {bytes : List α}
    (hn : s.fresh ≤ n) : s.Keeps (t.write gap n offset bytes) :=
  ⟨h.1, fun m hm => (t.write_contents_of_ne gap n offset bytes (by omega)).trans (h.2 m hm)⟩

variable [DecidableEq ν]

theorem Keeps.remove (h : s.Keeps t) (name : ν) : s.Keeps (t.remove name) :=
  ⟨h.1, h.2⟩

theorem keeps_add (s : FileStore ν α) (name : ν) : s.Keeps (s.add name) :=
  ⟨Nat.le_succ _, fun _ hn => s.add_contents_of_lt name hn⟩

end Found

section Beside

variable {ν α : Type*} {s t : FileStore ν α} {name : ν} {n : Nat}

/-- What was there is there still, and the name leads to a file that was not there, or to
none. -/
structure Beside (s : FileStore ν α) (name : ν) (t : FileStore ν α) : Prop where
  keeps : s.Keeps t
  entry : ∀ other, other ≠ name → t.entry other = s.entry other
  own : ∀ n, t.entry name = some n → s.fresh ≤ n

theorem beside_refl (h : s.entry name = none) : s.Beside name s where
  keeps := Keeps.refl s
  entry := fun _ _ => rfl
  own := by
    intro n hn
    rw [h] at hn
    cases hn

/-- Every other name finds what it found. -/
theorem Beside.lookup_eq (h : s.Beside name t) {other : ν} (hne : other ≠ name) :
    t.lookup other = s.lookup other :=
  h.keeps.lookup_eq (h.entry other hne)

theorem Beside.write (h : s.Beside name t) (gap : α) {offset : Nat} {bytes : List α}
    (hn : t.entry name = some n) : s.Beside name (t.write gap n offset bytes) where
  keeps := h.keeps.write gap (h.own n hn)
  entry := h.entry
  own := h.own

variable [DecidableEq ν]

theorem Beside.remove (h : s.Beside name t) : s.Beside name (t.remove name) where
  keeps := h.keeps.remove name
  entry := by
    intro other hne
    rw [t.remove_entry_of_ne name hne]
    exact h.entry other hne
  own := by
    intro n hn
    simp [FileStore.remove] at hn

/-- The file opened for writing is new, or the one that was new before. -/
theorem Beside.create (h : s.Beside name t) : s.Beside name (t.create name).1 := by
  cases hentry : t.entry name with
  | none =>
      rw [create_of_none hentry]
      refine ⟨⟨h.keeps.1.trans (Nat.le_succ _), ?_⟩, ?_, ?_⟩
      · intro n hn
        rw [t.add_contents_of_lt name (lt_of_lt_of_le hn h.keeps.1)]
        exact h.keeps.2 n hn
      · intro other hne
        rw [t.add_entry_of_ne name hne]
        exact h.entry other hne
      · intro n hn
        rw [t.add_entry_self name] at hn
        obtain rfl := Option.some.inj hn
        exact h.keeps.1
  | some m =>
      rw [create_of_some hentry]
      refine ⟨⟨h.keeps.1, ?_⟩, h.entry, h.own⟩
      intro n hn
      have hm := h.own m hentry
      rw [t.set_contents_of_ne m [] (by omega)]
      exact h.keeps.2 n hn

end Beside

end FileStore

end Library
