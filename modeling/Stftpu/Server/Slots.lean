import Mathlib.Logic.Function.Basic
import Mathlib.Tactic
import Stftpu.Common

/-!
# The connection slots

`ServerSlots_t` is shared by the listener and the tasks.  The flags and the count of free
slots say the same thing twice, and are changed one after the other under a mutex;
`server_acquire_connection_slot` and `server_release_connection_slot` are modelled statement
by statement, so that anything may happen on other threads in between.

* `SlotPhase` — what a thread is doing with the slots.
* `SlotsOk` — what holds of the table at any moment.
* `SlotsOk.acquire`, `SlotsOk.release`, `SlotsOk.handed` — a statement of either function, and
  the passing of a slot to a new task, keep it so.
* `SlotsOwned` — every flag is set on behalf of some thread.
-/

namespace Stftpu

open Library

/-- `SERVER_MAX_CONNECTIONS`. -/
def serverMaxConnections : Nat := 5

/-- The threads of the server; a task's number is its `pthread_t`. -/
inductive ServerThread
  | listener
  | task (id : Nat)
  deriving DecidableEq, Repr

/-- `ServerSlots_t`.  The arrays are read below `SERVER_MAX_CONNECTIONS` only; the handle of
a slot never used is zero, here `none`.  Nothing writes `tx_data_ptr`. -/
structure ServerSlots where
  freeSlotsCount : Int
  /-- The thread that has locked the mutex. -/
  slotsMutex : Option ServerThread
  slotOccupiedFlags : Nat → Bool
  slotThreadHandles : Nat → Option Nat
  opDataPtr : Nat → Option OperationData

/-- `server_init_slots_data`. -/
def serverInitSlotsData : ServerSlots :=
  { freeSlotsCount := serverMaxConnections
    slotsMutex := none
    slotOccupiedFlags := fun _ => false
    slotThreadHandles := fun _ => none
    opDataPtr := fun _ => none }

/-! ## The two functions -/

/-- Inside `server_acquire_connection_slot`. -/
inductive AcquirePoint
  /-- `pthread_mutex_lock`. -/
  | locking
  /-- `if (free_slots_count > 0)`. -/
  | testing
  /-- The loop, at an index: its test and the look at the flag. -/
  | scanning (i : Nat)
  /-- `slot_occupied_flags[i] = true`. -/
  | marking (i : Nat)
  /-- `free_slots_count--` and `retval = i`. -/
  | counting (i : Nat)
  /-- `pthread_mutex_unlock`; the value returned behind it is `none` for -1. -/
  | unlocking (retval : Option Nat)
  deriving DecidableEq, Repr

/-- Inside `server_release_connection_slot`. -/
inductive ReleasePoint
  /-- `pthread_mutex_lock`. -/
  | locking
  /-- `slot_occupied_flags[slot_index] = false`. -/
  | clearing
  /-- `free_slots_count++`. -/
  | counting
  /-- `pthread_mutex_unlock`. -/
  | unlocking
  deriving DecidableEq, Repr

/-- `pthread_mutex_lock`, which waits until the mutex is free. -/
def ServerSlots.lock (slots : ServerSlots) (thread : ServerThread) : Option ServerSlots :=
  match slots.slotsMutex with
  | none => some { slots with slotsMutex := some thread }
  | some _ => none

/-- One statement of `server_acquire_connection_slot`: the next one, or the return. -/
def serverAcquireConnectionSlot (thread : ServerThread) (slots : ServerSlots) :
    AcquirePoint → Option (ServerSlots × (AcquirePoint ⊕ Option Nat))
  | .locking => (slots.lock thread).map fun slots => (slots, .inl .testing)
  | .testing =>
      if slots.freeSlotsCount > 0 then
        some (slots, .inl (.scanning 0))
      else
        some (slots, .inl (.unlocking none))
  | .scanning i =>
      if i < serverMaxConnections then
        if slots.slotOccupiedFlags i then
          some (slots, .inl (.scanning (i + 1)))
        else
          some (slots, .inl (.marking i))
      else
        some (slots, .inl (.unlocking none))
  | .marking i =>
      some
        ({ slots with slotOccupiedFlags := Function.update slots.slotOccupiedFlags i true },
          .inl (.counting i))
  | .counting i =>
      some
        ({ slots with freeSlotsCount := slots.freeSlotsCount - 1 }, .inl (.unlocking (some i)))
  | .unlocking retval => some ({ slots with slotsMutex := none }, .inr retval)

/-- One statement of `server_release_connection_slot`. -/
def serverReleaseConnectionSlot (thread : ServerThread) (slotIndex : Nat) (slots : ServerSlots) :
    ReleasePoint → Option (ServerSlots × (ReleasePoint ⊕ Unit))
  | .locking => (slots.lock thread).map fun slots => (slots, .inl .clearing)
  | .clearing =>
      some
        ({ slots with
          slotOccupiedFlags := Function.update slots.slotOccupiedFlags slotIndex false },
          .inl .counting)
  | .counting =>
      some ({ slots with freeSlotsCount := slots.freeSlotsCount + 1 }, .inl .unlocking)
  | .unlocking => some ({ slots with slotsMutex := none }, .inr ())

/-! ### All that a statement does -/

/-- A statement of `server_acquire_connection_slot`. -/
inductive AcquireStep (thread : ServerThread) (slots : ServerSlots) :
    AcquirePoint → ServerSlots → AcquirePoint ⊕ Option Nat → Prop
  | locked (slots' : ServerSlots) (hlock : slots.lock thread = some slots') :
      AcquireStep thread slots .locking slots' (.inl .testing)
  | counted (hcount : slots.freeSlotsCount > 0) :
      AcquireStep thread slots .testing slots (.inl (.scanning 0))
  | full (hcount : ¬ slots.freeSlotsCount > 0) :
      AcquireStep thread slots .testing slots (.inl (.unlocking none))
  | occupied (i : Nat) (hi : i < serverMaxConnections) (hset : slots.slotOccupiedFlags i = true) :
      AcquireStep thread slots (.scanning i) slots (.inl (.scanning (i + 1)))
  | found (i : Nat) (hi : i < serverMaxConnections) (hfree : slots.slotOccupiedFlags i = false) :
      AcquireStep thread slots (.scanning i) slots (.inl (.marking i))
  | exhausted (i : Nat) (hi : ¬ i < serverMaxConnections) :
      AcquireStep thread slots (.scanning i) slots (.inl (.unlocking none))
  | marked (i : Nat) :
      AcquireStep thread slots (.marking i)
        { slots with slotOccupiedFlags := Function.update slots.slotOccupiedFlags i true }
        (.inl (.counting i))
  | taken (i : Nat) :
      AcquireStep thread slots (.counting i)
        { slots with freeSlotsCount := slots.freeSlotsCount - 1 } (.inl (.unlocking (some i)))
  | unlocked (retval : Option Nat) :
      AcquireStep thread slots (.unlocking retval) { slots with slotsMutex := none }
        (.inr retval)

/-- A statement of `server_release_connection_slot`. -/
inductive ReleaseStep (thread : ServerThread) (slotIndex : Nat) (slots : ServerSlots) :
    ReleasePoint → ServerSlots → ReleasePoint ⊕ Unit → Prop
  | locked (slots' : ServerSlots) (hlock : slots.lock thread = some slots') :
      ReleaseStep thread slotIndex slots .locking slots' (.inl .clearing)
  | cleared :
      ReleaseStep thread slotIndex slots .clearing
        { slots with
          slotOccupiedFlags := Function.update slots.slotOccupiedFlags slotIndex false }
        (.inl .counting)
  | counted :
      ReleaseStep thread slotIndex slots .counting
        { slots with freeSlotsCount := slots.freeSlotsCount + 1 } (.inl .unlocking)
  | unlocked :
      ReleaseStep thread slotIndex slots .unlocking { slots with slotsMutex := none } (.inr ())

section Frame

variable {thread : ServerThread} {slots slots' : ServerSlots}

theorem acquire_eq {point : AcquirePoint} {next : AcquirePoint ⊕ Option Nat}
    (h : serverAcquireConnectionSlot thread slots point = some (slots', next)) :
    AcquireStep thread slots point slots' next := by
  cases point with
  | locking =>
      obtain ⟨slots₁, hlock, heq⟩ := Option.map_eq_some_iff.mp h
      obtain ⟨rfl, rfl⟩ := Prod.mk.inj heq
      exact .locked _ hlock
  | testing =>
      simp only [serverAcquireConnectionSlot] at h
      split at h
      · obtain ⟨rfl, rfl⟩ := Prod.mk.inj (Option.some.inj h)
        exact .counted ‹_›
      · obtain ⟨rfl, rfl⟩ := Prod.mk.inj (Option.some.inj h)
        exact .full ‹_›
  | scanning i =>
      -- the scan ends at the first slot that is free, or behind the last one
      simp only [serverAcquireConnectionSlot] at h
      split at h
      · split at h
        · obtain ⟨rfl, rfl⟩ := Prod.mk.inj (Option.some.inj h)
          exact .occupied i ‹_› ‹_›
        · obtain ⟨rfl, rfl⟩ := Prod.mk.inj (Option.some.inj h)
          exact .found i ‹_› (Bool.eq_false_iff.mpr ‹_›)
      · obtain ⟨rfl, rfl⟩ := Prod.mk.inj (Option.some.inj h)
        exact .exhausted i ‹_›
  | marking i =>
      obtain ⟨rfl, rfl⟩ := Prod.mk.inj (Option.some.inj h)
      exact .marked i
  | counting i =>
      obtain ⟨rfl, rfl⟩ := Prod.mk.inj (Option.some.inj h)
      exact .taken i
  | unlocking retval =>
      obtain ⟨rfl, rfl⟩ := Prod.mk.inj (Option.some.inj h)
      exact .unlocked retval

theorem release_eq {slotIndex : Nat} {point : ReleasePoint} {next : ReleasePoint ⊕ Unit}
    (h : serverReleaseConnectionSlot thread slotIndex slots point = some (slots', next)) :
    ReleaseStep thread slotIndex slots point slots' next := by
  cases point with
  | locking =>
      obtain ⟨slots₁, hlock, heq⟩ := Option.map_eq_some_iff.mp h
      obtain ⟨rfl, rfl⟩ := Prod.mk.inj heq
      exact .locked _ hlock
  | clearing =>
      obtain ⟨rfl, rfl⟩ := Prod.mk.inj (Option.some.inj h)
      exact .cleared
  | counting =>
      obtain ⟨rfl, rfl⟩ := Prod.mk.inj (Option.some.inj h)
      exact .counted
  | unlocking =>
      obtain ⟨rfl, rfl⟩ := Prod.mk.inj (Option.some.inj h)
      exact .unlocked

theorem lock_frame (h : slots.lock thread = some slots') :
    slots'.opDataPtr = slots.opDataPtr ∧
      slots'.slotThreadHandles = slots.slotThreadHandles := by
  unfold ServerSlots.lock at h
  split at h
  · obtain rfl := Option.some.inj h
    exact ⟨rfl, rfl⟩
  · cases h

theorem lock_flags (h : slots.lock thread = some slots') :
    slots'.slotOccupiedFlags = slots.slotOccupiedFlags := by
  unfold ServerSlots.lock at h
  split at h
  · obtain rfl := Option.some.inj h
    rfl
  · cases h

/-- The two functions leave the operations and the handles alone. -/
theorem acquire_frame {point : AcquirePoint} {next : AcquirePoint ⊕ Option Nat}
    (h : serverAcquireConnectionSlot thread slots point = some (slots', next)) :
    slots'.opDataPtr = slots.opDataPtr ∧
      slots'.slotThreadHandles = slots.slotThreadHandles := by
  cases acquire_eq h with
  | locked slots' hlock => exact lock_frame hlock
  | _ => exact ⟨rfl, rfl⟩

theorem release_frame {slotIndex : Nat} {point : ReleasePoint} {next : ReleasePoint ⊕ Unit}
    (h : serverReleaseConnectionSlot thread slotIndex slots point = some (slots', next)) :
    slots'.opDataPtr = slots.opDataPtr ∧
      slots'.slotThreadHandles = slots.slotThreadHandles := by
  cases release_eq h with
  | locked slots' hlock => exact lock_frame hlock
  | _ => exact ⟨rfl, rfl⟩

/-- A release leaves the other flags alone and sets none. -/
theorem release_flags {slotIndex : Nat} {point : ReleasePoint} {next : ReleasePoint ⊕ Unit}
    (h : serverReleaseConnectionSlot thread slotIndex slots point = some (slots', next)) :
    slots'.slotOccupiedFlags = slots.slotOccupiedFlags ∨
      slots'.slotOccupiedFlags = Function.update slots.slotOccupiedFlags slotIndex false := by
  cases release_eq h with
  | locked slots' hlock => exact Or.inl (lock_flags hlock)
  | cleared => exact Or.inr rfl
  | counted | unlocked => exact Or.inl rfl

theorem release_flag_of_ne {slotIndex i : Nat} {point : ReleasePoint}
    {next : ReleasePoint ⊕ Unit} (hne : i ≠ slotIndex)
    (h : serverReleaseConnectionSlot thread slotIndex slots point = some (slots', next)) :
    slots'.slotOccupiedFlags i = slots.slotOccupiedFlags i := by
  rcases release_flags h with heq | heq
  · rw [heq]
  · rw [heq, Function.update_of_ne hne]

theorem release_flag_false {slotIndex i : Nat} {point : ReleasePoint}
    {next : ReleasePoint ⊕ Unit} (hfree : slots.slotOccupiedFlags i = false)
    (h : serverReleaseConnectionSlot thread slotIndex slots point = some (slots', next)) :
    slots'.slotOccupiedFlags i = false := by
  rcases release_flags h with heq | heq
  · rw [heq, hfree]
  · by_cases hi : i = slotIndex
    · rw [heq, hi, Function.update_self]
    · rw [heq, Function.update_of_ne hi, hfree]

/-- The call returns with the unlock, and only then. -/
theorem acquire_next {point : AcquirePoint} {next : AcquirePoint ⊕ Option Nat}
    (h : serverAcquireConnectionSlot thread slots point = some (slots', next)) :
    ∀ retval, next = .inr retval ↔ point = .unlocking retval := by
  intro retval
  cases acquire_eq h <;> simp

theorem release_next {slotIndex : Nat} {point : ReleasePoint} {next : ReleasePoint ⊕ Unit}
    (h : serverReleaseConnectionSlot thread slotIndex slots point = some (slots', next)) :
    next = .inr () ↔ point = .unlocking := by
  cases release_eq h <;> simp

end Frame

/-! ## Counting the free slots -/

/-- How many of the first `n` flags are not set. -/
def unset (n : Nat) (flags : Nat → Bool) : Nat :=
  (List.range n).countP fun i => !flags i

section Unset

variable {n i : Nat} {flags : Nat → Bool} {value : Bool}

theorem unset_succ : unset (n + 1) flags = unset n flags + if flags n then 0 else 1 := by
  unfold unset
  rw [List.range_succ, List.countP_append]
  cases h : flags n <;> simp [h]

theorem unset_le : unset n flags ≤ n := by
  simpa [unset] using List.countP_le_length (p := fun i => !flags i) (l := List.range n)

/-- A flag behind the first `n` does not count. -/
theorem unset_update_of_ge (h : n ≤ i) :
    unset n (Function.update flags i value) = unset n flags := by
  induction n with
  | zero => rfl
  | succ n ih =>
      have hne : n ≠ i := by omega
      rw [unset_succ, unset_succ, ih (by omega), Function.update_of_ne hne]

theorem unset_mark (hi : i < n) (hflag : flags i = false) :
    unset n (Function.update flags i true) + 1 = unset n flags := by
  induction n with
  | zero => omega
  | succ n ih =>
      rw [unset_succ, unset_succ]
      rcases Nat.lt_succ_iff_lt_or_eq.mp hi with hlt | rfl
      · have hne : n ≠ i := by omega
        rw [Function.update_of_ne hne, ← ih hlt]
        omega
      · rw [unset_update_of_ge (le_refl _), Function.update_self, hflag]
        simp

theorem unset_clear (hi : i < n) (hflag : flags i = true) :
    unset n (Function.update flags i false) = unset n flags + 1 := by
  have hmark : unset n (Function.update (Function.update flags i false) i true) + 1 =
      unset n (Function.update flags i false) := unset_mark hi (Function.update_self ..)
  rw [Function.update_idem, ← hflag, Function.update_eq_self] at hmark
  exact hmark.symm

/-- All are free when no flag is set, and none when all are. -/
theorem unset_eq (h : ∀ i < n, flags i = false) : unset n flags = n := by
  have hall : unset n flags = (List.range n).length := by
    apply List.countP_eq_length.mpr
    intro i hi
    rw [h i (List.mem_range.mp hi)]
    rfl
  rw [hall, List.length_range]

theorem unset_eq_zero_iff : unset n flags = 0 ↔ ∀ i < n, flags i = true := by
  simp [unset, List.countP_eq_zero]

end Unset

/-! ## What the threads are doing -/

/-- What a thread is doing with the slots. -/
inductive SlotPhase
  /-- It has none and asks for none. -/
  | away
  | acquiring (point : AcquirePoint)
  /-- A slot is its own. -/
  | holding (slot : Nat)
  | releasing (slot : Nat) (point : ReleasePoint)
  deriving DecidableEq, Repr

namespace SlotPhase

/-- Between `pthread_mutex_lock` and `pthread_mutex_unlock`. -/
def critical : SlotPhase → Bool
  | .acquiring .locking => false
  | .acquiring _ => true
  | .releasing _ .locking => false
  | .releasing _ _ => true
  | _ => false

/-- The slot a thread occupies: from the flag's setting to the unlock that ends its
release. -/
def slot : SlotPhase → Option Nat
  | .acquiring (.counting i) => some i
  | .acquiring (.unlocking retval) => retval
  | .holding i => some i
  | .releasing i _ => some i
  | _ => none

/-- The slot whose flag is set on a thread's behalf. -/
def flagged : SlotPhase → Option Nat
  | .releasing _ .counting => none
  | .releasing _ .unlocking => none
  | phase => phase.slot

/-- By how much the count is above the number of free slots. -/
def pending : SlotPhase → Int
  | .acquiring (.counting _) => 1
  | .releasing _ .counting => -1
  | _ => 0

theorem slot_of_flagged {phase : SlotPhase} {i : Nat} (h : phase.flagged = some i) :
    phase.slot = some i := by
  cases phase with
  | releasing held point =>
      cases point with
      | locking | clearing => exact h
      | counting | unlocking => cases h
  | _ => exact h

/-- Outside the two functions the flag of a slot that is occupied is set. -/
theorem flagged_of_not_critical {phase : SlotPhase} (h : phase.critical = false) :
    phase.flagged = phase.slot := by
  cases phase with
  | releasing held point =>
      cases point with
      | locking => rfl
      | clearing | counting | unlocking => cases h
  | _ => rfl

/-- What a thread inside `server_acquire_connection_slot` has seen of the flags. -/
def Knows (flags : Nat → Bool) : SlotPhase → Prop
  | .acquiring (.scanning i) => i ≤ serverMaxConnections ∧ ∀ j < i, flags j = true
  | .acquiring (.marking i) => i < serverMaxConnections ∧ flags i = false
  | .acquiring (.unlocking none) => ∀ i < serverMaxConnections, flags i = true
  | _ => True

theorem knows_of_not_critical {phase : SlotPhase} {flags : Nat → Bool}
    (h : phase.critical = false) : phase.Knows flags := by
  cases phase with
  | acquiring point =>
      cases point with
      | locking => trivial
      | _ => cases h
  | _ => trivial

/-- What `server_acquire_connection_slot` goes on with, or returned. -/
def afterAcquire : AcquirePoint ⊕ Option Nat → SlotPhase
  | .inl point => .acquiring point
  | .inr none => .away
  | .inr (some i) => .holding i

/-- What `server_release_connection_slot` goes on with, or that it returned. -/
def afterRelease (slot : Nat) : ReleasePoint ⊕ Unit → SlotPhase
  | .inl point => .releasing slot point
  | .inr () => .away

end SlotPhase

/-! ## The table at any moment -/

/-- The slots between two statements of the threads. -/
structure SlotsOk (slots : ServerSlots) (phase : ServerThread → SlotPhase) : Prop where
  /-- Between lock and unlock a thread has the mutex. -/
  mutex : ∀ t, slots.slotsMutex = some t ↔ (phase t).critical = true
  /-- The count is right but for what the owner of the mutex still has to do. -/
  count : slots.freeSlotsCount = unset serverMaxConnections slots.slotOccupiedFlags +
    slots.slotsMutex.elim 0 (fun t => (phase t).pending)
  lt : ∀ t i, (phase t).slot = some i → i < serverMaxConnections
  flagged : ∀ t i, (phase t).flagged = some i → slots.slotOccupiedFlags i = true
  /-- A slot is one thread's. -/
  apart : ∀ t u i, (phase t).slot = some i → (phase u).slot = some i → t = u
  knows : ∀ t, (phase t).Knows slots.slotOccupiedFlags

namespace SlotsOk

variable {slots slots' : ServerSlots} {phase : ServerThread → SlotPhase} {t u : ServerThread}
  {p : SlotPhase} {i : Nat}

theorem init : SlotsOk serverInitSlotsData fun _ => .away := by
  constructor <;> simp [serverInitSlotsData, SlotPhase.critical, SlotPhase.slot,
    SlotPhase.flagged, SlotPhase.Knows, unset]

/-- When no thread is between lock and unlock, the count is the number of free slots. -/
theorem count_of_free (h : SlotsOk slots phase) (hfree : slots.slotsMutex = none) :
    slots.freeSlotsCount = unset serverMaxConnections slots.slotOccupiedFlags := by
  simpa [hfree] using h.count

theorem count_of_critical (h : SlotsOk slots phase) (hcrit : (phase t).critical = true) :
    slots.freeSlotsCount =
      unset serverMaxConnections slots.slotOccupiedFlags + (phase t).pending := by
  simpa [(h.mutex t).mpr hcrit] using h.count

/-- Only one thread is between lock and unlock. -/
theorem not_critical_of_ne (h : SlotsOk slots phase) (hcrit : (phase t).critical = true)
    (hne : u ≠ t) : (phase u).critical = false := by
  by_contra hother
  have ht := (h.mutex t).mpr hcrit
  rw [(h.mutex u).mpr (by simpa using hother)] at ht
  exact hne (Option.some.inj ht)

/-- The slots of the threads that are not between lock and unlock have their flags set. -/
theorem flag_of_ne (h : SlotsOk slots phase) (hcrit : (phase t).critical = true) (hne : u ≠ t)
    (hslot : (phase u).slot = some i) : slots.slotOccupiedFlags i = true := by
  apply h.flagged u i
  rw [SlotPhase.flagged_of_not_critical (h.not_critical_of_ne hcrit hne)]
  exact hslot

/-- `pthread_mutex_lock`. -/
theorem locked (h : SlotsOk slots phase) (hlock : slots.lock t = some slots')
    (hcrit : p.critical = true) (hpending : p.pending = 0) (hslot : p.slot = (phase t).slot)
    (hflag : p.flagged = (phase t).flagged) (hknows : p.Knows slots.slotOccupiedFlags) :
    SlotsOk slots' (Function.update phase t p) := by
  have hfree : slots.slotsMutex = none := by
    unfold ServerSlots.lock at hlock
    split at hlock
    · assumption
    · cases hlock
  obtain rfl : { slots with slotsMutex := some t } = slots' := by
    simpa [ServerSlots.lock, hfree] using hlock
  -- the mutex was free, so no thread was between lock and unlock
  have hnone : ∀ u, (phase u).critical = false := by
    intro u
    by_contra hother
    have hu := (h.mutex u).mpr (by simpa using hother)
    rw [hfree] at hu
    cases hu
  have hslots : ∀ u, (Function.update phase t p u).slot = (phase u).slot := by
    intro u
    by_cases hu : u = t
    · rw [hu, Function.update_self, hslot]
    · rw [Function.update_of_ne hu]
  constructor
  case mutex =>
    intro u
    by_cases hu : u = t
    · simp [hu, hcrit]
    · simp [Function.update_of_ne hu, hnone u, Ne.symm hu]
  case count => simp [h.count_of_free hfree, hpending]
  case lt =>
    intro u i hi
    exact h.lt u i (by rw [← hslots, hi])
  case flagged =>
    intro u i hi
    by_cases hu : u = t
    · rw [hu, Function.update_self, hflag] at hi
      exact h.flagged t i hi
    · rw [Function.update_of_ne hu] at hi
      exact h.flagged u i hi
  case apart =>
    intro u v i hu hv
    exact h.apart u v i (by rw [← hslots, hu]) (by rw [← hslots, hv])
  case knows =>
    intro u
    by_cases hu : u = t
    · rw [hu, Function.update_self]
      exact hknows
    · rw [Function.update_of_ne hu]
      exact h.knows u

/-- A statement between lock and unlock: the other threads keep what they had. -/
theorem inside (h : SlotsOk slots phase) (hbefore : (phase t).critical = true)
    (hcrit : p.critical = true) (hmutex : slots'.slotsMutex = some t)
    (hcount : slots'.freeSlotsCount =
      unset serverMaxConnections slots'.slotOccupiedFlags + p.pending)
    (hlt : ∀ i, p.slot = some i → i < serverMaxConnections)
    (hflag : ∀ i, p.flagged = some i → slots'.slotOccupiedFlags i = true)
    (hothers : ∀ u ≠ t, ∀ i, (phase u).slot = some i →
      slots'.slotOccupiedFlags i = true ∧ p.slot ≠ some i)
    (hknows : p.Knows slots'.slotOccupiedFlags) :
    SlotsOk slots' (Function.update phase t p) := by
  -- the mutex keeps the others out
  have hother : ∀ u ≠ t, (phase u).critical = false := fun u hu =>
    h.not_critical_of_ne hbefore hu
  constructor
  case mutex =>
    intro u
    by_cases hu : u = t
    · simp [hu, hcrit, hmutex]
    · simp [Function.update_of_ne hu, hother u hu, hmutex, Ne.symm hu]
  case count => simp [hmutex, hcount]
  case lt =>
    intro u i hi
    by_cases hu : u = t
    · rw [hu, Function.update_self] at hi
      exact hlt i hi
    · rw [Function.update_of_ne hu] at hi
      exact h.lt u i hi
  case flagged =>
    intro u i hi
    by_cases hu : u = t
    · rw [hu, Function.update_self] at hi
      exact hflag i hi
    · rw [Function.update_of_ne hu] at hi
      exact (hothers u hu i (SlotPhase.slot_of_flagged hi)).1
  case apart =>
    intro u v i hu hv
    by_cases hut : u = t
    · by_cases hvt : v = t
      · rw [hut, hvt]
      · rw [hut, Function.update_self] at hu
        rw [Function.update_of_ne hvt] at hv
        exact absurd hu (hothers v hvt i hv).2
    · rw [Function.update_of_ne hut] at hu
      by_cases hvt : v = t
      · rw [hvt, Function.update_self] at hv
        exact absurd hv (hothers u hut i hu).2
      · rw [Function.update_of_ne hvt] at hv
        exact h.apart u v i hu hv
  case knows =>
    intro u
    by_cases hu : u = t
    · rw [hu, Function.update_self]
      exact hknows
    · rw [Function.update_of_ne hu]
      exact SlotPhase.knows_of_not_critical (hother u hu)

/-- A look at the table between lock and unlock. -/
theorem looked (h : SlotsOk slots phase) (hbefore : (phase t).critical = true)
    (hpending : (phase t).pending = 0) (hcrit : p.critical = true) (hp : p.pending = 0)
    (hslot : p.slot = none) (hknows : p.Knows slots.slotOccupiedFlags) :
    SlotsOk slots (Function.update phase t p) := by
  refine h.inside hbefore hcrit ((h.mutex t).mpr hbefore) ?_ ?_ ?_ ?_ hknows
  · rw [hp, h.count_of_critical hbefore, hpending]
  · intro i hi
    rw [hslot] at hi
    cases hi
  · intro i hi
    have hi' := SlotPhase.slot_of_flagged hi
    rw [hslot] at hi'
    cases hi'
  · intro u hu i hi
    refine ⟨h.flag_of_ne hbefore hu hi, ?_⟩
    rw [hslot]
    simp

/-- `pthread_mutex_unlock`. -/
theorem unlocked (h : SlotsOk slots phase) (hbefore : (phase t).critical = true)
    (hpending : (phase t).pending = 0) (hcrit : p.critical = false)
    (hslot : ∀ i, p.slot = some i →
      (phase t).slot = some i ∧ slots.slotOccupiedFlags i = true) :
    SlotsOk { slots with slotsMutex := none } (Function.update phase t p) := by
  -- from here on nobody is between lock and unlock
  have hnone : ∀ u, (Function.update phase t p u).critical = false := by
    intro u
    by_cases hu : u = t
    · rw [hu, Function.update_self, hcrit]
    · rw [Function.update_of_ne hu]
      exact h.not_critical_of_ne hbefore hu
  have hslots : ∀ u i, (Function.update phase t p u).slot = some i → (phase u).slot = some i := by
    intro u i hi
    by_cases hu : u = t
    · rw [hu, Function.update_self] at hi
      rw [hu]
      exact (hslot i hi).1
    · rwa [Function.update_of_ne hu] at hi
  constructor
  case mutex =>
    intro u
    simp [hnone u]
  case count => simpa [hpending] using h.count_of_critical hbefore
  case lt =>
    intro u i hi
    exact h.lt u i (hslots u i hi)
  case flagged =>
    intro u i hi
    have hi' := SlotPhase.slot_of_flagged hi
    by_cases hu : u = t
    · rw [hu, Function.update_self] at hi'
      exact (hslot i hi').2
    · exact h.flag_of_ne hbefore hu (hslots u i hi')
  case apart =>
    intro u v i hu hv
    exact h.apart u v i (hslots u i hu) (hslots v i hv)
  case knows =>
    intro u
    exact SlotPhase.knows_of_not_critical (hnone u)

/-- Threads that are outside the two functions may pass their slots on, each to one
other. -/
theorem passed (h : SlotsOk slots phase) {phase' : ServerThread → SlotPhase}
    (from' : ServerThread → ServerThread) (hinj : Function.Injective from')
    (hsame : ∀ v, phase' v = phase v ∨
      (phase' v).critical = false ∧ (phase v).critical = false)
    (hslot : ∀ v i, (phase' v).slot = some i → (phase (from' v)).slot = some i)
    (hflag : ∀ v i, (phase' v).flagged = some i → (phase (from' v)).flagged = some i) :
    SlotsOk slots phase' := by
  have hcrit : ∀ v, (phase' v).critical = (phase v).critical := by
    intro v
    -- the thread that has the mutex has not passed anything on
    rcases hsame v with heq | ⟨hv', hv⟩
    · rw [heq]
    · rw [hv', hv]
  constructor
  case mutex =>
    intro v
    rw [hcrit]
    exact h.mutex v
  case count =>
    rw [h.count]
    cases hmutex : slots.slotsMutex with
    | none => rfl
    | some v =>
        have hv := (h.mutex v).mp hmutex
        rcases hsame v with heq | ⟨-, hnot⟩
        · simp [heq]
        · rw [hnot] at hv
          cases hv
  case lt =>
    intro v i hi
    exact h.lt (from' v) i (hslot v i hi)
  case flagged =>
    intro v i hi
    exact h.flagged (from' v) i (hflag v i hi)
  case apart =>
    intro v w i hv hw
    exact hinj (h.apart _ _ i (hslot v i hv) (hslot w i hw))
  case knows =>
    intro v
    rcases hsame v with heq | ⟨hv', -⟩
    · rw [heq]
      exact h.knows v
    · exact SlotPhase.knows_of_not_critical hv'

/-- A thread outside the two functions keeps its slot, or forgets it. -/
theorem moved (h : SlotsOk slots phase) (hbefore : (phase t).critical = false)
    (hcrit : p.critical = false) (hslot : ∀ i, p.slot = some i → (phase t).slot = some i) :
    SlotsOk slots (Function.update phase t p) := by
  have hslots : ∀ v i, (Function.update phase t p v).slot = some i → (phase v).slot = some i := by
    intro v i hi
    by_cases hv : v = t
    · rw [hv, Function.update_self] at hi
      rw [hv]
      exact hslot i hi
    · rwa [Function.update_of_ne hv] at hi
  refine h.passed id Function.injective_id ?_ hslots ?_
  · intro v
    by_cases hv : v = t
    · right
      rw [hv, Function.update_self]
      exact ⟨hcrit, hbefore⟩
    · left
      rw [Function.update_of_ne hv]
  · intro v i hi
    by_cases hv : v = t
    · rw [hv, Function.update_self] at hi
      rw [id, hv, SlotPhase.flagged_of_not_critical hbefore]
      exact hslot i (SlotPhase.slot_of_flagged hi)
    · rwa [Function.update_of_ne hv] at hi

/-- A thread that has a slot gives it to one that has none. -/
theorem handed (h : SlotsOk slots phase) (ht : phase t = .holding i)
    (hu : phase u = .away) :
    SlotsOk slots (Function.update (Function.update phase t .away) u (.holding i)) := by
  have hphase : ∀ v, Function.update (Function.update phase t .away) u (.holding i) v =
      phase (Equiv.swap t u v) := by
    intro v
    by_cases hvu : v = u
    · rw [hvu, Function.update_self, Equiv.swap_apply_right, ht]
    · rw [Function.update_of_ne hvu]
      by_cases hvt : v = t
      · rw [hvt, Function.update_self, Equiv.swap_apply_left, hu]
      · rw [Function.update_of_ne hvt, Equiv.swap_apply_of_ne_of_ne hvt hvu]
  refine h.passed (Equiv.swap t u) (Equiv.swap t u).injective ?_ ?_ ?_
  · intro v
    by_cases hvu : v = u
    · right
      rw [hvu, Function.update_self, hu]
      exact ⟨rfl, rfl⟩
    · rw [Function.update_of_ne hvu]
      by_cases hvt : v = t
      · right
        rw [hvt, Function.update_self, ht]
        exact ⟨rfl, rfl⟩
      · left
        rw [Function.update_of_ne hvt]
  · intro v j hj
    rwa [hphase] at hj
  · intro v j hj
    rwa [hphase] at hj

/-- A statement of `server_acquire_connection_slot`. -/
theorem acquire (h : SlotsOk slots phase) {point : AcquirePoint}
    {next : AcquirePoint ⊕ Option Nat} (hpoint : phase t = .acquiring point)
    (hstep : serverAcquireConnectionSlot t slots point = some (slots', next)) :
    SlotsOk slots' (Function.update phase t (SlotPhase.afterAcquire next)) := by
  have hknows := h.knows t
  rw [hpoint] at hknows
  cases acquire_eq hstep with
  | locked slots' hlock =>
      exact h.locked hlock rfl rfl (by rw [hpoint]; rfl) (by rw [hpoint]; rfl) trivial
  | counted hpositive =>
      refine h.looked (by rw [hpoint]; rfl) (by rw [hpoint]; rfl) rfl rfl rfl
        ⟨Nat.zero_le _, ?_⟩
      intro j hj
      omega
  | full hnone =>
      have hcrit : (phase t).critical = true := by rw [hpoint]; rfl
      have hpending : (phase t).pending = 0 := by rw [hpoint]; rfl
      have hcount := h.count_of_critical hcrit
      refine h.looked hcrit hpending rfl rfl rfl ?_
      -- the count is zero, so there is no flag that is not set
      have hzero : unset serverMaxConnections slots.slotOccupiedFlags = 0 := by omega
      exact unset_eq_zero_iff.mp hzero
  | occupied j hj hset =>
      refine h.looked (by rw [hpoint]; rfl) (by rw [hpoint]; rfl) rfl rfl rfl
        ⟨by omega, ?_⟩
      intro k hk
      rcases Nat.lt_succ_iff_lt_or_eq.mp hk with hlt | rfl
      · exact hknows.2 k hlt
      · exact hset
  | found j hj hfree =>
      exact h.looked (by rw [hpoint]; rfl) (by rw [hpoint]; rfl) rfl rfl rfl ⟨hj, hfree⟩
  | exhausted j hj =>
      refine h.looked (by rw [hpoint]; rfl) (by rw [hpoint]; rfl) rfl rfl rfl ?_
      intro k hk
      exact hknows.2 k (by omega)
  | marked j =>
      have hcrit : (phase t).critical = true := by rw [hpoint]; rfl
      obtain ⟨hj, hfree⟩ := hknows
      refine h.inside hcrit rfl ((h.mutex t).mpr hcrit) ?_ ?_ ?_ ?_ trivial
      · have hcount := h.count_of_critical hcrit
        have hmark := unset_mark hj hfree
        have hpending : (phase t).pending = 0 := by rw [hpoint]; rfl
        simp only [SlotPhase.afterAcquire, SlotPhase.pending]
        omega
      · rintro i ⟨⟩
        exact hj
      · rintro i ⟨⟩
        exact Function.update_self ..
      · intro u hu i hi
        have hset := h.flag_of_ne hcrit hu hi
        -- the slot found was free, so it is none of theirs
        have hne : i ≠ j := by
          rintro rfl
          rw [hfree] at hset
          cases hset
        refine ⟨(Function.update_of_ne hne ..).trans hset, ?_⟩
        rintro ⟨⟩
        exact hne rfl
  | taken j =>
      have hcrit : (phase t).critical = true := by rw [hpoint]; rfl
      have hslot : (phase t).slot = some j := by rw [hpoint]; rfl
      have hset : slots.slotOccupiedFlags j = true := h.flagged t j (by rw [hpoint]; rfl)
      refine h.inside hcrit rfl ((h.mutex t).mpr hcrit) ?_ ?_ ?_ ?_ trivial
      · have hcount := h.count_of_critical hcrit
        have hpending : (phase t).pending = 1 := by rw [hpoint]; rfl
        simp only [SlotPhase.afterAcquire, SlotPhase.pending]
        omega
      · rintro i ⟨⟩
        exact h.lt t j hslot
      · rintro i ⟨⟩
        exact hset
      · intro u hu i hi
        refine ⟨h.flag_of_ne hcrit hu hi, ?_⟩
        rintro ⟨⟩
        exact hu (h.apart u t j hi hslot)
  | unlocked retval =>
      have hcrit : (phase t).critical = true := by rw [hpoint]; rfl
      have hslot : (phase t).slot = retval := by rw [hpoint]; rfl
      refine h.unlocked hcrit (by rw [hpoint]; rfl) ?_ ?_
      · cases retval <;> rfl
      · intro i hi
        cases retval with
        | none => cases hi
        | some j =>
            obtain rfl : j = i := Option.some.inj hi
            exact ⟨hslot, h.flagged t j (by rw [hpoint]; rfl)⟩

/-- A statement of `server_release_connection_slot`. -/
theorem release (h : SlotsOk slots phase) {point : ReleasePoint} {next : ReleasePoint ⊕ Unit}
    (hpoint : phase t = .releasing i point)
    (hstep : serverReleaseConnectionSlot t i slots point = some (slots', next)) :
    SlotsOk slots' (Function.update phase t (SlotPhase.afterRelease i next)) := by
  have hslot : (phase t).slot = some i := by rw [hpoint]; rfl
  cases release_eq hstep with
  | locked slots' hlock =>
      exact h.locked hlock rfl rfl hslot.symm (by rw [hpoint]; rfl) trivial
  | cleared =>
      have hcrit : (phase t).critical = true := by rw [hpoint]; rfl
      have hset : slots.slotOccupiedFlags i = true := h.flagged t i (by rw [hpoint]; rfl)
      refine h.inside hcrit rfl ((h.mutex t).mpr hcrit) ?_ ?_ ?_ ?_ trivial
      · have hcount := h.count_of_critical hcrit
        -- the flag goes down first, and the count is one short until the next statement
        have hclear := unset_clear (h.lt t i hslot) hset
        have hpending : (phase t).pending = 0 := by rw [hpoint]; rfl
        simp only [SlotPhase.afterRelease, SlotPhase.pending]
        omega
      · rintro j ⟨⟩
        exact h.lt t i hslot
      · rintro j ⟨⟩
      · intro u hu j hj
        -- no other thread has the slot, so its flag is not the one that went down
        have hne : j ≠ i := by
          rintro rfl
          exact hu (h.apart u t j hj hslot)
        refine ⟨(Function.update_of_ne hne ..).trans (h.flag_of_ne hcrit hu hj), ?_⟩
        rintro ⟨⟩
        exact hne rfl
  | counted =>
      have hcrit : (phase t).critical = true := by rw [hpoint]; rfl
      refine h.inside hcrit rfl ((h.mutex t).mpr hcrit) ?_ ?_ ?_ ?_ trivial
      · have hcount := h.count_of_critical hcrit
        -- the count makes up for the flag
        have hpending : (phase t).pending = -1 := by rw [hpoint]; rfl
        simp only [SlotPhase.afterRelease, SlotPhase.pending]
        omega
      · rintro j ⟨⟩
        exact h.lt t i hslot
      · rintro j ⟨⟩
      · intro u hu j hj
        refine ⟨h.flag_of_ne hcrit hu hj, ?_⟩
        rintro ⟨⟩
        exact hu (h.apart u t _ hj hslot)
  | unlocked =>
      have hcrit : (phase t).critical = true := by rw [hpoint]; rfl
      refine h.unlocked hcrit (by rw [hpoint]; rfl) rfl ?_
      rintro j ⟨⟩

end SlotsOk

/-! ## Every flag is someone's -/

/-- A flag is set on behalf of a thread that will clear it. -/
def SlotsOwned (slots : ServerSlots) (phase : ServerThread → SlotPhase) : Prop :=
  ∀ i, slots.slotOccupiedFlags i = true → ∃ t, (phase t).flagged = some i

namespace SlotsOwned

variable {slots slots' : ServerSlots} {phase : ServerThread → SlotPhase} {t u : ServerThread}
  {p : SlotPhase} {i : Nat}

theorem init : SlotsOwned serverInitSlotsData fun _ => .away := by
  intro i hi
  cases hi

/-- One thread goes on: the flags set for it stay its own, and those newly set become so. -/
theorem update (h : SlotsOwned slots phase)
    (hkept : ∀ i, (phase t).flagged = some i → slots'.slotOccupiedFlags i = true →
      p.flagged = some i)
    (hnew : ∀ i, slots'.slotOccupiedFlags i = true →
      slots.slotOccupiedFlags i = true ∨ p.flagged = some i) :
    SlotsOwned slots' (Function.update phase t p) := by
  intro i hi
  rcases hnew i hi with hbefore | hp
  · obtain ⟨u, hu⟩ := h i hbefore
    by_cases hut : u = t
    · subst hut
      exact ⟨u, by rw [Function.update_self]; exact hkept i hu hi⟩
    · exact ⟨u, by rw [Function.update_of_ne hut]; exact hu⟩
  · exact ⟨t, by rw [Function.update_self]; exact hp⟩

/-- The flags stay as they are, and the thread keeps its own. -/
theorem moved (h : SlotsOwned slots phase)
    (hflags : slots'.slotOccupiedFlags = slots.slotOccupiedFlags)
    (hkept : ∀ i, (phase t).flagged = some i → p.flagged = some i) :
    SlotsOwned slots' (Function.update phase t p) :=
  h.update (fun i hi _ => hkept i hi) fun i hi => Or.inl (by rw [← hflags]; exact hi)

theorem acquire (h : SlotsOwned slots phase) {point : AcquirePoint}
    {next : AcquirePoint ⊕ Option Nat} (hpoint : phase t = .acquiring point)
    (hstep : serverAcquireConnectionSlot t slots point = some (slots', next)) :
    SlotsOwned slots' (Function.update phase t (SlotPhase.afterAcquire next)) := by
  -- a thread that looks for a slot has none flagged
  have hnone : ∀ (slots₁ : ServerSlots) next₁, (SlotPhase.acquiring point).flagged = none →
      slots₁.slotOccupiedFlags = slots.slotOccupiedFlags →
      SlotsOwned slots₁ (Function.update phase t (SlotPhase.afterAcquire next₁)) := by
    intro slots₁ next₁ hflagged hflags
    refine h.moved hflags ?_
    intro i hi
    rw [hpoint, hflagged] at hi
    cases hi
  cases acquire_eq hstep with
  | locked slots' hlock => exact hnone _ _ rfl (lock_flags hlock)
  | counted hpositive => exact hnone _ _ rfl rfl
  | full hnot => exact hnone _ _ rfl rfl
  | occupied j hj hset => exact hnone _ _ rfl rfl
  | found j hj hfree => exact hnone _ _ rfl rfl
  | exhausted j hj => exact hnone _ _ rfl rfl
  | marked j =>
      refine h.update ?_ ?_
      · intro i hi
        rw [hpoint] at hi
        cases hi
      · intro i hi
        by_cases hij : i = j
        · rw [hij]
          exact Or.inr rfl
        · left
          change Function.update slots.slotOccupiedFlags j true i = true at hi
          rwa [Function.update_of_ne hij] at hi
  | taken j =>
      refine h.moved rfl ?_
      intro i hi
      rwa [hpoint] at hi
  | unlocked retval =>
      refine h.moved rfl ?_
      intro i hi
      rw [hpoint] at hi
      cases retval with
      | none => cases hi
      | some j => exact hi

theorem release (h : SlotsOwned slots phase) {point : ReleasePoint}
    {next : ReleasePoint ⊕ Unit} (hpoint : phase t = .releasing i point)
    (hstep : serverReleaseConnectionSlot t i slots point = some (slots', next)) :
    SlotsOwned slots' (Function.update phase t (SlotPhase.afterRelease i next)) := by
  cases release_eq hstep with
  | locked slots' hlock =>
      refine h.moved (lock_flags hlock) ?_
      intro j hj
      rwa [hpoint] at hj
  | cleared =>
      refine h.update ?_ ?_
      · intro j hj hset
        rw [hpoint] at hj
        obtain rfl := Option.some.inj hj
        change Function.update slots.slotOccupiedFlags i false i = true at hset
        rw [Function.update_self] at hset
        cases hset
      · intro j hset
        change Function.update slots.slotOccupiedFlags i false j = true at hset
        by_cases hj : j = i
        · rw [hj, Function.update_self] at hset
          cases hset
        · left
          rwa [Function.update_of_ne hj] at hset
  | counted | unlocked =>
      refine h.moved rfl ?_
      intro j hj
      rw [hpoint] at hj
      cases hj

/-- A thread gives its slot to another. -/
theorem handed (h : SlotsOwned slots phase) (ht : phase t = .holding i) (hu : phase u = .away)
    (hflags : slots'.slotOccupiedFlags = slots.slotOccupiedFlags) :
    SlotsOwned slots' (Function.update (Function.update phase t .away) u (.holding i)) := by
  intro j hj
  rw [hflags] at hj
  obtain ⟨v, hv⟩ := h j hj
  by_cases hvt : v = t
  · rw [hvt, ht] at hv
    exact ⟨u, by rw [Function.update_self]; exact hv⟩
  · have hvu : v ≠ u := by
      rintro rfl
      rw [hu] at hv
      cases hv
    exact ⟨v, by rw [Function.update_of_ne hvu, Function.update_of_ne hvt]; exact hv⟩

/-- With no thread at work on a slot, all are free. -/
theorem freeSlotsCount_eq (h : SlotsOwned slots phase) (hok : SlotsOk slots phase)
    (haway : ∀ t, phase t = .away) : slots.freeSlotsCount = serverMaxConnections := by
  have hmutex : slots.slotsMutex = none := by
    cases hmutex : slots.slotsMutex with
    | none => rfl
    | some t =>
        have hcrit := (hok.mutex t).mp hmutex
        rw [haway] at hcrit
        cases hcrit
  have hflags : ∀ i < serverMaxConnections, slots.slotOccupiedFlags i = false := by
    intro i _
    by_contra hset
    obtain ⟨t, ht⟩ := h i (by simpa using hset)
    rw [haway] at ht
    cases ht
  rw [hok.count_of_free hmutex, unset_eq hflags]

end SlotsOwned

end Stftpu
