import Mathlib.Data.List.Basic
import Mathlib.Tactic

/-!
# C strings in checked memory

A `char *` is modelled by the bytes that can be read from it on: the list ends
where the readable memory ends.  Every function below reads no more than its C
counterpart and returns `none` exactly when it would read past that end (or write
past the end of an array), so "all reads stay inside a block" is the statement that
the code does not return `none` when the readable memory is the block.

* `cstr` — the string at a pointer, up to its terminator; `strlen` is its length.
* `strcasecmpEq`, `strncmpEq`, `strcpy`, `strcat`, `strncat`, `strrchr`, `memcpy`, `atoi` — as
  in the C library.
* `cstr_of_mem`, `cstr_terminated` — what a terminated block holds.
-/

namespace Library

/-- The readable bytes from a pointer on. -/
abbrev CharPtr := List UInt8

/-- The string at a pointer, without its terminator. -/
def cstr : CharPtr → Option (List UInt8)
  | [] => none
  | c :: rest => if c = 0 then some [] else (cstr rest).map (c :: ·)

/-- The distance to the terminator. -/
def strlen (p : CharPtr) : Option Nat :=
  (cstr p).map List.length

/-- The bytes of an ASCII literal, without its terminator. -/
def ascii (s : String) : List UInt8 :=
  s.toList.map fun c => UInt8.ofNat c.toNat

/-- Lower case in the C locale. -/
def tolower (c : UInt8) : UInt8 :=
  if 65 ≤ c ∧ c ≤ 90 then c + 32 else c

/-- `strcasecmp (p, literal) == 0`.  Reading stops at the first difference. -/
def strcasecmpEq : CharPtr → List UInt8 → Option Bool
  | [], _ => none
  | c :: _, [] => some (c == 0)
  | c :: rest, l :: literal =>
      if tolower c = tolower l then strcasecmpEq rest literal else some false

/-- `strncmp (p, q, n) == 0`.  Reading stops at the first difference, and at a terminator. -/
def strncmpEq : Nat → CharPtr → CharPtr → Option Bool
  | 0, _, _ => some true
  | n + 1, c :: p, d :: q =>
      if c = d then if c = 0 then some true else strncmpEq n p q else some false
  | _ + 1, _, _ => none

/-- The first `n` bytes, or the bytes before an earlier terminator. -/
def readAtMost : Nat → CharPtr → Option (List UInt8)
  | 0, _ => some []
  | _ + 1, [] => none
  | n + 1, c :: rest => if c = 0 then some [] else (readAtMost n rest).map (c :: ·)

/-- The next `n` bytes, whatever they are. -/
def readBytes (p : CharPtr) (n : Nat) : Option (List UInt8) :=
  if n ≤ p.length then some (p.take n) else none

/-- Overwrite an array at an offset; `none` when the bytes do not fit. -/
def writeAt (array : List UInt8) (offset : Nat) (bytes : List UInt8) :
    Option (List UInt8) :=
  if offset + bytes.length ≤ array.length then
    some (array.take offset ++ bytes ++ array.drop (offset + bytes.length))
  else
    none

/-- `memcpy (array + offset, p, n)`. -/
def memcpy (array : List UInt8) (offset : Nat) (p : CharPtr) (n : Nat) :
    Option (List UInt8) := do
  writeAt array offset (← readBytes p n)

/-- `strncat (array, p, n)`: append at the array's terminator and terminate. -/
def strncat (array : List UInt8) (p : CharPtr) (n : Nat) : Option (List UInt8) := do
  let offset ← strlen array
  let bytes ← readAtMost n p
  writeAt array offset (bytes ++ [0])

/-- `strcpy (array, p)`. -/
def strcpy (array : List UInt8) (p : CharPtr) : Option (List UInt8) := do
  let bytes ← cstr p
  writeAt array 0 (bytes ++ [0])

/-- `strcat (array, p)`. -/
def strcat (array : List UInt8) (p : CharPtr) : Option (List UInt8) := do
  let offset ← strlen array
  let bytes ← cstr p
  writeAt array offset (bytes ++ [0])

/-- `strrchr (p, c)` for a non-zero `c`: the pointer to its last occurrence. -/
def strrchr (c : UInt8) : CharPtr → Option (Option CharPtr)
  | [] => none
  | b :: rest =>
      if b = 0 then
        some none
      else
        match strrchr c rest with
        | none => none
        | some (some p) => some (some p)
        | some none => some (if b = c then some (b :: rest) else none)

/-- What lies behind the last occurrence of a byte, or everything when it does not
occur. -/
def afterLast (c : UInt8) : List UInt8 → List UInt8
  | [] => []
  | b :: rest => if c ∈ rest then afterLast c rest else if b = c then rest else b :: rest

/-- White space skipped by the number conversions. -/
def isSpace (c : UInt8) : Bool :=
  c == 32 || (9 ≤ c && c ≤ 13)

def isDigit (c : UInt8) : Bool :=
  48 ≤ c && c ≤ 57

/-- Skip white space. -/
def skipSpace : CharPtr → CharPtr
  | [] => []
  | c :: rest => if isSpace c then skipSpace rest else c :: rest

/-- Accumulate decimal digits up to the first other byte. -/
def readDigits : Nat → CharPtr → Option Nat
  | _, [] => none
  | acc, c :: rest =>
      if isDigit c then readDigits (acc * 10 + (c.toNat - 48)) rest else some acc

/-- `strtol (p, NULL, 10)` on a host with 64-bit `long`, saturating. -/
def strtol (p : CharPtr) : Option Int :=
  let saturate (v : Int) : Int := max (-(2 ^ 63)) (min (2 ^ 63 - 1) v)
  match skipSpace p with
  | [] => none
  | c :: rest =>
      if c = 45 then (readDigits 0 rest).map fun n : Nat => saturate (-(n : Int))
      else if c = 43 then (readDigits 0 rest).map fun n : Nat => saturate (n : Int)
      else (readDigits 0 (c :: rest)).map fun n : Nat => saturate (n : Int)

/-- `atoi (p)`: `strtol` cut down to a 32-bit `int`. -/
def atoi (p : CharPtr) : Option Int :=
  (strtol p).map fun v => v.bmod (2 ^ 32)

/-! ### Terminated strings -/

/-- The string at a pointer ends within the first bytes exactly if these hold a
terminator. -/
theorem cstr_append_iff {front rest : List UInt8} :
    (∃ s, cstr (front ++ rest) = some s ∧ s.length < front.length) ↔ 0 ∈ front := by
  induction front with
  | nil => simp
  | cons c front ih =>
      by_cases hc : c = 0
      · subst hc
        exact iff_of_true ⟨[], by simp [cstr], by simp⟩ List.mem_cons_self
      · have hmem : 0 ∈ c :: front ↔ 0 ∈ front := by simp [Ne.symm hc]
        rw [hmem, ← ih]
        simp only [List.cons_append, cstr, hc, if_false, Option.map_eq_some_iff,
          List.length_cons]
        constructor
        · rintro ⟨_, ⟨s, hs, rfl⟩, hlen⟩
          exact ⟨s, hs, by simpa using hlen⟩
        · rintro ⟨s, hs, hlen⟩
          exact ⟨c :: s, ⟨s, hs, rfl⟩, by simpa using hlen⟩

/-- A block that holds a terminator holds a string: the bytes before the first
one. -/
theorem cstr_of_mem {p : CharPtr} (h : 0 ∈ p) : cstr p = some (p.takeWhile (· ≠ 0)) := by
  induction p with
  | nil => simp at h
  | cons c rest ih =>
      by_cases hc : c = 0
      · simp [cstr, hc]
      · have hrest : 0 ∈ rest := by
          rcases List.mem_cons.mp h with h0 | hmem
          · exact absurd h0.symm hc
          · exact hmem
        simp [cstr, hc, ih hrest]

/-- Non-zero bytes followed by a terminator are the string they spell. -/
theorem cstr_terminated {s : List UInt8} (hs : ∀ c ∈ s, c ≠ 0) (rest : List UInt8) :
    cstr (s ++ 0 :: rest) = some s := by
  induction s with
  | nil => simp [cstr]
  | cons c s ih =>
      have hc : c ≠ 0 := hs c (by simp)
      simp [cstr, hc, ih fun b hb => hs b (by simp [hb])]

/-- `strrchr` finds the last occurrence in a terminated string. -/
theorem strrchr_terminated {c : UInt8} {s : List UInt8} (hs : ∀ b ∈ s, b ≠ 0)
    (rest : List UInt8) :
    strrchr c (s ++ 0 :: rest) =
      some (if c ∈ s then some (c :: (afterLast c s ++ 0 :: rest)) else none) := by
  induction s with
  | nil => simp [strrchr]
  | cons b s ih =>
      have hb : b ≠ 0 := hs b (by simp)
      have htail := ih fun x hx => hs x (by simp [hx])
      by_cases hmem : c ∈ s
      · simp [strrchr, hb, htail, hmem, afterLast]
      · by_cases hbc : b = c
        · subst hbc
          simp [strrchr, hb, htail, hmem, afterLast]
        · simp [strrchr, hb, htail, hmem, hbc, Ne.symm hbc]

theorem afterLast_of_notMem {c : UInt8} {s : List UInt8} (h : c ∉ s) : afterLast c s = s := by
  cases s with
  | nil => rfl
  | cons b rest =>
      simp only [List.mem_cons, not_or] at h
      simp [afterLast, h.2, Ne.symm h.1]

theorem afterLast_length_le (c : UInt8) (s : List UInt8) : (afterLast c s).length ≤ s.length := by
  induction s with
  | nil => exact Nat.le_refl 0
  | cons x rest ih =>
      simp only [afterLast]
      split
      · exact Nat.le_succ_of_le ih
      · split
        · exact Nat.le_succ _
        · exact Nat.le_refl _

theorem mem_of_mem_afterLast {b c : UInt8} {s : List UInt8} (h : b ∈ afterLast c s) : b ∈ s := by
  induction s with
  | nil => exact h
  | cons x rest ih =>
      simp only [afterLast] at h
      split at h
      · exact List.mem_cons_of_mem x (ih h)
      · split at h
        · exact List.mem_cons_of_mem x h
        · exact h

/-- What `cstr` reads, spelled out. -/
theorem cstr_eq_some {p : CharPtr} {s : List UInt8} (h : cstr p = some s) :
    (∀ c ∈ s, c ≠ 0) ∧ ∃ rest, p = s ++ 0 :: rest := by
  induction p generalizing s with
  | nil => simp [cstr] at h
  | cons c rest ih =>
      by_cases hc : c = 0
      · obtain rfl : [] = s := by simpa [cstr, hc] using h
        exact ⟨by simp, rest, by simp [hc]⟩
      · simp only [cstr, hc, if_false, Option.map_eq_some_iff] at h
        obtain ⟨s', hs', rfl⟩ := h
        obtain ⟨hne, tail, rfl⟩ := ih hs'
        refine ⟨?_, tail, rfl⟩
        intro b hb
        rcases List.mem_cons.mp hb with rfl | hb'
        · exact hc
        · exact hne b hb'

@[simp] theorem strlen_terminated {s : List UInt8} (hs : ∀ c ∈ s, c ≠ 0)
    (rest : List UInt8) : strlen (s ++ 0 :: rest) = some s.length := by
  simp [strlen, cstr_terminated hs]

/-- A bounded read of a string gives the string, cut at the bound. -/
theorem readAtMost_terminated {s : List UInt8} (hs : ∀ c ∈ s, c ≠ 0) (rest : List UInt8)
    (n : Nat) : readAtMost n (s ++ 0 :: rest) = some (s.take n) := by
  induction s generalizing n with
  | nil => cases n <;> simp [readAtMost]
  | cons c s ih =>
      cases n with
      | zero => simp [readAtMost]
      | succ n =>
          have hc : c ≠ 0 := hs c (by simp)
          simp [readAtMost, hc, ih fun b hb => hs b (by simp [hb])]

/-- Lower case keeps bytes other than the terminator apart from it. -/
theorem tolower_ne_zero {c : UInt8} (h : c ≠ 0) : tolower c ≠ 0 := by
  unfold tolower
  split
  · rename_i hrange
    obtain ⟨hlow, hhigh⟩ := hrange
    intro h0
    have hlow' : 65 ≤ c.toNat := by simpa using UInt8.le_iff_toNat_le.mp hlow
    have hhigh' : c.toNat ≤ 90 := by simpa using UInt8.le_iff_toNat_le.mp hhigh
    have hsum := congrArg UInt8.toNat h0
    simp only [UInt8.toNat_add, UInt8.reduceToNat] at hsum
    omega
  · exact h

theorem tolower_zero : tolower 0 = 0 := by decide

/-- Comparing a string with a literal compares the two in lower case. -/
theorem strcasecmpEq_terminated {s literal : List UInt8} (hs : ∀ c ∈ s, c ≠ 0)
    (hl : ∀ l ∈ literal, l ≠ 0) (rest : List UInt8) :
    strcasecmpEq (s ++ 0 :: rest) literal =
      some (decide (s.map tolower = literal.map tolower)) := by
  induction s generalizing literal with
  | nil =>
      cases literal with
      | nil => simp [strcasecmpEq]
      | cons l literal =>
          have hne : tolower 0 ≠ tolower l := by
            rw [tolower_zero]
            exact (tolower_ne_zero (hl l (by simp))).symm
          simp [strcasecmpEq, hne]
  | cons c s ih =>
      cases literal with
      | nil =>
          have hc : c ≠ 0 := hs c (by simp)
          simp [strcasecmpEq, hc]
      | cons l literal =>
          have htail := ih (fun x hx => hs x (by simp [hx]))
            (show ∀ x ∈ literal, _ from fun x hx => hl x (by simp [hx]))
          by_cases hcl : tolower c = tolower l
          · simp [strcasecmpEq, hcl, htail]
          · simp [strcasecmpEq, hcl]

/-- The bytes of a fixed text, checked one by one. -/
theorem ne_zero_of_all {s : List UInt8} (h : s.all (fun c => c != 0) = true) :
    ∀ c ∈ s, c ≠ 0 := by
  intro c hc
  exact bne_iff_ne.mp (List.all_eq_true.mp h c hc)

/-! What a pointer to a terminated string gives. -/

section Terminated

variable {p : CharPtr} {s : List UInt8}

theorem strlen_of_cstr (h : cstr p = some s) : strlen p = some s.length := by
  simp [strlen, h]

theorem strcasecmpEq_of_cstr (h : cstr p = some s) {literal : List UInt8}
    (hl : ∀ l ∈ literal, l ≠ 0) :
    strcasecmpEq p literal = some (decide (s.map tolower = literal.map tolower)) := by
  obtain ⟨hs, rest, rfl⟩ := cstr_eq_some h
  exact strcasecmpEq_terminated hs hl rest

/-- Comparing the first bytes of two strings compares the two, cut there. -/
theorem strncmpEq_of_cstr (h : cstr p = some s) {q : CharPtr} {t : List UInt8}
    (hq : cstr q = some t) (n : Nat) :
    strncmpEq n p q = some (decide (s.take n = t.take n)) := by
  obtain ⟨hs, rest, rfl⟩ := cstr_eq_some h
  obtain ⟨ht, rest', rfl⟩ := cstr_eq_some hq
  clear h hq
  induction n generalizing s t with
  | zero => simp [strncmpEq]
  | succ n ih =>
      cases s with
      | nil =>
          cases t with
          | nil => simp [strncmpEq]
          | cons d t =>
              have hd : d ≠ 0 := ht d (by simp)
              simp [strncmpEq, hd.symm]
      | cons c s =>
          have hc : c ≠ 0 := hs c (by simp)
          cases t with
          | nil => simp [strncmpEq, hc]
          | cons d t =>
              have htail := ih (fun x hx => hs x (List.mem_cons_of_mem c hx))
                (fun x hx => ht x (List.mem_cons_of_mem d hx))
              by_cases hcd : c = d
              · simp [strncmpEq, hcd, hcd ▸ hc, htail]
              · simp [strncmpEq, hcd]

theorem readAtMost_of_cstr (h : cstr p = some s) (n : Nat) :
    readAtMost n p = some (s.take n) := by
  obtain ⟨hs, rest, rfl⟩ := cstr_eq_some h
  exact readAtMost_terminated hs rest n

theorem mem_of_cstr (h : cstr p = some s) : 0 ∈ p := by
  obtain ⟨-, rest, rfl⟩ := cstr_eq_some h
  simp

/-- Bytes padded with zeros spell what precedes their first zero. -/
theorem cstr_padded (bytes rest : List UInt8) {n : Nat} (hn : 0 < n) :
    cstr (bytes ++ List.replicate n 0 ++ rest) = some (bytes.takeWhile (· ≠ 0)) := by
  induction bytes with
  | nil =>
      obtain ⟨m, rfl⟩ := Nat.exists_eq_succ_of_ne_zero (Nat.pos_iff_ne_zero.mp hn)
      simp [List.replicate_succ, cstr]
  | cons c bytes ih =>
      by_cases hc : c = 0
      · simp [cstr, hc]
      · simp only [List.cons_append, cstr, hc, if_false, ih]
        simp [hc]

end Terminated

theorem skipSpace_mem {p : CharPtr} (h : 0 ∈ p) : 0 ∈ skipSpace p := by
  induction p with
  | nil => simp at h
  | cons c rest ih =>
      by_cases hc : isSpace c = true
      · have hrest : 0 ∈ rest := by
          rcases List.mem_cons.mp h with h0 | hmem
          · rw [← h0] at hc
            simp [isSpace] at hc
          · exact hmem
        simp [skipSpace, hc, ih hrest]
      · simpa [skipSpace, hc] using h

/-- Digits up to another byte are accumulated in base ten. -/
theorem readDigits_digits {digits : List UInt8} (hdigits : ∀ c ∈ digits, isDigit c = true)
    {c : UInt8} (hc : isDigit c = false) (rest : List UInt8) (acc : Nat) :
    readDigits acc (digits ++ c :: rest) =
      some (digits.foldl (fun acc d => acc * 10 + (d.toNat - 48)) acc) := by
  induction digits generalizing acc with
  | nil => simp [readDigits, hc]
  | cons d digits ih =>
      have hd : isDigit d = true := hdigits d (by simp)
      simp only [List.cons_append, readDigits, hd, if_true, List.foldl_cons]
      exact ih (fun x hx => hdigits x (by simp [hx])) _

/-- The value of a string of digits. -/
def digitsValue (digits : List UInt8) : Nat :=
  digits.foldl (fun acc d => acc * 10 + (d.toNat - 48)) 0

/-- A decimal integer, with or without a sign, and its value. -/
inductive DecimalString : List UInt8 → Int → Prop
  | unsigned {d : UInt8} {digits : List UInt8} (h : ∀ c ∈ d :: digits, isDigit c = true) :
      DecimalString (d :: digits) (digitsValue (d :: digits))
  | plus {digits : List UInt8} (hne : digits ≠ []) (h : ∀ c ∈ digits, isDigit c = true) :
      DecimalString (43 :: digits) (digitsValue digits)
  | minus {digits : List UInt8} (hne : digits ≠ []) (h : ∀ c ∈ digits, isDigit c = true) :
      DecimalString (45 :: digits) (-(digitsValue digits : Int))

/-- A digit is neither a sign nor white space. -/
theorem not_space_of_isDigit {d : UInt8} (hd : isDigit d = true) :
    isSpace d = false ∧ d ≠ 45 ∧ d ≠ 43 := by
  simp only [isDigit, Bool.and_eq_true, decide_eq_true_eq, UInt8.le_iff_toNat_le] at hd
  refine ⟨?_, ?_, ?_⟩
  · simp only [isSpace, Bool.or_eq_false_iff, Bool.and_eq_false_imp, beq_eq_false_iff_ne,
      decide_eq_true_eq, decide_eq_false_iff_not, UInt8.le_iff_toNat_le]
    refine ⟨?_, fun _ => ?_⟩
    · rintro rfl
      simp at hd
    · have hlow := hd.1
      simp only [UInt8.reduceToNat] at hlow ⊢
      omega
  · rintro rfl
    simp at hd
  · rintro rfl
    simp at hd

/-- A decimal integer is converted to its value, if that fits a 32-bit `int`. -/
theorem atoi_decimal {p : CharPtr} {s : List UInt8} {v : Int} (h : cstr p = some s)
    (hs : DecimalString s v) (hlow : -(2 ^ 31) ≤ v) (hhigh : v < 2 ^ 31) : atoi p = some v := by
  obtain ⟨-, rest, rfl⟩ := cstr_eq_some h
  -- a value that fits an `int` is neither saturated by `strtol` nor cut by the cast
  have hsaturate : max (-(2 ^ 63) : Int) (min (2 ^ 63 - 1) v) = v := by omega
  have hcut : v.bmod (2 ^ 32) = v := Int.bmod_eq_of_le (by omega) (by omega)
  cases hs with
  | unsigned hdigits =>
      rename_i d digits
      obtain ⟨hspace, hminus, hplus⟩ := not_space_of_isDigit (hdigits d (by simp))
      have hread := readDigits_digits hdigits (c := 0) (by decide) rest 0
      have hskip : skipSpace (d :: digits ++ 0 :: rest) = d :: (digits ++ 0 :: rest) := by
        simp [skipSpace, hspace]
      rw [List.cons_append] at hread
      unfold atoi strtol
      rw [hskip]
      simp only [hminus, hplus, if_false, hread, Option.map_some, Option.some.injEq]
      exact (congrArg (Int.bmod · (2 ^ 32)) hsaturate).trans hcut
  | plus hne hdigits =>
      rename_i digits
      have hread := readDigits_digits hdigits (c := 0) (by decide) rest 0
      have hskip : skipSpace (43 :: digits ++ 0 :: rest) = 43 :: (digits ++ 0 :: rest) := rfl
      unfold atoi strtol
      rw [hskip]
      simp only [if_neg (show (43 : UInt8) ≠ 45 by decide), if_true, hread, Option.map_some,
        Option.some.injEq]
      exact (congrArg (Int.bmod · (2 ^ 32)) hsaturate).trans hcut
  | minus hne hdigits =>
      rename_i digits
      have hread := readDigits_digits hdigits (c := 0) (by decide) rest 0
      have hskip : skipSpace (45 :: digits ++ 0 :: rest) = 45 :: (digits ++ 0 :: rest) := rfl
      unfold atoi strtol
      rw [hskip]
      simp only [if_true, hread, Option.map_some, Option.some.injEq]
      exact (congrArg (Int.bmod · (2 ^ 32)) hsaturate).trans hcut

/-- A string of digits is converted to its value, if that fits a 32-bit `int`. -/
theorem atoi_digits {d : UInt8} {digits : List UInt8} {p : CharPtr} {n : Nat}
    (h : cstr p = some (d :: digits)) (hdigits : ∀ c ∈ d :: digits, isDigit c = true)
    (hvalue : (d :: digits).foldl (fun acc d => acc * 10 + (d.toNat - 48)) 0 = n)
    (hn : n < 2 ^ 31) : atoi p = some (n : Int) := by
  have hs : DecimalString (d :: digits) n := by
    rw [← hvalue]
    exact DecimalString.unsigned hdigits
  exact atoi_decimal h hs (by omega) (by omega)

theorem readDigits_isSome {p : CharPtr} (h : 0 ∈ p) (acc : Nat) :
    ∃ n, readDigits acc p = some n := by
  induction p generalizing acc with
  | nil => simp at h
  | cons c rest ih =>
      by_cases hc : isDigit c = true
      · have hrest : 0 ∈ rest := by
          rcases List.mem_cons.mp h with h0 | hmem
          · rw [← h0] at hc
            simp [isDigit] at hc
          · exact hmem
        obtain ⟨n, hn⟩ := ih hrest (acc * 10 + (c.toNat - 48))
        exact ⟨n, by simp [readDigits, hc, hn]⟩
      · exact ⟨acc, by simp [readDigits, hc]⟩

/-- Number conversion needs no more than a terminated string. -/
theorem atoi_isSome {p : CharPtr} (h : 0 ∈ p) : ∃ v, atoi p = some v := by
  have hskip := skipSpace_mem h
  unfold atoi strtol
  cases hp : skipSpace p with
  | nil =>
      rw [hp] at hskip
      simp at hskip
  | cons c rest =>
      rw [hp] at hskip
      by_cases hminus : c = 45
      · have hrest : 0 ∈ rest := by simpa [hminus] using hskip
        obtain ⟨n, hn⟩ := readDigits_isSome hrest 0
        simp [hminus, hn]
      · by_cases hplus : c = 43
        · have hrest : 0 ∈ rest := by simpa [hplus] using hskip
          obtain ⟨n, hn⟩ := readDigits_isSome hrest 0
          simp [hplus, hn]
        · obtain ⟨n, hn⟩ := readDigits_isSome hskip 0
          simp [hminus, hplus, hn]

/-! ### Array writes -/

theorem writeAt_eq {array bytes : List UInt8} {offset : Nat}
    (h : offset + bytes.length ≤ array.length) :
    writeAt array offset bytes =
      some (array.take offset ++ bytes ++ array.drop (offset + bytes.length)) := by
  simp [writeAt, h]

/-- A write leaves what lies before it. -/
theorem writeAt_take {array array' bytes : List UInt8} {offset k : Nat} (hk : k ≤ offset)
    (h : writeAt array offset bytes = some array') : array'.take k = array.take k := by
  unfold writeAt at h
  split at h
  · rename_i hfit
    obtain rfl := Option.some.inj h
    have hlen : k ≤ (array.take offset).length := by
      rw [List.length_take]
      omega
    rw [List.append_assoc, List.take_append_of_le_length hlen, List.take_take,
      min_eq_left hk]
  · cases h

/-- Writing behind the part of an array already filled, the rest being zero. -/
theorem writeAt_zeros (front bytes : List UInt8) (room : Nat) (h : bytes.length ≤ room) :
    writeAt (front ++ List.replicate room 0) front.length bytes =
      some (front ++ bytes ++ List.replicate (room - bytes.length) 0) := by
  rw [writeAt_eq (by simp; omega)]
  simp [List.drop_append]

/-- Appending to a string in an array with room behind it. -/
theorem strncat_padded {s t : List UInt8} (hs : ∀ c ∈ s, c ≠ 0) {p : CharPtr}
    (hp : cstr p = some t) (n room : Nat) (hroom : n < room) :
    ∃ array, strncat (s ++ List.replicate room 0) p n = some array ∧
      cstr array = some (s ++ t.take n) := by
  have hlen : (t.take n ++ [0]).length ≤ room := by
    simp only [List.length_append, List.length_take, List.length_singleton]
    omega
  obtain ⟨m, rfl⟩ : ∃ m, room = m + 1 := ⟨room - 1, by omega⟩
  have hoffset : strlen (s ++ List.replicate (m + 1) 0) = some s.length := by
    rw [List.replicate_succ]
    exact strlen_terminated hs _
  refine ⟨s ++ (t.take n ++ [0]) ++ List.replicate (m + 1 - (t.take n ++ [0]).length) 0, ?_, ?_⟩
  · simp only [strncat, hoffset, readAtMost_of_cstr hp, Option.bind_eq_bind, Option.bind_some]
    exact writeAt_zeros s _ _ hlen
  · have hne : ∀ c ∈ s ++ t.take n, c ≠ 0 := by
      intro c hc
      rcases List.mem_append.mp hc with hmem | hmem
      · exact hs c hmem
      · exact (cstr_eq_some hp).1 c (List.mem_of_mem_take hmem)
    rw [← List.append_assoc s, List.append_assoc (s ++ t.take n)]
    exact cstr_terminated hne _

/-- What is read of a string has no terminator in it. -/
theorem readAtMost_ne_zero {n : Nat} {p : CharPtr} {bytes : List UInt8}
    (h : readAtMost n p = some bytes) : ∀ c ∈ bytes, c ≠ 0 := by
  induction n generalizing p bytes with
  | zero =>
      obtain rfl : bytes = [] := by simpa [readAtMost] using h.symm
      simp
  | succ n ih =>
      cases p with
      | nil => cases h
      | cons c rest =>
          simp only [readAtMost] at h
          split at h
          · obtain rfl := Option.some.inj h
            simp
          · rename_i hc
            obtain ⟨tail, htail, rfl⟩ := Option.map_eq_some_iff.mp h
            intro d hd
            rcases List.mem_cons.mp hd with rfl | hmem
            · exact hc
            · exact ih htail d hmem

/-- What is read is the front of the string. -/
theorem readAtMost_eq {n : Nat} {p : CharPtr} {bytes : List UInt8}
    (h : readAtMost n p = some bytes) : bytes = (p.takeWhile (· ≠ 0)).take n := by
  induction n generalizing p bytes with
  | zero => simpa [readAtMost] using h.symm
  | succ n ih =>
      cases p with
      | nil => cases h
      | cons c rest =>
          simp only [readAtMost] at h
          split at h
          · rename_i hc
            obtain rfl := Option.some.inj h
            simp [hc]
          · rename_i hc
            obtain ⟨tail, htail, rfl⟩ := Option.map_eq_some_iff.mp h
            rw [ih htail]
            simp [hc]

/-- The bytes of a string that are looked at lie in the front of the memory. -/
theorem take_takeWhile_append {α : Type*} {p : α → Bool} {xs : List α} {n : Nat}
    (h : n ≤ xs.length) (ys : List α) :
    ((xs ++ ys).takeWhile p).take n = (xs.takeWhile p).take n := by
  induction xs generalizing n with
  | nil =>
      obtain rfl : n = 0 := by simpa using h
      rw [List.take_zero, List.take_zero]
  | cons x xs ih =>
      cases n with
      | zero => rw [List.take_zero, List.take_zero]
      | succ n =>
          have hrest := ih (n := n) (by simpa using h)
          by_cases hx : p x = true
          · simp [hx, hrest]
          · simp [hx]

/-- The front of the string appended is there, behind what stood there before. -/
theorem cstr_strncat_take {s : List UInt8} (hs : ∀ c ∈ s, c ≠ 0) {p : CharPtr} {n : Nat}
    {array : List UInt8} {room : Nat}
    (h : strncat (s ++ List.replicate (room + 1) 0) p n = some array) :
    cstr array = some (s ++ (p.takeWhile (· ≠ 0)).take n) ∧
      ((p.takeWhile (· ≠ 0)).take n).length ≤ room := by
  have hoffset : strlen (s ++ List.replicate (room + 1) 0) = some s.length := by
    rw [List.replicate_succ]
    exact strlen_terminated hs _
  simp only [strncat, hoffset, Option.bind_eq_bind, Option.bind_some] at h
  obtain ⟨bytes, hbytes, hwrite⟩ := Option.bind_eq_some_iff.mp h
  have hne : ∀ c ∈ s ++ bytes, c ≠ 0 := by
    intro c hc
    rcases List.mem_append.mp hc with hmem | hmem
    · exact hs c hmem
    · exact readAtMost_ne_zero hbytes c hmem
  rw [← readAtMost_eq hbytes]
  unfold writeAt at hwrite
  split at hwrite
  · rename_i hfit
    obtain rfl := Option.some.inj hwrite
    constructor
    · rw [List.take_left, ← List.append_assoc s, List.append_assoc (s ++ bytes)]
      exact cstr_terminated hne _
    · simp only [List.length_append, List.length_singleton, List.length_replicate] at hfit
      omega
  · cases hwrite

/-- Whatever was appended, there is a string in the array. -/
theorem cstr_strncat {s : List UInt8} (hs : ∀ c ∈ s, c ≠ 0) {p : CharPtr} {n : Nat}
    {array : List UInt8} (room : Nat)
    (h : strncat (s ++ List.replicate (room + 1) 0) p n = some array) :
    ∃ t, t.length ≤ room ∧ cstr array = some (s ++ t) := by
  obtain ⟨hstring, hlength⟩ := cstr_strncat_take hs h
  exact ⟨_, hlength, hstring⟩

/-- A string written behind the part of an array already filled is terminated by the zeros
that were there. -/
theorem writeAt_string (front bytes : List UInt8) (room : Nat) (h : bytes.length < room) :
    writeAt (front ++ List.replicate room 0) front.length (bytes ++ [0]) =
      some (front ++ bytes ++ List.replicate (room - bytes.length) 0) := by
  have hlen : (bytes ++ [0]).length = bytes.length + 1 := by simp
  obtain ⟨m, hm⟩ : ∃ m, room - bytes.length = m + 1 := ⟨room - bytes.length - 1, by omega⟩
  have hrest : room - (bytes.length + 1) = m := by omega
  rw [writeAt_zeros front (bytes ++ [0]) room (by omega), hlen, hrest, hm, List.replicate_succ]
  simp

/-- A copy to zeroed memory. -/
theorem strcpy_zeros {s : List UInt8} {p : CharPtr} (hp : cstr p = some s) {room : Nat}
    (hroom : s.length < room) :
    strcpy (List.replicate room 0) p = some (s ++ List.replicate (room - s.length) 0) := by
  simp only [strcpy, hp, Option.bind_eq_bind, Option.bind_some]
  exact writeAt_string [] s room hroom

theorem strcat_padded {s t : List UInt8} (hs : ∀ c ∈ s, c ≠ 0) {p : CharPtr}
    (hp : cstr p = some t) {room : Nat} (hroom : t.length < room) :
    strcat (s ++ List.replicate room 0) p =
      some (s ++ t ++ List.replicate (room - t.length) 0) := by
  obtain ⟨m, rfl⟩ : ∃ m, room = m + 1 := ⟨room - 1, by omega⟩
  have hoffset : strlen (s ++ List.replicate (m + 1) 0) = some s.length := by
    rw [List.replicate_succ]
    exact strlen_terminated hs _
  simp only [strcat, hoffset, hp, Option.bind_eq_bind, Option.bind_some]
  exact writeAt_string s t (m + 1) hroom

/-- A copy of what can be read to where it fits leaves the array's length. -/
theorem memcpy_fits {array : List UInt8} {p : CharPtr} {offset n : Nat} (hread : n ≤ p.length)
    (hfit : offset + n ≤ array.length) :
    ∃ array', memcpy array offset p n = some array' ∧ array'.length = array.length := by
  have hlen : (p.take n).length = n := by
    rw [List.length_take]
    omega
  have hfit' : offset + (p.take n).length ≤ array.length := by
    rw [hlen]
    exact hfit
  refine ⟨array.take offset ++ p.take n ++ array.drop (offset + (p.take n).length), ?_, ?_⟩
  · rw [memcpy, readBytes, if_pos hread]
    exact writeAt_eq hfit'
  · simp only [List.length_append, List.length_take, List.length_drop]
    omega

/-- Copying behind the part of an array already filled, the rest being zero. -/
theorem memcpy_zeros (front bytes rest : List UInt8) (room : Nat) (h : bytes.length ≤ room) :
    memcpy (front ++ List.replicate room 0) front.length (bytes ++ rest) bytes.length =
      some (front ++ bytes ++ List.replicate (room - bytes.length) 0) := by
  have hread : readBytes (bytes ++ rest) bytes.length = some bytes := by
    simp [readBytes]
  simp only [memcpy, hread, Option.bind_eq_bind, Option.bind_some]
  exact writeAt_zeros front bytes room h

end Library
