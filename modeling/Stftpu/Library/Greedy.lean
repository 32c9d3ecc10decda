import Mathlib.Data.List.Basic
import Mathlib.Tactic

/-!
# Picking numbered items out of a stream

A reader waits for item `n`, passes over everything else and goes on to item `n + 1`, until
an item it takes is the last one.  `pick n r` is the item that `r` brings when item `n` is
awaited.

* `matched` — the items picked, in order.
* `MissesSince` — how many misses there were since the last of them.
* `Overruns` — somewhere more misses than allowed came between two items.
-/

namespace Library

variable {ρ α : Type*} (pick : Nat → ρ → Option α) (last : α → Bool)

/-- The items picked greedily, the first of them awaited under number `n`. -/
def matched : Nat → List ρ → List α
  | _, [] => []
  | n, r :: rs =>
      match pick n r with
      | some a => a :: (if last a then [] else matched (n + 1) rs)
      | none => matched n rs

variable {pick last} {n m limit : Nat} {rs rs' : List ρ} {r : ρ} {a : α}

@[simp] theorem matched_nil : matched pick last n [] = [] := rfl

/-- Behind the last item nothing is picked. -/
theorem matched_append_of_last (h : ∃ a ∈ matched pick last n rs, last a = true) :
    matched pick last n (rs ++ rs') = matched pick last n rs := by
  induction rs generalizing n with
  | nil => simp at h
  | cons r rs ih =>
      simp only [List.cons_append, matched] at h ⊢
      cases hpick : pick n r with
      | none =>
          simp only [hpick] at h ⊢
          exact ih h
      | some a =>
          simp only [hpick] at h ⊢
          cases hlast : last a with
          | true => simp
          | false =>
              simp only [hlast, Bool.false_eq_true, if_false, List.mem_cons] at h ⊢
              obtain ⟨c, rfl | hc, hlastc⟩ := h
              · rw [hlast] at hlastc
                cases hlastc
              · rw [ih ⟨c, hc, hlastc⟩]

/-- Before the last item, what a result brings is picked. -/
theorem matched_concat (h : ∀ a ∈ matched pick last n rs, last a = false) :
    matched pick last n (rs ++ [r]) =
      matched pick last n rs ++ (pick (n + (matched pick last n rs).length) r).toList := by
  induction rs generalizing n with
  | nil =>
      simp only [List.nil_append, matched, List.length_nil, Nat.add_zero]
      cases pick n r <;> simp
  | cons s rs ih =>
      simp only [List.cons_append, matched] at h ⊢
      cases hpick : pick n s with
      | none =>
          simp only [hpick] at h ⊢
          exact ih h
      | some a =>
          simp only [hpick] at h ⊢
          have hlast : last a = false := h a (by simp)
          simp only [hlast, Bool.false_eq_true, if_false, List.mem_cons] at h ⊢
          rw [ih fun c hc => h c (Or.inr hc), List.length_cons, List.cons_append]
          rw [show n + 1 + (matched pick last (n + 1) rs).length =
            n + ((matched pick last (n + 1) rs).length + 1) by omega]

/-- More results bring no fewer items. -/
theorem matched_prefix : matched pick last n rs <+: matched pick last n (rs ++ rs') := by
  induction rs' using List.reverseRecOn with
  | nil => simp
  | append_singleton rs' r ih =>
      rw [← List.append_assoc]
      by_cases h : ∃ a ∈ matched pick last n (rs ++ rs'), last a = true
      · rw [matched_append_of_last h]
        exact ih
      · rw [matched_concat]
        · exact ih.trans (List.prefix_append _ _)
        · intro a ha
          cases hlast : last a with
          | false => rfl
          | true => exact absurd ⟨a, ha, hlast⟩ h

/-! ### Misses -/

section Misses

variable (pick last) (miss : ρ → Bool)

/-- The longest stretch at the end of `rs` in which nothing was picked has `m` misses. -/
def MissesSince (n : Nat) (rs : List ρ) (m : Nat) : Prop :=
  (∃ before since, rs = before ++ since ∧
      matched pick last n rs = matched pick last n before ∧ since.countP miss = m) ∧
    ∀ before since, rs = before ++ since →
      matched pick last n rs = matched pick last n before → since.countP miss ≤ m

/-- In some stretch of `rs` nothing was picked and more than `limit` results were misses. -/
def Overruns (n limit : Nat) (rs : List ρ) : Prop :=
  ∃ before since rest, rs = before ++ since ++ rest ∧
    matched pick last n (before ++ since) = matched pick last n before ∧
    limit < since.countP miss

variable {pick last miss}

theorem missesSince_nil : MissesSince pick last miss n [] 0 := by
  refine ⟨⟨[], [], rfl, rfl, rfl⟩, ?_⟩
  intro before since h _
  obtain ⟨-, rfl⟩ := List.append_eq_nil_iff.mp h.symm
  exact Nat.le_refl _

/-- An item that is picked starts the count anew. -/
theorem missesSince_of_picked
    (h : matched pick last n (rs ++ [r]) = matched pick last n rs ++ [a]) :
    MissesSince pick last miss n (rs ++ [r]) 0 := by
  refine ⟨⟨rs ++ [r], [], by simp, rfl, rfl⟩, ?_⟩
  intro before since hsplit hsame
  rcases List.eq_nil_or_concat' since with rfl | ⟨since', r', rfl⟩
  · simp
  · -- the item would have been picked from what lies before it
    rw [← List.append_assoc] at hsplit
    obtain ⟨rfl, -⟩ := List.append_inj' hsplit rfl
    have hinitial : matched pick last n before <+: matched pick last n (before ++ since') :=
      matched_prefix
    have hlen := hinitial.length_le
    rw [h] at hsame
    have := congrArg List.length hsame
    simp only [List.length_append, List.length_singleton] at this
    omega

/-- A result that brings nothing is a miss or is passed over. -/
theorem missesSince_of_passed (h : MissesSince pick last miss n rs m)
    (hsame : matched pick last n (rs ++ [r]) = matched pick last n rs) :
    MissesSince pick last miss n (rs ++ [r]) (m + if miss r then 1 else 0) := by
  obtain ⟨⟨before, since, rfl, hbefore, rfl⟩, hmax⟩ := h
  refine ⟨⟨before, since ++ [r], by simp, hsame.trans hbefore, ?_⟩, ?_⟩
  · rw [List.countP_append, List.countP_singleton]
  · intro before' since' hsplit hsame'
    rcases List.eq_nil_or_concat' since' with rfl | ⟨since'', r', rfl⟩
    · simp
    · rw [← List.append_assoc] at hsplit
      obtain ⟨hinit, hr⟩ := List.append_inj' hsplit rfl
      obtain rfl : r = r' := by simpa using hr
      have hle := hmax before' since'' hinit (hsame.symm.trans hsame')
      rw [List.countP_append, List.countP_singleton]
      omega

theorem not_overruns_nil : ¬ Overruns pick last miss n limit [] := by
  rintro ⟨before, since, rest, h, -, hlimit⟩
  obtain ⟨hfront, -⟩ := List.append_eq_nil_iff.mp h.symm
  obtain ⟨-, rfl⟩ := List.append_eq_nil_iff.mp hfront
  simp at hlimit

/-- One more result overruns exactly when the misses since the last item do. -/
theorem overruns_concat_iff (hnot : ¬ Overruns pick last miss n limit rs)
    (h : MissesSince pick last miss n (rs ++ [r]) m) :
    Overruns pick last miss n limit (rs ++ [r]) ↔ limit < m := by
  obtain ⟨⟨before, since, hsplit, hsame, rfl⟩, hmax⟩ := h
  constructor
  · rintro ⟨before', since', rest, hsplit', hsame', hlimit⟩
    rcases List.eq_nil_or_concat' rest with rfl | ⟨rest', r', rfl⟩
    · rw [List.append_nil] at hsplit'
      have hle := hmax before' since' hsplit' (by rw [hsplit']; exact hsame')
      omega
    · rw [← List.append_assoc] at hsplit'
      obtain ⟨hinit, -⟩ := List.append_inj' hsplit' rfl
      exact absurd ⟨before', since', rest', hinit, hsame', hlimit⟩ hnot
  · intro hlimit
    exact ⟨before, since, [], by simp [hsplit], by rw [← hsplit]; exact hsame, hlimit⟩

end Misses

end Library
