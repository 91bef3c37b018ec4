import Mathlib.Order.Lattice
import Mathlib.Data.List.Basic

set_option autoImplicit false

/-! Python's stable `sorted(xs, key=key, reverse=reverse)`. -/

namespace Dify.Python

variable {α β : Type} [LinearOrder β]

def sorted (key : α → β) (reverse : Bool) (xs : List α) : List α :=
  xs.mergeSort fun a b => if reverse then key b ≤ key a else key a ≤ key b

section Reverse

variable {key : α → β}

def Descending (key : α → β) (xs : List α) : Prop := xs.Pairwise fun a b => key b ≤ key a

def Stable (key : α → β) (xs ys : List α) : Prop :=
  ∀ q, xs.filter (key · = q) = ys.filter (key · = q)

lemma Descending.filter {xs : List α} (h : Descending key xs) (p : α → Bool) :
    Descending key (xs.filter p) := List.Pairwise.filter p h

lemma Stable.mem {xs ys : List α} (h : Stable key xs ys) {a : α} (ha : a ∈ xs) : a ∈ ys := by
  have : a ∈ xs.filter (key · = key a) := by simpa using ha
  rw [h] at this
  exact List.mem_of_mem_filter this

lemma Stable.symm {xs ys : List α} (h : Stable key xs ys) : Stable key ys xs :=
  fun q => (h q).symm

lemma Stable.trans {xs ys zs : List α} (h₁ : Stable key xs ys) (h₂ : Stable key ys zs) :
    Stable key xs zs := fun q => (h₁ q).trans (h₂ q)

lemma Stable.cons {a : α} {xs ys : List α} (h : Stable key (a :: xs) (a :: ys)) :
    Stable key xs ys := by
  intro q
  have := h q
  by_cases hq : key a = q <;> simp_all

lemma Stable.filter {xs ys : List α} (h : Stable key xs ys) (p : α → Bool) :
    Stable key (xs.filter p) (ys.filter p) := by
  intro q
  have := congrArg (List.filter p) (h q)
  simpa only [List.filter_filter, Bool.and_comm] using this

lemma Stable.perm {xs ys : List α} (h : Stable key xs ys) : List.Perm xs ys := by
  classical
  refine List.perm_iff_count.mpr fun a => ?_
  simpa [List.count_filter] using congrArg (List.count a) (h (key a))

theorem eq_of_stable : ∀ {xs ys : List α}, Descending key xs → Descending key ys →
    Stable key xs ys → xs = ys
  | [], ys, _, _, h => (List.eq_nil_of_length_eq_zero h.perm.length_eq.symm).symm
  | a :: xs, [], _, _, h => absurd (h.mem (List.mem_cons_self a xs)) (List.not_mem_nil a)
  | a :: xs, b :: ys, hx, hy, h => by
    have h₁ : key a ≤ key b := by
      rcases List.mem_cons.mp (h.mem (List.mem_cons_self a xs)) with rfl | ha
      · rfl
      · exact List.rel_of_pairwise_cons hy ha
    have h₂ : key b ≤ key a := by
      rcases List.mem_cons.mp (h.symm.mem (List.mem_cons_self b ys)) with rfl | hb
      · rfl
      · exact List.rel_of_pairwise_cons hx hb
    have heq : a = b := by
      have := h (key a)
      simp only [List.filter_cons, decide_True, le_antisymm h₁ h₂, ite_true,
        List.cons.injEq] at this
      exact this.1
    subst heq
    rw [eq_of_stable hx.of_cons hy.of_cons h.cons]

theorem Descending.filter_eq_takeWhile {xs : List α} (h : Descending key xs) (p : α → Bool)
    (hp : ∀ a b, key b ≤ key a → p b → p a) : xs.filter p = xs.takeWhile p := by
  induction xs with
  | nil => rfl
  | cons a xs ih =>
    by_cases ha : p a
    · simp [List.filter_cons, List.takeWhile_cons, ha, ih h.of_cons]
    · have hnil : xs.filter p = [] := List.filter_eq_nil_iff.mpr fun b hb hpb =>
        ha (hp a b (List.rel_of_pairwise_cons h hb) hpb)
      simp [List.filter_cons, List.takeWhile_cons, ha, hnil]

variable (key)

lemma sorted_true (xs : List α) :
    sorted key true xs = xs.mergeSort fun a b => key b ≤ key a := rfl

lemma sorted_perm (xs : List α) : List.Perm (sorted key true xs) xs := List.mergeSort_perm _ _

lemma sorted_descending (xs : List α) : Descending key (sorted key true xs) := by
  have h : (sorted key true xs).Pairwise fun a b => decide (key b ≤ key a) :=
    List.sorted_mergeSort (by simpa using fun a b c h₁ h₂ => le_trans h₂ h₁)
      (by simpa using fun a b => le_total _ _) xs
  exact h.imp (by simp)

lemma sorted_stable (xs : List α) : Stable key (sorted key true xs) xs := by
  intro q
  have hc : List.Sublist (xs.filter (key · = q)) (sorted key true xs) :=
    List.sublist_mergeSort (by simpa using fun a b c h₁ h₂ => le_trans h₂ h₁)
      (by simpa using fun a b => le_total _ _)
      (List.pairwise_of_forall_mem_list fun a ha b hb => by
        simp only [List.mem_filter, decide_eq_true_eq] at ha hb
        simp [ha.2, hb.2]) (List.filter_sublist _)
  have hs : List.Sublist (xs.filter (key · = q)) ((sorted key true xs).filter (key · = q)) := by
    simpa using hc.filter (key · = q)
  exact (hs.eq_of_length ((sorted_perm key xs).filter _).length_eq.symm).symm

theorem eq_sorted_iff (xs ys : List α) :
    ys = sorted key true xs ↔ Descending key ys ∧ Stable key ys xs := by
  constructor
  · rintro rfl
    exact ⟨sorted_descending key xs, sorted_stable key xs⟩
  · rintro ⟨hd, hs⟩
    exact eq_of_stable hd (sorted_descending key xs) (hs.trans (sorted_stable key xs).symm)

theorem sorted_filter (p : α → Bool) (xs : List α) :
    sorted key true (xs.filter p) = (sorted key true xs).filter p :=
  ((eq_sorted_iff key _ _).mpr
    ⟨(sorted_descending key xs).filter p, (sorted_stable key xs).filter p⟩).symm

end Reverse

end Dify.Python
