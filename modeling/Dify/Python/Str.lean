import Mathlib.Data.List.Basic

set_option autoImplicit false

/-! Python's `str.split`, `x or default` and `str.lower()` on the strings the program handles. -/

namespace Dify.Python

def startswith (s pre : String) : Bool := pre.data.isPrefixOf s.data

def orDefault (x : Option String) (default : String) : String :=
  match x with
  | some s => if s.isEmpty then default else s
  | none => default

def asciiLower (s : String) : String := ⟨s.data.map Char.toLower⟩

lemma toNat_ofNat_of_lt {m : Nat} (h : m < 0xD800) : (Char.ofNat m).toNat = m := by
  have hv : m.isValidChar := Or.inl h
  simp only [Char.ofNat, dif_pos hv]
  rfl

lemma toLower_toLower (c : Char) : c.toLower.toLower = c.toLower := by
  unfold Char.toLower
  by_cases h : c.toNat ≥ 65 ∧ c.toNat ≤ 90
  · rw [if_pos h, toNat_ofNat_of_lt (by omega), if_neg (by omega)]
  · rw [if_neg h, if_neg h]

lemma asciiLower_asciiLower (s : String) : asciiLower (asciiLower s) = asciiLower s := by
  simp [asciiLower, Function.comp_def, toLower_toLower]

def split (s : String) (sep : Char) : List String := (s.data.splitOn sep).map String.mk

section Pieces

variable {α : Type} (p : α → Bool)

lemma head?_splitOnP : ∀ l : List α, (l.splitOnP p).head? = some (l.takeWhile (! p ·))
  | [] => rfl
  | a :: l => by
    rw [List.splitOnP_cons]
    by_cases h : p a
    · simp [h]
    · have := head?_splitOnP l
      cases hl : l.splitOnP p with
      | nil => exact absurd hl (List.splitOnP_ne_nil _ _)
      | cons w ws => simp_all [List.modifyHead]

lemma takeWhile_append_of_exists {l₁ l₂ : List α} (h : ∃ a ∈ l₁, p a = false) :
    (l₁ ++ l₂).takeWhile p = l₁.takeWhile p := by
  induction l₁ with
  | nil => simp at h
  | cons a l₁ ih =>
    by_cases ha : p a
    · have : ∃ b ∈ l₁, p b = false := by
        obtain ⟨b, hb, hpb⟩ := h
        rcases List.mem_cons.mp hb with rfl | hb
        · simp [ha] at hpb
        · exact ⟨b, hb, hpb⟩
      simp [List.takeWhile_cons, ha, ih this]
    · simp [List.takeWhile_cons, ha]

lemma getLast?_splitOnP_go : ∀ (l acc : List α), (List.splitOnP.go p l acc).getLast? =
    some (if ∀ a ∈ l, p a = false then acc.reverse ++ l
      else (l.reverse.takeWhile (! p ·)).reverse)
  | [], acc => by simp [List.splitOnP.go]
  | a :: l, acc => by
    have hex : ¬ (∀ b ∈ l, p b = false) → ∃ c ∈ l.reverse, (! p c) = false := fun hl => by
      push_neg at hl
      obtain ⟨b, hb, hpb⟩ := hl
      exact ⟨b, by simpa using hb, by simpa using hpb⟩
    by_cases ha : p a
    · rw [List.splitOnP.go, if_pos ha, List.getLast?_cons, getLast?_splitOnP_go l []]
      have hnot : ¬ ∀ b ∈ a :: l, p b = false := fun h => by simp [h a (List.mem_cons_self _ _)] at ha
      rw [if_neg hnot]
      by_cases hl : ∀ b ∈ l, p b = false
      · have hall : ∀ c ∈ l.reverse, (! p c) = true := by simpa using hl
        rw [if_pos hl]
        simp [List.takeWhile_append_of_pos hall, ha]
      · rw [if_neg hl]
        simp [takeWhile_append_of_exists _ (hex hl)]
    · rw [List.splitOnP.go, if_neg ha, getLast?_splitOnP_go l (a :: acc)]
      by_cases hl : ∀ b ∈ l, p b = false
      · have hal : ∀ b ∈ a :: l, p b = false := fun b hb => by
          rcases List.mem_cons.mp hb with rfl | hb
          · simpa using ha
          · exact hl b hb
        rw [if_pos hl, if_pos hal]
        simp
      · have hal : ¬ ∀ b ∈ a :: l, p b = false := fun h => hl fun b hb =>
          h b (List.mem_cons_of_mem _ hb)
        rw [if_neg hl, if_neg hal]
        simp [takeWhile_append_of_exists _ (hex hl)]

lemma getLast?_splitOnP (l : List α) :
    (l.splitOnP p).getLast? = some ((l.reverse.takeWhile (! p ·)).reverse) := by
  rw [List.splitOnP, getLast?_splitOnP_go]
  split
  · rename_i h
    have hall : ∀ x ∈ l.reverse, (! p x) = true := by simpa using h
    simp [List.takeWhile_eq_self_iff.mpr hall]
  · rfl

end Pieces

lemma split_head (s : String) (sep : Char) :
    (split s sep).headD "" = ⟨s.data.takeWhile (· != sep)⟩ := by
  simp [split, List.splitOn, List.headD_eq_head?_getD, head?_splitOnP]
  rfl

lemma split_last (s : String) (sep : Char) :
    (split s sep).getLastD "" = ⟨(s.data.reverse.takeWhile (· != sep)).reverse⟩ := by
  simp [split, List.splitOn, List.getLastD_eq_getLast?, List.getLast?_map, getLast?_splitOnP]
  rfl

end Dify.Python
