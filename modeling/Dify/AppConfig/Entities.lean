import Mathlib.Data.List.Nodup
import Dify.Python.Json.Encode

set_option autoImplicit false

/-! The string enums, validators and features of an app's configuration. -/

namespace Dify.AppConfig.Entities

open Dify.Python

def valueOf {α : Type} (members : List α) (value : α → String) (message : String → String)
    (v : String) : Except PyError α :=
  match members.find? (value · = v) with
  | some mode => .ok mode
  | none => .error (.valueError (message v))

section ValueOf

variable {α : Type} {members : List α} {value : α → String} (message : String → String)

lemma valueOf_value (hnd : (members.map value).Nodup) {m : α} (hm : m ∈ members) :
    valueOf members value message (value m) = .ok m := by
  have hs : (members.find? (value · = value m)).isSome := List.find?_isSome.mpr ⟨m, hm, by simp⟩
  obtain ⟨m', hm'⟩ := Option.isSome_iff_exists.mp hs
  have hv : value m' = value m := by simpa using List.find?_some hm'
  rw [valueOf, hm', List.inj_on_of_nodup_map hnd (List.mem_of_find?_eq_some hm') hm hv]

lemma valueOf_eq_ok {v : String} {m : α} (h : valueOf members value message v = .ok m) :
    m ∈ members ∧ value m = v := by
  unfold valueOf at h
  split at h
  · rename_i hf
    cases h
    exact ⟨List.mem_of_find?_eq_some hf, by simpa using List.find?_some hf⟩
  · cases h

lemma valueOf_eq_error {v : String} {e : PyError} :
    valueOf members value message v = .error e ↔
      e = .valueError (message v) ∧ ∀ m ∈ members, value m ≠ v := by
  unfold valueOf
  split
  · rename_i m hf
    exact ⟨fun h => (nomatch h), fun h =>
      absurd (by simpa using List.find?_some hf) (h.2 m (List.mem_of_find?_eq_some hf))⟩
  · rename_i hf
    have hn := List.find?_eq_none.mp hf
    simp only [Except.error.injEq]
    exact ⟨fun h => ⟨h.symm, fun m hm => by simpa using hn m hm⟩, fun h => h.1.symm⟩

end ValueOf

inductive PromptType
  | SIMPLE
  | ADVANCED
  deriving DecidableEq, Repr

def PromptType.value : PromptType → String
  | .SIMPLE => "simple"
  | .ADVANCED => "advanced"

def PromptType.members : List PromptType := [.SIMPLE, .ADVANCED]

def PromptType.valueOf (value : String) : Except PyError PromptType :=
  Dify.AppConfig.Entities.valueOf PromptType.members PromptType.value
    (fun value => "invalid prompt type value " ++ value) value

lemma PromptType.valueOf_value (p : PromptType) : PromptType.valueOf p.value = .ok p :=
  Dify.AppConfig.Entities.valueOf_value _ (by decide) (by cases p <;> decide)

inductive RetrieveStrategy
  | SINGLE
  | MULTIPLE
  deriving DecidableEq, Repr

def RetrieveStrategy.value : RetrieveStrategy → String
  | .SINGLE => "single"
  | .MULTIPLE => "multiple"

def RetrieveStrategy.members : List RetrieveStrategy := [.SINGLE, .MULTIPLE]

def RetrieveStrategy.valueOf (value : String) : Except PyError RetrieveStrategy :=
  Dify.AppConfig.Entities.valueOf RetrieveStrategy.members RetrieveStrategy.value
    (fun value => "invalid retrieve strategy value " ++ value) value

lemma RetrieveStrategy.valueOf_value (r : RetrieveStrategy) :
    RetrieveStrategy.valueOf r.value = .ok r :=
  Dify.AppConfig.Entities.valueOf_value _ (by decide) (by cases r <;> decide)

example : RetrieveStrategy.valueOf "Single" =
    .error (.valueError "invalid retrieve strategy value Single") := rfl

def truthyOr (default v : Json) : Json := if v.truthy then v else default

def convertNoneDescription (v : Json) : Json := truthyOr (.str "") v

def convertNoneOptions (v : Json) : Json := truthyOr (.arr []) v

lemma truthyOr_idem (default v : Json) :
    truthyOr default (truthyOr default v) = truthyOr default v := by
  by_cases hv : v.truthy <;> by_cases hd : default.truthy <;> simp [truthyOr, hv, hd]

lemma truthyOr_eq_self {default v : Json} (h : v.truthy = false → v = default) :
    truthyOr default v = v := by
  by_cases hv : v.truthy
  · simp [truthyOr, hv]
  · simp [truthyOr, hv, h (by simpa using hv)]

lemma convertNoneDescription_spec :
    convertNoneDescription .null = .str "" ∧ ∀ s, convertNoneDescription (.str s) = .str s :=
  ⟨rfl, fun s => truthyOr_eq_self fun h => by
    obtain ⟨_ | _⟩ := s
    · rfl
    · simp [Json.truthy] at h⟩

lemma convertNoneOptions_spec :
    convertNoneOptions .null = .arr [] ∧ ∀ xs, convertNoneOptions (.arr xs) = .arr xs :=
  ⟨rfl, fun xs => truthyOr_eq_self fun h => by simpa [Json.truthy] using h⟩

structure AppAdditionalFeatures where
  showRetrieveSource : Bool := false

structure AppConfig where
  additionalFeatures : AppAdditionalFeatures

end Dify.AppConfig.Entities
