import Mathlib.Algebra.Order.Ring.Unbundled.Rat
import Dify.Python.Dict

set_option autoImplicit false

/-! Values exchanged with the Chroma engine. -/

namespace Dify.Chroma

open Dify.Python

inductive MetadataValue
  | str (s : String)
  | int (i : Int)
  | float (q : ℚ)
  | bool (b : Bool)
  deriving DecidableEq, Repr

structure Metadata where
  entries : List (String × MetadataValue)
  nodup : (entries.map Prod.fst).Nodup

namespace Metadata

def get? (m : Metadata) (key : String) : Option MetadataValue := m.entries.lookup key

def set (m : Metadata) (key : String) (value : MetadataValue) : Metadata :=
  ⟨dictInsert m.entries key value, nodup_keys_dictInsert m.nodup key value⟩

def empty : Metadata := ⟨[], List.nodup_nil⟩

def ofList (entries : List (String × MetadataValue)) : Metadata :=
  entries.foldl (fun m e => m.set e.1 e.2) empty

def valid (m : Metadata) : Bool := !m.entries.isEmpty && (m.get? "chroma:document").isNone

@[simp] lemma get?_set_self (m : Metadata) (key : String) (value : MetadataValue) :
    (m.set key value).get? key = some value :=
  lookup_dictInsert_self key value m.entries

@[simp] lemma get?_set_of_ne (m : Metadata) {key k : String} (h : k ≠ key)
    (value : MetadataValue) : (m.set key value).get? k = m.get? k :=
  lookup_dictInsert_of_ne h value m.entries

end Metadata

structure Document where
  pageContent : String
  metadata : Metadata

def Document.score (d : Document) : ℚ :=
  match d.metadata.get? "score" with
  | some (.float q) => q
  | _ => 0

structure Record where
  id : String
  document : String
  embedding : List ℚ
  metadata : Metadata

inductive Where
  | eq (key : String) (value : String)
  | isIn (key : String) (values : List String)
  deriving DecidableEq

def Where.holds : Where → Metadata → Bool
  | .eq key value, m => m.get? key = some (.str value)
  | .isIn key values, m =>
    match m.get? key with
    | some (.str v) => v ∈ values
    | _ => false

def Where.valid : Where → Bool
  | .eq key _ => key != "$and" && key != "$or"
  | .isIn key values => key != "$and" && key != "$or" && !values.isEmpty

lemma Where.holds_isIn {key : String} {values : List String} {m : Metadata}
    (h : (Where.isIn key values).holds m) : ∃ v ∈ values, m.get? key = some (.str v) := by
  simp only [holds] at h
  split at h
  · exact ⟨_, by simpa using h, ‹_›⟩
  · cases h

end Dify.Chroma
