import Dify.Chroma.Vector
import Dify.Python.Json.RoundTrip
import Dify.Python.Str

set_option autoImplicit false

/-! `ChromaVectorFactory.init_vector` and the dataset's index structure. -/

namespace Dify.Chroma

open Dify.Python

/-- Modelled from the spec: the `Dataset` row, with the columns `init_vector` reads and writes. -/
structure Dataset where
  id : String
  indexStruct : Option String

/-- Modelled from the spec: `Dataset.index_struct_dict`, `json.loads(self.index_struct)` when
`index_struct` is a non-empty text and `None` otherwise. -/
def Dataset.indexStructDict (d : Dataset) : Except PyError (Option Json) :=
  match d.indexStruct with
  | some s =>
    if s = "" then .ok none
    else match loads s with
      | some v => .ok (some v)
      | none => .error .jsonDecodeError
  | none => .ok none

def classPrefix (indexStructDict : Json) : Except PyError Json := do
  (← indexStructDict.getItem "vector_store").getItem "class_prefix"

def pyLower (lower : String → String) : Json → Except PyError String
  | .str s => .ok (lower s)
  | v => .error (.attributeError ("'" ++ v.typeName ++ "' object has no attribute 'lower'"))

def indexStructFor (collectionName : String) : Json :=
  .obj [("type", .str VectorType.CHROMA),
    ("vector_store", .obj [("class_prefix", .str collectionName)])]

structure DifyConfig where
  chromaHost : Option String
  chromaPort : Int
  chromaTenant : Option String
  chromaDatabase : Option String
  chromaAuthProvider : Option String
  chromaAuthCredentials : Option String

def DifyConfig.toChromaConfig (config : DifyConfig) : ChromaConfig :=
  ⟨orDefault config.chromaHost "", config.chromaPort, orDefault config.chromaTenant DEFAULT_TENANT,
    orDefault config.chromaDatabase DEFAULT_DATABASE, config.chromaAuthProvider,
    config.chromaAuthCredentials⟩

def initVector (lower genCollectionNameById : String → String) (config : DifyConfig)
    (dataset : Dataset) : Except PyError (Dataset × ChromaVector) := do
  match (← dataset.indexStructDict).filter Json.truthy with
  | some indexStructDict =>
    let collectionName ← pyLower lower (← classPrefix indexStructDict)
    pure (dataset, ⟨collectionName, config.toChromaConfig⟩)
  | none =>
    let collectionName := lower (genCollectionNameById dataset.id)
    let indexStructDict := indexStructFor collectionName
    pure ({ dataset with indexStruct := some (dumps indexStructDict) },
      ⟨collectionName, config.toChromaConfig⟩)

section InitVector

variable (lower genCollectionNameById : String → String) (config : DifyConfig)

lemma classPrefix_indexStructFor (collectionName : String) :
    classPrefix (indexStructFor collectionName) = .ok (.str collectionName) := by
  simp [classPrefix, indexStructFor, Json.getItem, List.lookup_cons, bind, Except.bind]

lemma indexStructDict_written (dataset : Dataset) (collectionName : String) :
    ({ dataset with indexStruct := some (dumps (indexStructFor collectionName)) } :
      Dataset).indexStructDict = .ok (some (indexStructFor collectionName)) := by
  have hw : (indexStructFor collectionName).wellFormed := by
    simp [indexStructFor, Json.wellFormed, Json.wellFormedMembers]
  have hne : dumps (indexStructFor collectionName) ≠ "" := fun h => by
    simpa [dumps, encode, indexStructFor] using congrArg String.data h
  simp only [Dataset.indexStructDict, if_neg hne, loads_dumps _ hw]

lemma initVector_of_falsy {dataset : Dataset} {o : Option Json}
    (h : dataset.indexStructDict = .ok o) (hf : o.filter Json.truthy = none) :
    initVector lower genCollectionNameById config dataset =
      .ok ({ dataset with
        indexStruct := some (dumps (indexStructFor (lower (genCollectionNameById dataset.id)))) },
        ⟨lower (genCollectionNameById dataset.id), config.toChromaConfig⟩) := by
  simp [initVector, h, hf, bind, Except.bind, pure, Except.pure]

lemma initVector_of_classPrefix {dataset : Dataset} {j : Json} {p : String}
    (h : dataset.indexStructDict = .ok (some j)) (hp : classPrefix j = .ok (.str p)) :
    initVector lower genCollectionNameById config dataset =
      .ok (dataset, ⟨lower p, config.toChromaConfig⟩) := by
  have ht : j.truthy := by
    cases j with
    | obj kvs =>
      cases kvs with
      | nil => simp [classPrefix, Json.getItem, bind, Except.bind] at hp
      | cons _ _ => rfl
    | _ => simp [classPrefix, Json.getItem, bind, Except.bind] at hp
  simp [initVector, h, Option.filter, ht, hp, pyLower, bind, Except.bind, pure, Except.pure]

theorem init_vector_collection_name_round_trip (hlower : ∀ s, lower (lower s) = lower s) :
    (∀ (dataset : Dataset) (o : Option Json), dataset.indexStructDict = .ok o →
      o.filter Json.truthy = none → ∃ dataset₁ vector,
        initVector lower genCollectionNameById config dataset = .ok (dataset₁, vector) ∧
        dataset₁.id = dataset.id ∧
        (∃ j, dataset₁.indexStructDict = .ok (some j) ∧
          classPrefix j = .ok (.str vector.collectionName)) ∧
        initVector lower genCollectionNameById config dataset₁ = .ok (dataset₁, vector)) ∧
    (∀ (dataset : Dataset) (j : Json) (p : String), dataset.indexStructDict = .ok (some j) →
      classPrefix j = .ok (.str p) →
      initVector lower genCollectionNameById config dataset =
        .ok (dataset, ⟨lower p, config.toChromaConfig⟩)) := by
  refine ⟨fun dataset _ h hf => ?_, fun _ _ _ h hp => initVector_of_classPrefix _ _ _ h hp⟩
  refine ⟨_, _, initVector_of_falsy _ _ _ h hf, rfl, ⟨_, indexStructDict_written _ _,
    classPrefix_indexStructFor _⟩, ?_⟩
  rw [initVector_of_classPrefix _ _ _ (indexStructDict_written _ _)
    (classPrefix_indexStructFor _), hlower]

end InitVector

def vectorIndexName (datasetId : String) : String := "Vector_index_" ++ datasetId ++ "_Node"

def storedDataset : Dataset :=
  ⟨"d2", some "\x7b\"vector_store\": \x7b\"class_prefix\": \"Vector_index_d2_Node\"\x7d\x7d"⟩

theorem init_vector_collection_name_fresh_dataset :
    (∀ s, asciiLower (asciiLower s) = asciiLower s) ∧
    ((⟨"d1", some "\x7b\x7d"⟩ : Dataset).indexStructDict = .ok (some (.obj [])) ∧
      (some (Json.obj [])).filter Json.truthy = none ∧
      ∃ dataset₁ vector, initVector asciiLower vectorIndexName
          ⟨none, 8000, none, none, none, none⟩ ⟨"d1", some "\x7b\x7d"⟩ = .ok (dataset₁, vector) ∧
        dataset₁.id = "d1" ∧
        (∃ j, dataset₁.indexStructDict = .ok (some j) ∧
          classPrefix j = .ok (.str vector.collectionName)) ∧
        initVector asciiLower vectorIndexName ⟨none, 8000, none, none, none, none⟩ dataset₁ =
          .ok (dataset₁, vector)) ∧
    (storedDataset.indexStructDict =
        .ok (some (.obj [("vector_store", .obj [("class_prefix", .str "Vector_index_d2_Node")])])) ∧
      classPrefix (.obj [("vector_store", .obj [("class_prefix", .str "Vector_index_d2_Node")])]) =
        .ok (.str "Vector_index_d2_Node") ∧
      initVector asciiLower vectorIndexName ⟨none, 8000, none, none, none, none⟩ storedDataset =
        .ok (storedDataset, ⟨asciiLower "Vector_index_d2_Node",
          DifyConfig.toChromaConfig ⟨none, 8000, none, none, none, none⟩⟩)) :=
  have h := init_vector_collection_name_round_trip asciiLower vectorIndexName
    ⟨none, 8000, none, none, none, none⟩ asciiLower_asciiLower
  ⟨asciiLower_asciiLower, ⟨rfl, rfl, h.1 ⟨"d1", some "\x7b\x7d"⟩ _ rfl rfl⟩,
    ⟨rfl, rfl, h.2 _ _ _ rfl rfl⟩⟩

end Dify.Chroma
