import Dify.Chroma.Search

set_option autoImplicit false

/-! The engine's collections as a store of records by id, and the adapter's calls on it. -/

namespace Dify.Chroma

def findId (rs : List Record) (id : String) : Option Record := rs.find? (·.id = id)

lemma findId_eq_some_iff {rs : List Record} (hnd : (rs.map Record.id).Nodup) {id : String}
    {r : Record} : findId rs id = some r ↔ r ∈ rs ∧ r.id = id := by
  refine ⟨fun h => ⟨List.mem_of_find?_eq_some h, by simpa using List.find?_some h⟩, ?_⟩
  rintro ⟨hr, rfl⟩
  obtain ⟨r', hr'⟩ := Option.isSome_iff_exists.mp
    (List.find?_isSome.mpr ⟨r, hr, by simp⟩ : (rs.find? (·.id = r.id)).isSome)
  rw [findId, hr', List.inj_on_of_nodup_map hnd (List.mem_of_find?_eq_some hr') hr
    (by simpa using List.find?_some hr')]

structure Contents where
  dimension : Option Nat
  find : String → Option Record

abbrev Store := CollectionPath → Option Contents

namespace Store

def contents (S : Store) (p : CollectionPath) : Contents := (S p).getD ⟨none, fun _ => none⟩

def upsert (e : String → Option Record) (rows : List Record) : String → Option Record :=
  fun id => (findId rows id).or (e id)

def erase (e : String → Option Record) (ids : List String) : String → Option Record :=
  fun id => if id ∈ ids then none else e id

def eraseWhere (e : String → Option Record) (w : Where) : String → Option Record :=
  fun id => (e id).filter fun r => !w.holds r.metadata

def withCollection (S : Store) (p : CollectionPath) (f : Contents → Contents) : Store :=
  if checkIndexName p.name then Function.update S p (some (f (S.contents p))) else S

end Store

namespace Collection

def find (c : Collection) : String → Option Record := findId c.records

def contents (c : Collection) : Contents := ⟨c.dimension, c.find⟩

lemma find_eq_some_iff {c : Collection} {id : String} {r : Record} :
    c.find id = some r ↔ r ∈ c.records ∧ r.id = id :=
  findId_eq_some_iff c.nodup

end Collection

namespace Server

def store (s : Server) : Store := fun p => (s.collections p).map Collection.contents

lemma contents_collection (s : Server) (p : CollectionPath) :
    (s.collection p).contents = s.store.contents p := by
  show ((s.collections p).getD .empty).contents =
    ((s.collections p).map Collection.contents).getD ⟨none, fun _ => none⟩
  cases s.collections p <;> rfl

end Server

inductive Op
  | addTexts (documents : List Document) (embeddings : List (List ℚ)) (uuids : List String)
  | deleteByMetadataField (key value : String)
  | delete
  | deleteByIds (ids : List String)
  | textExists (id : String)
  | searchByVector (queryVector : List ℚ) (kwargs : SearchKwargs)
  | searchByFullText (query : String)

def ChromaVector.apply (v : ChromaVector) (s : Server) : Op → Server
  | .addTexts documents embeddings uuids => (v.addTexts s documents embeddings uuids).1
  | .deleteByMetadataField key value => (v.deleteByMetadataField s key value).1
  | .delete => (v.delete s).1
  | .deleteByIds ids => (v.deleteByIds s ids).1
  | .textExists id => (v.textExists s id).1
  | .searchByVector queryVector kwargs => (v.searchByVector s queryVector kwargs).1
  | .searchByFullText _ => s

def Server.run (s : Server) (calls : List (ChromaVector × Op)) : Server :=
  calls.foldl (fun s call => call.1.apply s call.2) s

namespace Store

def apply (S : Store) (p : CollectionPath) : Op → Store
  | .addTexts documents embeddings uuids =>
    let texts := documents.map Document.pageContent
    let metadatas := documents.map Document.metadata
    S.withCollection p fun e =>
      if validBatch uuids texts embeddings metadatas then
        ⟨(checkDimensions e.dimension embeddings).1,
          if (checkDimensions e.dimension embeddings).2 then
            upsert e.find (rows uuids texts embeddings metadatas)
          else e.find⟩
      else e
  | .deleteByMetadataField key value =>
    S.withCollection p fun e =>
      if (Where.eq key value).valid then ⟨e.dimension, eraseWhere e.find (.eq key value)⟩ else e
  | .delete => Function.update S p none
  | .deleteByIds ids =>
    if ids = [] then S
    else S.withCollection p fun e => if validIds ids then ⟨e.dimension, erase e.find ids⟩ else e
  | .textExists _ | .searchByVector _ _ => S.withCollection p id
  | .searchByFullText _ => S

def run (S : Store) (calls : List (ChromaVector × Op)) : Store :=
  calls.foldl (fun S call => S.apply call.1.path call.2) S

end Store

namespace ChromaVector

variable {v : ChromaVector} {s : Server}

end ChromaVector

theorem search_by_vector_returns_stored (v : ChromaVector) (s : Server) (queryVector : List ℚ)
    (kwargs : SearchKwargs) :
    ((v.searchByVector s queryVector kwargs).2.isSome ↔
      checkIndexName v.collectionName ∧ queryVector ≠ [] ∧ 0 < kwargs.topK.getD 4 ∧
        (s.store.contents v.path).dimension.all (· = queryVector.length)) ∧
    ∀ R, (v.searchByVector s queryVector kwargs).2 = some R → R.length ≤ kwargs.topK.getD 4 ∧
      ∀ d ∈ R, ∃ r, (s.store.contents v.path).find r.id = some r ∧
        r.embedding.length = queryVector.length ∧ d.pageContent = r.document ∧
        scoreThreshold kwargs.scoreThreshold < 1 - squaredL2 queryVector r.embedding ∧
        d.metadata = r.metadata.set "score" (.float (1 - squaredL2 queryVector r.embedding)) := by
  cases hn : checkIndexName v.collectionName
  · simp only [ChromaVector.searchByVector, ChromaVector.withCollection_of_invalid hn,
      Option.isSome_none, Bool.false_eq_true, false_and, reduceCtorEq, IsEmpty.forall_iff,
      implies_true, and_self]
  obtain ⟨w, hw, -, heq⟩ := ChromaVector.searchByVector_of_valid s hn queryVector kwargs
  obtain ⟨R, hR, hlen, hmem⟩ := rankResults_nearest (s.collection v.path) queryVector
    (kwargs.topK.getD 4) w (scoreThreshold kwargs.scoreThreshold)
  rw [heq, ← Server.contents_collection]
  have hq : (!queryVector.isEmpty && decide (0 < kwargs.topK.getD 4) && w.all Where.valid &&
      (s.collection v.path).dimension.all (· = queryVector.length)) = true ↔
      queryVector ≠ [] ∧ 0 < kwargs.topK.getD 4 ∧
        (s.collection v.path).dimension.all (· = queryVector.length) := by
    simp only [hw, Bool.and_true, Bool.and_eq_true, Bool.not_eq_eq_eq_not, Bool.not_true,
      List.isEmpty_eq_false, ne_eq, decide_eq_true_eq, and_assoc]
  simp only [Collection.query]
  split_ifs with hc <;> rw [hq] at hc
  · simp only [Option.some_bind, hR, Option.isSome_some, true_iff]
    refine ⟨by simpa using hc, fun R' hR' => ?_⟩
    cases hR'
    refine ⟨hlen, fun d hd => ?_⟩
    obtain ⟨r, hr, -, hd⟩ := hmem d hd
    have hdim := hc.2.2
    rw [(s.collection v.path).dims r hr] at hdim
    exact ⟨r, Collection.find_eq_some_iff.mpr ⟨hr, rfl⟩, by simpa using hdim, hd⟩
  · simpa using hc

end Dify.Chroma
