import Dify.Chroma.Client

set_option autoImplicit false

/-! `ChromaVector`: the adapter's operations on the engine state. -/

namespace Dify.Chroma

structure ChromaConfig where
  host : String
  port : Int
  tenant : String
  database : String
  authProvider : Option String := none
  authCredentials : Option String := none

structure Settings where
  chromaClientAuthProvider : Option String
  chromaClientAuthCredentials : Option String

structure ChromaParams where
  host : String
  port : Int
  ssl : Bool
  tenant : String
  database : String
  settings : Settings

def ChromaConfig.toChromaParams (c : ChromaConfig) : ChromaParams :=
  ⟨c.host, c.port, false, c.tenant, c.database, ⟨c.authProvider, c.authCredentials⟩⟩

/-- Modelled from the spec: the backend identifier `VectorType.CHROMA` that `get_type`
returns and `init_vector` records as the index type. -/
def VectorType.CHROMA : String := "chroma"

structure ChromaVector where
  collectionName : String
  clientConfig : ChromaConfig

namespace ChromaVector

def path (v : ChromaVector) : CollectionPath :=
  ⟨v.clientConfig.host, v.clientConfig.port, v.clientConfig.tenant, v.clientConfig.database,
    v.collectionName⟩

variable (v : ChromaVector) (s : Server)

def getType : String := VectorType.CHROMA

-- `collection = self._client.get_or_create_collection(self._collection_name)`, then the rest of
-- the method on the engine after that call; the method raises with the call
def withCollection {α : Type} (k : Server → Collection → Server × Option α) : Server × Option α :=
  match s.getOrCreateCollection v.path with
  | some s => k s (s.collection v.path)
  | none => (s, none)

def addTexts (documents : List Document) (embeddings : List (List ℚ)) (uuids : List String) :
    Server × Option Unit :=
  let texts := documents.map Document.pageContent
  let metadatas := documents.map Document.metadata
  v.withCollection s fun s collection =>
    let r := collection.upsert uuids texts embeddings metadatas
    (s.put v.path r.1, if r.2 then some () else none)

def deleteByMetadataField (key value : String) : Server × Option Unit :=
  v.withCollection s fun s collection => s.commit v.path (collection.deleteWhere (.eq key value))

def delete : Server × Option Unit :=
  match s.deleteCollection v.path with
  | some s => (s, some ())
  | none => (s, none)

def deleteByIds (ids : List String) : Server × Option Unit :=
  if ids.isEmpty then (s, some ())
  else v.withCollection s fun s collection => s.commit v.path (collection.deleteIds ids)

def textExists (id : String) : Server × Option Bool :=
  v.withCollection s fun s collection =>
    (s, (collection.get [id]).map fun response => decide (response.len > 0))

def searchByFullText (_query : String) : List Document := []

variable {v s}

lemma withCollection_of_valid {α : Type} (h : checkIndexName v.collectionName)
    (k : Server → Collection → Server × Option α) :
    v.withCollection s k = k (s.put v.path (s.collection v.path)) (s.collection v.path) := by
  simp [withCollection, Server.getOrCreateCollection_eq (p := v.path) h]

lemma withCollection_of_invalid {α : Type} (h : checkIndexName v.collectionName = false)
    (k : Server → Collection → Server × Option α) : v.withCollection s k = (s, none) := by
  simp [withCollection, Server.getOrCreateCollection_eq_none (p := v.path) h]

lemma addTexts_of_valid {documents : List Document} {embeddings : List (List ℚ)}
    {uuids : List String} (hn : checkIndexName v.collectionName)
    (hb : validBatch uuids (documents.map Document.pageContent) embeddings
      (documents.map Document.metadata))
    (hd : (checkDimensions (s.collection v.path).dimension embeddings).2) :
    (v.addTexts s documents embeddings uuids).2 = some () ∧
      ∀ r, r ∈ ((v.addTexts s documents embeddings uuids).1.collection v.path).records ↔
        r ∈ rows uuids (documents.map Document.pageContent) embeddings
          (documents.map Document.metadata) ∨
        (r ∈ (s.collection v.path).records ∧ r.id ∉ uuids) := by
  obtain ⟨hok, hmem⟩ := Collection.upsert_of_valid hb hd
  rw [addTexts, withCollection_of_valid hn]
  simp only [hok, if_true, Server.collection_put, if_pos rfl, true_and]
  exact hmem

lemma textExists_eq_some_true (h : checkIndexName v.collectionName) (id : String) :
    (v.textExists s id).2 = some true := by
  rw [textExists, withCollection_of_valid h]
  simp [Collection.get, validIds, GetResult.len, GetResult.keys]

end ChromaVector

def localhost (collectionName : String) : ChromaVector :=
  ⟨collectionName, ⟨"localhost", 8000, DEFAULT_TENANT, DEFAULT_DATABASE, none, none⟩⟩

def segmentDocument (docId text : String) : Document :=
  ⟨text, .ofList [("doc_id", .str docId), ("document_id", .str "ddd")]⟩

theorem text_exists_fresh_collection :
    ((localhost "ccc").textExists Server.empty "x").2 = some true ∧
    "x" ∉ (((localhost "ccc").textExists Server.empty "x").1.collection
      (localhost "ccc").path).ids :=
  ⟨ChromaVector.textExists_eq_some_true (by decide) "x", by decide⟩

end Dify.Chroma
