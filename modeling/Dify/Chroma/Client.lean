import Dify.Chroma.Records
import Dify.Python.Sorted

set_option autoImplicit false

/-! The Chroma engine as the adapter's client sees it, with the checks by which chromadb raises. -/

namespace Dify.Chroma

open Dify.Python

def DEFAULT_TENANT : String := "default_tenant"

def DEFAULT_DATABASE : String := "default_database"

-- chromadb's `check_index_name`; `re.match` of a pattern ending in `$` also accepts the text
-- followed by one newline
def reMatchAnchored (p : List Char → Bool) (l : List Char) : Bool :=
  p l || (l.getLast? = some '\n' && p l.dropLast)

def isNameChar (c : Char) : Bool := c.isAlphanum || c = '.' || c = '_' || c = '-'

def nameBody : List Char → Bool
  | c :: l => c.isAlphanum && (l.getLast?.any Char.isAlphanum) && l.dropLast.all isNameChar
  | [] => false

def isIPv4 (l : List Char) : Bool :=
  let parts := l.splitOn '.'
  parts.length = 4 && parts.all fun p => 1 ≤ p.length && p.length ≤ 3 && p.all Char.isDigit

def hasDoubleDot : List Char → Bool
  | c :: l => (c = '.' && l.head? = some '.') || hasDoubleDot l
  | [] => false

def checkIndexName (name : String) : Bool :=
  3 ≤ name.length && name.length ≤ 63 && reMatchAnchored nameBody name.data &&
    !hasDoubleDot name.data && !reMatchAnchored isIPv4 name.data

example : ["ccc", "vector_index_d1_node", "a.b-c", "abc\n"].all checkIndexName ∧
    ["c", "-ab", "a..b", "ab c", "10.0.0.1", "abc\n\n"].all (!checkIndexName ·) := by decide

def validIds (ids : List String) : Bool := !ids.isEmpty && ids.Nodup

def validBatch (ids documents : List String) (embeddings : List (List ℚ))
    (metadatas : List Metadata) : Bool :=
  validIds ids && embeddings.all (!·.isEmpty) && metadatas.all Metadata.valid &&
    documents.length = ids.length && embeddings.length = ids.length &&
    metadatas.length = ids.length

lemma of_validBatch {ids documents : List String} {embeddings : List (List ℚ)}
    {metadatas : List Metadata} (h : validBatch ids documents embeddings metadatas) :
    validIds ids ∧ ids.Nodup ∧ documents.length = ids.length ∧
      embeddings.length = ids.length ∧ metadatas.length = ids.length := by
  simp only [validBatch, Bool.and_eq_true, decide_eq_true_eq] at h
  obtain ⟨⟨⟨⟨⟨hv, -⟩, -⟩, hd⟩, he⟩, hm⟩ := h
  refine ⟨hv, ?_, hd, he, hm⟩
  simp only [validIds, Bool.and_eq_true, decide_eq_true_eq] at hv
  exact hv.2

-- `_validate_dimension(..., update=True)`, record by record: the first embedding fixes the
-- dimension of a collection that has none, and it stays fixed when a later record fails
def checkDimensions : Option Nat → List (List ℚ) → Option Nat × Bool
  | dimension, [] => (dimension, true)
  | none, e :: es => checkDimensions (some e.length) es
  | some d, e :: es => if d = e.length then checkDimensions (some d) es else (some d, false)

lemma checkDimensions_some (d : Nat) : ∀ es, (checkDimensions (some d) es).1 = some d
  | [] => rfl
  | e :: es => by
    by_cases h : d = e.length
    · rw [checkDimensions, if_pos h, checkDimensions_some d es]
    · rw [checkDimensions, if_neg h]

lemma checkDimensions_ok : ∀ {dimension : Option Nat} {es : List (List ℚ)},
    (checkDimensions dimension es).2 = true →
      ∀ e ∈ es, (checkDimensions dimension es).1 = some e.length
  | _, [], _, e, he => absurd he (List.not_mem_nil e)
  | none, e :: es, h, x, hx => by
    rw [checkDimensions] at h ⊢
    rcases List.mem_cons.mp hx with rfl | hx
    · exact checkDimensions_some _ es
    · exact checkDimensions_ok h x hx
  | some d, e :: es, h, x, hx => by
    rw [checkDimensions] at h ⊢
    split_ifs at h ⊢ with hd
    · rcases List.mem_cons.mp hx with rfl | hx
      · rw [checkDimensions_some, hd]
      · exact checkDimensions_ok h x hx

structure GetResult where
  ids : List String
  documents : List String
  metadatas : List Metadata

def GetResult.keys (_ : GetResult) : List String :=
  ["ids", "embeddings", "documents", "uris", "data", "metadatas", "included"]

def GetResult.len (r : GetResult) : Nat := r.keys.length

structure QueryResult where
  ids : Option (List (List String))
  documents : Option (List (List String))
  metadatas : Option (List (List Metadata))
  distances : Option (List (List ℚ))

def squaredL2 (a b : List ℚ) : ℚ := (List.zipWith (fun x y => (x - y) ^ 2) a b).sum

def upsertOne (rs : List Record) (r : Record) : List Record :=
  if r.id ∈ rs.map Record.id then rs.map fun e => if e.id = r.id then r else e else rs ++ [r]

lemma ids_upsertOne (rs : List Record) (r : Record) :
    (upsertOne rs r).map Record.id =
      if r.id ∈ rs.map Record.id then rs.map Record.id else rs.map Record.id ++ [r.id] := by
  unfold upsertOne
  split_ifs
  · rw [List.map_map]
    exact List.map_congr_left fun e _ => by by_cases h : e.id = r.id <;> simp [h]
  · simp

lemma nodup_foldl_upsertOne : ∀ {rs : List Record} (rows : List Record),
    (rs.map Record.id).Nodup → ((rows.foldl upsertOne rs).map Record.id).Nodup
  | _, [], h => h
  | rs, r :: rows, h => by
    refine nodup_foldl_upsertOne rows ?_
    rw [ids_upsertOne]
    split_ifs with hr
    · exact h
    · exact h.append (List.nodup_singleton _) (List.disjoint_singleton.mpr hr)

lemma mem_upsertOne {rs : List Record} {x r : Record} :
    r ∈ upsertOne rs x ↔ r = x ∨ (r ∈ rs ∧ r.id ≠ x.id) := by
  unfold upsertOne
  split
  · rename_i h
    obtain ⟨e, he, hex⟩ := List.mem_map.mp h
    simp only [List.mem_map]
    constructor
    · rintro ⟨e', he', rfl⟩
      by_cases h' : e'.id = x.id <;> simp_all
    · rintro (rfl | ⟨hr, hne⟩)
      · exact ⟨e, he, by simp [hex]⟩
      · exact ⟨r, hr, by simp [hne]⟩
  · rename_i h
    simp only [List.mem_append, List.mem_singleton]
    constructor
    · rintro (hr | rfl)
      · exact .inr ⟨hr, fun he => h (List.mem_map.mpr ⟨r, hr, he⟩)⟩
      · exact .inl rfl
    · rintro (rfl | ⟨hr, -⟩)
      · exact .inr rfl
      · exact .inl hr

lemma mem_foldl_upsertOne {r : Record} : ∀ {rows rs : List Record},
    (rows.map Record.id).Nodup →
    (r ∈ rows.foldl upsertOne rs ↔ r ∈ rows ∨ (r ∈ rs ∧ r.id ∉ rows.map Record.id))
  | [], _, _ => by simp
  | x :: rows, rs, h => by
    rw [List.foldl_cons, mem_foldl_upsertOne (List.nodup_cons.mp h).2, mem_upsertOne]
    have hx := (List.nodup_cons.mp h).1
    constructor
    · rintro (hr | ⟨rfl | ⟨hr, hne⟩, hnot⟩)
      · exact .inl (List.mem_cons_of_mem _ hr)
      · exact .inl (List.mem_cons_self _ _)
      · exact .inr ⟨hr, by simp [hne, hnot]⟩
    · rintro (hr | ⟨hr, hnot⟩)
      · rcases List.mem_cons.mp hr with rfl | hr
        · exact .inr ⟨.inl rfl, hx⟩
        · exact .inl hr
      · simp only [List.map_cons, List.mem_cons, not_or] at hnot
        exact .inr ⟨.inr ⟨hr, hnot.1⟩, hnot.2⟩

lemma mem_of_mem_foldl_upsertOne {r : Record} : ∀ {rows rs : List Record},
    r ∈ rows.foldl upsertOne rs → r ∈ rows ∨ r ∈ rs
  | [], _, h => .inr h
  | x :: rows, rs, h => by
    rw [List.foldl_cons] at h
    rcases mem_of_mem_foldl_upsertOne h with h | h
    · exact .inl (List.mem_cons_of_mem _ h)
    · rcases mem_upsertOne.mp h with rfl | ⟨h, -⟩
      · exact .inl (List.mem_cons_self _ _)
      · exact .inr h

def rows (ids documents : List String) (embeddings : List (List ℚ)) (metadatas : List Metadata) :
    List Record :=
  (ids.zip (documents.zip (embeddings.zip metadatas))).map fun (i, d, e, m) => ⟨i, d, e, m⟩

lemma rows_map_id {ids documents : List String} {embeddings : List (List ℚ)}
    {metadatas : List Metadata} (hd : documents.length = ids.length)
    (he : embeddings.length = ids.length) (hm : metadatas.length = ids.length) :
    (rows ids documents embeddings metadatas).map Record.id = ids := by
  induction ids generalizing documents embeddings metadatas with
  | nil => rfl
  | cons i ids ih =>
    match documents, embeddings, metadatas, hd, he, hm with
    | _ :: _, _ :: _, _ :: _, hd, he, hm =>
      simp only [rows, List.zip_cons_cons, List.map_cons] at ih ⊢
      rw [ih (by simpa using hd) (by simpa using he) (by simpa using hm)]

lemma embedding_mem_of_mem_rows {ids documents : List String} {embeddings : List (List ℚ)}
    {metadatas : List Metadata} {r : Record} (h : r ∈ rows ids documents embeddings metadatas) :
    r.embedding ∈ embeddings := by
  obtain ⟨⟨i, d, e, m⟩, hp, rfl⟩ := List.mem_map.mp h
  exact (List.of_mem_zip (List.of_mem_zip (List.of_mem_zip hp).2).2).1

structure Collection where
  dimension : Option Nat
  records : List Record
  nodup : (records.map Record.id).Nodup
  dims : ∀ r ∈ records, dimension = some r.embedding.length

namespace Collection

def empty : Collection := ⟨none, [], List.nodup_nil, nofun⟩

def ids (c : Collection) : List String := c.records.map Record.id

lemma dims_upsert (c : Collection) {rows : List Record} {embeddings : List (List ℚ)}
    (hrows : ∀ r ∈ rows, r.embedding ∈ embeddings)
    (h : (checkDimensions c.dimension embeddings).2 = true) :
    ∀ r ∈ rows.foldl upsertOne c.records,
      (checkDimensions c.dimension embeddings).1 = some r.embedding.length := by
  intro r hr
  rcases mem_of_mem_foldl_upsertOne hr with hr | hr
  · exact checkDimensions_ok h _ (hrows r hr)
  · rw [c.dims r hr, checkDimensions_some]

lemma dims_checkDimensions (c : Collection) (embeddings : List (List ℚ)) :
    ∀ r ∈ c.records, (checkDimensions c.dimension embeddings).1 = some r.embedding.length :=
  fun r hr => by rw [c.dims r hr, checkDimensions_some]

def upsert (c : Collection) (ids documents : List String) (embeddings : List (List ℚ))
    (metadatas : List Metadata) : Collection × Bool :=
  if validBatch ids documents embeddings metadatas then
    if h : (checkDimensions c.dimension embeddings).2 then
      (⟨_, (rows ids documents embeddings metadatas).foldl upsertOne c.records,
        nodup_foldl_upsertOne _ c.nodup,
        c.dims_upsert (fun _ => embedding_mem_of_mem_rows) h⟩, true)
    else (⟨_, c.records, c.nodup, c.dims_checkDimensions embeddings⟩, false)
  else (c, false)

lemma upsert_of_valid {c : Collection} {ids documents : List String}
    {embeddings : List (List ℚ)} {metadatas : List Metadata}
    (hb : validBatch ids documents embeddings metadatas)
    (hd : (checkDimensions c.dimension embeddings).2) :
    (c.upsert ids documents embeddings metadatas).2 = true ∧
      ∀ r, r ∈ (c.upsert ids documents embeddings metadatas).1.records ↔
        r ∈ rows ids documents embeddings metadatas ∨ (r ∈ c.records ∧ r.id ∉ ids) := by
  obtain ⟨-, hn, hds, he, hm⟩ := of_validBatch hb
  simp only [upsert, hb, hd, if_true, dif_pos, true_and]
  intro r
  rw [mem_foldl_upsertOne (by rwa [rows_map_id hds he hm]), rows_map_id hds he hm]

def filter (c : Collection) (p : Record → Bool) : Collection :=
  ⟨c.dimension, c.records.filter p, c.nodup.sublist ((List.filter_sublist _).map _),
    fun r hr => c.dims r (List.mem_of_mem_filter hr)⟩

def deleteIds (c : Collection) (ids : List String) : Option Collection :=
  if validIds ids then some (c.filter fun r => r.id ∉ ids) else none

def deleteWhere (c : Collection) (w : Where) : Option Collection :=
  if w.valid then some (c.filter fun r => !w.holds r.metadata) else none

def get (c : Collection) (ids : List String) : Option GetResult :=
  if validIds ids then
    let hits := c.records.filter fun r => r.id ∈ ids
    some ⟨hits.map Record.id, hits.map Record.document, hits.map Record.metadata⟩
  else none

def nearest (c : Collection) (v : List ℚ) (n : Nat) (w : Option Where) : QueryResult :=
  let dist := fun r : Record => squaredL2 v r.embedding
  let hits := ((c.records.filter fun r => w.all (·.holds r.metadata)).mergeSort
    fun a b => dist a ≤ dist b).take n
  ⟨some [hits.map Record.id], some [hits.map Record.document], some [hits.map Record.metadata],
    some [hits.map dist]⟩

-- `validate_embeddings`, `validate_n_results` and `validate_where` on the client, then
-- `_validate_dimension(..., update=False)` on the server
def query (c : Collection) (v : List ℚ) (n : Nat) (w : Option Where) : Option QueryResult :=
  if !v.isEmpty && 0 < n && w.all Where.valid && c.dimension.all (· = v.length) then
    some (c.nearest v n w)
  else none

end Collection

structure CollectionPath where
  host : String
  port : Int
  tenant : String
  database : String
  name : String
  deriving DecidableEq

structure Server where
  collections : CollectionPath → Option Collection

namespace Server

def empty : Server := ⟨fun _ => none⟩

def collection (s : Server) (p : CollectionPath) : Collection := (s.collections p).getD .empty

def put (s : Server) (p : CollectionPath) (c : Collection) : Server :=
  ⟨Function.update s.collections p (some c)⟩

def getOrCreateCollection (s : Server) (p : CollectionPath) : Option Server :=
  if checkIndexName p.name then some (s.put p (s.collection p)) else none

-- the engine after `collection.delete(...)`: the collection left, or the exception chromadb raises
def commit (s : Server) (p : CollectionPath) : Option Collection → Server × Option Unit
  | some c => (s.put p c, some ())
  | none => (s, none)

def deleteCollection (s : Server) (p : CollectionPath) : Option Server :=
  (s.collections p).map fun _ => ⟨Function.update s.collections p none⟩

@[simp] lemma collection_put (s : Server) (p q : CollectionPath) (c : Collection) :
    (s.put p c).collection q = if q = p then c else s.collection q := by
  by_cases h : q = p <;> simp [put, collection, Function.update, h]

lemma getOrCreateCollection_eq {s : Server} {p : CollectionPath} (h : checkIndexName p.name) :
    s.getOrCreateCollection p = some (s.put p (s.collection p)) := by
  simp [getOrCreateCollection, h]

lemma getOrCreateCollection_eq_none {s : Server} {p : CollectionPath}
    (h : checkIndexName p.name = false) : s.getOrCreateCollection p = none := by
  simp [getOrCreateCollection, h]

end Server

end Dify.Chroma
