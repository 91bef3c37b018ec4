import Dify.Chroma.Vector
import Mathlib.Tactic.NormNum

set_option autoImplicit false

/-! `search_by_vector`: the engine's query, scores `1 - d`, threshold and sort. -/

namespace Dify.Chroma

open Dify.Python

structure SearchKwargs where
  topK : Option Nat := none
  scoreThreshold : Option ℚ := none
  documentIdsFilter : Option (List String) := none

def scoreThreshold : Option ℚ → ℚ
  | some t => if t = 0 then 0 else t
  | none => 0

@[simp] lemma scoreThreshold_eq (t : Option ℚ) : scoreThreshold t = t.getD 0 := by
  cases t with
  | none => rfl
  | some t => by_cases h : t = 0 <;> simp [scoreThreshold, h]

def collect (documents : List String) (metadatas : List Metadata) (distances : List ℚ)
    (threshold : ℚ) (docs : List Document) (index : Nat) : Option (List Document) := do
  let distance ← distances[index]?
  let metadata ← metadatas[index]?
  let score := 1 - distance
  if score > threshold then
    let document ← documents[index]?
    pure (docs ++ [⟨document, metadata.set "score" (.float score)⟩])
  else pure docs

def rankResults (results : QueryResult) (threshold : ℚ) : Option (List Document) :=
  match results.ids, results.documents, results.metadatas, results.distances with
  | some (ids :: _), some (documents :: _), some (metadatas :: _), some (distances :: _) => do
    let docs ← (List.range ids.length).foldlM (collect documents metadatas distances threshold) []
    pure (sorted Document.score true docs)
  | _, _, _, _ => some []

namespace ChromaVector

def searchByVector (v : ChromaVector) (s : Server) (queryVector : List ℚ) (kwargs : SearchKwargs) :
    Server × Option (List Document) :=
  v.withCollection s fun s collection =>
    let results := match kwargs.documentIdsFilter with
      | some documentIdsFilter@(_ :: _) =>
        collection.query queryVector (kwargs.topK.getD 4)
          (some (.isIn "document_id" documentIdsFilter))
      | _ => collection.query queryVector (kwargs.topK.getD 4) none
    (s, results.bind fun results => rankResults results (scoreThreshold kwargs.scoreThreshold))

end ChromaVector

def candidates (threshold : ℚ) : List String → List Metadata → List ℚ → List Document
  | document :: documents, metadata :: metadatas, distance :: distances =>
    if 1 - distance > threshold then
      ⟨document, metadata.set "score" (.float (1 - distance))⟩ ::
        candidates threshold documents metadatas distances
    else candidates threshold documents metadatas distances
  | _, _, _ => []

end Dify.Chroma

namespace Dify.Chroma

open Dify.Python

@[simp] lemma score_set (d : String) (m : Metadata) (q : ℚ) :
    Document.score ⟨d, m.set "score" (.float q)⟩ = q := by
  simp [Document.score]

section Loop

variable {documents : List String} {metadatas : List Metadata} {distances : List ℚ}
  {threshold : ℚ} {n : Nat}

lemma collect_eq {k : Nat} (hd : k < documents.length) (hm : k < metadatas.length)
    (hx : k < distances.length) (docs : List Document) :
    collect documents metadatas distances threshold docs k =
      some (docs ++ candidates threshold [documents[k]] [metadatas[k]] [distances[k]]) := by
  simp only [collect, List.getElem?_eq_getElem hx, List.getElem?_eq_getElem hm,
    List.getElem?_eq_getElem hd, Option.bind_eq_bind, Option.some_bind, candidates]
  split_ifs
  · rfl
  · exact congrArg some (List.append_nil docs).symm

lemma candidates_cons (threshold : ℚ) (document : String) (metadata : Metadata) (distance : ℚ)
    (documents : List String) (metadatas : List Metadata) (distances : List ℚ) :
    candidates threshold (document :: documents) (metadata :: metadatas) (distance :: distances) =
      candidates threshold [document] [metadata] [distance] ++
        candidates threshold documents metadatas distances := by
  simp only [candidates]
  split_ifs <;> rfl

lemma foldlM_collect (hd : documents.length = n) (hm : metadatas.length = n)
    (hx : distances.length = n) : ∀ (m k : Nat), k + m = n → ∀ docs : List Document,
    (List.range' k m).foldlM (collect documents metadatas distances threshold) docs =
      some (docs ++ candidates threshold (documents.drop k) (metadatas.drop k) (distances.drop k))
  | 0, k, hk, docs => by
    simp [List.drop_of_length_le (show documents.length ≤ k by omega), candidates]
  | m + 1, k, hk, docs => by
    have hkn : k < n := by omega
    -- row `k`, then the rows after it, are the rows from `k` on
    rw [List.range'_succ, List.foldlM_cons, collect_eq (hd ▸ hkn) (hm ▸ hkn) (hx ▸ hkn),
      Option.bind_eq_bind, Option.some_bind, foldlM_collect hd hm hx m (k + 1) (by omega),
      List.append_assoc, ← candidates_cons, ← List.drop_eq_getElem_cons,
      ← List.drop_eq_getElem_cons, ← List.drop_eq_getElem_cons]

end Loop

def QueryResult.FirstRows (results : QueryResult) (ids documents : List String)
    (metadatas : List Metadata) (distances : List ℚ) : Prop :=
  results.ids.bind List.head? = some ids ∧ results.documents.bind List.head? = some documents ∧
    results.metadatas.bind List.head? = some metadatas ∧
    results.distances.bind List.head? = some distances

def QueryResult.Empty (results : QueryResult) : Prop :=
  results.ids.bind List.head? = none ∨ results.documents.bind List.head? = none ∨
    results.metadatas.bind List.head? = none ∨ results.distances.bind List.head? = none

def QueryResult.Regular (results : QueryResult) : Prop :=
  results.Empty ∨ ∃ (ids documents : List String) (metadatas : List Metadata) (distances : List ℚ),
    results.FirstRows ids documents metadatas distances ∧ documents.length = ids.length ∧
      metadatas.length = ids.length ∧ distances.length = ids.length

private lemma bind_head?_eq_some {α : Type} {o : Option (List (List α))} {a : List α}
    (h : o.bind List.head? = some a) : ∃ rest, o = some (a :: rest) := by
  rcases o with _ | _ | ⟨b, rest⟩ <;> simp_all

theorem rankResults_of_rows {results : QueryResult} {ids documents : List String}
    {metadatas : List Metadata} {distances : List ℚ}
    (h : results.FirstRows ids documents metadatas distances)
    (hd : documents.length = ids.length) (hm : metadatas.length = ids.length)
    (hx : distances.length = ids.length) (threshold : ℚ) :
    rankResults results threshold =
      some (sorted Document.score true (candidates threshold documents metadatas distances)) := by
  obtain ⟨⟨_, hids⟩, ⟨_, hdocuments⟩, ⟨_, hmetadatas⟩, ⟨_, hdistances⟩⟩ :=
    And.imp bind_head?_eq_some (And.imp bind_head?_eq_some
      (And.imp bind_head?_eq_some bind_head?_eq_some)) h
  simp only [rankResults, hids, hdocuments, hmetadatas, hdistances, List.range_eq_range',
    foldlM_collect hd hm hx ids.length 0 (by omega), List.drop_zero, List.nil_append]
  rfl

lemma rankResults_of_empty {results : QueryResult} (h : results.Empty) (threshold : ℚ) :
    rankResults results threshold = some [] := by
  unfold rankResults
  split
  · rename_i h₁ h₂ h₃ h₄
    simp [QueryResult.Empty, h₁, h₂, h₃, h₄] at h
  · rfl

lemma candidates_filter {t₁ t₂ : ℚ} (ht : t₁ ≤ t₂) : ∀ (documents : List String)
    (metadatas : List Metadata) (distances : List ℚ),
    candidates t₂ documents metadatas distances =
      (candidates t₁ documents metadatas distances).filter (fun d => t₂ < d.score)
  | d :: ds, m :: ms, x :: xs => by
    rw [candidates, candidates, candidates_filter ht ds ms xs]
    by_cases h₂ : t₂ < 1 - x
    · simp [h₂, lt_of_le_of_lt ht h₂]
    · by_cases h₁ : t₁ < 1 - x <;> simp [h₁, h₂]
  | [], _, _ => rfl
  | _ :: _, [], _ => rfl
  | _ :: _, _ :: _, [] => rfl

lemma mem_candidates_records {threshold : ℚ} {d : Document} (dist : Record → ℚ) :
    ∀ {rs : List Record},
      d ∈ candidates threshold (rs.map Record.document) (rs.map Record.metadata) (rs.map dist) →
      ∃ r ∈ rs, d.pageContent = r.document ∧ threshold < 1 - dist r ∧
        d.metadata = r.metadata.set "score" (.float (1 - dist r))
  | [], h => by simp [candidates] at h
  | r :: rs, h => by
    simp only [List.map_cons, candidates] at h
    split_ifs at h with ht
    · rcases List.mem_cons.mp h with rfl | h
      · exact ⟨r, List.mem_cons_self _ _, rfl, ht, rfl⟩
      · obtain ⟨r', hr', hd⟩ := mem_candidates_records dist h
        exact ⟨r', List.mem_cons_of_mem _ hr', hd⟩
    · obtain ⟨r', hr', hd⟩ := mem_candidates_records dist h
      exact ⟨r', List.mem_cons_of_mem _ hr', hd⟩

lemma length_candidates_records (threshold : ℚ) (dist : Record → ℚ) : ∀ rs : List Record,
    (candidates threshold (rs.map Record.document) (rs.map Record.metadata) (rs.map dist)).length
      ≤ rs.length
  | [] => le_refl _
  | r :: rs => by
    have ih := length_candidates_records threshold dist rs
    simp only [List.map_cons, candidates]
    split_ifs
    · exact Nat.succ_le_succ ih
    · exact ih.trans (Nat.le_succ _)

lemma rankResults_nearest (c : Collection) (v : List ℚ) (n : Nat) (w : Option Where)
    (threshold : ℚ) : ∃ R, rankResults (c.nearest v n w) threshold = some R ∧ R.length ≤ n ∧
      ∀ d ∈ R, ∃ r ∈ c.records, w.all (·.holds r.metadata) ∧ d.pageContent = r.document ∧
        threshold < 1 - squaredL2 v r.embedding ∧
        d.metadata = r.metadata.set "score" (.float (1 - squaredL2 v r.embedding)) := by
  have hrows : (c.nearest v n w).FirstRows _ _ _ _ := ⟨rfl, rfl, rfl, rfl⟩
  refine ⟨_, rankResults_of_rows hrows (by rw [List.length_map, List.length_map])
    (by rw [List.length_map, List.length_map]) (by rw [List.length_map, List.length_map]) _, ?_,
    fun d hd => ?_⟩
  · rw [(sorted_perm _ _).length_eq]
    exact (length_candidates_records _ _ _).trans (List.length_take_le _ _)
  · obtain ⟨r, hr, hd⟩ := mem_candidates_records _ ((sorted_perm _ _).mem_iff.mp hd)
    -- the hits are the nearest records of the collection that pass the filter
    have hr := List.mem_mergeSort.mp (List.mem_of_mem_take hr)
    exact ⟨r, List.mem_of_mem_filter hr, (List.mem_filter.mp hr).2, hd⟩

theorem search_by_vector_ranks_candidates (results : QueryResult) (t : Option ℚ) :
    (∀ (ids documents : List String) (metadatas : List Metadata) (distances : List ℚ),
      results.FirstRows ids documents metadatas distances → documents.length = ids.length →
        metadatas.length = ids.length → distances.length = ids.length →
      ∃ R, rankResults results (scoreThreshold t) = some R ∧ Descending Document.score R ∧
        List.Perm R (candidates (scoreThreshold t) documents metadatas distances) ∧
        Stable Document.score R (candidates (scoreThreshold t) documents metadatas distances)) ∧
    (results.Empty → rankResults results (scoreThreshold t) = some []) :=
  ⟨fun _ _ _ _ h hd hm hx => ⟨_, rankResults_of_rows h hd hm hx _, sorted_descending _ _,
    sorted_perm _ _, sorted_stable _ _⟩, fun h => rankResults_of_empty h _⟩

def scenario : QueryResult :=
  ⟨some [["a", "b"]], some [["a", "b"]], some [[.ofList [], .ofList []]], some [[1 / 10, 7 / 5]]⟩

theorem search_by_vector_ranks_scenario :
    ∃ R, rankResults scenario (scoreThreshold (some (1 / 2))) = some R ∧
      Descending Document.score R ∧
      List.Perm R (candidates (scoreThreshold (some (1 / 2))) ["a", "b"]
        [.ofList [], .ofList []] [1 / 10, 7 / 5]) ∧
      Stable Document.score R (candidates (scoreThreshold (some (1 / 2))) ["a", "b"]
        [.ofList [], .ofList []] [1 / 10, 7 / 5]) :=
  (search_by_vector_ranks_candidates scenario (some (1 / 2))).1 _ _ _ _ ⟨rfl, rfl, rfl, rfl⟩
    rfl rfl rfl

theorem search_by_vector_threshold_prefix (results : QueryResult) (hr : results.Regular)
    (t₁ t₂ : ℚ) (ht : t₁ ≤ t₂) :
    ∃ R₁ R₂, rankResults results t₁ = some R₁ ∧ rankResults results t₂ = some R₂ ∧
      R₂ <+: R₁ ∧ R₂ = R₁.takeWhile (fun d => t₂ < d.score) := by
  rcases hr with he | ⟨ids, documents, metadatas, distances, h, hd, hm, hx⟩
  · exact ⟨[], [], rankResults_of_empty he _, rankResults_of_empty he _, List.prefix_refl _, rfl⟩
  · refine ⟨_, _, rankResults_of_rows h hd hm hx t₁, rankResults_of_rows h hd hm hx t₂, ?_⟩
    have heq : sorted Document.score true (candidates t₂ documents metadatas distances) =
        (sorted Document.score true (candidates t₁ documents metadatas distances)).takeWhile
          (fun d => t₂ < d.score) := by
      rw [candidates_filter ht, sorted_filter, (sorted_descending _ _).filter_eq_takeWhile]
      intro a b hab hb
      simpa using lt_of_lt_of_le (by simpa using hb) hab
    exact ⟨heq ▸ List.takeWhile_prefix _, heq⟩

theorem search_by_vector_threshold_prefix_scenario :
    ∃ R₁ R₂, rankResults scenario (-1) = some R₁ ∧ rankResults scenario (1 / 2) = some R₂ ∧
      R₂ <+: R₁ ∧ R₂ = R₁.takeWhile (fun d => 1 / 2 < d.score) :=
  search_by_vector_threshold_prefix scenario
    (.inr ⟨_, _, _, _, ⟨rfl, rfl, rfl, rfl⟩, rfl, rfl, rfl⟩) (-1) (1 / 2) (by norm_num)

namespace ChromaVector

lemma searchByVector_of_valid {v : ChromaVector} (s : Server) (h : checkIndexName v.collectionName)
    (queryVector : List ℚ) (kwargs : SearchKwargs) :
    ∃ w, w.all Where.valid ∧ (kwargs.documentIdsFilter.any (!·.isEmpty) →
        ∃ F, kwargs.documentIdsFilter = some F ∧ w = some (.isIn "document_id" F)) ∧
      v.searchByVector s queryVector kwargs = (s.put v.path (s.collection v.path),
        ((s.collection v.path).query queryVector (kwargs.topK.getD 4) w).bind
          fun results => rankResults results (scoreThreshold kwargs.scoreThreshold)) := by
  rw [searchByVector, withCollection_of_valid h]
  split
  · rename_i F hF
    exact ⟨_, by simp [Where.valid], fun _ => ⟨_, hF, rfl⟩, rfl⟩
  · rename_i hF
    refine ⟨none, rfl, fun hne => ?_, rfl⟩
    rcases hF' : kwargs.documentIdsFilter with _ | _ | ⟨f, fs⟩ <;> simp_all

theorem search_by_vector_document_ids_filter (v : ChromaVector) (s : Server)
    (queryVector : List ℚ) (kwargs : SearchKwargs) :
    (∀ F, kwargs.documentIdsFilter = some F → F ≠ [] →
      ∀ R, (v.searchByVector s queryVector kwargs).2 = some R →
        ∀ d ∈ R, ∃ id ∈ F, d.metadata.get? "document_id" = some (.str id)) ∧
    v.searchByVector s queryVector { kwargs with documentIdsFilter := some [] } =
      v.searchByVector s queryVector { kwargs with documentIdsFilter := none } := by
  refine ⟨fun F hF hne R hR d hd => ?_, rfl⟩
  cases hn : checkIndexName v.collectionName
  · simp [withCollection_of_invalid hn, searchByVector] at hR
  obtain ⟨w, -, hw, heq⟩ := searchByVector_of_valid s hn queryVector kwargs
  obtain ⟨F', hF', rfl⟩ := hw (by simp [hF, hne])
  obtain rfl : F = F' := Option.some.inj (hF.symm.trans hF')
  rw [heq] at hR
  obtain ⟨results, hq, hR⟩ := Option.bind_eq_some.mp hR
  simp only [Collection.query] at hq
  split_ifs at hq
  cases hq
  obtain ⟨R', hR', -, hmem⟩ := rankResults_nearest (s.collection v.path) queryVector
    (kwargs.topK.getD 4) (some (.isIn "document_id" F)) (scoreThreshold kwargs.scoreThreshold)
  obtain ⟨r, -, hw, -, -, hm⟩ := hmem d (Option.some.inj (hR'.symm.trans hR) ▸ hd)
  obtain ⟨id, hid, hget⟩ := Where.holds_isIn (by simpa using hw)
  exact ⟨id, hid, by rw [hm, Metadata.get?_set_of_ne _ (by decide)]; exact hget⟩

def oneRecordServer : Server :=
  Server.empty.put (localhost "ccc").path
    ⟨some 1, [⟨"1", "a", [0], .ofList [("document_id", .str "ddd"), ("doc_id", .str "1")]⟩],
      by decide, by simp⟩

theorem search_by_vector_empty_filter_unrestricted :
    ¬ ∀ R, ((localhost "ccc").searchByVector oneRecordServer [0]
        { documentIdsFilter := some [] }).2 = some R →
      ∀ d ∈ R, ∃ id ∈ ([] : List String), d.metadata.get? "document_id" = some (.str id) := by
  intro h
  have hR : ((localhost "ccc").searchByVector oneRecordServer [0]
      { documentIdsFilter := some [] }).2 = some [⟨"a", (Metadata.ofList [("document_id",
        .str "ddd"), ("doc_id", .str "1")]).set "score" (.float 1)⟩] := by
    rw [searchByVector, withCollection_of_valid (by decide)]
    simp only [oneRecordServer, Server.collection_put, Collection.query, Collection.nearest,
      squaredL2, rankResults, collect, sorted_true, scoreThreshold_eq, List.isEmpty_cons,
      Bool.not_false, Option.getD_none, Nat.ofNat_pos, decide_True, Bool.and_self,
      Option.all_none, Option.all_some, List.length_singleton, ↓reduceIte, List.filter_cons_of_pos,
      List.filter_nil, List.mergeSort_singleton, List.take_succ_cons, List.take_nil, List.map_cons,
      List.map_nil, List.zipWith_same, sub_self, ne_eq, OfNat.ofNat_ne_zero, not_false_eq_true,
      zero_pow, List.sum_cons, List.sum_nil, add_zero, Option.pure_def, Option.bind_eq_bind,
      Option.some_bind, List.range_succ, List.range_zero, List.nil_append, List.foldlM_cons,
      zero_lt_one, List.getElem?_eq_getElem, List.getElem_cons_zero, gt_iff_lt, sub_pos, sub_zero,
      List.foldlM_nil, Option.bind_some]
  simpa using h _ hR

end ChromaVector

end Dify.Chroma
