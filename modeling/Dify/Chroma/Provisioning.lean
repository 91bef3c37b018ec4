import Dify.Chroma.Vector
import Mathlib.Data.List.Count

set_option autoImplicit false

/-! `create_collection` run by many callers under one Redis lock. -/

namespace Dify.Chroma.Provisioning

def lockName (collectionName : String) : String := "vector_indexing_lock_" ++ collectionName

def cacheKey (collectionName : String) : String := "vector_indexing_" ++ collectionName

@[simp] lemma lockName_ne_cacheKey (n : String) : lockName n ≠ cacheKey n := by
  intro h
  have := congrArg String.length h
  simp only [lockName, cacheKey, String.length_append, Nat.add_right_cancel_iff] at this
  exact absurd this (by decide)

@[simp] lemma cacheKey_ne_lockName (n : String) : cacheKey n ≠ lockName n :=
  (lockName_ne_cacheKey n).symm

lemma lockName_inj {a b : String} (h : lockName a = lockName b) : a = b := by
  have := List.append_cancel_left (congrArg String.data h)
  cases a; cases b; cases this; rfl

structure Caller where
  collectionName : String
  argument : String

def Caller.create (collectionName : String) : Caller := ⟨collectionName, collectionName⟩

inductive Pc
  | idle
  | holding
  | missed
  | calling
  | called
  | exiting
  | unwinding
  | returned
  | raised
  deriving DecidableEq, Repr

def Pc.holdsLock : Pc → Bool
  | .holding | .missed | .calling | .called | .exiting | .unwinding => true
  | _ => false

def Pc.provisioning : Pc → Bool
  | .missed | .calling | .called => true
  | _ => false

def Pc.normal : Pc → Bool
  | .exiting | .returned => true
  | _ => false

variable {ι : Type}

inductive Value (ι : Type)
  | token (owner : ι)
  | one
  deriving DecidableEq

inductive EngineCall
  | issued (name : String)
  | completed (name : String)
  | failed (name : String)
  deriving DecidableEq, Repr

structure State (ι : Type) where
  pc : ι → Pc
  redis : String → Option (Value ι)
  engine : List EngineCall

inductive Event (ι : Type)
  | acquire (i : ι)
  | lockError (i : ι)
  | get (i : ι)
  | issue (i : ι)
  | ok (i : ι)
  | fail (i : ι)
  | set (i : ι)
  | release (i : ι)

namespace State

def write (s : State ι) (k : String) (v : Option (Value ι)) : State ι :=
  { s with redis := Function.update s.redis k v }

def log (s : State ι) (c : EngineCall) : State ι := { s with engine := s.engine ++ [c] }

@[simp] lemma write_pc (s : State ι) (k : String) (v : Option (Value ι)) :
    (s.write k v).pc = s.pc := rfl
@[simp] lemma write_redis (s : State ι) (k : String) (v : Option (Value ι)) :
    (s.write k v).redis = Function.update s.redis k v := rfl
@[simp] lemma write_engine (s : State ι) (k : String) (v : Option (Value ι)) :
    (s.write k v).engine = s.engine := rfl
@[simp] lemma log_pc (s : State ι) (c : EngineCall) : (s.log c).pc = s.pc := rfl
@[simp] lemma log_redis (s : State ι) (c : EngineCall) : (s.log c).redis = s.redis := rfl
@[simp] lemma log_engine (s : State ι) (c : EngineCall) : (s.log c).engine = s.engine ++ [c] :=
  rfl

variable [DecidableEq ι]

def move (s : State ι) (i : ι) (p : Pc) : State ι := { s with pc := Function.update s.pc i p }

@[simp] lemma move_pc (s : State ι) (i : ι) (p : Pc) :
    (s.move i p).pc = Function.update s.pc i p := rfl
@[simp] lemma move_redis (s : State ι) (i : ι) (p : Pc) : (s.move i p).redis = s.redis := rfl
@[simp] lemma move_engine (s : State ι) (i : ι) (p : Pc) : (s.move i p).engine = s.engine := rfl

end State

variable [DecidableEq ι] (callers : ι → Caller)

def step (s : State ι) : Event ι → Option (State ι)
  | .acquire i =>
    if s.pc i = .idle ∧ s.redis (lockName (callers i).argument) = none then
      some ((s.move i .holding).write (lockName (callers i).argument) (some (.token i)))
    else none
  | .lockError i => if s.pc i = .idle then some (s.move i .raised) else none
  | .get i =>
    if s.pc i = .holding then
      some (s.move i (if (s.redis (cacheKey (callers i).collectionName)).isSome then .exiting
        else .missed))
    else none
  | .issue i =>
    if s.pc i = .missed then some ((s.move i .calling).log (.issued (callers i).argument))
    else none
  | .ok i =>
    if s.pc i = .calling then some ((s.move i .called).log (.completed (callers i).argument))
    else none
  | .fail i =>
    if s.pc i = .calling then some ((s.move i .unwinding).log (.failed (callers i).argument))
    else none
  | .set i =>
    if s.pc i = .called then
      some ((s.move i .exiting).write (cacheKey (callers i).collectionName) (some .one))
    else none
  | .release i =>
    if s.pc i = .exiting ∨ s.pc i = .unwinding then
      if s.redis (lockName (callers i).argument) = some (.token i) then
        some ((s.move i (if s.pc i = .exiting then .returned else .raised)).write
          (lockName (callers i).argument) none)
      else some (s.move i .raised)
    else none

inductive Run : State ι → State ι → Prop
  | refl (s : State ι) : Run s s
  | tail {s t u : State ι} (e : Event ι) : Run s t → step callers t e = some u → Run s u

inductive Fault (ι : Type)
  | expire (key : String)
  | getError (i : ι)
  | setError (i : ι)
  | releaseError (i : ι)

-- Redis's own faults: a key's timeout runs out, or a `GET`, `SET` or the lock's release raises
def fault (s : State ι) : Fault ι → Option (State ι)
  | .expire key => if (s.redis key).isSome then some (s.write key none) else none
  | .getError i => if s.pc i = .holding then some (s.move i .unwinding) else none
  | .setError i => if s.pc i = .called then some (s.move i .unwinding) else none
  | .releaseError i =>
    if s.pc i = .exiting ∨ s.pc i = .unwinding then some (s.move i .raised) else none

inductive RunWith (allowed : Fault ι → Prop) : State ι → State ι → Prop
  | refl (s : State ι) : RunWith allowed s s
  | tail {s t u : State ι} (e : Event ι) : RunWith allowed s t → step callers t e = some u →
      RunWith allowed s u
  | faulty {s t u : State ι} (f : Fault ι) : allowed f → RunWith allowed s t →
      fault t f = some u → RunWith allowed s u

lemma Run.runWith {allowed : Fault ι → Prop} {s t : State ι} (h : Run callers s t) :
    RunWith callers allowed s t := by
  induction h with
  | refl => exact .refl _
  | tail e _ he ih => exact .tail e ih he

def Initial (s : State ι) : Prop :=
  (∀ i, s.pc i = .idle) ∧ s.engine = [] ∧ ∀ k i, s.redis k ≠ some (.token i)

def Reachable (s : State ι) : Prop := ∃ s₀, Initial s₀ ∧ Run callers s₀ s

lemma Run.trans {s t u : State ι} (h₁ : Run callers s t) (h₂ : Run callers t u) :
    Run callers s u := by
  induction h₂ with
  | refl => exact h₁
  | tail e _ he ih => exact .tail e ih he

lemma Reachable.run {s t : State ι} (hs : Reachable callers s) (h : Run callers s t) :
    Reachable callers t :=
  let ⟨s₀, h₀, hr⟩ := hs
  ⟨s₀, h₀, hr.trans callers h⟩

def createCollection (i : ι) (answer : Bool) (redis : String → Option (Value ι)) :
    Option ((String → Option (Value ι)) × List EngineCall × Pc) :=
  let lock := lockName (callers i).argument
  let key := cacheKey (callers i).collectionName
  let name := (callers i).argument
  if redis lock = none then
    let held := Function.update redis lock (some (.token i))
    let body : (String → Option (Value ι)) × List EngineCall × Pc :=
      if (held key).isSome then (held, [], .returned)
      else if answer then
        (Function.update held key (some .one), [.issued name, .completed name], .returned)
      else (held, [.issued name, .failed name], .raised)
    some (if body.1 lock = some (.token i) then (Function.update body.1 lock none, body.2)
      else (body.1, body.2.1, .raised))
  else none

lemma createCollection_cached {i : ι} (answer : Bool) {redis : String → Option (Value ι)}
    (hl : redis (lockName (callers i).argument) = none)
    (hK : (redis (cacheKey (callers i).collectionName)).isSome) :
    createCollection callers i answer redis = some (redis, [], .returned) := by
  have hK' : (Function.update redis (lockName (callers i).argument) (some (.token i))
      (cacheKey (callers i).collectionName)).isSome := by
    by_cases he : cacheKey (callers i).collectionName = lockName (callers i).argument
    · rw [he, Function.update_same]; rfl
    · rwa [Function.update_noteq he]
  simp [createCollection, hl, hK', Function.update_eq_self_iff]

theorem run_createCollection {s : State ι} {i : ι} (hi : s.pc i = .idle) {answer : Bool}
    {redis : String → Option (Value ι)} {calls : List EngineCall} {pc : Pc}
    (h : createCollection callers i answer s.redis = some (redis, calls, pc)) :
    ∃ t, Run callers s t ∧ t.pc = Function.update s.pc i pc ∧ t.redis = redis ∧
      t.engine = s.engine ++ calls := by
  unfold createCollection at h
  by_cases hl : s.redis (lockName (callers i).argument) = none
  swap
  · simp [hl] at h
  let s₁ := (s.move i .holding).write (lockName (callers i).argument) (some (.token i))
  have h₁ : step callers s (.acquire i) = some s₁ := by simp [step, hi, hl, s₁]
  by_cases hk : (Function.update s.redis (lockName (callers i).argument) (some (.token i))
    (cacheKey (callers i).collectionName)).isSome
  · simp only [hl, hk, if_true, Function.update_same, Option.some.injEq, Prod.mk.injEq] at h
    obtain ⟨rfl, rfl, rfl⟩ := h
    let s₂ := s₁.move i .exiting
    have h₂ : step callers s₁ (.get i) = some s₂ := by simp [step, s₁, s₂, hk]
    have h₃ : step callers s₂ (.release i) =
        some ((s₂.move i .returned).write (lockName (callers i).argument) none) := by
      simp [step, s₁, s₂]
    exact ⟨_, (((Run.refl _).tail _ h₁).tail _ h₂).tail _ h₃, by simp [s₁, s₂], by simp [s₁, s₂],
      by simp [s₁, s₂]⟩
  have hne : cacheKey (callers i).collectionName ≠ lockName (callers i).argument :=
    fun he => hk (by rw [he, Function.update_same]; rfl)
  -- the cache misses: the caller issues `get_or_create_collection`, which returns or raises
  let s₂ := s₁.move i .missed
  let s₃ := (s₂.move i .calling).log (.issued (callers i).argument)
  have h₂ : step callers s₁ (.get i) = some s₂ := by simp [step, s₁, s₂, hk]
  have h₃ : step callers s₂ (.issue i) = some s₃ := by simp [step, s₂, s₃]
  cases answer with
  | false =>
    simp only [hl, hk, if_true, if_false, Function.update_same, Option.some.injEq, Prod.mk.injEq,
      Bool.false_eq_true] at h
    obtain ⟨rfl, rfl, rfl⟩ := h
    let s₄ := (s₃.move i .unwinding).log (.failed (callers i).argument)
    have h₄ : step callers s₃ (.fail i) = some s₄ := by simp [step, s₃, s₄]
    have h₅ : step callers s₄ (.release i) =
        some ((s₄.move i .raised).write (lockName (callers i).argument) none) := by
      simp [step, s₁, s₂, s₃, s₄]
    exact ⟨_, (((((Run.refl _).tail _ h₁).tail _ h₂).tail _ h₃).tail _ h₄).tail _ h₅,
      by simp [s₁, s₂, s₃, s₄], by simp [s₁, s₂, s₃, s₄], by simp [s₁, s₂, s₃, s₄]⟩
  | true =>
    simp only [hl, hk, if_true, if_false, Function.update_noteq hne.symm, Function.update_same,
      Option.some.injEq, Prod.mk.injEq, Bool.false_eq_true] at h
    obtain ⟨rfl, rfl, rfl⟩ := h
    let s₄ := (s₃.move i .called).log (.completed (callers i).argument)
    let s₅ := (s₄.move i .exiting).write (cacheKey (callers i).collectionName) (some .one)
    have h₄ : step callers s₃ (.ok i) = some s₄ := by simp [step, s₃, s₄]
    have h₅ : step callers s₄ (.set i) = some s₅ := by simp [step, s₄, s₅]
    have h₆ : step callers s₅ (.release i) =
        some ((s₅.move i .returned).write (lockName (callers i).argument) none) := by
      simp [step, s₁, s₂, s₃, s₄, s₅, Function.update_noteq hne.symm]
    exact ⟨_, (((((((Run.refl _).tail _ h₁).tail _ h₂).tail _ h₃).tail _ h₄).tail _ h₅).tail _
      h₆), by simp [s₁, s₂, s₃, s₄, s₅], by simp [s₁, s₂, s₃, s₄, s₅], by simp [s₁, s₂, s₃, s₄, s₅]⟩

lemma createCollection_returned {n : String} {i : ι} {redis : String → Option (Value ι)}
    (hl : redis (lockName n) = none) :
    ∃ redis' calls, createCollection (fun _ => Caller.create n) i true redis =
        some (redis', calls, .returned) ∧ (redis' (cacheKey n)).isSome ∧
      calls = (if (redis (cacheKey n)).isSome then [] else [.issued n, .completed n]) ∧
      redis' (lockName n) = none := by
  by_cases hK : (redis (cacheKey n)).isSome
  · exact ⟨redis, [], createCollection_cached _ true hl hK, hK, by simp [hK], hl⟩
  · refine ⟨Function.update (Function.update (Function.update redis (lockName n)
      (some (.token i))) (cacheKey n) (some .one)) (lockName n) none, [.issued n, .completed n],
      ?_, by simp, by simp [hK], by simp⟩
    simp [createCollection, Caller.create, hl, hK]

def create (v : ChromaVector) (i : ι) (redis : String → Option (Value ι)) (s : Server)
    (texts : List Document) (embeddings : List (List ℚ)) (uuids : List String) :
    Option ((String → Option (Value ι)) × Server × Bool) :=
  if texts.isEmpty then some (redis, s, true)
  else
    (createCollection (fun _ => Caller.create v.collectionName) i
        (checkIndexName v.collectionName) redis).map fun r =>
      let s := if r.2.1.isEmpty then s else (s.getOrCreateCollection v.path).getD s
      if r.2.2 = .returned then
        let added := v.addTexts s texts embeddings uuids
        (r.1, added.1, added.2.isSome)
      else (r.1, s, false)

lemma texts_ne_nil_of_validBatch {texts : List Document} {uuids : List String}
    {embeddings : List (List ℚ)}
    (hb : validBatch uuids (texts.map Document.pageContent) embeddings
      (texts.map Document.metadata)) : texts.isEmpty = false := by
  cases texts with
  | cons => rfl
  | nil =>
    obtain ⟨hv, -, hd, -⟩ := of_validBatch hb
    cases uuids with
    | nil => simp [validIds] at hv
    | cons => simp at hd

theorem create_stores_texts (v : ChromaVector) (i : ι) {redis : String → Option (Value ι)}
    (s : Server) {texts : List Document} {embeddings : List (List ℚ)} {uuids : List String}
    (hl : redis (lockName v.collectionName) = none) (hn : checkIndexName v.collectionName)
    (hb : validBatch uuids (texts.map Document.pageContent) embeddings
      (texts.map Document.metadata))
    (hd : (checkDimensions (s.collection v.path).dimension embeddings).2) :
    ∃ redis' s', create v i redis s texts embeddings uuids = some (redis', s', true) ∧
      (redis' (cacheKey v.collectionName)).isSome ∧
      ∀ r, r ∈ (s'.collection v.path).records ↔
        r ∈ rows uuids (texts.map Document.pageContent) embeddings (texts.map Document.metadata) ∨
        (r ∈ (s.collection v.path).records ∧ r.id ∉ uuids) := by
  obtain ⟨redis', calls, hc, hK, -⟩ := createCollection_returned (i := i) hl
  -- provisioning, when it runs, only creates the collection
  let s₁ := if calls.isEmpty then s else (s.getOrCreateCollection v.path).getD s
  have hcoll : s₁.collection v.path = s.collection v.path := by
    by_cases h : calls.isEmpty <;>
      simp [s₁, h, Server.getOrCreateCollection_eq (p := v.path) hn]
  obtain ⟨hok, hmem⟩ := ChromaVector.addTexts_of_valid (s := s₁) hn hb (hcoll ▸ hd)
  refine ⟨redis', (v.addTexts s₁ texts embeddings uuids).1, ?_, hK, fun r => by rw [hmem, hcoll]⟩
  simp only [create, texts_ne_nil_of_validBatch hb, hn, hc, Bool.false_eq_true, if_false,
    Option.map_some', if_true, hok, Option.isSome_some]

theorem create_stores_texts_one :
    (fun _ => none : String → Option (Value Unit)) (lockName "ccc") = none ∧
    checkIndexName (localhost "ccc").collectionName ∧
    validBatch ["1"] ([segmentDocument "1" "a"].map Document.pageContent) [[0]]
      ([segmentDocument "1" "a"].map Document.metadata) ∧
    (checkDimensions (Server.empty.collection (localhost "ccc").path).dimension [[0]]).2 ∧
    ∃ redis' s', create (localhost "ccc") () (fun _ => none) Server.empty
        [segmentDocument "1" "a"] [[0]] ["1"] = some (redis', s', true) ∧
      (redis' (cacheKey (localhost "ccc").collectionName)).isSome ∧
      ∀ r, r ∈ (s'.collection (localhost "ccc").path).records ↔
        r ∈ rows ["1"] ([segmentDocument "1" "a"].map Document.pageContent) [[0]]
          ([segmentDocument "1" "a"].map Document.metadata) ∨
        (r ∈ (Server.empty.collection (localhost "ccc").path).records ∧ r.id ∉ ["1"]) :=
  ⟨rfl, by decide, by decide, rfl,
    create_stores_texts _ () Server.empty rfl (by decide) (by decide) rfl⟩

section SameCollection

variable (n : String)

def LockHeld (s : State ι) : Prop :=
  ∀ i, (s.pc i).holdsLock = true → s.redis (lockName n) = some (.token i)

structure Invariant (s : State ι) : Prop where
  lock_held : LockHeld n s
  provisioning_uncached : ∀ i, (s.pc i).provisioning = true → s.redis (cacheKey n) = none
  normal_cached : ∀ i, (s.pc i).normal = true → (s.redis (cacheKey n)).isSome
  completed_le : s.engine.count (.completed n) ≤ 1
  completed_pending : s.engine.count (.completed n) = 1 →
    (s.redis (cacheKey n)).isSome ∨ ∃ i, s.pc i = .called

variable {n}

namespace LockHeld

omit [DecidableEq ι] in
lemma unique {s : State ι} (hs : LockHeld n s) {i j : ι} (hi : (s.pc i).holdsLock = true)
    (hj : (s.pc j).holdsLock = true) : i = j := by
  simpa using (hs i hi).symm.trans (hs j hj)

omit [DecidableEq ι] in
lemma not_holds {s : State ι} (hs : LockHeld n s) {i j : ι}
    (hi : s.redis (lockName n) = some (.token i)) (hj : j ≠ i) : (s.pc j).holdsLock = false := by
  cases h : (s.pc j).holdsLock
  · rfl
  · exact absurd (by simpa [hi] using (hs j h).symm) hj

omit [DecidableEq ι] in
lemma initial {s : State ι} (h : Initial s) : LockHeld n s :=
  fun i hi => by simp [h.1 i, Pc.holdsLock] at hi

lemma move {s : State ι} (hs : LockHeld n s) {i : ι} {q : Pc}
    (hq : q.holdsLock = true → (s.pc i).holdsLock = true) : LockHeld n (s.move i q) := by
  intro j hj
  by_cases h : j = i
  · subst h; exact hs j (hq (by simpa using hj))
  · exact hs j (by simpa [Function.update_noteq h] using hj)

omit [DecidableEq ι] in
lemma write {s : State ι} (hs : LockHeld n s) {k : String} (hk : k ≠ lockName n)
    (v : Option (Value ι)) : LockHeld n (s.write k v) :=
  fun j hj => by simpa [Function.update_noteq (Ne.symm hk)] using hs j hj

lemma lock {s : State ι} (hs : LockHeld n s) {i : ι} (hL : s.redis (lockName n) = none) :
    LockHeld n ((s.move i .holding).write (lockName n) (some (.token i))) := by
  intro j hj
  by_cases h : j = i
  · subst h; simp
  · simpa [hL] using hs j (by simpa [Function.update_noteq h] using hj)

lemma unlock {s : State ι} (hs : LockHeld n s) {i : ι} {q : Pc}
    (hL : s.redis (lockName n) = some (.token i)) (hq : q.holdsLock = false) :
    LockHeld n ((s.move i q).write (lockName n) none) := by
  intro j hj
  by_cases h : j = i
  · subst h; simp [hq] at hj
  · simp [Function.update_noteq h, hs.not_holds hL h] at hj

lemma preserve {s s' : State ι} (hs : LockHeld n s) {e : Event ι}
    (h : step (fun _ => Caller.create n) s e = some s') : LockHeld n s' := by
  cases e with
  | acquire i =>
    simp only [step, Caller.create] at h
    split_ifs at h with hg
    cases h
    exact hs.lock hg.2
  | lockError i =>
    simp only [step] at h
    split_ifs at h
    cases h
    exact hs.move nofun
  | get i | issue i | ok i | fail i =>
    simp only [step] at h
    split_ifs at h with hg <;> cases h <;> exact hs.move fun _ => by rw [hg]; rfl
  | set i =>
    simp only [step, Caller.create] at h
    split_ifs at h with hg
    cases h
    exact (hs.move fun _ => by rw [hg]; rfl).write (cacheKey_ne_lockName n) _
  | release i =>
    simp only [step, Caller.create] at h
    split_ifs at h with hg hL <;> cases h
    · exact hs.unlock hL rfl
    · exact hs.unlock hL rfl
    · exact hs.move nofun

lemma preserve_fault {s s' : State ι} (hs : LockHeld n s) {f : Fault ι}
    (hf : f ≠ .expire (lockName n)) (h : fault s f = some s') : LockHeld n s' := by
  cases f with
  | expire k =>
    simp only [fault] at h
    split_ifs at h
    cases h
    exact hs.write (fun hk => hf (hk ▸ rfl)) _
  | getError i | setError i =>
    simp only [fault] at h
    split_ifs at h with hg
    cases h
    exact hs.move fun _ => by rw [hg]; rfl
  | releaseError i =>
    simp only [fault] at h
    split_ifs at h
    cases h
    exact hs.move nofun

lemma runWith {s t : State ι} (hs : LockHeld n s)
    (h : RunWith (fun _ => Caller.create n) (fun f => f ≠ .expire (lockName n)) s t) :
    LockHeld n t := by
  induction h with
  | refl => exact hs
  | tail _ _ he ih => exact ih.preserve he
  | faulty _ hf _ he ih => exact ih.preserve_fault hf he

end LockHeld

omit [DecidableEq ι] in
lemma Invariant.initial {s : State ι} (h : Initial s) : Invariant n s where
  lock_held := .initial h
  provisioning_uncached i := by simp [h.1 i, Pc.provisioning]
  normal_cached i := by simp [h.1 i, Pc.normal]
  completed_le := by simp [h.2.1]
  completed_pending := by simp [h.2.1]

lemma Invariant.move {s : State ι} (hs : Invariant n s) {i : ι} {q : Pc}
    (hl : q.holdsLock = (s.pc i).holdsLock)
    (hp : q.provisioning = true → s.redis (cacheKey n) = none)
    (hn : q.normal = true → (s.redis (cacheKey n)).isSome)
    (hc : s.pc i = .called → q = .called) : Invariant n (s.move i q) where
  lock_held := hs.lock_held.move fun h => hl ▸ h
  provisioning_uncached j hj := by
    by_cases hj' : j = i
    · subst hj'; simpa using hp (by simpa using hj)
    · simpa using hs.provisioning_uncached j (by simpa [Function.update_noteq hj'] using hj)
  normal_cached j hj := by
    by_cases hj' : j = i
    · subst hj'; simpa using hn (by simpa using hj)
    · simpa using hs.normal_cached j (by simpa [Function.update_noteq hj'] using hj)
  completed_le := by simpa using hs.completed_le
  completed_pending hc' := by
    rcases hs.completed_pending (by simpa using hc') with hK | ⟨j, hj⟩
    · exact .inl (by simpa using hK)
    · refine .inr ⟨j, ?_⟩
      by_cases hji : j = i
      · subst hji; simpa using hc hj
      · simpa [Function.update_noteq hji] using hj

omit [DecidableEq ι] in
lemma Invariant.log {s : State ι} (hs : Invariant n s) {c : EngineCall} (hc : c ≠ .completed n) :
    Invariant n (s.log c) where
  lock_held := hs.lock_held
  provisioning_uncached := by simpa using hs.provisioning_uncached
  normal_cached := by simpa using hs.normal_cached
  completed_le := by simpa [List.count_append, List.count_singleton', Ne.symm hc] using
    hs.completed_le
  completed_pending := by
    simpa [List.count_append, List.count_singleton', Ne.symm hc] using hs.completed_pending

omit [DecidableEq ι] in
lemma Invariant.log_completed {s : State ι} (hs : Invariant n s)
    (h0 : s.engine.count (.completed n) = 0) (hc : ∃ i, s.pc i = .called) :
    Invariant n (s.log (.completed n)) where
  lock_held := hs.lock_held
  provisioning_uncached := by simpa using hs.provisioning_uncached
  normal_cached := by simpa using hs.normal_cached
  completed_le := by simp [List.count_append, h0]
  completed_pending _ := .inr (by simpa using hc)

lemma Invariant.unlock {s : State ι} (hs : Invariant n s) {i : ι} {q : Pc}
    (hL : s.redis (lockName n) = some (.token i)) (hq : q.holdsLock = false)
    (hp : q.provisioning = false) (hn : q.normal = true → (s.pc i).normal = true)
    (hc : s.pc i ≠ .called) : Invariant n ((s.move i q).write (lockName n) none) where
  lock_held := hs.lock_held.unlock hL hq
  provisioning_uncached j hj := by
    by_cases hj' : j = i
    · subst hj'; simp [hp] at hj
    · simpa using hs.provisioning_uncached j (by simpa [Function.update_noteq hj'] using hj)
  normal_cached j hj := by
    by_cases hj' : j = i
    · subst hj'; simpa using hs.normal_cached j (hn (by simpa using hj))
    · simpa using hs.normal_cached j (by simpa [Function.update_noteq hj'] using hj)
  completed_le := by simpa using hs.completed_le
  completed_pending hc' := by
    rcases hs.completed_pending (by simpa using hc') with hK | ⟨j, hj⟩
    · exact .inl (by simpa using hK)
    · have : j ≠ i := by rintro rfl; exact hc hj
      exact .inr ⟨j, by simp [Function.update_noteq this, hj]⟩

lemma Invariant.lock {s : State ι} (hs : Invariant n s) {i : ι} (hi : s.pc i = .idle)
    (hL : s.redis (lockName n) = none) :
    Invariant n ((s.move i .holding).write (lockName n) (some (.token i))) where
  lock_held := hs.lock_held.lock hL
  provisioning_uncached j hj := by
    by_cases hj' : j = i
    · subst hj'; simp [Pc.provisioning] at hj
    · simpa using hs.provisioning_uncached j (by simpa [Function.update_noteq hj'] using hj)
  normal_cached j hj := by
    by_cases hj' : j = i
    · subst hj'; simp [Pc.normal] at hj
    · simpa using hs.normal_cached j (by simpa [Function.update_noteq hj'] using hj)
  completed_le := by simpa using hs.completed_le
  completed_pending hc := by
    rcases hs.completed_pending (by simpa using hc) with hK | ⟨j, hj⟩
    · exact .inl (by simpa using hK)
    · have : j ≠ i := by rintro rfl; simp [hi] at hj
      exact .inr ⟨j, by simp [Function.update_noteq this, hj]⟩

lemma Invariant.cache {s : State ι} (hs : Invariant n s) {i : ι} (hi : s.pc i = .called) :
    Invariant n ((s.move i .exiting).write (cacheKey n) (some .one)) where
  lock_held := (hs.lock_held.move (by simp [hi, Pc.holdsLock])).write
    (cacheKey_ne_lockName n) _
  provisioning_uncached j hj := by
    by_cases hj' : j = i
    · subst hj'; simp [Pc.provisioning] at hj
    · have hj₁ : (s.pc j).provisioning = true := by simpa [Function.update_noteq hj'] using hj
      have := hs.lock_held.unique (show (s.pc i).holdsLock = true by simp [hi, Pc.holdsLock])
        (show (s.pc j).holdsLock = true by
        revert hj₁; cases s.pc j <;> simp [Pc.provisioning, Pc.holdsLock])
      exact absurd this.symm hj'
  normal_cached j _ := by simp
  completed_le := by simpa using hs.completed_le
  completed_pending _ := .inl (by simp)

lemma Invariant.complete {s : State ι} (hs : Invariant n s) {i : ι} (hi : s.pc i = .calling) :
    Invariant n ((s.move i .called).log (.completed n)) := by
  have hK := hs.provisioning_uncached i (by simp [hi, Pc.provisioning])
  have hnone : ∀ j, s.pc j ≠ .called := fun j hj => by
    have := hs.lock_held.unique (show (s.pc i).holdsLock = true by simp [hi, Pc.holdsLock])
      (show (s.pc j).holdsLock = true by simp [hj, Pc.holdsLock])
    subst this; simp [hi] at hj
  have h0 : s.engine.count (.completed n) = 0 := by
    have := hs.completed_le
    have := mt hs.completed_pending (by simp [hK, hnone])
    omega
  exact (hs.move (by simp [hi, Pc.holdsLock]) (fun _ => hK) (by simp [Pc.normal])
    (by simp)).log_completed (by simpa using h0) ⟨i, by simp⟩

lemma Invariant.preserve {s s' : State ι} (hs : Invariant n s) {e : Event ι}
    (h : step (fun _ => Caller.create n) s e = some s') : Invariant n s' := by
  cases e with
  | acquire i =>
    simp only [step, Caller.create] at h
    split_ifs at h with hg
    cases h
    exact hs.lock hg.1 hg.2
  | lockError i =>
    simp only [step] at h
    split_ifs at h with hg
    cases h
    exact hs.move (by simp [hg, Pc.holdsLock]) (by simp [Pc.provisioning])
      (by simp [Pc.normal]) (by simp [hg])
  | get i =>
    simp only [step, Caller.create] at h
    split_ifs at h with hg hK <;> cases h
    · exact hs.move (by simp [hg, Pc.holdsLock]) (by simp [Pc.provisioning]) (fun _ => hK)
        (by simp [hg])
    · exact hs.move (by simp [hg, Pc.holdsLock]) (fun _ => by simpa using hK)
        (by simp [Pc.normal]) (by simp [hg])
  | issue i =>
    simp only [step, Caller.create] at h
    split_ifs at h with hg
    cases h
    exact (hs.move (by simp [hg, Pc.holdsLock])
      (fun _ => hs.provisioning_uncached i (by simp [hg, Pc.provisioning]))
      (by simp [Pc.normal]) (by simp [hg])).log (by simp)
  | fail i =>
    simp only [step, Caller.create] at h
    split_ifs at h with hg
    cases h
    exact (hs.move (by simp [hg, Pc.holdsLock]) (by simp [Pc.provisioning])
      (by simp [Pc.normal]) (by simp [hg])).log (by simp)
  | ok i =>
    simp only [step, Caller.create] at h
    split_ifs at h with hg
    cases h
    exact hs.complete hg
  | set i =>
    simp only [step, Caller.create] at h
    split_ifs at h with hg
    cases h
    exact hs.cache hg
  | release i =>
    simp only [step, Caller.create] at h
    have hheld : ∀ p, s.pc i = p → (p = .exiting ∨ p = .unwinding) →
        s.redis (lockName n) = some (.token i) := by
      rintro p hp (rfl | rfl) <;> exact hs.lock_held i (by simp [hp, Pc.holdsLock])
    split_ifs at h with hg hL hex <;> cases h
    · exact hs.unlock hL (by simp [Pc.holdsLock]) (by simp [Pc.provisioning])
        (fun _ => by simp [hex, Pc.normal]) (by simp [hex])
    · exact hs.unlock hL (by simp [Pc.holdsLock]) (by simp [Pc.provisioning])
        (by simp [Pc.normal]) (by rcases hg with hg | hg <;> simp_all)
    · exact absurd (hheld _ rfl hg) hL

lemma Invariant.run {s t : State ι} (hs : Invariant n s)
    (h : Run (fun _ => Caller.create n) s t) : Invariant n t := by
  induction h with
  | refl => exact hs
  | tail _ _ he ih => exact ih.preserve he

lemma Reachable.invariant {s : State ι} (h : Reachable (fun _ => Caller.create n) s) :
    Invariant n s :=
  let ⟨_, h₀, hr⟩ := h
  (Invariant.initial h₀).run hr

lemma step_cached {s s' : State ι} {e : Event ι} (h : step (fun _ => Caller.create n) s e = some s')
    (hK : (s.redis (cacheKey n)).isSome) : (s'.redis (cacheKey n)).isSome := by
  cases e <;> simp only [step, Caller.create] at h <;> split_ifs at h <;> cases h <;>
    simp [hK]

lemma step_issued_of_cached {s s' : State ι} {e : Event ι} (hs : Invariant n s)
    (h : step (fun _ => Caller.create n) s e = some s') (hK : (s.redis (cacheKey n)).isSome) :
    s'.engine.count (.issued n) = s.engine.count (.issued n) := by
  cases e <;> simp only [step, Caller.create] at h <;> split_ifs at h with hg <;> cases h <;>
    simp [List.count_append]
  rename_i i
  simp [hs.provisioning_uncached i (by simp [hg, Pc.provisioning])] at hK

lemma run_issued_of_cached {s t : State ι} (hs : Invariant n s)
    (h : Run (fun _ => Caller.create n) s t) (hK : (s.redis (cacheKey n)).isSome) :
    (t.redis (cacheKey n)).isSome ∧ t.engine.count (.issued n) = s.engine.count (.issued n) := by
  induction h with
  | refl => exact ⟨hK, rfl⟩
  | tail _ hr he ih =>
    obtain ⟨hK', hc⟩ := ih
    exact ⟨step_cached he hK', (step_issued_of_cached (hs.run hr) he hK').trans hc⟩

theorem create_collection_provisions_once {s : State ι}
    (h : Reachable (fun _ => Caller.create n) s) :
    s.engine.count (.completed n) ≤ 1 ∧
    ((s.redis (cacheKey n)).isSome → ∀ t, Run (fun _ => Caller.create n) s t →
      t.engine.count (.issued n) = s.engine.count (.issued n)) ∧
    ∀ i, s.pc i = .returned → (s.redis (cacheKey n)).isSome :=
  have hs := h.invariant
  ⟨hs.completed_le, fun hK _ ht => (run_issued_of_cached hs ht hK).2,
    fun i hi => hs.normal_cached i (by simp [hi, Pc.normal])⟩

theorem create_collection_mutual_exclusion {s₀ s : State ι} (h₀ : Initial s₀)
    (h : RunWith (fun _ => Caller.create n) (fun f => f ≠ .expire (lockName n)) s₀ s) :
    (∀ i j, (s.pc i).holdsLock = true → (s.pc j).holdsLock = true → i = j) ∧
    ∀ i, (s.pc i = .exiting → step (fun _ => Caller.create n) s (.release i) =
        some ((s.move i .returned).write (lockName n) none)) ∧
      (s.pc i = .unwinding → step (fun _ => Caller.create n) s (.release i) =
        some ((s.move i .raised).write (lockName n) none)) := by
  have hs := (LockHeld.initial h₀).runWith h
  -- inside the block, the lock holds the caller's own token
  refine ⟨fun _ _ => hs.unique, fun i => ⟨fun hi => ?_, fun hi => ?_⟩⟩ <;>
    simp [step, Caller.create, hi, hs i (by simp [hi, Pc.holdsLock])]

theorem create_collection_alone_returns {s : State ι} {i : ι} (hi : s.pc i = .idle)
    (hl : s.redis (lockName n) = none) :
    ∃ t, Run (fun _ => Caller.create n) s t ∧ t.pc = Function.update s.pc i .returned ∧
      t.redis (lockName n) = none ∧ (t.redis (cacheKey n)).isSome ∧
      t.engine = s.engine ++
        if (s.redis (cacheKey n)).isSome then [] else [.issued n, .completed n] := by
  obtain ⟨redis, calls, hc, hK, rfl, hL⟩ := createCollection_returned (i := i) hl
  obtain ⟨t, ht, hpc, rfl, he⟩ := run_createCollection _ hi hc
  exact ⟨t, ht, hpc, hL, hK, he⟩

end SameCollection

def State.start : State ι := ⟨fun _ => .idle, fun _ => none, []⟩

omit [DecidableEq ι] in
lemma initial_start : Initial (State.start : State ι) := by
  simp [Initial, State.start]

-- caller `false` provisions the collection, then caller `true` finds it cached
lemma run_two_callers (n : String) :
    ∃ s, Run (fun _ : Bool => Caller.create n) State.start s ∧ s.pc false = .returned ∧
      s.pc true = .returned ∧ s.engine = [.issued n, .completed n] := by
  obtain ⟨redis, calls, hc, hK, rfl, hL⟩ :=
    createCollection_returned (n := n) (i := false)
      (show (State.start : State Bool).redis (lockName n) = none from rfl)
  obtain ⟨t, ht, hpc, rfl, he⟩ := run_createCollection _ rfl hc
  obtain ⟨u, hu, hpc', -, he'⟩ := run_createCollection _ (by simp [hpc, State.start])
    (createCollection_cached (fun _ : Bool => Caller.create n) (i := true) true hL hK)
  exact ⟨u, ht.trans _ hu, by simp [hpc', hpc], by simp [hpc'],
    by simp [he', he, State.start]⟩

theorem create_collection_provisions_once_two_callers :
    ∃ s : State Bool, Reachable (fun _ => Caller.create "ccc") s ∧ s.pc false = .returned ∧
      s.pc true = .returned ∧ s.engine = [.issued "ccc", .completed "ccc"] ∧
      (s.engine.count (.completed "ccc") ≤ 1 ∧
        ((s.redis (cacheKey "ccc")).isSome → ∀ t, Run (fun _ => Caller.create "ccc") s t →
          t.engine.count (.issued "ccc") = s.engine.count (.issued "ccc")) ∧
        ∀ i, s.pc i = .returned → (s.redis (cacheKey "ccc")).isSome) :=
  let ⟨s, hs, h₁, h₂, he⟩ := run_two_callers "ccc"
  have hr : Reachable (fun _ => Caller.create "ccc") s := ⟨_, initial_start, hs⟩
  ⟨s, hr, h₁, h₂, he, create_collection_provisions_once hr⟩

def State.acquired : State Bool :=
  (State.start.move true .holding).write (lockName "ccc") (some (.token true))

def State.getFailed : State Bool := State.acquired.move true .unwinding

theorem create_collection_mutual_exclusion_get_error :
    Initial (State.start : State Bool) ∧
    RunWith (fun _ => Caller.create "ccc") (fun f => f ≠ .expire (lockName "ccc")) State.start
      State.getFailed ∧
    (∀ i j, (State.getFailed.pc i).holdsLock = true → (State.getFailed.pc j).holdsLock = true →
      i = j) ∧
    ∀ i, (State.getFailed.pc i = .exiting → step (fun _ => Caller.create "ccc") State.getFailed
        (.release i) = some ((State.getFailed.move i .returned).write (lockName "ccc") none)) ∧
      (State.getFailed.pc i = .unwinding → step (fun _ => Caller.create "ccc") State.getFailed
        (.release i) = some ((State.getFailed.move i .raised).write (lockName "ccc") none)) :=
  have hr : RunWith (fun _ => Caller.create "ccc") (fun f => f ≠ .expire (lockName "ccc"))
      State.start State.getFailed :=
    .faulty (.getError true) nofun (.tail (u := State.acquired) (.acquire true) (.refl _) rfl) rfl
  ⟨initial_start, hr, create_collection_mutual_exclusion initial_start hr⟩

theorem create_collection_alone_returns_start :
    (State.start : State Bool).pc true = .idle ∧
    (State.start : State Bool).redis (lockName "ccc") = none ∧
    ∃ t, Run (fun _ => Caller.create "ccc") State.start t ∧
      t.pc = Function.update State.start.pc true .returned ∧
      t.redis (lockName "ccc") = none ∧ (t.redis (cacheKey "ccc")).isSome ∧
      t.engine = (State.start : State Bool).engine ++
        if ((State.start : State Bool).redis (cacheKey "ccc")).isSome then []
        else [.issued "ccc", .completed "ccc"] :=
  ⟨rfl, rfl, create_collection_alone_returns rfl rfl⟩

theorem create_collection_caches_other_name (a b : String) (hab : a ≠ b)
    (hkey : cacheKey b ≠ lockName a) :
    ∃ s, Run (fun i : Bool => if i then Caller.create b else ⟨b, a⟩) State.start s ∧
      s.pc false = .returned ∧ s.pc true = .returned ∧ (s.redis (cacheKey b)).isSome ∧
      s.engine = [.issued a, .completed a] := by
  let callers := fun i : Bool => if i then Caller.create b else ⟨b, a⟩
  -- the instance of `b` runs `create_collection(a)`: lock of `a`, cache key of `b`
  let redis : String → Option (Value Bool) := Function.update (Function.update
    (Function.update (fun _ => none) (lockName a) (some (.token false))) (cacheKey b) (some .one))
    (lockName a) none
  have h : createCollection callers false true (State.start : State Bool).redis =
      some (redis, [.issued a, .completed a], .returned) := by
    simp [createCollection, callers, State.start, redis, hkey, Function.update_noteq (Ne.symm hkey)]
  obtain ⟨t, ht, hpc, hr, he⟩ := run_createCollection callers rfl h
  have hL : t.redis (lockName (callers true).argument) = none := by
    have hba : lockName b ≠ lockName a := fun h => hab (lockName_inj h).symm
    simp [hr, redis, callers, Caller.create, hba]
  have hK : (t.redis (cacheKey (callers true).collectionName)).isSome := by
    simp [hr, redis, callers, Caller.create, hkey]
  -- then `create_collection(b)` of the same instance finds the entry and returns
  obtain ⟨u, hu, hpc', hr', he'⟩ := run_createCollection callers (by simp [hpc, State.start])
    (createCollection_cached callers true hL hK)
  exact ⟨u, ht.trans _ hu, by simp [hpc', hpc], by simp [hpc'], by simpa [hr', callers] using hK,
    by simp [he', he, State.start]⟩

theorem create_collection_caches_other_name_bbb :
    "aaa" ≠ "bbb" ∧ cacheKey "bbb" ≠ lockName "aaa" ∧
    ∃ s, Run (fun i : Bool => if i then Caller.create "bbb" else ⟨"bbb", "aaa"⟩) State.start s ∧
      s.pc false = .returned ∧ s.pc true = .returned ∧ (s.redis (cacheKey "bbb")).isSome ∧
      s.engine = [.issued "aaa", .completed "aaa"] :=
  ⟨by decide, by decide, create_collection_caches_other_name "aaa" "bbb" (by decide) (by decide)⟩

end Dify.Chroma.Provisioning
