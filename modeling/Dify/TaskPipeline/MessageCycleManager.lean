import Dify.Python.Str
import Dify.AppConfig.Entities

set_option autoImplicit false

/-! `MessageCycleManager`: metadata handlers, conversation naming and message files. -/

namespace Dify.TaskPipeline

open Dify.Python Dify.AppConfig.Entities

structure MessageFile where
  id : String
  type : String
  belongsTo : Option String
  url : Option String

structure MessageFileStreamResponse where
  taskId : String
  id : String
  type : String
  belongsTo : String
  url : String

structure Account where
  name : String

structure MessageAnnotation where
  id : String
  accountId : String
  account : Option Account

structure AnnotationReplyAccount where
  id : String
  name : String

structure AnnotationReply where
  id : String
  account : AnnotationReplyAccount

structure TaskStateMetadata (ρ : Type) where
  annotationReply : Option AnnotationReply
  retrieverResources : List ρ

structure AppGenerateEntity where
  taskId : String
  appConfig : AppConfig
  isCompletion : Bool
  conversationId : Option String
  extras : List (String × Json)

def annotationReplyOf (row : MessageAnnotation) : AnnotationReply :=
  ⟨row.id, ⟨row.accountId, match row.account with
    | some account => account.name
    | none => "Dify user"⟩⟩

variable {ρ : Type}

def handleAnnotationReply (getAnnotationById : String → Option MessageAnnotation)
    (metadata : TaskStateMetadata ρ) (messageAnnotationId : String) :
    Option MessageAnnotation × TaskStateMetadata ρ :=
  match getAnnotationById messageAnnotationId with
  | some row => (some row, { metadata with annotationReply := some (annotationReplyOf row) })
  | none => (none, metadata)

def handleRetrieverResources (entity : AppGenerateEntity) (metadata : TaskStateMetadata ρ)
    (retrieverResources : List ρ) : TaskStateMetadata ρ :=
  if entity.appConfig.additionalFeatures.showRetrieveSource then
    { metadata with retrieverResources := retrieverResources }
  else metadata

inductive Event (ρ : Type)
  | annotationReply (messageAnnotationId : String)
  | retrieverResources (retrieverResources : List ρ)

section Handlers

variable (getAnnotationById : String → Option MessageAnnotation) (entity : AppGenerateEntity)

def handle (metadata : TaskStateMetadata ρ) : Event ρ → TaskStateMetadata ρ
  | .annotationReply messageAnnotationId =>
    (handleAnnotationReply getAnnotationById metadata messageAnnotationId).2
  | .retrieverResources retrieverResources =>
    handleRetrieverResources entity metadata retrieverResources

def Event.annotationFound : Event ρ → Option MessageAnnotation
  | .annotationReply messageAnnotationId => getAnnotationById messageAnnotationId
  | .retrieverResources _ => none

def Event.resources : Event ρ → Option (List ρ)
  | .annotationReply _ => none
  | .retrieverResources rs => some rs

lemma handle_annotationReply (metadata : TaskStateMetadata ρ) (e : Event ρ) :
    (handle getAnnotationById entity metadata e).annotationReply =
      ((e.annotationFound getAnnotationById).map annotationReplyOf).or
        metadata.annotationReply := by
  cases e with
  | annotationReply messageAnnotationId =>
    simp only [handle, handleAnnotationReply, Event.annotationFound]
    split <;> simp_all
  | retrieverResources _ =>
    simp only [handle, handleRetrieverResources, Event.annotationFound]
    split <;> rfl

lemma handle_retrieverResources (metadata : TaskStateMetadata ρ) (e : Event ρ) :
    (handle getAnnotationById entity metadata e).retrieverResources =
      if entity.appConfig.additionalFeatures.showRetrieveSource then
        (e.resources.getD metadata.retrieverResources)
      else metadata.retrieverResources := by
  cases e with
  | annotationReply messageAnnotationId =>
    simp only [handle, handleAnnotationReply, Event.resources, Option.getD_none, ite_self]
    split <;> rfl
  | retrieverResources _ =>
    simp only [handle, handleRetrieverResources, Event.resources, Option.getD_some]
    split <;> rfl

theorem run_handle (metadata : TaskStateMetadata ρ) (events : List (Event ρ)) :
    (events.foldl (handle getAnnotationById entity) metadata).annotationReply =
      ((events.filterMap (Event.annotationFound getAnnotationById)).getLast?.map
        annotationReplyOf).or metadata.annotationReply ∧
    (events.foldl (handle getAnnotationById entity) metadata).retrieverResources =
      if entity.appConfig.additionalFeatures.showRetrieveSource then
        ((events.filterMap Event.resources).getLast?.getD metadata.retrieverResources)
      else metadata.retrieverResources := by
  induction events using List.reverseRecOn with
  | nil => simp
  | append_singleton events e ih =>
    rw [List.foldl_append, List.foldl_cons, List.foldl_nil, handle_annotationReply,
      handle_retrieverResources, ih.1, ih.2, List.filterMap_append, List.filterMap_append]
    constructor
    · cases h : e.annotationFound getAnnotationById <;>
        simp only [List.filterMap_cons, List.filterMap_nil, h, List.append_nil,
          List.getLast?_concat, Option.map_none', Option.map_some', Option.or_some, Option.none_or]
    · split
      · cases h : e.resources <;>
          simp only [List.filterMap_cons, List.filterMap_nil, h, List.append_nil,
            List.getLast?_concat, Option.getD_none, Option.getD_some]
      · rfl

end Handlers

def generateConversationName (entity : AppGenerateEntity) (conversationId query : String) :
    Option (String × String) :=
  if entity.isCompletion then none
  else
    let isFirstMessage := entity.conversationId.isNone
    let autoGenerateConversationName :=
      dictGet entity.extras "auto_generate_conversation_name" (.bool true)
    if autoGenerateConversationName.truthy && isFirstMessage then some (conversationId, query)
    else none

lemma generateConversationName_eq_some {entity : AppGenerateEntity}
    {conversationId query : String} {args : String × String} :
    generateConversationName entity conversationId query = some args ↔
      entity.isCompletion = false ∧ entity.conversationId = none ∧
      (dictGet entity.extras "auto_generate_conversation_name" (.bool true)).truthy = true ∧
      args = (conversationId, query) := by
  unfold generateConversationName
  by_cases hc : entity.isCompletion
  · simp [hc]
  · cases h : entity.conversationId <;> simp [hc, h, @eq_comm _ args]

structure App where
  tenantId : String

structure Conversation where
  mode : String
  app : Option App
  name : String

def generateConversationNameWorker (completionMode : String)
    (llmGenerateConversationName : String → String → Option String)
    (conversations : String → Option Conversation) (conversationId query : String) :
    String → Option Conversation :=
  match conversations conversationId with
  | none => conversations
  | some conversation =>
    if conversation.mode ≠ completionMode then
      match conversation.app with
      | none => conversations
      | some app =>
        let name := (llmGenerateConversationName app.tenantId query).getD conversation.name
        Function.update conversations conversationId (some { conversation with name := name })
    else conversations

theorem generateConversationNameWorker_spec (completionMode : String)
    (llmGenerateConversationName : String → String → Option String)
    (conversations : String → Option Conversation) (conversationId query id : String) :
    generateConversationNameWorker completionMode llmGenerateConversationName conversations
        conversationId query id = conversations id ∨
      id = conversationId ∧ ∃ conversation app name, conversations id = some conversation ∧
        conversation.mode ≠ completionMode ∧ conversation.app = some app ∧
        llmGenerateConversationName app.tenantId query = some name ∧
        generateConversationNameWorker completionMode llmGenerateConversationName conversations
          conversationId query id = some { conversation with name := name } := by
  unfold generateConversationNameWorker
  cases hc : conversations conversationId with
  | none => exact .inl rfl
  | some conversation =>
    dsimp only
    by_cases hm : conversation.mode ≠ completionMode
    · rw [if_pos hm]
      cases ha : conversation.app with
      | none => exact .inl rfl
      | some app =>
        by_cases hid : id = conversationId
        · subst hid
          cases hn : llmGenerateConversationName app.tenantId query with
          | none => exact .inl (by simp [hc, hn, ← ha])
          | some name =>
            exact .inr ⟨rfl, conversation, app, name, hc, hm, ha, hn, by simp [hn, ← ha]⟩
        · exact .inl (Function.update_noteq hid _ _)
    · rw [if_neg hm]
      exact .inl rfl

def toolFileId (url : String) : String :=
  let toolFileId := (split url '/').getLastD ""
  (split toolFileId '.').headD ""

def extension (url : String) : String :=
  if '.' ∈ url.data then
    let extension := "." ++ (split url '.').getLastD ""
    if extension.length > 10 then ".bin" else extension
  else ".bin"

def belongsToOrUser (belongsTo : Option String) : String := orDefault belongsTo "user"

def messageFileToStreamResponse (signToolFile : String → String → String) (taskId : String)
    (messageFiles : List MessageFile) (messageFileId : String) :
    Option MessageFileStreamResponse := do
  let messageFile ← messageFiles.find? (·.id = messageFileId)
  let url ← messageFile.url
  let signed := if startswith url "http" then url else signToolFile (toolFileId url) (extension url)
  pure ⟨taskId, messageFile.id, messageFile.type, belongsToOrUser messageFile.belongsTo, signed⟩

lemma messageFileToStreamResponse_signs {signToolFile : String → String → String}
    {taskId : String} {messageFiles : List MessageFile} {messageFileId : String}
    {messageFile : MessageFile} {url : String}
    (hf : messageFiles.find? (·.id = messageFileId) = some messageFile)
    (hu : messageFile.url = some url) (hh : startswith url "http" = false) :
    messageFileToStreamResponse signToolFile taskId messageFiles messageFileId =
      some ⟨taskId, messageFile.id, messageFile.type, belongsToOrUser messageFile.belongsTo,
        signToolFile (toolFileId url) (extension url)⟩ := by
  simp [messageFileToStreamResponse, hf, hu, hh]

def fileName (url : String) : String := ⟨(url.data.reverse.takeWhile (· != '/')).reverse⟩

def afterLastDot (s : String) : List Char := (s.data.reverse.takeWhile (· != '.')).reverse

lemma toolFileId_eq (url : String) :
    toolFileId url = ⟨(fileName url).data.takeWhile (· != '.')⟩ := by
  simp only [toolFileId, split_last, split_head, fileName]

lemma afterLastDot_of_mem_fileName {url : String} (h : '.' ∈ (fileName url).data) :
    afterLastDot url = afterLastDot (fileName url) := by
  have hpre := List.takeWhile_append_dropWhile (· != '/') url.data.reverse
  have hex : ∃ c ∈ (url.data.reverse.takeWhile (· != '/')), (c != '.') = false :=
    ⟨'.', by simpa [fileName] using h, by simp⟩
  simp only [afterLastDot, fileName, List.reverse_reverse]
  conv_lhs => rw [← hpre]
  rw [takeWhile_append_of_exists _ hex]

lemma extension_of_mem_fileName {url : String} (h : '.' ∈ (fileName url).data) :
    extension url = if (afterLastDot (fileName url)).length ≤ 9 then
      "." ++ ⟨afterLastDot (fileName url)⟩ else ".bin" := by
  have hurl : '.' ∈ url.data := by
    simp only [fileName, List.mem_reverse] at h
    exact List.mem_reverse.mp ((List.takeWhile_sublist _).subset h)
  have hl := afterLastDot_of_mem_fileName h
  simp only [extension, if_pos hurl, split_last]
  simp only [afterLastDot] at hl
  rw [hl]
  have hlen : ("." ++ (⟨afterLastDot (fileName url)⟩ : String)).length =
      (afterLastDot (fileName url)).length + 1 := by
    have hdot : ".".length = 1 := by decide
    simp only [String.length_append, hdot, Nat.add_comm]
    rfl
  simp only [afterLastDot] at hlen ⊢
  rw [hlen]
  by_cases hn : ((fileName url).data.reverse.takeWhile (· != '.')).reverse.length ≤ 9
  · rw [if_neg (by omega), if_pos hn]
  · rw [if_pos (by omega), if_neg hn]

lemma extension_of_not_mem {url : String} (h : '.' ∉ url.data) : extension url = ".bin" := by
  simp [extension, h]

lemma fileName_fileName (url : String) : fileName (fileName url) = fileName url := by
  simp only [fileName, List.reverse_reverse, List.takeWhile_takeWhile, and_self,
    Bool.decide_eq_true]

theorem message_file_signed_from_file_name (url : String) :
    toolFileId url = ⟨(fileName url).data.takeWhile (· != '.')⟩ ∧
    (extension url = extension (fileName url) ∨ ('.' ∉ (fileName url).data ∧ '.' ∈ url.data)) := by
  refine ⟨toolFileId_eq url, ?_⟩
  by_cases hf : '.' ∈ (fileName url).data
  · refine .inl ?_
    rw [extension_of_mem_fileName hf, extension_of_mem_fileName (by rwa [fileName_fileName]),
      fileName_fileName]
  · by_cases hu : '.' ∈ url.data
    · exact .inr ⟨hf, hu⟩
    · exact .inl (by rw [extension_of_not_mem hu, extension_of_not_mem hf])

theorem message_file_extension_from_directory :
    (∀ signToolFile : String → String → String,
      messageFileToStreamResponse signToolFile "t" [⟨"m", "image", none, some "a.b/c"⟩] "m" =
        some ⟨"t", "m", "image", "user", signToolFile "c" ".b/c"⟩) ∧
    fileName "a.b/c" = "c" ∧ '/' ∈ (extension "a.b/c").data := by
  refine ⟨fun signToolFile => ?_, by decide, by decide⟩
  have hf : [(⟨"m", "image", none, some "a.b/c"⟩ : MessageFile)].find? (·.id = "m") =
      some ⟨"m", "image", none, some "a.b/c"⟩ := rfl
  have hu : (⟨"m", "image", none, some "a.b/c"⟩ : MessageFile).url = some "a.b/c" := rfl
  rw [messageFileToStreamResponse_signs hf hu (by decide)]
  rfl

end Dify.TaskPipeline
