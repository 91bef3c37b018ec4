import Dify.Python.Sorted
import Dify.Python.Dict
import Dify.Python.Str
import Dify.Python.Json.Encode
import Dify.Python.Json.Decode
import Dify.Python.Json.RoundTrip
import Dify.Chroma.Records
import Dify.Chroma.Client
import Dify.Chroma.Vector
import Dify.Chroma.Search
import Dify.Chroma.Store
import Dify.Chroma.Provisioning
import Dify.Chroma.Factory
import Dify.AppConfig.Entities
import Dify.TaskPipeline.MessageCycleManager
