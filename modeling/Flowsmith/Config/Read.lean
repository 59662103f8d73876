import Flowsmith.Config.Basic
import Flowsmith.Json.Shape
import Flowsmith.Text.Blank

/-!
Configurations from a JSON document, and from environment variables laid over it.
-/

namespace Flowsmith

/-- Why there is no configuration. -/
inductive ConfigError where
  /-- A variable has a value that is not allowed. -/
  | invalid (name requirement : String)
  /-- The document is not a configuration. -/
  | parse (fault : Json.Fault)
  /-- The document could not be read. -/
  | read (path reason : String)
deriving DecidableEq, Repr

/-- The wording of an error. -/
def ConfigError.message : ConfigError → String
  | .invalid name requirement => s!"invalid value for {name}: {requirement}"
  | .parse fault => "invalid configuration document: " ++ fault.message
  | .read path reason => s!"cannot read configuration file {path}: {reason}"

namespace Config

open Json

/-- The shape of a channel binding. -/
def bindingShape : Shape :=
  .record "ChannelBinding" [
    ("name", true, .text),
    ("direction", true, .word (Keyword.names Direction)),
    ("defaultInput", false, .flag),
    ("defaultOutput", false, .flag)]

/-- The shape of a configuration document. -/
def shape : Shape :=
  .record "CodegenConfig" [
    ("validationEnabled", false, .flag),
    ("openapiEnabled", false, .flag),
    ("restEnabled", false, .flag),
    ("transactionsEnabled", false, .flag),
    ("restStyle", false, .word (Keyword.names RestStyle)),
    ("injection", false, .word (Keyword.names Injection)),
    ("failOnError", false, .flag),
    ("emitPlaceholderWhenEmpty", false, .flag),
    ("messaging", false, .record "MessagingConfig" [
      ("bindings", false, .list bindingShape),
      ("properties", false, .texts)])]

/-- The fields of a configuration. -/
def reader : Fields Config :=
  Config.mk <$> Fields.defaulted "validationEnabled" false decodeBool
    <*> Fields.defaulted "openapiEnabled" false decodeBool
    <*> Fields.defaulted "restEnabled" true decodeBool
    <*> Fields.defaulted "transactionsEnabled" false decodeBool
    <*> Fields.defaulted "restStyle" .blocking (decodeKeyword .direct)
    <*> Fields.defaulted "injection" .none (decodeKeyword .direct)
    <*> Fields.defaulted "failOnError" true decodeBool
    <*> Fields.defaulted "emitPlaceholderWhenEmpty" false decodeBool
    <*> Fields.defaulted "messaging" Messaging.empty Messaging.ofJson

/-- The configuration of a document; what it does not mention keeps its default. -/
def ofText (text : String) : Except ConfigError Config :=
  match shape.parse text with
  | .error fault => .error (.parse fault)
  | .ok v =>
      match reader.decode .direct "struct CodegenConfig" v with
      | .ok c => .ok c
      | .error m => .error (.parse ⟨.mismatch m, {}⟩)

/-- The value of a variable without the blanks around it, in small ASCII letters. -/
def variableWord (raw : String) : String :=
  String.ofList ((Text.trim raw).toList.map Char.toLower)

/-- A variable that switches something on or off. -/
def switch? (environment : Dict String) (name : String) : Except ConfigError (Option Bool) :=
  match environment.get? name with
  | none => .ok none
  | some raw =>
      let word := variableWord raw
      if word ∈ ["true", "1", "yes"] then .ok (some true)
      else if word ∈ ["false", "0", "no"] then .ok (some false)
      else .error (.invalid name "must be true or false")

/-- A variable that chooses one of a few words. -/
def choice? {α : Type} [Keyword α] (environment : Dict String) (name : String) :
    Except ConfigError (Option α) :=
  match environment.get? name with
  | none => .ok none
  | some raw =>
      match Keyword.parse? (variableWord raw) with
      | some a => .ok (some a)
      | none => .error (.invalid name
          ("must be one of: " ++ String.intercalate ", " (Keyword.names α)))

/-- The environment variables that are looked at. -/
def environmentNames : List String :=
  ["PROCFLOW_VALIDATION_ENABLED", "PROCFLOW_OPENAPI_ENABLED", "PROCFLOW_REST_ENABLED",
    "PROCFLOW_TRANSACTIONS_ENABLED", "PROCFLOW_FAIL_ON_ERROR", "PROCFLOW_REST_STYLE",
    "PROCFLOW_INJECTION"]

/-- The configuration with the values that environment variables give. -/
def applyEnvironment (c : Config) (environment : Dict String) : Except ConfigError Config := do
  let validation ← switch? environment "PROCFLOW_VALIDATION_ENABLED"
  let openapi ← switch? environment "PROCFLOW_OPENAPI_ENABLED"
  let rest ← switch? environment "PROCFLOW_REST_ENABLED"
  let transactions ← switch? environment "PROCFLOW_TRANSACTIONS_ENABLED"
  let failOnError ← switch? environment "PROCFLOW_FAIL_ON_ERROR"
  let restStyle ← choice? environment "PROCFLOW_REST_STYLE"
  let injection ← choice? environment "PROCFLOW_INJECTION"
  return { c with
    validationEnabled := validation.getD c.validationEnabled
    openapiEnabled := openapi.getD c.openapiEnabled
    restEnabled := rest.getD c.restEnabled
    transactionsEnabled := transactions.getD c.transactionsEnabled
    failOnError := failOnError.getD c.failOnError
    restStyle := restStyle.getD c.restStyle
    injection := injection.getD c.injection }

end Config

end Flowsmith
