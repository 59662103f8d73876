import Flowsmith.Channel.Binding

/-!
Configuration of a compilation, and its overlay from environment variables.
-/

namespace Flowsmith

/-- The style of generated REST resources. -/
inductive RestStyle where
  | blocking
  | reactive
deriving DecidableEq, Repr

instance : Keyword RestStyle where
  all := [.blocking, .reactive]
  text
    | .blocking => "blocking"
    | .reactive => "reactive"

/-- How generated members come by their collaborators: they make them, or a container hands them
    in. -/
inductive Injection where
  | none
  | injected
deriving DecidableEq, Repr

instance : Keyword Injection where
  all := [.none, .injected]
  text
    | .none => "none"
    | .injected => "injected"

/-- The configuration of a compilation. -/
structure Config where
  /-- Generated models carry validation attributes. -/
  validationEnabled : Bool := false
  /-- Generated models derive schemas. -/
  openapiEnabled : Bool := false
  /-- Public processes get REST resources. -/
  restEnabled : Bool := true
  /-- REST handlers that change something are transactional. -/
  transactionsEnabled : Bool := false
  restStyle : RestStyle := .blocking
  injection : Injection := .none
  /-- A batch with errors fails as a whole. -/
  failOnError : Bool := true
  /-- An empty batch is compiled with a placeholder process. -/
  emitPlaceholderWhenEmpty : Bool := false
  messaging : Messaging := .empty
deriving DecidableEq

namespace Config

/-- The configuration that nothing has been said about. -/
def standard : Config := {}

/-- Whether generated members are handed in by a container. -/
def injectionEnabled (c : Config) : Bool :=
  c.injection == .injected

def toJson (c : Config) : Json :=
  Json.ofFields [
    ("validationEnabled", .bool c.validationEnabled),
    ("openapiEnabled", .bool c.openapiEnabled),
    ("restEnabled", .bool c.restEnabled),
    ("transactionsEnabled", .bool c.transactionsEnabled),
    ("restStyle", .string (Keyword.text c.restStyle)),
    ("injection", .string (Keyword.text c.injection)),
    ("failOnError", .bool c.failOnError),
    ("emitPlaceholderWhenEmpty", .bool c.emitPlaceholderWhenEmpty),
    ("messaging", c.messaging.toJson)]

end Config

end Flowsmith
