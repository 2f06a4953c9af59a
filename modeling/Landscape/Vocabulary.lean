/-!
The words of change events: kinds of resources, operations and interface technologies. Every word
has one canonical name, and a name that belongs to none is read as the unknown word. The twelve
entity kinds are the resource types that a model stores.
-/

namespace Landscape

inductive Kind where
  | node | nodeType | context | contextType | system | systemInstance
  | api | apiInstance | component | componentInstance | finding | findingType
  deriving DecidableEq, Repr

namespace Kind

def all : List Kind :=
  [node, nodeType, context, contextType, system, systemInstance,
   api, apiInstance, component, componentInstance, finding, findingType]

theorem mem_all (kind : Kind) : kind ∈ all := by cases kind <;> decide

def name : Kind → String
  | node => "Node"
  | nodeType => "NodeType"
  | context => "Context"
  | contextType => "ContextType"
  | system => "System"
  | systemInstance => "SystemInstance"
  | api => "API"
  | apiInstance => "APIInstance"
  | component => "Component"
  | componentInstance => "ComponentInstance"
  | finding => "Finding"
  | findingType => "FindingType"

def ofName? (name : String) : Option Kind :=
  all.find? fun kind => kind.name = name

end Kind

inductive ResourceType where
  | unknown
  | entity (kind : Kind)
  | annotations
  deriving DecidableEq, Repr

namespace ResourceType

def all : List ResourceType :=
  unknown :: Kind.all.map entity ++ [annotations]

def name : ResourceType → String
  | unknown => "UnknownResourceType"
  | entity kind => kind.name
  | annotations => "Annotations"

def ofName? (name : String) : Option ResourceType :=
  all.find? fun type => type.name = name

def parse (name : String) : ResourceType :=
  (ofName? name).getD unknown

end ResourceType

inductive Operation where
  | unknown | create | update | delete
  deriving DecidableEq, Repr

namespace Operation

def all : List Operation := [unknown, create, update, delete]

def name : Operation → String
  | unknown => "UnknownOperation"
  | create => "CreateOperation"
  | update => "UpdateOperation"
  | delete => "DeleteOperation"

def ofName? (name : String) : Option Operation :=
  all.find? fun operation => operation.name = name

def parse (name : String) : Operation :=
  (ofName? name).getD unknown

end Operation

inductive ApiType where
  | unknown | other | graphQL | grpc | openAPI
  deriving DecidableEq, Repr

namespace ApiType

def all : List ApiType := [unknown, other, graphQL, grpc, openAPI]

def name : ApiType → String
  | unknown => "Unknown"
  | other => "Other"
  | graphQL => "GraphQL"
  | grpc => "GRPC"
  | openAPI => "OpenAPI"

def ofName? (name : String) : Option ApiType :=
  all.find? fun type => type.name = name

def parse (name : String) : ApiType :=
  (ofName? name).getD unknown

end ApiType

/-! Whether an entity has ever been stored. An entity that was stored once stays registered. -/

inductive Registration where
  | unregistered | registered
  deriving DecidableEq, Repr

def Registration.name : Registration → String
  | .unregistered => "Unregistered"
  | .registered => "Registered"

end Landscape
