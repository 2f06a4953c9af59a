import Landscape.Records
import Landscape.Version

/-!
The described things of a landscape: contexts, systems, their interfaces and components, running
instances of these, nodes and findings. Every entity has a kind, an identity, a name, a description,
annotations and, by its kind, further details and slots for references to other entities. A slot that
is set holds the target's identity and may also know the target itself.
-/

namespace Landscape

/-! Which entity, which model. Two entities may bear the same identity and still be two. -/

structure EntityRef where
  index : Nat
  deriving DecidableEq, Repr

structure ModelRef where
  index : Nat
  deriving DecidableEq, Repr

inductive Slot where
  | parent | contextType | system | context | api
  | systemInstance | component | nodeType | findingType
  deriving DecidableEq, Repr

namespace Slot

def all : List Slot :=
  [parent, contextType, system, context, api, systemInstance, component, nodeType, findingType]

def name : Slot → String
  | parent => "parent"
  | contextType => "context_type"
  | system => "system"
  | context => "context"
  | api => "api"
  | systemInstance => "system_instance"
  | component => "component"
  | nodeType => "node_type"
  | findingType => "finding_type"

def ofName? (name : String) : Option Slot :=
  all.find? fun slot => slot.name = name

end Slot

def Kind.slots : Kind → List (Slot × Kind)
  | .context => [(.parent, .context), (.contextType, .contextType)]
  | .system => [(.parent, .system)]
  | .api => [(.system, .system)]
  | .component => [(.system, .system)]
  | .systemInstance => [(.system, .system), (.context, .context)]
  | .apiInstance => [(.api, .api), (.systemInstance, .systemInstance)]
  | .componentInstance => [(.component, .component), (.systemInstance, .systemInstance)]
  | .node => [(.nodeType, .nodeType)]
  | .finding => [(.findingType, .findingType)]
  | .contextType | .nodeType | .findingType => []

def Kind.target? (kind : Kind) (slot : Slot) : Option Kind :=
  (kind.slots.find? fun entry => entry.1 = slot).map Prod.snd

structure Link where
  id : ResourceId
  target : Option EntityRef
  deriving DecidableEq

inductive Details where
  | plain
  | system (version : Version) (isAbstract : Bool)
  | api (version : Version) (apiType : ApiType)
  | component (version : Version) (consumes provides : List ResourceId)
  | finding (resources : List ResourceRef)
  deriving DecidableEq

namespace Details

def blank : Kind → Details
  | .system => system default false
  | .api => api default .unknown
  | .component => component default [] []
  | .finding => finding []
  | _ => plain

def version? : Details → Option Version
  | system version _ => some version
  | api version _ => some version
  | component version _ _ => some version
  | _ => none

def isAbstract? : Details → Option Bool
  | system _ isAbstract => some isAbstract
  | _ => none

def apiType? : Details → Option ApiType
  | api _ apiType => some apiType
  | _ => none

def consumes? : Details → Option (List ResourceId)
  | component _ consumes _ => some consumes
  | _ => none

def provides? : Details → Option (List ResourceId)
  | component _ _ provides => some provides
  | _ => none

def resources? : Details → Option (List ResourceRef)
  | finding resources => some resources
  | _ => none

end Details

structure Entity where
  kind : Kind
  id : ResourceId
  model : ModelRef
  registration : Registration
  displayName : String
  description : String
  details : Details
  links : Slot → Option Link
  annotations : Records

namespace Entity

def new (model : ModelRef) (kind : Kind) (id : ResourceId) : Entity where
  kind := kind
  id := id
  model := model
  registration := .unregistered
  displayName := ""
  description := ""
  details := .blank kind
  links := fun _ => none
  annotations := .empty

def isRegistered (entity : Entity) : Bool :=
  entity.registration = .registered

def register (entity : Entity) : Entity :=
  { entity with registration := .registered }

def setLink (slot : Slot) (link : Link) (entity : Entity) : Entity :=
  { entity with links := fun other => if other = slot then some link else entity.links other }

/-- Lets a slot that holds this identity know its target. -/
def learnTarget (slot : Slot) (target : EntityRef) (entity : Entity) : Entity :=
  match entity.links slot with
  | none => entity
  | some link => entity.setLink slot { link with target := some target }

end Entity

inductive Change where
  | displayName (text : String)
  | description (text : String)
  | version (version : Version)
  | isAbstract (flag : Bool)
  | apiType (type : ApiType)
  | consumes (ids : List ResourceId)
  | provides (ids : List ResourceId)
  | summary (text : String)
  | resources (references : List ResourceRef)
  | addResource (reference : ResourceRef)
  deriving DecidableEq

inductive Field where
  | displayName | description | version | isAbstract | apiType
  | consumes | provides | summary | resources | addResource
  deriving DecidableEq, Repr

namespace Field

def all : List Field :=
  [displayName, description, version, isAbstract, apiType, consumes, provides, summary, resources,
    addResource]

def name : Field → String
  | displayName => "display_name"
  | description => "description"
  | version => "version"
  | isAbstract => "abstract"
  | apiType => "api_type"
  | consumes => "consumes"
  | provides => "provides"
  | summary => "summary"
  | resources => "resources"
  | addResource => "add_resource"

def ofName? (name : String) : Option Field :=
  all.find? fun field => field.name = name

end Field

def Kind.has (kind : Kind) : Field → Bool
  | .displayName | .description => true
  | .version => kind = .system || kind = .api || kind = .component
  | .isAbstract => kind = .system
  | .apiType => kind = .api
  | .consumes | .provides => kind = .component
  | .summary | .resources | .addResource => kind = .finding

def Change.field : Change → Field
  | displayName _ => .displayName
  | description _ => .description
  | version _ => .version
  | isAbstract _ => .isAbstract
  | apiType _ => .apiType
  | consumes _ => .consumes
  | provides _ => .provides
  | summary _ => .summary
  | resources _ => .resources
  | addResource _ => .addResource

def Details.change : Change → Details → Details
  | .version version, .system _ isAbstract => .system version isAbstract
  | .version version, .api _ apiType => .api version apiType
  | .version version, .component _ consumes provides => .component version consumes provides
  | .isAbstract flag, .system version _ => .system version flag
  | .apiType type, .api version _ => .api version type
  | .consumes ids, .component version _ provides => .component version ids provides
  | .provides ids, .component version consumes _ => .component version consumes ids
  | .resources references, .finding _ => .finding references
  | .addResource reference, .finding references => .finding (references ++ [reference])
  | _, details => details

namespace Entity

def change : Change → Entity → Entity
  | .displayName text, entity => { entity with displayName := text }
  | .summary text, entity => { entity with displayName := text }
  | .description text, entity => { entity with description := text }
  | change, entity => { entity with details := entity.details.change change }

/-- A reference that a finding already lists is not added again. Every other change counts as one,
even when it writes what was there. -/
def absorbs : Change → Entity → Bool
  | .addResource reference, entity =>
      match entity.details with
      | .finding references => references.contains reference
      | _ => false
  | _, _ => false

end Entity

end Landscape
