import LogOperator.Object.Resource

/-!
# LogOperator.Desired.State

The desired state of a pipeline's objects: entries that must or must not be in the cluster, grouped into
levels that are settled one after the other.

* `DesiredState.entries`, `DesiredState.present`: the entries in the order in which they are settled.
-/

namespace LogOperator

/-- The levels in the order in which they are settled. -/
inductive Level where
  | identity
  | searchEngine
  | aggregator
  | collector
  | dashboard
deriving DecidableEq, Inhabited

namespace Level

def all : List Level :=
  [identity, searchEngine, aggregator, collector, dashboard]

def name : Level → String
  | identity => "identity"
  | searchEngine => "search-engine"
  | aggregator => "aggregator"
  | collector => "collector"
  | dashboard => "dashboard"

/-- The level can be settled before the search engine's endpoint is known. -/
def isFoundation : Level → Bool
  | identity | searchEngine => true
  | _ => false

end Level

/-- An object that must or must not be in the cluster. -/
inductive Entry where
  /-- The object must be there with this content.  When its data is updated, the workload that mounts
  it is deleted, so that its pods start anew. -/
  | present (resource : Resource) (dependent : Option Id)
  /-- The object must not be there, because its component is switched off. -/
  | absent (id : Id)
deriving Inhabited

namespace Entry

def id : Entry → Id
  | present r _ => r.id
  | absent id => id

/-- The object, when it must be there. -/
def resource? : Entry → Option Resource
  | present r _ => some r
  | absent _ => none

end Entry

/-- The desired state: levels with their entries, in order. -/
abbrev DesiredState := List (Level × List Entry)

namespace DesiredState

/-- The entries in the order in which they are settled. -/
def entries (s : DesiredState) : List Entry :=
  s.flatMap (·.2)

/-- The objects that must be there, in order. -/
def present (s : DesiredState) : List Resource :=
  s.entries.filterMap Entry.resource?

/-- The entries of a level, if the state has the level. -/
def level? (s : DesiredState) (l : Level) : Option (List Entry) :=
  (s.find? (·.1 = l)).map (·.2)

/-- The entry of an identity. -/
def find? (s : DesiredState) (id : Id) : Option Entry :=
  s.entries.find? (·.id = id)

end DesiredState

end LogOperator
