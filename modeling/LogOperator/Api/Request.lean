import LogOperator.Json
import LogOperator.Object.Id
import LogOperator.Pipeline.Manifest

/-!
# LogOperator.Api.Request

Requests to the API of a cluster.  Objects of one kind, and of one namespace if the kind has
namespaces, form a collection with a path of its own; an object lies below it under its name.

* `Collection.ofId`, `Collection.pipelines`: where objects live.
* `Request.get`, `Request.create`, `Request.replace`, `Request.delete`: the four requests.
-/

namespace LogOperator.Api

/-! ## Paths -/

/-- A collection of objects of one kind. -/
structure Collection where
  /-- The group and version that serve the kind. -/
  apiVersion : String
  plural : String
  /-- The namespace of the objects, if their kind has namespaces. -/
  ns : Option String
deriving DecidableEq

/-- The collection of an identity's object.  A missing namespace stands as an empty one. -/
def Collection.ofId (id : Id) : Collection :=
  ⟨id.kind.apiVersion, id.kind.plural,
    if id.kind.isNamespaced then some (id.ns.getD "") else none⟩

/-- The pipelines of a namespace. -/
def Collection.pipelines (ns : String) : Collection :=
  ⟨Pipeline.apiVersion, Pipeline.plural, some ns⟩

/-- The path of a collection.  The core group, whose version stands alone, has a root of its own. -/
def Collection.path (c : Collection) : String :=
  let root := if c.apiVersion.contains '/' then "/apis/" else "/api/"
  let space := match c.ns with
    | some ns => "/namespaces/" ++ ns
    | none => ""
  root ++ c.apiVersion ++ space ++ "/" ++ c.plural

/-- Why a request cannot be built. -/
inductive RequestFault where
  | unnamed
  | badCharacter
  | tooLong
deriving DecidableEq, Inhabited

def RequestFault.message : RequestFault → String
  | unnamed => "failed to validate request: A non-empty name is required"
  | badCharacter => "failed to build request: invalid uri character"
  | tooLong => "failed to build request: uri too long"

def isPathChar (c : Char) : Bool :=
  0x20 < c.toNat && !(['#', '<', '>', '?', Char.ofNat 0x60].contains c)

def isQueryChar (c : Char) : Bool :=
  0x20 < c.toNat && !(['"', '#', '<', '>'].contains c)

/-- The length in bytes that a target may have. -/
def maxTargetSize : Nat := 65534

/-- The target of a request: a path and, after a question mark, a query.  What follows a number sign
is not sent. -/
def target (s : String) : Except RequestFault String :=
  if s.utf8ByteSize > maxTargetSize then .error .tooLong
  else
    let sent := s.toList.takeWhile (· != '#')
    let path := sent.takeWhile (· != '?')
    let query := sent.drop (path.length + 1)
    if path.all isPathChar && query.all isQueryChar then .ok (String.ofList sent)
    else .error .badCharacter

/-! ## Requests -/

/-- What a request does with its target. -/
inductive Method where
  | get
  | post
  | put
  | delete
deriving DecidableEq, Inhabited

def Method.name : Method → String
  | get => "GET"
  | post => "POST"
  | put => "PUT"
  | delete => "DELETE"

/-- A request. -/
structure Request where
  method : Method
  path : String
  body : Option Json
deriving Inhabited

namespace Request

/-- The target below a collection that a name stands for. -/
def named (c : Collection) (name tail : String) : Except RequestFault String :=
  if name.isEmpty then .error .unnamed else target (c.path ++ "/" ++ name ++ tail)

def get (c : Collection) (name : String) : Except RequestFault Request := do
  return ⟨.get, ← named c name "", none⟩

def create (c : Collection) (object : Json) : Except RequestFault Request := do
  return ⟨.post, ← target (c.path ++ "?"), some object⟩

def replace (c : Collection) (name : String) (object : Json) : Except RequestFault Request := do
  return ⟨.put, ← named c name "?", some object⟩

def delete (c : Collection) (name : String) : Except RequestFault Request := do
  return ⟨.delete, ← named c name "?", some (.object [])⟩

end Request

end LogOperator.Api
