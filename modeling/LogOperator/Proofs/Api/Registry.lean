import LogOperator.Cluster.Store
import LogOperator.Proofs.Api.Server

/-!
# LogOperator.Proofs.Api.Registry

A server that holds objects by path: what it is given, with a version of its own and an address for a
Service.  It only holds what it can show, so whether an object can be shown has to be decided, and for
that equality of objects.

* `Registry.serves` — the server is one that the operator can be run against.
-/

namespace LogOperator

/-! ## Equality of objects -/

mutual

/-- Equality of values is decided along both of them. -/
def Json.decEq (a b : Json) : Decidable (a = b) :=
  if h : a.ctorIdx = b.ctorIdx then
    match a, b with
    | .null, .null => isTrue rfl
    | .bool a, .bool b => decidable_of_iff (a = b) (by simp)
    | .int a, .int b => decidable_of_iff (a = b) (by simp)
    | .real a, .real b => decidable_of_iff (a = b) (by simp)
    | .text a, .text b => decidable_of_iff (a = b) (by simp)
    | .list a, .list b =>
      have := decEqItems a b
      decidable_of_iff (a = b) (by simp)
    | .object a, .object b =>
      have := decEqMembers a b
      decidable_of_iff (a = b) (by simp)
  else isFalse fun hab => h (congrArg Json.ctorIdx hab)

/-- Equality of the items of two lists. -/
def Json.decEqItems : (a b : List Json) → Decidable (a = b)
  | [], [] => isTrue rfl
  | x :: xs, y :: ys =>
    have := x.decEq y
    have := decEqItems xs ys
    decidable_of_iff (x = y ∧ xs = ys) (by simp)
  | [], _ :: _ | _ :: _, [] => isFalse nofun

/-- Equality of the members of two objects. -/
def Json.decEqMembers : (a b : List (String × Json)) → Decidable (a = b)
  | [], [] => isTrue rfl
  | (m, x) :: xs, (n, y) :: ys =>
    have := x.decEq y
    have := decEqMembers xs ys
    decidable_of_iff (m = n ∧ x = y ∧ xs = ys) (by simp [and_assoc])
  | [], _ :: _ | _ :: _, [] => isFalse nofun

end

instance : DecidableEq Json := Json.decEq

deriving instance DecidableEq for Metadata, EnvVar, ContainerPort, VolumeMount, Container,
  VolumeSource, Volume, PodSpec, PodTemplate, Selector, PolicyRule, WorkloadSpec, ServicePort,
  ServiceSpec, Content, Resource

instance (o : Resource) : Decidable o.Conveyable :=
  inferInstanceAs (Decidable (_ = some o))

namespace Api

/-! ## Objects that can be shown -/

/-- An object and a text that shows it. -/
structure Shown where
  object : Resource
  text : String
  shows : Resource.ofText? text = some object

namespace Shown

/-- The object that a text shows, with the text. -/
def ofText? (text : String) : Option Shown :=
  match h : Resource.ofText? text with
  | some o => some ⟨o, text, h⟩
  | none => none

/-- A text that shows an object is taken as it is. -/
theorem ofText?_eq {text : String} {o : Resource} (h : Resource.ofText? text = some o) :
    ofText? text = some ⟨o, text, h⟩ := by
  unfold ofText?
  split
  · next o' h' =>
    obtain rfl : o' = o := Option.some.inj (h'.symm.trans h)
    rfl
  · next h' => exact absurd (h'.symm.trans h) nofun

/-- The object with the fields that are assigned on a write, as long as it can be shown with them. -/
def stamp (revision : Nat) (x : Shown) : Shown :=
  if h : (x.object.stamp revision).Conveyable then ⟨_, _, h⟩ else x

/-- What the registry assigns are assigned fields. -/
theorem unassigned_stamp (n : Nat) (x : Shown) :
    (x.stamp n).object.unassigned = x.object.unassigned := by
  unfold stamp
  split
  · exact x.object.unassigned_stamp n
  · rfl

/-- The response that shows the object. -/
def response (x : Shown) : Response :=
  ⟨200, x.text⟩

/-- The response to a look-up shows the object. -/
theorem shows_response (x : Shown) : x.response.Shows x.object :=
  ⟨rfl, x.shows⟩

end Shown

/-! ## Refusals -/

/-- A response that refuses a request and says why. -/
def refusal (code : Nat) (reason : String) : Response where
  status := code
  body := Json.render (.object
    [("kind", .text "Status"), ("status", .text "Failure"), ("reason", .text reason),
     ("code", .int code)])

theorem refuses_conflict : (refusal 409 "AlreadyExists").Refuses 409 :=
  ⟨rfl, by decide +kernel⟩

/-- A refusal as not found reports that nothing is there. -/
theorem reports_notFound : (refusal 404 "NotFound").Reports none :=
  ⟨⟨rfl, by decide +kernel⟩, by decide +kernel⟩

/-! ## The server -/

/-- Objects by path and the number of writes so far. -/
structure Registry where
  objects : Dict String Shown
  revision : Nat

namespace Registry

/-- A server without objects. -/
def empty : Registry :=
  ⟨.empty, 0⟩

/-- The object on a path. -/
def held (g : Registry) (path : String) : Option Resource :=
  (g.objects.find? path).map Shown.object

theorem held_empty (path : String) : empty.held path = none := by
  rw [held, empty, Dict.find?_empty, Option.map_none]

/-- What a look-up of a path is answered with. -/
def report (g : Registry) (path : String) : Response :=
  match g.objects.find? path with
  | some x => x.response
  | none => refusal 404 "NotFound"

theorem reports_report (g : Registry) (path : String) : (g.report path).Reports (g.held path) := by
  unfold report held
  split
  · next x hx =>
    rw [hx]
    exact x.shows_response
  · next hx =>
    rw [hx]
    exact reports_notFound

/-- The object that the body of a request shows. -/
def carried? (request : Request) : Option Shown :=
  request.body.bind fun j => Shown.ofText? j.render

/-- Puts an object on a path, with the fields that are assigned on a write. -/
def put (g : Registry) (path : String) (x : Shown) : Response × Registry :=
  let stamped := x.stamp (g.revision + 1)
  (stamped.response, ⟨g.objects.insert path stamped, g.revision + 1⟩)

/-- The response to a request, and the objects after it. -/
def reply (g : Registry) (request : Request) : Response × Registry :=
  let path := request.location
  match request.method, carried? request with
  | .get, _ => (g.report path, g)
  | .delete, _ => (g.report path, { g with objects := g.objects.erase path })
  | .put, some x => if g.objects.contains path then g.put path x else (refusal 404 "NotFound", g)
  | .post, some x =>
    let path := path ++ "/" ++ x.object.id.name
    if g.objects.contains path then (refusal 409 "AlreadyExists", g) else g.put path x
  | _, none => (refusal 400 "BadRequest", g)

/-- A server that holds objects by path. -/
def answer : Server Registry := fun g request =>
  (.ok (g.reply request).1, (g.reply request).2)

/-- The registry holds an object under a path exactly if it has an entry for it. -/
theorem isSome_held (g : Registry) (path : String) :
    (g.held path).isSome = g.objects.contains path :=
  Option.isSome_map

/-- The registry reads the object that a request carries. -/
theorem carried?_of_carries {request : Request} {o : Resource} (h : request.Carries o) :
    ∃ x, carried? request = some x ∧ x.object = o := by
  obtain ⟨j, hbody, hshows⟩ := h
  refine ⟨⟨o, j.render, hshows⟩, ?_, rfl⟩
  rw [carried?, hbody]
  exact Shown.ofText?_eq hshows

/-- An object that is put is admitted with the next revision. -/
theorem admits_put (g : Registry) (x : Shown) :
    Admits g.held (g.put x.object.id.path x).2.held x.object (x.stamp (g.revision + 1)).object where
  same := x.unassigned_stamp (g.revision + 1)
  held p := by
    simp only [held, put, Dict.find?_insert, eq_comm (a := x.object.id.path)]
    split <;> rfl

/-- **The registry serves** the operator's calls. -/
theorem serves : Serves answer held where
  get {id g request} hid hmethod hpath := by
    refine ⟨_, _, rfl, ?_⟩
    simp only [reply, hmethod, hpath]
    exact ⟨g.reports_report id.path, trivial⟩
  delete {id g request} hid hmethod hpath := by
    refine ⟨_, _, rfl, ?_⟩
    simp only [reply, hmethod, hpath]
    refine ⟨g.reports_report id.path, fun p => ?_⟩
    simp only [held, Dict.find?_erase, eq_comm (a := id.path)]
    split <;> rfl
  replace {g request o} hid hmethod hpath hbody := by
    obtain ⟨x, hx, rfl⟩ := carried?_of_carries hbody
    refine ⟨_, _, rfl, ?_⟩
    simp only [reply, hmethod, hpath, hx, isSome_held]
    split
    · exact ⟨_, Shown.shows_response _, g.admits_put x⟩
    · exact ⟨reports_notFound, rfl⟩
  create {g request o} hid hmethod hpath hbody := by
    obtain ⟨x, hx, rfl⟩ := carried?_of_carries hbody
    have hobject : request.location ++ "/" ++ x.object.id.name = x.object.id.path := by
      rw [hpath, Id.path]
    refine ⟨_, _, rfl, ?_⟩
    simp only [reply, hmethod, hx, isSome_held, hobject]
    split
    · exact ⟨refuses_conflict, rfl⟩
    · exact ⟨_, Shown.shows_response _, g.admits_put x⟩

end Registry

end Api

end LogOperator
