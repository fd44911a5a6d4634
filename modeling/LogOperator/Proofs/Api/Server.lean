import LogOperator.Api.Client
import LogOperator.Proofs.Api.Paths
import LogOperator.Proofs.Json.RoundTrip
import LogOperator.Proofs.Object.Resources
import Mathlib.Data.Option.Basic

/-!
# LogOperator.Proofs.Api.Server

What the calls of the operator make of the answers of an API server.  A server is described by a view:
the objects that it holds by path (`Serves`).  The fields that a cluster assigns are its own business
(`Resource.unassigned`), and so are the texts in which it shows an object (`Resource.ofText?`).

* `get_of_serves`, `create_of_serves`, `update_of_serves`, `delete_of_serves` — the calls, as look-ups in
  and changes of what the server holds.
-/

namespace LogOperator

open Document

/-! ## Objects in texts -/

/-- The object that a text shows, of the kind that it states. -/
def Resource.ofText? (s : String) : Option Resource :=
  (Json.parse? s).bind Resource.readAny?

/-- The text that is written for the object shows it. -/
def Resource.Conveyable (o : Resource) : Prop :=
  ofText? o.write.render = some o

/-- An object that some document shows is shown by its own text, when a text can stand for its own
document. -/
theorem Resource.conveyable_of_readAny? {o : Resource} {j : Json} (hread : readAny? j = some o)
    (hprintable : o.write.isPrintable Json.maxDepth = true) : o.Conveyable := by
  rw [Conveyable, ofText?, Json.parse?_render hprintable, Option.bind_some, readAny?_write hread]

/-- The object without the fields that a cluster assigns: its version and the address of a Service. -/
def Resource.unassigned (o : Resource) : Resource where
  metadata := { o.metadata with resourceVersion := none }
  content := o.content.bare

/-- Assigned fields do not matter to the kind of an object. -/
theorem Resource.kind_unassigned (o : Resource) : o.unassigned.kind = o.kind :=
  o.content.kind_bare

theorem Resource.id_unassigned (o : Resource) : o.unassigned.id = o.id := by
  rw [id, kind_unassigned]
  rfl

/-- What a write assigns are assigned fields. -/
theorem Resource.unassigned_stamp (n : Nat) (o : Resource) : (o.stamp n).unassigned = o.unassigned := by
  obtain ⟨m, content⟩ := o
  cases content with
  | service spec rest => cases spec <;> rfl
  | _ => rfl

/-- An object that states its kind is read as one of that kind. -/
theorem Resource.read?_of_ofText? {s : String} {o : Resource} (h : ofText? s = some o) :
    ∃ j, Json.parse? s = some j ∧ read? o.kind j = some o := by
  obtain ⟨j, hparse, hread⟩ := Option.bind_eq_some_iff.1 h
  refine ⟨j, hparse, ?_⟩
  simp only [readAny?, Option.bind_eq_bind, Option.bind_eq_some_iff] at hread
  obtain ⟨-, -, -, -, kind, -, hread⟩ := hread
  rwa [(of_read? hread).1]

namespace Api

variable {r : Response} {o : Resource}

/-! ## Responses -/

/-- The response shows the object. -/
def Response.Shows (r : Response) (o : Resource) : Prop :=
  r.isRefusal = false ∧ Resource.ofText? r.body = some o

/-- The response refuses the request with a code. -/
def Response.Refuses (r : Response) (code : UInt16) : Prop :=
  r.isRefusal = true ∧ r.refusal.code = code

/-- The response shows an object that is there, or says that none is. -/
def Response.Reports (r : Response) : Option Resource → Prop
  | some o => r.Shows o
  | none => r.Refuses 404 ∧ r.refusal.reason = "NotFound"

/-- A refusal has no value, whatever is read. -/
theorem value_of_isRefusal {β : Type} {read : Json → Option β} (h : r.isRefusal = true) :
    r.value read = .error (.refused r.refusal) := by
  rw [Response.value, Response.document, if_pos h]
  rfl

/-- A response that is no refusal has the document in its body. -/
theorem document_of_parse? {j : Json} (h : r.isRefusal = false)
    (hparse : Json.parse? r.body = some j) : r.document = .ok j := by
  simp only [Response.document, h, Bool.false_eq_true, if_false, hparse]

/-- The value of a response is what is read from its document. -/
theorem value_of_document {β : Type} {read : Json → Option β} {j : Json} {v : β}
    (h : r.document = .ok j) (hread : read j = some v) : r.value read = .ok v := by
  simp only [Response.value, h, bind, Except.bind, hread]
  rfl

/-- A response that shows an object is read as that object. -/
theorem Response.Shows.value (h : r.Shows o) : r.value (Resource.read? o.kind) = .ok o := by
  obtain ⟨j, hparse, hread⟩ := Resource.read?_of_ofText? h.2
  exact value_of_document (document_of_parse? h.1 hparse) hread

/-- A document that shows an object is no acknowledgement. -/
theorem Response.Shows.value_deleted (h : r.Shows o) : r.value (deleted? o.kind) = .ok () := by
  obtain ⟨j, hparse, hread⟩ := Resource.read?_of_ofText? h.2
  obtain ⟨-, ms, rfl, hagrees⟩ := Resource.of_read? hread
  have hkind : (Json.get? "kind" (.object ms)).bind text? ≠ some "Status" := by
    intro hstatus
    obtain ⟨v, hv, hstatus⟩ := Option.bind_eq_some_iff.1 hstatus
    obtain ⟨m, hfind, rfl⟩ := Option.map_eq_some_iff.1 hv
    have hkey := List.find?_some hfind
    have hmem : m ∈ ms.filter (·.1 == "kind") :=
      List.mem_filter.2 ⟨List.mem_reverse.1 (List.mem_of_find?_eq_some hfind), hkey⟩
    have hname : text? m.2 = some o.kind.name := by
      simpa using List.all_eq_true.1 hagrees m hmem
    rw [hname, Option.some.injEq] at hstatus
    exact absurd hstatus (by cases o.kind <;> decide)
  refine value_of_document (document_of_parse? h.1 hparse) ?_
  rw [deleted?, if_neg hkind, hread]
  rfl

/-- A report is read as what it reports, also if that is nothing. -/
theorem Response.Reports.orAbsent {kind : Kind} {found : Option Resource} (h : r.Reports found)
    (hkind : ∀ o, found = some o → o.kind = kind) :
    Api.orAbsent (r.value (Resource.read? kind)) = .ok found := by
  cases found with
  | some o =>
      rw [← hkind o rfl, h.value]
      rfl
  | none =>
      rw [value_of_isRefusal h.1.1, Api.orAbsent, if_pos h.2]

/-- A deletion succeeds whether or not the object was there. -/
theorem Response.Reports.orGone {kind : Kind} {found : Option Resource} (h : r.Reports found)
    (hkind : ∀ o, found = some o → o.kind = kind) :
    Api.orGone (r.value (deleted? kind)) = .ok () := by
  cases found with
  | some o =>
      rw [← hkind o rfl, h.value_deleted]
      rfl
  | none =>
      rw [value_of_isRefusal h.1.1, Api.orGone, if_pos h.1.2]

/-! ## Servers -/

/-- The text of a request's body shows the object. -/
def Request.Carries (request : Request) (o : Resource) : Prop :=
  ∃ j, request.body = some j ∧ Resource.ofText? j.render = some o

/-- Of two views of objects by path, the second one is the first one with an object put on the path of
another one, which it is but for the assigned fields. -/
structure Admits (held held' : String → Option Resource) (o o' : Resource) : Prop where
  same : o'.unassigned = o.unassigned
  held : ∀ p, held' p = if p = o.id.path then some o' else held p

/-- The server answers requests as an API does that holds the objects of a view. -/
structure Serves {σ : Type} (server : Server σ) (held : σ → String → Option Resource) : Prop where
  get {id : Id} {s : σ} {request : Request} (hid : id.WellFormed) (hmethod : request.method = .get)
    (hpath : request.location = id.path) : ∃ r s', server s request = (.ok r, s') ∧
      r.Reports (held s id.path) ∧ held s' = held s
  delete {id : Id} {s : σ} {request : Request} (hid : id.WellFormed)
    (hmethod : request.method = .delete) (hpath : request.location = id.path) :
    ∃ r s', server s request = (.ok r, s') ∧ r.Reports (held s id.path) ∧
      ∀ p, held s' p = if p = id.path then none else held s p
  replace {s : σ} {request : Request} {o : Resource} (hid : o.id.WellFormed)
    (hmethod : request.method = .put) (hpath : request.location = o.id.path)
    (hbody : request.Carries o) : ∃ r s', server s request = (.ok r, s') ∧
      if (held s o.id.path).isSome then ∃ o', r.Shows o' ∧ Admits (held s) (held s') o o'
      else r.Reports none ∧ held s' = held s
  create {s : σ} {request : Request} {o : Resource} (hid : o.id.WellFormed)
    (hmethod : request.method = .post) (hpath : request.location = o.id.collectionPath)
    (hbody : request.Carries o) : ∃ r s', server s request = (.ok r, s') ∧
      if (held s o.id.path).isSome then r.Refuses 409 ∧ held s' = held s
      else ∃ o', r.Shows o' ∧ Admits (held s) (held s') o o'

/-! ## Calls -/

variable {σ : Type} {server : Server σ} {held : σ → String → Option Resource} {s : σ} {id : Id}

/-- An exchange reads the answer to its request. -/
theorem exchange_of_answer {β : Type} {request : Except RequestFault Request} {req : Request}
    {s' : σ} {read : Response → Except Fault β} (hrequest : request = .ok req)
    (hanswer : server s req = (.ok r, s')) :
    exchange server s request read = (read r, s') := by
  rw [hrequest, exchange, hanswer]

/-- A look-up finds what the server holds, and changes nothing. -/
theorem get_of_serves (h : Serves server held) (hid : id.WellFormed)
    (hkind : ∀ o, held s id.path = some o → o.kind = id.kind) :
    ∃ s', Api.get server s id = (.ok (held s id.path), s') ∧ held s' = held s := by
  obtain ⟨req, hreq, hmethod, hpath⟩ := Request.get_ofId hid
  obtain ⟨r, s', hanswer, hr, hheld⟩ := h.get (s := s) hid hmethod hpath
  refine ⟨s', ?_, hheld⟩
  rw [Api.get, exchange_of_answer hreq hanswer, hr.orAbsent hkind]
  rfl

/-- After a deletion the server holds nothing under the path, and the same elsewhere. -/
theorem delete_of_serves (h : Serves server held) (hid : id.WellFormed)
    (hkind : ∀ o, held s id.path = some o → o.kind = id.kind) :
    ∃ s', Api.delete server s id = (.ok (), s') ∧
      ∀ p, held s' p = if p = id.path then none else held s p := by
  obtain ⟨req, hreq, hmethod, hpath⟩ := Request.delete_ofId hid
  obtain ⟨r, s', hanswer, hr, hheld⟩ := h.delete (s := s) hid hmethod hpath
  refine ⟨s', ?_, hheld⟩
  rw [Api.delete, exchange_of_answer hreq hanswer, hr.orGone hkind]
  rfl

/-- A write that is refused fails with the refusal. -/
theorem map_value_of_isRefusal {r : Response} {kind : Kind} (h : r.isRefusal = true) :
    (r.value (Resource.read? kind)).map (fun _ => ()) = .error (.refused r.refusal) := by
  rw [value_of_isRefusal h]
  rfl

/-- A write succeeds if the answer shows the object, with whatever was assigned. -/
theorem map_value_of_shows {r : Response} {o o' : Resource} (h : r.Shows o')
    (hsame : o'.unassigned = o.unassigned) :
    (r.value (Resource.read? o.kind)).map (fun _ => ()) = .ok () := by
  have hkind : o'.kind = o.kind := by
    rw [← o'.kind_unassigned, hsame, o.kind_unassigned]
  rw [← hkind, h.value]
  rfl

/-- A creation puts an object on a free path. -/
theorem create_of_serves {o : Resource} (h : Serves server held) (hid : o.id.WellFormed)
    (ho : o.Conveyable) : ∃ s', if (held s o.id.path).isSome then
        (∃ reason, Api.create server s o = (.error (storeError .create o.id reason), s')) ∧
          held s' = held s
      else Api.create server s o = (.ok (), s') ∧ ∃ o', Admits (held s) (held s') o o' := by
  obtain ⟨req, hreq, hmethod, hpath, hbody⟩ := Request.create_ofId hid (j := o.write)
  obtain ⟨r, s', hanswer, hr⟩ := h.create (s := s) hid hmethod hpath ⟨_, hbody, ho⟩
  refine ⟨s', ?_⟩
  rw [Api.create, exchange_of_answer hreq hanswer]
  split at hr
  · next hpresent =>
    rw [if_pos hpresent, map_value_of_isRefusal hr.1.1]
    exact ⟨⟨_, rfl⟩, hr.2⟩
  · next habsent =>
    obtain ⟨o', hshows, hadmits⟩ := hr
    rw [if_neg habsent, map_value_of_shows hshows hadmits.same]
    exact ⟨rfl, o', hadmits⟩

/-- An update puts an object on a path that is taken. -/
theorem update_of_serves {o : Resource} (h : Serves server held) (hid : o.id.WellFormed)
    (ho : o.Conveyable) : ∃ s', if (held s o.id.path).isSome then
        Api.update server s o = (.ok (), s') ∧ ∃ o', Admits (held s) (held s') o o'
      else (∃ reason, Api.update server s o = (.error (storeError .update o.id reason), s')) ∧
        held s' = held s := by
  obtain ⟨req, hreq, hmethod, hpath, hbody⟩ := Request.replace_ofId hid (j := o.write)
  obtain ⟨r, s', hanswer, hr⟩ := h.replace (s := s) hid hmethod hpath ⟨_, hbody, ho⟩
  refine ⟨s', ?_⟩
  rw [Api.update, exchange_of_answer hreq hanswer]
  split at hr
  · next hpresent =>
    obtain ⟨o', hshows, hadmits⟩ := hr
    rw [if_pos hpresent, map_value_of_shows hshows hadmits.same]
    exact ⟨rfl, o', hadmits⟩
  · next habsent =>
    rw [if_neg habsent, map_value_of_isRefusal hr.1.1.1]
    exact ⟨⟨_, rfl⟩, hr.2⟩

end Api

end LogOperator
