import LogOperator.Api.Request
import LogOperator.Proofs.Desired.Content
import LogOperator.Proofs.Text.Lines

/-!
# LogOperator.Proofs.Api.Paths

Where objects live.  The API of a cluster gives every object one path, written out here kind by kind
(`Id.collectionPath`, `Id.path`).  For well-formed identities the requests of the operator can be built
and go there:

* `path_inj` — the path determines the identity;
* `path_ofId` — the collection of an identity is the one that the API serves;
* `get_ofId`, `create_ofId`, `replace_ofId`, `delete_ofId` — the four requests.
-/

namespace LogOperator

open Api Text

variable {id id' : Id} {s t : String}

/-! ## Well-formed identities -/

/-- Names and namespaces are subdomains of RFC 1123, and an object has a namespace exactly if its kind
has namespaces. -/
structure Id.WellFormed (id : Id) : Prop where
  name : Subdomain id.name
  namespaced : id.kind.isNamespaced = true → ∃ ns, id.ns = some ns ∧ Subdomain ns
  unscoped : id.kind.isNamespaced = false → id.ns = none

/-- The path of the collection that the API keeps an identity's object in. -/
def Id.collectionPath (id : Id) : String :=
  let ns := id.ns.getD ""
  match id.kind with
  | .serviceAccount => "/api/v1/namespaces/" ++ ns ++ "/serviceaccounts"
  | .clusterRole => "/apis/rbac.authorization.k8s.io/v1/clusterroles"
  | .clusterRoleBinding => "/apis/rbac.authorization.k8s.io/v1/clusterrolebindings"
  | .configMap => "/api/v1/namespaces/" ++ ns ++ "/configmaps"
  | .daemonSet => "/apis/apps/v1/namespaces/" ++ ns ++ "/daemonsets"
  | .deployment => "/apis/apps/v1/namespaces/" ++ ns ++ "/deployments"
  | .service => "/api/v1/namespaces/" ++ ns ++ "/services"

/-- The path of an identity's object. -/
def Id.path (id : Id) : String :=
  id.collectionPath ++ "/" ++ id.name

/-- The collection of an identity lies where the API keeps it. -/
theorem Api.Collection.path_ofId (id : Id) : (Collection.ofId id).path = id.collectionPath := by
  obtain ⟨kind, name, ns⟩ := id
  apply String.toList_injective
  cases kind <;>
    simp [path, ofId, Id.collectionPath, Kind.apiVersion, Kind.plural, Kind.isNamespaced]

/-! ## Paths determine identities -/

/-- A subdomain is made of token characters. -/
theorem Text.Subdomain.isTokenChar_of_mem {c : Char} (h : Subdomain s) (hc : c ∈ s.toList) :
    isTokenChar c = true :=
  isTokenChar_of_mem_subdomain (isDnsSubdomain_iff.2 h) hc

/-- A subdomain is one segment of a path. -/
theorem Text.Subdomain.slash_not_mem (h : Subdomain s) : '/' ∉ s.toList :=
  fun hmem => absurd (h.isTokenChar_of_mem hmem) (by decide)

/-- A path is told apart from its last segment by the last slash. -/
theorem eq_of_append_slash (ht : '/' ∉ t.toList) {s' t' : String} (ht' : '/' ∉ t'.toList)
    (h : s ++ "/" ++ t = s' ++ "/" ++ t') : s = s' ∧ t = t' := by
  have hlist : s.toList ++ '/' :: t.toList = s'.toList ++ '/' :: t'.toList := by
    simpa using congrArg String.toList h
  obtain ⟨hs, ht⟩ := append_cons_inj_of_not_mem ht ht' hlist
  exact ⟨String.toList_injective hs, String.toList_injective ht⟩

theorem Kind.slash_not_mem_plural (k : Kind) : '/' ∉ k.plural.toList := by
  cases k <;> decide

/-- The plural of a kind's name tells the kinds apart. -/
theorem Kind.plural_inj {k k' : Kind} (h : k.plural = k'.plural) : k = k' := by
  revert h
  cases k <;> cases k' <;> decide

/-- Collections of well-formed identities differ with the kind and the namespace. -/
theorem Id.WellFormed.collectionPath_inj (h : id.WellFormed) (h' : id'.WellFormed)
    (heq : id.collectionPath = id'.collectionPath) : id.kind = id'.kind ∧ id.ns = id'.ns := by
  rw [← Collection.path_ofId, ← Collection.path_ofId] at heq
  obtain ⟨hroot, hplural⟩ :=
    eq_of_append_slash id.kind.slash_not_mem_plural id'.kind.slash_not_mem_plural heq
  obtain ⟨kind, name, ns⟩ := id
  obtain ⟨kind', name', ns'⟩ := id'
  obtain rfl : kind = kind' := Kind.plural_inj hplural
  refine ⟨rfl, ?_⟩
  cases hscope : kind.isNamespaced with
  | false => rw [h.unscoped hscope, h'.unscoped hscope]
  | true =>
      obtain ⟨space, rfl, -⟩ := h.namespaced hscope
      obtain ⟨space', rfl, -⟩ := h'.namespaced hscope
      simpa [Collection.ofId, hscope] using hroot

/-- **The path determines the identity**, if it is well-formed. -/
theorem Id.WellFormed.path_inj (h : id.WellFormed) (h' : id'.WellFormed)
    (heq : id.path = id'.path) : id = id' := by
  obtain ⟨hcollection, hname⟩ :=
    eq_of_append_slash h.name.slash_not_mem h'.name.slash_not_mem heq
  obtain ⟨hkind, hns⟩ := h.collectionPath_inj h' hcollection
  cases id
  cases id'
  rw [Id.mk.injEq]
  exact ⟨hkind, hname, hns⟩

/-! ## Targets -/

/-- Every character of the text may stand in a path. -/
def IsPathText (s : String) : Prop :=
  s.toList.all isPathChar = true

instance (s : String) : Decidable (IsPathText s) :=
  inferInstanceAs (Decidable (_ = true))

/-- A text may stand in a path if all its characters may. -/
theorem isPathText_iff : IsPathText s ↔ ∀ c ∈ s.toList, isPathChar c = true :=
  List.all_eq_true

theorem IsPathText.append (hs : IsPathText s) (ht : IsPathText t) : IsPathText (s ++ t) := by
  rw [IsPathText, String.toList_append, List.all_append, hs, ht, Bool.and_true]

/-- What ends a path is no part of it. -/
theorem IsPathText.bne {c : Char} (h : IsPathText s) (hc : c ∈ s.toList) :
    (c != '?') = true ∧ (c != '#') = true := by
  have hchar := isPathText_iff.1 h c hc
  constructor
  · exact bne_iff_ne.2 fun hmark => absurd hchar (by rw [hmark]; decide)
  · exact bne_iff_ne.2 fun hmark => absurd hchar (by rw [hmark]; decide)

/-- Token characters need no escape in a path. -/
theorem isPathChar_of_isTokenChar {c : Char} (h : isTokenChar c = true) : isPathChar c = true := by
  have hreserved : ['#', '<', '>', '?', Char.ofNat 0x60].any isTokenChar = false := by decide
  have hfree : c ∉ ['#', '<', '>', '?', Char.ofNat 0x60] := fun hmem =>
    List.any_eq_false.1 hreserved c hmem h
  have hshown : ' '.toNat < c.toNat := (toNat_of_isTokenChar h).1
  simp only [isPathChar, Bool.and_eq_true, decide_eq_true_eq, Bool.not_eq_true',
    List.contains_eq_mem, decide_eq_false_iff_not]
  exact ⟨hshown, hfree⟩

/-- A subdomain may stand in a path. -/
theorem Text.Subdomain.isPathText (h : Subdomain s) : IsPathText s :=
  isPathText_iff.2 fun _ hc => isPathChar_of_isTokenChar (h.isTokenChar_of_mem hc)

/-- A path of the API can be sent, and is far below the limit on its size. -/
theorem Id.WellFormed.collectionPath_sendable (h : id.WellFormed) :
    IsPathText id.collectionPath ∧ id.collectionPath.utf8ByteSize ≤ 400 := by
  obtain ⟨kind, name, ns⟩ := id
  have hlocal (front back : String) (hfront : IsPathText front) (hback : IsPathText back)
      (hsize : front.utf8ByteSize + back.utf8ByteSize ≤ 100) (hscope : kind.isNamespaced = true) :
      IsPathText (front ++ ns.getD "" ++ back) ∧
        (front ++ ns.getD "" ++ back).utf8ByteSize ≤ 400 := by
    obtain ⟨space, rfl, hspace⟩ := h.namespaced hscope
    refine ⟨(hfront.append hspace.isPathText).append hback, ?_⟩
    have hsmall : space.utf8ByteSize ≤ 253 := hspace.1
    simp only [String.utf8ByteSize_append, Option.getD_some]
    omega
  cases kind <;> dsimp only [Id.collectionPath]
  case clusterRole => decide
  case clusterRoleBinding => decide
  all_goals exact hlocal _ _ (by decide) (by decide) (by decide) rfl

/-- The path of a well-formed identity can be sent, and is far from too long. -/
theorem Id.WellFormed.path_sendable (h : id.WellFormed) :
    IsPathText id.path ∧ id.path.utf8ByteSize ≤ 654 := by
  obtain ⟨hchars, hsize⟩ := h.collectionPath_sendable
  have hname : id.name.utf8ByteSize ≤ 253 := h.name.1
  have hslash : "/".utf8ByteSize = 1 := by decide
  refine ⟨(hchars.append (by decide)).append h.name.isPathText, ?_⟩
  rw [Id.path, String.utf8ByteSize_append, String.utf8ByteSize_append]
  omega

/-- A path goes into a target as it is, without a query or with an empty one. -/
theorem target_append {query : String} (hquery : query = "" ∨ query = "?") (h : IsPathText s)
    (hsize : s.utf8ByteSize < maxTargetSize) : target (s ++ query) = .ok (s ++ query) := by
  have hfits : (s ++ query).utf8ByteSize ≤ maxTargetSize := by
    have : query.utf8ByteSize ≤ 1 := by rcases hquery with rfl | rfl <;> decide
    rw [String.utf8ByteSize_append]
    omega
  have hsent : (s ++ query).toList.takeWhile (· != '#') = (s ++ query).toList := by
    rw [String.toList_append, List.takeWhile_append_of_pos fun c hc => (h.bne hc).2]
    rcases hquery with rfl | rfl <;> rfl
  have hpath : (s ++ query).toList.takeWhile (· != '?') = s.toList := by
    rw [String.toList_append, List.takeWhile_append_of_pos fun c hc => (h.bne hc).1]
    rcases hquery with rfl | rfl <;> exact List.append_nil _
  have hrest : (s ++ query).toList.drop (s.toList.length + 1) = [] := by
    rw [String.toList_append, List.drop_length_add_append]
    rcases hquery with rfl | rfl <;> rfl
  rw [target, if_neg (Nat.not_lt.2 hfits)]
  simp only [hsent, hpath, hrest, List.all_nil, Bool.and_true, String.ofList_toList]
  exact if_pos h

/-! ## Requests -/

namespace Api.Request

/-- Where a request goes: its target up to the query. -/
def location (r : Request) : String :=
  String.ofList (r.path.toList.takeWhile (· != '?'))

/-- A query that says nothing is no part of the place that a request goes to. -/
theorem location_append {method : Method} {body : Option Json} {query : String}
    (hquery : query = "" ∨ query = "?") (h : IsPathText s) :
    location ⟨method, s ++ query, body⟩ = s := by
  rw [location, String.toList_append, List.takeWhile_append_of_pos fun c hc => (h.bne hc).1]
  rcases hquery with rfl | rfl <;> simp

/-- The target below a collection stands for the path of an object. -/
theorem named_ofId (h : id.WellFormed) {query : String} (hquery : query = "" ∨ query = "?") :
    named (.ofId id) id.name query = .ok (id.path ++ query) := by
  have hname : id.name.isEmpty = false := by
    rw [Bool.eq_false_iff]
    intro hempty
    have hsub := isDnsSubdomain_iff.2 h.name
    rw [String.isEmpty_iff.1 hempty] at hsub
    exact absurd hsub (by decide)
  obtain ⟨hchars, hsize⟩ := h.path_sendable
  have htarget := target_append hquery hchars (Nat.lt_of_le_of_lt hsize (by decide))
  rw [named, hname, Collection.path_ofId]
  exact htarget

variable {j : Json}

theorem get_ofId (h : id.WellFormed) : ∃ r, get (.ofId id) id.name = .ok r ∧ r.method = .get ∧
    r.location = id.path := by
  refine ⟨_, by rw [get, named_ofId h (.inl rfl)]; rfl, rfl, ?_⟩
  exact location_append (.inl rfl) h.path_sendable.1

theorem create_ofId (h : id.WellFormed) : ∃ r, create (.ofId id) j = .ok r ∧ r.method = .post ∧
    r.location = id.collectionPath ∧ r.body = some j := by
  obtain ⟨hchars, hsize⟩ := h.collectionPath_sendable
  have htarget := target_append (.inr rfl) hchars (Nat.lt_of_le_of_lt hsize (by decide))
  refine ⟨_, by rw [create, Collection.path_ofId, htarget]; rfl, rfl, ?_, rfl⟩
  exact location_append (.inr rfl) hchars

theorem replace_ofId (h : id.WellFormed) : ∃ r, replace (.ofId id) id.name j = .ok r ∧
    r.method = .put ∧ r.location = id.path ∧ r.body = some j := by
  refine ⟨_, by rw [replace, named_ofId h (.inr rfl)]; rfl, rfl, ?_, rfl⟩
  exact location_append (.inr rfl) h.path_sendable.1

theorem delete_ofId (h : id.WellFormed) : ∃ r, delete (.ofId id) id.name = .ok r ∧
    r.method = .delete ∧ r.location = id.path := by
  refine ⟨_, by rw [delete, named_ofId h (.inr rfl)]; rfl, rfl, ?_⟩
  exact location_append (.inr rfl) h.path_sendable.1

end Api.Request

end LogOperator
