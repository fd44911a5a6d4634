import LogOperator.Proofs.Object.Records

/-!
# LogOperator.Proofs.Object.Resources

Cluster objects and their documents.  The document that an object is written as may say less than the
one that the object was read from, which can have other members and another order, but the object that
it shows is the same.

* `Content.read?_append`, `Content.not_mem_write`: what the kinds hold has nothing to do with the members
  that objects of all kinds have;
* `Resource.Legible`: the parts of an object can be read back, and then so can the object
  (`Resource.Legible.readAny?_write`);
* `Resource.readAny?_write`: the object that a document shows is written as a document that shows it.
-/

namespace LogOperator

open Document Shape

variable {kind : Kind} {ms front : List (String × Json)} {content : Content}

/-! ## Contents -/

namespace Content

/-- The names of the members that objects of all kinds have. -/
def commonNames : List String :=
  ["apiVersion", "kind", "metadata"]

/-- The members that objects of all kinds have say nothing about the content. -/
theorem read?_append (hfront : ∀ name ∈ front.map (·.1), name ∈ commonNames) :
    read? kind (front ++ ms) = read? kind ms := by
  have hmember {name : String} (h : name ∉ commonNames) {β : Type} {read : Json → Option β} :
      Document.optional read name (front ++ ms) = Document.optional read name ms :=
    optional_append_left fun hmem => h (hfront name hmem)
  have hmembers {shapes : List (String × Bool × Shape)}
      (h : ∀ key ∈ shapes.map (·.1), key ∉ commonNames) :
      readMembers? shapes (front ++ ms) = readMembers? shapes ms :=
    readMembers?_append fun key hkey hmem => h key hkey (hfront key hmem)
  cases kind <;> simp (disch := decide) only [read?, optionalD, hmember, hmembers]

/-- **The content of an object that was read is read back**, whatever its kind. -/
theorem read?_write (h : read? kind ms = some content) : read? kind content.write = some content := by
  cases kind <;> simp only [read?, Option.bind_eq_bind, Option.bind_eq_some_iff, Option.pure_def,
    Option.some.injEq] at h
  case serviceAccount =>
    obtain ⟨rest, hrest, rfl⟩ := h
    rw [read?, write, readMembers?_read _ (by decide) hrest]
    rfl
  case clusterRole =>
    obtain ⟨_, hrules, rest, hrest, rfl⟩ := h
    simp (disch := first | decide | simp) [read?, write, optional_written hrest,
      PolicyRule.restores.listOf.optional_self hrules]
    rw [readMembers?_written hrest (by decide) rfl, Option.bind_some]
  case clusterRoleBinding =>
    obtain ⟨_, hrole, _, hsubjects, rfl⟩ := h
    simp (disch := first | decide | simp) [read?, write, optionalD,
      RoleRef.restores.optionalD_self hrole rfl, Subject.restores.listOf.optional_self hsubjects]
  case configMap =>
    obtain ⟨_, hdata, rest, hrest, rfl⟩ := h
    simp (disch := first | decide | simp) [read?, write, optional_written hrest,
      Restores.textMap.optional_self hdata]
    rw [readMembers?_written hrest (by decide) rfl, Option.bind_some]
  case daemonSet =>
    obtain ⟨_, hspec, rest, hrest, rfl⟩ := h
    have hworkload : Restores (WorkloadSpec.read? false daemonSetSpecRest) WorkloadSpec.write :=
      WorkloadSpec.restores (by decide) (by decide)
    simp (disch := first | decide | simp) [read?, write, optional_written hrest,
      hworkload.optional_self hspec]
    rw [readMembers?_written hrest (by decide) rfl, Option.bind_some]
  case deployment =>
    obtain ⟨_, hspec, rest, hrest, rfl⟩ := h
    have hworkload : Restores (WorkloadSpec.read? true deploymentSpecRest) WorkloadSpec.write :=
      WorkloadSpec.restores (by decide) (by decide)
    simp (disch := first | decide | simp) [read?, write, optional_written hrest,
      hworkload.optional_self hspec]
    rw [readMembers?_written hrest (by decide) rfl, Option.bind_some]
  case service =>
    obtain ⟨_, hspec, rest, hrest, rfl⟩ := h
    simp (disch := first | decide | simp) [read?, write, optional_written hrest,
      ServiceSpec.restores.optional_self hspec]
    rw [readMembers?_written hrest (by decide) rfl, Option.bind_some]

/-- A ConfigMap that was read can be read back with any data. -/
theorem read?_write_configMap {data : Option TextMap} {rest : List (String × Json)}
    (h : read? .configMap ms = some (.configMap data rest)) (data' : Option TextMap) :
    read? .configMap (write (.configMap data' rest)) = some (.configMap data' rest) := by
  simp only [read?, Option.bind_eq_bind, Option.bind_eq_some_iff, Option.pure_def,
    Option.some.injEq, configMap.injEq] at h
  obtain ⟨_, -, rest, hrest, -, rfl⟩ := h
  simp (disch := first | decide | simp) [read?, write, optional_written hrest,
    optional_textMap_present]
  rw [readMembers?_written hrest (by decide) rfl, Option.bind_some]

/-- A Service that was read can be read back at any address. -/
theorem read?_write_service {spec : ServiceSpec} {rest : List (String × Json)}
    (h : read? .service ms = some (.service (some spec) rest)) (address : Option String) :
    read? .service (write (.service (some { spec with clusterIP := address }) rest))
      = some (.service (some { spec with clusterIP := address }) rest) := by
  simp only [read?, Option.bind_eq_bind, Option.bind_eq_some_iff, Option.pure_def,
    Option.some.injEq, service.injEq] at h
  obtain ⟨_, hspec, rest, hrest, rfl, rfl⟩ := h
  obtain ⟨j, -, hj⟩ := exists_of_optional hspec
  have hwritten : optional ServiceSpec.read? "spec" (Json.present
      [("spec", (some { spec with clusterIP := address }).map ServiceSpec.write)])
      = some (some { spec with clusterIP := address }) := by
    refine optional_present_self (fun x hx => ?_) List.not_mem_nil
    cases hx
    exact ⟨Json.noConfusion, ServiceSpec.read?_write hj address⟩
  simp (disch := first | decide | simp) only [read?, write, optional_written hrest, hwritten]
  rw [readMembers?_written hrest (by decide) rfl]
  rfl

/-- Content is read as content of the kind that was asked for. -/
theorem kind_of_read? (h : read? kind ms = some content) : content.kind = kind := by
  cases kind <;> simp only [read?, Option.bind_eq_bind, Option.bind_eq_some_iff, Option.pure_def,
    Option.some.injEq] at h
  case serviceAccount =>
    obtain ⟨rest, -, rfl⟩ := h
    rfl
  all_goals
    obtain ⟨part, -, rest, -, rfl⟩ := h
    rfl

/-- The members of a content have other names than those that objects of all kinds have. -/
theorem not_mem_write (h : read? kind ms = some content) {name : String}
    (hname : name ∈ commonNames) : name ∉ content.write.map (·.1) := by
  have hfields {fields : List (String × Option Json)}
      (hall : fields.all (!commonNames.contains ·.1) = true) :
      name ∉ (Json.present fields).map (·.1) := by
    refine not_mem_present fun hmem => ?_
    obtain ⟨f, hf, rfl⟩ := List.mem_map.1 hmem
    simpa [hname] using List.all_eq_true.1 hall f hf
  have hrest {shapes : List (String × Bool × Shape)} {rest : List (String × Json)}
      (hread : readMembers? shapes ms = some rest)
      (hall : shapes.all (!commonNames.contains ·.1) = true) : name ∉ rest.map (·.1) := by
    refine not_mem_of_readMembers? hread fun hmem => ?_
    obtain ⟨s, hs, rfl⟩ := List.mem_map.1 hmem
    simpa [hname] using List.all_eq_true.1 hall s hs
  cases kind <;> simp only [read?, Option.bind_eq_bind, Option.bind_eq_some_iff, Option.pure_def,
    Option.some.injEq] at h
  case serviceAccount =>
    obtain ⟨rest, hread, rfl⟩ := h
    exact hrest hread (by decide)
  case clusterRoleBinding =>
    obtain ⟨_, -, _, -, rfl⟩ := h
    exact hfields rfl
  all_goals
    obtain ⟨_, -, rest, hread, rfl⟩ := h
    rw [write, List.map_append, List.mem_append]
    exact fun hmem => hmem.elim (hfields rfl) (hrest hread (by decide))

end Content

/-! ## Objects -/

namespace Resource

variable {j : Json} {o : Resource}

/-- A document that is read as an object of a kind is an object that may state no other kind. -/
theorem of_read? (h : read? kind j = some o) :
    o.kind = kind ∧ ∃ ms, j = .object ms ∧ agrees "kind" kind.name ms = true := by
  cases j with
  | object ms =>
      simp only [read?, members?, Option.bind_eq_bind, Option.bind_some, Option.bind_eq_some_iff,
        Option.pure_def, Option.some.injEq, Option.guard_eq_some', Bool.and_eq_true] at h
      obtain ⟨-, ⟨-, hagrees⟩, metadata, -, content, hcontent, rfl⟩ := h
      exact ⟨Content.kind_of_read? hcontent, ms, rfl, hagrees⟩
  | _ => contradiction

/-- Members behind do not contradict what is stated, if they have other names. -/
theorem agrees_append {name expected : String} {rest : List (String × Json)}
    (h : name ∉ rest.map (·.1)) : agrees name expected (ms ++ rest) = agrees name expected ms := by
  rw [agrees, agrees, List.filter_append, filter_eq_nil_of_not_mem h, List.append_nil]

/-- The members that objects of all kinds have. -/
def common (o : Resource) : List (String × Option Json) :=
  [("apiVersion", some (.text o.kind.apiVersion)), ("kind", some (.text o.kind.name)),
    ("metadata", some o.metadata.write)]

/-- An object is written as the members that all objects have, and then its own. -/
theorem write_eq (o : Resource) : o.write = .object (Json.present o.common ++ o.content.write) :=
  rfl

/-- The members that all objects have are version, kind and metadata. -/
theorem keys_common (o : Resource) : (Json.present o.common).map (·.1) = Content.commonNames := rfl

/-- They state the version and the kind of the object. -/
theorem agrees_common (o : Resource) : agrees "apiVersion" o.kind.apiVersion (Json.present o.common)
    = true ∧ agrees "kind" o.kind.name (Json.present o.common) = true := by
  simp [agrees, common, Json.present, text?]

/-- The parts of the object can be read back from their documents. -/
structure Legible (o : Resource) : Prop where
  metadata : Metadata.read? o.metadata.write = some o.metadata
  content : Content.read? o.kind o.content.write = some o.content

/-- What was read can be read back. -/
theorem legible_of_read? (h : read? kind j = some o) : o.Legible := by
  obtain rfl := (of_read? h).1
  simp only [read?, Option.bind_eq_bind, Option.bind_eq_some_iff, Option.pure_def,
    Option.some.injEq] at h
  obtain ⟨ms, -, -, -, m, hmetadata, c, hcontent, rfl⟩ := h
  refine ⟨?_, Content.read?_write hcontent⟩
  obtain ⟨v, hv, rfl⟩ := exists_of_optionalD hmetadata
  cases v with
  | none => rfl
  | some m =>
      obtain ⟨j, -, hj⟩ := exists_of_optional hv
      exact Metadata.restores.read_write hj

namespace Legible

/-- The members of the parts do not get into each other's way. -/
theorem read?_write (h : o.Legible) : read? o.kind o.write = some o := by
  have hfresh : ∀ name ∈ Content.commonNames, name ∉ o.content.write.map (·.1) :=
    fun _ => Content.not_mem_write h.content
  obtain ⟨hversion, hkind⟩ := agrees_common o
  rw [← agrees_append (hfresh _ (by decide))] at hversion hkind
  have hcommon : optional Metadata.read? "metadata" (Json.present o.common ++ o.content.write)
      = some (some o.metadata) := by
    rw [optional_append (hfresh _ (by decide)), common, optional_present_ne (by decide),
      optional_present_ne (by decide)]
    refine optional_present_self (v := some o.metadata) (fun m hm => ?_) List.not_mem_nil
    cases hm
    exact ⟨Json.noConfusion, h.metadata⟩
  have hrest : Content.read? o.kind (Json.present o.common ++ o.content.write)
      = some o.content := by
    rw [Content.read?_append fun name hname => keys_common o ▸ hname]
    exact h.content
  rw [write_eq]
  simp only [read?, members?_object, hversion, hkind, optionalD, hcommon, hrest,
    Option.bind_eq_bind, Option.bind_some, Option.map_some, Option.getD_some, Option.pure_def]
  rfl

/-- The document of a legible object shows it, and says of which kind it is. -/
theorem readAny?_write (h : o.Legible) : readAny? o.write = some o := by
  have hwritten := h.read?_write
  have hstated : optional text? "kind" (Json.present o.common ++ o.content.write)
      = some (some o.kind.name) := by
    rw [optional_append (Content.not_mem_write h.content (by decide)), common,
      optional_present_ne (by decide)]
    exact optional_text_present (v := some o.kind.name) (by simp)
  rw [write_eq] at hwritten ⊢
  simp only [readAny?, members?_object, hstated, Kind.ofName?_name, hwritten, Option.bind_eq_bind,
    Option.bind_some]

end Legible

/-- The object that a document shows is written as a document that shows it. -/
theorem readAny?_write (h : readAny? j = some o) : readAny? o.write = some o := by
  simp only [readAny?, Option.bind_eq_bind, Option.bind_eq_some_iff] at h
  obtain ⟨-, -, -, -, kind, -, hread⟩ := h
  exact (legible_of_read? hread).readAny?_write

end Resource

end LogOperator
