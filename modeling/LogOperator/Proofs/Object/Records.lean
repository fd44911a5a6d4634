import LogOperator.Object.Resource
import LogOperator.Proofs.Object.Shapes

/-!
# LogOperator.Proofs.Object.Records

The parts of cluster objects that have types of their own: what is read of one is written as a document
from which the same is read (`Restores`).  In each proof the members that were read are named first, and
then read back from the written ones, those that are carried only (`readMembers?_written`) after those
that have fields of their own.
-/

namespace LogOperator

open Document Shape

/-! ## Metadata -/

/-- Every owner reference can be read back. -/
theorem OwnerRef.read?_write (o : OwnerRef) : read? o.write = some o := by
  obtain ⟨apiVersion, kind, name, uid, controller, block⟩ := o
  cases controller <;> cases block <;> rfl

theorem OwnerRef.restores : Restores OwnerRef.read? OwnerRef.write where
  read_write _ := read?_write _
  ne_null _ := Json.noConfusion

/-- Metadata can be read back if its other members can. -/
theorem Metadata.read?_write {m : Metadata} {ms : List (String × Json)}
    (hrest : readMembers? metadataRest ms = some m.rest) : read? m.write = some m := by
  have howners {name : String} {fields : List (String × Option Json)} (h : name ∉ fields.map (·.1)) :
      optional (listOf? OwnerRef.read?) name (Json.present
        ((name, m.owners.map fun os => .list (os.map OwnerRef.write)) :: fields)) = some m.owners :=
    optional_present_self
      (fun _ _ => ⟨Json.noConfusion, mapM_map_eq_some fun o _ => o.read?_write⟩) h
  simp (disch := first | decide | simp) [read?, write, optional_written hrest,
    optional_text_present, optional_textMap_present, howners]
  rw [readMembers?_written hrest (by decide) rfl, Option.bind_some]

/-- What is carried along in metadata was read from its document. -/
theorem Metadata.exists_of_read? {j : Json} {m : Metadata} (h : read? j = some m) :
    ∃ ms : List (String × Json), readMembers? metadataRest ms = some m.rest := by
  simp only [read?, Option.bind_eq_bind, Option.bind_eq_some_iff, Option.pure_def,
    Option.some.injEq] at h
  obtain ⟨ms, -, _, -, _, -, _, -, _, -, _, -, _, -, _, -, _, -, rest, hrest, rfl⟩ := h
  exact ⟨ms, hrest⟩

/-- So metadata that was read is read back. -/
theorem Metadata.restores : Restores Metadata.read? Metadata.write where
  read_write h := by
    obtain ⟨ms, hms⟩ := exists_of_read? h
    exact read?_write hms
  ne_null _ := Json.noConfusion

/-! ## Pods -/

/-- Environment variables are read back, also those without a value. -/
theorem EnvVar.restores : Restores EnvVar.read? EnvVar.write where
  read_write h := by
    simp only [read?, Option.bind_eq_bind, Option.bind_eq_some_iff, Option.pure_def,
      Option.some.injEq] at h
    obtain ⟨ms, -, _, hname, _, hvalue, rest, hrest, rfl⟩ := h
    simp (disch := first | decide | simp) [read?, write, optionalD, optional_written hrest,
      Restores.text.optionalD_self hname rfl, Restores.text.optional_self hvalue]
    rw [readMembers?_written hrest (by decide) rfl, Option.bind_some]
  ne_null _ := Json.noConfusion

theorem ContainerPort.write_eq (p : ContainerPort) : p.write
    = .object (Json.present [("containerPort", some (.int p.number))] ++ p.rest) :=
  rfl

theorem ContainerPort.restores : Restores ContainerPort.read? ContainerPort.write where
  read_write h := by
    simp only [read?, Option.bind_eq_bind, Option.bind_eq_some_iff, Option.pure_def,
      Option.some.injEq] at h
    obtain ⟨ms, -, _, hnumber, rest, hrest, rfl⟩ := h
    simp (disch := first | decide | simp) [read?, write_eq, optionalD, optional_written hrest,
      Restores.int32.optionalD_self hnumber rfl]
    rw [readMembers?_written hrest (by decide) rfl, Option.bind_some]
  ne_null _ := Json.noConfusion

theorem VolumeMount.restores : Restores VolumeMount.read? VolumeMount.write where
  read_write h := by
    simp only [read?, Option.bind_eq_bind, Option.bind_eq_some_iff, Option.pure_def,
      Option.some.injEq] at h
    obtain ⟨ms, -, _, hname, _, hpath, _, hread, _, hsub, rest, hrest, rfl⟩ := h
    simp (disch := first | decide | simp) [read?, write, optionalD, optional_written hrest,
      Restores.text.optionalD_self hname rfl, Restores.text.optionalD_self hpath rfl,
      Restores.flag.optional_self hread, Restores.text.optional_self hsub]
    rw [readMembers?_written hrest (by decide) rfl, Option.bind_some]
  ne_null _ := Json.noConfusion

theorem Container.restores : Restores Container.read? Container.write where
  read_write h := by
    simp only [read?, Option.bind_eq_bind, Option.bind_eq_some_iff, Option.pure_def,
      Option.some.injEq] at h
    obtain ⟨ms, -, _, hname, _, himage, _, hports, _, henv, _, hmounts, rest, hrest, rfl⟩ := h
    simp (disch := first | decide | simp) [read?, write, optionalD, optional_written hrest,
      Restores.text.optionalD_self hname rfl, Restores.text.optional_self himage,
      ContainerPort.restores.listOf.optional_self hports, EnvVar.restores.listOf.optional_self henv,
      VolumeMount.restores.listOf.optional_self hmounts]
    rw [readMembers?_written hrest (by decide) rfl, Option.bind_some]
  ne_null _ := Json.noConfusion

theorem VolumeSource.write_eq (member : String) (s : VolumeSource) : s.write member
    = .object (Json.present [(member, some (.text s.target))] ++ s.rest) :=
  rfl

/-- A source of a volume is read back, under whichever name its text stands. -/
theorem VolumeSource.restores {member : String} {shapes : List (String × Bool × Shape)}
    (hproper : areProper shapes = true) (hothers : shapes.all (·.1 != member) = true) :
    Restores (VolumeSource.read? member shapes) (VolumeSource.write member) where
  read_write h := by
    simp only [read?, Option.bind_eq_bind, Option.bind_eq_some_iff, Option.pure_def,
      Option.some.injEq] at h
    obtain ⟨ms, -, _, htarget, rest, hrest, rfl⟩ := h
    simp (disch := simp) [read?, write_eq, optionalD,
      optional_written hrest (not_mem_of_all hothers),
      Restores.text.optionalD_self htarget rfl]
    rw [readMembers?_written hrest hproper (by simp [hothers]), Option.bind_some]
  ne_null _ := Json.noConfusion

/-- A volume is read back with the one source that it has, or with both. -/
theorem Volume.restores : Restores Volume.read? Volume.write where
  read_write h := by
    simp only [read?, Option.bind_eq_bind, Option.bind_eq_some_iff, Option.pure_def,
      Option.some.injEq] at h
    obtain ⟨ms, -, _, hname, _, hconfig, _, hpath, rest, hrest, rfl⟩ := h
    have hconfigMap : Restores (VolumeSource.read? "name" Shape.configMapVolumeRest)
        (VolumeSource.write "name") := VolumeSource.restores (by decide) (by decide)
    have hhostPath : Restores (VolumeSource.read? "path" Shape.hostPathRest)
        (VolumeSource.write "path") := VolumeSource.restores (by decide) (by decide)
    simp (disch := first | decide | simp) [read?, write, optionalD, optional_written hrest,
      Restores.text.optionalD_self hname rfl, hconfigMap.optional_self hconfig,
      hhostPath.optional_self hpath]
    rw [readMembers?_written hrest (by decide +kernel) rfl, Option.bind_some]
  ne_null _ := Json.noConfusion

theorem PodSpec.restores : Restores PodSpec.read? PodSpec.write where
  read_write h := by
    simp only [read?, Option.bind_eq_bind, Option.bind_eq_some_iff, Option.pure_def,
      Option.some.injEq] at h
    obtain ⟨ms, -, _, haccount, _, hcontainers, _, hvolumes, rest, hrest, rfl⟩ := h
    simp (disch := first | decide | simp) [read?, write, optionalD, optional_written hrest,
      Restores.text.optional_self haccount, Container.restores.listOf.optionalD_self hcontainers rfl,
      Volume.restores.listOf.optional_self hvolumes]
    rw [readMembers?_written hrest (by decide +kernel) rfl, Option.bind_some]
  ne_null _ := Json.noConfusion

theorem PodTemplate.restores : Restores PodTemplate.read? PodTemplate.write where
  read_write h := by
    simp only [read?, Option.bind_eq_bind, Option.bind_eq_some_iff, Option.pure_def,
      Option.some.injEq] at h
    obtain ⟨ms, -, _, hmetadata, _, hspec, rfl⟩ := h
    simp (disch := first | decide | simp) [read?, write, Metadata.restores.optional_self hmetadata,
      PodSpec.restores.optional_self hspec]
  ne_null _ := Json.noConfusion

theorem Selector.restores : Restores Selector.read? Selector.write where
  read_write h := by
    simp only [read?, Option.bind_eq_bind, Option.bind_eq_some_iff, Option.pure_def,
      Option.some.injEq] at h
    obtain ⟨ms, -, _, hlabels, rest, hrest, rfl⟩ := h
    simp (disch := first | decide | simp) [read?, write, optional_written hrest,
      Restores.textMap.optional_self hlabels]
    rw [readMembers?_written hrest (by decide) rfl, Option.bind_some]
  ne_null _ := Json.noConfusion

/-! ## Roles -/

theorem PolicyRule.restores : Restores PolicyRule.read? PolicyRule.write where
  read_write h := by
    simp only [read?, Option.bind_eq_bind, Option.bind_eq_some_iff, Option.pure_def,
      Option.some.injEq] at h
    obtain ⟨ms, -, _, hgroups, _, hresources, _, hverbs, rest, hrest, rfl⟩ := h
    simp (disch := first | decide | simp) [read?, write, optionalD, optional_written hrest,
      Restores.texts.optional_self hgroups, Restores.texts.optional_self hresources,
      Restores.texts.optionalD_self hverbs rfl]
    rw [readMembers?_written hrest (by decide) rfl, Option.bind_some]
  ne_null _ := Json.noConfusion

theorem RoleRef.write_eq (r : RoleRef) : r.write = .object (Json.present
    [("apiGroup", some (.text r.apiGroup)), ("kind", some (.text r.kind)),
     ("name", some (.text r.name))]) :=
  rfl

theorem RoleRef.restores : Restores RoleRef.read? RoleRef.write where
  read_write h := by
    simp only [read?, Option.bind_eq_bind, Option.bind_eq_some_iff, Option.pure_def,
      Option.some.injEq] at h
    obtain ⟨ms, -, _, hgroup, _, hkind, _, hname, rfl⟩ := h
    simp (disch := first | decide | simp) [read?, write_eq, optionalD,
      Restores.text.optionalD_self hgroup rfl, Restores.text.optionalD_self hkind rfl,
      Restores.text.optionalD_self hname rfl]
  ne_null _ := Json.noConfusion

theorem Subject.restores : Restores Subject.read? Subject.write where
  read_write h := by
    simp only [read?, Option.bind_eq_bind, Option.bind_eq_some_iff, Option.pure_def,
      Option.some.injEq] at h
    obtain ⟨ms, -, _, hgroup, _, hkind, _, hname, _, hns, rfl⟩ := h
    simp (disch := first | decide | simp) [read?, write, optionalD,
      Restores.text.optional_self hgroup, Restores.text.optionalD_self hkind rfl,
      Restores.text.optionalD_self hname rfl, Restores.text.optional_self hns]
  ne_null _ := Json.noConfusion

/-! ## Workloads -/

/-- The specification of a workload is read back, with its replicas if it counts them. -/
theorem WorkloadSpec.restores {counted : Bool} {shapes : List (String × Bool × Shape)}
    (hproper : areProper shapes = true) (hothers : ["replicas", "selector", "template"].all
      (fun name => shapes.all (·.1 != name)) = true) :
    Restores (WorkloadSpec.read? counted shapes) WorkloadSpec.write where
  read_write {j spec} h := by
    have hname {name : String} (hmem : name ∈ ["replicas", "selector", "template"]) :
        name ∉ shapes.map (·.1) := not_mem_of_all (List.all_eq_true.1 hothers name hmem)
    cases counted with
    | true =>
        simp only [read?, if_true, Option.bind_eq_bind, Option.bind_eq_some_iff, Option.pure_def,
          Option.some.injEq] at h
        obtain ⟨ms, -, _, hreplicas, _, hselector, _, htemplate, rest, hrest, rfl⟩ := h
        simp (disch := first | decide | simp) [read?, write, optionalD,
          optional_written hrest (hname _), Restores.int32.optional_self hreplicas,
          Selector.restores.optionalD_self hselector rfl,
          PodTemplate.restores.optionalD_self htemplate rfl]
        rw [readMembers?_written hrest hproper hothers, Option.bind_some]
    | false =>
        simp only [read?, Bool.false_eq_true, if_false, Option.bind_eq_bind,
          Option.bind_eq_some_iff, Option.pure_def, Option.some.injEq] at h
        obtain ⟨ms, -, _, rfl, _, hselector, _, htemplate, rest, hrest, rfl⟩ := h
        simp (disch := first | decide | simp) [read?, write, optionalD,
          optional_written hrest (hname _), Selector.restores.optionalD_self hselector rfl,
          PodTemplate.restores.optionalD_self htemplate rfl]
        rw [readMembers?_written hrest hproper hothers, Option.bind_some]
  ne_null _ := Json.noConfusion

/-! ## Services -/

/-- A number stays a number, and a text stays a text. -/
theorem IntOrText.restores : Restores IntOrText.read? IntOrText.write where
  read_write {j x} h := by
    rw [read?, Option.or_eq_some_iff] at h
    rcases h with h | ⟨-, h⟩
    · obtain ⟨n, hn, rfl⟩ := Option.map_eq_some_iff.1 h
      rw [read?, write, int32?, intIn?_int hn]
      rfl
    · obtain ⟨t, -, rfl⟩ := Option.map_eq_some_iff.1 h
      rfl
  ne_null x := by cases x <;> exact Json.noConfusion

theorem ServicePort.restores : Restores ServicePort.read? ServicePort.write where
  read_write h := by
    simp only [read?, Option.bind_eq_bind, Option.bind_eq_some_iff, Option.pure_def,
      Option.some.injEq] at h
    obtain ⟨ms, -, _, hname, _, hport, _, htarget, rest, hrest, rfl⟩ := h
    simp (disch := first | decide | simp) [read?, write, optionalD, optional_written hrest,
      Restores.text.optional_self hname, Restores.int32.optionalD_self hport rfl,
      IntOrText.restores.optional_self htarget]
    rw [readMembers?_written hrest (by decide) rfl, Option.bind_some]
  ne_null _ := Json.noConfusion

/-- The specification of a Service that was read can be read back at any address. -/
theorem ServiceSpec.read?_write {j : Json} {spec : ServiceSpec} (h : read? j = some spec)
    (address : Option String) : read? { spec with clusterIP := address }.write
      = some { spec with clusterIP := address } := by
  simp only [read?, Option.bind_eq_bind, Option.bind_eq_some_iff, Option.pure_def,
    Option.some.injEq] at h
  obtain ⟨ms, -, _, -, _, hports, _, -, _, -, rest, hrest, rfl⟩ := h
  simp (disch := first | decide | simp) [read?, write, optional_written hrest,
    optional_text_present, optional_textMap_present,
    ServicePort.restores.listOf.optional_self hports]
  rw [readMembers?_written hrest (by decide) rfl, Option.bind_some]

theorem ServiceSpec.restores : Restores ServiceSpec.read? ServiceSpec.write where
  read_write {_ spec} h := ServiceSpec.read?_write h spec.clusterIP
  ne_null _ := Json.noConfusion

end LogOperator
