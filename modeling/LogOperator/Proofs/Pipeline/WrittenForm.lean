import LogOperator.Pipeline.Spec
import LogOperator.Proofs.Document.Abridgement

/-!
# LogOperator.Proofs.Pipeline.WrittenForm

Specifications in the form in which manifests have them.  Each kind of record has a table of its members
(`LogParser.fields`, `Output.fields`, `WatchRule.fields`, `SearchEngine.fields`, `Spec.fields`), which says
what the members are called and which of them have a default.  What is left of a written specification
when members that hold their default are left out is read as the same specification:

* `Sink.tolerates` — the search engine is known by a second name;
* `LogParser.tolerates`, `Output.tolerates`, `WatchRule.tolerates`, `SearchEngine.tolerates`,
  `Spec.tolerates` — the records, from the inside out;
* `Spec.written_form_restores` — written specifications, abridged or not, as values and as texts.
-/

namespace LogOperator

open Document Json

variable {j : Json} {depth : Nat}

/-! ## Sinks and ports -/

namespace Sink

/-- A sink may be written by its other name, if it has one. -/
def Abridges (j j' : Json) : Prop :=
  j' = j ∨ j = .text "elasticsearch" ∧ j' = .text "search-engine"

/-- A sink is known by any of its names. -/
theorem tolerates : Tolerates (fun v : Json => (choice? v).bind ofName?) (fun x => .text x.name)
    Abridges where
  refl _ := .inl rfl
  read_eq {x j} hj := by
    rcases hj with rfl | ⟨hname, rfl⟩
    · cases x <;> decide
    · cases x with
      | searchEngine => decide
      | stdout => simp [name] at hname

theorem prints : Prints depth (fun x : Sink => .text x.name) Abridges := by
  rintro x j (rfl | ⟨-, rfl⟩) <;> rfl

end Sink

/-- The written form of a port, if there is one. -/
def writePort? (port : Option UInt16) : Json :=
  match port with
  | some p => .int p.toNat
  | none => .null

/-- Every port is read from its number. -/
theorem port?_int (p : UInt16) : port? (Json.int p.toNat) = some p := by
  have hle : p.toNat ≤ 65535 := Nat.le_of_lt_succ p.toNat_lt
  have hnat : natTo? 65535 (Json.int p.toNat) = some p.toNat :=
    Option.filter_eq_some_iff.2 ⟨rfl, by simpa using hle⟩
  simp [port?, hnat]

/-- A port is read back, and so is that there is none. -/
theorem tolerates_port : Tolerates (nullable? port?) writePort? Eq :=
  .of_eq fun
    | some p => by
        rw [writePort?, nullable?_of_ne_null Json.noConfusion, port?_int]
        rfl
    | none => rfl

/-- A text can stand for a port. -/
theorem prints_port : Prints depth writePort? Eq :=
  .of_eq fun
    | some p => by
        have hlt := p.toNat_lt
        simp only [writePort?, isPrintable, UInt64.size, Bool.and_eq_true, decide_eq_true_iff]
        omega
    | none => rfl

/-! ## Records -/

namespace LogParser

/-- The members of a parser. -/
def fields : List Field :=
  [⟨"name", none, Eq⟩, ⟨"pattern", some (.text ""), Eq⟩]

/-- A parser is read back; both of its members are needed. -/
theorem tolerates : Tolerates read? write (AbridgesRecord fields) where
  refl _ := (Abridges.keep rfl (.keep rfl .nil)).record
  read_eq {p j} hj := by
    obtain ⟨ms, rfl, h⟩ := hj.exists_members
    have hn : (fields.map (·.name)).Nodup := by decide
    have hname := h.required hn (i := 0) .text rfl rfl
    have hpattern := h.defaulted hn (i := 1) .text rfl rfl
    simp [read?, hname, hpattern]

theorem prints : Prints (depth + 1) write (AbridgesRecord fields) := by
  intro p j hj
  obtain ⟨ms, rfl, h⟩ := hj.exists_members
  exact h.havePrintable (by simp [fields, isPrintable])

end LogParser

namespace Output

/-- The members of an output. -/
def fields : List Field :=
  [⟨"type", none, Sink.Abridges⟩, ⟨"index-pattern", some (.text ""), Eq⟩]

/-- An output is read back with its index pattern left out if it is empty. -/
theorem tolerates : Tolerates read? write (AbridgesRecord fields) where
  refl o := (Abridges.keep (Sink.tolerates.refl o.sink) (.keep rfl .nil)).record
  read_eq {o j} hj := by
    obtain ⟨ms, rfl, h⟩ := hj.exists_members
    have hn : (fields.map (·.name)).Nodup := by decide
    have hsink := h.required hn (i := 0) Sink.tolerates rfl rfl
    have hpattern := h.defaulted hn (i := 1) .text rfl rfl
    simp [read?, hsink, hpattern]

theorem prints : Prints (depth + 1) write (AbridgesRecord fields) := by
  intro o j hj
  obtain ⟨ms, rfl, h⟩ := hj.exists_members
  exact h.havePrintable (by simpa [fields, isPrintable] using Sink.prints o.sink)

end Output

namespace WatchRule

/-- The members of a rule. -/
def fields : List Field :=
  [⟨"namespace", none, Eq⟩,
   ⟨"tag", some (.text ""), Eq⟩,
   ⟨"deployments", some (.list []), Eq⟩,
   ⟨"parsers", some (.list []), Eq⟩,
   ⟨"outputs", some (.list []), AbridgesList (AbridgesRecord Output.fields)⟩]

/-- A rule is read back with any of its defaults left out. -/
theorem tolerates : Tolerates read? write (AbridgesRecord fields) where
  refl r := (Abridges.keep rfl (.keep rfl (.keep rfl (.keep rfl
    (.keep (Output.tolerates.listOf.refl r.outputs) .nil))))).record
  read_eq {r j} hj := by
    obtain ⟨ms, rfl, h⟩ := hj.exists_members
    have hn : (fields.map (·.name)).Nodup := by decide
    have hns := h.required hn (i := 0) .text rfl rfl
    have htag := h.defaulted hn (i := 1) .text rfl rfl
    have hdeployments := h.defaulted hn (i := 2) (d := []) .texts rfl rfl
    have hparsers := h.defaulted hn (i := 3) (d := []) .texts rfl rfl
    have houtputs := h.defaulted hn (i := 4) (d := []) Output.tolerates.listOf rfl rfl
    simp [read?, hns, htag, hdeployments, hparsers, houtputs]

theorem prints : Prints (depth + 3) write (AbridgesRecord fields) := by
  intro r j hj
  obtain ⟨ms, rfl, h⟩ := hj.exists_members
  have houtputs : Prints (depth + 2) _ _ := Output.prints.listOf
  exact h.havePrintable (by simpa [fields, isPrintable] using houtputs r.outputs)

end WatchRule

namespace SearchEngine

/-- The members of a search engine. -/
def fields : List Field :=
  [⟨"required", some (.bool false), Eq⟩,
   ⟨"host", some (.text ""), Eq⟩,
   ⟨"port", some .null, Eq⟩,
   ⟨"https", some (.bool false), Eq⟩]

/-- A search engine is read back with any of its defaults left out. -/
theorem tolerates : Tolerates read? write (AbridgesRecord fields) where
  refl _ := (Abridges.keep rfl (.keep rfl (.keep rfl (.keep rfl .nil)))).record
  read_eq {e j} hj := by
    obtain ⟨ms, rfl, h⟩ := hj.exists_members
    have hn : (fields.map (·.name)).Nodup := by decide
    have hrequired := h.defaulted hn (i := 0) .flag rfl rfl
    have hhost := h.defaulted hn (i := 1) .text rfl rfl
    have hport := h.defaulted hn (i := 2) (d := .none) tolerates_port rfl rfl
    have hhttps := h.defaulted hn (i := 3) .flag rfl rfl
    simp [read?, hrequired, hhost, hport, hhttps]

theorem write_eq (e : SearchEngine) : e.write = .object
    [("required", .bool e.required), ("host", .text e.host), ("port", writePort? e.port),
     ("https", .bool e.https)] := rfl

theorem prints : Prints (depth + 1) write (AbridgesRecord fields) := by
  intro e j hj
  rw [write_eq] at hj
  obtain ⟨ms, rfl, h⟩ := hj.exists_members
  have hport : isPrintable depth (writePort? e.port) = true := prints_port _ _ rfl
  exact h.havePrintable (by simpa [fields, isPrintable] using hport)

end SearchEngine

namespace Spec

/-- The members of a specification. -/
def fields : List Field :=
  [⟨"namespace", some (.text ""), Eq⟩,
   ⟨"collector-logfile", some (.text ""), Eq⟩,
   ⟨"include-k8s-metadata", some (.bool false), Eq⟩,
   ⟨"es-kib-version", some (.text ""), Eq⟩,
   ⟨"parsers", some (.list []), AbridgesList (AbridgesRecord LogParser.fields)⟩,
   ⟨"watch", some (.list []), AbridgesList (AbridgesRecord WatchRule.fields)⟩,
   ⟨"elasticsearch", some SearchEngine.none.write, AbridgesRecord SearchEngine.fields⟩,
   ⟨"kibana", some (.bool false), Eq⟩]

/-- **A specification is read back** with any defaults of its parts left out. -/
theorem tolerates : Tolerates read? write (AbridgesRecord fields) where
  refl s := (Abridges.keep rfl (.keep rfl (.keep rfl (.keep rfl
    (.keep (LogParser.tolerates.listOf.refl s.parsers)
      (.keep (WatchRule.tolerates.listOf.refl s.watch)
        (.keep (SearchEngine.tolerates.refl s.searchEngine) (.keep rfl .nil)))))))).record
  read_eq {s j} hj := by
    obtain ⟨ms, rfl, h⟩ := hj.exists_members
    have hn : (fields.map (·.name)).Nodup := by decide
    have hns := h.defaulted hn (i := 0) .text rfl rfl
    have hlogfile := h.defaulted hn (i := 1) .text rfl rfl
    have hmetadata := h.defaulted hn (i := 2) .flag rfl rfl
    have hversion := h.defaulted hn (i := 3) .text rfl rfl
    have hparsers := h.defaulted hn (i := 4) (d := []) LogParser.tolerates.listOf rfl rfl
    have hwatch := h.defaulted hn (i := 5) (d := []) WatchRule.tolerates.listOf rfl rfl
    have hsearch := h.defaulted hn (i := 6) SearchEngine.tolerates rfl rfl
    have hdashboard := h.defaulted hn (i := 7) .flag rfl rfl
    simp [read?, hns, hlogfile, hmetadata, hversion, hparsers, hwatch, hsearch, hdashboard]

theorem prints : Prints (depth + 5) write (AbridgesRecord fields) := by
  intro s j hj
  obtain ⟨ms, rfl, h⟩ := hj.exists_members
  have hparsers : Prints (depth + 4) _ _ := LogParser.prints.listOf
  have hwatch : Prints (depth + 4) _ _ := WatchRule.prints.listOf
  have hsearch : Prints (depth + 4) _ _ := SearchEngine.prints
  exact h.havePrintable (by
    simpa [fields, isPrintable]
      using ⟨hparsers s.parsers, hwatch s.watch, hsearch s.searchEngine⟩)

/-- **The written form of a specification stands for it.**  What is written is read as the same
specification.  It still is when any members that hold their default are left out, in the specification,
its parsers, rules, outputs and search engine, other than those that have no default, and when search
engine outputs are written by their other name; as a value or as the text of one.  And whatever
specification a value is read as, is read again when it is written. -/
theorem written_form_restores (s : Spec) :
    read? s.write = some s ∧
    (∀ j, AbridgesRecord fields s.write j →
      read? j = some s ∧ (parse? (render j)).bind read? = some s) ∧
    ∀ (j : Json) s', read? j = some s' → read? s'.write = some s' := by
  refine ⟨tolerates.read_write s, fun j hj => ?_, fun _ s' _ => tolerates.read_write s'⟩
  have hprint : isPrintable maxDepth j = true := prints s j hj
  have hread := tolerates.read_eq hj
  exact ⟨hread, by rw [parse?_render hprint, Option.bind_some, hread]⟩

/-- A specification that has little to say. -/
def brief : Spec :=
  { blank with
    version := "7.10.2"
    parsers := [⟨"json", "^.*$"⟩]
    watch := [⟨"shop", "", [], ["json"], [⟨.searchEngine, ""⟩, ⟨.stdout, "audit"⟩]⟩]
    searchEngine := ⟨true, "", .none, false⟩ }

/-- All that has to be written of its rule. -/
def abridgedRule : Json :=
  .object
    [("namespace", .text "shop"),
     ("parsers", .texts ["json"]),
     ("outputs", .list [.object [("type", .text "search-engine")], Output.write ⟨.stdout, "audit"⟩])]

/-- All that has to be written of it. -/
def abridged : Json :=
  .object
    [("es-kib-version", .text "7.10.2"),
     ("parsers", .list [LogParser.write ⟨"json", "^.*$"⟩]),
     ("watch", .list [abridgedRule]),
     ("elasticsearch", .object [("required", .bool true)])]

/-- The short form leaves out all defaults and uses the other name of the sink. -/
theorem abridges_brief : AbridgesRecord fields brief.write abridged := by
  have houtput : AbridgesRecord Output.fields (Output.write ⟨.searchEngine, ""⟩)
      (.object [("type", .text "search-engine")]) :=
    (Abridges.keep (Or.inr ⟨rfl, rfl⟩) (.drop rfl .nil)).record
  have houtputs : AbridgesList (AbridgesRecord Output.fields)
      (.list ([⟨.searchEngine, ""⟩, ⟨.stdout, "audit"⟩].map Output.write))
      (.list [.object [("type", .text "search-engine")], Output.write ⟨.stdout, "audit"⟩]) :=
    ⟨_, _, rfl, rfl, .cons houtput (.cons (Output.tolerates.refl _) .nil)⟩
  have hrule : AbridgesRecord WatchRule.fields
      (WatchRule.write ⟨"shop", "", [], ["json"], [⟨.searchEngine, ""⟩, ⟨.stdout, "audit"⟩]⟩)
      abridgedRule :=
    (Abridges.keep rfl (.drop rfl (.drop rfl (.keep rfl (.keep houtputs .nil))))).record
  have hwatch : AbridgesList (AbridgesRecord WatchRule.fields)
      (.list (brief.watch.map WatchRule.write)) (.list [abridgedRule]) :=
    ⟨_, _, rfl, rfl, .cons hrule .nil⟩
  have hengine : AbridgesRecord SearchEngine.fields brief.searchEngine.write
      (.object [("required", .bool true)]) :=
    (Abridges.keep rfl (.drop rfl (.drop rfl (.drop rfl .nil)))).record
  exact (Abridges.drop rfl (.drop rfl (.drop rfl (.keep rfl
    (.keep (LogParser.tolerates.listOf.refl brief.parsers)
      (.keep hwatch (.keep hengine (.drop rfl .nil)))))))).record

theorem written_form_restores_brief :
    AbridgesRecord fields brief.write abridged ∧ read? abridged = some brief ∧
    (parse? (render abridged)).bind read? = some brief ∧ read? brief.write = some brief := by
  obtain ⟨-, habridged, hagain⟩ := written_form_restores brief
  obtain ⟨hread, htext⟩ := habridged abridged abridges_brief
  exact ⟨abridges_brief, hread, htext, hagain abridged brief hread⟩

end Spec

end LogOperator
