import LogOperator.Pipeline.Manifest

/-!
# LogOperator.Pipeline.Definition

The definition by which a cluster learns the kind of pipelines: its names, its version, and the schema
of a pipeline's specification.
-/

namespace LogOperator.Pipeline

/-! ## Schemas -/

/-- The schema of a type. -/
def schema (type : String) (more : List (String × Json)) : Json :=
  .object (("type", .text type) :: more)

/-- What is said about a member: its default and what it is for. -/
def said (dflt : Json) (description : String) : List (String × Json) :=
  [("default", dflt), ("description", .text description)]

def textSchema (description : String) : Json :=
  schema "string" (said (.text "") description)

def flagSchema (description : String) : Json :=
  schema "boolean" (said (.bool false) description)

/-- The schema of a text that must be there. -/
def nameSchema : Json :=
  schema "string" []

/-- The schema of a text about which nothing is said. -/
def plainTextSchema : Json :=
  schema "string" [("default", .text "")]

def listSchema (items : Json) (more : List (String × Json)) : Json :=
  schema "array" ([("default", .list []), ("items", items)] ++ more)

/-- The schema of an object with required members. -/
def objectSchema (description : String) (required : List String) (properties : List (String × Json)) :
    Json :=
  schema "object"
    [("description", .text description), ("properties", .object properties),
     ("required", .texts required)]

/-- The schema of a port that may be missing. -/
def portSchema : Json :=
  schema "integer"
    [("description", .text "External port, used when not self-managed."),
     ("format", .text "uint16"), ("maximum", .real "65535.0"), ("minimum", .real "0.0"),
     ("nullable", .bool true)]

def searchEngineSchema : Json :=
  schema "object" (said SearchEngine.none.write "Search engine placement." ++
    [("properties", .object
      [("required", flagSchema "Provision and manage the search engine in the target namespace."),
       ("host", textSchema "External host, used when not self-managed."),
       ("port", portSchema),
       ("https", flagSchema "External endpoint speaks https.")])])

def parserSchema : Json :=
  objectSchema "A named regex parser." ["name"]
    [("name", nameSchema), ("pattern", plainTextSchema)]

def outputSchema : Json :=
  objectSchema "A destination for records carrying a given tag." ["type"]
    [("type", schema "string"
      [("description", .text "Closed set of sink types understood by the aggregator."),
       ("enum", .texts ["elasticsearch", "stdout"])]),
     ("index-pattern", plainTextSchema)]

def ruleSchema : Json :=
  objectSchema "A namespace (optionally narrowed to deployments) to tail under one tag." ["namespace"]
    [("namespace", nameSchema),
     ("tag", textSchema "Routing tag; the namespace is used when empty."),
     ("deployments", listSchema nameSchema []),
     ("parsers", listSchema nameSchema
       [("description", .text "Names from the global parser set, applied in order.")]),
     ("outputs", listSchema outputSchema [])]

def specSchema : Json :=
  schema "object"
    [("description", .text "Desired state of a log pipeline."),
     ("properties", .object
       [("namespace", textSchema "Namespace the pipeline components are provisioned into."),
        ("collector-logfile", textSchema "Log file of the collector process itself."),
        ("include-k8s-metadata",
          flagSchema "Enrich records with pod metadata before forwarding."),
        ("es-kib-version", textSchema "Image tag shared by the search engine and dashboard."),
        ("parsers", listSchema parserSchema
          [("description", .text "Global parser set, referenced by name from watch rules.")]),
        ("watch", listSchema ruleSchema
          [("description", .text "What to collect and where to send it.")]),
        ("elasticsearch", searchEngineSchema),
        ("kibana", flagSchema "Provision the dashboard.")])]

def manifestSchema : Json :=
  schema "object"
    [("title", .text kind),
     ("description", .text
       ("Auto-generated derived type for " ++ kind ++ "Spec via `CustomResource`")),
     ("properties", .object [("spec", specSchema)]),
     ("required", .texts ["spec"])]

/-! ## The definition -/

/-- The definition of the kind. -/
def definition : Json :=
  Json.sorted <| .object
    [("apiVersion", .text "apiextensions.k8s.io/v1"),
     ("kind", .text "CustomResourceDefinition"),
     ("metadata", .object [("name", .text (plural ++ "." ++ group))]),
     ("spec", .object
       [("group", .text group),
        ("names", .object
          [("kind", .text kind), ("plural", .text plural), ("singular", .text "logpipeline"),
           ("shortNames", .texts ["lp"]), ("categories", .list [])]),
        ("scope", .text "Namespaced"),
        ("versions", .list [.object
          [("name", .text version), ("served", .bool true), ("storage", .bool true),
           ("schema", .object [("openAPIV3Schema", manifestSchema)]),
           ("additionalPrinterColumns", .list []), ("subresources", .object [])]])])]

end LogOperator.Pipeline
