import LogOperator.Component.Aggregator
import LogOperator.Component.Collector
import LogOperator.Component.Dashboard
import LogOperator.Component.SearchEngine

/-!
# LogOperator.Desired.Build

The desired state of a valid pipeline.  It is a function of the pipeline, the endpoint of the search
engine and the images; the first two levels do not need the endpoint.
-/

namespace LogOperator.DesiredState

/-- The levels that can be settled before the endpoint is known. -/
def foundation (v : ValidPipeline) (images : Images) : DesiredState :=
  [(.identity, Component.Identity.entries v),
   (.searchEngine, Component.SearchEngine.entries v images)]

/-- The levels that need the endpoint. -/
def consumers (v : ValidPipeline) (endpoint : Endpoint) (images : Images) : DesiredState :=
  let table := RoutingTable.ofValid v
  [(.aggregator, Component.Aggregator.entries v table endpoint images),
   (.collector, Component.Collector.entries v table images),
   (.dashboard, Component.Dashboard.entries v endpoint images)]

/-- The desired state of a pipeline. -/
def build (v : ValidPipeline) (endpoint : Endpoint) (images : Images) : DesiredState :=
  foundation v images ++ consumers v endpoint images

end LogOperator.DesiredState
