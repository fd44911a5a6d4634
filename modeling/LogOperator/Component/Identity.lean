import LogOperator.Component.Blueprint
import LogOperator.Desired.State

/-!
# LogOperator.Component.Identity

The account that the collector runs as, and the access it needs: reading namespaces and pods everywhere
in the cluster.
-/

namespace LogOperator.Component.Identity

def account : String := "fluent-bit"

/-- The name of the role and of its binding. -/
def role : String := "fluent-bit-read"

/-- The account, in the target namespace. -/
def serviceAccount (v : ValidPipeline) : Resource :=
  ⟨v.ownedMetadata account, .serviceAccount []⟩

/-- The role: namespaces and pods can be read. -/
def clusterRole : Resource :=
  ⟨clusterMetadata role, .clusterRole (some
    [⟨some [""], some ["namespaces", "pods"], ["get", "list", "watch"], []⟩]) []⟩

/-- The binding of the role to the account. -/
def clusterRoleBinding (v : ValidPipeline) : Resource :=
  ⟨clusterMetadata role, .clusterRoleBinding
    ⟨"rbac.authorization.k8s.io", Kind.clusterRole.name, role⟩
    (some [⟨none, Kind.serviceAccount.name, account, some v.ns⟩])⟩

def entries (v : ValidPipeline) : List Entry :=
  [.present (serviceAccount v) none, .present clusterRole none,
   .present (clusterRoleBinding v) none]

end LogOperator.Component.Identity
