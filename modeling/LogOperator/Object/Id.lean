/-!
# LogOperator.Object.Id

The kinds of cluster objects a pipeline is made of, and identities: kind, name and namespace.

Identities are ordered by kind, then name, then namespace, where no namespace comes first.  The
order is a lawful linear order, which is what maps over identities need.
-/

namespace LogOperator

/-! ## Kinds -/

/-- The kinds of objects a pipeline is made of. -/
inductive Kind where
  | serviceAccount
  | clusterRole
  | clusterRoleBinding
  | configMap
  | daemonSet
  | deployment
  | service
deriving DecidableEq, Inhabited

namespace Kind

def all : List Kind :=
  [serviceAccount, clusterRole, clusterRoleBinding, configMap, daemonSet, deployment, service]

/-- The position of a kind in the order of kinds. -/
def rank : Kind → Nat
  | serviceAccount => 0
  | clusterRole => 1
  | clusterRoleBinding => 2
  | configMap => 3
  | daemonSet => 4
  | deployment => 5
  | service => 6

def name : Kind → String
  | serviceAccount => "ServiceAccount"
  | clusterRole => "ClusterRole"
  | clusterRoleBinding => "ClusterRoleBinding"
  | configMap => "ConfigMap"
  | daemonSet => "DaemonSet"
  | deployment => "Deployment"
  | service => "Service"

def ofName? (s : String) : Option Kind :=
  all.find? fun k => k.name == s

/-- Objects of the kind live in a namespace. -/
def isNamespaced : Kind → Bool
  | clusterRole | clusterRoleBinding => false
  | _ => true

/-- Objects of the kind run pods, and are built anew when their inputs change. -/
def isWorkload : Kind → Bool
  | daemonSet | deployment => true
  | _ => false

/-- The group and version that serve the kind; the core group has no name. -/
def apiVersion : Kind → String
  | serviceAccount | configMap | service => "v1"
  | clusterRole | clusterRoleBinding => "rbac.authorization.k8s.io/v1"
  | daemonSet | deployment => "apps/v1"

/-- The name of the collection that holds objects of the kind. -/
def plural : Kind → String
  | serviceAccount => "serviceaccounts"
  | clusterRole => "clusterroles"
  | clusterRoleBinding => "clusterrolebindings"
  | configMap => "configmaps"
  | daemonSet => "daemonsets"
  | deployment => "deployments"
  | service => "services"

/-- A kind is known by its name. -/
theorem ofName?_name (k : Kind) : ofName? k.name = some k := by
  cases k <;> decide

/-- The rank tells the kinds apart. -/
theorem rank_inj {k l : Kind} (h : k.rank = l.rank) : k = l := by
  cases k <;> cases l <;> first | rfl | cases h

instance : Ord Kind := ⟨compareOn rank⟩

instance : Std.TransOrd Kind := inferInstanceAs (Std.TransCmp (compareOn rank))

instance : Std.LawfulEqOrd Kind where
  eq_of_compare {a b} h := by
    change compare a.rank b.rank = .eq at h
    exact rank_inj (Std.LawfulEqCmp.eq_of_compare h)

end Kind

/-! ## Identities -/

/-- The identity of an object.  Cluster-scoped objects have no namespace. -/
structure Id where
  kind : Kind
  name : String
  ns : Option String
deriving DecidableEq, Inhabited

namespace Id

def inNamespace (kind : Kind) (name ns : String) : Id :=
  ⟨kind, name, some ns⟩

def ofCluster (kind : Kind) (name : String) : Id :=
  ⟨kind, name, none⟩

/-- How messages show an identity. -/
def display (id : Id) : String :=
  match id.ns with
  | some ns => id.kind.name ++ " " ++ ns ++ "/" ++ id.name
  | none => id.kind.name ++ " " ++ id.name

/-- By kind, then name, then namespace. -/
def order : Id → Id → Ordering :=
  compareLex (compareOn kind) (compareLex (compareOn name) (compareOn ns))

instance : Ord Id := ⟨order⟩

instance : Std.TransOrd Id := inferInstanceAs (Std.TransCmp (compareLex _ _))

instance : Std.LawfulEqOrd Id where
  eq_of_compare {a b} h := by
    change order a b = .eq at h
    simp only [order, compareLex_eq_eq, compareOn] at h
    obtain ⟨hk, hn, hs⟩ := h
    cases a
    cases b
    rw [Id.mk.injEq]
    exact ⟨Std.LawfulEqCmp.eq_of_compare hk, Std.LawfulEqCmp.eq_of_compare hn,
      Std.LawfulEqCmp.eq_of_compare hs⟩

end Id

end LogOperator
