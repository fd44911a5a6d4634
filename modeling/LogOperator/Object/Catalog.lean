import LogOperator.Object.Shape

/-!
# LogOperator.Object.Catalog

The shapes of cluster objects as version 1.30 of the cluster API has them, less the members that have
types of their own in this library.  Members stand in alphabetical order.

`…Rest` is what an object holds besides the members that a type of this library has fields for.
-/

namespace LogOperator.Shape

/-! ## Selectors, references and metadata -/

def selectorRest : List (String × Bool × Shape) :=
  [may "matchExpressions"
    (.list (.object [must "key" .text, must "operator" .text, may "values" texts]))]

def selector : Shape :=
  .object (selectorRest ++ [may "matchLabels" textMap])

/-- A reference to an object of a known kind in the same namespace. -/
def localReference : Shape :=
  .object [must "name" .text]

/-- A reference to any object. -/
def objectReference : Shape :=
  .object (["apiVersion", "fieldPath", "kind", "name", "namespace", "resourceVersion", "uid"].map
    (may · .text))

/-- Metadata besides what identifies, labels and owns an object. -/
def metadataRest : List (String × Bool × Shape) :=
  [may "creationTimestamp" .time,
   may "deletionGracePeriodSeconds" .int64,
   may "deletionTimestamp" .time,
   may "finalizers" texts,
   may "generation" .int64,
   may "managedFields" (.list (.object
     [may "apiVersion" .text, may "fieldsType" .text, may "fieldsV1" .any, may "manager" .text,
      may "operation" .text, may "subresource" .text, may "time" .time])),
   may "selfLink" .text]

/-! ## Containers -/

def nameValue : Shape :=
  .object [must "name" .text, must "value" .text]

def httpGet : Shape :=
  .object [may "host" .text, may "httpHeaders" (.list nameValue), may "path" .text,
    must "port" .intOrText, may "scheme" .text]

def exec : Shape :=
  .object [may "command" texts]

def tcpSocket : Shape :=
  .object [may "host" .text, must "port" .intOrText]

def probe : Shape :=
  .object
    [may "exec" exec,
     may "failureThreshold" .int32,
     may "grpc" (.object [must "port" .int32, may "service" .text]),
     may "httpGet" httpGet,
     may "initialDelaySeconds" .int32,
     may "periodSeconds" .int32,
     may "successThreshold" .int32,
     may "tcpSocket" tcpSocket,
     may "terminationGracePeriodSeconds" .int64,
     may "timeoutSeconds" .int32]

/-- What is done at a point of a container's life. -/
def lifecycleHandler : Shape :=
  .object [may "exec" exec, may "httpGet" httpGet,
    may "sleep" (.object [must "seconds" .int64]), may "tcpSocket" tcpSocket]

/-- A profile that confines processes. -/
def profile : Shape :=
  .object [may "localhostProfile" .text, must "type" .text]

/-- Labels that confine processes. -/
def seLinuxOptions : Shape :=
  .object (["level", "role", "type", "user"].map (may · .text))

/-- Options of processes on another operating system. -/
def windowsOptions : Shape :=
  .object [may "gmsaCredentialSpec" .text, may "gmsaCredentialSpecName" .text,
    may "hostProcess" .flag, may "runAsUserName" .text]

def securityContext : Shape :=
  .object
    [may "allowPrivilegeEscalation" .flag,
     may "appArmorProfile" profile,
     may "capabilities" (.object [may "add" texts, may "drop" texts]),
     may "privileged" .flag,
     may "procMount" .text,
     may "readOnlyRootFilesystem" .flag,
     may "runAsGroup" .int64,
     may "runAsNonRoot" .flag,
     may "runAsUser" .int64,
     may "seLinuxOptions" seLinuxOptions,
     may "seccompProfile" profile,
     may "windowsOptions" windowsOptions]

def resourceAmounts : List (String × Bool × Shape) :=
  [may "limits" textMap, may "requests" textMap]

/-- A key of an object of configuration. -/
def keySelector : Shape :=
  .object [must "key" .text, must "name" .text, may "optional" .flag]

/-- A member of the pod itself. -/
def fieldSelector : Shape :=
  .object [may "apiVersion" .text, must "fieldPath" .text]

/-- An amount of resources of a container. -/
def resourceFieldSelector : Shape :=
  .object [may "containerName" .text, may "divisor" .text, must "resource" .text]

def envRest : List (String × Bool × Shape) :=
  [may "valueFrom" (.object
    [may "configMapKeyRef" keySelector, may "fieldRef" fieldSelector,
     may "resourceFieldRef" resourceFieldSelector, may "secretKeyRef" keySelector])]

def containerPortRest : List (String × Bool × Shape) :=
  [may "hostIP" .text, may "hostPort" .int32, may "name" .text, may "protocol" .text]

def volumeMountRest : List (String × Bool × Shape) :=
  [may "mountPropagation" .text, may "recursiveReadOnly" .text, may "subPathExpr" .text]

/-- What a container holds besides its name, image, ports, environment and mounts. -/
def containerRest : List (String × Bool × Shape) :=
  let source := Shape.object [must "name" .text, may "optional" .flag]
  [may "args" texts,
   may "command" texts,
   may "envFrom" (.list (.object
     [may "configMapRef" source, may "prefix" .text, may "secretRef" source])),
   may "imagePullPolicy" .text,
   may "lifecycle" (.object [may "postStart" lifecycleHandler, may "preStop" lifecycleHandler]),
   may "livenessProbe" probe,
   may "readinessProbe" probe,
   may "resizePolicy" (.list (.object [must "resourceName" .text, must "restartPolicy" .text])),
   may "resources" (.object (may "claims" (.list localReference) :: resourceAmounts)),
   may "restartPolicy" .text,
   may "securityContext" securityContext,
   may "startupProbe" probe,
   may "stdin" .flag,
   may "stdinOnce" .flag,
   may "terminationMessagePath" .text,
   may "terminationMessagePolicy" .text,
   may "tty" .flag,
   may "volumeDevices" (.list (.object [must "devicePath" .text, must "name" .text])),
   may "workingDir" .text]

def container : List (String × Bool × Shape) :=
  containerRest ++
    [may "env" (.list (.object (must "name" .text :: may "value" .text :: envRest))),
     may "image" .text,
     must "name" .text,
     may "ports" (.list (.object (must "containerPort" .int32 :: containerPortRest))),
     may "volumeMounts" (.list (.object
       ([must "mountPath" .text, must "name" .text, may "readOnly" .flag, may "subPath" .text]
         ++ volumeMountRest)))]

/-! ## Volumes -/

/-- Keys that become files. -/
def keyFiles : Shape :=
  .list (.object [must "key" .text, may "mode" .int32, must "path" .text])

/-- Members of the pod that become files. -/
def downwardFiles : Shape :=
  .list (.object [may "fieldRef" fieldSelector, may "mode" .int32, must "path" .text,
    may "resourceFieldRef" resourceFieldSelector])

def configMapVolumeRest : List (String × Bool × Shape) :=
  [may "defaultMode" .int32, may "items" keyFiles, may "optional" .flag]

def hostPathRest : List (String × Bool × Shape) :=
  [may "type" .text]

/-- A claim on storage. -/
def claimSpec : Shape :=
  .object
    [may "accessModes" texts,
     may "dataSource" (.object [may "apiGroup" .text, must "kind" .text, must "name" .text]),
     may "dataSourceRef" (.object
       [may "apiGroup" .text, must "kind" .text, must "name" .text, may "namespace" .text]),
     may "resources" (.object resourceAmounts),
     may "selector" selector,
     may "storageClassName" .text,
     may "volumeAttributesClassName" .text,
     may "volumeMode" .text,
     may "volumeName" .text]

/-- What is gathered into one volume. -/
def projection : Shape :=
  .object
    [may "clusterTrustBundle" (.object
       [may "labelSelector" selector, may "name" .text, may "optional" .flag, must "path" .text,
        may "signerName" .text]),
     may "configMap" (.object [may "items" keyFiles, must "name" .text, may "optional" .flag]),
     may "downwardAPI" (.object [may "items" downwardFiles]),
     may "secret" (.object [may "items" keyFiles, must "name" .text, may "optional" .flag]),
     may "serviceAccountToken" (.object
       [may "audience" .text, may "expirationSeconds" .int64, must "path" .text])]

def metadata : Shape :=
  .object (metadataRest ++
    [may "annotations" textMap, may "generateName" .text, may "labels" textMap, may "name" .text,
     may "namespace" .text,
     may "ownerReferences" (.list (.object
       [must "apiVersion" .text, may "blockOwnerDeletion" .flag, may "controller" .flag,
        must "kind" .text, must "name" .text, must "uid" .text])),
     may "resourceVersion" .text, may "uid" .text])

def volumeRest : List (String × Bool × Shape) :=
  [may "awsElasticBlockStore" (.object
     [may "fsType" .text, may "partition" .int32, may "readOnly" .flag, must "volumeID" .text]),
   may "azureDisk" (.object
     [may "cachingMode" .text, must "diskName" .text, must "diskURI" .text, may "fsType" .text,
      may "kind" .text, may "readOnly" .flag]),
   may "azureFile" (.object
     [may "readOnly" .flag, must "secretName" .text, must "shareName" .text]),
   may "cephfs" (.object
     [must "monitors" texts, may "path" .text, may "readOnly" .flag, may "secretFile" .text,
      may "secretRef" localReference, may "user" .text]),
   may "cinder" (.object
     [may "fsType" .text, may "readOnly" .flag, may "secretRef" localReference,
      must "volumeID" .text]),
   may "csi" (.object
     [must "driver" .text, may "fsType" .text, may "nodePublishSecretRef" localReference,
      may "readOnly" .flag, may "volumeAttributes" textMap]),
   may "downwardAPI" (.object [may "defaultMode" .int32, may "items" downwardFiles]),
   may "emptyDir" (.object [may "medium" .text, may "sizeLimit" .text]),
   may "ephemeral" (.object
     [may "volumeClaimTemplate" (.object [may "metadata" metadata, must "spec" claimSpec])]),
   may "fc" (.object
     [may "fsType" .text, may "lun" .int32, may "readOnly" .flag, may "targetWWNs" texts,
      may "wwids" texts]),
   may "flexVolume" (.object
     [must "driver" .text, may "fsType" .text, may "options" textMap, may "readOnly" .flag,
      may "secretRef" localReference]),
   may "flocker" (.object [may "datasetName" .text, may "datasetUUID" .text]),
   may "gcePersistentDisk" (.object
     [may "fsType" .text, may "partition" .int32, must "pdName" .text, may "readOnly" .flag]),
   may "gitRepo" (.object [may "directory" .text, must "repository" .text, may "revision" .text]),
   may "glusterfs" (.object [must "endpoints" .text, must "path" .text, may "readOnly" .flag]),
   may "iscsi" (.object
     [may "chapAuthDiscovery" .flag, may "chapAuthSession" .flag, may "fsType" .text,
      may "initiatorName" .text, must "iqn" .text, may "iscsiInterface" .text, must "lun" .int32,
      may "portals" texts, may "readOnly" .flag, may "secretRef" localReference,
      must "targetPortal" .text]),
   may "nfs" (.object [must "path" .text, may "readOnly" .flag, must "server" .text]),
   may "persistentVolumeClaim" (.object [must "claimName" .text, may "readOnly" .flag]),
   may "photonPersistentDisk" (.object [may "fsType" .text, must "pdID" .text]),
   may "portworxVolume" (.object
     [may "fsType" .text, may "readOnly" .flag, must "volumeID" .text]),
   may "projected" (.object [may "defaultMode" .int32, may "sources" (.list projection)]),
   may "quobyte" (.object
     [may "group" .text, may "readOnly" .flag, must "registry" .text, may "tenant" .text,
      may "user" .text, must "volume" .text]),
   may "rbd" (.object
     [may "fsType" .text, must "image" .text, may "keyring" .text, must "monitors" texts,
      may "pool" .text, may "readOnly" .flag, may "secretRef" localReference, may "user" .text]),
   may "scaleIO" (.object
     [may "fsType" .text, must "gateway" .text, may "protectionDomain" .text, may "readOnly" .flag,
      must "secretRef" localReference, may "sslEnabled" .flag, may "storageMode" .text,
      may "storagePool" .text, must "system" .text, may "volumeName" .text]),
   may "secret" (.object
     [may "defaultMode" .int32, may "items" keyFiles, may "optional" .flag,
      may "secretName" .text]),
   may "storageos" (.object
     [may "fsType" .text, may "readOnly" .flag, may "secretRef" localReference,
      may "volumeName" .text, may "volumeNamespace" .text]),
   may "vsphereVolume" (.object
     [may "fsType" .text, may "storagePolicyID" .text, may "storagePolicyName" .text,
      must "volumePath" .text])]

/-! ## Pods -/

/-- Conditions on a node. -/
def nodeTerm : Shape :=
  let requirements := Shape.list (.object
    [must "key" .text, must "operator" .text, may "values" texts])
  .object [may "matchExpressions" requirements, may "matchFields" requirements]

/-- Conditions on the pods nearby. -/
def podTerm : Shape :=
  .object
    [may "labelSelector" selector, may "matchLabelKeys" texts, may "mismatchLabelKeys" texts,
     may "namespaceSelector" selector, may "namespaces" texts, must "topologyKey" .text]

def podAffinity : Shape :=
  .object
    [may "preferredDuringSchedulingIgnoredDuringExecution"
       (.list (.object [must "podAffinityTerm" podTerm, must "weight" .int32])),
     may "requiredDuringSchedulingIgnoredDuringExecution" (.list podTerm)]

/-- Where a pod may run. -/
def affinity : Shape :=
  .object
    [may "nodeAffinity" (.object
       [may "preferredDuringSchedulingIgnoredDuringExecution"
          (.list (.object [must "preference" nodeTerm, must "weight" .int32])),
        may "requiredDuringSchedulingIgnoredDuringExecution"
          (.object [must "nodeSelectorTerms" (.list nodeTerm)])]),
     may "podAffinity" podAffinity,
     may "podAntiAffinity" podAffinity]

/-- A taint of nodes that a pod accepts. -/
def toleration : Shape :=
  .object
    [may "effect" .text, may "key" .text, may "operator" .text, may "tolerationSeconds" .int64,
     may "value" .text]

def podRest : List (String × Bool × Shape) :=
  [may "activeDeadlineSeconds" .int64,
   may "affinity" affinity,
   may "automountServiceAccountToken" .flag,
   may "dnsConfig" (.object
     [may "nameservers" texts,
      may "options" (.list (.object [may "name" .text, may "value" .text])),
      may "searches" texts]),
   may "dnsPolicy" .text,
   may "enableServiceLinks" .flag,
   may "ephemeralContainers" (.list (.object (container ++ [may "targetContainerName" .text]))),
   may "hostAliases" (.list (.object [may "hostnames" texts, must "ip" .text])),
   may "hostIPC" .flag,
   may "hostNetwork" .flag,
   may "hostPID" .flag,
   may "hostUsers" .flag,
   may "hostname" .text,
   may "imagePullSecrets" (.list localReference),
   may "initContainers" (.list (.object container)),
   may "nodeName" .text,
   may "nodeSelector" textMap,
   may "os" localReference,
   may "overhead" textMap,
   may "preemptionPolicy" .text,
   may "priority" .int32,
   may "priorityClassName" .text,
   may "readinessGates" (.list (.object [must "conditionType" .text])),
   may "resourceClaims" (.list (.object
     [must "name" .text,
      may "source" (.object
        [may "resourceClaimName" .text, may "resourceClaimTemplateName" .text])])),
   may "restartPolicy" .text,
   may "runtimeClassName" .text,
   may "schedulerName" .text,
   may "schedulingGates" (.list localReference),
   may "securityContext" (.object
     [may "appArmorProfile" profile,
      may "fsGroup" .int64,
      may "fsGroupChangePolicy" .text,
      may "runAsGroup" .int64,
      may "runAsNonRoot" .flag,
      may "runAsUser" .int64,
      may "seLinuxOptions" seLinuxOptions,
      may "seccompProfile" profile,
      may "supplementalGroups" (.list .int64),
      may "sysctls" (.list nameValue),
      may "windowsOptions" windowsOptions]),
   may "serviceAccount" .text,
   may "setHostnameAsFQDN" .flag,
   may "shareProcessNamespace" .flag,
   may "subdomain" .text,
   may "terminationGracePeriodSeconds" .int64,
   may "tolerations" (.list toleration),
   may "topologySpreadConstraints" (.list (.object
     [may "labelSelector" selector, may "matchLabelKeys" texts, must "maxSkew" .int32,
      may "minDomains" .int32, may "nodeAffinityPolicy" .text, may "nodeTaintsPolicy" .text,
      must "topologyKey" .text, must "whenUnsatisfiable" .text]))]

/-! ## Workloads -/

def rollingUpdate : Shape :=
  .object [may "maxSurge" .intOrText, may "maxUnavailable" .intOrText]

def daemonSetSpecRest : List (String × Bool × Shape) :=
  [may "minReadySeconds" .int32,
   may "revisionHistoryLimit" .int32,
   may "updateStrategy" (.object [may "rollingUpdate" rollingUpdate, may "type" .text])]

def deploymentSpecRest : List (String × Bool × Shape) :=
  [may "minReadySeconds" .int32,
   may "paused" .flag,
   may "progressDeadlineSeconds" .int32,
   may "revisionHistoryLimit" .int32,
   may "strategy" (.object [may "rollingUpdate" rollingUpdate, may "type" .text])]

def condition (more : List (String × Bool × Shape)) : Shape :=
  .object (more ++
    [may "lastTransitionTime" .time, may "message" .text, may "reason" .text, must "status" .text,
     must "type" .text])

def daemonSetRest : List (String × Bool × Shape) :=
  [may "status" (.object
    [may "collisionCount" .int32, may "conditions" (.list (condition [])),
     must "currentNumberScheduled" .int32, must "desiredNumberScheduled" .int32,
     may "numberAvailable" .int32, must "numberMisscheduled" .int32, must "numberReady" .int32,
     may "numberUnavailable" .int32, may "observedGeneration" .int64,
     may "updatedNumberScheduled" .int32])]

def deploymentRest : List (String × Bool × Shape) :=
  [may "status" (.object
    [may "availableReplicas" .int32, may "collisionCount" .int32,
     may "conditions" (.list (condition [may "lastUpdateTime" .time])),
     may "observedGeneration" .int64, may "readyReplicas" .int32, may "replicas" .int32,
     may "unavailableReplicas" .int32, may "updatedReplicas" .int32])]

/-! ## The other kinds -/

def serviceAccountRest : List (String × Bool × Shape) :=
  [may "automountServiceAccountToken" .flag,
   may "imagePullSecrets" (.list localReference),
   may "secrets" (.list objectReference)]

def policyRuleRest : List (String × Bool × Shape) :=
  [may "nonResourceURLs" texts, may "resourceNames" texts]

def clusterRoleRest : List (String × Bool × Shape) :=
  [may "aggregationRule" (.object [may "clusterRoleSelectors" (.list selector)])]

def configMapRest : List (String × Bool × Shape) :=
  [may "binaryData" (.map .bytes), may "immutable" .flag]

def servicePortRest : List (String × Bool × Shape) :=
  [may "appProtocol" .text, may "nodePort" .int32, may "protocol" .text]

def serviceSpecRest : List (String × Bool × Shape) :=
  [may "allocateLoadBalancerNodePorts" .flag,
   may "clusterIPs" texts,
   may "externalIPs" texts,
   may "externalName" .text,
   may "externalTrafficPolicy" .text,
   may "healthCheckNodePort" .int32,
   may "internalTrafficPolicy" .text,
   may "ipFamilies" texts,
   may "ipFamilyPolicy" .text,
   may "loadBalancerClass" .text,
   may "loadBalancerIP" .text,
   may "loadBalancerSourceRanges" texts,
   may "publishNotReadyAddresses" .flag,
   may "sessionAffinity" .text,
   may "sessionAffinityConfig" (.object
     [may "clientIP" (.object [may "timeoutSeconds" .int32])]),
   may "trafficDistribution" .text]

def serviceRest : List (String × Bool × Shape) :=
  [may "status" (.object
    [may "conditions" (.list (.object
       [must "lastTransitionTime" .time, must "message" .text, may "observedGeneration" .int64,
        must "reason" .text, must "status" .text, must "type" .text])),
     may "loadBalancer" (.object
       [may "ingress" (.list (.object
         [may "hostname" .text, may "ip" .text, may "ipMode" .text,
          may "ports" (.list (.object
            [may "error" .text, must "port" .int32, must "protocol" .text]))]))])])]

end LogOperator.Shape
