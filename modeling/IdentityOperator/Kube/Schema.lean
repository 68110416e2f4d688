import IdentityOperator.Kube.Shape

/-!
The shapes of Kubernetes 1.30 for everything below the parts that the operator models itself.

A field list named `...Others` holds the fields of a kind that are carried along beside its modelled
ones.
-/

namespace IdentityOperator.Schema

open Shape

/-! ## Metadata and selectors -/

def managedFieldsEntry : Shape := object "ManagedFieldsEntry" [
  opt "apiVersion" text, opt "fieldsType" text, opt "fieldsV1" anything, opt "manager" text,
  opt "operation" text, opt "subresource" text, opt "time" time]

def metaOthers : List (String × Bool × Shape) := [
  opt "creationTimestamp" time, opt "deletionGracePeriodSeconds" int64,
  opt "managedFields" (list managedFieldsEntry), opt "selfLink" text]

def ownerReference : Shape := object "OwnerReference" [
  req "apiVersion" text, opt "blockOwnerDeletion" bool, opt "controller" bool, req "kind" text,
  req "name" text, req "uid" text]

def metadata : Shape := object "ObjectMeta" ([
  opt "annotations" (map text), opt "deletionTimestamp" time, opt "finalizers" (list text),
  opt "generateName" text, opt "generation" int64, opt "labels" (map text), opt "name" text,
  opt "namespace" text, opt "ownerReferences" (list ownerReference), opt "resourceVersion" text,
  opt "uid" text] ++ metaOthers)

def selectorRequirement (typeName : String) : Shape := object typeName [
  req "key" text, req "operator" text, opt "values" (list text)]

def selectorOthers : List (String × Bool × Shape) := [
  opt "matchExpressions" (list (selectorRequirement "LabelSelectorRequirement"))]

def labelSelector : Shape := object "LabelSelector" (opt "matchLabels" (map text) :: selectorOthers)

def condition : Shape := object "Condition" [
  req "lastTransitionTime" time, req "message" text, opt "observedGeneration" int64,
  req "reason" text, req "status" text, req "type" text]

/-! ## Services -/

def servicePortOthers : List (String × Bool × Shape) := [
  opt "appProtocol" text, opt "nodePort" int32]

def serviceSpecOthers : List (String × Bool × Shape) := [
  opt "allocateLoadBalancerNodePorts" bool, opt "clusterIPs" (list text),
  opt "externalIPs" (list text), opt "externalName" text, opt "externalTrafficPolicy" text,
  opt "healthCheckNodePort" int32, opt "internalTrafficPolicy" text, opt "ipFamilies" (list text),
  opt "ipFamilyPolicy" text, opt "loadBalancerClass" text, opt "loadBalancerIP" text,
  opt "loadBalancerSourceRanges" (list text), opt "sessionAffinity" text,
  opt "sessionAffinityConfig" (object "SessionAffinityConfig" [
    opt "clientIP" (object "ClientIPConfig" [opt "timeoutSeconds" int32])]),
  opt "trafficDistribution" text]

def portStatus (typeName : String) : Shape := object typeName [
  opt "error" text, req "port" int32, req "protocol" text]

def serviceStatus : Shape := object "ServiceStatus" [
  opt "conditions" (list condition),
  opt "loadBalancer" (object "LoadBalancerStatus" [
    opt "ingress" (list (object "LoadBalancerIngress" [
      opt "hostname" text, opt "ip" text, opt "ipMode" text,
      opt "ports" (list (portStatus "PortStatus"))]))])]

/-! ## Volume claims -/

def volumeResources : Shape := object "VolumeResourceRequirements" [
  opt "limits" (map text), opt "requests" (map text)]

def typedLocalReference : Shape := object "TypedLocalObjectReference" [
  opt "apiGroup" text, req "kind" text, req "name" text]

def claimSpecOthers : List (String × Bool × Shape) := [
  opt "dataSource" typedLocalReference,
  opt "dataSourceRef" (object "TypedObjectReference" [
    opt "apiGroup" text, req "kind" text, req "name" text, opt "namespace" text]),
  opt "selector" labelSelector, opt "storageClassName" text, opt "volumeAttributesClassName" text,
  opt "volumeMode" text, opt "volumeName" text]

def claimSpec : Shape := object "PersistentVolumeClaimSpec" ([
  opt "accessModes" (list text), opt "resources" volumeResources] ++ claimSpecOthers)

def claimStatus : Shape := object "PersistentVolumeClaimStatus" [
  opt "accessModes" (list text), opt "allocatedResourceStatuses" (map text),
  opt "allocatedResources" (map text), opt "capacity" (map text),
  opt "conditions" (list (object "PersistentVolumeClaimCondition" [
    opt "lastProbeTime" time, opt "lastTransitionTime" time, opt "message" text, opt "reason" text,
    req "status" text, req "type" text])),
  opt "currentVolumeAttributesClassName" text,
  opt "modifyVolumeStatus" (object "ModifyVolumeStatus" [
    req "status" text, opt "targetVolumeAttributesClassName" text]),
  opt "phase" text]

def volumeClaim : Shape := resource "v1" "PersistentVolumeClaim" [
  req "metadata" metadata, opt "spec" claimSpec, opt "status" claimStatus]

/-! ## Containers -/

def keyReference (typeName : String) : Shape := object typeName [
  req "key" text, req "name" text, opt "optional" bool]

def fieldReference : Shape := object "ObjectFieldSelector" [
  opt "apiVersion" text, req "fieldPath" text]

def resourceFieldReference : Shape := object "ResourceFieldSelector" [
  opt "containerName" text, opt "divisor" text, req "resource" text]

def envSourceOthers : List (String × Bool × Shape) := [
  opt "configMapKeyRef" (keyReference "ConfigMapKeySelector"), opt "fieldRef" fieldReference,
  opt "resourceFieldRef" resourceFieldReference]

def environmentReference (typeName : String) : Shape := object typeName [
  req "name" text, opt "optional" bool]

def environmentSource : Shape := object "EnvFromSource" [
  opt "configMapRef" (environmentReference "ConfigMapEnvSource"), opt "prefix" text,
  opt "secretRef" (environmentReference "SecretEnvSource")]

def execAction : Shape := object "ExecAction" [opt "command" (list text)]

def httpGetAction : Shape := object "HTTPGetAction" [
  opt "host" text,
  opt "httpHeaders" (list (object "HTTPHeader" [req "name" text, req "value" text])),
  opt "path" text, req "port" intOrText, opt "scheme" text]

def tcpSocketAction : Shape := object "TCPSocketAction" [opt "host" text, req "port" intOrText]

def probeOthers : List (String × Bool × Shape) := [
  opt "grpc" (object "GRPCAction" [req "port" int32, opt "service" text]),
  opt "httpGet" httpGetAction, opt "successThreshold" int32,
  opt "terminationGracePeriodSeconds" int64]

def probe : Shape := object "Probe" ([
  opt "exec" execAction, opt "failureThreshold" int32, opt "initialDelaySeconds" int32,
  opt "periodSeconds" int32, opt "tcpSocket" tcpSocketAction,
  opt "timeoutSeconds" int32] ++ probeOthers)

def lifecycleHandler : Shape := object "LifecycleHandler" [
  opt "exec" execAction, opt "httpGet" httpGetAction,
  opt "sleep" (object "SleepAction" [req "seconds" int64]), opt "tcpSocket" tcpSocketAction]

def profile (typeName : String) : Shape := object typeName [
  opt "localhostProfile" text, req "type" text]

def seLinuxOptions : Shape := object "SELinuxOptions" [
  opt "level" text, opt "role" text, opt "type" text, opt "user" text]

def windowsOptions : Shape := object "WindowsSecurityContextOptions" [
  opt "gmsaCredentialSpec" text, opt "gmsaCredentialSpecName" text, opt "hostProcess" bool,
  opt "runAsUserName" text]

def securityContext : Shape := object "SecurityContext" [
  opt "allowPrivilegeEscalation" bool, opt "appArmorProfile" (profile "AppArmorProfile"),
  opt "capabilities" (object "Capabilities" [opt "add" (list text), opt "drop" (list text)]),
  opt "privileged" bool, opt "procMount" text, opt "readOnlyRootFilesystem" bool,
  opt "runAsGroup" int64, opt "runAsNonRoot" bool, opt "runAsUser" int64,
  opt "seLinuxOptions" seLinuxOptions, opt "seccompProfile" (profile "SeccompProfile"),
  opt "windowsOptions" windowsOptions]

def resourceClaims : Shape := list (object "ResourceClaim" [req "name" text])

def volumeMountOthers : List (String × Bool × Shape) := [
  opt "mountPropagation" text, opt "readOnly" bool, opt "recursiveReadOnly" text,
  opt "subPath" text, opt "subPathExpr" text]

def containerPortOthers : List (String × Bool × Shape) := [opt "hostIP" text, opt "hostPort" int32]

def containerOthers : List (String × Bool × Shape) := [
  opt "args" (list text), opt "command" (list text), opt "envFrom" (list environmentSource),
  opt "lifecycle" (object "Lifecycle" [
    opt "postStart" lifecycleHandler, opt "preStop" lifecycleHandler]),
  opt "resizePolicy" (list (object "ContainerResizePolicy" [
    req "resourceName" text, req "restartPolicy" text])),
  opt "restartPolicy" text, opt "securityContext" securityContext, opt "startupProbe" probe,
  opt "stdin" bool, opt "stdinOnce" bool, opt "terminationMessagePath" text,
  opt "terminationMessagePolicy" text, opt "tty" bool,
  opt "volumeDevices" (list (object "VolumeDevice" [req "devicePath" text, req "name" text])),
  opt "workingDir" text]

def envVar : Shape := object "EnvVar" [
  req "name" text, opt "value" text,
  opt "valueFrom" (object "EnvVarSource"
    (opt "secretKeyRef" (keyReference "SecretKeySelector") :: envSourceOthers))]

def ephemeralContainer : Shape := object "EphemeralContainer" ([
  opt "env" (list envVar), opt "image" text, opt "imagePullPolicy" text, opt "livenessProbe" probe,
  req "name" text,
  opt "ports" (list (object "ContainerPort" ([
    req "containerPort" int32, opt "name" text, opt "protocol" text] ++ containerPortOthers))),
  opt "readinessProbe" probe,
  opt "resources" (object "ResourceRequirements" [
    opt "claims" resourceClaims, opt "limits" (map text), opt "requests" (map text)]),
  opt "targetContainerName" text,
  opt "volumeMounts" (list (object "VolumeMount" ([
    req "mountPath" text, req "name" text] ++ volumeMountOthers)))] ++ containerOthers)

/-! ## Volumes -/

def localReference : Shape := object "LocalObjectReference" [req "name" text]

def keyToPath : Shape := object "KeyToPath" [req "key" text, opt "mode" int32, req "path" text]

def downwardFile : Shape := object "DownwardAPIVolumeFile" [
  opt "fieldRef" fieldReference, opt "mode" int32, req "path" text,
  opt "resourceFieldRef" resourceFieldReference]

def projection : Shape := object "VolumeProjection" [
  opt "clusterTrustBundle" (object "ClusterTrustBundleProjection" [
    opt "labelSelector" labelSelector, opt "name" text, opt "optional" bool, req "path" text,
    opt "signerName" text]),
  opt "configMap" (object "ConfigMapProjection" [
    opt "items" (list keyToPath), req "name" text, opt "optional" bool]),
  opt "downwardAPI" (object "DownwardAPIProjection" [opt "items" (list downwardFile)]),
  opt "secret" (object "SecretProjection" [
    opt "items" (list keyToPath), req "name" text, opt "optional" bool]),
  opt "serviceAccountToken" (object "ServiceAccountTokenProjection" [
    opt "audience" text, opt "expirationSeconds" int64, req "path" text])]

def configMapVolumeOthers : List (String × Bool × Shape) := [opt "items" (list keyToPath)]

def secretVolumeOthers : List (String × Bool × Shape) := [
  opt "defaultMode" int32, opt "items" (list keyToPath)]

def volumeOthers : List (String × Bool × Shape) := [
  opt "awsElasticBlockStore" (object "AWSElasticBlockStoreVolumeSource" [
    opt "fsType" text, opt "partition" int32, opt "readOnly" bool, req "volumeID" text]),
  opt "azureDisk" (object "AzureDiskVolumeSource" [
    opt "cachingMode" text, req "diskName" text, req "diskURI" text, opt "fsType" text,
    opt "kind" text, opt "readOnly" bool]),
  opt "azureFile" (object "AzureFileVolumeSource" [
    opt "readOnly" bool, req "secretName" text, req "shareName" text]),
  opt "cephfs" (object "CephFSVolumeSource" [
    req "monitors" (list text), opt "path" text, opt "readOnly" bool, opt "secretFile" text,
    opt "secretRef" localReference, opt "user" text]),
  opt "cinder" (object "CinderVolumeSource" [
    opt "fsType" text, opt "readOnly" bool, opt "secretRef" localReference, req "volumeID" text]),
  opt "csi" (object "CSIVolumeSource" [
    req "driver" text, opt "fsType" text, opt "nodePublishSecretRef" localReference,
    opt "readOnly" bool, opt "volumeAttributes" (map text)]),
  opt "downwardAPI" (object "DownwardAPIVolumeSource" [
    opt "defaultMode" int32, opt "items" (list downwardFile)]),
  opt "ephemeral" (object "EphemeralVolumeSource" [
    opt "volumeClaimTemplate" (object "PersistentVolumeClaimTemplate" [
      opt "metadata" metadata, req "spec" claimSpec])]),
  opt "fc" (object "FCVolumeSource" [
    opt "fsType" text, opt "lun" int32, opt "readOnly" bool, opt "targetWWNs" (list text),
    opt "wwids" (list text)]),
  opt "flexVolume" (object "FlexVolumeSource" [
    req "driver" text, opt "fsType" text, opt "options" (map text), opt "readOnly" bool,
    opt "secretRef" localReference]),
  opt "flocker" (object "FlockerVolumeSource" [opt "datasetName" text, opt "datasetUUID" text]),
  opt "gcePersistentDisk" (object "GCEPersistentDiskVolumeSource" [
    opt "fsType" text, opt "partition" int32, req "pdName" text, opt "readOnly" bool]),
  opt "gitRepo" (object "GitRepoVolumeSource" [
    opt "directory" text, req "repository" text, opt "revision" text]),
  opt "glusterfs" (object "GlusterfsVolumeSource" [
    req "endpoints" text, req "path" text, opt "readOnly" bool]),
  opt "hostPath" (object "HostPathVolumeSource" [req "path" text, opt "type" text]),
  opt "iscsi" (object "ISCSIVolumeSource" [
    opt "chapAuthDiscovery" bool, opt "chapAuthSession" bool, opt "fsType" text,
    opt "initiatorName" text, req "iqn" text, opt "iscsiInterface" text, req "lun" int32,
    opt "portals" (list text), opt "readOnly" bool, opt "secretRef" localReference,
    req "targetPortal" text]),
  opt "nfs" (object "NFSVolumeSource" [req "path" text, opt "readOnly" bool, req "server" text]),
  opt "photonPersistentDisk" (object "PhotonPersistentDiskVolumeSource" [
    opt "fsType" text, req "pdID" text]),
  opt "portworxVolume" (object "PortworxVolumeSource" [
    opt "fsType" text, opt "readOnly" bool, req "volumeID" text]),
  opt "projected" (object "ProjectedVolumeSource" [
    opt "defaultMode" int32, opt "sources" (list projection)]),
  opt "quobyte" (object "QuobyteVolumeSource" [
    opt "group" text, opt "readOnly" bool, req "registry" text, opt "tenant" text, opt "user" text,
    req "volume" text]),
  opt "rbd" (object "RBDVolumeSource" [
    opt "fsType" text, req "image" text, opt "keyring" text, req "monitors" (list text),
    opt "pool" text, opt "readOnly" bool, opt "secretRef" localReference, opt "user" text]),
  opt "scaleIO" (object "ScaleIOVolumeSource" [
    opt "fsType" text, req "gateway" text, opt "protectionDomain" text, opt "readOnly" bool,
    req "secretRef" localReference, opt "sslEnabled" bool, opt "storageMode" text,
    opt "storagePool" text, req "system" text, opt "volumeName" text]),
  opt "storageos" (object "StorageOSVolumeSource" [
    opt "fsType" text, opt "readOnly" bool, opt "secretRef" localReference, opt "volumeName" text,
    opt "volumeNamespace" text]),
  opt "vsphereVolume" (object "VsphereVirtualDiskVolumeSource" [
    opt "fsType" text, opt "storagePolicyID" text, opt "storagePolicyName" text,
    req "volumePath" text])]

/-! ## Pods -/

def nodeSelectorTerm : Shape := object "NodeSelectorTerm" [
  opt "matchExpressions" (list (selectorRequirement "NodeSelectorRequirement")),
  opt "matchFields" (list (selectorRequirement "NodeSelectorRequirement"))]

def podAffinityTerm : Shape := object "PodAffinityTerm" [
  opt "labelSelector" labelSelector, opt "matchLabelKeys" (list text),
  opt "mismatchLabelKeys" (list text), opt "namespaceSelector" labelSelector,
  opt "namespaces" (list text), req "topologyKey" text]

def podAffinity (typeName : String) : Shape := object typeName [
  opt "preferredDuringSchedulingIgnoredDuringExecution" (list (object "WeightedPodAffinityTerm" [
    req "podAffinityTerm" podAffinityTerm, req "weight" int32])),
  opt "requiredDuringSchedulingIgnoredDuringExecution" (list podAffinityTerm)]

def affinity : Shape := object "Affinity" [
  opt "nodeAffinity" (object "NodeAffinity" [
    opt "preferredDuringSchedulingIgnoredDuringExecution" (list (object "PreferredSchedulingTerm" [
      req "preference" nodeSelectorTerm, req "weight" int32])),
    opt "requiredDuringSchedulingIgnoredDuringExecution" (object "NodeSelector" [
      req "nodeSelectorTerms" (list nodeSelectorTerm)])]),
  opt "podAffinity" (podAffinity "PodAffinity"),
  opt "podAntiAffinity" (podAffinity "PodAntiAffinity")]

def podSecurityContext : Shape := object "PodSecurityContext" [
  opt "appArmorProfile" (profile "AppArmorProfile"), opt "fsGroup" int64,
  opt "fsGroupChangePolicy" text, opt "runAsGroup" int64, opt "runAsNonRoot" bool,
  opt "runAsUser" int64, opt "seLinuxOptions" seLinuxOptions,
  opt "seccompProfile" (profile "SeccompProfile"), opt "supplementalGroups" (list int64),
  opt "sysctls" (list (object "Sysctl" [req "name" text, req "value" text])),
  opt "windowsOptions" windowsOptions]

def podSpecOthers : List (String × Bool × Shape) := [
  opt "activeDeadlineSeconds" int64, opt "affinity" affinity,
  opt "automountServiceAccountToken" bool,
  opt "dnsConfig" (object "PodDNSConfig" [
    opt "nameservers" (list text),
    opt "options" (list (object "PodDNSConfigOption" [opt "name" text, opt "value" text])),
    opt "searches" (list text)]),
  opt "dnsPolicy" text, opt "enableServiceLinks" bool,
  opt "ephemeralContainers" (list ephemeralContainer),
  opt "hostAliases" (list (object "HostAlias" [opt "hostnames" (list text), req "ip" text])),
  opt "hostIPC" bool, opt "hostNetwork" bool, opt "hostPID" bool, opt "hostUsers" bool,
  opt "hostname" text, opt "imagePullSecrets" (list localReference), opt "nodeName" text,
  opt "nodeSelector" (map text), opt "os" (object "PodOS" [req "name" text]),
  opt "overhead" (map text), opt "preemptionPolicy" text, opt "priority" int32,
  opt "priorityClassName" text,
  opt "readinessGates" (list (object "PodReadinessGate" [req "conditionType" text])),
  opt "resourceClaims" (list (object "PodResourceClaim" [
    req "name" text,
    opt "source" (object "ClaimSource" [
      opt "resourceClaimName" text, opt "resourceClaimTemplateName" text])])),
  opt "restartPolicy" text, opt "runtimeClassName" text, opt "schedulerName" text,
  opt "schedulingGates" (list (object "PodSchedulingGate" [req "name" text])),
  opt "securityContext" podSecurityContext, opt "serviceAccount" text,
  opt "serviceAccountName" text, opt "setHostnameAsFQDN" bool, opt "shareProcessNamespace" bool,
  opt "subdomain" text, opt "terminationGracePeriodSeconds" int64,
  opt "tolerations" (list (object "Toleration" [
    opt "effect" text, opt "key" text, opt "operator" text, opt "tolerationSeconds" int64,
    opt "value" text])),
  opt "topologySpreadConstraints" (list (object "TopologySpreadConstraint" [
    opt "labelSelector" labelSelector, opt "matchLabelKeys" (list text), req "maxSkew" int32,
    opt "minDomains" int32, opt "nodeAffinityPolicy" text, opt "nodeTaintsPolicy" text,
    req "topologyKey" text, req "whenUnsatisfiable" text]))]

/-! ## Workloads -/

def workloadCondition : List (String × Bool × Shape) := [
  opt "lastTransitionTime" time, opt "message" text, opt "reason" text, req "status" text,
  req "type" text]

def statefulSetSpecOthers : List (String × Bool × Shape) := [
  opt "minReadySeconds" int32, opt "ordinals" (object "StatefulSetOrdinals" [opt "start" int32]),
  opt "persistentVolumeClaimRetentionPolicy" (object
    "StatefulSetPersistentVolumeClaimRetentionPolicy" [
    opt "whenDeleted" text, opt "whenScaled" text]),
  opt "podManagementPolicy" text, opt "revisionHistoryLimit" int32,
  opt "updateStrategy" (object "StatefulSetUpdateStrategy" [
    opt "rollingUpdate" (object "RollingUpdateStatefulSetStrategy" [
      opt "maxUnavailable" intOrText, opt "partition" int32]),
    opt "type" text]),
  opt "volumeClaimTemplates" (list volumeClaim)]

def statefulSetStatusOthers : List (String × Bool × Shape) := [
  opt "availableReplicas" int32, opt "collisionCount" int32,
  opt "conditions" (list (object "StatefulSetCondition" workloadCondition)),
  opt "currentReplicas" int32, opt "currentRevision" text, opt "observedGeneration" int64,
  req "replicas" int32, opt "updateRevision" text, opt "updatedReplicas" int32]

def deploymentSpecOthers : List (String × Bool × Shape) := [
  opt "minReadySeconds" int32, opt "paused" bool, opt "progressDeadlineSeconds" int32,
  opt "revisionHistoryLimit" int32]

def deploymentStrategyOthers : List (String × Bool × Shape) := [
  opt "rollingUpdate" (object "RollingUpdateDeployment" [
    opt "maxSurge" intOrText, opt "maxUnavailable" intOrText])]

def deploymentStatus : Shape := object "DeploymentStatus" [
  opt "availableReplicas" int32, opt "collisionCount" int32,
  opt "conditions" (list (object "DeploymentCondition"
    (opt "lastUpdateTime" time :: workloadCondition))),
  opt "observedGeneration" int64, opt "readyReplicas" int32, opt "replicas" int32,
  opt "unavailableReplicas" int32, opt "updatedReplicas" int32]

def disruptionBudgetStatus : Shape := object "PodDisruptionBudgetStatus" [
  opt "conditions" (list condition), req "currentHealthy" int32, req "desiredHealthy" int32,
  opt "disruptedPods" (map time), req "disruptionsAllowed" int32, req "expectedPods" int32,
  opt "observedGeneration" int64]

/-! ## Ingresses -/

def ingressBackendOthers : List (String × Bool × Shape) := [opt "resource" typedLocalReference]

def ingressStatus : Shape := object "IngressStatus" [
  opt "loadBalancer" (object "IngressLoadBalancerStatus" [
    opt "ingress" (list (object "IngressLoadBalancerIngress" [
      opt "hostname" text, opt "ip" text, opt "ports" (list (portStatus "IngressPortStatus"))]))])]

end IdentityOperator.Schema
