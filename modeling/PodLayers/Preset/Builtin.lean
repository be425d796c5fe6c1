import PodLayers.Preset.Defaults

/-!
# The built-in presets

The catalog runs them in this order: the keystore, leader election, sharded metrics, and the monitoring
setup that the latter two require and that no flag turns on.
-/

namespace PodLayers

namespace Preset

def keystoreKey : PresetKey := "keystore"

def leaderElectionKey : PresetKey := "leader-election"

def metricsShardingKey : PresetKey := "metrics-sharding"

def clusterMonitoringKey : PresetKey := "cluster-monitoring"

end Preset

/-! ## Keystore -/

namespace Keystore

def initContainer : String := "elastic-internal-init-keystore"

def volume : String := "elastic-internal-secure-settings"

def mountPath : String := "/mnt/elastic-internal/secure-settings"

/-- The script that fills the keystore from the mounted files. -/
def script : String :=
  "set -eux\n"
    ++ "echo \"Initializing keystore.\"\n"
    ++ "create_keystore\n"
    ++ "for filename in /mnt/elastic-internal/secure-settings/*; do\n"
    ++ "  [[ -e \"$filename\" ]] || continue\n"
    ++ "  key=$(basename \"$filename\")\n"
    ++ "  echo \"Adding $key to the keystore.\"\n"
    ++ "  add_to_keystore \"$key\" \"$filename\"\n"
    ++ "done\n"
    ++ "echo \"Keystore initialization successful.\"\n"

def secretName (ctx : Context) : String :=
  ctx.identity.name ++ "-" ++ ctx.settings.workload.shortName ++ "-secure-settings"

/-- An init container without an image, which takes that of the primary container. -/
def container : Container where
  name := initContainer
  command := ["/usr/bin/env", "bash", "-c", script]
  volumeMounts := .ofList [(VolumeMount.atPath volume mountPath).asReadOnly]

def fragment (ctx : Context) : Fragment where
  pod :=
    { spec :=
        { initContainers := .ofList [container]
          volumes := .ofList [.ofSecret volume (secretName ctx)] } }

def preset : Preset where
  key := Preset.keystoreKey
  isActive := Flags.keystore
  contribute ctx := .ok (fragment ctx)

end Keystore

/-! ## Leader election -/

namespace LeaderElection

/-- Under this condition only the holder of the lease collects. -/
def condition : String := "$\x7bkubernetes_leaderelection.leader\x7d == true"

def fragment : Fragment where
  document := some (.mapping [("condition", .text condition)])

def preset : Preset where
  key := Preset.leaderElectionKey
  requires := [Preset.clusterMonitoringKey]
  isActive := Flags.leaderElection
  contribute _ := .ok fragment

end LeaderElection

/-! ## Sharded metrics -/

namespace MetricsSharding

def portName : String := "metrics"

def container (shim : ShardShim) : Container where
  name := shim.containerName
  image := some shim.image
  ports := [.tcp portName shim.port]

def localHost (shim : ShardShim) : String := "localhost:" ++ Defaults.portText shim.port

/-- The sidecar, scraped locally; every pod collects, so the condition goes. -/
def fragment (ctx : Context) : Fragment where
  pod := { spec := { containers := .ofList [container ctx.settings.shardShim] } }
  document := some (.mapping [
    ("condition", .null),
    ("hosts", .list [.text (localHost ctx.settings.shardShim)])])

def preset : Preset where
  key := Preset.metricsShardingKey
  requires := [Preset.clusterMonitoringKey]
  isActive := Flags.shardedMetrics
  contribute ctx := .ok (fragment ctx)

end MetricsSharding

/-! ## Monitoring of the cluster -/

namespace ClusterMonitoring

def volume : String := "elastic-internal-monitoring-token"

def fileVariable : String := "MONITORING_TOKEN_FILE"

def label : String := "common.k8s.elastic.co/cluster-monitoring"

/-- The token's name inside its volume. -/
def tokenPath : String := "token"

def tokenVolume (monitoring : Monitoring) : Volume where
  name := volume
  sources :=
    { projected := some
        { sources := [
            { serviceAccountToken := some
                { path := tokenPath
                  expirationSeconds := some monitoring.tokenExpirationSeconds } }] } }

def container (settings : Settings) : Container where
  name := settings.workload.containerName
  env := [{ name := fileVariable, value := some settings.monitoring.tokenFile }]
  volumeMounts := .ofList [(VolumeMount.atPath volume settings.monitoring.tokenDir).asReadOnly]

def fragment (ctx : Context) : Fragment where
  pod :=
    { metadata := { labels := .ofList [(label, "true")] }
      spec :=
        { containers := .ofList [container ctx.settings]
          volumes := .ofList [tokenVolume ctx.settings.monitoring] } }
  document := some (.mapping [("bearer_token_file", .text ctx.settings.monitoring.tokenFile)])

def preset : Preset where
  key := Preset.clusterMonitoringKey
  contribute ctx := .ok (fragment ctx)

end ClusterMonitoring

/-- The catalog of the built-in presets. -/
def Catalog.builtin : Catalog :=
  (((Catalog.empty.register Keystore.preset).register LeaderElection.preset).register
    MetricsSharding.preset).register ClusterMonitoring.preset

end PodLayers
