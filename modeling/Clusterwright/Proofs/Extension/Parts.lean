import Clusterwright.Proofs.Yaml.Records
import Clusterwright.Registry

/-! # Parts — what the configurations of extensions are made of

    For each configuration that an extension can have there is a table of its parts: the name
    under which a part is written in a body, how it is read, and where it is kept.  The fields
    of the configuration are described by this table (the lemmas `described`): each of them
    reads its own part and touches no other. -/

namespace Clusterwright

open Yaml.Body

/-! ## Platforms -/

/-- The parts of a cluster of hosted machines. -/
def PacketCluster.parts : List (Yaml.Body.Part PacketCluster) :=
  [⟨"cluster_name", _, text, (·.clusterName)⟩, ⟨"asset_dir", _, text, (·.assetDir)⟩,
    ⟨"auth_token", _, optional text, (·.authToken)⟩, ⟨"tags", _, textMap text, (·.tags)⟩,
    ⟨"controller_count", _, size, (·.controllerCount)⟩,
    ⟨"controller_type", _, optional text, (·.controllerType)⟩,
    ⟨"dns", _, DnsConfig.read, (·.dns)⟩, ⟨"facility", _, text, (·.facility)⟩,
    ⟨"project_id", _, text, (·.projectId)⟩, ⟨"ssh_pubkeys", _, list text, (·.sshKeys)⟩,
    ⟨"enable_aggregation", _, bool, (·.aggregation)⟩,
    ⟨"certs_validity_period_hours", _, optional word32, (·.certificateHours)⟩,
    ⟨"reservation_ids", _, textMap text, (·.reservations.ids)⟩,
    ⟨"reservation_ids_default", _, optional text, (·.reservations.shared)⟩,
    ⟨"worker_pools", _, list (record "struct WorkerPool" WorkerPool.fields {}), (·.pools)⟩]

/-- The parts of a cluster on bare metal. -/
def BareMetalCluster.parts : List (Yaml.Body.Part BareMetalCluster) :=
  [⟨"cluster_name", _, text, (·.clusterName)⟩, ⟨"asset_dir", _, text, (·.assetDir)⟩,
    ⟨"ssh_pubkeys", _, list text, (·.sshKeys)⟩, ⟨"cached_install", _, bool, (·.cachedInstall)⟩,
    ⟨"k8s_domain_name", _, text, (·.domainName)⟩,
    ⟨"matchbox_endpoint", _, text, (·.matchboxEndpoint)⟩,
    ⟨"matchbox_http_endpoint", _, text, (·.matchboxHttpEndpoint)⟩,
    ⟨"matchbox_ca_path", _, text, (·.matchboxCaPath)⟩,
    ⟨"matchbox_client_cert_path", _, text, (·.matchboxClientCertPath)⟩,
    ⟨"matchbox_client_key_path", _, text, (·.matchboxClientKeyPath)⟩,
    ⟨"controller_names", _, list text, (·.controllerNames)⟩,
    ⟨"controller_macs", _, list text, (·.controllerMacs)⟩,
    ⟨"controller_domains", _, list text, (·.controllerDomains)⟩,
    ⟨"worker_names", _, list text, (·.workerNames)⟩,
    ⟨"worker_macs", _, list text, (·.workerMacs)⟩,
    ⟨"worker_domains", _, list text, (·.workerDomains)⟩,
    ⟨"certs_validity_period_hours", _, optional word32, (·.certificateHours)⟩]

theorem PacketCluster.described : Described PacketCluster.fields PacketCluster.parts where
  names := rfl
  fits := by simp [PacketCluster.fields, PacketCluster.parts, fits_own, fits_other]

theorem BareMetalCluster.described :
    Described BareMetalCluster.fields BareMetalCluster.parts where
  names := rfl
  fits := by simp [BareMetalCluster.fields, BareMetalCluster.parts, fits_own, fits_other]

/-! ## State backends -/

/-- The parts of state in a file. -/
def LocalBackend.parts : List (Yaml.Body.Part LocalBackend) :=
  [⟨"path", _, optional text, (·.path)⟩]

/-- The parts of state in a bucket. -/
def BucketBackend.parts : List (Yaml.Body.Part BucketBackend) :=
  [⟨"bucket", _, text, (·.bucket)⟩, ⟨"key", _, text, (·.key)⟩, ⟨"region", _, text, (·.region)⟩,
    ⟨"aws_creds_path", _, optional text, (·.credentials)⟩,
    ⟨"dynamodb_table", _, optional text, (·.lockTable)⟩]

theorem LocalBackend.described : Described Backend.localFields LocalBackend.parts where
  names := rfl
  fits := by simp [Backend.localFields, LocalBackend.parts, fits_own]

theorem BucketBackend.described : Described Backend.bucketFields BucketBackend.parts where
  names := rfl
  fits := by simp [Backend.bucketFields, BucketBackend.parts, fits_own, fits_other]

/-! ## Networks -/

namespace NetworkSettings

/-- The parts that every network has. -/
def commonParts : List (Yaml.Body.Part NetworkSettings) :=
  [⟨"network_mtu", _, word32, (·.mtu)⟩, ⟨"pod_cidr", _, text, (·.podCidr)⟩,
    ⟨"service_cidr", _, text, (·.serviceCidr)⟩,
    ⟨"cluster_domain_suffix", _, text, (·.domainSuffix)⟩,
    ⟨"enable_reporting", _, bool, (·.reporting)⟩]

/-- The parts of a network of hosted machines. -/
def hostedParts : List (Yaml.Body.Part NetworkSettings) :=
  commonParts ++
    [⟨"management_cidrs", _, list text, (·.managementCidrs)⟩,
      ⟨"node_private_cidr", _, optional text, (·.nodePrivateCidr)⟩]

theorem described_common : Described commonFields commonParts where
  names := rfl
  fits := by simp [commonFields, commonParts, fits_own, fits_other]

theorem described_hosted : Described hostedFields hostedParts where
  names := rfl
  fits := by
    simp [hostedFields, hostedParts, commonFields, commonParts, fits_own, fits_other]

end NetworkSettings

/-! ## Operating system images -/

/-- The parts of an image for hosted machines. -/
def HostedImage.parts : List (Yaml.Body.Part HostedImage) :=
  [⟨"channel", _, text, (·.channel)⟩, ⟨"version", _, text, (·.version)⟩,
    ⟨"arch", _, text, (·.arch)⟩, ⟨"ipxe_script_url", _, optional text, (·.scriptUrl)⟩]

/-- The parts of an image for bare metal. -/
def BareImage.parts : List (Yaml.Body.Part BareImage) :=
  [⟨"channel", _, text, (·.channel)⟩, ⟨"version", _, text, (·.version)⟩]

theorem HostedImage.described : Described OsImage.hostedFields HostedImage.parts where
  names := rfl
  fits := by simp [OsImage.hostedFields, HostedImage.parts, fits_own, fits_other]

theorem BareImage.described : Described OsImage.bareFields BareImage.parts where
  names := rfl
  fits := by simp [OsImage.bareFields, BareImage.parts, fits_own, fits_other]

/-! ## Components -/

/-- The parts of the ingress controller. -/
def Contour.parts : List (Yaml.Body.Part Contour) :=
  [⟨"install_mode", _, optional text, (·.installMode)⟩,
    ⟨"service_monitor", _, bool, (·.serviceMonitor)⟩,
    ⟨"envoy_replicas", _, optional word32, (·.replicas)⟩]

/-- The parts of the certificate controller. -/
def CertManager.parts : List (Yaml.Body.Part CertManager) :=
  [⟨"email", _, text, (·.email)⟩, ⟨"namespace", _, text, (·.releaseNamespace)⟩,
    ⟨"webhooks", _, bool, (·.webhooks)⟩, ⟨"service_monitor", _, bool, (·.serviceMonitor)⟩]

theorem Contour.described : Described Contour.fields Contour.parts where
  names := rfl
  fits := by simp [Contour.fields, Contour.parts, fits_own, fits_other]

theorem CertManager.described : Described CertManager.fields CertManager.parts where
  names := rfl
  fits := by simp [CertManager.fields, CertManager.parts, fits_own, fits_other]

end Clusterwright
