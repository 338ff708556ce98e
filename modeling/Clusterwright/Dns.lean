import Clusterwright.Diagnostics
import Clusterwright.Yaml.Body

/-!
# The names of a cluster

A cluster on hosted machines has a DNS zone, whose records are made either by the operator or by the
provisioning tool. Exactly one of the two ways has to be configured.
-/

namespace Clusterwright

/-- Records in a hosted zone. -/
structure HostedZone where
  zoneId : String := ""
  credentials : Option String := none
  deriving DecidableEq, Repr

/-- The ways to make records that are configured. -/
structure DnsProviders where
  manual : Option Unit := none
  route53 : Option HostedZone := none
  deriving DecidableEq, Repr

/-- The DNS configuration of a cluster. -/
structure DnsConfig where
  zone : String := ""
  providers : DnsProviders := {}
  deriving DecidableEq, Repr

/-- Who makes the records of a cluster. -/
inductive DnsMode where
  | manual | route53 | unmanaged
  deriving DecidableEq, Repr

namespace DnsConfig

open Yaml.Body

/-- How the operator's way is written. -/
def readManual : Yaml.Reader Unit := record "struct ManualDns" [] ()

/-- The fields of a hosted zone. -/
def zoneFields : List (Yaml.Body.Field HostedZone) :=
  [required "zone_id" text fun v z => { z with zoneId := v },
    field "aws_creds_path" (optional text) fun v z => { z with credentials := v }]

/-- The fields of the providers. -/
def providerFields : List (Yaml.Body.Field DnsProviders) :=
  [field "manual" (optional readManual) fun v p => { p with manual := v },
    field "route53" (optional (record "struct Route53Dns" zoneFields {})) fun v p =>
      { p with route53 := v }]

/-- The fields of a configuration. -/
def fields : List (Yaml.Body.Field DnsConfig) :=
  [required "zone" text fun v d => { d with zone := v },
    field "provider" (record "struct DnsProviders" providerFields {}) fun v d =>
      { d with providers := v }]

/-- Reads a configuration. -/
def read : Yaml.Reader DnsConfig := record "struct DnsConfig" fields {}

/-- Who makes the records, if exactly one way is configured. -/
def mode? (d : DnsConfig) : Option DnsMode :=
  match d.providers.manual, d.providers.route53 with
  | some _, none => some .manual
  | none, some _ => some .route53
  | _, _ => none

/-- The findings about the ways that are configured. -/
def checkProviders (p : DnsProviders) : Diagnostics :=
  let advice := "Set exactly one of dns.provider.manual or dns.provider.route53"
  match p.manual, p.route53 with
  | none, none => .error "No DNS provider configured" advice
  | some _, some _ => .error "Multiple DNS providers configured" advice
  | none, some zone =>
    .errorIf zone.zoneId.isEmpty "Route53 zone ID is required" "Set dns.provider.route53.zone_id"
  | some _, none => []

/-- The findings about a configuration. -/
def validate (d : DnsConfig) : Diagnostics :=
  .errorIf d.zone.isEmpty "DNS zone is required" "Set dns.zone to the cluster's DNS zone" ++
    checkProviders d.providers

end DnsConfig

end Clusterwright
