import Clusterwright.Json.Shape
import Clusterwright.Lifecycle.Request
import Clusterwright.Text.Escaped

/-!
# Handing the DNS records over to the operator

Where the operator makes the records of a cluster, they are shown as soon as the provisioning engine
knows them, and nothing goes on before the operator has confirmed that they exist.
-/

namespace Clusterwright

/-- A record that the operator has to make. -/
structure DnsEntry where
  name : String := ""
  type : String := ""
  ttl : Nat := 0
  records : List String := []
  deriving DecidableEq, Repr

namespace DnsEntry

open Json

/-- The fields of a record. -/
def fields : List (Json.ValueField DnsEntry) :=
  [⟨"name", fun j e => do return { e with name := ← asText j }⟩,
    ⟨"type", fun j e => do return { e with type := ← asText j }⟩,
    ⟨"ttl", fun j e => do return { e with ttl := ← asWord32 j }⟩,
    ⟨"records", fun j e => do return { e with records := ← asList asText j }⟩]

/-- Reads a list of records. -/
def listOfJson (j : Json) : Except Mismatch (List DnsEntry) :=
  asList (asRecord "struct DnsEntry" fields {}) j

/-- A record as it is shown. -/
def notice (e : DnsEntry) : Notice :=
  .pair e.name (e.type ++ " ttl=" ++ toString e.ttl ++ " " ++ ", ".intercalate e.records)

end DnsEntry

namespace Lifecycle

/-- The records that the provisioning engine asks for. -/
def dnsEntries : Activity (List DnsEntry) := do
  let raw ← (output "dns_entries").during "reading dns_entries output"
  match DnsEntry.listOfJson raw with
  | .ok entries => return entries
  | .error m => throw (.engine "reading dns_entries output" (m.message Json.wording))

/-- Shows the records to the operator and waits until they have been made. -/
def handOver (dns : DnsConfig) : Activity Unit := do
  let entries ← dnsEntries
  notify (.header ("Create these DNS records in zone " ++ Text.shown dns.zone ++
    " before continuing:"))
  entries.forM fun e => notify e.notice
  notify .blank
  let made ← (confirm "Have the DNS records been created?").during "DNS confirmation"
  unless made do throw (.cancelled "DNS entries were not confirmed")

end Lifecycle

end Clusterwright
