import Clusterwright.Diagnostics
import Clusterwright.Hcl
import Clusterwright.Yaml.Body

/-!
# State backends

Where the provisioning tool keeps its state: in a file beside its configuration, or in a bucket of
an object store, there optionally with a table for locks.
-/

namespace Clusterwright

/-- State in a bucket. -/
structure BucketBackend where
  bucket : String := ""
  key : String := ""
  region : String := ""
  credentials : Option String := none
  lockTable : Option String := none
  deriving DecidableEq, Repr

/-- State in a file; without a path, in the usual one. -/
structure LocalBackend where
  path : Option String := none
  deriving DecidableEq, Repr

/-- A backend extension with what was configured for it. -/
inductive Backend where
  | local (b : LocalBackend)
  | s3 (b : BucketBackend)
  deriving DecidableEq, Repr

namespace Backend

open Yaml.Body

/-- The fields of state in a bucket. -/
def bucketFields : List (Yaml.Body.Field BucketBackend) :=
  [field "bucket" text fun v b => { b with bucket := v },
    field "key" text fun v b => { b with key := v },
    field "region" text fun v b => { b with region := v },
    field "aws_creds_path" (optional text) fun v b => { b with credentials := v },
    field "dynamodb_table" (optional text) fun v b => { b with lockTable := v }]

/-- The fields of state in a file. -/
def localFields : List (Yaml.Body.Field LocalBackend) :=
  [field "path" (optional text) fun v b => { b with path := v }]

/-- The name of an extension. -/
def name : Backend → String
  | .local _ => "local"
  | .s3 _ => "s3"

/-- Takes over a section body. -/
def decode (body : Yaml.Value) : Backend → Except Mismatch Backend
  | .local present =>
    (Yaml.Body.decode (record "struct Config" localFields {}) present body).map .local
  | .s3 present =>
    (Yaml.Body.decode (record "struct Config" bucketFields {}) present body).map .s3

/-- The finding about a required field that is empty. -/
def checkGiven (name value : String) : Diagnostics :=
  .errorIf value.isEmpty ("S3 backend " ++ name ++ " is required") ("Set backend.config." ++ name)

/-- The findings about a configuration. -/
def validate : Backend → Diagnostics
  | .local b =>
    .errorIf (b.path = some "") "Invalid local backend path" "path must not be empty when set"
  | .s3 b => checkGiven "bucket" b.bucket ++ checkGiven "key" b.key ++ checkGiven "region" b.region

/-- An attribute that is left out if it is not set. -/
def attribute? (name : String) (value : Option String) : List (String × String) :=
  (value.map fun v => (name, v)).toList

/-- The attributes of a backend. -/
def attributes : Backend → List (String × String)
  | .local b => attribute? "path" b.path
  | .s3 b =>
    [("bucket", b.bucket), ("key", b.key), ("region", b.region)] ++
      attribute? "shared_credentials_file" b.credentials ++ attribute? "dynamodb_table" b.lockTable

/-- The block of a backend. -/
def render (b : Backend) : String := Hcl.backendBlock b.name b.attributes

end Backend

end Clusterwright
