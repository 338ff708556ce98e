import Clusterwright.Text.Escaped
import Clusterwright.Url.Basic
import Clusterwright.Yaml.Body
import Clusterwright.Diagnostics

/-!
# Operating system images

Which release of the operating system the nodes boot: a channel and a version of it, and on hosted
machines also an architecture. Machines of the second architecture boot through a script of their
own, which has to be reachable under a URL.
-/

namespace Clusterwright

/-- The parameters of an operating system image, as far as they are given. -/
structure OsImageSettings where
  channel : String
  version : String
  arch : Option String
  scriptUrl : Option String
  deriving DecidableEq, Repr

/-- An image for hosted machines. -/
structure HostedImage where
  channel : String := "stable"
  version : String := "current"
  arch : String := "amd64"
  scriptUrl : Option String := none
  deriving DecidableEq, Repr

/-- An image for bare metal. -/
structure BareImage where
  channel : String := "stable"
  version : String := "current"
  deriving DecidableEq, Repr

/-- An image extension with what was configured for it. -/
inductive OsImage where
  | packet (image : HostedImage)
  | bareMetal (image : BareImage)
  deriving DecidableEq, Repr

namespace OsImage

open Yaml.Body

/-- The channels of releases. -/
def channels : List String := ["stable", "beta", "alpha", "edge"]

/-- The finding about an unknown channel. -/
def checkChannel (channel : String) : Diagnostics :=
  .errorIf (!channels.contains channel) "Invalid Flatcar channel"
    ("channel " ++ Text.shown channel ++ " must be one of: " ++ ", ".intercalate channels)

/-- The fields of an image for hosted machines. -/
def hostedFields : List (Yaml.Body.Field HostedImage) :=
  [field "channel" text fun v i => { i with channel := v },
    field "version" text fun v i => { i with version := v },
    field "arch" text fun v i => { i with arch := v },
    field "ipxe_script_url" (optional text) fun v i => { i with scriptUrl := v }]

/-- The fields of an image for bare metal. -/
def bareFields : List (Yaml.Body.Field BareImage) :=
  [field "channel" text fun v i => { i with channel := v },
    field "version" text fun v i => { i with version := v }]

/-- The name of an extension. -/
def name : OsImage → String
  | .packet _ => "packet"
  | .bareMetal _ => "bare-metal"

/-- Takes over a section body. -/
def decode (body : Yaml.Value) : OsImage → Except Mismatch OsImage
  | .packet present =>
    (Yaml.Body.decode (record "struct Config" hostedFields {}) present body).map .packet
  | .bareMetal present =>
    (Yaml.Body.decode (record "struct Config" bareFields {}) present body).map .bareMetal

/-- The findings about an image for hosted machines. -/
def checkHosted (image : HostedImage) : Diagnostics :=
  let url := image.scriptUrl.getD ""
  checkChannel image.channel ++
    .errorIf (image.arch ≠ "amd64" && image.arch ≠ "arm64") "Invalid architecture"
      ("arch " ++ Text.shown image.arch ++ " must be amd64 or arm64") ++
    .errorIf (image.arch = "arm64" && !Url.isAbsoluteWithHost url) "Invalid iPXE script URL"
      ("not a valid url: " ++ Text.shown url)

/-- The findings about a configuration. -/
def validate : OsImage → Diagnostics
  | .packet image => checkHosted image
  | .bareMetal image => checkChannel image.channel

/-- The parameters that follow from a configuration. -/
def settings : OsImage → OsImageSettings
  | .packet image => ⟨image.channel, image.version, some image.arch, image.scriptUrl⟩
  | .bareMetal image => ⟨image.channel, image.version, none, none⟩

end OsImage

end Clusterwright
