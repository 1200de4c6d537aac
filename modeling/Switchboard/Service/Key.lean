import Switchboard.Digest.Sha256
import Switchboard.Json.Writer
import Switchboard.Service.Argument

namespace Switchboard.Key

/-!
# Keys

Caches and memos are looked up by digests of texts.  The text of a build holds the class, the
method and the compact form of the arguments, so a number and the text of the same number give
different keys.  The digest is a parameter: what the library does with keys does not depend on
which one is used.
-/

/-- A digest of texts. -/
abbrev Digest := String → String

/-- The method name of constructors. -/
def constructor : String := "__construct"

/-- The text that the key of a build is a digest of. -/
def buildText (className method : String) (arguments : List Argument) : String :=
  className ++ "::" ++ method ++ "|" ++ (Json.Value.array (arguments.map Argument.toJson)).render

/-- The key of a service. -/
def service (digest : Digest) (id : String) : String :=
  "service." ++ digest id

/-- The key of a build. -/
def build
    (digest : Digest)
    (className method : String)
    (arguments : List Argument) :
    String :=
  "build." ++ digest (buildText className method arguments)

/-- The key of a manifest file, by the text that shows its path. -/
def manifest (digest : Digest) (shown : String) : String :=
  "manifest." ++ digest shown

end Switchboard.Key
