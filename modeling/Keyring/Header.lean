import Keyring.Codec.Base64
import Keyring.Failure
import Keyring.Text.Blank

/-!
# The header of a request

A request presents an id and a secret in an `Authorization` header of the scheme `Basic`: the name
of the scheme in any case, a space, and a token that is the Base64 form of id, colon and secret in
UTF-8. An id holds no colon, a secret may.
-/

namespace Keyring.Header

open Text (lit)

/-- The name of the scheme, in lower case. -/
def scheme : Text :=
  lit "basic"

/-- The colon between id and secret. -/
def separator : CodePoint := 58

/-- The id and the secret that a token holds. A token with more than ASCII in it is a failure and
not only malformed. -/
def parseToken (token : Text) : Except Failure (Option (Text × Text)) :=
  if !token.all CodePoint.isAscii then .error .tokenNotAscii
  else
    match Base64.decode? token with
    | none => .ok none
    | some octets =>
      match Utf8.decode octets with
      | .error _ => .ok none
      | .ok text => .ok (splitFirst separator text)

/-- The id and the secret that a header presents, if it is well formed. -/
def parse (header : Text) : Except Failure (Option (Text × Text)) :=
  match splitFirst 32 (Text.strip header) with
  | none => .ok none
  | some (word, token) =>
    if word.map CodePoint.toLowerAscii ≠ scheme || token.isEmpty then .ok none
    else parseToken (Text.strip token)

/-- The id and the secret that a header presents, if there is one. -/
def parse? : Option Text → Except Failure (Option (Text × Text))
  | none => .ok none
  | some header => parse header

/-- The header that presents an id and a secret, as they show. -/
def render (id secret : Cell) : Except Failure Text :=
  match Utf8.encode (id.toText ++ separator :: secret.toText) with
  | .error run => .error (.unencodable run)
  | .ok octets => .ok (lit "Basic " ++ Base64.encode octets)

end Keyring.Header
