import Keyring.Keychain

/-!
# The gate

What a server does about a request: go on, or refuse it. A refusal is the same for an unknown id and
for a wrong secret, so that it tells nobody which ids there are.
-/

namespace Keyring

open Text (lit)

/-- Whether a request may go on, and the status, reason and headers of the response if not. -/
structure Decision where
  allowed : Bool
  status : Nat
  reason : Text
  headers : List (Text × Text)
  deriving DecidableEq, Repr

namespace Decision

/-- The request may go on. -/
def granted : Decision :=
  ⟨true, 200, lit "OK", []⟩

/-- The request is refused, and whoever made it is asked to present a secret for a realm. -/
def refused (realm : Cell) : Decision :=
  ⟨false, 401, lit "Unauthorized",
    [(lit "WWW-Authenticate", lit "Basic realm=\"" ++ realm.toText ++ lit "\"")]⟩

end Decision

namespace Gate

/-- The realm of those who name no other. -/
def defaultRealm : Text :=
  lit "access-keychain"

/-- The decision on a request with the given header. -/
def decide (keychain : Keychain) (header : Option Text) (realm : Cell) :
    Except Failure Decision × Keychain :=
  match keychain.allow header with
  | (.error failure, after) => (.error failure, after)
  | (.ok true, after) => (.ok .granted, after)
  | (.ok false, after) => (.ok (.refused realm), after)

end Gate

end Keyring
