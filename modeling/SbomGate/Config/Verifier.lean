import SbomGate.Config.Fault
import SbomGate.Token.Claims
/-!
# SbomGate.Config.Verifier

The **configuration of the token verifier**: whose tokens are accepted, for
which audience, and where the keys are published. The defaults are those of
GitHub Actions.
-/

namespace SbomGate.Config

/-- The issuer of the tokens of workflows. -/
def githubIssuer : String := "https://token.actions.githubusercontent.com"

/-- Where that issuer publishes its keys. -/
def githubKeySetUrl : String := githubIssuer ++ "/.well-known/jwks"

/-- The configuration of a verifier. -/
structure Verifier where
  /-- The issuer whose tokens are accepted. -/
  issuer : String
  /-- Where the issuer publishes its keys. -/
  keySetUrl : String
  /-- The audience that tokens must name. -/
  audience : String
  deriving DecidableEq

namespace Verifier

/-- Refuses a field without any text. -/
def requireText (field value : String) : Except Fault Unit :=
  if value.isEmpty then .error (.empty field) else .ok ()

/-- The configuration of some values, if none of them is empty. -/
def make (audience issuer keySetUrl : String) : Except Fault Verifier := do
  requireText "audience" audience
  requireText "issuer" issuer
  requireText "jwks_url" keySetUrl
  return ⟨issuer, keySetUrl, audience⟩

/-- What the claims of a token are compared with. -/
def expectation (c : Verifier) : Token.Expectation := ⟨c.issuer, c.audience⟩

end Verifier

end SbomGate.Config
