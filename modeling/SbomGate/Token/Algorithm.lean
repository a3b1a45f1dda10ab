/-!
# SbomGate.Token.Algorithm

The **signature algorithms** that a token or key can name.
-/

namespace SbomGate.Token

/-- An algorithm that signs tokens. -/
inductive Algorithm
  /-- HMAC with SHA-256. -/
  | hs256
  /-- HMAC with SHA-384. -/
  | hs384
  /-- HMAC with SHA-512. -/
  | hs512
  /-- ECDSA with SHA-256. -/
  | es256
  /-- ECDSA with SHA-384. -/
  | es384
  /-- RSA in the PKCS #1 form with SHA-256. -/
  | rs256
  /-- RSA in the PKCS #1 form with SHA-384. -/
  | rs384
  /-- RSA in the PKCS #1 form with SHA-512. -/
  | rs512
  /-- RSA in the PSS form with SHA-256. -/
  | ps256
  /-- RSA in the PSS form with SHA-384. -/
  | ps384
  /-- RSA in the PSS form with SHA-512. -/
  | ps512
  /-- Edwards curve signatures. -/
  | edDSA
  deriving DecidableEq, Repr

namespace Algorithm

/-- The name of an algorithm in headers. -/
def name : Algorithm → String
  | hs256 => "HS256"
  | hs384 => "HS384"
  | hs512 => "HS512"
  | es256 => "ES256"
  | es384 => "ES384"
  | rs256 => "RS256"
  | rs384 => "RS384"
  | rs512 => "RS512"
  | ps256 => "PS256"
  | ps384 => "PS384"
  | ps512 => "PS512"
  | edDSA => "EdDSA"

/-- All algorithms that a header can name. -/
def all : List Algorithm :=
  [hs256, hs384, hs512, es256, es384, rs256, rs384, rs512, ps256, ps384, ps512, edDSA]

/-- The algorithm of a name, which has to be spelled exactly. -/
def ofName? (s : String) : Option Algorithm := all.find? (·.name = s)

end Algorithm

/-- An algorithm that a published key is meant for. -/
inductive KeyAlgorithm
  /-- A signature algorithm. -/
  | signing (a : Algorithm)
  /-- RSA encryption in the PKCS #1 form. -/
  | rsa1_5
  /-- RSA encryption with OAEP. -/
  | rsaOaep
  /-- RSA encryption with OAEP and SHA-256. -/
  | rsaOaep256
  deriving DecidableEq, Repr

namespace KeyAlgorithm

/-- The name of an algorithm in published keys. -/
def name : KeyAlgorithm → String
  | signing a => a.name
  | rsa1_5 => "RSA1_5"
  | rsaOaep => "RSA-OAEP"
  | rsaOaep256 => "RSA-OAEP-256"

/-- The name in messages, which has no hyphens. -/
def label : KeyAlgorithm → String
  | signing a => a.name
  | rsa1_5 => "RSA1_5"
  | rsaOaep => "RSA_OAEP"
  | rsaOaep256 => "RSA_OAEP_256"

/-- All algorithms that a published key can name. -/
def all : List KeyAlgorithm :=
  Algorithm.all.map signing ++ [rsa1_5, rsaOaep, rsaOaep256]

/-- The algorithm of a published name. -/
def ofName? (s : String) : Option KeyAlgorithm := all.find? (·.name = s)

end KeyAlgorithm

end SbomGate.Token
