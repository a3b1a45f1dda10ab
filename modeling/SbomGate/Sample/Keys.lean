import SbomGate.Token.Compact
/-!
# SbomGate.Sample.Keys

Two **sample key pairs** for trials of the gate, with their published keys.
Nothing that is signed with them is a secret.
-/

namespace SbomGate.Sample

open Token

/-- A key pair, its numbers in Base64. -/
structure KeyPair where
  /-- The identifier under which the public key is published. -/
  kid : String
  modulus : String
  privateExponent : String

/-- The public exponent of both pairs, which is 65537. -/
def publicExponent : String := "AQAB"

namespace KeyPair

/-- The first key pair. -/
def primary : KeyPair where
  kid := "primary-test-key"
  modulus :=
    "3Ns8MmWt0mRzNdx7fNNgK788UN7b7aBLP8vLtJjO8-JAWbNOVFLH3IlZtq_Tu8KRAzodEbptJwIRWP9W6ULDT18v" ++
    "VPiG63cUyLgxhGyQTyNQaQS3pfQ1mxmF8nyqHq_R0sHsl7vjiBDTWmlciL5b5cO1QCu82OJCkOFgJ_D0Y02j9C75" ++
    "wVH4BQMATBjGyT2pDcARzDsScNnPo6ZhuLUVJmOXiVWwd_Ri-CwhrYVa08R4L7F7dgF43_n-huIRA9kLUGeI_NYf" ++
    "mBFpudnj2C_BiLUoeSVc9AV-Z7ereNQL-nzR1q7jP44l-bQDyuMR0pHFDKx2k-BjEU4DdGYgR3camw"
  privateExponent :=
    "Z9cGcxWeh_zltG3Re8uwfHEiLU3TLuM-biTmRqfQKhf3NJWbHwd64-SKU1xRG4csAk3pDARQvNX6jRMk7HCQ_vkc" ++
    "eoGNghlPot4DniUjJqpObMokhLkRGTcDZRMbM2lsKIE4OdFD9h4fGXPPZ5XFBH8jcaP-2yRqss7clHr0lNk1BVa9" ++
    "AdLXdyMVC2NUFpx-lBnVXPWPbP_0hEaxC3S6DlVj5myG2xwL8clK-6GRD7vXpk2CagEHR8vNtVi6k0bKQV7MpS9r" ++
    "o7EvteRIqyjtRQ-YaMM4NxVcTnNIMlm41jgHp2Wtcmt23X8qoSDKPjrpkGgzgNBNCGRmjJTPF4AJoQ"

/-- The second key pair, for rotations and for forged tokens. -/
def secondary : KeyPair where
  kid := "secondary-test-key"
  modulus :=
    "t3Ss5TNEwifKclskd-436fbD7L1TwY8dsuX0OicCTC6OGZVbvtFIA86Qf5OGdLAj1BE7DQAYy58Hn9jKl1tZWfmu" ++
    "gmliAQneapazsp--3fC91N2ySINHHHCR7UFQct4sqMfckL9wJvziMFs9ZlVCskUaunOtMyuzr_ZSkkPPWgTAbz_7" ++
    "Yw1AT6EdoQlHcLx3yEBdfbsHOQuBkgvDXzjfM6UYt1GLLX-CXShB0WR4uHhH_qZA_T5qY-Y6Lub9TWZ02j77OkxL" ++
    "7XQssxAK-MKI1gXlK7HkOM3X59Pr4YlOpMg-jmRTzayFe_uVSIPyxG1X1CscMdy-wjIGezhdbcj40Q"
  privateExponent :=
    "HFJVXL749vZYoSXj7-XlWOfBIHusAf47qgIpHY8nIiavxlBSDRfXA8twcFmQkNQee987HAsvSMQg07MOt6YhGaxb" ++
    "ngNx31IsNY1VaZaSy0WesM2W9-3YXRId3SBPsKQPBfFw4iHDySkSLD_xryordUUI1s8D5pnxEBG5dp4kVTOShYvc" ++
    "bsSihIrGzvKXfmZikDcw2jKs1pn1gYiUDn7VUXqv7r19y4njRCZUJE2TcsRpFXsRkHH5M3PARm9B_7jHsYYCMBgp" ++
    "K976LJVTzWbooye6rSwXME5XxTFv9U37Qwh8ffEb4i9Yu6GVcv3yaL3DFUv57jjbYKn1_JHPdECMBw"

/-- Both key pairs. -/
def all : List KeyPair := [primary, secondary]

/-- The published key of a pair. -/
def jwk (k : KeyPair) : Jwk :=
  { use := some "sig", operations := none, algorithm := some (.signing .rs256), kid := some k.kid,
    x5u := none, x5c := none, x5t := none, x5tS256 := none,
    material := .rsa k.modulus publicExponent }

/-- The bytes of a number of a pair. -/
def bytes (number : String) : Bytes := (Base64Url.decodeText number).toOption.getD []

/-- The private key of a pair. -/
def privateKey (k : KeyPair) : Rsa.PrivateKey := ⟨bytes k.modulus, bytes k.privateExponent⟩

/-- The key that signatures of a pair are verified with. -/
def verificationKey (k : KeyPair) : VerificationKey :=
  .rsa ⟨bytes k.modulus, bytes publicExponent⟩

/-- The published key of an identifier. -/
def published? (kid : String) : Option Jwk := (all.find? (·.kid = kid)).map jwk

/-- A token for an identifier: the second pair signs for its own, the first for
all others. -/
def signFor (kid : String) (claims : Json.Value) : String :=
  sign (if kid = secondary.kid then secondary else primary).privateKey (some kid) claims

end KeyPair

end SbomGate.Sample
