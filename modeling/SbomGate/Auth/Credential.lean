import SbomGate.Auth.Error
/-!
# SbomGate.Auth.Credential

What is checked **before any signature**: that there is a token at all, that
its algorithm is the accepted one, and that the name of its key can be looked
up and shown.
-/

namespace SbomGate.Auth

/-- What stands in front of a token. -/
def scheme : String := "Bearer "

/-- The rest of a list behind a given start. -/
def dropStart? : List Char → List Char → Option (List Char)
  | [], cs => some cs
  | p :: ps, c :: cs => if p = c then dropStart? ps cs else none
  | _ :: _, [] => none

/-- The token of a credential: whatever follows the scheme. -/
def bearerToken (credential : Option String) : Except Error String :=
  match credential.bind fun s => dropStart? scheme.toList s.toList with
  | some cs => .ok (String.ofList cs)
  | none => .error .unauthenticated

/-- Algorithms without a signature or with a shared secret. -/
def forbiddenAlgorithms : List String := ["none", "HS256", "HS384", "HS512"]

/-- The algorithm that the issuer signs with. -/
def acceptedAlgorithms : List String := ["RS256"]

/-- Refuses the algorithms that are forbidden by name, and then all others that are not accepted. -/
def checkAlgorithm (name : String) : Except Error Unit :=
  if name ∈ forbiddenAlgorithms then
    .error (.tokenInvalid (.unsupportedAlgorithm (.forbidden name)))
  else if name ∉ acceptedAlgorithms then
    .error (.tokenInvalid (.unsupportedAlgorithm (.unaccepted name)))
  else .ok ()

/-- The longest name of a key, in bytes. -/
def longestKid : Nat := 256

/-- Control characters: the categories Cc of Unicode. -/
def isControl (c : Char) : Bool := c.toNat < 0x20 || (0x7F ≤ c.toNat && c.toNat ≤ 0x9F)

/-- A name that is not looked up, as it is shown: no controls among the first
characters. -/
def shownKid (kid : String) : String :=
  String.ofList ((kid.toList.take 32).filter fun c => !isControl c)

/-- The name of a key has a reasonable length and no controls. -/
def checkKid (kid : String) : Except Error Unit :=
  if kid.isEmpty then .error (.keyResolution .missingKeyId)
  else if longestKid < (bytesOf kid).length ∨ kid.toList.any isControl then
    .error (.keyResolution (.keyNotFound (shownKid kid)))
  else .ok ()

end SbomGate.Auth
