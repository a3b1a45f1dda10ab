import SbomGate.Rsa.Basic
import SbomGate.Token.Claims
import SbomGate.Token.Header
/-!
# SbomGate.Token.Compact

**Signed tokens** in their compact form: three parts of Base64 between two
dots, the header, the payload and the signature of both.

Design points:

* A token is cut at its last two dots, so a token with more of them has a
  header that is no Base64.
* The payload is read twice: once for the claims, and once for a standard view
  of the time and identity claims that is never looked at. The second reading
  can still fail, at arrays and objects in the place of these claims, and
  `standardFault?` says where.
-/

namespace SbomGate.Token

open Json

/-- The parts of a token. -/
structure Parts where
  /-- The header as it is written. -/
  header : Bytes
  /-- The payload as it is written. -/
  payload : Bytes
  /-- The signature as it is written. -/
  signature : Bytes
  deriving DecidableEq

/-- The byte between the parts. -/
def dot : UInt8 := 0x2E

/-- What stands in front of the last dot and behind it. -/
def splitLast? (bytes : Bytes) : Option (Bytes × Bytes) :=
  let behind := (bytes.reverse.takeWhile (· ≠ dot)).reverse
  if behind.length = bytes.length then none
  else some (bytes.take (bytes.length - behind.length - 1), behind)

/-- The parts of a token, cut at its last two dots. -/
def Parts.ofToken? (token : Bytes) : Option Parts := do
  let (message, signature) ← splitLast? token
  let (header, payload) ← splitLast? message
  return ⟨header, payload, signature⟩

/-- What the signature is for: the header and the payload with the dot between them. -/
def Parts.message (p : Parts) : Bytes := p.header ++ dot :: p.payload

/-- The bytes that a part spells. -/
def decodePart (part : Bytes) : Except Fault Bytes :=
  (Base64Url.decode part).mapError .base64

/-- The header that a part spells. -/
def Header.ofPart (part : Bytes) : Except Fault Header := do
  let text ← decodePart part
  let v ← (Header.schema.readBytes text).mapError .json
  return Header.ofMembers v.members

/-- The header of a token, which is read before anything is known of the signature. -/
def headerOf (token : Bytes) : Except Fault Header :=
  match Parts.ofToken? token with
  | some p => Header.ofPart p.header
  | none => .error .invalidToken

/-! ### Keys -/

/-- A key that signatures are verified with. -/
inductive VerificationKey
  /-- An RSA key. -/
  | rsa (key : Rsa.PublicKey)
  /-- A key of another kind, which goes with no accepted algorithm. -/
  | other
  deriving DecidableEq

/-- The RSA key of published components. -/
def rsaKey (n e : String) : Except Fault Rsa.PublicKey := do
  let modulus ← (Base64Url.decodeText n).mapError .base64
  let exponent ← (Base64Url.decodeText e).mapError .base64
  return ⟨modulus, exponent⟩

/-- The key of a published material. -/
def Material.key : Material → Except Fault VerificationKey
  | rsa n e => (rsaKey n e).map .rsa
  | curvePoint _ x y => do
    let _ ← (Base64Url.decodeText x).mapError .base64
    let _ ← (Base64Url.decodeText y).mapError .base64
    return .other
  | secret k => do
    let _ ← (Base64Url.decodeText k).mapError .base64
    return .other
  | octetPair _ x => do
    let _ ← (Base64Url.decodeText x).mapError .base64
    return .other

/-! ### The standard view of a payload -/

/-- Whether a node is an array or an object. -/
def isContainer : Node → Bool
  | .list _ _ _ | .object _ _ _ => true
  | _ => false

/-- The offset of the first token inside an array or object that is not
empty. -/
def firstInside? : Node → Option Nat
  | .list _ (n :: _) _ => some n.start
  | .object _ ((name, _) :: _) _ => some name.start
  | _ => none

/-- Where the reading of a standard claim stops: a time is read into, a subject
not even begun. -/
def standardStop? (name : String) (n : Node) : Option Nat :=
  if name = "exp" ∨ name = "nbf" then firstInside? n
  else if name = "sub" then if isContainer n then some n.start else none
  else none

/-- The standard claims in the order in which a list gives them. -/
def standardNames : List String := ["exp", "nbf", "sub", "iss", "aud"]

/-- The offset of the first member that the standard view stops at. -/
def memberStop? : List (Name × Node) → Option Nat
  | [] => none
  | (name, n) :: rest =>
    match name.text with
    | .ok text => (standardStop? text n).or (memberStop? rest)
    | .error _ => memberStop? rest

/-- What a list of standard claims is called when it is too short. -/
def standardExpected : String := expectedFields "ClaimsForValidation" 5

/-- The fault of a list as standard claims, `count` of which have been read. -/
def listFault? (count : Nat) (close : Close) : List String → List Node → Option Json.Fault
  | [], n :: _ => some (Defect.trailingText.at (n.start + 1))
  | [], [] => none
  | _ :: _, [] =>
    match close with
    | .closed stop => some ((Mismatch.wrongLength (max count 2) standardExpected).at stop)
    | .broken b => some b.reading
  | name :: names, n :: ns =>
    match standardStop? name n with
    | some o => some (Defect.itemEndDue.at (o + 1))
    | none => listFault? (count + 1) close names ns

/-- The fault that the standard view finds in a payload whose claims could be
read. -/
def standardFault? : Node → Option Json.Fault
  | .object _ members _ => (memberStop? members).map fun o => Defect.memberEndDue.at (o + 1)
  | .list _ items close => listFault? 0 close standardNames items
  | _ => none

/-- The claims that the bytes of a payload spell, if both views can be
read. -/
def Claims.ofPayload (text : Bytes) : Except Fault Claims := do
  let d := Document.ofBytes text
  let v ← (d.project Claims.schema).mapError .json
  match standardFault? d.root with
  | some f => throw (.json (f.locate text))
  | none => return Claims.ofMembers v.members

/-! ### Verification -/

/-- The claims of a token whose signature fits a key. -/
def verifyWith (key : VerificationKey) (token : Bytes) : Except Fault Claims :=
  match key with
  | .other => .error .invalidAlgorithm
  | .rsa k =>
    match Parts.ofToken? token with
    | none => .error .invalidToken
    | some p => do
      let header ← Header.ofPart p.header
      if header.algorithm ≠ .rs256 then throw .invalidAlgorithm
      let signature ← decodePart p.signature
      if !Rsa.verify k p.message signature then throw .invalidSignature
      Claims.ofPayload (← decodePart p.payload)

/-- The claims of a token whose signature fits a key, or why it is
rejected. -/
def verifySignature (key : VerificationKey) (token : Bytes) : Except Rejection Claims :=
  (verifyWith key token).mapError .ofFault

/-! ### Making tokens -/

/-- Two parts with a dot between them. -/
def joinParts (header payload : Value) : Bytes :=
  Base64Url.encode (bytesOf header.text) ++ dot :: Base64Url.encode (bytesOf payload.text)

/-- The text of bytes that are all ASCII. -/
def asciiText (bytes : Bytes) : String :=
  String.ofList (bytes.map fun b => Char.ofNat b.toNat)

/-- A token signed with a private key. -/
def sign (key : Rsa.PrivateKey) (kid : Option String) (claims : Value) : String :=
  let message := joinParts (Header.signing kid).toValue claims
  asciiText (message ++ dot :: Base64Url.encode (Rsa.sign key message))

/-- A token with an arbitrary header and no signature. -/
def unsigned (header payload : Value) : String := asciiText (joinParts header payload ++ [dot])

end SbomGate.Token
