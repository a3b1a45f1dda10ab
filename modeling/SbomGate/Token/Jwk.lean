import SbomGate.Json.Schema
import SbomGate.Token.Algorithm
/-!
# SbomGate.Token.Jwk

**Published keys**: JSON Web Keys and sets of them.

Design points:

* What all keys may say about themselves is in the fields of `Jwk`; the
  numbers of the key are its `Material`, whose constructor is the key type.
* A key is an object whose members are looked at twice: first those that all
  keys share, whose faults are named, then the material, which fits one of the
  key types or none. Members that no type knows are ignored.
-/

namespace SbomGate.Token

open Json

/-- The numbers of a key, in the spelling in which they are published. -/
inductive Material
  /-- A point on a curve. -/
  | curvePoint (curve x y : String)
  /-- An RSA modulus and exponent. -/
  | rsa (n e : String)
  /-- A shared secret. -/
  | secret (k : String)
  /-- A public key on an Edwards or Montgomery curve. -/
  | octetPair (curve x : String)
  deriving DecidableEq

/-- A published key. -/
structure Jwk where
  /-- What the key is for: `sig`, `enc` or a word of its owner. -/
  use : Option String
  /-- The operations it may be used in. -/
  operations : Option (List String)
  /-- The algorithm it is meant for. -/
  algorithm : Option KeyAlgorithm
  kid : Option String
  /-- Where its certificates are. -/
  x5u : Option String
  /-- Its certificates. -/
  x5c : Option (List String)
  /-- The SHA-1 thumbprint of its certificate. -/
  x5t : Option String
  /-- The SHA-256 thumbprint of its certificate. -/
  x5tS256 : Option String
  /-- The key itself. -/
  material : Material
  deriving DecidableEq

namespace Jwk

/-- The names of the algorithms that a key can name. -/
def algorithmNames : List String := KeyAlgorithm.all.map KeyAlgorithm.name

/-- The members that all keys share, except for the algorithm. -/
def sharedFields : Fields :=
  [("use", .defaulted, .optional .string), ("key_ops", .defaulted, .optional (.list .string)),
    ("alg", .defaulted, .anything), ("kid", .defaulted, .optional .string),
    ("x5u", .defaulted, .optional .string), ("x5c", .defaulted, .optional (.list .string)),
    ("x5t", .defaulted, .optional .string), ("x5t#S256", .defaulted, .optional .string)]

/-- The algorithm that a member names: a string, or an object with one member
whose value says nothing. -/
def projectAlgorithm : Value → Except Mismatch Value
  | .null => .ok .null
  | .object [(name, .object [])] => projectVariant algorithmNames [(name, .null)]
  | v => (Schema.choice algorithmNames).project v

/-- The shared members among all, behind those in `found`. -/
def projectShared (found : Members) : Members → Except Mismatch Members
  | [] => .ok found
  | (name, v) :: rest =>
    match projectField false sharedFields found name with
    | .error m => .error m
    | .ok none => projectShared found rest
    | .ok (some s) =>
      (if name = "alg" then projectAlgorithm v else s.project v).bind fun w =>
        projectShared (found ++ [(name, w)]) rest

/-- The value of the one string member of a name; none if there are several. -/
def soleText? (ms : Members) (name : String) : Option String :=
  match ms.filter (·.1 = name) with
  | [(_, .string s)] => some s
  | _ => none

/-- The value of a member that makes a choice, as a string or as an object with
one member that is null. -/
def soleChoice? (ms : Members) (name : String) (names : List String) : Option String :=
  match ms.filter (·.1 = name) with
  | [(_, .string s)] => if s ∈ names then some s else none
  | [(_, .object [(s, .null)])] => if s ∈ names then some s else none
  | _ => none

/-- The curves that keys lie on. -/
def curves : List String := ["P-256", "P-384", "P-521", "Ed25519"]

/-- The material among the members of a key. -/
def materialOf? (ms : Members) : Option Material :=
  match soleChoice? ms "kty" ["EC", "RSA", "oct", "OKP"] with
  | some "EC" => do
    return .curvePoint (← soleChoice? ms "crv" curves) (← soleText? ms "x") (← soleText? ms "y")
  | some "RSA" => do return .rsa (← soleText? ms "n") (← soleText? ms "e")
  | some "oct" => do return .secret (← soleText? ms "k")
  | some "OKP" => do return .octetPair (← soleChoice? ms "crv" curves) (← soleText? ms "x")
  | _ => none

/-- The members that spell a material. -/
def materialMembers : Material → Members
  | .curvePoint curve x y =>
    textMember "kty" "EC" ++ textMember "crv" curve ++ textMember "x" x ++ textMember "y" y
  | .rsa n e => textMember "kty" "RSA" ++ textMember "n" n ++ textMember "e" e
  | .secret k => textMember "kty" "oct" ++ textMember "k" k
  | .octetPair curve x => textMember "kty" "OKP" ++ textMember "crv" curve ++ textMember "x" x

/-- Checks the members of a key: the projection holds the shared members and
those of the material. -/
def check (ms : Members) : Except Mismatch Value :=
  (projectShared [] ms).bind fun shared =>
    match materialOf? ms with
    | some m => .ok (.object (shared ++ materialMembers m))
    | none => .error (.noVariant "AlgorithmParameters")

/-- The form of a key. -/
def schema : Schema := .gathered "Jwk" check

/-- A key from the members that `check` leaves. -/
def ofMembers (ms : Members) : Jwk :=
  { use := ms.text? "use"
    operations := ms.texts? "key_ops"
    algorithm := (ms.text? "alg").bind KeyAlgorithm.ofName?
    kid := ms.text? "kid"
    x5u := ms.text? "x5u"
    x5c := ms.texts? "x5c"
    x5t := ms.text? "x5t"
    x5tS256 := ms.text? "x5t#S256"
    material := (materialOf? ms).getD (.secret "") }

/-- A key as an object, its material behind the shared members. -/
def toValue (k : Jwk) : Value :=
  .object (textMember? "use" k.use ++ textsMember? "key_ops" k.operations ++
    textMember? "alg" (k.algorithm.map KeyAlgorithm.name) ++ textMember? "kid" k.kid ++
    textMember? "x5u" k.x5u ++ textsMember? "x5c" k.x5c ++ textMember? "x5t" k.x5t ++
    textMember? "x5t#S256" k.x5tS256 ++ materialMembers k.material)

end Jwk

/-- The form of a set of keys. -/
def keySetSchema : Schema := .record "JwkSet" false [("keys", .required, .list Jwk.schema)]

/-- The keys of a set from its projection. -/
def keysOfMembers (ms : Members) : List Jwk :=
  (ms.items "keys").map fun v => Jwk.ofMembers v.members

end SbomGate.Token
