import SbomGate.Sha256
/-!
# SbomGate.Rsa.Basic

**RSA signatures** with SHA-256 in the PKCS #1 form of version 1.5, for keys
given as byte strings.

A public key is usable when both numbers are written without leading zeros,
the modulus is odd and has 2048 to 8192 bits, counted in whole bytes, and the
exponent is odd, at least three and has at most 33 bits. `verify` answers no
for every other key.
-/

namespace SbomGate.Rsa

/-- The number that bytes spell, the highest first. -/
def numberOf (bytes : Bytes) : Nat := bytes.foldl (fun n b => n * 256 + b.toNat) 0

/-- A number in `width` bytes, the highest first. -/
def bytesOf (n width : Nat) : Bytes :=
  (List.range width).map fun i => UInt8.ofNat (n / Nat.pow 256 (width - 1 - i) % 256)

/-- `base ^ exponent % modulus`, from the bits of the exponent, the lowest
first; `fuel` bounds their number. -/
def powModFrom (modulus acc base exponent : Nat) : Nat → Nat
  | 0 => acc
  | fuel + 1 =>
    if exponent = 0 then acc
    else
      let acc := if exponent % 2 = 1 then acc * base % modulus else acc
      powModFrom modulus acc (base * base % modulus) (exponent / 2) fuel

/-- `base ^ exponent % modulus`. -/
def powMod (base exponent modulus : Nat) : Nat :=
  powModFrom modulus (1 % modulus) (base % modulus) exponent (exponent.log2 + 1)

/-- The components of a public key as they are published. -/
structure PublicKey where
  /-- The modulus, the highest byte first. -/
  modulus : Bytes
  /-- The exponent, the highest byte first. -/
  exponent : Bytes
  deriving DecidableEq

namespace PublicKey

/-- The bytes start with one that is not zero. -/
def startsNonzero : Bytes → Bool
  | [] => false
  | b :: _ => b ≠ 0

/-- Whether bytes are the modulus of a public key: odd, of 2048 to 8192 bits, no zero in front. -/
def modulusUsable (bytes : Bytes) : Bool :=
  startsNonzero bytes && 256 ≤ bytes.length && bytes.length ≤ 1024 && numberOf bytes % 2 = 1

/-- Whether bytes are the exponent of a public key: odd, from 3 on and below `2 ^ 33`. -/
def exponentUsable (bytes : Bytes) : Bool :=
  startsNonzero bytes && bytes.length ≤ 5 && numberOf bytes % 2 = 1 && 3 ≤ numberOf bytes &&
    numberOf bytes < 0x200000000

/-- Whether signatures can be verified with the key. -/
def usable (k : PublicKey) : Bool := modulusUsable k.modulus && exponentUsable k.exponent

end PublicKey

/-- The identifier of SHA-256 in front of a digest, in DER. -/
def digestInfo : Bytes :=
  [0x30, 0x31, 0x30, 0x0D, 0x06, 0x09, 0x60, 0x86, 0x48, 0x01, 0x65, 0x03, 0x04, 0x02, 0x01, 0x05,
    0x00, 0x04, 0x20]

/-- The encoding of a message for a modulus of `width` bytes. -/
def encodeMessage (width : Nat) (message : Bytes) : Bytes :=
  let tail := digestInfo ++ Sha256.digest message
  0x00 :: 0x01 :: List.replicate (width - tail.length - 3) 0xFF ++ 0x00 :: tail

/-- Whether `signature` is the signature of `message` under a key. -/
def verify (key : PublicKey) (message signature : Bytes) : Bool :=
  let n := numberOf key.modulus
  let s := numberOf signature
  let width := key.modulus.length
  key.usable && signature.length = width && 0 < s && s < n &&
    bytesOf (powMod s (numberOf key.exponent) n) width = encodeMessage width message

/-- A private key: the modulus and the private exponent. -/
structure PrivateKey where
  /-- The modulus, the highest byte first. -/
  modulus : Bytes
  /-- The private exponent, the highest byte first. -/
  exponent : Bytes
  deriving DecidableEq

/-- The signature of a message, as long as the modulus. -/
def sign (key : PrivateKey) (message : Bytes) : Bytes :=
  let width := key.modulus.length
  bytesOf
    (powMod (numberOf (encodeMessage width message)) (numberOf key.exponent)
      (numberOf key.modulus))
    width

end SbomGate.Rsa
