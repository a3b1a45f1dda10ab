import SbomGate.Url.Domain.Direction
import SbomGate.Url.Domain.Joiner
import SbomGate.Url.Domain.Repertoire
import SbomGate.Url.Punycode
/-!
# SbomGate.Url.Domain

**Domain names** in all scripts, and their normal form.

A name is folded character by character, brought into its composed normal form
and cut into labels at its full stops. A label behind `xn--` is Punycode for
one that could as well be written out; it has to spell one in its normal form.
Each label is then checked by itself, and the name as a whole if some of it is
written from right to left.
-/

namespace SbomGate.Url

namespace Domain

/-- The normal form of a text, or `none` if a character in it is refused. -/
def folded? (cs : List Char) : Option (List Char) :=
  (cs.mapM image?).map fun images => normalForm images.flatten

/-- Whether a character is one of ASCII. -/
def isAscii (c : Char) : Bool := c.toNat < 0x80

/-- What follows the mark of a label in Punycode. -/
def punycode? : List Char → Option (List Char)
  | 'x' :: 'n' :: '-' :: '-' :: rest => some rest
  | _ => none

/-- The longest Punycode that is read. -/
def maxPunycode : Nat := 2000

/-- The longest label that could still be written in Punycode. -/
def maxWritten : Nat := 1000

/-- The label that Punycode spells: more than ASCII, in its normal form, and
not itself marked as Punycode. -/
def spelled? (code : List Char) : Option (List Char) :=
  if maxPunycode < code.length then none
  else (Punycode.decode? code).filter fun label =>
    !label.all isAscii && folded? label = some label && (punycode? label).isNone

/-- Whether a label is sound by itself: no mark stands first, joiners stand
where they may, no character is forbidden, and Punycode can write it. -/
def isSound (label : List Char) : Bool :=
  !label.head?.any isMark && joinersFit label && !label.any isForbidden &&
    (label.all isAscii || label.length ≤ maxWritten)

/-- The label that a part of a folded name stands for. -/
def label? (part : List Char) : Option (List Char) :=
  (match punycode? part with
  | some code => spelled? code
  | none => some part).filter isSound

/-- Whether some label has a character written from right to left. -/
def isMixed (labels : List (List Char)) : Bool :=
  labels.any fun label => label.any fun c => (Direction.of c).isRight

/-- The labels of a name, folded and checked; in a name of both directions each
one has to keep its place. -/
def labels? (cs : List Char) : Option (List (List Char)) := do
  let parts := Text.splitAtChar '.' (← folded? cs)
  let labels ← parts.mapM label?
  if isMixed labels && !labels.all keepsPlace then none else some labels

end Domain

/-- The normal form of a domain name: its labels written out. -/
def domain? (cs : List Char) : Option (List Char) :=
  (Domain.labels? cs).map (['.'].intercalate ·)

end SbomGate.Url
