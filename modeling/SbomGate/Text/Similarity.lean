/-!
# SbomGate.Text.Similarity

How **similar two words** are, from zero for words with nothing in common to one
for equal words: Jaro's measure.

Two equal characters match if they stand close enough, at most half the longer
word apart. The measure is the mean of three shares: matched characters of the
first word, of the second word, and matches in the same order. All of it is
computed in whole numbers.
-/

namespace SbomGate.Text

/-- A fraction, for comparisons. -/
structure Fraction where
  /-- The numerator. -/
  num : Nat
  /-- The denominator, which is not zero. -/
  den : Nat
  deriving DecidableEq, Repr

/-- Whether a fraction is less than another. -/
def Fraction.less (a b : Fraction) : Bool := a.num * b.den < b.num * a.den

/-- Marks the first free `c` between two positions, counting from `j`. -/
def claim? (c : Char) (low high j : Nat) : List (Char × Bool) → Option (List (Char × Bool))
  | [] => none
  | (d, taken) :: rest =>
    if high ≤ j then none
    else if low ≤ j ∧ c = d ∧ !taken then some ((d, true) :: rest)
    else (claim? c low high (j + 1) rest).map ((d, taken) :: ·)

/-- The characters of the first word that find a match, and the marked second
word. -/
def matchWords (range i : Nat) (second : List (Char × Bool)) :
    List Char → List Char × List (Char × Bool)
  | [] => ([], second)
  | c :: cs =>
    match claim? c (i - range) (i + range + 1) 0 second with
    | some second =>
      let (found, second) := matchWords range (i + 1) second cs
      (c :: found, second)
    | none => matchWords range (i + 1) second cs

/-- How many places two lists differ in. -/
def differences (as bs : List Char) : Nat := ((as.zip bs).filter fun p => p.1 ≠ p.2).length

/-- The similarity of two words, from zero to one: how many characters of theirs
match near their places, less those that match out of order. -/
def similarity (a b : String) : Fraction :=
  let n := a.length
  let m := b.length
  if n = 0 ∧ m = 0 then ⟨1, 1⟩
  else
    let range := max n m / 2 - 1
    let (found, marked) := matchWords range 0 (b.toList.map (·, false)) a.toList
    let k := found.length
    if k = 0 then ⟨0, 1⟩
    else
      let swaps := differences found ((marked.filter (·.2)).map (·.1)) / 2
      ⟨k * k * m + k * k * n + (k - swaps) * n * m, 3 * n * m * k⟩

/-- The word most like a given one, among those that are more than 7/10 alike;
of several the last. -/
def mostSimilar? (word : String) (words : List String) : Option String :=
  (words.foldl
    (fun (best : Option (Fraction × String)) w =>
      let s := similarity word w
      if Fraction.less ⟨7, 10⟩ s then
        match best with
        | some (t, _) => if s.less t then best else some (s, w)
        | none => some (s, w)
      else best)
    none).map (·.2)

end SbomGate.Text
