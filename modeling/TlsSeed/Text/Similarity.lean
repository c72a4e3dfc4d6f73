import TlsSeed.Number.Binary64

/-! # Similarity of words

The Jaro similarity of two words, between zero and one: the mean of the share of the first word's
letters that occur in the second, of the second word's in the first, and of the common letters that
stand in the same order. It is computed in double-precision arithmetic, each step rounded.
-/

namespace TlsSeed.Text.Similarity

open Number

/-- A word whose letters can be taken once each. -/
abbrev Letters := List (Char × Bool)

/-- Takes the first free letter equal to the given one among the places from low to high. The
letters begin at the given place. -/
def take? (c : Char) (low high : Nat) : Nat → Letters → Option Letters
  | _, [] => none
  | place, (d, taken) :: ds =>
    if low ≤ place ∧ place ≤ high ∧ d = c ∧ taken = false then some ((d, true) :: ds)
    else (take? c low high (place + 1) ds).map ((d, taken) :: ·)

/-- The letters of the first word, from the given place on, that find a partner in the second no
farther off than the reach, and what is then left of the second word. -/
def pair (reach : Nat) : Nat → List Char → Letters → List Char × Letters
  | _, [], ds => ([], ds)
  | place, c :: cs, ds =>
    match take? c (place - reach) (place + reach) 0 ds with
    | some ds' =>
      let (common, rest) := pair reach (place + 1) cs ds'
      (c :: common, rest)
    | none => pair reach (place + 1) cs ds

/-- The similarity of two words. -/
def jaro (a b : List Char) : Binary64 :=
  if a.isEmpty && b.isEmpty then .ofNat 1
  else
    let reach := max a.length b.length / 2 - 1
    let (common, letters) := pair reach 0 a (b.map (·, false))
    let partners := (letters.filter (·.2)).map (·.1)
    let moved := ((common.zip partners).countP fun p => p.1 != p.2) / 2
    let m := common.length
    if m = 0 then .zero false
    else
      let shares := (Binary64.ofRatio false m a.length).addSizes (.ofRatio false m b.length)
      (shares.addSizes (.ofRatio false (m - moved) m)).divSize 3

/-- The candidate most similar to a word, if its similarity is above seven tenths. Of equally
similar ones the first is taken. -/
def closest? (word : String) (candidates : List String) : Option String :=
  candidates.foldl (fun best candidate =>
    let s := jaro word.toList candidate.toList
    let bound := match best with
      | some b => jaro word.toList b.toList
      | none => .ofRatio false 7 10
    if bound.sizeLt s then some candidate else best) none

end TlsSeed.Text.Similarity
