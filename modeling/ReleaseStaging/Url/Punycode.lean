/-!
# Names in ASCII

A label of a host name with characters beyond ASCII is written in ASCII letters and digits: the
ASCII characters first, and then, in the order of their code points, where the others are to be
put in. Distances are numbers of variable length whose digits are weighed by a bias that follows
the numbers written so far.
-/

namespace ReleaseStaging.Url.Punycode

/-- The digit of a value below 36. -/
def digit (value : Nat) : Char :=
  if value < 26 then Char.ofNat (97 + value) else Char.ofNat (22 + value)

/-- The value of a digit of either case. -/
def value? (c : Char) : Option Nat :=
  if 'a' ≤ c && c ≤ 'z' then some (c.toNat - 97)
  else if 'A' ≤ c && c ≤ 'Z' then some (c.toNat - 65)
  else if '0' ≤ c && c ≤ '9' then some (c.toNat - 22)
  else none

/-- The smallest value of a digit at a position that does not end its number. -/
def threshold (position bias : Nat) : Nat :=
  min 26 (max 1 (position - bias))

theorem threshold_pos (position bias : Nat) : 0 < threshold position bias := by
  simp only [threshold]
  omega

theorem threshold_le (position bias : Nat) : threshold position bias ≤ 26 := by
  simp only [threshold]
  omega

/-- The bias for a distance that was scaled down, with the position it is scaled to. -/
def scaledBias (distance position : Nat) : Nat :=
  if 455 < distance then scaledBias (distance / 35) (position + 36)
  else position + 36 * distance / (distance + 38)
termination_by distance
decreasing_by exact Nat.div_lt_self (by omega) (by omega)

/-- The bias after a distance was written, when `count` characters stand in the label. -/
def nextBias (distance count : Nat) (isFirst : Bool) : Nat :=
  let halved := if isFirst then distance / 700 else distance / 2
  scaledBias (halved + halved / count) 0

/-- A distance in digits, from the given position on. -/
def writeDistance (bias position distance : Nat) : List Char :=
  let t := threshold position bias
  if distance < t then [digit distance]
  else digit (t + (distance - t) % (36 - t)) ::
    writeDistance bias (position + 36) ((distance - t) / (36 - t))
termination_by distance
decreasing_by
  have := threshold_pos position bias
  have := threshold_le position bias
  exact Nat.lt_of_le_of_lt (Nat.div_le_self _ _) (by omega)

/-- How far the writing of a label has come. -/
structure Progress where
  /-- The distance not written yet. -/
  distance : Nat
  /-- The bias. -/
  bias : Nat
  /-- The number of characters that stand in the label. -/
  count : Nat
  /-- The digits written. -/
  digits : List Char

/-- Passes one character of the label while those with the code point `current` are written. -/
def pass (ascii current : Nat) (progress : Progress) (c : Char) : Progress :=
  if c.toNat < current then { progress with distance := progress.distance + 1 }
  else if c.toNat = current then
    { distance := 0
      bias := nextBias progress.distance (progress.count + 1) (progress.count = ascii)
      count := progress.count + 1
      digits := progress.digits ++ writeDistance progress.bias 36 progress.distance }
  else progress

/-- Writes the characters with the given code points, lowest first; all below `least` stand in
the label. -/
def writePoints (label : List Char) (ascii : Nat) : List Nat → Nat → Progress → Progress
  | [], _, progress => progress
  | point :: points, least, progress =>
    let start :=
      { progress with distance := progress.distance + (point - least) * (progress.count + 1) }
    let passed := label.foldl (pass ascii point) start
    writePoints label ascii points (point + 1) { passed with distance := passed.distance + 1 }

/-- A label in ASCII. -/
def encode (label : List Char) : List Char :=
  let ascii := label.filter fun c => c.toNat < 128
  let points := ((label.filter fun c => 128 ≤ c.toNat).map Char.toNat).mergeSort.eraseDups
  let written := writePoints label ascii.length points 128 ⟨0, 72, ascii.length, []⟩
  ascii ++ (if ascii.isEmpty then [] else ['-']) ++ written.digits

/-- The distance at the start of the digits, with the digits after it; `weight` is the weight of
the first digit and `sum` what was read before it. -/
def readDistance (bias position weight sum : Nat) : List Char → Option (Nat × List Char)
  | [] => none
  | c :: rest =>
    match value? c with
    | none => none
    | some value =>
      let t := threshold position bias
      if value < t then some (sum + value * weight, rest)
      else readDistance bias (position + 36) (weight * (36 - t)) (sum + value * weight) rest

/-- Reading a distance takes at least one digit. -/
theorem length_lt_of_readDistance {bias position weight sum distance : Nat}
    {digits rest : List Char}
    (h : readDistance bias position weight sum digits = some (distance, rest)) :
    rest.length < digits.length := by
  induction digits generalizing position weight sum with
  | nil => simp [readDistance] at h
  | cons c digits ih =>
    simp only [readDistance] at h
    split at h
    · simp at h
    · split at h
      · obtain ⟨_, rfl⟩ : _ ∧ digits = rest := by simpa using h
        simp
      · have := ih h
        simp only [List.length_cons]
        omega

/-- Puts the characters that the digits describe into a label. -/
def readPoints (point position bias : Nat) (label digits : List Char) : Option (List Char) :=
  if digits.isEmpty then some label
  else match _h : readDistance bias 36 1 0 digits with
    | none => none
    | some (distance, rest) =>
      let count := label.length + 1
      let place := position + distance
      let next := point + place / count
      if 128 ≤ next && next.isValidChar then
        let spot := place % count
        readPoints next (spot + 1) (nextBias distance count (position = 0 && point = 128))
          (label.take spot ++ Char.ofNat next :: label.drop spot) rest
      else none
termination_by digits.length
decreasing_by exact length_lt_of_readDistance _h

/-- The characters before the last hyphen and those after it; a hyphen with nothing before it does
not separate anything. -/
def splitLastHyphen (text : List Char) : List Char × List Char :=
  let after := (text.reverse.takeWhile (· != '-')).reverse
  let before := text.take (text.length - after.length - 1)
  if before.isEmpty then ([], text) else (before, after)

/-- The label that ASCII characters stand for. -/
def decode? (text : List Char) : Option (List Char) :=
  let (ascii, digits) := splitLastHyphen text
  if ascii.all fun c => c.toNat < 128 then readPoints 128 0 72 ascii digits else none

end ReleaseStaging.Url.Punycode
