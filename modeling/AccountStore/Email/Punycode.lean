import AccountStore.Sort
import AccountStore.Text.Split

/-!
Punycode: writing a label with letters beyond ASCII in ASCII, and reading it back.

The ASCII characters come first; the others follow in the order of their code points, as the
distances between them, each a number of variable length in base 36. A distance counts the places
at which characters of lower code points could have been put.
-/

namespace AccountStore.Email.Punycode

/-- The digits of base 36: the letters, then `0` to `9`. -/
def digit (d : Nat) : Char :=
  if d < 26 then Char.ofNat (97 + d) else Char.ofNat (22 + d)

/-- The least digit that does not end a number at the `k`-th place. -/
def threshold (k bias : Nat) : Nat :=
  if k ≤ bias then 1 else min 26 (k - bias)

/-- The digits of a distance from the `k`-th place on. -/
def distance (bias k q : Nat) : List Char :=
  let t := threshold k bias
  if small : q < t then [digit q]
  else digit (t + (q - t) % (36 - t)) :: distance bias (k + 36) ((q - t) / (36 - t))
termination_by q
decreasing_by
  have : 1 ≤ threshold k bias := by
    unfold threshold
    split <;> omega
  exact Nat.lt_of_le_of_lt (Nat.div_le_self _ _) (by omega)

/-- Divides by 35 until at most 455 is left; counts 36 for each division. -/
def scaleDown (delta k : Nat) : Nat × Nat :=
  if 455 < delta then scaleDown (delta / 35) (k + 36) else (delta, k)

/-- The bias for the next distance. -/
def adapt (delta written : Nat) (first : Bool) : Nat :=
  let halved := if first then delta / 700 else delta / 2
  let (rest, k) := scaleDown (halved + halved / written) 0
  k + 36 * rest / (rest + 38)

structure Progress where
  /-- The digits written, last first. -/
  output : List Char
  delta : Nat
  bias : Nat
  written : Nat

/-- Passes a character of the label while the code point `m` is being placed. -/
def pass (basic m : Nat) (p : Progress) (c : Char) : Progress :=
  if c.toNat < m then { p with delta := p.delta + 1 }
  else if c.toNat = m then
    { output := (distance p.bias 36 p.delta).reverse ++ p.output
      delta := 0
      bias := adapt p.delta (p.written + 1) (p.written = basic)
      written := p.written + 1 }
  else p

/-- Places the code points of a list, in rising order, from `n` on. -/
def place (label : List Char) (basic : Nat) : List Nat → (n : Nat) → Progress → Progress
  | [], _, p => p
  | m :: rest, n, p =>
      let p := { p with delta := p.delta + (m - n) * (p.written + 1) }
      let p := label.foldl (pass basic m) p
      place label basic rest (m + 1) { p with delta := p.delta + 1 }

def encode (label : List Char) : List Char :=
  let basic := label.filter fun c => c.toNat < 128
  let points := sorted (fun a b => a ≤ b) ((label.map Char.toNat).filter (128 ≤ ·)).eraseDups
  basic ++ (if basic.isEmpty then [] else ['-']) ++
    (place label basic.length points 128 ⟨[], 0, 72, basic.length⟩).output.reverse

/-- The value of a digit, a letter of either case. -/
def digitValue? (c : Char) : Option Nat :=
  if 'a' ≤ c && c ≤ 'z' then some (c.toNat - 97)
  else if 'A' ≤ c && c ≤ 'Z' then some (c.toNat - 65)
  else if '0' ≤ c && c ≤ '9' then some (c.toNat - 22)
  else none

/-- What has been read of a label: the characters with the place of the last one, and a distance
that may not be complete. -/
structure Reading where
  output : List Char
  point : Nat := 128
  bias : Nat := 72
  /-- The place after the character that was put last. -/
  start : Nat := 0
  /-- The place that the distance leads to, as far as its digits are read. -/
  index : Nat := 0
  weight : Nat := 1
  /-- The threshold's place of the next digit. -/
  k : Nat := 36

/-- Puts the character that a complete distance leads to; none if there is no such character. -/
def Reading.put? (r : Reading) (index : Nat) : Option Reading :=
  let places := r.output.length + 1
  let point := r.point + index / places
  let place := index % places
  if point.isValidChar then
    some {
      output := r.output.take place ++ Char.ofNat point :: r.output.drop place
      point
      bias := adapt (index - r.start) places (r.start = 0)
      start := place + 1
      index := place + 1 }
  else none

/-- Reads the next digit; none if it is none or its distance is too great for 32 bits. -/
def Reading.read? (r : Reading) (c : Char) : Option Reading := do
  let d ← digitValue? c
  let index := r.index + d * r.weight
  let t := threshold r.k r.bias
  let weight := r.weight * (36 - t)
  if UInt32.size ≤ index then none
  else if d < t then r.put? index
  else if UInt32.size ≤ weight then none
  else some { r with index, weight, k := r.k + 36 }

/-- Reads distances into the ASCII characters of a label; the last one must be complete. -/
def readDistances? (basic distances : List Char) : Option (List Char) := do
  let r ← distances.foldlM Reading.read? { output := basic }
  if r.k = 36 then some r.output else none

/-- The label that a text stands for. What is before the last hyphen is not empty. -/
def decode? (cs : List Char) : Option (List Char) :=
  match Text.splitLast? '-' cs with
  | none => readDistances? [] cs
  | some (basic, distances) =>
      if basic.isEmpty || basic.any fun c => 128 ≤ c.toNat then none
      else readDistances? basic distances

example : encode "m\u00fcnchen".toList = "mnchen-3ya".toList ∧
    encode "\u4f8b\u3048".toList = "r8jz45g".toList := by decide +kernel

example : decode? "mnchen-3ya".toList = some "m\u00fcnchen".toList ∧
    decode? "r8jz45g".toList = some "\u4f8b\u3048".toList ∧ decode? "a-".toList = some ['a'] ∧
    decode? "r8jz45".toList = none ∧ decode? "-a".toList = none ∧
    decode? "999999999".toList = none := by decide +kernel

end AccountStore.Email.Punycode
