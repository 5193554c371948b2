/-
Punycode.

A label with characters outside ASCII is written in letters and digits: its ASCII characters in
order, a hyphen, and then, for each other character in the order of code points, how far to go
until it is put in.  The distances are numbers in base 36 whose digits have moving thresholds.
-/

namespace AuditReminder.Url.Punycode

def base : Nat := 36

/-- The next bias, from the distance just written and the length of the label. -/
def adapt (delta length : Nat) (first : Bool) : Nat :=
  let delta := if first then delta / 700 else delta / 2
  reduce (delta.log2 + 1) 0 (delta + delta / length)
where
  /-- Takes thirty-fives out of a distance until it is small. -/
  reduce : Nat → Nat → Nat → Nat
    | 0, k, delta => k + 36 * delta / (delta + 38)
    | fuel + 1, k, delta =>
        if 455 < delta then reduce fuel (k + base) (delta / 35) else k + 36 * delta / (delta + 38)

/-- The threshold of the digit at a place. -/
def threshold (k bias : Nat) : Nat :=
  if k ≤ bias then 1 else if bias + 26 ≤ k then 26 else k - bias

/-- The character of a digit. -/
def digit (n : Nat) : Char := if n < 26 then Char.ofNat (97 + n) else Char.ofNat (22 + n)

/-- The value of a character as a digit. -/
def digitValue? (c : Char) : Option Nat :=
  if 'a' ≤ c ∧ c ≤ 'z' then some (c.toNat - 97)
  else if 'A' ≤ c ∧ c ≤ 'Z' then some (c.toNat - 65)
  else if c.isDigit then some (c.toNat - 22)
  else none

/-- A distance in digits of moving thresholds. -/
def distance (bias : Nat) : Nat → Nat → Nat → List Char
  | 0, _, q => [digit q]
  | fuel + 1, k, q =>
      let t := threshold k bias
      if q < t then [digit q]
      else digit (t + (q - t) % (base - t)) :: distance bias fuel (k + base) ((q - t) / (base - t))

/-- What the encoder carries along: the distance so far, the bias, the number of characters
handled and what was written. -/
structure Progress where
  delta : Nat
  bias : Nat
  handled : Nat
  written : List Char

/-- Writes the characters equal to `n` as they come by. -/
def encodeAt (basic n : Nat) (p : Progress) (c : Char) : Progress :=
  if c.toNat < n then { p with delta := p.delta + 1 }
  else if c.toNat = n then
    { delta := 0
      bias := adapt p.delta (p.handled + 1) (p.handled == basic)
      handled := p.handled + 1
      written := p.written ++ distance p.bias 8 base p.delta }
  else p

/-- The least character of a label from a code point on. -/
def nextCode? (n : Nat) (cs : List Char) : Option Nat :=
  ((cs.map Char.toNat).filter (n ≤ ·)).min?

/-- Writes the characters from code point `n` on; each step handles at least one. -/
def encodeFrom (cs : List Char) (basic : Nat) : Nat → Nat → Progress → Progress
  | 0, _, p => p
  | fuel + 1, n, p =>
      match nextCode? n cs with
      | none => p
      | some m =>
          let p := { p with delta := p.delta + (m - n) * (p.handled + 1) }
          let p := cs.foldl (encodeAt basic m) p
          encodeFrom cs basic fuel (m + 1) { p with delta := p.delta + 1 }

/-- A label in letters and digits. -/
def encode (cs : List Char) : List Char :=
  let ascii := cs.filter fun c => c.toNat < 128
  let start := if ascii.isEmpty then [] else ascii ++ ['-']
  (encodeFrom cs ascii.length cs.length 128 ⟨0, 72, ascii.length, start⟩).written

/-- The text before the last hyphen and the text after it. -/
def breakAtLastHyphen (cs : List Char) : List Char × List Char :=
  let after := (cs.reverse.takeWhile (· != '-')).reverse
  if after.length = cs.length then ([], cs) else (cs.take (cs.length - after.length - 1), after)

/-- Reads a distance: its value and the characters after it. -/
def readDistance (bias : Nat) : (k weight sum : Nat) → List Char → Option (Nat × List Char)
  | _, _, _, [] => none
  | k, weight, sum, c :: cs => do
      let d ← digitValue? c
      let sum := sum + d * weight
      let t := threshold k bias
      if d < t then some (sum, cs) else readDistance bias (k + base) (weight * (base - t)) sum cs

theorem length_of_readDistance {bias : Nat} {cs rest : List Char} {k weight sum n : Nat}
    (h : readDistance bias k weight sum cs = some (n, rest)) : rest.length < cs.length := by
  induction cs generalizing k weight sum with
  | nil => simp [readDistance] at h
  | cons c cs ih =>
    rw [readDistance] at h
    cases hd : digitValue? c with
    | none => simp [hd] at h
    | some d =>
      simp only [hd, Option.bind_eq_bind, Option.bind_some] at h
      split at h
      · simp only [Option.some.injEq, Prod.mk.injEq] at h
        simp [← h.2]
      · have := ih h
        simp only [List.length_cons]
        omega

/-- Puts characters into a label as the distances say. -/
def decodeFrom (out : List Char) (n i bias : Nat) (first : Bool) (cs : List Char) :
    Option (List Char) :=
  if cs.isEmpty then some out
  else
    match h : readDistance bias base 1 0 cs with
    | none => none
    | some (step, rest) =>
        have := length_of_readDistance h
        let length := out.length + 1
        let i := i + step
        let n := n + i / length
        let place := i % length
        if 0x10FFFF < n ∨ (0xD800 ≤ n ∧ n ≤ 0xDFFF) then none
        else
          decodeFrom (out.take place ++ Char.ofNat n :: out.drop place) n (place + 1)
            (adapt step length first) false rest
termination_by cs.length

/-- The label that letters and digits stand for. -/
def decode? (cs : List Char) : Option (List Char) :=
  let (ascii, rest) := breakAtLastHyphen cs
  if ascii.any fun c => 127 < c.toNat then none else decodeFrom ascii 128 0 72 true rest

end AuditReminder.Url.Punycode
