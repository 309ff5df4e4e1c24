import LineShell.Userland.Awk.Value

/-!
# Numbers by chance

`Random` gives numbers that look like chance: each is the sum of two that came before, the third and the thirty-first
last one.
-/

namespace LineShell.Host.Awk

/-- The last sums, and how many came before. -/
structure Random where
  sums : Array UInt32
  count : Nat := 0

namespace Random

/-- How many sums are kept, and how far back the nearer one of a sum is. -/
def kept : Nat := 31

def near : Nat := 3

/-- The first sums: each is a multiple of the one before, modulo a prime number. -/
def firstSums (n : Int) : Nat → List UInt32
  | 0 => []
  | left + 1 => UInt32.ofInt n :: firstSums (16807 * n % 2147483647) left

/-- Add one more sum. -/
def step (r : Random) : Random :=
  let place := r.count % kept
  let sum := (r.sums[place]?).getD 0 + (r.sums[(r.count + kept - near) % kept]?).getD 0
  { sums := r.sums.setIfInBounds place sum, count := r.count + 1 }

/-- Add many sums. -/
def steps (r : Random) : Nat → Random
  | 0 => r
  | left + 1 => r.step.steps left

/-- What comes from a seed, after the first ones, in which the seed still shows. -/
def ofSeed (seed : Int) : Random :=
  let seed := (UInt32.ofInt seed).toInt32.toInt
  { sums := (firstSums (if seed = 0 then 1 else seed) kept).toArray, count := near : Random }.steps 310

/-- The next number from zero to one. -/
def next (r : Random) : Float × Random :=
  let r := r.step
  let sum := (r.sums[(r.count + kept - 1) % kept]?).getD 0
  (Float.ofNat (sum.toNat / 2) / 2147483647.0, r)

end Random

end LineShell.Host.Awk
