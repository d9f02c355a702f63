/-! Pseudo-random bytes: a twisted linear recurrence over 624 words of 32 bits, started from a
whole number of any size and sign. -/
namespace Chip8

structure Generator where
  words : Vector UInt32 624
  next : Nat
  deriving DecidableEq

namespace Generator

def word (words : Vector UInt32 624) (i : Nat) : UInt32 :=
  words.get ⟨i % 624, Nat.mod_lt _ (by decide)⟩

def setWord (words : Vector UInt32 624) (i : Nat) (w : UInt32) : Vector UInt32 624 :=
  words.set (i % 624) w (Nat.mod_lt _ (by decide))

def spread (w : UInt32) : UInt32 := w ^^^ (w >>> 30)

def fill (seed : UInt32) : Vector UInt32 624 :=
  (List.range 623).foldl
    (fun words i => setWord words (i + 1)
      (1812433253 * spread (word words i) + UInt32.ofNat (i + 1)))
    (Vector.replicate 624 seed)

def keyOf (n : Nat) : List UInt32 :=
  if h : n < 4294967296 then [UInt32.ofNat n]
  else UInt32.ofNat (n % 4294967296) :: keyOf (n / 4294967296)
termination_by n
decreasing_by omega

/-- One step of seeding changes the word at `i` by its predecessor; after the last place the
first word takes over the value of the last. -/
def mix (change : UInt32 → UInt32 → UInt32) (state : Vector UInt32 624 × Nat) :
    Vector UInt32 624 × Nat :=
  let (words, i) := state
  let words := setWord words i (change (word words i) (spread (word words (i - 1))))
  if i + 1 < 624 then (words, i + 1) else (setWord words 0 (word words 623), 1)

def absorb (key : List UInt32) (state : Vector UInt32 624 × Nat) :
    Vector UInt32 624 × Nat :=
  let rounds := max 624 key.length
  (List.range rounds).foldl
    (fun state r =>
      let j := r % key.length
      let change w s := (w ^^^ (s * 1664525)) + key.getD j 0 + UInt32.ofNat j
      mix change state)
    state

def settle (state : Vector UInt32 624 × Nat) : Vector UInt32 624 :=
  let (words, _) := (List.range 623).foldl
    (fun (words, i) _ => mix (fun w s => (w ^^^ (s * 1566083941)) - UInt32.ofNat i) (words, i))
    state
  setWord words 0 0x80000000

def ofSeed (seed : Int) : Generator :=
  ⟨settle (absorb (keyOf seed.natAbs) (fill 19650218, 1)), 624⟩

def feed (first second : UInt32) : UInt32 :=
  let joined := (first &&& 0x80000000) ||| (second &&& 0x7FFFFFFF)
  let halved := joined >>> 1
  if joined &&& 1 = 1 then halved ^^^ 0x9908B0DF else halved

def twistWord (words : Vector UInt32 624) (i : Nat) : UInt32 :=
  word words (i + 397) ^^^ feed (word words i) (word words (i + 1))

def twist (words : Vector UInt32 624) : Vector UInt32 624 :=
  (List.range 624).foldl (fun words i => setWord words i (twistWord words i)) words

def temper (w : UInt32) : UInt32 :=
  let w := w ^^^ (w >>> 11)
  let w := w ^^^ ((w <<< 7) &&& 0x9D2C5680)
  let w := w ^^^ ((w <<< 15) &&& 0xEFC60000)
  w ^^^ (w >>> 18)

def draw (g : Generator) : UInt32 × Generator :=
  if g.next < 624 then (temper (word g.words g.next), { g with next := g.next + 1 })
  else
    let words := twist g.words
    (temper (word words 0), ⟨words, 1⟩)

def byteWithin : Nat → Generator → UInt8 × Generator
  | 0, g => (0, g)
  | tries + 1, g =>
    let (w, g) := g.draw
    let nine := w >>> 23
    if nine < 256 then (nine.toUInt8, g) else byteWithin tries g

/-- Of so many words in a row one is within a byte, whatever the state. -/
def tryLimit : Nat := 20000

def byte (g : Generator) : UInt8 × Generator := byteWithin tryLimit g

end Generator
end Chip8
