/-!
A 64-bit digest of a text. The bytes are folded into two words by multiplication to 128 bits and
taking both halves; short texts are read from both ends, so that every byte counts.
-/

namespace IconCompiler.Digest

def mix (x y : UInt64) : UInt64 :=
  let p := x.toNat * y.toNat
  p.toUInt64 ^^^ (p / Nat.pow 2 64).toUInt64

def word : List UInt8 → UInt64
  | [] => 0
  | b :: bs => b.toUInt64 + 256 * word bs

structure State where
  left : UInt64
  right : UInt64
  deriving DecidableEq, Repr

def State.start : State := ⟨0x243F6A8885A308D3, 0x13198A2E03707344⟩

def State.absorb (s : State) (x y : UInt64) : State := ⟨s.left ^^^ x, s.right ^^^ y⟩

def State.step (s : State) (block : List UInt8) : State :=
  ⟨s.right, mix (s.left ^^^ word (block.take 8)) (0xA4093822299F31D0 ^^^ word (block.drop 8))⟩

def State.blocks (s : State) : Nat → List UInt8 → State
  | 0, _ => s
  | count + 1, bs => (s.step (bs.take 16)).blocks count (bs.drop 16)

def State.ofBytes (bs : List UInt8) : State :=
  let n := bs.length
  let s := State.start
  if 17 ≤ n then
    let tail := bs.drop (n - 16)
    (s.blocks ((n - 1) / 16) bs).absorb (word (tail.take 8)) (word (tail.drop 8))
  else if 8 ≤ n then s.absorb (word (bs.take 8)) (word (bs.drop (n - 8)))
  else if 4 ≤ n then s.absorb (word (bs.take 4)) (word (bs.drop (n - 4)))
  else if 1 ≤ n then
    s.absorb (bs.getD 0 0).toUInt64
      ((bs.getD (n - 1) 0).toUInt64 <<< 8 ||| (bs.getD (n / 2) 0).toUInt64)
  else s

def rotateLeft (x : UInt64) (k : UInt64) : UInt64 := (x <<< k) ||| (x >>> (64 - k))

def factor : UInt64 := 0xF1357AEA2E62A9C5

def ofBytes (bs : List UInt8) : UInt64 :=
  let s := State.ofBytes bs
  let h := mix s.left s.right ^^^ bs.length.toUInt64
  rotateLeft ((h * factor + 0xFF) * factor) 26

def ofText (s : String) : UInt64 := ofBytes s.toUTF8.data.toList

end IconCompiler.Digest
