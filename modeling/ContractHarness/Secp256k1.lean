import ContractHarness.Address

/-!
# The signature curve

The curve `y² = x³ + 7` over the field with `2 ^ 256 - 2 ^ 32 - 977` elements. A private key is a
factor of the base point; the account that it controls is found by hashing the product. Points are
kept in projective form, `x = X / Z²` and `y = Y / Z³`, so that only the final result is divided.
-/

set_option autoImplicit false

namespace ContractHarness.Secp256k1

/-- The size of the field. -/
def fieldSize : Nat := 0xFFFFFFFFFFFFFFFFFFFFFFFFFFFFFFFFFFFFFFFFFFFFFFFFFFFFFFFEFFFFFC2F

/-- The number of points that the base point generates. -/
def order : Nat := 0xFFFFFFFFFFFFFFFFFFFFFFFFFFFFFFFEBAAEDCE6AF48A03BBFD25E8CD0364141

/-- A point in projective form; `z = 0` is the point at infinity. -/
structure Point where
  x : Nat
  y : Nat
  z : Nat

/-- The difference of two numbers in the field. -/
def sub (a b : Nat) : Nat :=
  (a + (fieldSize - b % fieldSize)) % fieldSize

/-- The product of two numbers in the field. -/
def mul (a b : Nat) : Nat :=
  a * b % fieldSize

/-- The point at infinity. -/
def infinity : Point := ⟨1, 1, 0⟩

/-- The base point. -/
def base : Point where
  x := 0x79BE667EF9DCBBAC55A06295CE870B07029BFCDB2DCE28D959F2815B16F81798
  y := 0x483ADA7726A3C4655DA4FBFC0E1108A8FD17B448A68554199C47D08FFB10D4B8
  z := 1

/-- Twice a point. -/
def Point.double (p : Point) : Point :=
  let square := mul p.y p.y
  let s := mul (4 * p.x) square
  let m := mul (3 * p.x) p.x
  let x := sub (mul m m) (2 * s)
  { x := x
    y := sub (mul m (sub s x)) (8 * mul square square)
    z := mul (2 * p.y) p.z }

/-- The sum of two points. -/
def Point.add (p q : Point) : Point :=
  if p.z = 0 then q
  else if q.z = 0 then p
  else
    let pz := mul p.z p.z
    let qz := mul q.z q.z
    let u := mul p.x qz
    let v := mul q.x pz
    let s := mul p.y (mul qz q.z)
    let t := mul q.y (mul pz p.z)
    if u = v then
      if s = t then p.double else infinity
    else
      let h := sub v u
      let r := sub t s
      let hh := mul h h
      let hhh := mul h hh
      let w := mul u hh
      let x := sub (sub (mul r r) hhh) (2 * w)
      { x := x
        y := sub (mul r (sub w x)) (mul s hhh)
        z := mul h (mul p.z q.z) }

/-- The multiple of a point by the last `bits` binary digits of `k`. -/
def Point.multiple (p : Point) (k : Nat) : (bits : Nat) → Point
  | 0 => infinity
  | bits + 1 =>
    let doubled := (p.multiple (k / 2) bits).double
    if k % 2 = 1 then doubled.add p else doubled

/-- A power of a number in the field, of which the exponent's last `bits` binary digits count. -/
def power (a exponent : Nat) : (bits : Nat) → Nat
  | 0 => 1
  | bits + 1 =>
    let root := power a (exponent / 2) bits
    let square := mul root root
    if exponent % 2 = 1 then mul square a else square

/-- The inverse of a number in the field, by Fermat's theorem. -/
def inverse (a : Nat) : Nat :=
  power a (fieldSize - 2) 256

/-- The coordinates of a point. -/
def Point.affine (p : Point) : Nat × Nat :=
  let i := inverse p.z
  let ii := mul i i
  (mul p.x ii, mul p.y (mul ii i))

/-- The account that a private key controls: the end of the hash of its public point. -/
def accountOf (key : Nat) : Address :=
  let point := (base.multiple key 256).affine
  Address.ofNat (keccak256 (Bytes.ofNat 32 point.1 ++ Bytes.ofNat 32 point.2)).toNat

end ContractHarness.Secp256k1
