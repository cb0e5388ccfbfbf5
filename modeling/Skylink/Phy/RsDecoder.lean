import Skylink.Phy.Galois

/-!
# Reed-Solomon decoder

The decoder of the vendored library. Its polynomials are arrays of coefficients, either
as they are or by their indices, among which `A0` stands for zero.
-/

namespace Skylink

/-- `FCR`, the first root of the generator polynomial. -/
def rsFcr : Nat := 112

/-- `PRIM`, the step from one root to the next. -/
def rsPrim : Nat := 11

/-- `IPRIM`, the inverse of `PRIM`. -/
def rsIprim : Nat := 116

/-- `A0`. -/
def rsA0 : UInt8 := 255

/-- `ALPHA_TO[MODNN(i)]`. -/
def alphaToMod (i : Nat) : UInt8 := alphaTo (mod255 i)

/-! ## Syndromes -/

/-- One more byte of the word in the sum number `i`. -/
def syndromeStep (data : UInt8) (i : Nat) (s : UInt8) : UInt8 :=
  if s = 0 then data
  else data ^^^ alphaToMod ((indexOf s).toNat + (rsFcr + i) * rsPrim)

/-- The syndromes, not in index form yet. -/
def syndromes (data : Bytes) : Bytes :=
  (data.drop 1).foldl (fun s byte => s.mapIdx (syndromeStep byte))
    (List.replicate rsParitys (data.getD 0 0))

/-! ## Berlekamp-Massey algorithm -/

/-- The locator in polynomial form, the polynomial `B(x)` in index form, and the length. -/
structure BerlekampMassey where
  lambda : Bytes
  b : Bytes
  el : Nat
deriving DecidableEq, Repr

def BerlekampMassey.start : BerlekampMassey where
  lambda := 1 :: List.replicate rsParitys 0
  b := (1 :: List.replicate rsParitys 0).map indexOf
  el := 0

/-- The discrepancy at the step `r`, in polynomial form. -/
def discrepancyAt (s lambda : Bytes) (r : Nat) : UInt8 :=
  (List.range r).foldl
    (fun discr i =>
      let l := lambda.getD i 0
      let syndrome := s.getD (r - i - 1) rsA0
      if l ≠ 0 ∧ syndrome ≠ rsA0 then discr ^^^ alphaToMod ((indexOf l).toNat + syndrome.toNat)
      else discr) 0

namespace BerlekampMassey

/-- `T(x) <-- lambda(x) - discr_r*x*b(x)`. -/
def corrected (state : BerlekampMassey) (discr : UInt8) : Bytes :=
  (List.range (rsParitys + 1)).map fun i =>
    if i = 0 then state.lambda.getD 0 0
    else if state.b.getD (i - 1) rsA0 ≠ rsA0 then
      state.lambda.getD i 0 ^^^ alphaToMod (discr.toNat + (state.b.getD (i - 1) rsA0).toNat)
    else state.lambda.getD i 0

/-- `B(x) <-- x*B(x)`. -/
def shiftedB (state : BerlekampMassey) : Bytes := rsA0 :: state.b.take rsParitys

/-- `B(x) <-- inv(discr_r) * lambda(x)`. -/
def scaledLambda (state : BerlekampMassey) (discr : UInt8) : Bytes :=
  state.lambda.map fun l =>
    if l = 0 then rsA0 else UInt8.ofNat (mod255 ((indexOf l).toNat + 255 - discr.toNat))

/-- The step number `r`. -/
def step (s : Bytes) (r : Nat) (state : BerlekampMassey) : BerlekampMassey :=
  let discr := indexOf (discrepancyAt s state.lambda r)
  if discr = rsA0 then { state with b := state.shiftedB }
  else if 2 * state.el ≤ r - 1 then
    { lambda := state.corrected discr, b := state.scaledLambda discr, el := r - state.el }
  else { state with lambda := state.corrected discr, b := state.shiftedB }

/-- The first steps. -/
def run (s : Bytes) : Nat → BerlekampMassey
  | 0 => start
  | r + 1 => (run s r).step s (r + 1)

end BerlekampMassey

/-- `deg(lambda(x))`, of a polynomial in index form. -/
def degLambda (lambda : Bytes) : Nat :=
  (List.range (rsParitys + 1)).foldl
    (fun degree i => if lambda.getD i rsA0 ≠ rsA0 then i else degree) 0

/-! ## Chien search -/

/-- The terms of the locator at the next power. -/
def chienAdvance (degree : Nat) (reg : Bytes) : Bytes :=
  reg.mapIdx fun j v =>
    if 1 ≤ j ∧ j ≤ degree ∧ v ≠ rsA0 then UInt8.ofNat (mod255 (v.toNat + j)) else v

/-- The value of the locator, from its terms. -/
def chienValue (degree : Nat) (reg : Bytes) : UInt8 :=
  (List.range degree).reverse.foldl
    (fun q j => if reg.getD (j + 1) rsA0 ≠ rsA0 then q ^^^ alphaTo (reg.getD (j + 1) rsA0).toNat
      else q) 1

/-- The loop over the powers: the roots with their locations, in the order found. -/
def chienSearch (degree : Nat) :
    Nat → Nat → Nat → Bytes → List (Nat × Nat) → List (Nat × Nat)
  | 0, _, _, _, found => found
  | turns + 1, i, k, reg, found =>
      let reg := chienAdvance degree reg
      if chienValue degree reg ≠ 0 then
        chienSearch degree turns (i + 1) (mod255 (k + rsIprim)) reg found
      else if (found ++ [(i, k)]).length = degree then found ++ [(i, k)]
      else chienSearch degree turns (i + 1) (mod255 (k + rsIprim)) reg (found ++ [(i, k)])

/-! ## Error values -/

/-- The coefficients of the evaluator below the degree of the locator, in index form. -/
def rsOmega (s lambda : Bytes) (degree : Nat) : Bytes :=
  (List.range degree).map fun i =>
    indexOf ((List.range (i + 1)).reverse.foldl
      (fun tmp j =>
        if s.getD (i - j) rsA0 ≠ rsA0 ∧ lambda.getD j rsA0 ≠ rsA0 then
          tmp ^^^ alphaToMod ((s.getD (i - j) rsA0).toNat + (lambda.getD j rsA0).toNat)
        else tmp) 0)

/-- `num1`. -/
def rsNum1 (omega : Bytes) (root : Nat) : UInt8 :=
  (List.range omega.length).reverse.foldl
    (fun num i =>
      if omega.getD i rsA0 ≠ rsA0 then num ^^^ alphaToMod ((omega.getD i rsA0).toNat + i * root)
      else num) 0

/-- `num2`. -/
def rsNum2 (root : Nat) : UInt8 := alphaToMod (root * (rsFcr - 1) + 255)

/-- `den`, the sum over the even powers. -/
def rsDen (lambda : Bytes) (degree root : Nat) : UInt8 :=
  (List.range (min degree (rsParitys - 1) / 2 + 1)).reverse.foldl
    (fun den m =>
      let i := 2 * m
      if lambda.getD (i + 1) rsA0 ≠ rsA0 then
        den ^^^ alphaToMod ((lambda.getD (i + 1) rsA0).toNat + i * root)
      else den) 0

/-- The error at one location is taken away. -/
def applyError (lambda omega : Bytes) (degree pad : Nat) (data : Bytes) (found : Nat × Nat) :
    Bytes :=
  let num1 := rsNum1 omega found.1
  let num2 := rsNum2 found.1
  let den := rsDen lambda degree found.1
  if num1 ≠ 0 ∧ pad ≤ found.2 then
    data.modify (found.2 - pad) fun byte => byte ^^^
      alphaToMod ((indexOf num1).toNat + (indexOf num2).toNat + 255 - (indexOf den).toNat)
  else data

/-- `decode_rs_8` without erasures, for a pad that fills the word up to 255 bytes. -/
def decodeRs8 (data : Bytes) : Option (Bytes × Nat) :=
  let pad := 255 - data.length
  if 255 < data.length ∨ 222 < pad then none
  else
    let s := syndromes data
    if s.all (· = 0) then some (data, 0)
    else
      let s := s.map indexOf
      let lambda := (BerlekampMassey.run s rsParitys).lambda.map indexOf
      let degree := degLambda lambda
      let found := chienSearch degree 255 1 (rsIprim - 1) lambda []
      if degree ≠ found.length then none
      else
        let omega := rsOmega s lambda degree
        some (found.reverse.foldl (applyError lambda omega degree pad) data, found.length)

end Skylink
