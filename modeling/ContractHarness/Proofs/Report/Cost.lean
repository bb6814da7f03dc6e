import ContractHarness.Proofs.Except
import ContractHarness.Proofs.Report.Grouping
import ContractHarness.Report.Cost
import ContractHarness.Text.Decimal

/-!
# The cost of gas in cents and in dollars

Gas and prices of 64 bits have a product of up to 192, while the calculation has 128. The product of
the gas and its price always fits; the one with the price of ether and the sum that rounds need not,
and the calculation stops exactly where one of them does not. Elsewhere it comes to the nearest
cent. What is shown of the cents says how many there are, so that amounts that look the same are the
same.
-/

set_option autoImplicit false

namespace ContractHarness.Report

variable {a b n : Nat} {text : String}

/-! ## Cents -/

/-- A product below the bound is calculated. -/
theorem multiply_of_lt (h : a * b < bound) : multiply a b = .ok (a * b) :=
  if_pos h

/-- A product from the bound up is refused. -/
theorem multiply_of_le (h : bound ≤ a * b) : multiply a b = .error .multiplication :=
  if_neg (Nat.not_lt_of_le h)

/-- A sum below the bound is calculated. -/
theorem add_of_lt (h : a + b < bound) : add a b = .ok (a + b) :=
  if_pos h

/-- A sum from the bound up is refused. -/
theorem add_of_le (h : bound ≤ a + b) : add a b = .error .addition :=
  if_neg (Nat.not_lt_of_le h)

namespace Pricing

variable {pricing : Pricing} {gas : UInt64}

/-- The exact product of an amount of gas and the two prices. -/
def units (pricing : Pricing) (gas : UInt64) : Nat :=
  gas.toNat * pricing.gasPriceGwei.toNat * pricing.etherPrice.toNat

/-- Two numbers of 64 bits have a product of 128. -/
theorem gwei_lt_bound (pricing : Pricing) (gas : UInt64) :
    gas.toNat * pricing.gasPriceGwei.toNat < bound :=
  Nat.mul_lt_mul'' gas.toNat_lt pricing.gasPriceGwei.toNat_lt

/-- The calculation stops at the product with the price of ether when that is too large. -/
theorem cents_of_units_ge (h : bound ≤ pricing.units gas) :
    pricing.cents gas = .error .multiplication := by
  unfold cents
  rw [multiply_of_lt (pricing.gwei_lt_bound gas), Except.bind_ok, multiply_of_le h,
    Except.bind_error]

/-- When the product fits, what is left is to add half a cent and to divide. -/
theorem cents_of_units_lt (h : pricing.units gas < bound) : pricing.cents gas =
    (add (pricing.units gas) (unitsPerCent / 2) >>= fun sum => .ok (sum / unitsPerCent)) := by
  unfold cents
  rw [multiply_of_lt (pricing.gwei_lt_bound gas), Except.bind_ok, multiply_of_lt h, Except.bind_ok]
  rfl

/-- Half a cent is five million units. -/
theorem half_unitsPerCent : unitsPerCent / 2 = 5000000 := by decide

/-- The calculation stops at the sum that rounds when that is too large. -/
theorem cents_of_sum_ge (h : pricing.units gas < bound)
    (hsum : bound ≤ pricing.units gas + 5000000) : pricing.cents gas = .error .addition := by
  rw [cents_of_units_lt h, half_unitsPerCent, add_of_le hsum, Except.bind_error]

/-- When the sum fits, it is divided into cents. -/
theorem cents_of_sum_lt (h : pricing.units gas + 5000000 < bound) :
    pricing.cents gas = .ok ((pricing.units gas + 5000000) / 10000000) := by
  rw [cents_of_units_lt (by omega), half_unitsPerCent, add_of_lt h, Except.bind_ok]
  rfl

/-- How the calculation of a cost from the exact product of gas and prices ends. -/
inductive Costs (units : Nat) : Except Overflow Nat → Prop
  | multiplication (beyond : bound ≤ units) : Costs units (.error .multiplication)
  | addition (within : units < bound) (beyond : bound ≤ units + 5000000) :
    Costs units (.error .addition)
  | cents (within : units + 5000000 < bound) : Costs units (.ok ((units + 5000000) / 10000000))

/-- The calculation stops where it has to and comes to the nearest cent elsewhere. -/
theorem costs_cents (pricing : Pricing) (gas : UInt64) :
    Costs (pricing.units gas) (pricing.cents gas) := by
  by_cases hunits : pricing.units gas < bound
  · by_cases hsum : pricing.units gas + 5000000 < bound
    · rw [cents_of_sum_lt hsum]
      exact .cents hsum
    · rw [cents_of_sum_ge hunits (Nat.le_of_not_lt hsum)]
      exact .addition hunits (Nat.le_of_not_lt hsum)
  · rw [cents_of_units_ge (Nat.le_of_not_lt hunits)]
    exact .multiplication (Nat.le_of_not_lt hunits)

/-- The calculation stops with an overflow exactly when the exact product, with the half cent that
rounds it, does not fit 128 bits: in a multiplication when the product does not, and otherwise in
the addition. Elsewhere it comes to the cents nearest to the product, a half up. -/
theorem cents_nearest (pricing : Pricing) (gas : UInt64) :
    ((∃ overflow, pricing.cents gas = .error overflow) ↔
        Nat.pow 2 128 ≤ pricing.units gas + 5000000) ∧
      (pricing.cents gas = .error .multiplication ↔ Nat.pow 2 128 ≤ pricing.units gas) ∧
      (pricing.cents gas = .error .addition ↔
        pricing.units gas < Nat.pow 2 128 ∧ Nat.pow 2 128 ≤ pricing.units gas + 5000000) ∧
      ∀ cents : Nat, pricing.cents gas = .ok cents ↔
        pricing.units gas + 5000000 < Nat.pow 2 128 ∧
          (10000000 * cents - 5000000 : Int) ≤ pricing.units gas ∧
          (pricing.units gas : Int) < 10000000 * cents + 5000000 := by
  have hbound : Nat.pow 2 128 = bound := rfl
  have hcosts := pricing.costs_cents gas
  rw [hbound]
  generalize pricing.cents gas = result at hcosts
  generalize pricing.units gas = units at hcosts
  cases hcosts with
  | multiplication beyond =>
    refine ⟨iff_of_true ⟨_, rfl⟩ (by omega), iff_of_true rfl beyond, ?_, fun cents => ?_⟩
    · exact iff_of_false nofun (by omega)
    · exact iff_of_false nofun (by omega)
  | addition within beyond =>
    refine ⟨iff_of_true ⟨_, rfl⟩ beyond, ?_, iff_of_true rfl ⟨within, beyond⟩, fun cents => ?_⟩
    · exact iff_of_false nofun (by omega)
    · exact iff_of_false nofun (by omega)
  | cents within =>
    refine ⟨?_, ?_, ?_, fun cents => ?_⟩
    · exact iff_of_false nofun (by omega)
    · exact iff_of_false nofun (by omega)
    · exact iff_of_false nofun (by omega)
    · rw [Except.ok.injEq]
      omega

end Pricing

/-! ## Dollars -/

/-- Reads an amount of dollars as a number of cents: digits with commas among them behind the sign,
and two digits behind the point. -/
def readDollars? (text : String) : Option Nat :=
  match text.toList with
  | '$' :: amount =>
    match splitAtMark '.' amount with
    | some (dollars, [tens, ones]) => do
      let dollars ← Decimal.toNat? (dollars.filter (· ≠ ','))
      let cents ← Decimal.toNat? [tens, ones]
      return dollars * 100 + cents
    | _ => none
  | _ => none

/-- The text is an amount of cents in dollars: a number in groups behind the sign, and two digits
behind the point. It can be read as the amount. -/
structure IsAmount (text : String) (cents : Nat) : Prop where
  form : ∃ dollars tens ones, text = "$" ++ dollars ++ "." ++ String.ofList [tens, ones] ∧
    IsGrouped dollars (cents / 100) ∧ tens.isDigit = true ∧ ones.isDigit = true
  read : readDollars? text = some cents

/-- The two digits behind the point are read back. -/
theorem toNat?_twoDigits (h : n < 100) : Decimal.toNat? (twoDigits n) = some n := by
  have hall : ∀ n < 100, Decimal.toNat? (twoDigits n) = some n := by decide
  exact hall n h

/-- They are digits. -/
theorem isDigit_of_mem_twoDigits {c : Char} (hc : c ∈ twoDigits n) : c.isDigit = true := by
  have hall : ∀ d < 10, (Nat.digitChar d).isDigit = true := by decide
  rw [twoDigits, List.mem_cons, List.mem_singleton] at hc
  rcases hc with rfl | rfl
  · exact hall _ (Nat.mod_lt _ (by decide))
  · exact hall _ (Nat.mod_lt _ (by decide))

/-- The number of cents is read back from the amount that is shown. -/
theorem readDollars?_dollars (cents : Nat) : readDollars? (dollars cents) = some cents := by
  have hgrouped := isGrouped_grouped (cents / 100)
  have htext : (dollars cents).toList =
      '$' :: ((grouped (cents / 100)).toList ++ '.' :: twoDigits (cents % 100)) := by
    simp [dollars]
  have hpoint : '.' ∉ (grouped (cents / 100)).toList := by
    intro h
    have hdigit := hgrouped.isDigit_of_mem h (by decide)
    revert hdigit
    decide
  have hcents : Decimal.toNat? (twoDigits (cents % 100)) = some (cents % 100) :=
    toNat?_twoDigits (Nat.mod_lt _ (by decide))
  unfold readDollars?
  rw [htext]
  simp only [splitAtMark_append '.' _ _ hpoint]
  show (do
    let dollars ← Decimal.toNat? ((grouped (cents / 100)).toList.filter (· ≠ ','))
    let cents ← Decimal.toNat? (twoDigits (cents % 100))
    return dollars * 100 + cents) = some cents
  rw [hgrouped.filter_eq, Decimal.toNat?_toDigits, hcents, Option.bind_eq_bind, Option.bind_some,
    Option.bind_some, Nat.div_add_mod', Option.pure_def]

/-- What is shown is an amount: a grouped number of dollars and two digits of cents. -/
theorem isAmount_dollars (cents : Nat) : IsAmount (dollars cents) cents where
  form := by
    refine ⟨_, _, _, rfl, isGrouped_grouped _, ?_, ?_⟩
    · exact isDigit_of_mem_twoDigits List.mem_cons_self
    · exact isDigit_of_mem_twoDigits (List.mem_cons_of_mem _ List.mem_cons_self)
  read := readDollars?_dollars cents

/-- Amounts that look the same are the same. -/
theorem dollars_inj {cents cents' : Nat} : dollars cents = dollars cents' ↔ cents = cents' := by
  constructor
  · intro h
    have hread := readDollars?_dollars cents
    rw [h, readDollars?_dollars] at hread
    exact (Option.some.inj hread).symm
  · rintro rfl
    rfl

example : dollars 123456709 = "$1,234,567.09" := by decide

namespace Pricing

variable {pricing other : Pricing} {gas spent : UInt64}

/-- Costs that are shown alike are alike, and an overflow shows as itself. -/
theorem cost_eq_iff : pricing.cost gas = other.cost spent ↔
    pricing.cents gas = other.cents spent := by
  unfold cost
  cases pricing.cents gas <;> cases other.cents spent <;> simp [Except.map, dollars_inj]

/-- A number is written with its digits in groups of three. A cost that does not overflow is written
as such a number of dollars and two digits for the cents, from which the cents can be read, so that
two costs look the same exactly when their cents are the same. -/
theorem cost_isAmount (pricing : Pricing) (gas : UInt64) :
    (∀ n, IsGrouped (grouped n) n) ∧
      (∀ cents, pricing.cents gas = .ok cents →
        ∃ text, pricing.cost gas = .ok text ∧ IsAmount text cents) ∧
      ∀ (other : Pricing) (spent : UInt64),
        pricing.cost gas = other.cost spent ↔ pricing.cents gas = other.cents spent := by
  refine ⟨isGrouped_grouped, fun cents hcents => ?_, fun other spent => cost_eq_iff⟩
  refine ⟨dollars cents, ?_, isAmount_dollars cents⟩
  unfold cost
  rw [hcents]
  rfl

/-- All the gas that can be counted costs as much at the highest price, with ether at a dollar, as
at the lowest price with ether at the highest. -/
theorem cost_isAmount_dearest : ∃ text,
    (⟨0xFFFFFFFFFFFFFFFF, 1⟩ : Pricing).cost 0xFFFFFFFFFFFFFFFF = .ok text ∧
      IsAmount text 34028236692093846342648111928435 ∧
      (⟨1, 0xFFFFFFFFFFFFFFFF⟩ : Pricing).cost 0xFFFFFFFFFFFFFFFF = .ok text := by
  have hgas : (⟨0xFFFFFFFFFFFFFFFF, 1⟩ : Pricing).cents 0xFFFFFFFFFFFFFFFF =
      .ok 34028236692093846342648111928435 := cents_of_sum_lt (by decide +kernel)
  have hether : (⟨1, 0xFFFFFFFFFFFFFFFF⟩ : Pricing).cents 0xFFFFFFFFFFFFFFFF =
      .ok 34028236692093846342648111928435 := cents_of_sum_lt (by decide +kernel)
  obtain ⟨-, hamount, hsame⟩ := cost_isAmount ⟨0xFFFFFFFFFFFFFFFF, 1⟩ 0xFFFFFFFFFFFFFFFF
  obtain ⟨text, hcost, hisAmount⟩ := hamount _ hgas
  refine ⟨text, hcost, hisAmount, ?_⟩
  rw [← (hsame _ _).mpr (hgas.trans hether.symm), hcost]

end Pricing

end ContractHarness.Report
