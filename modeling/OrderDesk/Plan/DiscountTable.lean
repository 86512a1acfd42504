import OrderDesk.Amount
import OrderDesk.Json.Fields
import OrderDesk.Json.Printer
import OrderDesk.Json.Reader
import OrderDesk.Text.Blank

/-!
# Quantity discounts

A discount table lists tiers: from a threshold on, a percentage of the list price is
charged. Thresholds are positive and percentages lie in `(0, 100]`. The tiers are
kept by ascending threshold, equal thresholds in the order in which they were given.

A table is stored as a text that holds a JSON list. A text that holds no such list, or
a list with a tier that is out of range, stands for the empty table, never for a part
of the list.
-/

namespace OrderDesk

/-- One row of a discount table. -/
structure DiscountTier where
  /-- The least quantity the tier is for. -/
  quantity : Amount
  /-- How many percent of the list price are charged. -/
  discount : Decimal
  deriving DecidableEq

/-- Why a list of tiers is no table. -/
inductive TierFault
  /-- The threshold is not positive. -/
  | threshold (quantity : Amount)
  /-- The percentage is not in `(0, 100]`. -/
  | discount (rate : Decimal)
  deriving DecidableEq

namespace TierFault

/-- The fault in words. -/
def message : TierFault → String
  | .threshold quantity => "tier threshold " ++ Text.intText quantity ++ " must be positive"
  | .discount rate => "tier discount " ++ rate.text ++ " must be within (0, 100]"

end TierFault

namespace DiscountTier

/-- The fault of a tier, if it has one. The threshold is looked at first. -/
def fault? (tier : DiscountTier) : Option TierFault :=
  if tier.quantity ≤ 0 then some (.threshold tier.quantity)
  else if tier.discount ≤ 0 ∨ ¬ tier.discount ≤ Decimal.hundred then some (.discount tier.discount)
  else none

/-- The JSON form of a tier. -/
def toJson (tier : DiscountTier) : Json :=
  .obj [("quantity", .int tier.quantity), ("discount", .str tier.discount.text)]

/-- Reads the JSON form of a tier. -/
def ofJson? (value : Json) : Option DiscountTier := do
  let fields ← Json.Fields.of? ["quantity", "discount"] value
  let quantity ← fields.required "quantity" Json.amount?
  let discount ← fields.required "discount" Json.decimal?
  return { quantity, discount }

end DiscountTier

/-- Tiers by ascending threshold. -/
structure DiscountTable where
  tiers : List DiscountTier
  deriving DecidableEq

namespace DiscountTable

/-- The table without tiers. -/
def empty : DiscountTable := ⟨[]⟩

/-- The table has no tiers. -/
def isEmpty (table : DiscountTable) : Bool := table.tiers.isEmpty

/-- The table of the given tiers, or the fault of the first faulty one. -/
def ofTiers (tiers : List DiscountTier) : Except TierFault DiscountTable :=
  match tiers.findSome? DiscountTier.fault? with
  | some fault => .error fault
  | none => .ok ⟨tiers.mergeSort fun a b => a.quantity ≤ b.quantity⟩

/-- The tiers that a text lists. -/
def tiersOfText? (s : String) : Option (List DiscountTier) :=
  (Json.ofText? s).bind (Json.list? DiscountTier.ofJson?)

/-- The table that a stored text stands for. -/
def parse (s : String) : DiscountTable :=
  if Text.isBlankText s then empty
  else
    match tiersOfText? s with
    | none => empty
    | some tiers => (ofTiers tiers).toOption.getD empty

/-- The text under which a table is stored. -/
def encode (table : DiscountTable) : String :=
  if table.isEmpty then "" else (Json.arr (table.tiers.map DiscountTier.toJson)).text

/-- The JSON form of a table: its stored text. -/
def toJson (table : DiscountTable) : Json := .str table.encode

/-- Reads the JSON form of a table; `null` stands for the empty one. -/
def ofJson? (value : Json) : Option DiscountTable :=
  (value.nullable? Json.str?).map fun s => (s.map parse).getD empty

end DiscountTable

end OrderDesk
