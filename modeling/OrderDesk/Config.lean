import OrderDesk.Amount

/-!
# Configuration

The limits under which the desk takes orders.
-/

namespace OrderDesk

/-- The limits under which the desk takes orders. -/
structure Config where
  /-- A user who holds a subscription cannot buy another one. -/
  singleSubscription : Bool
  maxQuantity : Amount
  /-- No order may ask for more, at any stage of its pricing. -/
  maxOrderAmount : Amount
  maxRechargeAmount : Amount
  /-- Seconds after which an order that has not been paid is closed. -/
  closeAfter : Nat
  deriving DecidableEq

namespace Config

/-- The limits that hold unless others are given. -/
def standard : Config where
  singleSubscription := false
  maxQuantity := 1000
  maxOrderAmount := 2147483647
  maxRechargeAmount := 2000000000
  closeAfter := 900

end Config

end OrderDesk
