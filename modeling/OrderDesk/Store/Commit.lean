import OrderDesk.Store.Basic
import OrderDesk.Store.Layer
import OrderDesk.Store.Write

/-!
# Commits

A commit carries out a list of writes, all or none. The writes are carried out on an
overlay, which holds the records they touch and the entries they add; each write sees
what the earlier ones did. The overlay is published when no write was refused.
-/

namespace OrderDesk

/-- A store with the changes that a commit has made so far. -/
structure Overlay where
  users : Layer User.id
  plans : Layer Plan.id
  coupons : Layer Coupon.code
  orders : Layer Order.orderNo
  /-- The entries added to the ledger. -/
  entries : List GiftEntry

namespace Overlay

/-- A store without changes. -/
def ofStore (store : Store) : Overlay :=
  { users := .ofTable store.users
    plans := .ofTable store.plans
    coupons := .ofTable store.coupons
    orders := .ofTable store.orders
    entries := [] }

/-- Carries out one write. -/
def write (overlay : Overlay) : Write → Except WriteFault Overlay
  | .setGiftBalance id expected balance =>
    match overlay.users.find? id with
    | none => .error (.refused (.notFound (.user id)))
    | some user => do
      let user ← (user.rebalance expected balance).mapError .refused
      return { overlay with users := overlay.users.put user }
  | .appendEntry entry => .ok { overlay with entries := overlay.entries ++ [entry] }
  | .takeUnit id =>
    match overlay.plans.find? id with
    | none => .error (.refused (.notFound (.plan id)))
    | some plan => do
      let plan ← plan.takeUnit.mapError .refused
      return { overlay with plans := overlay.plans.put plan }
  | .returnUnit id =>
    match overlay.plans.find? id with
    | none => .ok overlay
    | some plan => do
      let plan ← plan.returnUnit.mapError .stopped
      return { overlay with plans := overlay.plans.put plan }
  | .redeem code =>
    match overlay.coupons.find? code with
    | none => .error (.refused (.notFound (.coupon code)))
    | some coupon => do
      let coupon ← coupon.redeem
      return { overlay with coupons := overlay.coupons.put coupon }
  | .release code =>
    match overlay.coupons.find? code with
    | none => .ok overlay
    | some coupon => .ok { overlay with coupons := overlay.coupons.put coupon.release }
  | .insert order =>
    match overlay.orders.find? order.orderNo with
    | none => .ok { overlay with orders := overlay.orders.put order }
    | some _ => .error (.refused (.orderExists order.orderNo))
  | .move orderNo current next =>
    match overlay.orders.find? orderNo with
    | none => .error (.refused (.notFound (.order orderNo)))
    | some order => do
      let order ← (order.move current next).mapError .refused
      return { overlay with orders := overlay.orders.put order }

/-- Carries out some writes, up to the first that is refused. -/
def writeAll (overlay : Overlay) : List Write → Except WriteFault Overlay
  | [] => .ok overlay
  | w :: rest => do
    let overlay ← overlay.write w
    overlay.writeAll rest

/-- The store with the changes. -/
def publish (overlay : Overlay) (store : Store) : Store :=
  { store with
    users := overlay.users.publish
    plans := overlay.plans.publish
    coupons := overlay.coupons.publish
    orders := overlay.orders.publish
    ledger := store.ledger ++ overlay.entries }

end Overlay

/-- The store after some writes, or the reason of the first that fails. -/
def Store.commit (store : Store) (writes : List Write) : Except WriteFault Store := do
  let overlay ← (Overlay.ofStore store).writeAll writes
  return overlay.publish store

end OrderDesk
