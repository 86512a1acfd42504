import OrderDesk.Delimited
import OrderDesk.Order
import OrderDesk.Text.Digits

/-!
# Order sheets

Orders as rows of a table with a header. A sheet may be written in several parts; the
header comes once, before the first order.
-/

namespace OrderDesk.OrderSheet

open OrderDesk.Text

/-- The columns of a sheet. -/
def columns : List String :=
  ["order_no", "user", "kind", "type", "status", "plan", "quantity", "price", "discount",
    "coupon", "coupon_discount", "gift_amount", "fee_amount", "amount", "method", "is_new",
    "parent_order_no"]

/-- The fields of an order. What is missing is an empty field. -/
def fields (order : Order) : List String :=
  [order.orderNo, natText order.userId, order.kind.name, natText order.kind.code,
    order.status.name, (order.planId.map natText).getD "", intText order.quantity,
    intText order.price, intText order.discount, order.coupon.getD "",
    intText order.couponDiscount, intText order.giftAmount, intText order.feeAmount,
    intText order.amount, order.method, if order.isNew then "true" else "false",
    order.parentOrderNo.getD ""]

/-- The text of a row. -/
def rowText (fields : List String) : String :=
  String.ofList (Delimited.rowChars (fields.map String.toList))

/-- A sheet as far as it is written. -/
structure Writer where
  text : String
  /-- The header is written. -/
  started : Bool

namespace Writer

/-- The sheet before anything is written. -/
def new : Writer := ⟨"", false⟩

/-- Writes an order, after the header if it is the first. -/
def writeOrder (writer : Writer) (order : Order) : Writer :=
  let head := if writer.started then "" else rowText columns
  ⟨writer.text ++ head ++ rowText (fields order), true⟩

/-- Writes some orders. -/
def write (writer : Writer) (orders : List Order) : Writer := orders.foldl writeOrder writer

end Writer

/-- The sheet of some orders. -/
def text (orders : List Order) : String := (Writer.new.write orders).text

end OrderDesk.OrderSheet
