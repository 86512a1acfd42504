import OrderDesk.Proofs.Delimited.ReadBack
import OrderDesk.Proofs.Text.Digits

/-!
# What a sheet of orders shows

A sheet may be written in any number of parts, of which some may be empty: the text is the one that
is written in a single part, because whether the header is written yet is all that goes from one
part to the next (`write_parts`). Read again, the sheet has its seventeen columns in the first row
and then a row for each order.

What a row shows is told by the names of the columns (`Shows`). A number is read from its field, and
what an order does not have is an empty field.
-/

namespace OrderDesk.OrderSheet

open OrderDesk.Text

/-! ### Rows -/

/-- The field of a row in a column. -/
def field? (row : List String) (column : String) : Option String := (columns.zip row).lookup column

/-- The number of a record in a column. -/
def number? (row : List String) (column : String) : Option Nat :=
  (field? row column).bind fun field => fieldNat? field.toList

/-- The amount in a column. -/
def amount? (row : List String) (column : String) : Option Amount :=
  (field? row column).bind fun field => fieldInt? field.toList

/-- A row has the values of an order in the columns of their names. -/
structure Shows (row : List String) (order : Order) : Prop where
  length : row.length = 17
  orderNo : field? row "order_no" = some order.orderNo
  user : number? row "user" = some order.userId
  kind : (field? row "kind").bind OrderKind.ofName? = some order.kind
  code : number? row "type" = some order.kind.code
  status : field? row "status" = some order.status.name
  plan : ∀ id, order.planId = some id → number? row "plan" = some id
  no_plan : order.planId = none → field? row "plan" = some ""
  quantity : amount? row "quantity" = some order.quantity
  price : amount? row "price" = some order.price
  discount : amount? row "discount" = some order.discount
  coupon : ∀ code, order.coupon = some code → field? row "coupon" = some code
  no_coupon : order.coupon = none → field? row "coupon" = some ""
  couponDiscount : amount? row "coupon_discount" = some order.couponDiscount
  giftAmount : amount? row "gift_amount" = some order.giftAmount
  feeAmount : amount? row "fee_amount" = some order.feeAmount
  amount : amount? row "amount" = some order.amount
  method : field? row "method" = some order.method
  isNew : field? row "is_new" = some (if order.isNew then "true" else "false")
  parent : ∀ orderNo, order.parentOrderNo = some orderNo →
    field? row "parent_order_no" = some orderNo
  no_parent : order.parentOrderNo = none → field? row "parent_order_no" = some ""

theorem number?_of_field? {row : List String} {column : String} {n : Nat}
    (h : field? row column = some (natText n)) : number? row column = some n := by
  simp [number?, h, natText, fieldNat?_digitsOfNat]

theorem amount?_of_field? {row : List String} {column : String} {n : Amount}
    (h : field? row column = some (intText n)) : amount? row column = some n := by
  simp [amount?, h, intText, fieldInt?_charsOfInt]

/-- What an order has is in its field. -/
theorem field?_of_some {row : List String} {column value : String} {held : Option String}
    (h : held = some value) (hfield : field? row column = some (held.getD "")) :
    field? row column = some value := by
  rw [hfield, h]
  rfl

/-- What an order does not have is an empty field. -/
theorem field?_of_none {row : List String} {column : String} {held : Option String}
    (h : held = none) (hfield : field? row column = some (held.getD "")) :
    field? row column = some "" := by
  rw [hfield, h]
  rfl

/-- **The row of an order shows the order.** -/
theorem shows_fields (order : Order) : Shows (fields order) order where
  length := rfl
  orderNo := rfl
  user := number?_of_field? rfl
  kind := by
    have hfield : field? (fields order) "kind" = some order.kind.name := rfl
    rw [hfield]
    cases order.kind <;> rfl
  code := number?_of_field? rfl
  status := rfl
  plan id h := number?_of_field? (field?_of_some (congrArg (Option.map natText) h) rfl)
  no_plan h := field?_of_none (congrArg (Option.map natText) h) rfl
  quantity := amount?_of_field? rfl
  price := amount?_of_field? rfl
  discount := amount?_of_field? rfl
  coupon code h := field?_of_some h rfl
  no_coupon h := field?_of_none h rfl
  couponDiscount := amount?_of_field? rfl
  giftAmount := amount?_of_field? rfl
  feeAmount := amount?_of_field? rfl
  amount := amount?_of_field? rfl
  method := rfl
  isNew := rfl
  parent orderNo h := field?_of_some h rfl
  no_parent h := field?_of_none h rfl

/-! ### Parts -/

/-- Writing in parts is writing all orders at once. -/
theorem write_parts (writer : Writer) (parts : List (List Order)) :
    parts.foldl Writer.write writer = writer.write parts.flatten := by
  induction parts generalizing writer with
  | nil => rfl
  | cons part rest ih =>
    rw [List.foldl_cons, ih, List.flatten_cons, Writer.write, Writer.write, Writer.write,
      List.foldl_append]

/-- **A sheet is read as it was written, in whatever parts.** The text of some parts with an order in
one of them is that of all the orders in a single part. The rows that are read from it are the
seventeen columns and then one row for each order, in their order, with the values of the order. -/
theorem sheet_shows_orders (parts : List (List Order)) (h : parts.flatten ≠ []) :
    let sheet := (parts.foldl Writer.write .new).text
    sheet = text parts.flatten ∧
    read sheet =
      ["order_no", "user", "kind", "type", "status", "plan", "quantity", "price", "discount",
        "coupon", "coupon_discount", "gift_amount", "fee_amount", "amount", "method", "is_new",
        "parent_order_no"] :: parts.flatten.map fields ∧
    ∀ order ∈ parts.flatten, Shows (fields order) order := by
  intro sheet
  have hsheet : sheet = text parts.flatten := congrArg Writer.text (write_parts .new parts)
  refine ⟨hsheet, ?_, fun order _ => shows_fields order⟩
  rw [hsheet, read_text, if_neg h]
  rfl

/-- An order with a comma, quotes and line breaks in its texts. -/
def awkward : Order where
  orderNo := "a,\"b\"\r\nc"
  userId := 18446744073709551615
  parentOrderNo := some "\n"
  kind := .renewal
  quantity := -9223372036854775808
  price := 300
  discount := 0
  coupon := some "\""
  couponDiscount := 0
  giftAmount := 0
  feeAmount := 0
  amount := 300
  paymentId := 3
  method := ",,"
  status := .paid
  isNew := false
  planId := none
  subscribeToken := none
  createdAt := ⟨0, 0⟩

/-- The order is written behind an empty part, and its texts are read as they are. -/
theorem sheet_shows_orders_of_awkward :
    let sheet := (([[], [awkward], []] : List (List Order)).foldl Writer.write .new).text
    ([[], [awkward], []] : List (List Order)).flatten ≠ [] ∧
    ((read sheet).tail.map fun row => row.take 6) =
      [["a,\"b\"\r\nc", "18446744073709551615", "renewal", "2", "paid", ""]] := by
  intro sheet
  obtain ⟨-, hread, -⟩ := sheet_shows_orders [[], [awkward], []] (List.cons_ne_nil _ _)
  refine ⟨List.cons_ne_nil _ _, ?_⟩
  rw [hread]
  decide +kernel

end OrderDesk.OrderSheet
