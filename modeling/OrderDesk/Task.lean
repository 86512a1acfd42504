import OrderDesk.Amount
import OrderDesk.Json.Fields
import OrderDesk.Json.Printer
import OrderDesk.Json.Reader
import OrderDesk.Time.Instant

/-!
# Tasks

Work that is put off: its kind, a text that says what to work on and how often it may
be tried. The one kind there is closes an order that has not been paid.
-/

namespace OrderDesk

/-- Work that is put off. -/
structure Task where
  kind : String
  payload : String
  /-- How often the task may be tried; once at least. -/
  maxRetry : Nat
  deriving DecidableEq

/-- What a task to close an order says. -/
structure ClosePayload where
  orderNo : OrderNo
  deriving DecidableEq

namespace ClosePayload

/-- The JSON form of the payload. -/
def toJson (payload : ClosePayload) : Json := .obj [("orderNo", .str payload.orderNo)]

/-- Reads the JSON form of the payload. -/
def ofJson? (value : Json) : Option ClosePayload := do
  let fields ← Json.Fields.of? ["orderNo"] value
  return ⟨← fields.required "orderNo" Json.str?⟩

/-- Reads the text of the payload. -/
def ofText? (s : String) : Option ClosePayload := (Json.ofText? s).bind ofJson?

end ClosePayload

namespace Task

/-- The kind of the tasks that close an order. -/
def closeKind : String := "close-order"

/-- How often such a task may be tried. -/
def closeRetry : Nat := 3

/-- The task that closes an order. -/
def closeOrder (orderNo : OrderNo) : Task :=
  ⟨closeKind, (ClosePayload.mk orderNo).toJson.text, closeRetry⟩

end Task

end OrderDesk
