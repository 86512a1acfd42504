import OrderDesk.Delimited
import OrderDesk.Error
import OrderDesk.Request
import OrderDesk.Text.Blank
import OrderDesk.Text.Integer

/-!
# Request files

A request file has a header and a row for each request. The columns are found by their
names; other columns are skipped. Blanks around names and values do not count, and an
empty value is a missing one. A row that cannot be read does no harm to the others.
-/

namespace OrderDesk

open OrderDesk.Text

/-- One row of a request file. -/
structure RequestRecord where
  kind : OrderKind
  user : UserId
  /-- The plan of a purchase, or the subscription of a renewal. -/
  target : Option Nat
  quantity : Option Amount
  coupon : Option String
  payment : PaymentId
  /-- The amount of a recharge. -/
  amount : Option Amount
  deriving DecidableEq

namespace RequestRecord

/-- A value that the kind of the row needs. -/
def needed {α : Type} (kind : OrderKind) (column : String) : Option α → Except OrderError α
  | some value => .ok value
  | none => .error (.missingColumn kind column)

/-- The user and the request of a row. -/
def toRequest (record : RequestRecord) : Except OrderError (UserId × Request) :=
  match record.kind with
  | .purchase => do
    let planId ← needed .purchase "target" record.target
    let request : PurchaseRequest := ⟨planId, record.quantity.getD 0, record.coupon, record.payment⟩
    return (record.user, .purchase request)
  | .renewal => do
    let subscriptionId ← needed .renewal "target" record.target
    let request : RenewalRequest :=
      ⟨subscriptionId, record.quantity.getD 0, record.coupon, record.payment⟩
    return (record.user, .renewal request)
  | .recharge => do
    let amount ← needed .recharge "amount" record.amount
    return (record.user, .recharge ⟨amount, record.payment⟩)

end RequestRecord

namespace RequestFile

/-! ### Columns -/

/-- The columns of a request file. -/
def columns : List String :=
  ["kind", "user", "target", "quantity", "coupon", "payment", "amount"]

/-- The values of a row under their columns. A column behind the end of the row has no
value. -/
abbrev Cells := List (String × Option String)

/-- The values of a row under the names of a header. Values behind the header are
skipped; a column that is not known may not lie behind the end of the row. -/
def cellsUnder : List String → List String → Option Cells
  | [], _ => some []
  | column :: header, value :: row => (cellsUnder header row).map ((column, some value) :: ·)
  | column :: header, [] =>
    if column ∈ columns then (cellsUnder header []).map ((column, none) :: ·) else none

/-- The values of a row. Without a header, all columns have to be there, in their
order. -/
def cells? (header : Option (List String)) (row : List String) : Option Cells :=
  match header with
  | some header =>
    if columns.all fun column => header.count column ≤ 1 then cellsUnder header row else none
  | none =>
    if columns.length ≤ row.length then some (columns.zip (row.map some)) else none

/-- A value that has to be there. -/
def required {α : Type} (cells : Cells) (column : String) (read : String → Option α) : Option α :=
  match cells.lookup column with
  | some (some value) => read value
  | _ => none

/-- A value that may be missing or empty. -/
def optional {α : Type} (cells : Cells) (column : String) (read : String → Option α) :
    Option (Option α) :=
  match cells.lookup column with
  | some (some value) => if value.isEmpty then some none else (read value).map some
  | _ => some none

/-- The number of a record. -/
def readId (value : String) : Option Nat :=
  match fieldNat? value.toList with
  | some n => if n < idLimit then some n else none
  | none => none

/-- An amount. -/
def readAmount (value : String) : Option Amount := (fieldInt? value.toList).bind Amount.ofInt?

/-- The record that the values of a row make up. -/
def recordOfCells? (cells : Cells) : Option RequestRecord := do
  let kind ← required cells "kind" OrderKind.ofName?
  let user ← required cells "user" readId
  let target ← optional cells "target" readId
  let quantity ← optional cells "quantity" readAmount
  let coupon ← optional cells "coupon" some
  let payment ← required cells "payment" readId
  let amount ← optional cells "amount" readAmount
  return { kind, user, target, quantity, coupon, payment, amount }

/-! ### Rows -/

/-- A row as texts without blanks around them; nothing when a field is no text. -/
abbrev Row := Option (List String)

/-- The record of a row. -/
def record (header row : Row) : Except OrderError RequestRecord :=
  match row.bind fun row => (cells? header row).bind recordOfCells? with
  | some record => .ok record
  | none => .error .malformedRow

/-- The records of the rows behind the header. -/
def records : List Row → List (Except OrderError RequestRecord)
  | [] => []
  | header :: rows => rows.map (record header)

/-- A row of characters. -/
def rowOfChars (fields : List (List Char)) : Row :=
  some (fields.map fun field => String.ofList (trimChars field))

/-- The text that bytes encode. -/
def textOfBytes (bytes : List UInt8) : Option String := String.fromUTF8? ⟨bytes.toArray⟩

/-- A row of bytes. -/
def rowOfBytes (fields : List (List UInt8)) : Row :=
  fields.mapM fun field => (textOfBytes field).map trim

/-- The records of a text. A mark of the byte order at its start does not count. -/
def ofText (s : String) : List (Except OrderError RequestRecord) :=
  let cs := match s.toList with
    | '\uFEFF' :: rest => rest
    | cs => cs
  records ((Delimited.readRows Char.toNat cs).map rowOfChars)

/-- The records of a file. When it is no text as a whole, only the rows with a field
that is no text are refused. -/
def ofBytes (bytes : ByteArray) : List (Except OrderError RequestRecord) :=
  match String.fromUTF8? bytes with
  | some s => ofText s
  | none =>
    let bytes := match bytes.toList with
      | 0xEF :: 0xBB :: 0xBF :: rest => rest
      | bytes => bytes
    records ((Delimited.readRows UInt8.toNat bytes).map rowOfBytes)

end RequestFile

end OrderDesk
