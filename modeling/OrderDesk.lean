import OrderDesk.Main
import OrderDesk.Store.Sequential
import OrderDesk.Proofs.Sorting
import OrderDesk.Proofs.Queue.Delivery
import OrderDesk.Proofs.Store.Refinement
import OrderDesk.Proofs.Store.Later
import OrderDesk.Proofs.Store.Tally
import OrderDesk.Proofs.Store.History
import OrderDesk.Proofs.Store.Footprint
import OrderDesk.Proofs.Store.Limits
import OrderDesk.Proofs.Order.Change
import OrderDesk.Proofs.Order.Closing
import OrderDesk.Proofs.Order.Placement
import OrderDesk.Proofs.Order.Pricing
import OrderDesk.Proofs.Pricing.Bounds
import OrderDesk.Proofs.Pricing.Surcharge
import OrderDesk.Proofs.Number.Value
import OrderDesk.Proofs.Number.Product
import OrderDesk.Proofs.Plan.DiscountTable
import OrderDesk.Proofs.Pricing.Shares
import OrderDesk.Proofs.Pricing.Growth
import OrderDesk.Proofs.Json.Quoted
import OrderDesk.Proofs.Program.Conduct
import OrderDesk.Proofs.Program.Calm
import OrderDesk.Proofs.Program.Faults
import OrderDesk.Proofs.Submission.Preparation
import OrderDesk.Proofs.Submission.AllOrNothing
import OrderDesk.Proofs.Submission.Rules
import OrderDesk.Proofs.Submission.Acceptance
import OrderDesk.Proofs.Desk.Conduct
import OrderDesk.Proofs.Desk.Clients
import OrderDesk.Proofs.Desk.Conservation
import OrderDesk.Proofs.Desk.GiftLedger
import OrderDesk.Proofs.Desk.Prices
import OrderDesk.Proofs.Desk.Solvency
import OrderDesk.Proofs.Desk.Turns
import OrderDesk.Proofs.Desk.Units
import OrderDesk.Proofs.Desk.References
import OrderDesk.Proofs.Desk.CouponLimits
import OrderDesk.Proofs.Expiry.Close
import OrderDesk.Proofs.Expiry.Tasks
import OrderDesk.Proofs.Expiry.Handling
import OrderDesk.Proofs.Expiry.Attempts
import OrderDesk.Proofs.Expiry.Retries
import OrderDesk.Proofs.Expiry.Worker
import OrderDesk.Proofs.Expiry.Drain
import OrderDesk.Proofs.Catalog.Seeding
import OrderDesk.Proofs.Catalog.Records
import OrderDesk.Proofs.Delimited.Cutting
import OrderDesk.Proofs.Delimited.ReadBack
import OrderDesk.Proofs.RequestFile.Bytes
import OrderDesk.Proofs.Submission.Renumbering
import OrderDesk.Proofs.CommandLine.Rows
import OrderDesk.Proofs.CommandLine.Omission
import OrderDesk.Proofs.CommandLine.Closing
import OrderDesk.Proofs.CommandLine.Traces
import OrderDesk.Proofs.Queue.Delivery
import OrderDesk.Proofs.Catalog.Records
import OrderDesk.Proofs.Desk.NewCustomers
import OrderDesk.Proofs.OrderSheet.Columns
import OrderDesk.Proofs.RequestFile.Rendering
import OrderDesk.Proofs.Json.ReadBack
import OrderDesk.Proofs.Number.DecimalText
import OrderDesk.Proofs.Time.InstantText
import OrderDesk.Proofs.Json.Records
import OrderDesk.Proofs.Plan.StoredTable
import OrderDesk.Proofs.Store.Formats
