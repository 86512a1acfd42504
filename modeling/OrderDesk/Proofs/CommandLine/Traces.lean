import OrderDesk.Proofs.Catalog.Seeding
import OrderDesk.Proofs.CommandLine.Closing
import OrderDesk.Proofs.CommandLine.Omission
import OrderDesk.Proofs.Delimited.ReadBack
import OrderDesk.Proofs.RequestFile.Bytes

/-!
# Refused requests leave no trace

A run reads a catalog, carries out the rows of a request file, closes the orders that are not paid
if it is asked to, and prints its orders. What it comes to is told by its rows
(`run_of_runs`): the sheet has one row for each order, and the log tells the lines that were
passed over.

So the sheet has one row for every request that was accepted, and no other; and when any of the
other rows of the request file are deleted, it stays the same but for the numbers of the orders
(`refused_rows_leave_no_trace`).
-/

namespace OrderDesk.CommandLine

open Delimited

variable {options : Options} {catalogBytes requestBytes : ByteArray} {catalog : Catalog}
  {clock clock' : Clock} {logFilter : LogFilter} {after : Progress} {lines : List Nat}
  {order : Order} {orders : List Order}

/-! ### One run -/

/-- The lines of the rows that were passed over, as the log tells them. -/
def Report.refusedLines (report : Report) : List Nat :=
  report.log.filterMap LogRecord.refusedLine?

/-- The rows that were printed, without the header. -/
def Report.rows (report : Report) : List (List String) := (OrderSheet.read report.sheet).tail

/-- The settings under which requests are carried out. -/
def Options.config (options : Options) : Config :=
  { Config.standard with
    singleSubscription := options.singleModel
    closeAfter := options.closeMinutes * 60 }

/-- A run before its first row. -/
def opening (options : Options) (catalog : Catalog) (clock : Clock) : Progress :=
  ⟨.calm catalog.store .empty clock.start, 0,
    if options.dbPath.isSome then [.noDatabase] else []⟩

/-- What a run reports in the end. -/
def Progress.report (progress : Progress) (logFilter : LogFilter) : Report :=
  ⟨OrderSheet.text (progress.world.store.orders.rows.mergeSort printsBefore), progress.log.reverse,
    logFilter⟩

/-- An order as a run prints it. -/
def Options.printed (options : Options) (order : Order) : Order :=
  if options.closeUnpaid then order.withStatus .cancelled else order

/-- The amounts of a catalog that is accepted fit. -/
theorem fits_of_readCatalog (h : readCatalog catalogBytes = .ok catalog) : catalog.store.Fits := by
  unfold readCatalog at h
  split at h
  · exact Catalog.fits_store h
  · cases h

theorem readCatalog_toByteArray (s : String) : readCatalog s.toByteArray = Catalog.ofText s := by
  rw [readCatalog, Text.fromUTF8?_toByteArray]

/-- A run behind the catalog. -/
theorem run_eq (hsetting : LogFilter.ofSetting? options.logSetting = some logFilter)
    (hwindow : (window? options.closeMinutes clock.start).isSome)
    (hcatalog : readCatalog catalogBytes = .ok catalog) :
    run options ⟨some catalogBytes, some requestBytes⟩ clock =
      (opening options catalog clock).rows options.config clock 1
          (RequestFile.ofBytes requestBytes) >>= fun progress =>
        (if options.closeUnpaid then progress.closeUnpaid options.config clock
          else .ok progress) >>= fun last => .ok (last.report logFilter) := by
  obtain ⟨seconds, hseconds⟩ := Option.isSome_iff_exists.1 hwindow
  obtain rfl := (window?_eq_some hseconds).1
  have hseed := catalog.run_seed .empty clock.start
  unfold run
  simp only [hsetting, hseconds, hcatalog, Except.mapError, bind, Except.bind, Progress.perform,
    hseed]
  cases options.closeUnpaid <;> rfl

/-- The rows of a run from its start. -/
abbrev RunsFrom (options : Options) (catalog : Catalog) (clock : Clock) (requestBytes : ByteArray) :
    Progress → List Nat → List Order → Prop :=
  Progress.Runs options.config clock 1 (RequestFile.ofBytes requestBytes)
    (opening options catalog clock)

theorem orders_of_runs (h : RunsFrom options catalog clock requestBytes after lines orders) :
    after.world.store.orders.rows = orders := h.rows_eq

theorem refusedLines_of_runs (h : RunsFrom options catalog clock requestBytes after lines orders) :
    after.log.reverse.filterMap LogRecord.refusedLine? = lines := by
  rw [h.refusedLines, opening]
  cases options.dbPath <;> rfl

/-- Rows that were gone over to the end. -/
theorem exists_runs_of_rows (h : (opening options catalog clock).rows options.config clock 1
      (RequestFile.ofBytes requestBytes) = .ok after) :
    ∃ lines orders, RunsFrom options catalog clock requestBytes after lines orders := by
  have hcalm : (opening options catalog clock).world.Calm := World.calm_calm _ _ _
  have hends := Progress.rows_cases hcalm options.config clock 1 (RequestFile.ofBytes requestBytes)
  rwa [h] at hends

/-- **The end of a run**: its orders are as they are printed, and no lines are added. -/
theorem ending_of_runs (hcatalog : readCatalog catalogBytes = .ok catalog)
    (hclock : clock.Admits options)
    (h : RunsFrom options catalog clock requestBytes after lines orders) :
    ∃ last, (if options.closeUnpaid then after.closeUnpaid options.config clock else .ok after) =
        .ok last ∧
      last.world.store.orders.rows = orders.map options.printed ∧
      last.log.reverse.filterMap LogRecord.refusedLine? = lines := by
  have horders := orders_of_runs h
  have hlines := refusedLines_of_runs h
  cases hclose : options.closeUnpaid with
  | false =>
    refine ⟨after, rfl, ?_, hlines⟩
    have hprinted : options.printed = id := by
      funext order
      simp [Options.printed, hclose]
    rw [horders, hprinted, List.map_id]
  | true =>
    obtain ⟨hdelay, deadline, hdeadline, hwindow⟩ := hclock.window hclose
    have hopening : (opening options catalog clock).Closable catalog.store deadline :=
      ⟨.opened rfl clock.start, List.forall_mem_nil _⟩
    have hclosable := h.closable hopening hdelay hwindow
    obtain ⟨closed, report, hrun, hrows, hlog⟩ := @Progress.closeUnpaid_eq options.config clock
      _ _ _ hclosable (fits_of_readCatalog hcatalog) (horders ▸ h.pending) hdeadline
    have hprinted : options.printed = (·.withStatus .cancelled) := by
      funext order
      simp [Options.printed, hclose]
    refine ⟨closed, hrun, by rw [hrows, horders, hprinted], ?_⟩
    rw [hlog, List.reverse_cons, List.filterMap_append, hlines]
    exact List.append_nil _

/-- **What a run comes to is told by its rows.** -/
theorem run_of_runs (hsetting : LogFilter.ofSetting? options.logSetting = some logFilter)
    (hcatalog : readCatalog catalogBytes = .ok catalog) (hclock : clock.Admits options)
    (h : RunsFrom options catalog clock requestBytes after lines orders) :
    ∃ report, run options ⟨some catalogBytes, some requestBytes⟩ clock = .ok report ∧
      report.rows.Perm ((orders.map options.printed).map OrderSheet.fields) ∧
      report.refusedLines = lines := by
  obtain ⟨last, hlast, hrows, hlines⟩ := ending_of_runs hcatalog hclock h
  refine ⟨last.report logFilter, ?_, ?_, hlines⟩
  · rw [run_eq hsetting hclock.opens hcatalog]
    exact Result.bind_eq_ok_iff.2 ⟨after, h.rows, Result.bind_eq_ok_iff.2 ⟨last, hlast, rfl⟩⟩
  · rw [Report.rows, Progress.report, OrderSheet.tail_read_text, ← hrows]
    exact (List.mergeSort_perm _ _).map _

/-- A run that does not stop goes over its rows to the end. -/
theorem exists_runs (hwindow : (window? options.closeMinutes clock.start).isSome)
    (hcatalog : readCatalog catalogBytes = .ok catalog)
    (hpanic : ∀ trouble, run options ⟨some catalogBytes, some requestBytes⟩ clock = .error trouble →
      trouble.exitCode ≠ 101) :
    ∃ logFilter after lines orders, LogFilter.ofSetting? options.logSetting = some logFilter ∧
      RunsFrom options catalog clock requestBytes after lines orders := by
  cases hsetting : LogFilter.ofSetting? options.logSetting with
  | none =>
    refine absurd rfl (hpanic .brokenSetting ?_)
    simp [run, hsetting]
  | some logFilter =>
    have hcalm : (opening options catalog clock).world.Calm := World.calm_calm _ _ _
    have hends := Progress.rows_cases hcalm options.config clock 1
      (RequestFile.ofBytes requestBytes)
    rw [run_eq hsetting hwindow hcatalog] at hpanic
    cases hrows : (opening options catalog clock).rows options.config clock 1
        (RequestFile.ofBytes requestBytes) with
    | error trouble =>
      rw [hrows] at hends hpanic
      obtain ⟨overflow, rfl⟩ := hends
      exact absurd rfl (hpanic _ rfl)
    | ok after =>
      obtain ⟨lines, orders, hruns⟩ := exists_runs_of_rows hrows
      exact ⟨logFilter, after, lines, orders, rfl, hruns⟩

/-! ### What is printed -/

theorem Options.printed_status (h : order.status = .pending) :
    (options.printed order).status = if options.closeUnpaid then .cancelled else .pending := by
  unfold printed
  split
  · rfl
  · exact h

theorem Options.answers_printed {known : UserId → Prop}
    {record : Except OrderError RequestRecord} (h : order.Answers known record) :
    (options.printed order).Answers known record := by
  unfold printed
  split <;> exact h

/-- Behind the number of an order, its row does not tell number and time. -/
theorem tail_fields_printed (options : Options) (order : Order) :
    (OrderSheet.fields (options.printed order)).tail =
      (OrderSheet.fields (options.printed order.unnumbered)).tail := by
  unfold Options.printed
  split <;> rfl

theorem map_tail_printed (options : Options) (orders : List Order) :
    ((orders.map options.printed).map OrderSheet.fields).map List.tail =
      (orders.map Order.unnumbered).map fun order =>
        (OrderSheet.fields (options.printed order)).tail := by
  simp only [List.map_map]
  exact List.map_congr_left fun order _ => tail_fields_printed options order

/-- What a report tells of the rows of a request file. -/
structure Report.TellsRows (report : Report) (options : Options) (catalog : Catalog)
    (records : List (Except OrderError RequestRecord)) : Prop where
  /-- There is one row for each request that was not refused, and no other. -/
  accepted : ∃ orders : List Order, report.rows.Perm (orders.map OrderSheet.fields) ∧
    (without report.refusedLines 1 records).Forall₂
      (fun record order => order.Answers (· ∈ catalog.users.map User.id) record) orders
  /-- A row that cannot be read was refused, and so was one whose user is not in the catalog. -/
  refused : ∀ i record, records[i]? = some record →
    (∀ user request, record.bind RequestRecord.toRequest = .ok (user, request) →
      user ∉ catalog.users.map User.id) → i + 1 ∈ report.refusedLines
  /-- No order is printed as pending when orders are closed. -/
  status : ∀ row ∈ report.rows, (OrderSheet.columns.zip row).lookup "status" =
    some (if options.closeUnpaid then "cancelled" else "pending")

theorem tellsRows_of_runs {report : Report}
    (h : RunsFrom options catalog clock requestBytes after lines orders)
    (hrows : report.rows.Perm ((orders.map options.printed).map OrderSheet.fields))
    (hlines : report.refusedLines = lines) :
    report.TellsRows options catalog (RequestFile.ofBytes requestBytes) := by
  have hknown : ∀ id, (opening options catalog clock).world.store.users.contains id = true →
      id ∈ catalog.users.map User.id := by
    intro id hid
    change (Table.ofList catalog.users : Table User.id).contains id = true at hid
    rw [Table.contains_ofList] at hid
    exact of_decide_eq_true hid
  subst hlines
  constructor
  · refine ⟨orders.map options.printed, hrows, ?_⟩
    rw [List.forall₂_map_right_iff]
    exact (h.answers hknown).imp fun _ _ hanswers => Options.answers_printed hanswers
  · intro i record hrecord hunknown
    rcases h.mem_or_answers hknown hrecord with hmem | ⟨order, user, request, hrequest, huser, -⟩
    · rwa [Nat.add_comm]
    · exact absurd huser (hunknown user request hrequest)
  · intro row hrow
    obtain ⟨printed, hmem, rfl⟩ := List.mem_map.1 (hrows.mem_iff.1 hrow)
    obtain ⟨order, horder, rfl⟩ := List.mem_map.1 hmem
    rw [OrderSheet.lookup_status, Options.printed_status (h.pending order horder)]
    cases options.closeUnpaid <;> rfl

/-! ### Two runs -/

/-- **Refused requests leave no trace.** Let the catalog be accepted, let the clock not go
backwards and the close window be accepted, and let the run not stop at a fault. Then the run
comes to its end, and its sheet has one row for each request that was not refused, and no other.
Rows that cannot be read and rows of users who are not in the catalog are among those that were
refused; and when orders are closed, none is printed as pending.

When any rows that were refused are deleted from the request file, a run over what is left, at
other times and with other order numbers, comes to its end too, and prints the same rows in some
order, but for the numbers of the orders. -/
theorem refused_rows_leave_no_trace (hcatalog : readCatalog catalogBytes = .ok catalog)
    (hclock : clock.Admits options)
    (hpanic : ∀ trouble, run options ⟨some catalogBytes, some requestBytes⟩ clock = .error trouble →
      trouble.exitCode ≠ 101) :
    ∃ report, run options ⟨some catalogBytes, some requestBytes⟩ clock = .ok report ∧
      report.TellsRows options catalog (RequestFile.ofBytes requestBytes) ∧
      ∀ erased ⊆ report.refusedLines, ∀ clock' : Clock, clock'.Admits options →
        clock'.NumbersLike clock →
        ∃ report', run options
            ⟨some catalogBytes, some (RequestFile.eraseLines erased requestBytes)⟩ clock' =
              .ok report' ∧
          (report'.rows.map List.tail).Perm (report.rows.map List.tail) := by
  obtain ⟨logFilter, after, lines, orders, hsetting, hruns⟩ :=
    exists_runs hclock.opens hcatalog hpanic
  obtain ⟨report, hrun, hrows, hlines⟩ := run_of_runs hsetting hcatalog hclock hruns
  refine ⟨report, hrun, tellsRows_of_runs hruns hrows hlines, ?_⟩
  intro erased herased clock' hclock' hnumbers
  rw [hlines] at herased
  -- The header stays, so what is read without the lines is told by `ofBytes_eraseLines`.
  have hheader : 0 ∉ erased := fun hmem => absurd (hruns.le 0 (herased hmem)) (by decide)
  have hnumbered : ∀ clock : Clock, (opening options catalog clock).Numbered clock := fun clock =>
    ⟨World.calm_calm _ _ _, rfl⟩
  obtain ⟨after', hrows', halike⟩ := hruns.without (hnumbered clock) (hnumbered clock')
    ⟨.refl catalog.store, rfl⟩ hnumbers (fun n hmem _ => herased hmem) 1
  rw [← RequestFile.ofBytes_eraseLines hheader] at hrows'
  obtain ⟨lines', orders', hruns'⟩ := exists_runs_of_rows hrows'
  obtain ⟨report', hrun', hprinted', -⟩ := run_of_runs hsetting hcatalog hclock' hruns'
  refine ⟨report', hrun', ?_⟩
  have horders : orders.map Order.unnumbered = orders'.map Order.unnumbered := by
    rw [← orders_of_runs hruns, ← orders_of_runs hruns']
    exact halike.store.orders
  refine (hprinted'.map List.tail).trans ?_
  rw [map_tail_printed, ← horders, ← map_tail_printed]
  exact (hrows.map List.tail).symm

/-! ### A kiosk -/

/-- One user can recharge with a card. -/
def kiosk : Catalog := ⟨[], [], [⟨3, "card", .none⟩], [⟨1, 0⟩], []⟩

/-- The catalog of the kiosk as a text. -/
def kioskText : String :=
  (Json.obj [("payment_methods", .arr (kiosk.paymentMethods.map PaymentMethod.toJson)),
    ("users", .arr (kiosk.users.map User.toJson))]).text

/-- Two recharges. Between them there are one of a user who is not known, a row that breaks off
and a recharge with less than nothing. -/
def kioskRequests : String :=
  "kind,user,target,quantity,coupon,payment,amount\nrecharge,1,,,,3,300\nrecharge,9,,,,3,300\n" ++
    "recharge,1\nrecharge,1,,,,3,-5\nrecharge,1,,,,3,200\n"

/-- The kiosk is open for two minutes, and closes the orders that are not paid. -/
def kioskOptions : Options :=
  { catalog := "catalog.json", requests := "requests.csv", dbPath := none, singleModel := true,
    closeMinutes := 15, closeUnpaid := true, logFormat := .pretty, logSetting := none }

/-- A new number for each order, all of them after one minute. -/
def kioskClock : Clock := ⟨⟨0, 0⟩, fun n => ⟨Text.natText n, ⟨60, 0⟩⟩, ⟨120, 0⟩⟩

/-- The three rows in between are refused. Without the second and the fourth row, the kiosk prints
the same. -/
theorem refused_rows_leave_no_trace_at_kiosk :
    ∃ report, run kioskOptions ⟨some kioskText.toByteArray, some kioskRequests.toByteArray⟩
        kioskClock = .ok report ∧
      report.refusedLines = [2, 3, 4] ∧
      ∃ report', run kioskOptions ⟨some kioskText.toByteArray,
          some (RequestFile.eraseLines [2, 4] kioskRequests.toByteArray)⟩ kioskClock = .ok report' ∧
        (report'.rows.map List.tail).Perm (report.rows.map List.tail) := by
  have hcatalog : readCatalog kioskText.toByteArray = .ok kiosk :=
    (readCatalog_toByteArray kioskText).trans (by decide +kernel)
  have hclock : kioskClock.Admits kioskOptions := by
    refine ⟨fun n => ?_, fun n => ?_, by decide +kernel, fun _ => by decide +kernel⟩
    · change (⟨0, 0⟩ : Instant).isAtMost ⟨60, 0⟩ = true
      decide
    · change (⟨60, 0⟩ : Instant).isAtMost ⟨120, 0⟩ = true
      decide
  have hrows : ((opening kioskOptions kiosk kioskClock).rows kioskOptions.config kioskClock 1
      (RequestFile.ofText kioskRequests)).map
        (fun progress => progress.log.reverse.filterMap LogRecord.refusedLine?) =
          .ok [2, 3, 4] := by
    decide +kernel
  rw [← RequestFile.ofBytes_toByteArray] at hrows
  obtain ⟨after, hafter, hlog⟩ := Result.map_eq_ok_iff.1 hrows
  obtain ⟨lines, orders, hruns⟩ := exists_runs_of_rows hafter
  obtain ⟨report, hrun, -, hlines⟩ := run_of_runs rfl hcatalog hclock hruns
  have hpanic : ∀ trouble, run kioskOptions
      ⟨some kioskText.toByteArray, some kioskRequests.toByteArray⟩ kioskClock = .error trouble →
      trouble.exitCode ≠ 101 := by
    intro trouble hstopped
    cases hrun.symm.trans hstopped
  obtain ⟨same, hsame, -, htrace⟩ := refused_rows_leave_no_trace hcatalog hclock hpanic
  obtain rfl := Except.ok.inj (hrun.symm.trans hsame)
  rw [← refusedLines_of_runs hruns, ← hlog] at hlines
  refine ⟨report, hrun, hlines, htrace [2, 4] ?_ kioskClock hclock fun _ _ => Iff.rfl⟩
  rw [hlines]
  decide

end OrderDesk.CommandLine
