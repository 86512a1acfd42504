import OrderDesk.Plan.Basic
import OrderDesk.Proofs.Json.Records
import OrderDesk.Proofs.Plan.DiscountTable

/-!
# Tables are parsed from the text under which they are stored

A table of tiers in range is stored as the JSON list of its tiers, which are sorted already. So the
list makes the same table again (`ofTiers_tiers`), and its text lists just these tiers
(`lists_encode`): the percentages are above zero, so they are read from their texts as they are.

A table that was parsed from any text is such a table, or the empty one. So a plan is restored with
its table (`restores_plan`).
-/

namespace OrderDesk

open Json

/-- A tier in range is restored with the digits and the places of its percentage. -/
theorem DiscountTier.keeps (depth : Nat) {tier : DiscountTier} (hrange : tier.IsInRange)
    (hfits : Amount.Fits tier.quantity) :
    Keeps (depth + 1) DiscountTier.ofJson? DiscountTier.toJson tier tier := by
  have hplain : tier.discount.plain = tier.discount := by
    refine Decimal.plain_of_pos fun hzero => ?_
    rw [Decimal.le_iff_value_le, Decimal.value_zero] at hzero
    exact absurd hrange.discount_pos (not_lt.2 hzero)
  have hquantity := keeps_amount depth hfits
  have hdiscount : Keeps depth decimal? (fun d => .str d.text) tier.discount tier.discount :=
    ⟨.str _, (Decimal.ofText?_text tier.discount).trans (congrArg some hplain)⟩
  refine keeps_record (fun _ => rfl) rfl rfl (by decide) ?_
  exact hquantity.required rfl <| hdiscount.required rfl <| keepsFields_nil tier

namespace DiscountTable

variable {tiers : List DiscountTier} {table : DiscountTable}

/-- The tiers of a table make the same table again. -/
theorem ofTiers_tiers (h : ofTiers tiers = .ok table) : ofTiers table.tiers = .ok table := by
  obtain ⟨hrange, rfl⟩ := ofTiers_eq_ok_iff.1 h
  have harranged := isArranged_mergeSort tiers
  refine ofTiers_eq_ok_iff.2 ⟨fun tier htier => hrange tier (harranged.perm.mem_iff.1 htier), ?_⟩
  have hsorted :
      (tiers.mergeSort comesBefore).mergeSort comesBefore = tiers.mergeSort comesBefore :=
    List.mergeSort_of_pairwise (harranged.ascending.imp fun h => decide_eq_true h)
  rw [hsorted]

/-- A stored text lists the tiers of its table. -/
theorem lists_encode (h : table.tiers ≠ [])
    (hrange : ∀ tier ∈ table.tiers, tier.IsInRange)
    (hfits : ∀ tier ∈ table.tiers, Amount.Fits tier.quantity) : Lists table.encode table.tiers := by
  have hkeeps : ∀ tier ∈ table.tiers,
      Keeps 126 DiscountTier.ofJson? DiscountTier.toJson tier tier :=
    fun tier htier => DiscountTier.keeps 125 (hrange tier htier) (hfits tier htier)
  have hstorable : Storable maxDepth (.arr (table.tiers.map DiscountTier.toJson)) := by
    refine .arr fun item hitem => ?_
    obtain ⟨tier, htier, rfl⟩ := List.mem_map.1 hitem
    exact (hkeeps tier htier).storable
  have hencode : table.encode = (Json.arr (table.tiers.map DiscountTier.toJson)).text := by
    rw [encode, isEmpty, List.isEmpty_eq_false_iff.2 h]
    rfl
  refine ⟨table.tiers.map DiscountTier.toJson, ?_, ?_⟩
  · rw [hencode, ofText?_text hstorable]
  · rw [← mapM_eq_some_iff]
    exact mapM_map_eq_some fun tier htier => (hkeeps tier htier).read_write

theorem parse_encode_empty : parse empty.encode = empty := rfl

/-- **A table is parsed from the text under which it is stored**, its tiers in their order and their
percentages with all their places. -/
theorem parse_encode (h : ofTiers tiers = .ok table)
    (hfits : ∀ tier ∈ tiers, Amount.Fits tier.quantity) : parse table.encode = table := by
  have hmem : ∀ tier ∈ table.tiers, tier ∈ tiers :=
    fun tier htier => (isArranged_of_ofTiers h).perm.mem_iff.1 htier
  obtain ⟨hrange, -⟩ := ofTiers_eq_ok_iff.1 h
  by_cases hnone : table.tiers = []
  · have hempty : table = empty := congrArg DiscountTable.mk hnone
    rw [hempty, parse_encode_empty]
  · have hlists := lists_encode hnone (fun tier htier => hrange tier (hmem tier htier))
      fun tier htier => hfits tier (hmem tier htier)
    exact parse_of_lists hlists (ofTiers_tiers h)

/-! ### Tables that were parsed -/

theorem fits_of_lists {s : String} (h : Lists s tiers) :
    ∀ tier ∈ tiers, Amount.Fits tier.quantity := by
  obtain ⟨items, -, hitems⟩ := h
  refine forall_mem_of_mapM (mapM_eq_some_iff.2 hitems) fun item tier hitem => ?_
  simp only [DiscountTier.ofJson?, Option.bind_eq_bind, Option.bind_eq_some_iff, Option.pure_def,
    Option.some.injEq] at hitem
  obtain ⟨fields, -, quantity, hquantity, discount, -, rfl⟩ := hitem
  obtain ⟨value, -, hvalue⟩ := Option.bind_eq_some_iff.1 hquantity
  exact fits_of_amount? hvalue

/-- **A table that a text stands for is parsed from the text under which it is stored.** -/
theorem parse_encode_parse (s : String) : parse (parse s).encode = parse s := by
  by_cases hlisted : ∃ tiers table, Lists s tiers ∧ ofTiers tiers = .ok table
  · obtain ⟨tiers, table, hlists, htable⟩ := hlisted
    rw [parse_of_lists hlists htable, parse_encode htable (fits_of_lists hlists)]
  · have hempty : parse s = empty :=
      parse_of_unlisted fun tiers table hlists htable => hlisted ⟨tiers, table, hlists, htable⟩
    rw [hempty, parse_encode_empty]

theorem keeps_of_parse_encode (depth : Nat) (h : parse table.encode = table) :
    Keeps depth DiscountTable.ofJson? DiscountTable.toJson table table :=
  ⟨.str _, congrArg some h⟩

theorem restores (depth : Nat) :
    Restores depth DiscountTable.ofJson? DiscountTable.toJson id := by
  intro value table h
  obtain ⟨held, -, rfl⟩ := Option.map_eq_some_iff.1 h
  cases held with
  | none => exact keeps_of_parse_encode depth parse_encode_empty
  | some s => exact keeps_of_parse_encode depth (parse_encode_parse s)

end DiscountTable

/-- **A plan is restored**, its table by way of a text in the text. -/
theorem restores_plan (depth : Nat) : Restores (depth + 1) Plan.ofJson? Plan.toJson id := by
  intro value plan h
  obtain ⟨fields, -, h⟩ := Option.bind_eq_some_iff.1 h
  obtain ⟨planId, hid, h⟩ := (restores_id depth).required h
  obtain ⟨name, hname, h⟩ := (restores_str depth).orElse ⟨.str _, rfl⟩ h
  obtain ⟨unitPrice, hprice, h⟩ := (restores_amount depth).required h
  obtain ⟨discount, hdiscount, h⟩ := (DiscountTable.restores depth).orElse
    (DiscountTable.keeps_of_parse_encode depth DiscountTable.parse_encode_empty) h
  obtain ⟨inventory, hinventory, h⟩ := (restores_amount depth).required h
  obtain ⟨quota, hquota, h⟩ := (restores_amount depth).orElse (keeps_amount depth (by decide)) h
  obtain ⟨sell, hsell, h⟩ := (restores_bool depth).required h
  obtain rfl := Option.some.inj h
  refine keeps_record (fun _ => rfl) rfl rfl (by decide) ?_
  exact hid.required rfl <| hname.orElse rfl <| hprice.required rfl <| hdiscount.orElse rfl <|
    hinventory.required rfl <| hquota.orElse rfl <| hsell.required rfl <| keepsFields_nil _

end OrderDesk
