import Mathlib.Data.List.Nodup
import OrderDesk.Proofs.Json.Records
import OrderDesk.Proofs.Number.Value
import OrderDesk.Proofs.Sorting
import OrderDesk.Plan.DiscountTable
import OrderDesk.Pricing.Rules

/-!
# Discount tables are taken as a whole

A table is made of a list of tiers all of which are in range, and holds all of them: sorted by
threshold, and tiers with one threshold in the order in which they were listed
(`DiscountTable.IsArranged`). From then on the table is looked up from its end. What is found there
can be told from the list alone, without sorting it: the last tier listed among those with the
greatest threshold that the quantity reaches (`DiscountTable.IsLastReached`).

## What is proved

* `exists_ofTiers_iff` and `isArranged_of_ofTiers`: which lists make a table, and what it holds.
* `isLastReached_of_tierFor?` and `tierFor?_eq_none_iff`: which tier is found for a quantity.
* `parse_of_lists` and `parse_of_unlisted`: which table a text stands for.
-/

namespace OrderDesk

/-- The threshold and the percentage are in range. -/
structure DiscountTier.IsInRange (tier : DiscountTier) : Prop where
  threshold : 0 < tier.quantity
  discount_pos : 0 < tier.discount.value
  discount_le : tier.discount.value ≤ 100

theorem DiscountTier.fault?_eq_none_iff {tier : DiscountTier} :
    tier.fault? = none ↔ tier.IsInRange := by
  have hlow : tier.discount ≤ 0 ↔ tier.discount.value ≤ 0 := by
    rw [Decimal.le_iff_value_le, Decimal.value_zero]
  have hhigh : tier.discount ≤ Decimal.hundred ↔ tier.discount.value ≤ 100 := by
    rw [Decimal.le_iff_value_le, Decimal.value_hundred]
  unfold fault?
  split
  · rename_i hthreshold
    exact ⟨nofun, fun h => absurd h.threshold (Int.not_lt.2 hthreshold)⟩
  · rename_i hthreshold
    split
    · rename_i hdiscount
      refine ⟨nofun, fun h => ?_⟩
      rcases hdiscount with hnone | hmore
      · exact absurd h.discount_pos (not_lt.2 (hlow.1 hnone))
      · exact absurd (hhigh.2 h.discount_le) hmore
    · rename_i hdiscount
      rw [not_or, not_not, hlow, hhigh, not_le] at hdiscount
      exact ⟨fun _ => ⟨Int.not_le.1 hthreshold, hdiscount.1, hdiscount.2⟩, fun _ => rfl⟩

namespace DiscountTable

variable {tiers arranged : List DiscountTier} {table : DiscountTable}

/-! ### Making a table -/

/-- The tiers of a list by ascending threshold, those with one threshold in the order of the
list. -/
structure IsArranged (tiers arranged : List DiscountTier) : Prop where
  perm : arranged.Perm tiers
  ascending : arranged.Pairwise fun a b => a.quantity ≤ b.quantity
  stable : ∀ threshold, (arranged.filter fun tier => tier.quantity = threshold) =
    tiers.filter fun tier => tier.quantity = threshold

/-- The comparison that sorts a table. -/
def comesBefore (a b : DiscountTier) : Bool := a.quantity ≤ b.quantity

theorem comesBefore_trans (a b c : DiscountTier) (hab : comesBefore a b = true)
    (hbc : comesBefore b c = true) : comesBefore a c = true := by
  unfold comesBefore at *
  simp only [decide_eq_true_eq] at *
  exact Int.le_trans hab hbc

theorem comesBefore_total (a b : DiscountTier) :
    (comesBefore a b || comesBefore b a) = true := by
  unfold comesBefore
  simp only [Bool.or_eq_true, decide_eq_true_eq]
  exact Int.le_total _ _

theorem isArranged_mergeSort (tiers : List DiscountTier) :
    IsArranged tiers (tiers.mergeSort comesBefore) where
  perm := List.mergeSort_perm tiers comesBefore
  ascending := (List.pairwise_mergeSort comesBefore_trans comesBefore_total tiers).imp
    fun h => of_decide_eq_true h
  stable threshold := by
    apply filter_mergeSort comesBefore_trans comesBefore_total
    intro a b ha hb
    rw [comesBefore, of_decide_eq_true ha, of_decide_eq_true hb]
    exact decide_eq_true (Int.le_refl threshold)

theorem ofTiers_eq_ok_iff : ofTiers tiers = .ok table ↔
    (∀ tier ∈ tiers, tier.IsInRange) ∧ table = ⟨tiers.mergeSort comesBefore⟩ := by
  simp only [← DiscountTier.fault?_eq_none_iff, ← List.findSome?_eq_none_iff]
  unfold ofTiers
  cases tiers.findSome? DiscountTier.fault? with
  | some fault => exact ⟨nofun, fun h => nomatch h.1⟩
  | none => exact ⟨fun h => ⟨rfl, (Except.ok.inj h).symm⟩, fun h => congrArg Except.ok h.2.symm⟩

theorem exists_ofTiers_iff :
    (∃ table, ofTiers tiers = .ok table) ↔ ∀ tier ∈ tiers, tier.IsInRange := by
  simp only [ofTiers_eq_ok_iff, exists_and_left, exists_eq, and_true]

theorem isArranged_of_ofTiers (h : ofTiers tiers = .ok table) : IsArranged tiers table.tiers := by
  obtain ⟨-, rfl⟩ := ofTiers_eq_ok_iff.1 h
  exact isArranged_mergeSort tiers

/-- Tiers with thresholds of their own make the same table in every order. -/
theorem ofTiers_of_perm {listed : List DiscountTier} (h : ofTiers tiers = .ok table)
    (hperm : listed.Perm tiers) (hdistinct : (tiers.map DiscountTier.quantity).Nodup) :
    ofTiers listed = .ok table := by
  obtain ⟨hrange, rfl⟩ := ofTiers_eq_ok_iff.1 h
  refine ofTiers_eq_ok_iff.2 ⟨fun tier htier => hrange tier (hperm.mem_iff.1 htier), ?_⟩
  have hone := isArranged_mergeSort tiers
  have hother := isArranged_mergeSort listed
  refine congrArg DiscountTable.mk (List.Perm.eq_of_pairwise ?_ hone.ascending hother.ascending
    (hone.perm.trans (hperm.symm.trans hother.perm.symm)))
  intro a b ha hb hab hba
  have hmemA := hone.perm.mem_iff.1 ha
  have hmemB := hperm.mem_iff.1 (hother.perm.mem_iff.1 hb)
  exact List.inj_on_of_nodup_map hdistinct hmemA hmemB (Int.le_antisymm hab hba)

/-! ### Looking a quantity up -/

/-- The tier that is listed last among those with the greatest threshold that the quantity
reaches. -/
def IsLastReached (tiers : List DiscountTier) (quantity : Amount) (tier : DiscountTier) : Prop :=
  ∃ before after, tiers = before ++ tier :: after ∧ tier.quantity ≤ quantity ∧
    (∀ other ∈ before, other.quantity ≤ quantity → other.quantity ≤ tier.quantity) ∧
    ∀ other ∈ after, other.quantity ≤ quantity → other.quantity < tier.quantity

/-- A list has no two such tiers. -/
theorem IsLastReached.eq {quantity : Amount} {tier other : DiscountTier}
    (h : IsLastReached tiers quantity tier) (h' : IsLastReached tiers quantity other) :
    tier = other := by
  obtain ⟨before, after, hsplit, hreached, hbefore, hafter⟩ := h
  obtain ⟨before', after', hsplit', hreached', hbefore', hafter'⟩ := h'
  rw [hsplit] at hsplit'
  -- Of two, the one listed first would be above the other, and no higher than it.
  rcases List.append_eq_append_iff.1 hsplit' with ⟨between, rfl, hrest⟩ | ⟨between, rfl, hrest⟩
  · rcases List.cons_eq_append_iff.1 hrest with ⟨-, hsame⟩ | ⟨rest, rfl, rfl⟩
    · exact (List.cons.inj hsame).1.symm
    · have hle := hbefore' tier (by simp) hreached
      exact absurd (hafter other (by simp) hreached') (Int.not_lt.2 hle)
  · rcases List.cons_eq_append_iff.1 hrest with ⟨-, hsame⟩ | ⟨rest, rfl, rfl⟩
    · exact (List.cons.inj hsame).1
    · have hle := hbefore other (by simp) hreached'
      exact absurd (hafter' tier (by simp) hreached) (Int.not_lt.2 hle)

/-- In a table the tier that is found stands behind all that are not above it, and before those
that the quantity does not reach. -/
theorem tierFor?_cases {quantity : Amount} {tier : DiscountTier}
    (h : table.tierFor? quantity = some tier) :
    tier.quantity ≤ quantity ∧ ∃ lower higher, table.tiers = lower ++ tier :: higher ∧
      ∀ other ∈ higher, quantity < other.quantity := by
  obtain ⟨hreached, higher, lower, hsplit, hhigher⟩ := List.find?_eq_some_iff_append.1 h
  refine ⟨of_decide_eq_true hreached, lower.reverse, higher.reverse, ?_, ?_⟩
  · rw [List.reverse_eq_append_iff.1 hsplit, List.reverse_cons, List.append_assoc]
    rfl
  · intro other hother
    have hmissed := hhigher other (List.mem_reverse.1 hother)
    rw [Bool.not_eq_true', decide_eq_false_iff_not] at hmissed
    exact Int.not_le.1 hmissed

/-- **The tier that is found for a quantity** is the one listed last among those with the greatest
threshold that the quantity reaches. -/
theorem isLastReached_of_tierFor? (harranged : IsArranged tiers table.tiers) {quantity : Amount}
    {tier : DiscountTier} (h : table.tierFor? quantity = some tier) :
    IsLastReached tiers quantity tier := by
  obtain ⟨hreached, lower, higher, hsplit, hhigher⟩ := tierFor?_cases h
  have hascending := harranged.ascending
  rw [hsplit, List.pairwise_append] at hascending
  have hgreatest : ∀ other ∈ tiers, other.quantity ≤ quantity → other.quantity ≤ tier.quantity := by
    intro other hother hreaches
    rw [← harranged.perm.mem_iff, hsplit, List.mem_append, List.mem_cons] at hother
    rcases hother with hlower | rfl | hhigh
    · exact hascending.2.2 other hlower tier List.mem_cons_self
    · exact Int.le_refl _
    · exact absurd hreaches (Int.not_le.2 (hhigher other hhigh))
  -- Among the tiers with its threshold it is the last one of the table, so the last one listed.
  have hlast : ∃ earlier, (tiers.filter fun other => other.quantity = tier.quantity) =
      earlier ++ [tier] := by
    refine ⟨lower.filter fun other => other.quantity = tier.quantity, ?_⟩
    have hnone : (higher.filter fun other => other.quantity = tier.quantity) = [] := by
      refine List.filter_eq_nil_iff.2 fun other hother => ?_
      rw [decide_eq_true_eq]
      exact (Int.lt_of_le_of_lt hreached (hhigher other hother)).ne'
    have hself : decide (tier.quantity = tier.quantity) = true := decide_eq_true rfl
    rw [← harranged.stable, hsplit, List.filter_append, List.filter_cons, if_pos hself, hnone]
  obtain ⟨earlier, hfilter⟩ := hlast
  obtain ⟨first, rest, htiers, -, hrest⟩ := List.filter_eq_append_iff.1 hfilter
  obtain ⟨between, after, rfl, -, -, hafter⟩ := List.filter_eq_cons_iff.1 hrest
  refine ⟨first ++ between, after, by rw [htiers, List.append_assoc], hreached, ?_, ?_⟩
  · intro other hother
    refine hgreatest other ?_
    rw [htiers, ← List.append_assoc]
    exact List.mem_append_left _ hother
  · intro other hother hreaches
    have hle := hgreatest other (by simp [htiers, hother]) hreaches
    have hne := List.filter_eq_nil_iff.1 hafter other hother
    rw [decide_eq_true_eq] at hne
    exact lt_of_le_of_ne hle hne

theorem tierFor?_eq_none_iff (harranged : IsArranged tiers table.tiers) {quantity : Amount} :
    table.tierFor? quantity = none ↔ ∀ tier ∈ tiers, quantity < tier.quantity := by
  simp only [tierFor?, List.find?_eq_none, List.mem_reverse, decide_eq_true_eq, Int.not_le,
    harranged.perm.mem_iff]

/-! ### Reading a table -/

/-- The text is a JSON list of these tiers. -/
def Lists (s : String) (tiers : List DiscountTier) : Prop :=
  ∃ items, Json.ofText? s = some (.arr items) ∧
    List.Forall₂ (fun item tier => DiscountTier.ofJson? item = some tier) items tiers

theorem tiersOfText?_eq_some_iff {s : String} : tiersOfText? s = some tiers ↔ Lists s tiers := by
  unfold tiersOfText? Lists
  rw [Option.bind_eq_some_iff]
  constructor
  · rintro ⟨value, hvalue, hlist⟩
    cases value with
    | arr items => exact ⟨items, hvalue, Json.mapM_eq_some_iff.1 hlist⟩
    | _ => cases hlist
  · rintro ⟨items, hvalue, hitems⟩
    exact ⟨.arr items, hvalue, Json.mapM_eq_some_iff.2 hitems⟩

end DiscountTable

namespace Json

theorem Token.toNat_of_isAlpha {c : Char} (h : c.isAlpha = true) :
    65 ≤ c.toNat ∧ c.toNat ≤ 122 := by
  have hval : c.toNat = c.val.toNat := rfl
  delta Char.isAlpha Char.isUpper Char.isLower at h
  simp only [Bool.or_eq_true, Bool.and_eq_true, decide_eq_true_eq, UInt32.le_iff_toNat_le,
    ge_iff_le] at h
  simp at h
  omega

/-- A token begins with a printing character of ASCII. -/
theorem Token.start_cases (done : List Token) (c : Char) :
    start done c = some (.nothing, done) ∨ start done c = none ∨ 32 < c.toNat ∧ c.toNat < 128 := by
  fun_cases start done c with
  | case1 => exact .inl rfl
  | case2 | case3 | case4 | case5 | case6 | case7 | case8 =>
    subst c
    exact .inr (.inr (by decide))
  | case9 _ _ _ _ _ _ _ _ hnumeral =>
    refine .inr (.inr ?_)
    rcases hnumeral with rfl | hdigit
    · decide
    · have hval : c.toNat = c.val.toNat := rfl
      simp only [Char.isDigit, Bool.and_eq_true, decide_eq_true_eq, UInt32.le_iff_toNat_le,
        ge_iff_le] at hdigit
      simp at hdigit
      omega
  | case10 _ _ _ _ _ _ _ _ _ hword =>
    have hletter := toNat_of_isAlpha hword
    exact .inr (.inr (by omega))
  | case11 => exact .inr (.inl rfl)

/-- A blank is skipped, or no token begins with it. -/
theorem Token.start_of_isBlank {c : Char} (h : Text.isBlank c = true) (done : List Token) :
    start done c = some (.nothing, done) ∨ start done c = none := by
  rcases start_cases done c with hskipped | hnone | hprinting
  · exact .inl hskipped
  · exact .inr hnone
  · unfold Text.isBlank at h
    simp only [Bool.or_eq_true, Bool.and_eq_true, decide_eq_true_eq, beq_iff_eq] at h
    omega

theorem Token.scanFrom_of_blank {cs : List Char} (h : cs.all Text.isBlank = true) :
    scanFrom .nothing [] cs = some [] ∨ scanFrom .nothing [] cs = none := by
  induction cs with
  | nil => exact .inl rfl
  | cons c rest ih =>
    rw [List.all_cons, Bool.and_eq_true] at h
    unfold scanFrom
    rcases start_of_isBlank h.1 [] with hskipped | hnone
    · rw [next, hskipped]
      exact ih h.2
    · rw [next, hnone]
      exact .inr rfl

/-- Blanks alone write no value. -/
theorem ofText?_of_isBlankText {s : String} (h : Text.isBlankText s = true) : ofText? s = none := by
  unfold ofText? ofChars? Token.scan
  rcases Token.scanFrom_of_blank h with hnothing | hnone
  · rw [hnothing]
    rfl
  · rw [hnone]
    rfl

end Json

namespace DiscountTable

variable {tiers : List DiscountTier} {table : DiscountTable} {s : String}

/-- **A text that lists tiers in range** stands for the table of all of them. -/
theorem parse_of_lists (hlists : Lists s tiers) (h : ofTiers tiers = .ok table) :
    parse s = table := by
  unfold parse
  split
  · rename_i hblank
    obtain ⟨items, hvalue, -⟩ := hlists
    rw [Json.ofText?_of_isBlankText hblank] at hvalue
    cases hvalue
  · rw [tiersOfText?_eq_some_iff.2 hlists]
    show (ofTiers tiers).toOption.getD empty = table
    rw [h]
    rfl

/-- **Every other text** stands for the empty table. -/
theorem parse_of_unlisted (h : ∀ tiers table, Lists s tiers → ofTiers tiers ≠ .ok table) :
    parse s = empty := by
  unfold parse
  split
  · rfl
  · cases hlisted : tiersOfText? s with
    | none => rfl
    | some tiers =>
      show (ofTiers tiers).toOption.getD empty = empty
      cases hmade : ofTiers tiers with
      | error fault => rfl
      | ok table => exact absurd hmade (h tiers table (tiersOfText?_eq_some_iff.1 hlisted))

/-- **A table is all of its list, and is looked up as the list says.** A list makes a table just
when all of its tiers are in range. The table holds the tiers of the list by ascending threshold,
and every text that lists them stands for it; all other texts stand for the empty table. The factor
for a quantity is a hundredth of the percentage of the tier listed last among those with the
greatest threshold that the quantity reaches, or one when it reaches none. The order of the list
does not matter for thresholds that are all distinct. -/
theorem tables_as_listed :
    (∀ tiers, (∃ table, ofTiers tiers = .ok table) ↔ ∀ tier ∈ tiers, tier.IsInRange) ∧
    (∀ tiers table, ofTiers tiers = .ok table →
      IsArranged tiers table.tiers ∧
      (∀ s, Lists s tiers → parse s = table) ∧
      (∀ quantity,
        (∃ tier, IsLastReached tiers quantity tier ∧
          table.multiplier quantity = tier.discount.hundredth) ∨
        ((∀ tier ∈ tiers, quantity < tier.quantity) ∧ table.multiplier quantity = 1)) ∧
      ∀ listed, listed.Perm tiers → (tiers.map DiscountTier.quantity).Nodup →
        ofTiers listed = .ok table) ∧
    ∀ s, (∀ tiers table, Lists s tiers → ofTiers tiers ≠ .ok table) → parse s = empty := by
  refine ⟨fun tiers => exists_ofTiers_iff, fun tiers table h => ?_, fun s => parse_of_unlisted⟩
  have harranged := isArranged_of_ofTiers h
  refine ⟨harranged, fun s hlists => parse_of_lists hlists h, fun quantity => ?_,
    fun listed hperm hdistinct => ofTiers_of_perm h hperm hdistinct⟩
  unfold multiplier
  cases hfound : table.tierFor? quantity with
  | some tier => exact .inl ⟨tier, isLastReached_of_tierFor? harranged hfound, rfl⟩
  | none => exact .inr ⟨(tierFor?_eq_none_iff harranged).1 hfound, rfl⟩

theorem ofTiers_of_sorted {sorted : List DiscountTier}
    (hrange : tiers.findSome? DiscountTier.fault? = none)
    (hsorted : tiers.mergeSort comesBefore = sorted) : ofTiers tiers = .ok ⟨sorted⟩ := by
  unfold ofTiers
  rw [hrange, ← hsorted]
  rfl

/-- From a quantity on, so many percent. -/
def tierOf (quantity : Amount) (percent : Fin 101) : DiscountTier :=
  ⟨quantity,
    { Decimal.hundred with
      coefficient := percent
      coefficient_lt := Nat.lt_trans percent.isLt (by decide) }⟩

/-- Three tiers of which two have one threshold: from three on, a quantity is charged 90 percent,
the last one listed, and below that all of it. Two tiers in the other order, and a text that lists
no tiers. -/
theorem tables_as_listed_of_three :
    ofTiers [tierOf 12 80, tierOf 3 95, tierOf 3 90] =
        .ok ⟨[tierOf 3 95, tierOf 3 90, tierOf 12 80]⟩ ∧
      parse "[[12,80],[3,95],[3,\"90\"]]" = ⟨[tierOf 3 95, tierOf 3 90, tierOf 12 80]⟩ ∧
      IsLastReached [tierOf 12 80, tierOf 3 95, tierOf 3 90] 5 (tierOf 3 90) ∧
      multiplier ⟨[tierOf 3 95, tierOf 3 90, tierOf 12 80]⟩ 5 =
        (tierOf 3 90).discount.hundredth ∧
      ((tierOf 3 90).discount.hundredth.mantissa, (tierOf 3 90).discount.hundredth.scale) =
        (90, 2) ∧
      multiplier ⟨[tierOf 3 95, tierOf 3 90, tierOf 12 80]⟩ 2 = 1 ∧
      ofTiers [tierOf 3 95, tierOf 12 80] = .ok ⟨[tierOf 3 95, tierOf 12 80]⟩ ∧
      parse "no tiers" = empty := by
  have hthree : ofTiers [tierOf 12 80, tierOf 3 95, tierOf 3 90] =
      .ok ⟨[tierOf 3 95, tierOf 3 90, tierOf 12 80]⟩ :=
    ofTiers_of_sorted (by decide) (by simp [List.mergeSort, tierOf, comesBefore])
  have htwo : ofTiers [tierOf 12 80, tierOf 3 95] = .ok ⟨[tierOf 3 95, tierOf 12 80]⟩ :=
    ofTiers_of_sorted (by decide) (by simp [List.mergeSort, tierOf, comesBefore])
  have hlists : Lists "[[12,80],[3,95],[3,\"90\"]]" [tierOf 12 80, tierOf 3 95, tierOf 3 90] :=
    ⟨[.arr [.int 12, .int 80], .arr [.int 3, .int 95], .arr [.int 3, .str "90"]], by rfl,
      .cons rfl (.cons rfl (.cons rfl .nil))⟩
  have hlast : IsLastReached [tierOf 12 80, tierOf 3 95, tierOf 3 90] 5 (tierOf 3 90) :=
    ⟨[tierOf 12 80, tierOf 3 95], [], rfl, by decide, by decide, by decide⟩
  obtain ⟨-, htables, hunlisted⟩ := tables_as_listed
  obtain ⟨-, hparse, hlookup, -⟩ := htables _ _ hthree
  obtain ⟨-, -, -, horder⟩ := htables _ _ htwo
  refine ⟨hthree, hparse _ hlists, hlast, ?_, by decide +kernel, ?_, ?_, ?_⟩
  · rcases hlookup 5 with ⟨tier, htier, hfactor⟩ | ⟨hnone, -⟩
    · exact hfactor.trans (congrArg (·.discount.hundredth) (htier.eq hlast))
    · exact absurd (hnone (tierOf 3 95) (by simp)) (by decide)
  · rcases hlookup 2 with ⟨tier, ⟨before, after, hsplit, hreached, -⟩, -⟩ | ⟨-, hfactor⟩
    · have hmem : tier ∈ [tierOf 12 80, tierOf 3 95, tierOf 3 90] := by simp [hsplit]
      have hunreached : ∀ tier ∈ [tierOf 12 80, tierOf 3 95, tierOf 3 90], 2 < tier.quantity := by
        decide
      exact absurd hreached (Int.not_le.2 (hunreached tier hmem))
    · exact hfactor
  · exact horder _ (.swap _ _ _) (by decide)
  · refine hunlisted _ fun tiers table hlists => ?_
    obtain ⟨items, hvalue, -⟩ := hlists
    have hnone : Json.ofText? "no tiers" = none := by rfl
    rw [hnone] at hvalue
    cases hvalue

end DiscountTable

end OrderDesk
