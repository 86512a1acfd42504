import OrderDesk.Proofs.Text.Digits
import OrderDesk.Time.Instant

/-!
# Instants are read from the text that they are written to

The text of an instant is its date, its time of day and its fraction of a second, each in so many
digits. They are read one after the other (`readDate_chars`, `readTime_chars`), because every part
has just the digits that its reader takes or ends at a mark that is none. The date of a day in the
calendar exists (`Date.isValid_ofDays`), so nothing is refused.

An instant that was read from a text is valid (`valid_of_ofText?`). A leap second comes at the end
of a minute, also in universal time, because an offset has no seconds. So it is written as a second
60, and read as one.
-/

namespace OrderDesk

open OrderDesk.Text

/-! ### The calendar -/

namespace Date

theorem daysBeforeYear_succ (year : Int) :
    daysBeforeYear (year + 1) = daysBeforeYear year + 365 + leapDay year := by
  unfold daysBeforeYear leapDay isLeap
  split
  · rename_i hleap
    simp only [Bool.and_eq_true, Bool.or_eq_true, beq_iff_eq, bne_iff_ne] at hleap
    omega
  · rename_i hcommon
    simp only [Bool.and_eq_true, Bool.or_eq_true, beq_iff_eq, bne_iff_ne] at hcommon
    omega

theorem daysBeforeYear_le {a b : Int} (h : a ≤ b) : daysBeforeYear a ≤ daysBeforeYear b := by
  unfold daysBeforeYear
  omega

/-- A day of a year lies in one of its twelve months, before the next one begins. -/
theorem monthOf_bounds {year : Int} {n : Nat} (h : n < 365 + leapDay year) :
    1 ≤ monthOf year n ∧ monthOf year n ≤ 12 ∧
      n < daysBeforeMonth year (monthOf year n + 1) := by
  fun_cases monthOf year n
  all_goals
    simp only [daysBeforeMonth]
    omega

theorem isValid_iff {date : Date} :
    date.isValid = true ↔ firstYear ≤ date.year ∧ date.year ≤ lastYear ∧ 1 ≤ date.month ∧
      date.month ≤ 12 ∧ 1 ≤ date.day ∧
      daysBeforeMonth date.year date.month + date.day ≤
        daysBeforeMonth date.year (date.month + 1) := by
  simp [isValid, and_assoc]

/-- A month has no more than 31 days. -/
theorem day_le {date : Date} (h : date.isValid = true) : date.day ≤ 31 := by
  obtain ⟨-, -, hmonth, hmonths, -, hday⟩ := isValid_iff.1 h
  have hleap : leapDay date.year ≤ 1 := by
    unfold leapDay
    split <;> decide
  have hmonths : date.month = 1 ∨ date.month = 2 ∨ date.month = 3 ∨ date.month = 4 ∨
      date.month = 5 ∨ date.month = 6 ∨ date.month = 7 ∨ date.month = 8 ∨ date.month = 9 ∨
      date.month = 10 ∨ date.month = 11 ∨ date.month = 12 := by omega
  rcases hmonths with hm | hm | hm | hm | hm | hm | hm | hm | hm | hm | hm | hm
  all_goals
    rw [hm] at hday
    simp only [daysBeforeMonth] at hday
    omega

/-- **Every day of the calendar has a date.** -/
theorem isValid_ofDays {days : Int} (hfirst : toDays ⟨firstYear, 1, 1⟩ ≤ days)
    (hlast : days ≤ toDays ⟨lastYear, 12, 31⟩) : isValid (ofDays days) = true := by
  obtain ⟨hyear, hnext⟩ := yearOf_spec (days + epoch)
  have hsucc := daysBeforeYear_succ (yearOf (days + epoch))
  have hbegin : daysBeforeYear firstYear ≤ days + epoch := by
    have hday : toDays ⟨firstYear, 1, 1⟩ = daysBeforeYear firstYear - epoch := rfl
    omega
  have hend : days + epoch < daysBeforeYear (lastYear + 1) := by
    have hday : toDays ⟨lastYear, 12, 31⟩ = daysBeforeYear (lastYear + 1) - 1 - epoch := rfl
    omega
  have hlow : firstYear ≤ yearOf (days + epoch) := by
    refine Int.not_lt.1 fun hearly => ?_
    have hbefore : daysBeforeYear (yearOf (days + epoch) + 1) ≤ daysBeforeYear firstYear :=
      daysBeforeYear_le hearly
    omega
  have hhigh : yearOf (days + epoch) ≤ lastYear := by
    refine Int.not_lt.1 fun hlate => ?_
    have hbehind : daysBeforeYear (lastYear + 1) ≤ daysBeforeYear (yearOf (days + epoch)) :=
      daysBeforeYear_le hlate
    omega
  have hday : (days + epoch - daysBeforeYear (yearOf (days + epoch))).toNat <
      365 + leapDay (yearOf (days + epoch)) := by omega
  obtain ⟨hmonth, hmonths, hnextMonth⟩ := monthOf_bounds hday
  have hbefore := daysBeforeMonth_monthOf (yearOf (days + epoch))
    (days + epoch - daysBeforeYear (yearOf (days + epoch))).toNat
  refine isValid_iff.2 ⟨hlow, hhigh, hmonth, hmonths, Nat.le_add_left 1 _, ?_⟩
  simp only [ofDays]
  omega

end Date

namespace Instant

/-- The instant lies in the calendar, and a leap second at the end of a minute. -/
structure Valid (t : Instant) : Prop where
  first : firstSecond ≤ t.second
  last : t.second ≤ lastSecond
  nano : t.nano < 2000000000
  leap : 1000000000 ≤ t.nano → t.second % 60 = 59

/-! ### Parts of a text -/

theorem trimStart_of_head {c : Char} (h : isBlank c = false) (rest : List Char) :
    trimStart (c :: rest) = c :: rest := by
  simp [trimStart, h]

theorem isBlank_of_isDigit {c : Char} (h : c.isDigit = true) : isBlank c = false := by
  obtain ⟨hlow, hhigh⟩ := toNat_of_isDigit h
  unfold isBlank
  simp only [Bool.or_eq_false_iff, Bool.and_eq_false_iff, decide_eq_false_iff_not,
    beq_eq_false_iff_ne]
  omega

theorem trimStart_of_digits {digits : List Char} (hdigits : isDigits digits = true)
    (rest : List Char) : trimStart (digits ++ rest) = digits ++ rest := by
  obtain ⟨hne, hall⟩ := isDigits_iff.1 hdigits
  obtain ⟨c, more, rfl⟩ := List.exists_cons_of_ne_nil hne
  exact trimStart_of_head (isBlank_of_isDigit (hall c List.mem_cons_self)) (more ++ rest)

/-- Digits are read up to the most that are taken, or up to a character that is none. -/
theorem readDigits_append {most : Nat} {digits rest : List Char} (hdigits : isDigits digits = true)
    (hlength : digits.length ≤ most)
    (hend : digits.length = most ∨ ∀ c ∈ rest.head?, c.isDigit = false) :
    readDigits most (digits ++ rest) = some (natOfDigits digits, rest) := by
  obtain ⟨hne, hall⟩ := isDigits_iff.1 hdigits
  have htaken : ((digits ++ rest).take most).takeWhile Char.isDigit = digits := by
    rw [List.take_append, List.take_of_length_le hlength, List.takeWhile_append_of_pos hall]
    have hnone : (rest.take (most - digits.length)).takeWhile Char.isDigit = [] := by
      rcases hend with hfull | hend
      · rw [hfull, Nat.sub_self, List.take_zero]
        rfl
      · cases rest with
        | nil => simp
        | cons c rest =>
          have hc := hend c rfl
          cases most - digits.length with
          | zero => rfl
          | succ k => simp [hc]
    rw [hnone, List.append_nil]
  have hsome : digits.isEmpty = false := by simpa using hne
  simp only [readDigits, htaken, hsome, Bool.false_eq_true, if_false, List.drop_left]

/-- A part of two digits is read. -/
theorem readPart_digitsPadded {n : Nat} (h : n < 100) (rest : List Char) :
    readPart (digitsPadded 2 n ++ rest) = some (n, rest) := by
  have hlength : (digitsPadded 2 n).length = 2 := length_digitsPadded (by decide) h
  have hdigits := isDigits_digitsPadded 2 n
  rw [readPart, trimStart_of_digits hdigits,
    readDigits_append hdigits (Nat.le_of_eq hlength) (.inl hlength), natOfDigits_digitsPadded]

theorem readMark_cons {mark : Char} (h : isBlank mark = false) (rest : List Char) :
    readMark mark (mark :: rest) = some rest := by
  rw [readMark, trimStart_of_head h]
  exact if_pos rfl

/-- A year is read up to the mark behind it, in four digits or with a sign. -/
theorem readYear_yearChars (year : Int) (rest : List Char) :
    readYear (yearChars year ++ '-' :: rest) = some (year, '-' :: rest) := by
  have hmark : ∀ c ∈ ('-' :: rest).head?, c.isDigit = false := by
    rintro c ⟨⟩
    rfl
  unfold yearChars
  split
  · rename_i hyear
    have hfits : year.toNat < 10000 := by omega
    have hlength : (digitsPadded 4 year.toNat).length = 4 := length_digitsPadded (by decide) hfits
    have hdigits := isDigits_digitsPadded 4 year.toNat
    obtain ⟨c, more, hchars⟩ := List.exists_cons_of_ne_nil (isDigits_iff.1 hdigits).1
    have hc : c.isDigit = true := isDigit_of_mem_digitsPadded (hchars ▸ List.mem_cons_self)
    have hunsigned : readYear (digitsPadded 4 year.toNat ++ '-' :: rest) =
        (readDigits 4 (digitsPadded 4 year.toNat ++ '-' :: rest)).map fun read =>
          ((read.1 : Int), read.2) := by
      rw [readYear, trimStart_of_digits hdigits, hchars]
      split
      · rename_i hsign
        rw [(List.cons.inj hsign).1] at hc
        cases hc
      · rename_i hsign
        rw [(List.cons.inj hsign).1] at hc
        cases hc
      · rfl
    rw [hunsigned, readDigits_append hdigits (Nat.le_of_eq hlength) (.inl hlength),
      natOfDigits_digitsPadded, Option.map_some]
    simp only [Int.toNat_of_nonneg hyear.1]
  · have hdigits := isDigits_digitsPadded 4 year.natAbs
    have hlength : (digitsPadded 4 year.natAbs).length ≤
        (digitsPadded 4 year.natAbs ++ '-' :: rest).length := by simp
    have hread := readDigits_append hdigits hlength (.inr hmark)
    rw [natOfDigits_digitsPadded] at hread
    split
    · rename_i hnegative
      rw [readYear, List.cons_append, trimStart_of_head (by decide)]
      simp only [hread, Option.map_some]
      have hsign : -(year.natAbs : Int) = year := by omega
      rw [hsign]
    · rename_i hpositive
      rw [readYear, List.cons_append, trimStart_of_head (by decide)]
      simp only [hread, Option.map_some]
      rw [Int.natAbs_of_nonneg (Int.not_lt.1 hpositive)]

/-- Digits behind the point of a second are read as so many nanoseconds. -/
theorem readFraction_digitsPadded {width n : Nat} (hwidth : 0 < width) (hmost : width ≤ 9)
    (h : n < Nat.pow 10 width) :
    readFraction ('.' :: digitsPadded width n ++ ['Z']) =
      some (n * Nat.pow 10 (9 - width), ['Z']) := by
  have hlength := length_digitsPadded hwidth h
  obtain ⟨hne, hall⟩ := isDigits_iff.1 (isDigits_digitsPadded width n)
  have hdigits : (digitsPadded width n ++ ['Z']).takeWhile Char.isDigit = digitsPadded width n := by
    rw [List.takeWhile_append_of_pos hall]
    simp
  have hkept : (digitsPadded width n).take 9 = digitsPadded width n :=
    List.take_of_length_le (Nat.le_trans (Nat.le_of_eq hlength) hmost)
  have hsome : (digitsPadded width n).isEmpty = false := by simpa using hne
  rw [List.cons_append, readFraction]
  simp only [hdigits, hkept, hsome, Bool.false_eq_true, if_false, List.drop_left,
    natOfDigits_digitsPadded]
  rw [hlength]

/-- A fraction of a second is read up to the mark behind it. -/
theorem readFraction_fractionChars {nano : Nat} (h : nano < 1000000000) :
    readFraction (fractionChars nano ++ ['Z']) = some (nano, ['Z']) := by
  unfold fractionChars
  split
  · rename_i hnone
    rw [hnone]
    rfl
  split
  · rename_i hthree
    have hless : nano / 1000000 < 1000 := by omega
    rw [readFraction_digitsPadded (by decide) (by decide) hless]
    have hwhole : nano / 1000000 * 1000000 = nano := by omega
    exact congrArg (fun n => some (n, ['Z'])) hwhole
  split
  · rename_i hsix
    have hless : nano / 1000 < 1000000 := by omega
    rw [readFraction_digitsPadded (by decide) (by decide) hless]
    have hwhole : nano / 1000 * 1000 = nano := by omega
    exact congrArg (fun n => some (n, ['Z'])) hwhole
  · rw [readFraction_digitsPadded (by decide) (by decide) h]
    have hwhole : nano * 1 = nano := by omega
    exact congrArg (fun n => some (n, ['Z'])) hwhole

/-! ### Reading what was written -/

/-- **A date is read from its digits.** -/
theorem readDate_chars {date : Date} (h : date.isValid = true) (rest : List Char) :
    readDate (yearChars date.year ++ '-' :: (digitsPadded 2 date.month ++
      '-' :: (digitsPadded 2 date.day ++ rest))) = some (date, rest) := by
  obtain ⟨-, -, -, hmonths, -, -⟩ := Date.isValid_iff.1 h
  have hmonth : date.month < 100 := by omega
  have hday : date.day < 100 := Nat.lt_of_le_of_lt (Date.day_le h) (by decide)
  simp only [readDate, readYear_yearChars, readMark_cons (show isBlank '-' = false by decide),
    readPart_digitsPadded hmonth, readPart_digitsPadded hday, Option.bind_eq_bind, Option.bind_some]
  exact if_pos h

/-- **A time of day is read from its digits.** A second 60 is the one before it, a second later. -/
theorem readTime_chars {hour minute second nano : Nat} (hhour : hour < 24) (hminute : minute < 60)
    (hsecond : second ≤ 60) (hnano : nano < 1000000000) :
    readTime (digitsPadded 2 hour ++ ':' :: (digitsPadded 2 minute ++
        ':' :: (digitsPadded 2 second ++ (fractionChars nano ++ ['Z'])))) =
      some (hour * 3600 + minute * 60 + min second 59,
        if second = 60 then nano + 1000000000 else nano, ['Z']) := by
  have hmark : isBlank ':' = false := by decide
  simp only [readTime, readMark_cons hmark, readPart_digitsPadded (show hour < 100 by omega),
    readPart_digitsPadded (show minute < 100 by omega),
    readPart_digitsPadded (show second < 100 by omega), readFraction_fractionChars hnano,
    Option.bind_eq_bind, Option.bind_some]
  by_cases hleap : second = 60
  · subst hleap
    rw [if_neg (by omega), if_pos ⟨hhour, hminute, rfl⟩, if_pos rfl]
    rfl
  · have hordinary : min second 59 = second := by omega
    rw [if_pos ⟨hhour, hminute, by omega⟩, if_neg hleap, hordinary]
    rfl

/-- The parts of a text of an instant, one after the other. -/
theorem chars_eq (t : Instant) :
    t.chars = yearChars (Date.ofDays (t.second / 86400)).year ++
      '-' :: (digitsPadded 2 (Date.ofDays (t.second / 86400)).month ++
      '-' :: (digitsPadded 2 (Date.ofDays (t.second / 86400)).day ++
      'T' :: (digitsPadded 2 ((t.second % 86400).toNat / 3600) ++
      ':' :: (digitsPadded 2 ((t.second % 86400).toNat / 60 % 60) ++
      ':' :: (digitsPadded 2 ((t.second % 86400).toNat % 60 +
          if 1000000000 ≤ t.nano then 1 else 0) ++
        (fractionChars (if 1000000000 ≤ t.nano then t.nano - 1000000000 else t.nano) ++
          ['Z'])))))) := by
  simp only [chars, List.append_assoc, List.cons_append]

theorem readTime_ofDay {t : Instant} (h : t.Valid) :
    readTime (digitsPadded 2 ((t.second % 86400).toNat / 3600) ++
      ':' :: (digitsPadded 2 ((t.second % 86400).toNat / 60 % 60) ++
      ':' :: (digitsPadded 2 ((t.second % 86400).toNat % 60 +
          if 1000000000 ≤ t.nano then 1 else 0) ++
        (fractionChars (if 1000000000 ≤ t.nano then t.nano - 1000000000 else t.nano) ++
          ['Z'])))) = some ((t.second % 86400).toNat, t.nano, ['Z']) := by
  have hnano := h.nano
  have hday : (t.second % 86400).toNat < 86400 := by omega
  by_cases hlate : 1000000000 ≤ t.nano
  · have hsecond : (t.second % 86400).toNat % 60 = 59 := by
      have := h.leap hlate
      omega
    simp only [if_pos hlate, hsecond]
    rw [readTime_chars (by omega) (by omega) (by omega) (by omega), if_pos rfl]
    have hofDay : (t.second % 86400).toNat / 3600 * 3600 +
        (t.second % 86400).toNat / 60 % 60 * 60 + min (59 + 1) 59 = (t.second % 86400).toNat := by
      omega
    rw [hofDay, Nat.sub_add_cancel hlate]
  · simp only [if_neg hlate, Nat.add_zero]
    rw [readTime_chars (by omega) (by omega) (by omega) (by omega), if_neg (by omega)]
    have hofDay : (t.second % 86400).toNat / 3600 * 3600 +
        (t.second % 86400).toNat / 60 % 60 * 60 + min ((t.second % 86400).toNat % 60) 59 =
          (t.second % 86400).toNat := by
      omega
    rw [hofDay]

/-- **An instant is read from its text.** -/
theorem ofText?_text {t : Instant} (h : t.Valid) : ofText? t.text = some t := by
  have hfirst := h.first
  have hlast := h.last
  have hdate : (Date.ofDays (t.second / 86400)).isValid = true := by
    apply Date.isValid_ofDays
    · unfold firstSecond at hfirst
      omega
    · unfold lastSecond at hlast
      omega
  have hsecond : t.second / 86400 * 86400 + ((t.second % 86400).toNat : Int) - 0 = t.second := by
    omega
  have hsound : ((trimStart []).isEmpty && decide ((0 : Int).natAbs < 86400) &&
      decide (firstSecond ≤ t.second) && decide (t.second ≤ lastSecond)) = true := by
    simp [trimStart, hfirst, hlast]
  rw [ofText?, text, String.toList_ofList, ofChars?, chars_eq]
  simp only [readDate_chars hdate, readTime_ofDay h, readOffset, Option.bind_eq_bind,
    Option.bind_some, Date.toDays_ofDays, hsecond, hsound, if_true]

/-! ### What is read is valid -/

theorem lt_of_readFraction {cs rest : List Char} {nano : Nat}
    (h : readFraction cs = some (nano, rest)) : nano < 1000000000 := by
  unfold readFraction at h
  split at h
  · rename_i cs
    dsimp only at h
    split at h
    · cases h
    obtain ⟨rfl, -⟩ := Prod.mk.inj (Option.some.inj h)
    have hlength : ((cs.takeWhile Char.isDigit).take 9).length ≤ 9 := List.length_take_le 9 _
    have hdigits : natOfDigits ((cs.takeWhile Char.isDigit).take 9) <
        10 ^ ((cs.takeWhile Char.isDigit).take 9).length := by
      refine natOfDigits_lt fun c hc => ?_
      exact List.all_eq_true.1 List.all_takeWhile c (List.mem_of_mem_take hc)
    calc natOfDigits ((cs.takeWhile Char.isDigit).take 9) *
          10 ^ (9 - ((cs.takeWhile Char.isDigit).take 9).length)
        < 10 ^ ((cs.takeWhile Char.isDigit).take 9).length *
          10 ^ (9 - ((cs.takeWhile Char.isDigit).take 9).length) :=
          Nat.mul_lt_mul_of_pos_right hdigits (Nat.pow_pos (by decide))
      _ = 1000000000 := by rw [← Nat.pow_add, Nat.add_sub_cancel' hlength]
  · obtain ⟨rfl, -⟩ := Prod.mk.inj (Option.some.inj h)
    decide

/-- A leap second comes at the end of a minute. -/
theorem leap_of_readTime {cs rest : List Char} {ofDay nano : Nat}
    (h : readTime cs = some (ofDay, nano, rest)) :
    nano < 2000000000 ∧ (1000000000 ≤ nano → ofDay % 60 = 59) := by
  simp only [readTime, Option.bind_eq_bind, Option.bind_eq_some_iff] at h
  obtain ⟨⟨hour, _⟩, -, _, -, ⟨minute, _⟩, -, _, -, ⟨second, _⟩, -, ⟨fraction, _⟩, hfraction,
    h⟩ := h
  have hless := lt_of_readFraction hfraction
  dsimp only at h
  split at h
  · obtain ⟨rfl, rfl, -⟩ := Option.some.inj h
    omega
  split at h
  · obtain ⟨rfl, rfl, -⟩ := Option.some.inj h
    omega
  · cases h

theorem minutes_of_readOffsetSize {cs rest : List Char} {n : Nat}
    (h : readOffsetSize cs = some (n, rest)) : n % 60 = 0 := by
  unfold readOffsetSize at h
  split at h
  · split at h
    · split at h
      · dsimp only at h
        split at h
        · obtain ⟨rfl, -⟩ := Prod.mk.inj (Option.some.inj h)
          omega
        · cases h
      · cases h
    · cases h
  · cases h

/-- An offset has no seconds. -/
theorem minutes_of_readOffset {cs rest : List Char} {offset : Int}
    (h : readOffset cs = some (offset, rest)) : offset % 60 = 0 := by
  unfold readOffset at h
  split at h
  case h_1 | h_2 =>
    obtain ⟨rfl, -⟩ := Prod.mk.inj (Option.some.inj h)
    rfl
  case h_3 | h_4 | h_5 =>
    obtain ⟨⟨n, _⟩, hsize, hpair⟩ := Option.map_eq_some_iff.1 h
    have hminutes := minutes_of_readOffsetSize hsize
    obtain ⟨rfl, -⟩ := Prod.mk.inj hpair
    omega
  case h_6 =>
    split at h
    · obtain ⟨rfl, -⟩ := Prod.mk.inj (Option.some.inj h)
      rfl
    · cases h
  case h_7 => cases h

theorem valid_of_ofText? {s : String} {t : Instant} (h : ofText? s = some t) : t.Valid := by
  rw [ofText?, ofChars?] at h
  obtain ⟨⟨date, _⟩, -, h⟩ := Option.bind_eq_some_iff.1 h
  dsimp only at h
  -- The three marks that may stand between the date and the time are followed by the same.
  split at h
  case h_4 => cases h
  all_goals
    obtain ⟨_, -, h⟩ := Option.bind_eq_some_iff.1 h
    obtain ⟨⟨ofDay, nano, _⟩, htime, h⟩ := Option.bind_eq_some_iff.1 h
    obtain ⟨⟨offset, _⟩, hoffset, h⟩ := Option.bind_eq_some_iff.1 h
    obtain ⟨hnano, hleap⟩ := leap_of_readTime htime
    have hminutes := minutes_of_readOffset hoffset
    dsimp only at h
    split at h
    · rename_i hsound
      simp only [Bool.and_eq_true, decide_eq_true_eq] at hsound
      obtain rfl := Option.some.inj h
      refine ⟨hsound.1.2, hsound.2, hnano, fun hlate => ?_⟩
      have hend := hleap hlate
      show (date.toDays * 86400 + (ofDay : Int) - offset) % 60 = 59
      omega
    · cases h

end Instant

end OrderDesk
