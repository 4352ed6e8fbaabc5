import AdminQuery.Proofs.DateConditions
import AdminQuery.Proofs.DecimalTexts
import Mathlib.Data.List.TakeWhile

/-!
# Ways to write a day

A day of the years 0 to 9999 can be written as month, day and year in eight digits, or as year, month and day
with hyphens, and it is today on each of its instants.

* `Civil.monthDayYear`, `Civil.iso`: the two texts of a day
* `Date.ofMonthDayYear?_of_trim`, `Date.trim_of_ofMonthDayYear?`: eight digits are read as the day they write,
  and what is read so is the text of a day
* `Date.isSome_ofMonthDayYear?_iff`: **what is read as month, day and year is the text of one real day**
* `Date.ofIso?_of_trim`: year, month and day are read back
* `written_days_agree`: **all ways to name a day give the same condition**
-/

namespace AdminQuery

open Number Text

namespace Civil

variable {c d : Civil}

/-- A day of the calendar whose year has four digits. -/
def InFourDigitYear (c : Civil) : Prop :=
  c.isDay = true ∧ 0 ≤ c.year ∧ c.year ≤ 9999

/-- The text `MMDDYYYY` of a day. -/
def monthDayYear (c : Civil) : String :=
  Instant.padded 2 c.month ++ Instant.padded 2 c.day ++ Instant.padded 4 c.year.toNat

/-- The text `YYYY-MM-DD` of a day. -/
def iso (c : Civil) : String :=
  Instant.padded 4 c.year.toNat ++ "-" ++ Instant.padded 2 c.month ++ "-" ++ Instant.padded 2 c.day

/-- The date of a day. -/
def date (c : Civil) : Date :=
  ⟨Date.numberOfCivil c⟩

/-- The three numbers of such a day fit into two, two and four digits. -/
theorem InFourDigitYear.lt (h : c.InFourDigitYear) :
    c.month < 10 ^ 2 ∧ c.day < 10 ^ 2 ∧ c.year.toNat < 10 ^ 4 := by
  obtain ⟨hday, hlow, hhigh⟩ := h
  have hmonth := month_bounds_of_isDay hday
  have hle := daysInMonth_le c.year c.month
  have hlast := (isDay_iff.1 hday).2
  omega

theorem InFourDigitYear.ofCivil? (h : c.InFourDigitYear) : Date.ofCivil? c = some c.date := by
  obtain ⟨hday, hlow, hhigh⟩ := h
  rw [Date.ofCivil?, if_pos]
  · rfl
  · refine ⟨hday, ?_, ?_⟩
    · rw [Date.minYear]
      omega
    · rw [Date.maxYear]
      omega

theorem InFourDigitYear.civil_date (h : c.InFourDigitYear) : c.date.civil = c :=
  Date.civil_numberOfCivil h.1

end Civil

namespace Date

variable {c : Civil} {s : String}

/-! ### Month, day and year -/

theorem monthDayYearChars?_append {month day year : List Char} (hmonth : AllDigits month)
    (hday : AllDigits day) (hyear : AllDigits year) (hmonths : month.length = 2)
    (hdays : day.length = 2) (hyears : year.length = 4) :
    monthDayYearChars? (month ++ day ++ year) =
      ofCivil? ⟨digitsValue year, digitsValue month, digitsValue day⟩ := by
  have hall : (month ++ day ++ year).all Char.isDigit = true := by
    simp only [List.all_append, Bool.and_eq_true, List.all_eq_true]
    exact ⟨⟨hmonth, hday⟩, hyear⟩
  have hlength : (month ++ day ++ year).length = 8 := by
    simp only [List.length_append, hmonths, hdays, hyears]
  have hfirst : (month ++ day ++ year).take 2 = month := by
    rw [List.append_assoc, List.take_left' hmonths]
  have hsecond : ((month ++ day ++ year).drop 2).take 2 = day := by
    rw [List.append_assoc, List.drop_left' hmonths, List.take_left' hdays]
  have hthird : (month ++ day ++ year).drop 4 = year :=
    List.drop_left' (by rw [List.length_append, hmonths, hdays])
  rw [monthDayYearChars?, if_pos ⟨hlength, hall⟩, hfirst, hsecond, hthird]

/-- **The text `MMDDYYYY` of a day is read as that day.** -/
theorem ofMonthDayYear?_of_trim (hc : c.InFourDigitYear) (h : trim s = c.monthDayYear) :
    ofMonthDayYear? s = some c.date := by
  obtain ⟨hmonth, hday, hyear⟩ := hc.lt
  obtain ⟨hmonths, hmonthDigits, hmonthValue⟩ := Instant.padded_spec 2 (by decide) hmonth
  obtain ⟨hdays, hdayDigits, hdayValue⟩ := Instant.padded_spec 2 (by decide) hday
  obtain ⟨hyears, hyearDigits, hyearValue⟩ := Instant.padded_spec 4 (by decide) hyear
  have hread := monthDayYearChars?_append hmonthDigits hdayDigits hyearDigits hmonths hdays hyears
  rw [hmonthValue, hdayValue, hyearValue, Int.toNat_of_nonneg hc.2.1] at hread
  rw [ofMonthDayYear?, ← toList_trim, h, Civil.monthDayYear, String.toList_append,
    String.toList_append, hread]
  exact hc.ofCivil?

/-- A row of digits with the length that a field has is that field of the number it writes. -/
theorem toList_padded_digitsValue (width : Nat) (cs : List Char) (hpos : 0 < width)
    (hlength : cs.length = width) (hdigits : AllDigits cs) :
    (Instant.padded width (digitsValue cs)).toList = cs := by
  subst hlength
  exact (Instant.eq_padded (List.length_pos_iff.1 hpos) hdigits).symm

/-- **A text that is read as month, day and year is the text of the day that is read.** -/
theorem trim_of_ofMonthDayYear? {date : Date} (h : ofMonthDayYear? s = some date) :
    ∃ c : Civil, c.InFourDigitYear ∧ trim s = c.monthDayYear := by
  rw [ofMonthDayYear?, ← toList_trim, monthDayYearChars?] at h
  split at h
  · rename_i hchars
    obtain ⟨hlength, hall⟩ := hchars
    generalize hcs : (trim s).toList = cs at h hlength hall
    have hdigits : AllDigits cs := List.all_eq_true.1 hall
    have hmonth := toList_padded_digitsValue 2 (cs.take 2) (by decide)
      (by rw [List.length_take, hlength]; rfl) fun x hx => hdigits x (List.mem_of_mem_take hx)
    have hday := toList_padded_digitsValue 2 ((cs.drop 2).take 2) (by decide)
      (by rw [List.length_take, List.length_drop, hlength]; rfl)
      fun x hx => hdigits x (List.mem_of_mem_drop (List.mem_of_mem_take hx))
    have hyearDigits : AllDigits (cs.drop 4) := fun x hx => hdigits x (List.mem_of_mem_drop hx)
    have hyearLength : (cs.drop 4).length = 4 := by rw [List.length_drop, hlength]
    have hyear := toList_padded_digitsValue 4 (cs.drop 4) (by decide) hyearLength hyearDigits
    have hlt := digitsValue_lt hyearDigits
    rw [hyearLength] at hlt
    rw [ofCivil?] at h
    split at h
    · rename_i hcovered
      refine ⟨_, ⟨hcovered.1, Int.natCast_nonneg _, ?_⟩, ?_⟩
      · show ((digitsValue (cs.drop 4) : Nat) : Int) ≤ 9999
        omega
      · -- The three fields stand one behind the other.
        have hfields : cs.take 2 ++ (cs.drop 2).take 2 ++ cs.drop 4 = cs := by
          rw [List.append_assoc, ← List.drop_drop (i := 2) (j := 2), List.take_append_drop,
            List.take_append_drop]
        rw [← String.toList_inj, hcs, Civil.monthDayYear, String.toList_append, String.toList_append,
          Int.toNat_natCast, hmonth, hday, hyear, hfields]
    · cases h
  · cases h

/-- **What is read as month, day and year is the text of one real day.** -/
theorem isSome_ofMonthDayYear?_iff :
    (∃ date, ofMonthDayYear? s = some date) ↔
      ∃! c : Civil, c.InFourDigitYear ∧ trim s = c.monthDayYear := by
  constructor
  · rintro ⟨date, hdate⟩
    obtain ⟨c, hc, htext⟩ := trim_of_ofMonthDayYear? hdate
    refine ⟨c, ⟨hc, htext⟩, ?_⟩
    rintro d ⟨hd, htext'⟩
    have hsame : some d.date = some c.date := by
      rw [← ofMonthDayYear?_of_trim hd htext', ofMonthDayYear?_of_trim hc htext]
    rw [← hd.civil_date, Option.some.inj hsame, hc.civil_date]
  · rintro ⟨c, ⟨hc, htext⟩, -⟩
    exact ⟨c.date, ofMonthDayYear?_of_trim hc htext⟩

/-! ### Year, month and day -/

/-- A number with all the digits that it may have ends behind them. -/
theorem shortNumber?_append {width : Nat} {digits : List Char} (hpos : 0 < width)
    (hlength : digits.length = width) (hdigits : AllDigits digits) (rest : List Char) :
    shortNumber? width (digits ++ rest) = some (digitsValue digits, rest) := by
  obtain ⟨c, cs, rfl⟩ := List.exists_cons_of_length_pos (hlength ▸ hpos)
  have htrim : trimStartChars (c :: cs ++ rest) = c :: cs ++ rest :=
    trimStartChars_cons (isBlank_of_isDigit (hdigits c List.mem_cons_self)) _
  have htake : ((c :: cs ++ rest).take width).takeWhile Char.isDigit = c :: cs := by
    rw [List.take_left' hlength]
    exact List.takeWhile_eq_self_iff.2 hdigits
  simp only [shortNumber?, htrim, htake]
  rw [List.drop_left' rfl]
  rfl

/-- Four digits are a year without a sign. -/
theorem year?_append {digits : List Char} (hlength : digits.length = 4) (hdigits : AllDigits digits)
    (rest : List Char) : year? (digits ++ rest) = some ((digitsValue digits : Int), rest) := by
  have hnumber := shortNumber?_append (by decide) hlength hdigits rest
  obtain ⟨c, cs, rfl⟩ := List.exists_cons_of_length_pos (l := digits) (by omega)
  have hdigit := hdigits c List.mem_cons_self
  have htrim : trimStartChars (c :: cs ++ rest) = c :: cs ++ rest :=
    trimStartChars_cons (isBlank_of_isDigit hdigit) _
  rw [year?, htrim]
  split
  · rename_i hminus
    cases hminus
    exact absurd hdigit (by decide)
  · rename_i hplus
    cases hplus
    exact absurd hdigit (by decide)
  · rw [hnumber]
    rfl

/-- **The text `YYYY-MM-DD` of a day is read as that day.** -/
theorem ofIso?_of_trim (hc : c.InFourDigitYear) (h : trim s = c.iso) : ofIso? s = some c.date := by
  obtain ⟨hmonth, hday, hyear⟩ := hc.lt
  obtain ⟨hmonths, hmonthDigits, hmonthValue⟩ := Instant.padded_spec 2 (by decide) hmonth
  obtain ⟨hdays, hdayDigits, hdayValue⟩ := Instant.padded_spec 2 (by decide) hday
  obtain ⟨hyears, hyearDigits, hyearValue⟩ := Instant.padded_spec 4 (by decide) hyear
  have hlist : c.iso.toList = (Instant.padded 4 c.year.toNat).toList ++
      '-' :: ((Instant.padded 2 c.month).toList ++ '-' :: ((Instant.padded 2 c.day).toList ++ [])) := by
    simp [Civil.iso]
  rw [ofIso?, ← toList_trim, h, hlist, isoChars?, year?_append hyears hyearDigits]
  simp only [Option.bind_eq_bind, Option.bind_some, afterHyphen?,
    shortNumber?_append (by decide) hmonths hmonthDigits,
    shortNumber?_append (by decide) hdays hdayDigits, List.isEmpty_nil, if_true, hmonthValue,
    hdayValue, hyearValue, Int.toNat_of_nonneg hc.2.1]
  exact hc.ofCivil?

end Date

/-! ### The conditions of days -/

/-- A text that starts with digits is no control token. -/
theorem ofText?_eq_none_of_padded {value rest : String} {width n : Nat} (hwidth : 0 < width)
    (hn : n < 10 ^ width) (h : trim value = Instant.padded width n ++ rest) :
    ControlToken.ofText? value = none := by
  obtain ⟨hlength, hdigits, -⟩ := Instant.padded_spec width hwidth hn
  obtain ⟨c, cs, hcs⟩ := List.exists_cons_of_length_pos (hlength ▸ hwidth)
  apply ControlToken.ofText?_eq_none
  rw [h, String.toList_append, hcs, List.cons_append, List.head?_cons]
  rintro hunderscore
  cases hunderscore
  exact absurd (hdigits '_' (hcs ▸ List.mem_cons_self)) (by decide)

/-- What lies between the start and the finish of a date is on that day of the calendar. -/
theorem mem_date_iff {c : Civil} (hc : c.InFourDigitYear) {t : Instant} (ht : t.IsWholeMicrosecond) :
    c.date.start ≤ t ∧ t ≤ c.date.finish ↔ t.date.civil = c := by
  rw [Instant.start_le_iff, Instant.le_finish_iff ht, ← hc.civil_date, Date.civil_injective.eq_iff,
    hc.civil_date, Date.eq_iff]
  omega

section

variable {style : PatternStyle} {column value : String} {type : StorageType} {now : Instant}

/-- Eight digits give the condition of the day that they are read as. -/
theorem condition?_of_monthDayYear {operator : String} (htype : type.isTemporal = true)
    (hoperator : trim operator = "mmddyyyy") (hvalue : ControlToken.ofText? value = none) :
    (⟨some operator, value⟩ : FilterEntry).condition? style column type now =
      (Date.ofMonthDayYear? value).map fun date => .between column date.start date.finish := by
  rw [condition?_of_token .monthDayYear hoperator rfl rfl (by decide) htype hvalue,
    TemporalOperator.predicate?, Option.map_map]
  simp only [Function.comp_def, condition_ofDays]

/-- A text with hyphens gives the condition of the day that it is read as, without an operator and with those
that stand for none. -/
theorem condition?_of_on {operator : Option String} (htype : type.isTemporal = true)
    (hoperator : ∀ token ∈ operator, trim token ∈ ["", "is", "=", "default"])
    (hvalue : ControlToken.ofText? value = none) :
    (⟨operator, value⟩ : FilterEntry).condition? style column type now =
      (Date.ofIso? value).map fun date => .between column date.start date.finish := by
  have hslot : ∀ token ∈ operator, ControlToken.ofText? token = none := by
    intro token htoken
    have hhead : ∀ plain ∈ ["", "is", "=", "default"], plain.toList.head? ≠ some '_' := by decide
    exact ControlToken.ofText?_eq_none (hhead _ (hoperator token htoken))
  have hon : TemporalOperator.ofOperator operator = .on := by
    cases operator with
    | none => rfl
    | some token =>
      rw [TemporalOperator.ofOperator, Option.map_some, Option.getD_some,
        TemporalOperator.ofToken, if_pos (List.contains_iff_mem.2 (hoperator token rfl))]
  rw [condition?_of_temporal htype hslot hvalue, hon, TemporalOperator.predicate?, Option.map_map]
  simp only [Function.comp_def, condition_ofDays]

/-- Today is the date of now. -/
theorem condition?_of_today {operator : String} (htype : type.isTemporal = true)
    (hoperator : trim operator = "today") (hvalue : ControlToken.ofText? value = none) :
    (⟨some operator, value⟩ : FilterEntry).condition? style column type now =
      some (.between column now.date.start now.date.finish) := by
  rw [condition?_of_token .today hoperator rfl rfl (by decide) htype hvalue,
    TemporalOperator.predicate?, Option.map_some, condition_ofDays]

end

/-- **The ways to name a day agree, and eight digits name a day exactly when they are the text of a real
one.**  The eight digits of a day, its text with hyphens and today on any of its instants give the same
condition, whose bounds hold what is on that day. -/
theorem written_days_agree (style : PatternStyle) (column : String) {type : StorageType}
    (htype : type.isTemporal = true) :
    (∀ c : Civil, c.InFourDigitYear →
      (∀ t : Instant, t.IsWholeMicrosecond →
        (c.date.start ≤ t ∧ t ≤ c.date.finish ↔ t.date.civil = c)) ∧
      (∀ (operator value : String) (now : Instant), trim operator = "mmddyyyy" →
        trim value = c.monthDayYear →
        (⟨some operator, value⟩ : FilterEntry).condition? style column type now =
          some (.between column c.date.start c.date.finish)) ∧
      (∀ (operator : Option String) (value : String) (now : Instant),
        (∀ token ∈ operator, trim token ∈ ["", "is", "=", "default"]) → trim value = c.iso →
        (⟨operator, value⟩ : FilterEntry).condition? style column type now =
          some (.between column c.date.start c.date.finish)) ∧
      (∀ (operator value : String) (now : Instant), trim operator = "today" →
        ControlToken.ofText? value = none → now.date.civil = c →
        (⟨some operator, value⟩ : FilterEntry).condition? style column type now =
          some (.between column c.date.start c.date.finish))) ∧
    (∀ (operator value : String) (now : Instant), trim operator = "mmddyyyy" →
      ControlToken.ofText? value = none →
      ((∃ condition, (⟨some operator, value⟩ : FilterEntry).condition? style column type now =
        some condition) ↔ ∃! c : Civil, c.InFourDigitYear ∧ trim value = c.monthDayYear)) := by
  refine ⟨fun c hc => ⟨fun t => mem_date_iff hc, ?_, ?_, ?_⟩, ?_⟩
  · intro operator value now hoperator hvalue
    have hcontrol : ControlToken.ofText? value = none := by
      rw [Civil.monthDayYear, String.append_assoc] at hvalue
      exact ofText?_eq_none_of_padded (by decide) hc.lt.1 hvalue
    rw [condition?_of_monthDayYear htype hoperator hcontrol, Date.ofMonthDayYear?_of_trim hc hvalue,
      Option.map_some]
  · intro operator value now hoperator hvalue
    have hcontrol : ControlToken.ofText? value = none := by
      have htext := hvalue
      simp only [Civil.iso, String.append_assoc] at htext
      exact ofText?_eq_none_of_padded (by decide) hc.lt.2.2 htext
    rw [condition?_of_on htype hoperator hcontrol, Date.ofIso?_of_trim hc hvalue, Option.map_some]
  · intro operator value now hoperator hvalue hnow
    have hdate : now.date = c.date := by
      apply Date.civil_injective
      rw [hnow, hc.civil_date]
    rw [condition?_of_today htype hoperator hvalue, hdate]
  · intro operator value now hoperator hvalue
    rw [condition?_of_monthDayYear htype hoperator hvalue, ← Date.isSome_ofMonthDayYear?_iff]
    simp

/-- The leap day of the year 0, with blanks around one text and around two operators, and at an instant of
that day. -/
theorem written_days_agree_year_zero :
    StorageType.isTemporal .date = true ∧ (⟨0, 2, 29⟩ : Civil).InFourDigitYear ∧
    trim " mmddyyyy " = "mmddyyyy" ∧ trim "\u00a002290000\n" = (⟨0, 2, 29⟩ : Civil).monthDayYear ∧
    (∀ token ∈ some " is", trim token ∈ ["", "is", "=", "default"]) ∧
    trim "0000-02-29" = (⟨0, 2, 29⟩ : Civil).iso ∧
    trim "today" = "today" ∧ ControlToken.ofText? "7" = none ∧
    (⟨-62162100000, 5⟩ : Instant).date.civil = ⟨0, 2, 29⟩ ∧
    (⟨some " mmddyyyy ", "\u00a002290000\n"⟩ : FilterEntry).condition? ⟨.sqlite, false⟩
        "games.played_on" .date ⟨0, 0⟩ =
      some (.between "games.played_on" ⟨-62162121600, 0⟩ ⟨-62162035201, 999999000⟩) ∧
    (⟨some " is", "0000-02-29"⟩ : FilterEntry).condition? ⟨.sqlite, false⟩ "games.played_on" .date
        ⟨0, 0⟩ =
      some (.between "games.played_on" ⟨-62162121600, 0⟩ ⟨-62162035201, 999999000⟩) ∧
    (⟨some "today", "7"⟩ : FilterEntry).condition? ⟨.sqlite, false⟩ "games.played_on" .date
        ⟨-62162100000, 5⟩ =
      some (.between "games.played_on" ⟨-62162121600, 0⟩ ⟨-62162035201, 999999000⟩) ∧
    ∃! c : Civil, c.InFourDigitYear ∧ trim "\u00a002290000\n" = c.monthDayYear := by
  have hday : (⟨0, 2, 29⟩ : Civil).InFourDigitYear := ⟨by decide, by decide, by decide⟩
  have hdigits : trim "\u00a002290000\n" = (⟨0, 2, 29⟩ : Civil).monthDayYear := by decide
  have his : ∀ token ∈ some " is", trim token ∈ ["", "is", "=", "default"] := by decide
  have hiso : trim "0000-02-29" = (⟨0, 2, 29⟩ : Civil).iso := by decide
  have hnow : (⟨-62162100000, 5⟩ : Instant).date.civil = ⟨0, 2, 29⟩ := by decide +kernel
  obtain ⟨hagree, hexact⟩ := @written_days_agree ⟨.sqlite, false⟩ "games.played_on" .date rfl
  obtain ⟨-, height, hhyphens, htoday⟩ := hagree ⟨0, 2, 29⟩ hday
  refine ⟨rfl, hday, by decide, hdigits, his, hiso, by decide, by decide, hnow,
    height _ _ _ (by decide) hdigits, hhyphens _ _ _ his hiso,
    htoday _ _ _ (by decide) (by decide) hnow, ?_⟩
  exact (hexact " mmddyyyy " "\u00a002290000\n" ⟨0, 0⟩ (by decide) (by decide)).1
    ⟨_, height _ _ _ (by decide) hdigits⟩

end AdminQuery
