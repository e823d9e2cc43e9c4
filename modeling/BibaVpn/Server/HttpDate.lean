/-
# The date of a decoy response

`format_http_date` (`camouflage.rs`) prints the date that a web server prints, from the seconds
since 1970-01-01 and without a library: `civil_from_days` finds the date of a day with divisions by
the lengths of 400, 100 and 4 years and of five months.

* §1 is the code: years are signed, and `none` is an index outside of a table;
* §2 is the year of a day: in the era of 400 years that holds it, the code finds the year that
  begins in March (`yearOfEra_spec`).  The corrections of the first division are right because a day
  is a number of centuries, of four years, of years and of days, and only three of the divisions
  move;
* §3 is the date: it is valid and its number is that of the day (`civil_date`), so what the code
  computes is the inverse of the calendar's count;
* §4 is the text, `http_dates_exact`.
-/
import BibaVpn.Lib.Calendar
import BibaVpn.Lib.Text

namespace BibaVpn.Server.HttpDate

open Calendar

/-! ## 1. The code -/

/-- `WEEKDAYS`. -/
def weekdays : List Text :=
  ["Sun", "Mon", "Tue", "Wed", "Thu", "Fri", "Sat"].map String.toList

/-- `MONTHS`. -/
def months : List Text :=
  ["Jan", "Feb", "Mar", "Apr", "May", "Jun", "Jul", "Aug", "Sep", "Oct", "Nov", "Dec"].map
    String.toList

/-- The year in its era of 400, counted from March. -/
def yearOfEra (doe : Nat) : Nat := (doe - doe / 1460 + doe / 36524 - doe / 146096) / 365

/-- `civil_from_days`. -/
def civilFromDays (z : Int) : Int × Nat × Nat :=
  let z := z + 719468
  let era := (if 0 ≤ z then z else z - 146096).tdiv 146097
  let doe := (z - era * 146097).toNat
  let yoe := yearOfEra doe
  let y := (yoe : Int) + era * 400
  let doy := doe - (365 * yoe + yoe / 4 - yoe / 100)
  let mp := (5 * doy + 2) / 153
  let day := doy - (153 * mp + 2) / 5 + 1
  let month := if mp < 10 then mp + 3 else mp - 9
  (if month ≤ 2 then y + 1 else y, month, day)

/-- A number with at least `w` digits (`{:0w}`). -/
def padded (w n : Nat) : Text :=
  List.replicate (w - (Nat.toDigits 10 n).length) '0' ++ Nat.toDigits 10 n

/-- The same of a signed number. -/
def paddedInt (w : Nat) : Int → Text
  | .ofNat n => padded w n
  | .negSucc n => '-' :: padded (w - 1) (n + 1)

/-- `format_http_date`. -/
def formatHttpDate (unixSecs : Nat) : Option Text := do
  let days := unixSecs / 86400
  let tod := unixSecs % 86400
  let wday ← weekdays[((days + 4) % 7)]?
  let (year, month, day) := civilFromDays days
  let mon ← months[(month - 1)]?
  return wday ++ ", ".toList ++ padded 2 day ++ [' '] ++ mon ++ [' '] ++ paddedInt 4 year ++
    [' '] ++ padded 2 (tod / 3600) ++ [':'] ++ padded 2 (tod % 3600 / 60) ++ [':'] ++
    padded 2 (tod % 60) ++ " GMT".toList

/-! ## 2. The year of a day -/

/-- A day of the era is some centuries, some groups of four years, some years and some days. -/
theorem era_split {doe : Nat} (h : doe < 146097) : ∃ c q r doy, c ≤ 3 ∧ q ≤ 24 ∧ r ≤ 3 ∧ doy ≤ 365 ∧
    (doy = 365 → r = 3 ∧ (q = 24 → c = 3)) ∧ doe = 36524 * c + 1461 * q + 365 * r + doy := by
  obtain ⟨c, hc⟩ : ∃ c, c = min 3 (doe / 36524) := ⟨_, rfl⟩
  obtain ⟨rest, hrest⟩ : ∃ rest, rest = doe - 36524 * c := ⟨_, rfl⟩
  obtain ⟨r, hr⟩ : ∃ r, r = min 3 (rest % 1461 / 365) := ⟨_, rfl⟩
  have hcentury : rest ≤ 36524 ∧ (c < 3 → rest < 36524) ∧ doe = 36524 * c + rest := by omega
  refine ⟨c, rest / 1461, r, rest % 1461 - 365 * r, by omega, by omega, by omega, by omega, ?_, ?_⟩
  · omega
  · omega

/-- **The year of a day of the era**: the day is one of the 366 from its first of March on, and the
last of them is there before a leap year's end of February only. -/
theorem yearOfEra_spec {doe : Nat} (h : doe < 146097) : ∃ doy ≤ 365, yearOfEra doe < 400 ∧
    doe = 365 * yearOfEra doe + yearOfEra doe / 4 - yearOfEra doe / 100 + doy ∧
    (doy = 365 → isLeap (yearOfEra doe + 1) = true) := by
  obtain ⟨c, q, r, doy, hc, hq, hr, hdoy, hlast, rfl⟩ := era_split h
  obtain ⟨doe, hdoe⟩ : ∃ doe, doe = 36524 * c + 1461 * q + 365 * r + doy := ⟨_, rfl⟩
  have hsum : ∀ t l, t ≤ doy →
      doe - (25 * c + q + t) + (c + l) - l = 365 * (100 * c + 4 * q + r) + (doy - t) := by
    intro t l ht
    rw [hdoe]
    clear hdoe hlast h
    omega
  have hyear : yearOfEra doe = 100 * c + 4 * q + r := by
    -- the first division is one too many near the end of a group, and on its last day at the latest
    obtain ⟨t, ht, hgroup⟩ : ∃ t, doe / 1460 = 25 * c + q + t ∧ t ≤ doy ∧ doy < 365 + t := by
      refine ⟨(24 * c + q + 365 * r + doy) / 1460, ?_, ?_, ?_⟩ <;> omega
    -- the last day of the era counts in both of the other divisions
    obtain ⟨l, hera, hcentury⟩ : ∃ l, doe / 146096 = l ∧ doe / 36524 = c + l := by
      by_cases hend : doe < 146096
      · exact ⟨0, by omega, by omega⟩
      · exact ⟨1, by omega, by omega⟩
    rw [yearOfEra, ht, hera, hcentury, hsum t l hgroup.1, Nat.mul_add_div (by decide),
      Nat.div_eq_of_lt (Nat.sub_lt_left_of_lt_add hgroup.1 (Nat.add_comm .. ▸ hgroup.2)),
      Nat.add_zero]
  have hfour : (100 * c + 4 * q + r) / 4 = 25 * c + q := by omega
  have hcentury : (100 * c + 4 * q + r) / 100 = c := by omega
  rw [← hdoe, hyear, hfour, hcentury]
  refine ⟨doy, hdoy, by omega, by omega, fun hday => ?_⟩
  rw [isLeap_iff]
  have := hlast hday
  omega

/-! ## 3. The date of a day -/

/-- 1970-01-01. -/
def epoch : Date := ⟨1970, 1, 1⟩

/-- The date as the code returns it. -/
def triple (d : Date) : Int × Nat × Nat := (d.year, d.month, d.day)

theorem epoch_number : epoch.number = 719528 := by
  rw [epoch, Date.number_first, daysBeforeYear_succ 1969]

/-- The date `doy` days after the first of March of the year `y`. -/
theorem date_from_march {y doy : Nat} (hdoy : doy ≤ 365)
    (hleap : doy = 365 → isLeap (y + 1) = true) : let mp := (5 * doy + 2) / 153
    let month := if mp < 10 then mp + 3 else mp - 9
    let d : Date := ⟨if month ≤ 2 then y + 1 else y, month, doy - (153 * mp + 2) / 5 + 1⟩
    d.Valid ∧ d.number + 306 = daysBeforeYear (y + 1) + doy := by
  intro mp month d
  have hyear : daysBeforeYear (y + 1) = daysBeforeYear y + yearLength y := Finset.sum_range_succ ..
  have hmp : mp = (5 * doy + 2) / 153 := rfl
  have hlt : mp < 12 := by omega
  by_cases hmarch : mp < 10
  · have hmonth : month = mp + 3 := if_pos hmarch
    have hd : d = ⟨y, mp + 3, doy - (153 * mp + 2) / 5 + 1⟩ := by
      simp only [d, hmonth, if_neg (show ¬ mp + 3 ≤ 2 by omega)]
    have hbefore := daysBeforeMonth_from_march y hmarch
    rw [hd]
    refine ⟨⟨Nat.le_add_left 1 _, ?_⟩, ?_⟩
    · dsimp only
      clear_value mp
      interval_cases mp <;> simp only [monthLength] <;> omega
    · simp only [Date.number]
      omega
  · have hmonth : month = mp - 9 := if_neg hmarch
    have hd : d = ⟨y + 1, mp - 9, doy - (153 * mp + 2) / 5 + 1⟩ := by
      simp only [d, hmonth, if_pos (show mp - 9 ≤ 2 by omega)]
    rw [hd]
    have hcases : mp = 10 ∨ mp = 11 := by omega
    refine ⟨⟨Nat.le_add_left 1 _, ?_⟩, ?_⟩
    · rcases hcases with h | h
      · rw [h]
        simp only [monthLength]
        omega
      · rw [h]
        simp only [monthLength]
        by_cases hday : doy = 365
        · rw [if_pos (hleap hday)]
          omega
        · split <;> omega
    · have hfirst : daysBeforeMonth (y + 1) 1 = 0 ∧ daysBeforeMonth (y + 1) 2 = 31 := ⟨rfl, rfl⟩
      rcases hcases with h | h <;> simp only [Date.number, h, Nat.reduceSub] <;> omega

/-- **The date of a day** since 1970-01-01. -/
theorem civil_date (n : Nat) :
    ∃ d : Date, d.Valid ∧ civilFromDays n = triple d ∧ d.number = epoch.number + n := by
  obtain ⟨era, hera⟩ : ∃ era, era = (n + 719468) / 146097 := ⟨_, rfl⟩
  obtain ⟨doe, hdoe⟩ : ∃ doe, doe = (n + 719468) % 146097 := ⟨_, rfl⟩
  obtain ⟨doy, hdoy, hyoe, hsplit, hlast⟩ := yearOfEra_spec (show doe < 146097 by omega)
  have hleap : doy = 365 → isLeap (yearOfEra doe + era * 400 + 1) = true := by
    intro hday
    have hrule := isLeap_iff.mp (hlast hday)
    rw [isLeap_iff]
    omega
  obtain ⟨hvalid, hnumber⟩ := date_from_march hdoy hleap
  refine ⟨_, hvalid, ?_, ?_⟩
  · have hz : (0 : Int) ≤ (n : Int) + 719468 := by omega
    have hdiv : ((n : Int) + 719468).tdiv 146097 = era := by
      rw [Int.tdiv_eq_ediv_of_nonneg hz]
      omega
    have hmod : (n : Int) + 719468 - era * 146097 = doe := by omega
    have hday : doe - (365 * yearOfEra doe + yearOfEra doe / 4 - yearOfEra doe / 100) = doy := by
      omega
    simp only [civilFromDays, if_pos hz, hdiv, hmod, Int.toNat_natCast, hday, triple, Nat.cast_ite,
      Nat.cast_add, Nat.cast_mul, Nat.cast_ofNat, Nat.cast_one]
  · have hfour : (yearOfEra doe + era * 400) / 4 = yearOfEra doe / 4 + 100 * era := by omega
    have hcentury : (yearOfEra doe + era * 400) / 100 = yearOfEra doe / 100 + 4 * era := by omega
    have hera : (yearOfEra doe + era * 400) / 400 = era := by omega
    rw [daysBeforeYear_succ, hfour, hcentury, hera] at hnumber
    rw [epoch_number]
    omega

/-- The date is determined by the day, so the code finds every date. -/
theorem civil_eq_iff {d : Date} (hd : d.Valid) (n : Nat) :
    civilFromDays n = triple d ↔ d.number = epoch.number + n := by
  obtain ⟨e, he, hcivil, hnumber⟩ := civil_date n
  rw [hcivil]
  constructor
  · intro h
    simp only [triple, Prod.mk.injEq, Nat.cast_inj] at h
    obtain ⟨hyear, hmonth, hday⟩ := h
    rw [← hnumber, Date.ext hyear hmonth hday]
  · intro h
    rw [Date.eq_of_number hd he (h.trans hnumber.symm)]

/-! ## 4. The text -/

/-- The digits of a number below 100. -/
def twoDigits (n : Nat) : Text := [(n / 10).digitChar, (n % 10).digitChar]

/-- The digits of a number below 10000. -/
def fourDigits (n : Nat) : Text := twoDigits (n / 100) ++ twoDigits (n % 100)

theorem padded_two {n : Nat} (h : n < 100) : padded 2 n = twoDigits n := by
  by_cases hone : n < 10
  · rw [padded, Nat.toDigits_of_lt_base hone, twoDigits, Nat.div_eq_of_lt hone,
      Nat.mod_eq_of_lt hone]
    rfl
  · rw [padded, Nat.toDigits_of_base_le (by decide) (Nat.le_of_not_lt hone),
      Nat.toDigits_of_lt_base (show n / 10 < 10 by omega)]
    rfl

theorem padded_four {n : Nat} (hlow : 1000 ≤ n) (h : n < 10000) : padded 4 n = fourDigits n := by
  have hdigits : Nat.toDigits 10 n = fourDigits n := by
    rw [Nat.toDigits_of_base_le (by decide) (by omega),
      Nat.toDigits_of_base_le (by decide) (by omega),
      Nat.toDigits_of_base_le (by decide) (by omega), Nat.toDigits_of_lt_base (by omega),
      fourDigits, twoDigits, twoDigits, show n / 10 / 10 / 10 = n / 100 / 10 by omega,
      show n / 10 / 10 % 10 = n / 100 % 10 by omega, show n / 10 % 10 = n % 100 / 10 by omega,
      show n % 10 = n % 100 % 10 by omega]
    rfl
  rw [padded, hdigits]
  rfl

/-- The weekday of a date, Sunday first: 0000-01-01 is a Saturday. -/
def weekday (d : Date) : Nat := (d.number + 6) % 7

/-- `day-name` of RFC 9110, from Sunday on. -/
def dayName : Nat → Option String
  | 0 => some "Sun"
  | 1 => some "Mon"
  | 2 => some "Tue"
  | 3 => some "Wed"
  | 4 => some "Thu"
  | 5 => some "Fri"
  | 6 => some "Sat"
  | _ => none

/-- `month` of RFC 9110. -/
def monthName : Nat → Option String
  | 1 => some "Jan"
  | 2 => some "Feb"
  | 3 => some "Mar"
  | 4 => some "Apr"
  | 5 => some "May"
  | 6 => some "Jun"
  | 7 => some "Jul"
  | 8 => some "Aug"
  | 9 => some "Sep"
  | 10 => some "Oct"
  | 11 => some "Nov"
  | 12 => some "Dec"
  | _ => none

/-- **The text is the IMF-fixdate** of a date and a second of its day: RFC 9110's names, two digits
each for the day, the hour, the minute and the second, and four for the year. -/
def ImfFixdate (text : Text) (d : Date) (tod : Nat) : Prop :=
  ∃ wday mon hh mm ss, dayName (weekday d) = some wday ∧ monthName d.month = some mon ∧
    hh < 24 ∧ mm < 60 ∧ ss < 60 ∧ tod = 3600 * hh + 60 * mm + ss ∧
    text = wday.toList ++ ", ".toList ++ twoDigits d.day ++ [' '] ++ mon.toList ++ [' '] ++
      fourDigits d.year ++ [' '] ++ twoDigits hh ++ [':'] ++ twoDigits mm ++ [':'] ++
      twoDigits ss ++ " GMT".toList

/-- The tables have the names of RFC 9110 in their order. -/
theorem weekdays_get {k : Nat} (h : k < 7) :
    ∃ name, dayName k = some name ∧ weekdays[k]? = some name.toList := by
  interval_cases k <;> exact ⟨_, rfl, rfl⟩

theorem months_get {m : Nat} (hpos : 1 ≤ m) (h : m ≤ 12) :
    ∃ name, monthName m = some name ∧ months[(m - 1)]? = some name.toList := by
  interval_cases m <;> exact ⟨_, rfl, rfl⟩

theorem formatHttpDate_eq {d : Date} (hd : d.Valid) (hend : d.year < 10000) {secs : Nat}
    (h : d.number = epoch.number + secs / 86400) :
    ∃ text, formatHttpDate secs = some text ∧ ImfFixdate text d (secs % 86400) := by
  obtain ⟨hpos, htwelve⟩ := hd.month_pos
  have hw : weekday d = (secs / 86400 + 4) % 7 := by
    rw [weekday, h, epoch_number]
    omega
  obtain ⟨wday, hdayName, hwday⟩ := weekdays_get (Nat.mod_lt (d.number + 6) (by decide : 7 > 0))
  obtain ⟨mon, hmonthName, hmon⟩ := months_get hpos htwelve
  have hday : d.day < 100 := by
    have hle := hd.2
    have hlen : monthLength d.year d.month ≤ 31 := by
      unfold monthLength
      split <;> (try split) <;> omega
    omega
  have hyear : 1000 ≤ d.year := by
    have hbelow := Date.number_lt_year hd
    rw [h, epoch_number, daysBeforeYear_succ] at hbelow
    omega
  refine ⟨_, ?_, wday, mon, secs % 86400 / 3600, secs % 86400 % 3600 / 60, secs % 86400 % 60,
    hdayName, hmonthName, by omega, by omega, by omega, by omega, rfl⟩
  have hprint : paddedInt 4 (d.year : Int) = fourDigits d.year := padded_four hyear hend
  rw [formatHttpDate, (civil_eq_iff hd _).mpr h, ← hw, weekday, hwday]
  simp only [Option.bind_eq_bind, Option.bind_some, triple, hmon, hprint, padded_two hday,
    padded_two (show secs % 86400 / 3600 < 100 by omega),
    padded_two (show secs % 86400 % 3600 / 60 < 100 by omega),
    padded_two (show secs % 86400 % 60 < 100 by omega)]
  rfl

/-- The dates that the server prints are those of the calendar. -/
structure HttpDatesExact : Prop where
  /-- the text, for every second before the year 10000 -/
  printed : ∀ secs, secs / 86400 < (⟨10000, 1, 1⟩ : Date).number - epoch.number →
    ∃ (d : Date) (text : Text), d.Valid ∧ d.number = epoch.number + secs / 86400 ∧
      formatHttpDate secs = some text ∧ ImfFixdate text d (secs % 86400)
  /-- every day has a date, whose number it is -/
  civil : ∀ n : Nat, ∃ d : Date, d.Valid ∧ civilFromDays n = triple d ∧ d.number = epoch.number + n
  /-- every date since 1970 is found from its number -/
  inverse : ∀ d : Date, d.Valid → epoch.number ≤ d.number →
    civilFromDays ((d.number - epoch.number : Nat) : Int) = triple d
  /-- consecutive days have consecutive dates -/
  consecutive : ∀ (n : Nat) (d : Date), d.Valid → civilFromDays n = triple d →
    civilFromDays ((n + 1 : Nat) : Int) = triple d.next

/-- **HTTP dates are correct.** -/
theorem http_dates_exact : HttpDatesExact where
  printed secs hend := by
    obtain ⟨d, hd, -, hnumber⟩ := civil_date (secs / 86400)
    have hyear : d.year < 10000 := by
      refine Date.year_lt ?_
      rw [hnumber, ← Date.number_first]
      exact Nat.add_lt_of_lt_sub' hend
    obtain ⟨text, htext, hform⟩ := formatHttpDate_eq hd hyear hnumber
    exact ⟨d, text, hd, hnumber, htext, hform⟩
  civil := civil_date
  inverse d hd hsince := (civil_eq_iff hd _).mpr (by omega)
  consecutive n d hd h := by
    have hnumber := (civil_eq_iff hd n).mp h
    refine (civil_eq_iff (Date.next_valid hd) _).mpr ?_
    rw [Date.number_next hd]
    omega

/-- The example of RFC 9110, and a leap day at the end of a century. -/
theorem http_dates_exact_printed :
    formatHttpDate 784887151 = some "Tue, 15 Nov 1994 08:12:31 GMT".toList ∧
    formatHttpDate 951782400 = some "Tue, 29 Feb 2000 00:00:00 GMT".toList ∧
    ∃ d : Date, d.number = epoch.number + 9084 ∧
      ImfFixdate "Tue, 15 Nov 1994 08:12:31 GMT".toList d 29551 := by
  have hprinted : formatHttpDate 784887151 =
      some "Tue, 15 Nov 1994 08:12:31 GMT".toList := by decide
  have hend : 784887151 / 86400 < (⟨10000, 1, 1⟩ : Date).number - epoch.number := by
    rw [epoch_number, Date.number_first, show 10000 = 9999 + 1 from rfl, daysBeforeYear_succ]
    decide
  obtain ⟨d, text, -, hnumber, htext, hform⟩ := http_dates_exact.printed 784887151 hend
  rw [hprinted, Option.some.injEq] at htext
  exact ⟨hprinted, by decide, d, hnumber, htext ▸ hform⟩

end BibaVpn.Server.HttpDate
