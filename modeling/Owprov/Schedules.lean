import Mathlib.Data.Finset.Sort
import Owprov.Handler
import Owprov.Lib.ByteSteps
import Owprov.Lib.OptionLists

/-!
# Schedules

The schedule of an RRM policy is a cron expression of six fields.  `ValidSchedule` accepts what
`make_cron` reads.  A field is a list of entries, and an entry is a loop of bytes over the bits of
the field.
-/

namespace Owprov

open ByteSteps OptionLists

/-! ## `croncpp.h` -/

/-- `utils::split` with `std::getline`, which leaves out an empty last token. -/
def cronSplit (delimiter : Char) (text : List Char) : List (List Char) :=
  let tokens := text.splitOn delimiter
  if tokens.getLast? = some [] then tokens.dropLast else tokens

/-- `std::stoul`, which throws without digits and beyond 64 bits, and negates after a minus. -/
def stoul (text : List Char) : Option ℕ :=
  let (negative, rest) :=
    match text.dropWhile isSpace with
    | '-' :: rest => (true, rest)
    | '+' :: rest => (false, rest)
    | rest => (false, rest)
  let digits := rest.takeWhile Char.isDigit
  if digits = [] then
    none
  else
    let value := decimalValue (String.ofList digits)
    if 2 ^ 64 ≤ value then none
    else some (if negative then (2 ^ 64 - value) % 2 ^ 64 else value)

/-- `to_cron_int`, which keeps eight bits. -/
def toCronInt (text : List Char) : Option ℕ :=
  (stoul text).map (· % 256)

/-- The two ends that `make_range` reads. -/
def readRange (field : List Char) (minval maxval : ℕ) : Option (ℕ × ℕ) :=
  if field = ['*'] then
    some (minval, maxval)
  else if '-' ∉ field then
    (toCronInt field).map fun value => (value, value)
  else
    match cronSplit '-' field with
    | [lower, upper] =>
        (toCronInt lower).bind fun first => (toCronInt upper).map fun last => (first, last)
    | _ => none

/-- `make_range`. -/
def makeRange (field : List Char) (minval maxval : ℕ) : Option (ℕ × ℕ) :=
  match readRange field minval maxval with
  | none => none
  | some (first, last) =>
      if maxval < first ∨ maxval < last then none
      else if first < minval ∨ last < minval then none
      else if last < first then none
      else some (first, last)

/-- An entry of a field: a range and an increment. -/
structure CronEntry where
  first : ℕ
  last : ℕ
  delta : ℕ
  deriving DecidableEq, Repr

/-- What `set_cron_field` reads of one entry. -/
def readEntry (minval maxval : ℕ) (field : List Char) : Option CronEntry :=
  if '/' ∉ field then
    (makeRange field minval maxval).map fun (first, last) =>
      { first := first, last := last, delta := 1 }
  else
    match cronSplit '/' field with
    | [range, increment] =>
        (makeRange range minval maxval).bind fun (first, last) =>
          (toCronInt increment).bind fun delta =>
            if delta = 0 then none
            else some
              { first := first
                last := if '-' ∈ range then last else maxval
                delta := delta }
    | _ => none

/-- The bits that the loop for one entry sets. -/
def entryBits (minval : ℕ) (entry : CronEntry) : Option (List ℕ) :=
  steps entry.delta (entry.last - minval) 256 (entry.first - minval)

/-- The entries of a field. -/
def fieldEntries (minval maxval : ℕ) (value : List Char) : Option (List CronEntry) :=
  if value.getLast? = some ',' then none
  else if cronSplit ',' value = [] then none
  else (cronSplit ',' value).mapM (readEntry minval maxval)

/-- `set_cron_field`, which begins with no bit set. -/
def setCronField (minval maxval : ℕ) (value : List Char) : Option (Finset ℕ) :=
  (fieldEntries minval maxval value).bind fun entries =>
    (entries.mapM (entryBits minval)).map fun bits => bits.flatten.toFinset

/-- `text.replace(text.find(name), 3, number)`, when the name is there. -/
def replaceOrdinal (name number : List Char) : List Char → List Char
  | [] => []
  | c :: rest =>
      if name <+: c :: rest then number ++ (c :: rest).drop 3
      else c :: replaceOrdinal name number rest

/-- `replace_ordinals`. -/
def replaceOrdinals (text : List Char) (replacement : List (List Char)) : List Char :=
  replacement.zipIdx.foldl
    (fun text name => replaceOrdinal name.1 (Nat.toDigits 10 name.2) text) text

/-- `cron_standard_traits::DAYS`. -/
def cronDays : List (List Char) :=
  ["SUN", "MON", "TUE", "WED", "THU", "FRI", "SAT"].map String.toList

/-- `cron_standard_traits::MONTHS`. -/
def cronMonths : List (List Char) :=
  ["NIL", "JAN", "FEB", "MAR", "APR", "MAY", "JUN", "JUL", "AUG", "SEP", "OCT", "NOV",
    "DEC"].map String.toList

def questionAsStar (text : List Char) : List Char :=
  if text = ['?'] then ['*'] else text

/-- `set_cron_days_of_week`. -/
def setCronDaysOfWeek (value : List Char) : Option (Finset ℕ) :=
  setCronField 0 6 (questionAsStar (replaceOrdinals (value.map Char.toUpper) cronDays))

/-- `set_cron_days_of_month`. -/
def setCronDaysOfMonth (value : List Char) : Option (Finset ℕ) :=
  setCronField 1 31 (questionAsStar value)

/-- `set_cron_month`. -/
def setCronMonth (value : List Char) : Option (Finset ℕ) :=
  setCronField 1 12 (replaceOrdinals (value.map Char.toUpper) cronMonths)

/-- `cronexpr`: the bits of the six fields. -/
structure Cronexpr where
  seconds : Finset ℕ
  minutes : Finset ℕ
  hours : Finset ℕ
  daysOfMonth : Finset ℕ
  months : Finset ℕ
  daysOfWeek : Finset ℕ
  deriving DecidableEq

/-- The fields of a text that are not empty.  The text ends at a zero byte. -/
def cronFields (expr : String) : List (List Char) :=
  (cronSplit ' ' (expr.toList.takeWhile (· ≠ Char.ofNat 0))).filter (· ≠ [])

/-- `make_cron`. -/
def makeCron (expr : String) : Option Cronexpr :=
  if expr = "" then
    none
  else
    match cronFields expr with
    | [second, minute, hour, dayOfMonth, month, dayOfWeek] => do
        let seconds ← setCronField 0 59 second
        let minutes ← setCronField 0 59 minute
        let hours ← setCronField 0 23 hour
        let daysOfWeek ← setCronDaysOfWeek dayOfWeek
        let daysOfMonth ← setCronDaysOfMonth dayOfMonth
        let months ← setCronMonth month
        some {
          seconds := seconds
          minutes := minutes
          hours := hours
          daysOfMonth := daysOfMonth
          months := months
          daysOfWeek := daysOfWeek }
    | _ => none

/-- `ValidSchedule`. -/
def validSchedule (v : String) : Bool :=
  (makeCron v).isSome

/-! ## What the fields mean -/

/-- The bits of an entry, without a loop. -/
def CronEntry.Sets (entry : CronEntry) (minval bit : ℕ) : Prop :=
  Reaches entry.delta (entry.last - minval) (entry.first - minval) bit

/-- The bits are those of the entries of a field. -/
def Describes (minval maxval : ℕ) (value : List Char) (bits : Finset ℕ) : Prop :=
  ∃ entries, fieldEntries minval maxval value = some entries ∧
    ∀ bit, bit ∈ bits ↔ ∃ entry ∈ entries, entry.Sets minval bit

/-- Some bit is set, and none beyond the last one. -/
def FieldFits (minval maxval : ℕ) (bits : Finset ℕ) : Prop :=
  bits.Nonempty ∧ ∀ bit ∈ bits, bit ≤ maxval - minval

/-- Every field of a schedule fits. -/
structure Cronexpr.WellFormed (cex : Cronexpr) : Prop where
  seconds : FieldFits 0 59 cex.seconds
  minutes : FieldFits 0 59 cex.minutes
  hours : FieldFits 0 23 cex.hours
  daysOfMonth : FieldFits 1 31 cex.daysOfMonth
  months : FieldFits 1 12 cex.months
  daysOfWeek : FieldFits 0 6 cex.daysOfWeek

section Fields

variable {minval maxval : ℕ} {value : List Char} {bits : Finset ℕ} {entry : CronEntry}

/-- What an entry of a field lies in. -/
structure CronEntry.Within (entry : CronEntry) (minval maxval : ℕ) : Prop where
  first : minval ≤ entry.first
  ordered : entry.first ≤ entry.last
  last : entry.last ≤ maxval
  positive : 0 < entry.delta
  byte : entry.delta ≤ 255

theorem toCronInt_le {text : List Char} {n : ℕ} (isNumber : toCronInt text = some n) : n ≤ 255 := by
  obtain ⟨value, _, rfl⟩ := Option.map_eq_some_iff.mp isNumber
  omega

theorem makeRange_bounds {first last : ℕ}
    (isRange : makeRange value minval maxval = some (first, last)) :
    minval ≤ first ∧ first ≤ last ∧ last ≤ maxval := by
  unfold makeRange at isRange
  split at isRange
  · cases isRange
  · split at isRange
    · cases isRange
    · split at isRange
      · cases isRange
      · split at isRange
        · cases isRange
        · cases isRange
          omega

theorem readEntry_within (isEntry : readEntry minval maxval value = some entry) :
    entry.Within minval maxval := by
  unfold readEntry at isEntry
  split at isEntry
  · obtain ⟨⟨first, last⟩, isRange, rfl⟩ := Option.map_eq_some_iff.mp isEntry
    obtain ⟨lower, ordered, upper⟩ := makeRange_bounds isRange
    exact ⟨lower, ordered, upper, Nat.one_pos, by simp⟩
  · split at isEntry
    · rename_i range increment _
      obtain ⟨⟨first, last⟩, isRange, incremented⟩ := Option.bind_eq_some_iff.mp isEntry
      obtain ⟨delta, isDelta, same⟩ := Option.bind_eq_some_iff.mp incremented
      obtain ⟨lower, ordered, upper⟩ := makeRange_bounds isRange
      have byte := toCronInt_le isDelta
      split at same
      · cases same
      · rename_i positive
        cases same
        refine ⟨lower, ?_, ?_, Nat.pos_of_ne_zero positive, byte⟩
        · dsimp only
          split <;> omega
        · dsimp only
          split <;> omega
    · cases isEntry

theorem fieldEntries_within {entries : List CronEntry}
    (isField : fieldEntries minval maxval value = some entries) :
    entries ≠ [] ∧ ∀ entry ∈ entries, entry.Within minval maxval := by
  unfold fieldEntries at isField
  split at isField
  · cases isField
  · split at isField
    · cases isField
    · rename_i filled
      refine ⟨?_, fun entry member => ?_⟩
      · rintro rfl
        obtain ⟨field, fields, isCons⟩ := List.exists_cons_of_ne_nil filled
        rw [isCons] at isField
        obtain ⟨_, _, _, _, isNil⟩ := mapM_cons_eq_some isField
        cases isNil
      · obtain ⟨field, _, isEntry⟩ := (mem_of_mapM_eq_some isField).mp member
        exact readEntry_within isEntry

/-- The loop for an entry ends. -/
theorem exists_entryBits (within : entry.Within minval maxval) (small : maxval ≤ minval + 127) :
    ∃ values, entryBits minval entry = some values ∧
      ∀ bit, bit ∈ values ↔ entry.Sets minval bit := by
  obtain ⟨first, ordered, last, positive, byte⟩ := within
  exact exists_steps positive byte (by omega) (by omega)

theorem setCronField_eq_some_iff (small : maxval ≤ minval + 127) :
    setCronField minval maxval value = some bits ↔ Describes minval maxval value bits := by
  unfold setCronField Describes
  rw [Option.bind_eq_some_iff]
  refine exists_congr fun entries => and_congr_right fun isField => ?_
  obtain ⟨_, within⟩ := fieldEntries_within isField
  have ends : (entries.mapM (entryBits minval)).isSome := by
    refine mapM_isSome fun entry member => ?_
    obtain ⟨values, found, _⟩ := exists_entryBits (within entry member) small
    rw [found]
    rfl
  obtain ⟨lists, found⟩ := Option.isSome_iff_exists.mp ends
  have meaning : ∀ bit, bit ∈ lists.flatten.toFinset ↔ ∃ entry ∈ entries, entry.Sets minval bit := by
    intro bit
    rw [List.mem_toFinset, List.mem_flatten]
    constructor
    · rintro ⟨values, isList, member⟩
      obtain ⟨entry, isEntry, isValues⟩ := (mem_of_mapM_eq_some found).mp isList
      obtain ⟨values', found', sets⟩ := exists_entryBits (within entry isEntry) small
      obtain rfl := Option.some.inj (isValues.symm.trans found')
      exact ⟨entry, isEntry, (sets bit).mp member⟩
    · rintro ⟨entry, isEntry, isSet⟩
      obtain ⟨values, found', sets⟩ := exists_entryBits (within entry isEntry) small
      exact ⟨values, (mem_of_mapM_eq_some found).mpr ⟨entry, isEntry, found'⟩,
        (sets bit).mpr isSet⟩
  rw [found, Option.map_some, Option.some.injEq]
  constructor
  · rintro rfl
    exact meaning
  · intro described
    exact Finset.ext fun bit => (meaning bit).trans (described bit).symm

theorem Describes.fits (small : maxval ≤ minval + 127) (describes : Describes minval maxval value bits) :
    FieldFits minval maxval bits := by
  obtain ⟨entries, isField, meaning⟩ := describes
  obtain ⟨filled, within⟩ := fieldEntries_within isField
  constructor
  · obtain ⟨entry, rest, rfl⟩ := List.exists_cons_of_ne_nil filled
    obtain ⟨first, ordered, last, positive, byte⟩ := within entry List.mem_cons_self
    exact ⟨entry.first - minval, (meaning _).mpr
      ⟨entry, List.mem_cons_self, reaches_first (by omega)⟩⟩
  · intro bit member
    obtain ⟨entry, isEntry, sets⟩ := (meaning bit).mp member
    obtain ⟨first, ordered, last, positive, byte⟩ := within entry isEntry
    have bounded := sets.le (by omega)
    omega

end Fields

/-! ## Schedules -/

theorem makeCron_eq_some_iff {expr : String} {cex : Cronexpr} :
    makeCron expr = some cex ↔
      expr ≠ "" ∧ ∃ second minute hour dayOfMonth month dayOfWeek,
        cronFields expr = [second, minute, hour, dayOfMonth, month, dayOfWeek] ∧
        setCronField 0 59 second = some cex.seconds ∧
        setCronField 0 59 minute = some cex.minutes ∧
        setCronField 0 23 hour = some cex.hours ∧
        setCronDaysOfMonth dayOfMonth = some cex.daysOfMonth ∧
        setCronMonth month = some cex.months ∧
        setCronDaysOfWeek dayOfWeek = some cex.daysOfWeek := by
  unfold makeCron
  split
  · rename_i empty
    simp [empty]
  · rename_i filled
    rw [and_iff_right filled]
    split
    · rename_i second minute hour dayOfMonth month dayOfWeek six
      simp only [Option.bind_eq_bind, Option.bind_eq_some_iff]
      constructor
      · rintro ⟨_, seconds, _, minutes, _, hours, _, daysOfWeek, _, daysOfMonth, _, months, same⟩
        cases same
        exact ⟨_, _, _, _, _, _, six, seconds, minutes, hours, daysOfMonth, months, daysOfWeek⟩
      · rintro ⟨_, _, _, _, _, _, same, seconds, minutes, hours, daysOfMonth, months, daysOfWeek⟩
        rw [six] at same
        cases same
        exact ⟨_, seconds, _, minutes, _, hours, _, daysOfWeek, _, daysOfMonth, _, months, rfl⟩
    · rename_i fewer
      constructor
      · exact fun none => by cases none
      · rintro ⟨second, minute, hour, dayOfMonth, month, dayOfWeek, six, _⟩
        exact (fewer _ _ _ _ _ _ six).elim

theorem setCronDaysOfMonth_eq_some_iff {value : List Char} {bits : Finset ℕ} :
    setCronDaysOfMonth value = some bits ↔ Describes 1 31 (questionAsStar value) bits :=
  setCronField_eq_some_iff (by simp)

theorem setCronMonth_eq_some_iff {value : List Char} {bits : Finset ℕ} :
    setCronMonth value = some bits ↔
      Describes 1 12 (replaceOrdinals (value.map Char.toUpper) cronMonths) bits :=
  setCronField_eq_some_iff (by simp)

theorem setCronDaysOfWeek_eq_some_iff {value : List Char} {bits : Finset ℕ} :
    setCronDaysOfWeek value = some bits ↔
      Describes 0 6 (questionAsStar (replaceOrdinals (value.map Char.toUpper) cronDays)) bits :=
  setCronField_eq_some_iff (by simp)

/-- A text reads as a schedule exactly when it has six fields and each is the list of the entries of
its bits.  The loops end for every increment; one that makes the byte wrap counts down. -/
theorem makeCron_describes {expr : String} {cex : Cronexpr} :
    makeCron expr = some cex ↔
      expr ≠ "" ∧ ∃ second minute hour dayOfMonth month dayOfWeek,
        cronFields expr = [second, minute, hour, dayOfMonth, month, dayOfWeek] ∧
        Describes 0 59 second cex.seconds ∧ Describes 0 59 minute cex.minutes ∧
        Describes 0 23 hour cex.hours ∧
        Describes 1 31 (questionAsStar dayOfMonth) cex.daysOfMonth ∧
        Describes 1 12 (replaceOrdinals (month.map Char.toUpper) cronMonths) cex.months ∧
        Describes 0 6 (questionAsStar (replaceOrdinals (dayOfWeek.map Char.toUpper) cronDays))
          cex.daysOfWeek := by
  have sixty : ∀ value bits, setCronField 0 59 value = some bits ↔ Describes 0 59 value bits :=
    fun value bits => setCronField_eq_some_iff (by simp)
  have hourly : ∀ value bits, setCronField 0 23 value = some bits ↔ Describes 0 23 value bits :=
    fun value bits => setCronField_eq_some_iff (by simp)
  rw [makeCron_eq_some_iff]
  simp only [sixty, hourly, setCronDaysOfMonth_eq_some_iff, setCronMonth_eq_some_iff,
    setCronDaysOfWeek_eq_some_iff]

/-! ## Writing schedules -/

/-- The numbers of bits, as a field. -/
def renderField (minval : ℕ) (bits : Finset ℕ) : List Char :=
  [','].intercalate ((bits.sort (· ≤ ·)).map fun bit => Nat.toDigits 10 (bit + minval))

/-- A text for a schedule. -/
def Cronexpr.render (cex : Cronexpr) : String :=
  String.ofList ([' '].intercalate
    [renderField 0 cex.seconds, renderField 0 cex.minutes, renderField 0 cex.hours,
      renderField 1 cex.daysOfMonth, renderField 1 cex.months, renderField 0 cex.daysOfWeek])

/-- The digits of a number that a field may hold read back. -/
theorem stoul_toDigits : ∀ n < 60, stoul (Nat.toDigits 10 n) = some n := by
  decide

theorem isDigit_toDigits {n : ℕ} {c : Char} (member : c ∈ Nat.toDigits 10 n) :
    c.isDigit = true :=
  Nat.isDigit_of_mem_toDigits (by decide) (by decide) member

section Rendering

variable {delimiter : Char} {tokens : List (List Char)} {minval maxval : ℕ} {bits : Finset ℕ}

theorem mem_intercalate {c : Char} (member : c ∈ [delimiter].intercalate tokens) :
    c = delimiter ∨ ∃ token ∈ tokens, c ∈ token := by
  induction tokens with
  | nil => cases member
  | cons token tokens ih =>
      cases tokens with
      | nil =>
          rw [List.intercalate_singleton] at member
          exact .inr ⟨token, List.mem_cons_self, member⟩
      | cons next tokens =>
          rw [List.intercalate_cons_cons, List.append_assoc, List.mem_append, List.mem_append] at member
          rcases member with member | member | member
          · exact .inr ⟨token, List.mem_cons_self, member⟩
          · exact .inl (List.mem_singleton.mp member)
          · rcases ih member with isDelimiter | ⟨later, isLater, member⟩
            · exact .inl isDelimiter
            · exact .inr ⟨later, List.mem_cons_of_mem _ isLater, member⟩

/-- The last token ends the text. -/
theorem getLast?_intercalate (filled : tokens ≠ []) (words : ∀ token ∈ tokens, token ≠ []) :
    ∃ token ∈ tokens, ([delimiter].intercalate tokens).getLast? = token.getLast? := by
  induction tokens with
  | nil => exact absurd rfl filled
  | cons token tokens ih =>
      cases tokens with
      | nil => exact ⟨token, List.mem_cons_self, by rw [List.intercalate_singleton]⟩
      | cons next tokens =>
          obtain ⟨last, isLast, same⟩ :=
            ih (List.cons_ne_nil _ _) fun word member => words word (List.mem_cons_of_mem _ member)
          refine ⟨last, List.mem_cons_of_mem _ isLast, ?_⟩
          have word := words last (List.mem_cons_of_mem _ isLast)
          rw [List.intercalate_cons_cons, List.append_assoc, List.getLast?_append,
            List.getLast?_append, same, List.getLast?_eq_some_getLast word]
          rfl

/-- Tokens without the delimiter are split as they were joined. -/
theorem cronSplit_intercalate (filled : tokens ≠ [])
    (words : ∀ token ∈ tokens, token ≠ [] ∧ delimiter ∉ token) :
    cronSplit delimiter ([delimiter].intercalate tokens) = tokens := by
  unfold cronSplit
  rw [List.splitOn_intercalate delimiter (fun token member => (words token member).2) filled]
  refine if_neg fun empty => ?_
  exact (words [] (List.mem_of_getLast? empty)).1 rfl

theorem not_mem_toDigits {n : ℕ} {c : Char} (noDigit : c.isDigit = false) :
    c ∉ Nat.toDigits 10 n := by
  intro member
  rw [isDigit_toDigits member] at noDigit
  cases noDigit

theorem readEntry_toDigits {n : ℕ} (small : n < 60) (lower : minval ≤ n) (upper : n ≤ maxval) :
    readEntry minval maxval (Nat.toDigits 10 n) = some { first := n, last := n, delta := 1 } := by
  have isNumber : toCronInt (Nat.toDigits 10 n) = some n := by
    rw [toCronInt, stoul_toDigits n small, Option.map_some, Nat.mod_eq_of_lt (by omega)]
  have noStar : Nat.toDigits 10 n ≠ ['*'] := by
    intro star
    exact not_mem_toDigits (c := '*') rfl (star ▸ List.mem_singleton_self '*')
  rw [readEntry, if_pos (not_mem_toDigits rfl), makeRange, readRange, if_neg noStar,
    if_pos (not_mem_toDigits rfl), isNumber, Option.map_some]
  dsimp only
  rw [if_neg (by omega), if_neg (by omega), if_neg (by omega)]
  rfl

/-- A written field describes its bits. -/
theorem describes_renderField (small : maxval < 60) (fits : FieldFits minval maxval bits)
    (ordered : minval ≤ maxval) :
    Describes minval maxval (renderField minval bits) bits := by
  obtain ⟨nonempty, bounded⟩ := fits
  have isBit : ∀ bit, bit ∈ bits.sort (· ≤ ·) ↔ bit ∈ bits := fun bit => Finset.mem_sort _
  have words : ∀ token ∈ (bits.sort (· ≤ ·)).map (fun bit => Nat.toDigits 10 (bit + minval)),
      token ≠ [] ∧ ',' ∉ token := by
    intro token member
    obtain ⟨bit, isSorted, rfl⟩ := List.mem_map.mp member
    exact ⟨Nat.toDigits_ne_nil, not_mem_toDigits rfl⟩
  have filled : (bits.sort (· ≤ ·)).map (fun bit => Nat.toDigits 10 (bit + minval)) ≠ [] := by
    obtain ⟨bit, member⟩ := nonempty
    exact List.ne_nil_of_mem (List.mem_map_of_mem ((isBit bit).mpr member))
  refine ⟨(bits.sort (· ≤ ·)).map fun bit =>
    { first := bit + minval, last := bit + minval, delta := 1 }, ?_, ?_⟩
  · have split := cronSplit_intercalate filled words
    have noComma : (renderField minval bits).getLast? ≠ some ',' := by
      obtain ⟨token, isToken, last⟩ : ∃ token ∈ _, ([','].intercalate _).getLast? = _ :=
        getLast?_intercalate filled fun token member => (words token member).1
      rw [renderField, last]
      exact fun comma => (words token isToken).2 (List.mem_of_getLast? comma)
    rw [fieldEntries, if_neg noComma, renderField, split, if_neg filled]
    refine mapM_map_eq_some fun bit isSorted => ?_
    have := bounded bit ((isBit bit).mp isSorted)
    exact readEntry_toDigits (by omega) (by omega) (by omega)
  · intro bit
    constructor
    · intro member
      refine ⟨_, List.mem_map_of_mem ((isBit bit).mpr member), ?_⟩
      have := bounded bit member
      rw [CronEntry.Sets]
      dsimp only
      rw [Nat.add_sub_cancel]
      exact reaches_first (le_refl bit)
    · rintro ⟨entry, isEntry, sets⟩
      obtain ⟨other, isSorted, rfl⟩ := List.mem_map.mp isEntry
      have := bounded other ((isBit other).mp isSorted)
      rw [CronEntry.Sets] at sets
      dsimp only at sets
      rw [Nat.add_sub_cancel, Reaches, if_pos (by omega)] at sets
      obtain ⟨upper, k, isSum⟩ := sets
      have same : bit = other := by omega
      exact same ▸ (isBit other).mp isSorted

/-- A written field has digits and commas only. -/
theorem mem_renderField {c : Char} (member : c ∈ renderField minval bits) :
    c = ',' ∨ c.isDigit = true := by
  rcases mem_intercalate member with comma | ⟨token, isToken, member⟩
  · exact .inl comma
  · obtain ⟨bit, isSorted, rfl⟩ := List.mem_map.mp isToken
    exact .inr (isDigit_toDigits member)

theorem renderField_ne_nil (small : maxval < 60) (ordered : minval ≤ maxval)
    (fits : FieldFits minval maxval bits) : renderField minval bits ≠ [] := by
  intro empty
  obtain ⟨entries, isField, meaning⟩ := describes_renderField small fits ordered
  rw [empty] at isField
  cases isField

/-- No name begins with a character of the text. -/
theorem replaceOrdinal_of_not_mem {name number text : List Char} {c : Char}
    (starts : name.head? = some c) (absent : c ∉ text) : replaceOrdinal name number text = text := by
  induction text with
  | nil => rfl
  | cons first rest ih =>
      have apart : ¬ name <+: first :: rest := by
        rintro ⟨after, same⟩
        cases name with
        | nil => cases starts
        | cons head tail =>
            cases starts
            cases same
            exact absent List.mem_cons_self
      rw [replaceOrdinal, if_neg apart, ih fun member => absent (List.mem_cons_of_mem _ member)]

theorem replaceOrdinals_of_not_mem {text : List Char} {names : List (List Char)}
    (apart : ∀ name ∈ names, ∃ c, name.head? = some c ∧ c ∉ text) :
    replaceOrdinals text names = text := by
  have numbered : ∀ pairs : List (List Char × ℕ),
      (∀ pair ∈ pairs, ∃ c, pair.1.head? = some c ∧ c ∉ text) →
      pairs.foldl (fun text name => replaceOrdinal name.1 (Nat.toDigits 10 name.2) text) text =
        text := by
    intro pairs each
    induction pairs with
    | nil => rfl
    | cons pair pairs ih =>
        obtain ⟨c, starts, absent⟩ := each pair List.mem_cons_self
        rw [List.foldl_cons, replaceOrdinal_of_not_mem starts absent]
        exact ih fun other member => each other (List.mem_cons_of_mem _ member)
  exact numbered _ fun pair member => apart pair.1 (List.fst_mem_of_mem_zipIdx member)

/-- The names of days and months begin with letters. -/
theorem head_of_ordinals : ∀ name ∈ cronDays ++ cronMonths,
    ∃ c, name.head? = some c ∧ c ≠ ',' ∧ c.isDigit = false := by
  have checked : (cronDays ++ cronMonths).all (fun name =>
      name.head?.any fun c => c != ',' && !c.isDigit) = true := by decide
  intro name member
  obtain ⟨c, starts, letter⟩ :=
    (Option.any_eq_true _ _).mp (List.all_eq_true.mp checked name member)
  rw [Bool.and_eq_true, bne_iff_ne, Bool.not_eq_true'] at letter
  exact ⟨c, starts, letter⟩

theorem toUpper_of_isDigit {c : Char} (digit : c.isDigit = true) : c.toUpper = c := by
  rw [Char.isDigit, Bool.and_eq_true, decide_eq_true_iff, decide_eq_true_iff] at digit
  refine dif_neg fun lower => ?_
  have letter : '9'.val < 'a'.val := by decide
  exact UInt32.not_le.mpr letter (UInt32.le_trans lower.1 digit.2)

/-- Nothing is replaced in a written field. -/
theorem read_renderField {names : List (List Char)}
    (isOrdinals : ∀ name ∈ names, name ∈ cronDays ++ cronMonths) :
    replaceOrdinals ((renderField minval bits).map Char.toUpper) names =
      renderField minval bits := by
  have upper : (renderField minval bits).map Char.toUpper = renderField minval bits := by
    refine (List.map_congr_left fun c member => ?_).trans (List.map_id _)
    rcases mem_renderField member with rfl | digit
    · rfl
    · exact toUpper_of_isDigit digit
  rw [upper]
  refine replaceOrdinals_of_not_mem fun name member => ?_
  obtain ⟨c, starts, noComma, noDigit⟩ := head_of_ordinals name (isOrdinals name member)
  refine ⟨c, starts, fun member => ?_⟩
  rcases mem_renderField member with comma | digit
  · exact noComma comma
  · rw [noDigit] at digit
    cases digit

theorem questionAsStar_renderField :
    questionAsStar (renderField minval bits) = renderField minval bits := by
  refine if_neg fun question => ?_
  have member : '?' ∈ renderField minval bits := question ▸ List.mem_singleton_self '?'
  rcases mem_renderField member with comma | digit
  · exact absurd comma (by decide)
  · exact absurd digit (by decide)

end Rendering

/-- Six words without blanks and zero bytes are the fields of the text that joins them. -/
theorem cronFields_intercalate {fields : List (List Char)} (filled : fields ≠ [])
    (words : ∀ field ∈ fields, field ≠ [] ∧ ' ' ∉ field ∧ Char.ofNat 0 ∉ field) :
    cronFields (String.ofList ([' '].intercalate fields)) = fields := by
  have whole : ([' '].intercalate fields).takeWhile (· ≠ Char.ofNat 0) =
      [' '].intercalate fields := by
    refine List.takeWhile_eq_self_iff.mpr fun c member => decide_eq_true ?_
    rcases mem_intercalate member with rfl | ⟨field, isField, member⟩
    · decide
    · rintro rfl
      exact (words field isField).2.2 member
  rw [cronFields, String.toList_ofList, whole,
    cronSplit_intercalate filled fun field member => ⟨(words field member).1, (words field member).2.1⟩]
  exact List.filter_eq_self.mpr fun field member => decide_eq_true (words field member).1

theorem makeCron_wellFormed {expr : String} {cex : Cronexpr} (made : makeCron expr = some cex) :
    cex.WellFormed := by
  obtain ⟨_, _, _, _, _, _, _, _, seconds, minutes, hours, daysOfMonth, months, daysOfWeek⟩ :=
    makeCron_eq_some_iff.mp made
  exact
    { seconds := ((setCronField_eq_some_iff (by simp)).mp seconds).fits (by simp)
      minutes := ((setCronField_eq_some_iff (by simp)).mp minutes).fits (by simp)
      hours := ((setCronField_eq_some_iff (by simp)).mp hours).fits (by simp)
      daysOfMonth := (setCronDaysOfMonth_eq_some_iff.mp daysOfMonth).fits (by simp)
      months := (setCronMonth_eq_some_iff.mp months).fits (by simp)
      daysOfWeek := (setCronDaysOfWeek_eq_some_iff.mp daysOfWeek).fits (by simp) }

/-- A written field has digits and commas, and so neither a blank nor a zero byte. -/
theorem renderField_word {minval maxval : ℕ} {bits : Finset ℕ} (small : maxval < 60)
    (ordered : minval ≤ maxval) (fits : FieldFits minval maxval bits) :
    renderField minval bits ≠ [] ∧ ' ' ∉ renderField minval bits ∧
      Char.ofNat 0 ∉ renderField minval bits := by
  refine ⟨renderField_ne_nil small ordered fits, fun member => ?_, fun member => ?_⟩
  · rcases mem_renderField member with comma | digit
    · exact absurd comma (by decide)
    · exact absurd digit (by decide)
  · rcases mem_renderField member with comma | digit
    · exact absurd comma (by decide)
    · exact absurd digit (by decide)

theorem cronFields_render {cex : Cronexpr} (wellFormed : cex.WellFormed) :
    cronFields cex.render = [renderField 0 cex.seconds, renderField 0 cex.minutes,
      renderField 0 cex.hours, renderField 1 cex.daysOfMonth, renderField 1 cex.months,
      renderField 0 cex.daysOfWeek] := by
  obtain ⟨seconds, minutes, hours, daysOfMonth, months, daysOfWeek⟩ := wellFormed
  refine cronFields_intercalate (List.cons_ne_nil _ _) ?_
  simp only [List.forall_mem_cons]
  exact ⟨renderField_word (by simp) (by simp) seconds, renderField_word (by simp) (by simp) minutes,
    renderField_word (by simp) (by simp) hours, renderField_word (by simp) (by simp) daysOfMonth,
    renderField_word (by simp) (by simp) months, renderField_word (by simp) (by simp) daysOfWeek,
    by simp⟩

theorem makeCron_render {cex : Cronexpr} (wellFormed : cex.WellFormed) :
    makeCron cex.render = some cex := by
  have six := cronFields_render wellFormed
  obtain ⟨seconds, minutes, hours, daysOfMonth, months, daysOfWeek⟩ := wellFormed
  have filled : cex.render ≠ "" := by
    intro empty
    rw [empty] at six
    exact absurd six (by simp [cronFields, cronSplit])
  refine makeCron_eq_some_iff.mpr ⟨filled, _, _, _, _, _, _, six, ?_, ?_, ?_, ?_, ?_, ?_⟩
  · exact (setCronField_eq_some_iff (by simp)).mpr
      (describes_renderField (by simp) seconds (by simp))
  · exact (setCronField_eq_some_iff (by simp)).mpr
      (describes_renderField (by simp) minutes (by simp))
  · exact (setCronField_eq_some_iff (by simp)).mpr
      (describes_renderField (by simp) hours (by simp))
  · rw [setCronDaysOfMonth_eq_some_iff, questionAsStar_renderField]
    exact describes_renderField (by simp) daysOfMonth (by simp)
  · rw [setCronMonth_eq_some_iff, read_renderField fun name member =>
      List.mem_append_right _ member]
    exact describes_renderField (by simp) months (by simp)
  · rw [setCronDaysOfWeek_eq_some_iff,
      read_renderField fun name member => List.mem_append_left _ member,
      questionAsStar_renderField]
    exact describes_renderField (by simp) daysOfWeek (by simp)

/-- A schedule reads back from its text exactly when every field has a bit, and none that does not
stand for a second, a minute, an hour, a day or a month. -/
theorem makeCron_render_iff {cex : Cronexpr} :
    makeCron cex.render = some cex ↔ cex.WellFormed :=
  ⟨makeCron_wellFormed, makeCron_render⟩

/-! ## RRM policies -/

/-- What `ValidRRM` asks of a text that is neither `no` nor `inherit`. -/
def validRRMDetails (parse : String → Option JsonObject) (v : String) : Bool :=
  match parse v with
  | none => false
  | some details =>
      match details.objectsField "algorithms" with
      | .error _ => false
      | .ok _ => validSchedule (details.stringField "schedule")

/-- An accepted RRM policy has a schedule that fits, or none. -/
theorem schedule_of_validRRM {env : Env} {parse : String → Option JsonObject} {v : String}
    (reads : env.validRRMDetails = validRRMDetails parse) (valid : validRRM env v = true) :
    v = "no" ∨ v = "inherit" ∨ ∃ details cex, parse v = some details ∧
      makeCron (details.stringField "schedule") = some cex ∧ cex.WellFormed := by
  rw [validRRM, Bool.or_eq_true, Bool.or_eq_true, beq_iff_eq, beq_iff_eq, reads] at valid
  rcases valid with (no | inherit) | valid
  · exact .inl no
  · exact .inr (.inl inherit)
  · refine .inr (.inr ?_)
    unfold validRRMDetails at valid
    split at valid
    · cases valid
    · rename_i details parsed
      split at valid
      · cases valid
      · obtain ⟨cex, made⟩ := Option.isSome_iff_exists.mp valid
        exact ⟨details, cex, parsed, made, makeCron_wellFormed made⟩

end Owprov
