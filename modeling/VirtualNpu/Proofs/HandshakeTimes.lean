import VirtualNpu.Proofs.GregorianCalendar
import VirtualNpu.Proofs.PaddedNumerals
import VirtualNpu.Registration.Handshake

/-!
The time that a handshake tells.  A date and a time of day stand for one moment, which is read off
the text of the handshake again; while years have four digits, later texts are of later moments.
-/

namespace VirtualNpu
namespace Registration

/-! ### Moments -/

structure CivilTime.IsShown (time : CivilTime) : Prop where
  date : IsDate (time.year, time.month, time.day)
  hour : time.hour < 24
  minute : time.minute < 60
  second : time.second < 60

instance (date : Date) : Decidable (IsDate date) :=
  decidable_of_iff ((1 ≤ date.2.1 ∧ date.2.1 ≤ 12) ∧
      1 ≤ date.2.2 ∧ date.2.2 ≤ monthDays date.1 date.2.1)
    ⟨fun valid => ⟨valid.1, valid.2⟩, fun valid => ⟨valid.month, valid.day⟩⟩

instance (time : CivilTime) : Decidable time.IsShown :=
  decidable_of_iff (IsDate (time.year, time.month, time.day) ∧
      time.hour < 24 ∧ time.minute < 60 ∧ time.second < 60)
    ⟨fun ⟨date, hour, minute, second⟩ => ⟨date, hour, minute, second⟩,
      fun shown => ⟨shown.date, shown.hour, shown.minute, shown.second⟩⟩

def CivilTime.moment (time : CivilTime) : Int :=
  dayNumber (time.year, time.month, time.day) * 86400
    + (time.hour * 3600 + time.minute * 60 + time.second)

theorem isShown_ofSeconds (seconds : Int) : (CivilTime.ofSeconds seconds).IsShown := by
  have most := Int.emod_lt_of_pos seconds (by decide : (0 : Int) < 86400)
  refine ⟨(civilDate_spec (seconds.fdiv 86400)).1, ?_, ?_, ?_⟩
  · change (seconds.fmod 86400).toNat / 3600 < 24
    rw [Int.fmod_eq_emod_of_nonneg _ (by decide)]
    omega
  · exact Nat.mod_lt _ (by decide)
  · exact Nat.mod_lt _ (by decide)

theorem moment_ofSeconds (seconds : Int) : (CivilTime.ofSeconds seconds).moment = seconds := by
  have number := (civilDate_spec (seconds.fdiv 86400)).2
  change dayNumber (civilDate (seconds.fdiv 86400)) * 86400 +
    (((seconds.fmod 86400).toNat / 3600 : Nat) * 3600 +
      ((seconds.fmod 86400).toNat / 60 % 60 : Nat) * 60 +
      ((seconds.fmod 86400).toNat % 60 : Nat)) = seconds
  rw [number, Int.fdiv_eq_ediv_of_nonneg _ (by decide), Int.fmod_eq_emod_of_nonneg _ (by decide)]
  have counted := Int.mul_ediv_add_emod seconds 86400
  have least := Int.emod_nonneg seconds (by decide : (86400 : Int) ≠ 0)
  omega

def CivilTime.Precedes (one other : CivilTime) : Prop :=
  one.year < other.year ∨ one.year = other.year ∧
    (one.month < other.month ∨ one.month = other.month ∧
      (one.day < other.day ∨ one.day = other.day ∧
        (one.hour < other.hour ∨ one.hour = other.hour ∧
          (one.minute < other.minute ∨ one.minute = other.minute ∧ one.second < other.second))))

theorem moment_lt {one other : CivilTime} (shown : one.IsShown) (shown' : other.IsShown)
    (precedes : one.Precedes other) : one.moment < other.moment := by
  obtain ⟨year, month, day, hour, minute, second⟩ := one
  obtain ⟨year', month', day', hour', minute', second'⟩ := other
  obtain ⟨date, hours, minutes, seconds⟩ := shown
  obtain ⟨date', -, -, -⟩ := shown'
  dsimp only [CivilTime.Precedes, CivilTime.moment] at *
  by_cases sameDate : (year, month, day) = (year', month', day')
  · rw [sameDate]
    obtain ⟨rfl, rfl, rfl⟩ : year = year' ∧ month = month' ∧ day = day' := by
      simpa using sameDate
    omega
  · have earlier : Registration.Precedes (year, month, day) (year', month', day') := by
      dsimp only [Registration.Precedes]
      rw [Prod.mk.injEq, Prod.mk.injEq] at sameDate
      omega
    have days := dayNumber_lt date date' earlier
    omega

theorem CivilTime.precedes_trichotomy (one other : CivilTime) :
    one.Precedes other ∨ one = other ∨ other.Precedes one := by
  obtain ⟨year, month, day, hour, minute, second⟩ := one
  obtain ⟨year', month', day', hour', minute', second'⟩ := other
  simp only [CivilTime.Precedes, CivilTime.mk.injEq]
  omega

theorem precedes_ofSeconds_iff (seconds later : Int) :
    (CivilTime.ofSeconds seconds).Precedes (CivilTime.ofSeconds later) ↔ seconds < later := by
  have shown := isShown_ofSeconds seconds
  have shown' := isShown_ofSeconds later
  constructor
  · intro precedes
    have less := moment_lt shown shown' precedes
    rwa [moment_ofSeconds, moment_ofSeconds] at less
  · intro less
    rcases CivilTime.precedes_trichotomy (.ofSeconds seconds) (.ofSeconds later) with
      precedes | same | precedes
    · exact precedes
    · have equal := congrArg CivilTime.moment same
      rw [moment_ofSeconds, moment_ofSeconds] at equal
      omega
    · have more := moment_lt shown' shown precedes
      rw [moment_ofSeconds, moment_ofSeconds] at more
      omega

/-! ### Texts -/

def signed : List Char → Int × List Char
  | '-' :: unsigned => (-1, unsigned)
  | '+' :: unsigned => (1, unsigned)
  | unsigned => (1, unsigned)

/-- Reads a time: a year, with or without a sign, and two digits for each of the others. -/
def CivilTime.read? (text : List Char) : Option CivilTime :=
  let (sign, unsigned) := signed text
  match Text.natural? 10 (unsigned.takeWhile Text.isDigit),
      unsigned.dropWhile Text.isDigit with
  | some year,
    ['-', m₁, m₂, '-', d₁, d₂, ' ', h₁, h₂, ':', i₁, i₂, ':', s₁, s₂] => do
      return { year := sign * year
               month := ← Text.natural? 10 [m₁, m₂]
               day := ← Text.natural? 10 [d₁, d₂]
               hour := ← Text.natural? 10 [h₁, h₂]
               minute := ← Text.natural? 10 [i₁, i₂]
               second := ← Text.natural? 10 [s₁, s₂] }
  | _, _ => none

/-- The moment that a handshake tells, by the time behind its first word. -/
def told? (text : String) : Option Int := do
  let time ← CivilTime.read? (text.toList.drop 9)
  if "Reported ".toList <+: text.toList ∧ time.IsShown then some time.moment else none

theorem padded_two {n : Nat} (small : n < 100) :
    (Text.padded 2 n).toList = [Nat.digitChar (n / 10), Nat.digitChar (n % 10)] := by
  rw [Text.padded_succ le_rfl, Text.padded_one (by omega)]
  rfl

theorem natural?_two {n : Nat} (small : n < 100) :
    Text.natural? 10 [Nat.digitChar (n / 10), Nat.digitChar (n % 10)] = some n := by
  rw [← padded_two small]
  exact Text.natural?_padded 2 n

theorem toList_render (time : CivilTime) :
    time.render.toList =
      (yearText time.year).toList ++
        '-' :: ((Text.padded 2 time.month).toList ++
        '-' :: ((Text.padded 2 time.day).toList ++
        ' ' :: ((Text.padded 2 time.hour).toList ++
        ':' :: ((Text.padded 2 time.minute).toList ++
        ':' :: (Text.padded 2 time.second).toList)))) := by
  have dash : "-".toList = ['-'] := rfl
  have space : " ".toList = [' '] := rfl
  have colon : ":".toList = [':'] := rfl
  unfold CivilTime.render
  simp only [String.toList_append, List.append_assoc, dash, space, colon, List.cons_append,
    List.nil_append]

theorem signed_of_digit {c : Char} (digit : Text.isDigit c = true) (rest : List Char) :
    signed (c :: rest) = (1, c :: rest) := by
  unfold signed
  split
  · rename_i minus
    cases minus
    exact absurd digit (by decide)
  · rename_i plus
    cases plus
    exact absurd digit (by decide)
  · rfl

theorem signed_yearText (year : Int) (rest : List Char) :
    ∃ sign : Int, sign * year.natAbs = year ∧
      signed ((yearText year).toList ++ rest) =
        (sign, (Text.padded 4 year.natAbs).toList ++ rest) := by
  unfold yearText
  split
  · refine ⟨-1, by omega, ?_⟩
    rw [String.toList_append]
    rfl
  · split
    · refine ⟨1, by omega, ?_⟩
      have digits := Text.isDigit_of_mem_padded 4 year.natAbs
      have written := Text.natural?_padded 4 year.natAbs
      cases chars : (Text.padded 4 year.natAbs).toList with
      | nil =>
          rw [chars] at written
          cases written
      | cons lead others =>
          rw [chars] at digits
          exact signed_of_digit (digits lead List.mem_cons_self) _
    · refine ⟨1, by omega, ?_⟩
      rw [String.toList_append]
      rfl

theorem monthDays_le (year : Int) (month : Nat) : monthDays year month ≤ 31 := by
  have leap : leapDays year ≤ 1 := by
    unfold leapDays
    split <;> omega
  unfold monthDays
  split <;> omega

theorem read?_render {time : CivilTime} (shown : time.IsShown) :
    CivilTime.read? time.render.toList = some time := by
  obtain ⟨year, month, day, hour, minute, second⟩ := time
  obtain ⟨⟨⟨-, months⟩, ⟨-, days⟩⟩, hours, minutes, seconds⟩ := shown
  dsimp only at months days hours minutes seconds
  have short := monthDays_le year month
  obtain ⟨sign, signs, unsigned⟩ := signed_yearText year _
  have digits := Text.isDigit_of_mem_padded 4 year.natAbs
  unfold CivilTime.read?
  rw [toList_render, unsigned]
  dsimp only
  rw [List.takeWhile_append_of_pos digits, List.dropWhile_append_of_pos digits,
    padded_two (by omega), padded_two (by omega), padded_two (by omega), padded_two (by omega),
    padded_two (by omega)]
  rw [List.takeWhile_cons_of_neg (by decide), List.dropWhile_cons_of_neg (by decide),
    List.append_nil, Text.natural?_padded]
  simp only [List.cons_append, List.nil_append]
  rw [natural?_two (by omega), natural?_two (by omega), natural?_two (by omega),
    natural?_two (by omega), natural?_two (by omega)]
  exact congrArg (fun year => some (CivilTime.mk year month day hour minute second)) signs

theorem told?_render {time : CivilTime} (shown : time.IsShown) :
    told? ("Reported " ++ time.render) = some time.moment := by
  have nine : "Reported ".toList.length = 9 := by decide
  unfold told?
  rw [String.toList_append, List.drop_left' nine, read?_render shown, Option.bind_eq_bind,
    Option.bind_some, if_pos ⟨List.prefix_append _ _, shown⟩]

/-! ### The order of texts -/

theorem numeral_lt {width n n' : Nat} (filled : 1 ≤ width) (small : n < 10 ^ width)
    (small' : n' < 10 ^ width) {behind behind' : List Char}
    (less : n < n' ∨ n = n' ∧ behind < behind') :
    (Text.padded width n).toList ++ behind < (Text.padded width n').toList ++ behind' := by
  refine Text.append_lt_append ?_ (less.imp (Text.padded_lt filled small') ?_)
  · rw [Text.length_padded filled small, Text.length_padded filled small']
  · rintro ⟨rfl, later⟩
    exact ⟨rfl, later⟩

theorem yearText_of_four_digits {year : Int} (least : 0 ≤ year) (most : year ≤ 9999) :
    yearText year = Text.padded 4 year.natAbs := by
  unfold yearText
  rw [if_neg (not_lt.mpr least), if_pos most]

/-- While years have four digits, the text of an earlier time comes before that of a later one. -/
theorem render_lt {one other : CivilTime} (shown : one.IsShown) (shown' : other.IsShown)
    (year : 0 ≤ one.year ∧ one.year ≤ 9999) (year' : 0 ≤ other.year ∧ other.year ≤ 9999)
    (precedes : one.Precedes other) : one.render < other.render := by
  obtain ⟨⟨⟨-, months⟩, -, days⟩, hours, minutes, seconds⟩ := shown
  obtain ⟨⟨⟨-, months'⟩, -, days'⟩, hours', minutes', seconds'⟩ := shown'
  dsimp only at months days months' days'
  have short := monthDays_le one.year one.month
  have short' := monthDays_le other.year other.month
  have separated {c : Char} {behind behind' : List Char} (less : behind < behind') :
      c :: behind < c :: behind' := List.cons_lt_cons_iff.mpr (Or.inr ⟨rfl, less⟩)
  have two : (1 : Nat) ≤ 2 := by decide
  have last (less : one.second < other.second) :
      (Text.padded 2 one.second).toList < (Text.padded 2 other.second).toList :=
    Text.padded_lt two (by omega) less
  change one.render.toList < other.render.toList
  rw [toList_render, toList_render, yearText_of_four_digits year.1 year.2,
    yearText_of_four_digits year'.1 year'.2]
  -- The parts of a text stand in the order in which times are compared.
  refine numeral_lt (by decide) (by omega) (by omega) (precedes.imp (by omega) ?_)
  refine And.imp (by omega) fun later => separated (numeral_lt two (by omega) (by omega) ?_)
  refine later.imp_right (And.imp_right fun later => ?_)
  refine separated (numeral_lt two (by omega) (by omega) ?_)
  refine later.imp_right (And.imp_right fun later => ?_)
  refine separated (numeral_lt two (by omega) (by omega) ?_)
  refine later.imp_right (And.imp_right fun later => ?_)
  refine separated (numeral_lt two (by omega) (by omega) ?_)
  exact later.imp_right (And.imp_right fun later => separated (last later))

def HasPlainYear (seconds : Int) : Prop :=
  0 ≤ (CivilTime.ofSeconds seconds).year ∧ (CivilTime.ofSeconds seconds).year ≤ 9999

instance (seconds : Int) : Decidable (HasPlainYear seconds) :=
  inferInstanceAs (Decidable (0 ≤ (CivilTime.ofSeconds seconds).year ∧
    (CivilTime.ofSeconds seconds).year ≤ 9999))

theorem reported_lt {seconds later : Int} (plain : HasPlainYear seconds)
    (plain' : HasPlainYear later) (less : seconds < later) :
    "Reported " ++ (CivilTime.ofSeconds seconds).render <
      "Reported " ++ (CivilTime.ofSeconds later).render := by
  have texts := render_lt (isShown_ofSeconds seconds) (isShown_ofSeconds later) plain plain'
    ((precedes_ofSeconds_iff seconds later).mpr less)
  change String.toList _ < String.toList _
  rw [String.toList_append, String.toList_append]
  exact List.append_left_lt texts

theorem reported_lt_iff {seconds later : Int} (plain : HasPlainYear seconds)
    (plain' : HasPlainYear later) :
    "Reported " ++ (CivilTime.ofSeconds seconds).render <
      "Reported " ++ (CivilTime.ofSeconds later).render ↔ seconds < later := by
  refine ⟨fun texts => ?_, reported_lt plain plain'⟩
  rcases lt_trichotomy seconds later with less | rfl | more
  · exact less
  · exact absurd texts (String.lt_irrefl _)
  · exact absurd texts (String.lt_asymm (reported_lt plain' plain more))

/-! ### Years of the calendar -/

def InYears (seconds : Int) : Prop :=
  -262143 ≤ (CivilTime.ofSeconds seconds).year ∧ (CivilTime.ofSeconds seconds).year ≤ 262142

/-- The first and the last second of the calendar are the ends of its years. -/
theorem inCalendar_iff (seconds : Int) : inCalendar seconds = true ↔ InYears seconds := by
  obtain ⟨valid, number⟩ := civilDate_spec (seconds.fdiv 86400)
  have within := dayNumber_within valid
  rw [number, Int.fdiv_eq_ediv_of_nonneg _ (by decide)] at within
  have first : yearStart (-262143) * 86400 = firstSecond := by decide
  have last : yearStart (262142 + 1) * 86400 = lastSecond + 1 := by decide
  change _ ↔ -262143 ≤ (civilDate (seconds.fdiv 86400)).1 ∧
    (civilDate (seconds.fdiv 86400)).1 ≤ 262142
  rw [Int.fdiv_eq_ediv_of_nonneg _ (by decide)]
  generalize (civilDate (seconds / 86400)).1 = year at within ⊢
  unfold inCalendar
  rw [Bool.and_eq_true, decide_eq_true_iff, decide_eq_true_iff]
  refine and_congr ⟨fun reached => ?_, fun reached => ?_⟩ ⟨fun reached => ?_, fun reached => ?_⟩
  · by_contra early
    have years := yearStart_mono (by omega : year + 1 ≤ -262143)
    omega
  · have years := yearStart_mono reached
    omega
  · by_contra late
    have years := yearStart_mono (by omega : 262142 + 1 ≤ year)
    omega
  · have years := yearStart_mono (by omega : year + 1 ≤ 262142 + 1)
    omega

/-! ### Handshakes -/

theorem handshake?_eq_some_iff (now zone offset : Int) (text : String) :
    handshake? now zone offset = some text ↔
      (isSpan offset = true ∧ InYears now ∧ InYears (now + offset)) ∧
        text = "Reported " ++ (CivilTime.ofSeconds (now + offset + zone)).render := by
  rw [← inCalendar_iff, ← inCalendar_iff]
  unfold handshake?
  split
  · rename_i reached
    rw [Bool.and_eq_true, Bool.and_eq_true] at reached
    obtain ⟨⟨now', span⟩, later⟩ := reached
    rw [Option.some.injEq, eq_comm]
    exact ⟨fun same => ⟨⟨span, now', later⟩, same⟩, And.right⟩
  · rename_i unreached
    refine ⟨nofun, fun ⟨⟨span, now', later⟩, _⟩ => absurd ?_ unreached⟩
    rw [now', span, later]
    rfl

/-- A handshake tells its moment.  The dates of the days are those of the calendar walked day by day
from 1970-01-01, forwards and backwards.  There is a handshake just when the offset is a span of
time and neither the moment of the report nor the one that it tells leaves the years of the
calendar; what is read off its text is then exactly the moment told, as the clock of its zone shows
it, so that the offset may as well be in the moment, texts are the same for the same moment only,
and while years have four digits they are ordered as the moments are. -/
theorem handshake_tells_moment (now zone offset : Int) :
    (civilDate 0 = (1970, 1, 1) ∧ ∀ days, civilDate (days + 1) = nextDay (civilDate days)) ∧
    ((handshake? now zone offset).isSome = true ↔
      isSpan offset = true ∧ InYears now ∧ InYears (now + offset)) ∧
    ∀ text, handshake? now zone offset = some text →
      told? text = some (now + offset + zone) ∧
      handshake? (now + offset) zone 0 = some text ∧
      ∀ now' zone' offset' text', handshake? now' zone' offset' = some text' →
        (text = text' ↔ now + offset + zone = now' + offset' + zone') ∧
        (HasPlainYear (now + offset + zone) → HasPlainYear (now' + offset' + zone') →
          (text < text' ↔ now + offset + zone < now' + offset' + zone')) := by
  have said {now zone offset : Int} {text : String}
      (made : handshake? now zone offset = some text) :
      text = "Reported " ++ (CivilTime.ofSeconds (now + offset + zone)).render :=
    ((handshake?_eq_some_iff now zone offset text).mp made).2
  have reads {now zone offset : Int} {text : String}
      (made : handshake? now zone offset = some text) :
      told? text = some (now + offset + zone) := by
    rw [said made, told?_render (isShown_ofSeconds _), moment_ofSeconds]
  refine ⟨civilDate_walks, ?_, fun text made => ⟨reads made, ?_, ?_⟩⟩
  · rw [Option.isSome_iff_exists]
    constructor
    · rintro ⟨text, made⟩
      exact ((handshake?_eq_some_iff now zone offset text).mp made).1
    · intro reached
      exact ⟨_, (handshake?_eq_some_iff now zone offset _).mpr ⟨reached, rfl⟩⟩
  · obtain ⟨⟨-, -, later⟩, text⟩ := (handshake?_eq_some_iff now zone offset text).mp made
    refine (handshake?_eq_some_iff _ _ _ _).mpr ⟨⟨rfl, later, ?_⟩, ?_⟩
    · rwa [Int.add_zero]
    · rwa [Int.add_zero]
  · intro now' zone' offset' text' made'
    refine ⟨⟨fun same => ?_, fun same => ?_⟩, fun plain plain' => ?_⟩
    · have read := reads made
      rw [same, reads made'] at read
      exact (Option.some.inj read).symm
    · rw [said made, said made', same]
    · rw [said made, said made']
      exact reported_lt_iff plain plain'

theorem leap_day_told :
    handshake? 951782399 3600 1 = some "Reported 2000-02-29 01:00:00" ∧
      told? "Reported 2000-02-29 01:00:00" = some 951786000 ∧
      handshake? 951782400 3600 0 = some "Reported 2000-02-29 01:00:00" ∧
      handshake? 951868799 0 0 = some "Reported 2000-02-29 23:59:59" ∧
      "Reported 2000-02-29 01:00:00" < "Reported 2000-02-29 23:59:59" ∧
      handshake? (-62167219201) 0 0 = some "Reported -0001-12-31 23:59:59" ∧
      told? "Reported -0001-12-31 23:59:59" = some (-62167219201) := by
  have early : handshake? 951782399 3600 1 = some "Reported 2000-02-29 01:00:00" := by
    decide +kernel
  have late : handshake? 951868799 0 0 = some "Reported 2000-02-29 23:59:59" := by
    decide +kernel
  have ancient : handshake? (-62167219201) 0 0 = some "Reported -0001-12-31 23:59:59" := by
    decide +kernel
  obtain ⟨-, -, tells⟩ := handshake_tells_moment 951782399 3600 1
  obtain ⟨read, shifted, others⟩ := tells _ early
  obtain ⟨-, ordered⟩ := others _ _ _ _ late
  obtain ⟨-, -, tells'⟩ := handshake_tells_moment (-62167219201) 0 0
  have before := (ordered (by decide +kernel) (by decide +kernel)).mpr (by decide)
  exact ⟨early, read, shifted, late, before, ancient, (tells' _ ancient).1⟩

end Registration
end VirtualNpu
