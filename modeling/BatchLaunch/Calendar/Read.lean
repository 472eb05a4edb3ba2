import BatchLaunch.Calendar.Basic
import BatchLaunch.Text.OctetChars

/-!
Times that people write: dates in several forms, times of day, zones, days of the week, and
distances from the present.
-/
namespace BatchLaunch.Calendar

inductive Token where
  | word (letters : Chars)
  | number (value : Int) (digits : Nat) (signed : Bool) (nanos : Option Nat)
  | mark (c : Char)
  deriving DecidableEq, Repr

namespace Token

def naturalOf (digits : Chars) : Nat :=
  digits.foldl (fun n c => n * 10 + (c.toNat - '0'.toNat)) 0

def nanosOf (digits : Chars) : Nat :=
  naturalOf ((digits ++ List.replicate 9 '0').take 9)

def isGap (c : Char) : Bool := " \t\n\x0b\x0c\r".toList.contains c

def numberAt (negative signed : Bool) (text : Chars) : Token × Chars :=
  let digits := text.takeWhile Char.isDigit
  let behind := text.drop digits.length
  let value : Int := if negative then -(naturalOf digits : Int) else naturalOf digits
  match behind with
  | point :: next :: _ =>
      if (point = '.' || point = ',') && next.isDigit then
        let places := (behind.drop 1).takeWhile Char.isDigit
        (.number value digits.length signed (some (nanosOf places)),
          behind.drop (places.length + 1))
      else (.number value digits.length signed none, behind)
  | _ => (.number value digits.length signed none, behind)

def behindRemark : Nat → Chars → Chars
  | _, [] => []
  | depth, '(' :: rest => behindRemark (depth + 1) rest
  | 0, ')' :: rest => rest
  | depth + 1, ')' :: rest => behindRemark depth rest
  | depth, _ :: rest => behindRemark depth rest

/-- The parts of a text. A sign belongs to the number behind it, and is nothing without one. -/
def ofText : Nat → Chars → List Token
  | 0, _ => []
  | _, [] => []
  | fuel + 1, c :: rest =>
      if isGap c then ofText fuel rest
      else if c.isDigit then
        let (found, behind) := numberAt false false (c :: rest)
        found :: ofText fuel behind
      else if c = '+' || c = '-' then
        let behind := rest.dropWhile isGap
        if behind.head?.any Char.isDigit then
          let (found, behind) := numberAt (c = '-') true behind
          found :: ofText fuel behind
        else ofText fuel rest
      else if c.isAlpha then
        let letters := (c :: rest).takeWhile fun c => c.isAlpha || c = '.'
        .word ((letters.filter (· ≠ '.')).map Char.toLower) ::
          ofText fuel ((c :: rest).drop letters.length)
      else if c = '(' then ofText fuel (behindRemark 0 rest)
      else .mark c :: ofText fuel rest

end Token

/-! Words -/

def nameNumber? (names : List String) (others : List (String × Int)) (word : Chars) : Option Int :=
  let lower (name : String) : Chars := name.toList.map Char.toLower
  match names.findIdx? fun name => lower name = word || (lower name).take 3 = word with
  | some place => some place
  | none => others.lookup (String.ofList word)

def month? (word : Chars) : Option Int :=
  (nameNumber? monthNames [("sept", 8)] word).map (· + 1)

def weekday? (word : Chars) : Option Int :=
  nameNumber? dayNames [("tues", 2), ("wednes", 3), ("thur", 4), ("thurs", 4)] word

def ordinal? (word : Chars) : Option Int :=
  [("last", -1), ("this", 0), ("next", 1), ("first", 1), ("third", 3), ("fourth", 4), ("fifth", 5),
    ("sixth", 6), ("seventh", 7), ("eighth", 8), ("ninth", 9), ("tenth", 10), ("eleventh", 11),
    ("twelfth", 12)].lookup (String.ofList word)

def zone? (word : Chars) : Option Int :=
  [("gmt", 0), ("ut", 0), ("utc", 0), ("z", 0), ("wet", 0), ("west", 1), ("bst", 1), ("cet", 1),
    ("met", 1), ("cest", 2), ("mest", 2), ("eet", 2), ("eest", 3), ("msk", 3), ("jst", 9),
    ("est", -5), ("edt", -4), ("cst", -6), ("cdt", -5), ("mst", -7), ("mdt", -6), ("pst", -8),
    ("pdt", -7)].lookup (String.ofList word)

def noDistance : Civil := ⟨0, 0, 0, 0, 0, 0⟩

def addDistance (a b : Civil) : Civil :=
  ⟨a.year + b.year, a.month + b.month, a.day + b.day, a.hour + b.hour, a.minute + b.minute,
    a.second + b.second⟩

def units? (word : Chars) (count : Int) : Option Civil :=
  let single := if word.getLast? = some 's' then word.dropLast else word
  match String.ofList single with
  | "year" => some { noDistance with year := count }
  | "month" => some { noDistance with month := count }
  | "fortnight" => some { noDistance with day := 14 * count }
  | "week" => some { noDistance with day := 7 * count }
  | "day" => some { noDistance with day := count }
  | "hour" => some { noDistance with hour := count }
  | "minute" | "min" => some { noDistance with minute := count }
  | "second" | "sec" => some { noDistance with second := count }
  | _ => none

def dayShift? (word : Chars) : Option Civil :=
  match String.ofList word with
  | "tomorrow" => some { noDistance with day := 1 }
  | "yesterday" => some { noDistance with day := -1 }
  | "today" | "now" => some noDistance
  | _ => none

def halfDay? (word : Chars) (hour : Int) : Option Int :=
  if hour < 1 || 12 < hour then none
  else
    match String.ofList word with
    | "am" => some (hour % 12)
    | "pm" => some (hour % 12 + 12)
    | _ => none

structure Reading where
  date : Option (Option Int × Int × Int)
  time : Option (Int × Int × Int × Nat)
  zone : Option Int
  day : Option (Int × Int)
  distance : Option Civil

namespace Reading

def withDate (reading : Reading) (year : Option Int) (month day : Int) : Option Reading :=
  if reading.date.isSome then none else some { reading with date := some (year, month, day) }

def withTime (reading : Reading) (hour minute second : Int) (nanos : Nat) : Option Reading :=
  if reading.time.isSome then none
  else some { reading with time := some (hour, minute, second, nanos) }

def withZone (reading : Reading) (seconds : Int) : Option Reading :=
  if reading.zone.isSome then none else some { reading with zone := some seconds }

def withDay (reading : Reading) (ordinal day : Int) : Option Reading :=
  if reading.day.isSome then none else some { reading with day := some (ordinal, day) }

def withDistance (reading : Reading) (distance : Civil) : Reading :=
  { reading with distance := some (addDistance (reading.distance.getD noDistance) distance) }

def fullYear (value : Int) (digits : Nat) : Int :=
  if digits = 2 then (if value < 69 then value + 2000 else value + 1900) else value

def zoneSeconds (value : Int) (digits : Nat) (minutes : Option Int) : Int :=
  let size : Int := value.natAbs
  let seconds := match minutes with
    | some minutes => size * 3600 + minutes * 60
    | none => if digits ≤ 2 then size * 3600 else size / 100 * 3600 + size % 100 * 60
  if value < 0 then -seconds else seconds

def withNumber (reading : Reading) (value : Int) (digits : Nat) : Option Reading :=
  match reading.date with
  | some (none, month, day) =>
      if reading.distance.isNone && (reading.time.isSome || 2 < digits) then
        some { reading with date := some (some (fullYear value digits), month, day) }
      else alone
  | _ => alone
where
  alone : Option Reading :=
    if 4 < digits then
      reading.withDate (some (fullYear (value / 10000) (digits - 4))) (value / 100 % 100)
        (value % 100)
    else if digits ≤ 2 then reading.withTime value 0 0 0
    else reading.withTime (value / 100) (value % 100) 0 0

def zoneAt (reading : Reading) : List Token → Option (Reading × List Token)
  | .number value digits true none :: .mark ':' :: .number minutes _ false none :: rest =>
      (reading.withZone (zoneSeconds value digits (some minutes))).map (·, rest)
  | .number value digits true none :: .word word :: rest =>
      if (units? word 1).isSome then
        some (reading, .number value digits true none :: .word word :: rest)
      else (reading.withZone (zoneSeconds value digits none)).map (·, .word word :: rest)
  | .number value digits true none :: rest =>
      (reading.withZone (zoneSeconds value digits none)).map (·, rest)
  | rest => some (reading, rest)

def afterClock (reading : Reading) (hour minute second : Int) (nanos : Nat) (rest : List Token) :
    Option (Reading × List Token) :=
  match rest with
  | .word word :: more =>
      match halfDay? word hour with
      | some hour => (reading.withTime hour minute second nanos).map (·, more)
      | none => (reading.withTime hour minute second nanos).map (·, rest)
  | _ => (reading.withTime hour minute second nanos).bind fun reading => reading.zoneAt rest

def atWord (reading : Reading) (word : Chars) (rest : List Token) :
    Option (Reading × List Token) :=
  match month? word, rest with
  | some month, .number day _ true none :: .number year digits true none :: rest =>
      (reading.withDate (some (fullYear (-year) digits)) month (-day)).map (·, rest)
  | some month, .number day _ false none :: .mark ',' :: .number year digits false none :: rest =>
      (reading.withDate (some (fullYear year digits)) month day).map (·, rest)
  | some month, .number day _ false none :: rest =>
      (reading.withDate none month day).map (·, rest)
  | some _, _ => none
  | none, rest =>
      match weekday? word, rest with
      | some day, .mark ',' :: rest => (reading.withDay 0 day).map (·, rest)
      | some day, rest => (reading.withDay 0 day).map (·, rest)
      | none, rest =>
          match dayShift? word with
          | some shift => some (reading.withDistance shift, rest)
          | none =>
              match ordinal? word, rest with
              | some count, .word unit :: rest =>
                  match units? unit count, weekday? unit with
                  | some distance, _ => agoAt reading distance rest
                  | none, some day => (reading.withDay count day).map (·, rest)
                  | none, none => none
              | some _, _ => none
              | none, rest =>
                  match units? word 1 with
                  | some distance => agoAt reading distance rest
                  | none =>
                      if word = ['t'] then some (reading, rest)
                      else
                        (zone? word).bind fun hours =>
                          match rest with
                          | .number value digits true none :: rest =>
                              (reading.withZone
                                (hours * 3600 + zoneSeconds value digits none)).map (·, rest)
                          | rest => (reading.withZone (hours * 3600)).map (·, rest)
where
  agoAt (reading : Reading) (distance : Civil) (rest : List Token) :
      Option (Reading × List Token) :=
    match rest with
    | .word word :: more =>
        if word = "ago".toList then
          some (reading.withDistance ⟨-distance.year, -distance.month, -distance.day,
            -distance.hour, -distance.minute, -distance.second⟩, more)
        else if word = "hence".toList then some (reading.withDistance distance, more)
        else some (reading.withDistance distance, rest)
    | _ => some (reading.withDistance distance, rest)

def atNumber (reading : Reading) (value : Int) (digits : Nat) (signed : Bool)
    (rest : List Token) : Option (Reading × List Token) :=
  match rest with
  | .mark ':' :: .number minute _ false none :: .mark ':' :: .number second _ false nanos :: rest =>
      if signed then none else afterClock reading value minute second (nanos.getD 0) rest
  | .mark ':' :: .number minute _ false none :: rest =>
      if signed then none else afterClock reading value minute 0 0 rest
  | .mark '/' :: .number second _ false none :: .mark '/' :: .number third last false none :: rest =>
      if signed then none
      else if 4 ≤ digits then (reading.withDate (some value) second third).map (·, rest)
      else (reading.withDate (some (fullYear third last)) value second).map (·, rest)
  | .mark '/' :: .number second _ false none :: rest =>
      if signed then none else (reading.withDate none value second).map (·, rest)
  | .number month _ true none :: .number day _ true none :: rest =>
      if signed then none
      else (reading.withDate (some (fullYear value digits)) (-month) (-day)).map (·, rest)
  | .word word :: rest =>
      match units? word value, month? word with
      | some distance, _ => atWord.agoAt reading distance rest
      | none, some month =>
          if signed then none
          else
            match rest with
            | .number year digits true none :: rest =>
                (reading.withDate (some (fullYear (-year) digits)) month value).map (·, rest)
            | .number year yearDigits false none :: .mark ':' :: rest =>
                (reading.withDate none month value).map
                  (·, .number year yearDigits false none :: .mark ':' :: rest)
            | .number year digits false none :: rest =>
                (reading.withDate (some (fullYear year digits)) month value).map (·, rest)
            | rest => (reading.withDate none month value).map (·, rest)
      | none, none =>
          match halfDay? word value, weekday? word with
          | some hour, _ => (reading.withTime hour 0 0 0).map (·, rest)
          | none, some day => (reading.withDay value day).map (·, rest)
          | none, none =>
              if signed then none
              else (reading.withNumber value digits).map (·, .word word :: rest)
  | rest => if signed then none else (reading.withNumber value digits).map (·, rest)

def ofTokens : Nat → Reading → List Token → Option Reading
  | 0, _, _ => none
  | _, reading, [] => some reading
  | fuel + 1, reading, .number value digits signed none :: rest =>
      (reading.atNumber value digits signed rest).bind fun (reading, rest) =>
        ofTokens fuel reading rest
  | fuel + 1, reading, .word word :: rest =>
      (reading.atWord word rest).bind fun (reading, rest) => ofTokens fuel reading rest
  | fuel + 1, reading, .mark ',' :: rest => ofTokens fuel reading rest
  | _ + 1, _, _ => none

def moment? (reading : Reading) (now : Moment) : Option Moment :=
  let present := Civil.ofSeconds now.seconds
  let (year, month, day) := match reading.date with
    | some (year, month, day) => (year.getD present.year, month, day)
    | none => (present.year, present.month, present.day)
  let keepsTime := reading.distance.isSome && reading.date.isNone && reading.day.isNone
  let (hour, minute, second, nanos) := match reading.time with
    | some time => time
    | none =>
        if keepsTime then (present.hour, present.minute, present.second, now.nanos)
        else (0, 0, 0, 0)
  let civil : Civil := ⟨year, month, day, hour, minute, second⟩
  if !civil.isProper then none
  else
    let onDay := match reading.day with
      | some (ordinal, day) =>
          if reading.date.isSome then civil
          else
            let weekday := civil.weekday
            let weeks := ordinal - (if 0 < ordinal && weekday ≠ day then 1 else 0)
            { civil with day := civil.day + (day - weekday + 7) % 7 + 7 * weeks }
      | none => civil
    let moved := addDistance onDay (reading.distance.getD noDistance)
    some ⟨moved.toSeconds - reading.zone.getD 0, nanos⟩

end Reading

def Moment.ofText? (now : Moment) (text : Chars) : Option Moment :=
  match text.dropWhile Token.isGap with
  | '@' :: rest =>
      let negative := rest.head? = some '-'
      let body := if negative || rest.head? = some '+' then rest.drop 1 else rest
      let (found, behind) := Token.numberAt negative false body
      match found with
      | .number value digits _ nanos =>
          if digits = 0 || !(behind.all Token.isGap) then none
          else
            let nanos := nanos.getD 0
            if negative && 0 < nanos then some ⟨value - 1, 1000000000 - nanos⟩
            else some ⟨value, nanos⟩
      | _ => none
  | text =>
      (Reading.ofTokens (text.length + 2) ⟨none, none, none, none, none⟩
        (Token.ofText (text.length + 1) text)).bind fun reading => reading.moment? now

end BatchLaunch.Calendar
