import BatchLaunch.Calendar.Basic
import BatchLaunch.Text.OctetChars

/-!
Times as text after a pattern, in which a per cent sign and a letter stand for a part of the time.
-/
namespace BatchLaunch.Calendar

structure Style where
  filler : Option (Option Char)
  width : Nat
  upper : Bool
  swapped : Bool
  colons : Nat
  deriving DecidableEq, Repr

def Style.plain : Style := ⟨none, 0, false, false, 0⟩

def numberWith (style : Style) (filler : Char) (width : Nat) (n : Int) : Chars :=
  let digits := Nat.toDigits 10 n.natAbs
  let sign := if n < 0 then ['-'] else []
  match style.filler.getD (some filler) with
  | none => sign ++ List.replicate (style.width - sign.length - digits.length) '0' ++ digits
  | some filler =>
      let missing := (if style.width = 0 then width else style.width) - sign.length - digits.length
      if filler = '0' then sign ++ List.replicate missing '0' ++ digits
      else List.replicate missing filler ++ sign ++ digits

def wordsWith (style : Style) (text : Chars) : Chars :=
  let text := if style.upper then text.map Char.toUpper
    else if style.swapped then
      (if text.all fun c => !c.isLower then text.map Char.toLower else text.map Char.toUpper)
    else text
  let filler := match style.filler with
    | some (some c) => c
    | _ => ' '
  List.replicate (style.width - text.length) filler ++ text

def nameFrom (names : List String) (place : Int) (letters : Nat) : Chars :=
  (((names[place.toNat]?).getD "?").toList).take letters

def zoneDigits (colons : Nat) : Chars :=
  match colons with
  | 0 => "+0000".toList
  | 1 => "+00:00".toList
  | 2 => "+00:00:00".toList
  | _ => "+00".toList

def shortHour (hour : Int) : Int := (hour + 11) % 12 + 1

def twoDigits (n : Int) : Chars := numberWith .plain '0' 2 n

def partText (moment : Moment) (civil : Civil) (style : Style) (letter : Char) : Option Chars :=
  let number (filler : Char) (width : Nat) (n : Int) : Option Chars :=
    some (numberWith style filler width n)
  let text (words : Chars) : Option Chars := some (wordsWith style words)
  let clock : Chars := twoDigits civil.hour ++ ':' :: twoDigits civil.minute
  let fullClock : Chars := clock ++ ':' :: twoDigits civil.second
  let half : Chars := (if civil.hour < 12 then "AM" else "PM").toList
  let year : Chars := numberWith .plain '0' 1 civil.year
  let shortDate : Chars := twoDigits civil.month ++ '/' :: twoDigits civil.day ++
    '/' :: twoDigits (civil.year.emod 100)
  let dayName (letters : Nat) : Chars := nameFrom dayNames civil.weekday letters
  let monthName (letters : Nat) : Chars := nameFrom monthNames (civil.month - 1) letters
  let clockOfTwelve : Chars := twoDigits (shortHour civil.hour) ++ ':' :: twoDigits civil.minute ++
    ':' :: twoDigits civil.second ++ ' ' :: half
  match letter with
  | '%' => text ['%']
  | 'n' => text ['\n']
  | 't' => text ['\t']
  | 'a' => text (dayName 3)
  | 'A' => text (dayName 9)
  | 'b' | 'h' => text (monthName 3)
  | 'B' => text (monthName 9)
  | 'c' => text (dayName 3 ++ ' ' :: monthName 3 ++ ' ' :: numberWith .plain ' ' 2 civil.day ++
      ' ' :: fullClock ++ ' ' :: year)
  | 'C' => number '0' 2 (civil.year.fdiv 100)
  | 'd' => number '0' 2 civil.day
  | 'D' | 'x' => text shortDate
  | 'e' => number ' ' 2 civil.day
  | 'F' => text (numberWith .plain '0' 4 civil.year ++ '-' :: twoDigits civil.month ++
      '-' :: twoDigits civil.day)
  | 'g' => number '0' 2 (civil.week.1.emod 100)
  | 'G' => number '0' 4 civil.week.1
  | 'H' => number '0' 2 civil.hour
  | 'I' => number '0' 2 (shortHour civil.hour)
  | 'j' => number '0' 3 (civil.dayOfYear + 1)
  | 'k' => number ' ' 2 civil.hour
  | 'l' => number ' ' 2 (shortHour civil.hour)
  | 'm' => number '0' 2 civil.month
  | 'M' => number '0' 2 civil.minute
  | 'N' =>
      let digits := numberWith .plain '0' 9 moment.nanos
      some (if style.width = 0 then digits else digits.take style.width)
  | 'p' => text (if style.swapped then half.map Char.toLower else half)
  | 'P' => text (half.map Char.toLower)
  | 'q' => number '0' 1 ((civil.month - 1) / 3 + 1)
  | 'r' => text clockOfTwelve
  | 'R' => text clock
  | 's' => number '0' 1 moment.seconds
  | 'S' => number '0' 2 civil.second
  | 'T' | 'X' => text fullClock
  | 'u' => number '0' 1 ((civil.weekday + 6) % 7 + 1)
  | 'U' => number '0' 2 ((civil.dayOfYear + 7 - civil.weekday) / 7)
  | 'V' => number '0' 2 civil.week.2
  | 'w' => number '0' 1 civil.weekday
  | 'W' => number '0' 2 ((civil.dayOfYear + 7 - (civil.weekday + 6) % 7) / 7)
  | 'y' => number '0' 2 (civil.year.emod 100)
  | 'Y' => number '0' 1 civil.year
  | 'z' => text (zoneDigits style.colons)
  | 'Z' => text (if style.swapped then "utc".toList else "UTC".toList)
  | _ => none

def styleOf : Nat → Style → Chars → Style × Chars
  | 0, style, text => (style, text)
  | fuel + 1, style, text =>
      match text with
      | '-' :: rest => styleOf fuel { style with filler := some none } rest
      | '_' :: rest => styleOf fuel { style with filler := some (some ' ') } rest
      | '0' :: rest => styleOf fuel { style with filler := some (some '0') } rest
      | '^' :: rest => styleOf fuel { style with upper := true } rest
      | '#' :: rest => styleOf fuel { style with swapped := true } rest
      | _ =>
          let digits := text.takeWhile Char.isDigit
          let width := digits.foldl (fun n c => n * 10 + (c.toNat - '0'.toNat)) 0
          let behind := text.drop digits.length
          let behind := if behind.head? = some 'E' || behind.head? = some 'O' then behind.drop 1
            else behind
          let colons := (behind.takeWhile (· = ':')).length
          ({ style with width := width, colons := colons }, behind.drop colons)

def shownWith (moment : Moment) (civil : Civil) : Nat → Chars → Chars
  | 0, _ => []
  | _, [] => []
  | fuel + 1, c :: rest =>
      if c ≠ '%' then c :: shownWith moment civil fuel rest
      else
        let (style, behind) := styleOf (rest.length + 1) .plain rest
        match behind with
        | [] => '%' :: rest
        | letter :: more =>
            match partText moment civil style letter with
            | some text => text ++ shownWith moment civil fuel more
            | none =>
                '%' :: rest.take (rest.length - more.length) ++ shownWith moment civil fuel more

def Moment.shown (moment : Moment) (pattern : Chars) : Chars :=
  shownWith moment (Civil.ofSeconds moment.seconds) (pattern.length + 1) pattern

end BatchLaunch.Calendar
