import PeriodText.Format.Standard

/-!
# Values as text

A value has two texts: the plain one, which stands for it where text is called for, and the one
that messages show, from which its type can be told.
-/

set_option autoImplicit false

namespace PeriodText

/-- A number in decimal, filled up with zeros to a width. -/
def filled (width : Nat) (n : Int) : String := String.ofList (Numeral.paddedText width n)

namespace Moment

/-- The day, as year, month and day. -/
def dayText (m : Moment) : String :=
  filled 4 m.year ++ "-" ++ filled 2 m.month ++ "-" ++ filled 2 m.day

/-- The time of day. -/
def clockText (m : Moment) : String :=
  filled 2 m.hour ++ ":" ++ filled 2 m.minute ++ ":" ++ filled 2 m.second

/-- The moment as text; a day alone has no time of day. -/
def text (m : Moment) : String :=
  match m.sort with
  | .day => m.dayText
  | .time | .stamp => m.dayText ++ " " ++ m.clockText

/-- The moment as messages show it. -/
def shown (m : Moment) : String :=
  let parts := [m.year, m.month, m.day].map decimal
  match m.sort with
  | .day => "datetime.date(" ++ Text.listed parts ++ ")"
  | .time =>
    let clock := [m.hour, m.minute] ++ if m.second = 0 then [] else [m.second]
    "datetime.datetime(" ++ Text.listed (parts ++ clock.map fun (n : Nat) => decimal n) ++ ")"
  | .stamp => "Timestamp(" ++ Text.quote m.text ++ ")"

end Moment

namespace Span

/-- The span as text. -/
def text (s : Span) : String :=
  match s.frequency with
  | .year => filled 4 s.year
  | .quarter => filled 4 s.year ++ "Q" ++ decimal s.quarter
  | .month => filled 4 s.year ++ "-" ++ filled 2 s.month
  | _ => filled 4 s.year ++ "-" ++ filled 2 s.month ++ "-" ++ filled 2 s.day

/-- The name of the span's frequency. -/
def frequencyName (s : Span) : String :=
  match s.frequency with
  | .year => "Y-DEC"
  | .quarter => "Q-DEC"
  | .month => "M"
  | _ => "D"

/-- The span as messages show it. -/
def shown (s : Span) : String :=
  "Period(" ++ Text.quote s.text ++ ", " ++ Text.quote s.frequencyName ++ ")"

end Span

namespace Value

/-- The value as plain text. -/
def plain : Value → Except Error String
  | datum d => d.plain
  | period p => .ok p.text
  | date d => d.text
  | moment m => .ok m.text
  | noTime => .ok "NaT"
  | span s => .ok s.text
  | record _ => .ok "Record"

/-- The value as messages show it. -/
def shown : Value → Except Error String
  | datum d => d.shown
  | period p => .ok p.shown
  | date d => .ok d.shown
  | moment m => .ok m.shown
  | noTime => .ok "NaT"
  | span s => .ok s.shown
  | record _ => .ok "Record"

end Value

end PeriodText
