import PeriodText.Argument
import PeriodText.Comparison
import PeriodText.Notice
import PeriodText.RecentMap
import PeriodText.Resolution
import PeriodText.Value.Shown

/-!
# Sessions

A session is what lasts from one request to the next: the default locale that the environment asks
for, the registered locales, the cache of compiled patterns, and the notices. A request answers or
fails, and changes the session either way.

The answers of the requests do not depend on the cache: a cached format is the format of its
pattern. They depend on the environment and the registry only through the locale that these give
for the request's locale argument, at the time of the request.
-/

set_option autoImplicit false

namespace PeriodText

/-- The number of patterns that are kept compiled. -/
def cacheBound : Nat := 128

/-- What lasts from one request to the next. -/
structure Session where
  environment : Option String := none
  registry : Registry := Registry.builtin
  cache : RecentMap String Format := {}
  /-- The notices, oldest first. -/
  notices : List Notice := []

/-- A value written and read back. -/
structure RoundTrip where
  text : String
  /-- What the text was read as, or why it was not. -/
  back : Except Error Resolved
  /-- The text was read as the value that was written. -/
  same : Bool

/-- A request to a session. -/
abbrev Request := ExceptT Error (StateM Session)

namespace Session

/-- The locale that an argument stands for. -/
def locale (s : Session) (argument : LocaleArgument) : Except Error Locale :=
  s.registry.resolve s.environment argument

/-- The notices of asking for the locale a number of times. -/
def localeNotices (s : Session) (argument : LocaleArgument) (times : Nat) : List Notice :=
  match argument with
  | .default => match s.registry.unmetDefault? s.environment with
    | some name => List.replicate times (.defaultUnmet name Registry.fallback)
    | none => []
  | _ => []

/-- The session with more notices. -/
def noted (s : Session) (notices : List Notice) : Session :=
  { s with notices := s.notices ++ notices }

end Session

namespace Request

/-- A request that is answered without the session. -/
def ofExcept {α : Type} (answer : Except Error α) : Request α := ExceptT.mk (pure answer)

/-- Add notices. -/
def note (notices : List Notice) : Request Unit := modify (·.noted notices)

/-- Note that the locale was asked for a number of times. -/
def noteLocale (argument : LocaleArgument) (times : Nat) : Request Unit := do
  let s ← get
  note (s.localeNotices argument times)

/-- Ask for a locale. -/
def locale (argument : LocaleArgument) : Request Locale := do
  noteLocale argument 1
  let s ← get
  ofExcept (s.locale argument)

/-- The answer or the error of a request, as an answer. -/
def attempt {α : Type} (request : Request α) : Request (Except Error α) :=
  ExceptT.mk (do
    let answer ← request.run
    return .ok answer)

/-! ## Patterns -/

/-- Compile a pattern. -/
def compile (extra : List Char) (pattern : Datum) : Request Format :=
  match pattern with
  | .text p => do
    let f ← ofExcept (Format.compileWith extra p)
    note [.compiled f]
    return f
  | d => throw (.type (.pattern d.typeName))

/-- The format of a pattern, from the cache if it is there. A pattern that is no text counts as a
miss, unless it cannot be looked up at all. -/
def format (pattern : Datum) : Request Format := do
  let s ← get
  match pattern with
  | .text p =>
    let (answer, cache) := s.cache.fetch cacheBound Format.compile p
    let compiled := match s.cache.find? p, answer with
      | none, .ok f => [Notice.compiled f]
      | _, _ => []
    set ({ s with cache }.noted compiled)
    ofExcept answer
  | .list _ => throw (.type (.unhashable pattern.typeName))
  | d =>
    set { s with cache := s.cache.miss }
    throw (.type (.pattern d.typeName))

/-- The format that an argument stands for. -/
def formatOf : FormatArgument → Request Format
  | .compiled f => return f
  | .datum (.text p) => format (.text p)
  | .datum d => throw (.type (.format d.typeName))

/-- The two patterns are looked up, and the answer is whether they have the same entry of the
cache. An entry belongs to one pattern. -/
def sameFormat (a b : Datum) : Request Bool := do
  let first ← format a
  let second ← format b
  return first.pattern = second.pattern

/-- Empty the cache. -/
def clearCache : Request Unit := do
  modify fun s => { s with cache := {} }
  note [.cacheCleared]

/-! ## Locales -/

/-- Let the environment ask for a default locale, or for none. -/
def setEnvironment (name : Option String) : Request Unit :=
  modify fun s => { s with environment := name }

/-- The name of the default locale. -/
def defaultLocaleName : Request String := do
  noteLocale .default 1
  let s ← get
  return s.registry.defaultName s.environment

/-- Register a locale. -/
def registerLocale (name : String) (months abbreviations : Datum) : Request Locale := do
  let l ← ofExcept (Locale.ofData name months abbreviations)
  modify fun s => { s with registry := s.registry.put l }
  note [.localeRegistered name]
  return l

/-- The name of a month. -/
def monthName (style : NameStyle) (month : Int) (argument : LocaleArgument) : Request String := do
  let l ← locale argument
  ofExcept (l.monthName style month)

/-- The month of a name. -/
def readMonth (style : NameStyle) (word : Datum) (argument : LocaleArgument) : Request Nat := do
  let l ← locale argument
  let name ← ofExcept (Locale.nameOf word)
  ofExcept (l.readMonth style name.toList none)

/-! ## Writing and reading -/

/-- Read a token from a text at a position: what it says of a field, if it is one, and the position
after it. -/
def readToken (t : Token) (text : String) (position : Nat) (argument : LocaleArgument) :
    Request (Option (Kind × Int) × Nat) := do
  let s ← get
  let rest := text.toList.drop position
  noteLocale argument (if t.readAsksLocale rest then 1 else 0)
  let (entry, taken) ← ofExcept (t.read (s.locale argument) position rest)
  return (entry, position + taken)

/-- Read a token, with nothing for an answer if the text does not match it. -/
def tryReadToken (t : Token) (text : String) (position : Nat) (argument : LocaleArgument) :
    Request (Option (Option (Kind × Int) × Nat)) := do
  match ← attempt (readToken t text position argument) with
  | .ok answer => return some answer
  | .error (.read _) => return none
  | .error e => throw e

/-- Write a token for a value. -/
def renderToken (t : Token) (v : Value) (argument : LocaleArgument) : Request String := do
  let s ← get
  noteLocale argument (if t.renderAsksLocale v then 1 else 0)
  let piece ← ofExcept (t.render (s.locale argument) v)
  return String.ofList piece

/-- Write a value in a format. -/
def render (f : Format) (v : Value) (argument : LocaleArgument) : Request String := do
  let s ← get
  let answer := s.locale argument
  noteLocale argument (f.queriesToRender answer v)
  ofExcept (f.render answer v)

/-- Write a value, in the standard format of its kind if none is given. -/
def formatValue (v : Value) (format : FormatArgument) (argument : LocaleArgument) :
    Request String := do
  match format with
  | .datum .absent =>
    let f ← ofExcept v.standardFormat
    render f v argument
  | _ =>
    let f ← formatOf format
    render f v argument

/-- Read the fields of a text in a format. -/
def readFields (f : Format) (text : String) (argument : LocaleArgument) :
    Request FieldValues := do
  let s ← get
  let answer := s.locale argument
  noteLocale argument (f.queriesToRead answer text)
  ofExcept (f.read answer text)

/-- Read a text in a format as a period of the kind asked for. -/
def parse (f : Format) (kind : Option Kind) (text : String) (argument : LocaleArgument) :
    Request Resolved := do
  let values ← readFields f text argument
  ofExcept (values.resolve kind)

/-- Read a text as a period. -/
def parsePeriod (source : Datum) (format : FormatArgument) (kind : KindArgument)
    (argument : LocaleArgument) : Request Resolved := do
  match source with
  | .text text =>
    let f ← formatOf format
    let target ← ofExcept kind.resolve
    parse f target text argument
  | d => throw (.type (.source d.typeName))

/-- Write a value and read the text back. The pattern is looked up for each. -/
def roundTrip (v : Value) (format : FormatArgument) (kind : KindArgument)
    (argument : LocaleArgument) : Request RoundTrip := do
  let text ← formatValue v format argument
  let back ← attempt (parsePeriod (.text text) format kind argument)
  return { text, back, same := back.toOption.any fun r => r.toValue.equal v }

end Request

end PeriodText
