import PeriodText.Format

/-!
# Notices

What the library reports of its work besides its answers. A notice has a level and belongs to one
of three channels; it is written as one line.
-/

set_option autoImplicit false

namespace PeriodText

/-- A report of something that happened. -/
inductive Notice where
  /-- A pattern was compiled. -/
  | compiled (f : Format)
  /-- The cache of formats was emptied. -/
  | cacheCleared
  /-- A locale was registered. -/
  | localeRegistered (name : String)
  /-- The default locale that the environment asks for is not registered. -/
  | defaultUnmet (name fallback : String)
  /-- A cell of a series was not read. -/
  | cellSkipped (cell pattern reason : String)
  /-- Some cells of a series were not read. -/
  | cellsSkipped (skipped total : Nat)
  deriving DecidableEq, Repr

/-- How much a notice matters. -/
inductive NoticeLevel where
  | debug
  | info
  | warning
  deriving DecidableEq, Repr

/-- What a notice is about. -/
inductive NoticeChannel where
  | compiler
  | formats
  | locales
  deriving DecidableEq, Repr

/-- The name of a level. -/
def NoticeLevel.name : NoticeLevel → String
  | debug => "DEBUG"
  | info => "INFO"
  | warning => "WARNING"

/-- The name of a channel. -/
def NoticeChannel.name : NoticeChannel → String
  | compiler => "periodformat.formats.formatcompiler"
  | formats => "periodformat.formats.formatapi"
  | locales => "periodformat.locales.localeapi"

namespace Notice

/-- The level of a notice. -/
def level : Notice → NoticeLevel
  | compiled _ => .debug
  | cacheCleared => .info
  | localeRegistered _ => .info
  | defaultUnmet .. => .warning
  | cellSkipped .. => .debug
  | cellsSkipped .. => .info

/-- The channel of a notice. -/
def channel : Notice → NoticeChannel
  | compiled _ => .compiler
  | cacheCleared => .formats
  | localeRegistered _ => .locales
  | defaultUnmet .. => .locales
  | cellSkipped .. => .formats
  | cellsSkipped .. => .formats

/-- The message of a notice. -/
def message : Notice → String
  | compiled f =>
    "Compiled " ++ Text.quote f.pattern ++ " -> [" ++ Text.listed (f.tokens.map Token.shown) ++ "]"
  | cacheCleared => "Cleared period format cache"
  | localeRegistered name => "Registered locale " ++ Text.quote name
  | defaultUnmet name fallback =>
    "Default locale " ++ Text.quote name ++ " is not registered, falling back to " ++
      Text.quote fallback
  | cellSkipped cell pattern reason =>
    "Could not parse " ++ cell ++ " with " ++ Text.quote pattern ++ ": " ++ reason
  | cellsSkipped skipped total =>
    "Coerced " ++ decimal skipped ++ "/" ++ decimal total ++ " unparseable values to None"

/-- The line of a notice. -/
def line (n : Notice) : String := n.level.name ++ ":" ++ n.channel.name ++ ":" ++ n.message

end Notice

end PeriodText
