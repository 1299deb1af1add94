import PeriodText.Token

/-!
# Compiled formats

A format is a pattern together with its tokens. Two formats are the same when both agree; formats
of different patterns may have the same tokens. The canonical pattern is made from the tokens,
with the field letters of literals escaped.

A pattern is compiled in one pass from left to right. A backslash makes the next character a
literal one. A run of one field letter becomes a field as wide as the run, all else literal text.
A field is of fixed width exactly when literal text and then another field follow it.
-/

set_option autoImplicit false

namespace PeriodText

/-- A compiled pattern. -/
structure Format where
  pattern : String
  tokens : List Token
  deriving DecidableEq, Repr

namespace Format

/-- The pattern made from the tokens. -/
def canonical (f : Format) : String := String.ofList (f.tokens.flatMap Token.content)

/-- The fields in order. -/
def fields (f : Format) : List Field :=
  f.tokens.filterMap fun
    | .field field => some field
    | .literal _ => none

/-- The kinds of the fields, each once, coarse to fine. -/
def kinds (f : Format) : List Kind :=
  Kind.all.filter fun kind => f.fields.any (·.kind = kind)

/-- The format as messages show it. -/
def shown (f : Format) : String := "PeriodFormat(" ++ Text.quote f.canonical ++ ")"

/-! ## Compilation -/

/-- A run of one field letter. -/
structure Run where
  specifier : Specifier
  width : Nat
  deriving DecidableEq, Repr

/-- What has been read of a pattern but is not yet a token: the last run, and the literal text
after it. -/
structure Scan where
  pending : Option Run := none
  literal : List Char := []
  deriving DecidableEq, Repr

namespace Scan

/-- The tokens of what has been read; the field is fixed or not as the flag says. -/
def flush (s : Scan) (fixed : Bool) : List Token :=
  (match s.pending with
    | some run => [.field ⟨run.specifier, run.width, fixed⟩]
    | none => []) ++
  if s.literal.isEmpty then [] else [.literal s.literal]

/-- Read a literal character. -/
def takeLiteral (s : Scan) (c : Char) : Scan := { s with literal := s.literal ++ [c] }

/-- Read a field letter. It widens the run that it directly follows, if that is of the same
letter. Otherwise a run begins, and what was read before becomes tokens. -/
def takeLetter (s : Scan) (specifier : Specifier) : List Token × Scan :=
  match s.pending, s.literal with
  | some run, [] =>
    if run.specifier = specifier then
      ([], { pending := some { run with width := run.width + 1 } })
    else (s.flush false, { pending := some ⟨specifier, 1⟩ })
  | _, _ => (s.flush (!s.literal.isEmpty), { pending := some ⟨specifier, 1⟩ })

/-- Read a character that nothing escapes. The characters of `extra` are taken for field letters
although they stand for no field. -/
def take (s : Scan) (extra : List Char) (pattern : String) (position : Nat) (c : Char) :
    Except Error (List Token × Scan) :=
  match Specifier.ofLetter? c with
  | some specifier => .ok (s.takeLetter specifier)
  | none =>
    if extra.contains c then .error (.pattern (.unknownLetter c position pattern))
    else .ok ([], s.takeLiteral c)

end Scan

/-- Compile what is left of a pattern. -/
def compileFrom (extra : List Char) (pattern : String) :
    (position : Nat) → Scan → List Char → Except Error (List Token)
  | _, s, [] => .ok (s.flush false)
  | position, s, [c] => do
    let (tokens, s) ← s.take extra pattern position c
    return tokens ++ s.flush false
  | position, s, c :: d :: rest =>
    if c = Token.escape then compileFrom extra pattern (position + 2) (s.takeLiteral d) rest
    else do
      let (tokens, s) ← s.take extra pattern position c
      let others ← compileFrom extra pattern (position + 1) s (d :: rest)
      return tokens ++ others

/-- The format of a pattern, with some more characters taken for field letters. -/
def compileWith (extra : List Char) (pattern : String) : Except Error Format :=
  if pattern = "" then .error (.pattern .empty)
  else do
    let tokens ← compileFrom extra pattern 0 {} pattern.toList
    return ⟨pattern, tokens⟩

/-- The format of a pattern. -/
def compile (pattern : String) : Except Error Format := compileWith [] pattern

end Format

end PeriodText
