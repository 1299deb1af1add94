import PeriodText.Format

/-!
# Writing a value in a format

The tokens are written strictly in order. The first that cannot be written decides the error; when
the value does not have the field, the error says which token of which format needs it.

The locale is given as the answer to asking for it, which may be an error. It is asked for once by
every month name that is written, and not at all by other tokens.
-/

set_option autoImplicit false

namespace PeriodText

namespace Format

/-- A field error, told of the token that needs the field. -/
def needed (pattern : String) (index : Nat) (t : Token) : Error → Error
  | .field (.unanswered owner kind) => .field (.neededBy pattern t.label index owner kind)
  | e => e

/-- One token written for a value. -/
def renderToken (pattern : String) (locale : Except Error Locale) (v : Value) (index : Nat)
    (t : Token) : Except Error (List Char) :=
  match t.render locale v with
  | .ok piece => .ok piece
  | .error e => .error (needed pattern index t e)

/-- Tokens written for a value, the first of them at an index. -/
def renderFrom (pattern : String) (locale : Except Error Locale) (v : Value) :
    (index : Nat) → List Token → Except Error (List Char)
  | _, [] => .ok []
  | index, t :: rest => do
    let piece ← renderToken pattern locale v index t
    let others ← renderFrom pattern locale v (index + 1) rest
    return piece ++ others

/-- The text of a value in a format. -/
def render (f : Format) (locale : Except Error Locale) (v : Value) : Except Error String :=
  (renderFrom f.pattern locale v 0 f.tokens).map String.ofList

/-- How often writing tokens asks for the locale. -/
def renderQueries (locale : Except Error Locale) (v : Value) : List Token → Nat
  | [] => 0
  | t :: rest =>
    (if t.renderAsksLocale v then 1 else 0) +
      match t.render locale v with
      | .ok _ => renderQueries locale v rest
      | .error _ => 0

/-- How often writing a value in a format asks for the locale. -/
def queriesToRender (f : Format) (locale : Except Error Locale) (v : Value) : Nat :=
  renderQueries locale v f.tokens

end Format

end PeriodText
