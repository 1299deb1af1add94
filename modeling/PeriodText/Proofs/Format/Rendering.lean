import PeriodText.Format.Rendering
import PeriodText.Proofs.Answer
import PeriodText.Proofs.Locale.Names
import PeriodText.Proofs.Numeral.Digits
import Mathlib.Data.List.Forall2

/-!
# Written pieces

A value is written token by token, so its text is the pieces of the tokens one after another:
`render_eq_ok`. The piece of a number is its digits, filled up to the width, behind a minus sign if
it is negative; the piece of a name is a name of the locale.
-/

set_option autoImplicit false

namespace PeriodText

open Numeral (isDigit magnitude)
open Text (opens isLetter)

/-! ## Fields -/

namespace Field

/-- A field of the value is written as a number exactly if it has no more digits than are
written. -/
theorem render_number {f : Field} (numeric : f.specifier.style? = none)
    {locale : Except Error Locale} {v : Value} {piece : List Char} :
    f.render locale v = .ok piece ↔
      ∃ n, v.field f.kind = .ok n ∧ Numeral.isWritable n = true ∧
        piece = Numeral.paddedText f.width n := by
  rw [Field.render, bind_eq_ok]
  refine exists_congr fun n => and_congr_right fun _ => ?_
  simp only [numeric]
  constructor
  · intro written
    split at written
    · next short => exact ⟨short, (Except.ok.inj written).symm⟩
    · cases written
  · rintro ⟨short, rfl⟩
    rw [if_pos short]
    rfl

/-- A field of the value is written as a name exactly if it is a month. -/
theorem render_name {f : Field} {style : NameStyle} (named : f.specifier.style? = some style)
    {l : Locale} {v : Value} {piece : List Char} :
    f.render (.ok l) v = .ok piece ↔
      ∃ n name, v.field f.kind = .ok n ∧ l.monthName style n = .ok name ∧
        piece = name.toList := by
  rw [Field.render, bind_eq_ok]
  refine exists_congr fun n => ?_
  simp only [named]
  constructor
  · rintro ⟨given, written⟩
    obtain ⟨_, ⟨⟩, written⟩ := bind_eq_ok.mp written
    obtain ⟨name, known, written⟩ := bind_eq_ok.mp written
    exact ⟨name, given, known, (Except.ok.inj written).symm⟩
  · rintro ⟨name, given, known, rfl⟩
    refine ⟨given, ?_⟩
    rw [bind_eq_ok]
    refine ⟨l, rfl, ?_⟩
    rw [bind_eq_ok]
    exact ⟨name, known, rfl⟩

/-- Only the field that is asked for counts. -/
theorem render_congr {f : Field} {v w : Value} (same : v.field f.kind = w.field f.kind)
    (locale : Except Error Locale) : f.render locale v = f.render locale w := by
  rw [Field.render, Field.render, same]

end Field

/-! ## Formats -/

namespace Format

/-- The pieces are what the tokens write for the value. -/
def Written (locale : Except Error Locale) (v : Value) (tokens : List Token)
    (pieces : List (List Char)) : Prop :=
  List.Forall₂ (fun t piece => t.render locale v = .ok piece) tokens pieces

/-- A token is written as its piece. -/
theorem renderToken_eq_ok {pattern : String} {locale : Except Error Locale} {v : Value}
    {index : Nat} {t : Token} {piece : List Char} :
    renderToken pattern locale v index t = .ok piece ↔ t.render locale v = .ok piece := by
  unfold renderToken
  split
  · next written => rw [written]
  · next e refused => simp [refused]

/-- Tokens are written as their pieces, one after another. -/
theorem renderFrom_eq_ok {pattern : String} {locale : Except Error Locale} {v : Value}
    {index : Nat} {tokens : List Token} {text : List Char} :
    renderFrom pattern locale v index tokens = .ok text ↔
      ∃ pieces, Written locale v tokens pieces ∧ text = pieces.flatten := by
  induction tokens generalizing index text with
  | nil =>
    constructor
    · rintro ⟨⟩
      exact ⟨[], .nil, rfl⟩
    · rintro ⟨_, ⟨⟩, rfl⟩
      rfl
  | cons t rest ih =>
    rw [renderFrom, bind_eq_ok]
    constructor
    · rintro ⟨piece, first, others⟩
      obtain ⟨text, later, whole⟩ := bind_eq_ok.mp others
      obtain ⟨pieces, written, rfl⟩ := ih.mp later
      exact ⟨piece :: pieces, .cons (renderToken_eq_ok.mp first) written,
        (Except.ok.inj whole).symm⟩
    · rintro ⟨_, written, rfl⟩
      obtain ⟨piece, pieces, first, others, rfl⟩ := List.forall₂_cons_left_iff.mp written
      refine ⟨piece, renderToken_eq_ok.mpr first, ?_⟩
      rw [bind_eq_ok]
      exact ⟨pieces.flatten, ih.mpr ⟨pieces, others, rfl⟩, rfl⟩

/-- **A value is written as the pieces of the tokens.** -/
theorem render_eq_ok {f : Format} {locale : Except Error Locale} {v : Value} {text : String} :
    f.render locale v = .ok text ↔
      ∃ pieces, Written locale v f.tokens pieces ∧ text.toList = pieces.flatten := by
  rw [render, map_eq_ok]
  constructor
  · rintro ⟨_, written, rfl⟩
    obtain ⟨pieces, cut, rfl⟩ := renderFrom_eq_ok.mp written
    exact ⟨pieces, cut, String.toList_ofList⟩
  · rintro ⟨pieces, cut, whole⟩
    refine ⟨_, renderFrom_eq_ok.mpr ⟨pieces, cut, rfl⟩, ?_⟩
    rw [← whole, String.ofList_toList]

/-- There are pieces exactly if every token has one. -/
theorem exists_written {locale : Except Error Locale} {v : Value} {tokens : List Token} :
    (∃ pieces, Written locale v tokens pieces) ↔
      ∀ t ∈ tokens, ∃ piece, t.render locale v = .ok piece := by
  induction tokens with
  | nil => exact iff_of_true ⟨[], .nil⟩ (List.forall_mem_nil _)
  | cons t tokens ih =>
    rw [List.forall_mem_cons, ← ih]
    constructor
    · rintro ⟨_, written⟩
      obtain ⟨piece, pieces, first, others, rfl⟩ := List.forall₂_cons_left_iff.mp written
      exact ⟨⟨piece, first⟩, pieces, others⟩
    · rintro ⟨⟨piece, first⟩, pieces, others⟩
      exact ⟨piece :: pieces, .cons first others⟩

/-- A value is written exactly if every token is. -/
theorem exists_render {f : Format} {locale : Except Error Locale} {v : Value} :
    (∃ text, f.render locale v = .ok text) ↔
      ∀ t ∈ f.tokens, ∃ piece, t.render locale v = .ok piece := by
  rw [← exists_written]
  constructor
  · rintro ⟨text, done⟩
    obtain ⟨pieces, written, -⟩ := render_eq_ok.mp done
    exact ⟨pieces, written⟩
  · rintro ⟨pieces, written⟩
    exact ⟨_, render_eq_ok.mpr ⟨pieces, written, String.toList_ofList⟩⟩

/-- Tokens are refused by the first of them that is not written. -/
theorem exists_refused_of_renderFrom {pattern : String} {locale : Except Error Locale} {v : Value}
    {index : Nat} {tokens : List Token} {e : Error}
    (refused : renderFrom pattern locale v index tokens = .error e) :
    ∃ before t after, tokens = before ++ t :: after ∧
      (∀ s ∈ before, ∃ piece, s.render locale v = .ok piece) ∧
      renderToken pattern locale v (index + before.length) t = .error e := by
  induction tokens generalizing index with
  | nil => cases refused
  | cons t tokens ih =>
    rcases bind_eq_error.mp refused with here | ⟨piece, here, others⟩
    · exact ⟨[], t, tokens, rfl, List.forall_mem_nil _, here⟩
    · rcases bind_eq_error.mp others with later | ⟨text, -, impossible⟩
      · obtain ⟨before, next, after, rfl, written, there⟩ := ih later
        refine ⟨t :: before, next, after, rfl, ?_, ?_⟩
        · exact List.forall_mem_cons.mpr ⟨⟨piece, renderToken_eq_ok.mp here⟩, written⟩
        · rwa [List.length_cons, Nat.add_comm before.length 1, ← Nat.add_assoc]
      · cases impossible

/-- Where each token is written alike, or refused alike, so are all of them. -/
theorem renderFrom_congr {pattern : String} {locale other : Except Error Locale} {v w : Value}
    {index : Nat} {tokens : List Token}
    (same : ∀ t ∈ tokens, t.render locale v = t.render other w) :
    renderFrom pattern locale v index tokens = renderFrom pattern other w index tokens := by
  induction tokens generalizing index with
  | nil => rfl
  | cons t rest ih =>
    rw [renderFrom, renderFrom, renderToken, renderToken, same t List.mem_cons_self,
      ih fun s mem => same s (.tail _ mem)]

/-- **Values that answer the fields of a format alike are written alike**, or refused alike. -/
theorem render_congr {f : Format} {v w : Value}
    (same : ∀ g, .field g ∈ f.tokens → v.field g.kind = w.field g.kind)
    (locale : Except Error Locale) : f.render locale v = f.render locale w := by
  rw [render, render, renderFrom_congr]
  intro t mem
  cases t with
  | literal text => rfl
  | field g => exact Field.render_congr (same g mem) locale

end Format

end PeriodText
