import PeriodText.Error.Message
import PeriodText.Proofs.Failures
import PeriodText.Proofs.Format.InStep
import PeriodText.Proofs.Value.Fields

/-!
# Where a value stops to be written

A token can be written for a period, a date or a day if it is a literal, or if the value answers its
field, with a month where it is written as a name: `Token.WritableFor`. A value is written exactly if
all tokens of the format can be, and otherwise it is refused at the first that cannot, whatever
comes after it: `Format.render_first_unwritable`. Which error says so is told without the writer by
`Token.Unmet`.
-/

set_option autoImplicit false

namespace PeriodText

/-- The token can be written for the value. -/
def Token.WritableFor (v : Value) : Token → Prop
  | .literal _ => True
  | .field f => ∃ n, v.field f.kind = .ok n ∧ (f.isWord = true → 1 ≤ n ∧ n ≤ 12)

/-- The value does not have what the token at an index asks for, and the error is the one that says
so. -/
inductive Token.Unmet (v : Value) (index : Nat) : Token → Error → Prop
  /-- The value does not answer the field. -/
  | missing {f : Field} {e : Error} (unanswered : ∀ n, v.field f.kind ≠ .ok n)
      (family : e.family = .noField) (position : e.position? = some index)
      (expects : e.expected? = some f.label) : Unmet v index (.field f) e
  /-- The number is no month, and it is to be written as a name. -/
  | noMonth {f : Field} {n : Int} {e : Error} (named : f.isWord = true)
      (answered : v.field f.kind = .ok n) (outside : ¬(1 ≤ n ∧ n ≤ 12))
      (family : e.family = .unknownMonth) : Unmet v index (.field f) e

variable {l : Locale} {v : Value}

/-! ## One token -/

namespace Field

variable {f : Field}

/-- A field is written exactly if the value answers it, with a month where it is a name. -/
theorem exists_render (proper : v.IsProper) :
    (∃ piece, f.render (.ok l) v = .ok piece) ↔ (Token.field f).WritableFor v := by
  cases style : f.specifier.style? with
  | some style =>
    constructor
    · rintro ⟨piece, written⟩
      obtain ⟨n, name, given, known, -⟩ := (render_name style).mp written
      exact ⟨n, given, fun _ => Locale.exists_monthName.mp ⟨name, known⟩⟩
    · rintro ⟨n, given, month⟩
      obtain ⟨name, known⟩ := Locale.exists_monthName.mpr (month (isWord_of_style style))
      exact ⟨_, (render_name style).mpr ⟨n, name, given, known, rfl⟩⟩
  | none =>
    have number := isWord_eq_false.mpr style
    constructor
    · rintro ⟨piece, written⟩
      obtain ⟨n, given, -, -⟩ := (render_number style).mp written
      exact ⟨n, given, fun word => absurd word (by simp [number])⟩
    · rintro ⟨n, given, -⟩
      have short := Count.isWritable_of_fits (proper.count_of_field given)
      exact ⟨_, (render_number style).mpr ⟨n, given, short, rfl⟩⟩

/-- A field is refused because the value does not answer it, or because it is no month. -/
theorem render_eq_error (proper : v.IsProper) {e : Error}
    (refused : f.render (.ok l) v = .error e) :
    (v.field f.kind = .error e ∧ e = v.unanswered f.kind) ∨
      ∃ style n, f.specifier.style? = some style ∧ v.field f.kind = .ok n ∧
        ¬(1 ≤ n ∧ n ≤ 12) ∧ e = .read (.monthOutOfRange style n l.name) := by
  rcases bind_eq_error.mp refused with missing | ⟨n, given, refused⟩
  · rcases Value.field_ok_or_unanswered proper fun asked => f.kind_ne_undated asked.1 with
      ⟨n, given⟩ | unanswered
    · cases given.symm.trans missing
    · exact .inl ⟨missing, Except.error.inj (missing.symm.trans unanswered)⟩
  · have short := Count.isWritable_of_fits (proper.count_of_field given)
    cases style : f.specifier.style? with
    | some style =>
      simp only [style] at refused
      rcases bind_eq_error.mp refused with impossible | ⟨_, ⟨⟩, named⟩
      · cases impossible
      · rcases bind_eq_error.mp named with unknown | ⟨name, -, impossible⟩
        · obtain ⟨outside, rfl⟩ := Locale.monthName_eq_error short unknown
          exact .inr ⟨_, n, rfl, given, outside, rfl⟩
        · cases impossible
    | none =>
      simp only [style, if_pos short] at refused
      cases refused

end Field

namespace Token

/-- What is not met cannot be written. -/
theorem Unmet.not_writableFor {t : Token} {index : Nat} {e : Error} (unmet : t.Unmet v index e) :
    ¬t.WritableFor v := by
  intro writable
  cases unmet with
  | missing unanswered =>
    obtain ⟨n, given, -⟩ := writable
    exact unanswered n given
  | noMonth named answered outside =>
    obtain ⟨m, given, month⟩ := writable
    cases given.symm.trans answered
    exact outside (month named)

/-- **A token that is not written** asks for what the value does not have. -/
theorem unmet_of_render (proper : v.IsProper) {t : Token} {pattern : String} {index : Nat}
    {e : Error} (refused : Format.renderToken pattern (.ok l) v index t = .error e) :
    t.Unmet v index e := by
  unfold Format.renderToken at refused
  split at refused
  · cases refused
  · next cause inner =>
    cases refused
    cases t with
    | literal text => cases inner
    | field f =>
      rcases Field.render_eq_error proper inner with
        ⟨unanswered, rfl⟩ | ⟨style, n, named, given, outside, rfl⟩
      · refine .missing (fun n given => ?_) rfl rfl rfl
        cases given.symm.trans unanswered
      · exact .noMonth (Field.isWord_of_style named) given outside rfl

end Token

/-! ## Formats -/

namespace Format

/-- **A value is refused at the first token that cannot be written for it.** It is written exactly if
there is no such token. Otherwise the error is that of the first one: the field is missing, and the
index and the letters of the token are told, or the number is no month. So a bare period is written
only in formats of its own kind, whatever else is in them. -/
theorem render_first_unwritable (f : Format) (l : Locale) {v : Value} (proper : v.IsProper) :
    ((∃ text, f.render (.ok l) v = .ok text) ↔ ∀ t ∈ f.tokens, t.WritableFor v) ∧
    (∀ e, f.render (.ok l) v = .error e → ∃ before t after, f.tokens = before ++ t :: after ∧
      (∀ s ∈ before, s.WritableFor v) ∧ ¬t.WritableFor v ∧ t.Unmet v before.length e) ∧
    ∀ p, v = .period p → ∀ text, f.render (.ok l) v = .ok text →
      ∀ g, .field g ∈ f.tokens → g.kind = p.kind := by
  have token (t : Token) : (∃ piece, t.render (.ok l) v = .ok piece) ↔ t.WritableFor v := by
    cases t with
    | literal text => exact iff_of_true ⟨text, rfl⟩ trivial
    | field g => exact Field.exists_render proper
  have whole : (∃ text, f.render (.ok l) v = .ok text) ↔ ∀ t ∈ f.tokens, t.WritableFor v := by
    simp only [exists_render, token]
  refine ⟨whole, ?_, ?_⟩
  · intro e refused
    obtain ⟨before, t, after, split, written, there⟩ :=
      exists_refused_of_renderFrom (map_eq_error.mp refused)
    rw [Nat.zero_add] at there
    have unmet := Token.unmet_of_render proper there
    exact ⟨before, t, after, split, fun s mem => (token s).mp (written s mem),
      unmet.not_writableFor, unmet⟩
  · rintro p rfl text done g mem
    obtain ⟨n, given, -⟩ := whole.mp ⟨text, done⟩ (.field g) mem
    rw [Value.field] at given
    split at given
    · next own => exact own.symm
    · cases given

/-- A month alone has no year to be written; the thirteenth is refused for its name before that. -/
theorem render_first_unwritable_month : ∃ (f : Format) (march thirteenth : Period)
    (e cause : Error), compile "U yyyy" = .ok f ∧ march.value = 3 ∧ thirteenth.value = 13 ∧
    f.render (.ok Locale.english) (.period march) = .error e ∧
    (∃ before t after, f.tokens = before ++ t :: after ∧ e.position? = some before.length ∧
      t.Unmet (.period march) before.length e) ∧
    f.render (.ok Locale.english) (.period thirteenth) = .error cause ∧
    (∃ before t after, f.tokens = before ++ t :: after ∧ cause.family = .unknownMonth ∧
      t.Unmet (.period thirteenth) before.length cause) := by
  let f : Format := ⟨"U yyyy", [.field ⟨.monthName, 1, true⟩, .literal [' '],
    .field ⟨.year, 4, false⟩]⟩
  let march : Period := ⟨.month, ⟨3, by decide⟩⟩
  let thirteenth : Period := ⟨.month, ⟨13, by decide⟩⟩
  have refused : f.render (.ok Locale.english) (.period march) =
      .error (.field (.neededBy "U yyyy" "yyyy" 2 "Month" .year)) := rfl
  have unnamed : f.render (.ok Locale.english) (.period thirteenth) =
      .error (.read (.monthOutOfRange .full 13 "english")) := by
    -- Whether the number is a month is decided only where it is seen.
    simp only [f, thirteenth]
    rfl
  obtain ⟨before, t, after, split, -, -, unmet⟩ :=
    (render_first_unwritable f Locale.english (v := .period march) trivial).2.1 _ refused
  have located : 2 = before.length := by
    cases unmet with
    | missing unanswered family position expects => exact Option.some.inj position
    | noMonth named answered outside family => cases family
  obtain ⟨none, u, later, cut, -, -, unmetToo⟩ :=
    (render_first_unwritable f Locale.english (v := .period thirteenth) trivial).2.1 _ unnamed
  exact ⟨f, march, thirteenth, _, _, rfl, rfl, rfl, refused,
    ⟨before, t, after, split, congrArg some located, unmet⟩, unnamed,
    ⟨none, u, later, cut, rfl, unmetToo⟩⟩

end Format

end PeriodText
