import PeriodText.Proofs.Calendar.Ordinal
import PeriodText.Proofs.Injectivity
import PeriodText.Proofs.Value.Day
import Mathlib.Data.String.Basic

/-!
# Texts in the order of their numbers

Zeros in front make numbers of one width as long as each other, and then the order of the texts is
that of the numbers (`Numeral.paddedText_order`). So it is in a format of numbers alone, as long as
each number fits its field: the texts of two values are equally long, and they are ordered as the
numbers are from left to right, `Format.render_order`.
-/

set_option autoImplicit false

namespace PeriodText

open Calendar (dayNumber isDay)
open Numeral (digitLimit isWritable)

/-- Lists whose first parts are equally long are ordered by these, and then by what follows. -/
theorem append_lt_append_iff {α : Type} [LT α] {front other back rest : List α}
    (length : front.length = other.length) :
    front ++ back < other ++ rest ↔ front < other ∨ front = other ∧ back < rest := by
  induction front generalizing other with
  | nil =>
    obtain rfl := List.length_eq_zero_iff.mp length.symm
    simp [List.not_lt_nil]
  | cons a front ih =>
    cases other with
    | nil => cases length
    | cons b other =>
      rw [List.cons_append, List.cons_append, List.cons_lt_cons_iff, List.cons_lt_cons_iff,
        ih (Nat.succ.inj length), List.cons.injEq]
      constructor
      · rintro (less | ⟨rfl, less | ⟨rfl, less⟩⟩)
        · exact .inl (.inl less)
        · exact .inl (.inr ⟨rfl, less⟩)
        · exact .inr ⟨⟨rfl, rfl⟩, less⟩
      · rintro ((less | ⟨rfl, less⟩) | ⟨⟨rfl, rfl⟩, less⟩)
        · exact .inl less
        · exact .inr ⟨rfl, .inl less⟩
        · exact .inr ⟨rfl, .inr ⟨rfl, less⟩⟩

namespace Format

/-- The numbers are those that the value has for the fields, from left to right, and each of them
fits its field: it is not negative, and has no more digits than the field has letters. -/
def Fits (f : Format) (v : Value) (ns : List Int) : Prop :=
  List.Forall₂ (fun g n => v.field g.kind = .ok n ∧ 0 ≤ n ∧ n < 10 ^ g.width) f.fields ns

variable {locale other : Except Error Locale} {v w : Value} {pattern : String}
  {tokens : List Token} {pieces others : List (List Char)} {ns ms : List Int}

/-- **Pieces of numbers that fit are equally long, and ordered as the numbers are.** -/
theorem written_order (numeric : Numeric tokens) (fits : Fits ⟨pattern, tokens⟩ v ns)
    (fitsToo : Fits ⟨pattern, tokens⟩ w ms) (wrote : Written locale v tokens pieces)
    (again : Written other w tokens others) :
    pieces.flatten.length = others.flatten.length ∧
      (pieces.flatten < others.flatten ↔ ns < ms) := by
  induction tokens generalizing ns ms pieces others with
  | nil =>
    cases wrote
    cases again
    cases fits
    cases fitsToo
    exact ⟨rfl, iff_of_false (List.not_lt_nil []) (List.not_lt_nil [])⟩
  | cons t tokens ih =>
    obtain ⟨piece, pieces, here, later, rfl⟩ := List.forall₂_cons_left_iff.mp wrote
    obtain ⟨piece', others, hereToo, laterToo, rfl⟩ := List.forall₂_cons_left_iff.mp again
    have fewer : Numeric tokens := fun g mem => numeric g (.tail _ mem)
    rw [List.flatten_cons, List.flatten_cons, List.length_append, List.length_append]
    cases t with
    | literal text =>
      obtain rfl : text = piece := Except.ok.inj here
      obtain rfl : text = piece' := Except.ok.inj hereToo
      obtain ⟨length, order⟩ := ih fewer fits fitsToo later laterToo
      refine ⟨by rw [length], ?_⟩
      rw [append_lt_append_iff rfl, or_iff_right (List.lt_irrefl text), order]
      exact and_iff_right rfl
    | field g =>
      have style := numeric g List.mem_cons_self
      obtain ⟨n, ns, ⟨given, nonnegative, small⟩, rest, rfl⟩ :=
        List.forall₂_cons_left_iff.mp fits
      obtain ⟨m, ms, ⟨givenToo, nonnegativeToo, smallToo⟩, restToo, rfl⟩ :=
        List.forall₂_cons_left_iff.mp fitsToo
      obtain ⟨_, own, -, rfl⟩ := (Field.render_number style).mp here
      obtain ⟨_, ownToo, -, rfl⟩ := (Field.render_number style).mp hereToo
      cases own.symm.trans given
      cases ownToo.symm.trans givenToo
      obtain ⟨width, less, same⟩ :=
        Numeral.paddedText_order nonnegative small nonnegativeToo smallToo
      obtain ⟨length, order⟩ := ih fewer rest restToo later laterToo
      refine ⟨by rw [width, length], ?_⟩
      rw [append_lt_append_iff width, less, same, order, List.cons_lt_cons_iff]

/-- There are pieces of numbers that fit if none of them is too long to be written at all. -/
theorem exists_written_iff (numeric : Numeric tokens) (fits : Fits ⟨pattern, tokens⟩ v ns) :
    (∃ pieces, Written locale v tokens pieces) ↔ ∀ n ∈ ns, isWritable n = true := by
  induction tokens generalizing ns with
  | nil =>
    cases fits
    exact iff_of_true ⟨[], .nil⟩ (List.forall_mem_nil _)
  | cons t tokens ih =>
    have fewer : Numeric tokens := fun g mem => numeric g (.tail _ mem)
    rw [exists_written, List.forall_mem_cons, ← exists_written]
    cases t with
    | literal text =>
      rw [ih fewer fits]
      exact and_iff_right ⟨text, rfl⟩
    | field g =>
      obtain ⟨n, ns, ⟨given, -, -⟩, rest, rfl⟩ := List.forall₂_cons_left_iff.mp fits
      rw [ih fewer rest, List.forall_mem_cons]
      refine and_congr_left fun _ => ?_
      constructor
      · rintro ⟨piece, here⟩
        obtain ⟨_, own, writable, -⟩ := (Field.render_number (numeric g List.mem_cons_self)).mp here
        cases own.symm.trans given
        exact writable
      · intro writable
        exact ⟨_, (Field.render_number (numeric g List.mem_cons_self)).mpr ⟨n, given, writable, rfl⟩⟩

/-- Numbers that fit can be written if no field is too wide. -/
theorem Fits.isWritable {f : Format} (fits : f.Fits v ns)
    (narrow : ∀ g ∈ f.fields, 1 ≤ g.width ∧ g.width ≤ digitLimit) :
    ∀ n ∈ ns, isWritable n = true := by
  unfold Fits at fits
  generalize f.fields = fields at fits narrow
  induction fits with
  | nil => exact List.forall_mem_nil _
  | @cons g n fields ns here _ ih =>
    obtain ⟨-, nonnegative, small⟩ := here
    obtain ⟨⟨present, short⟩, others⟩ := List.forall_mem_cons.mp narrow
    have magnitude := (Numeral.natAbs_lt_pow_iff nonnegative).mpr small
    exact List.forall_mem_cons.mpr
      ⟨Numeral.isWritable_of_lt_pow present short magnitude, ih others⟩

/-- **A format of numbers orders the values whose numbers fit it.** -/
theorem order_of_fits (locale other : Except Error Locale) {f : Format}
    (numeric : ∀ g ∈ f.fields, g.isWord = false)
    (fits : f.Fits v ns) (fitsToo : f.Fits w ms) :
    ((∃ text, f.render locale v = .ok text) ↔ ∀ n ∈ ns, isWritable n = true) ∧
      ∀ a b, f.render locale v = .ok a → f.render other w = .ok b →
        a.length = b.length ∧ (a < b ↔ ns < ms) := by
  have numbers : Numeric f.tokens :=
    fun g mem => Field.isWord_eq_false.mp (numeric g (mem_fields.mpr mem))
  refine ⟨?_, fun a b first second => ?_⟩
  · rw [exists_render, ← exists_written]
    exact exists_written_iff numbers fits
  · obtain ⟨pieces, wrote, whole⟩ := render_eq_ok.mp first
    obtain ⟨others, again, wholeToo⟩ := render_eq_ok.mp second
    obtain ⟨length, order⟩ := written_order numbers fits fitsToo wrote again
    rw [← String.length_toList, ← String.length_toList, String.lt_iff_toList_lt, whole, wholeToo]
    exact ⟨length, order⟩

end Format

/-! ## Standard formats -/

/-- A standard format has the fields of the chain, all of them numbers and none of them wide. -/
theorem Kind.standardFormat?_fields {kind : Kind} {f : Format}
    (standard : kind.standardFormat? = some f) :
    kind.chain? = some (f.fields.map Field.kind) ∧
      ∀ g ∈ f.fields, g.isWord = false ∧ 1 ≤ g.width ∧ g.width ≤ digitLimit := by
  cases kind <;> cases standard <;> exact ⟨rfl, by decide⟩

/-- The numbers of a calendar day fit the standard format of days. -/
theorem Value.AnswersDay.fits {f : Format} {v : Value} {year month day : Int}
    (answers : v.AnswersDay year month day) (valid : isDay year month day = true)
    (standard : Kind.day.standardFormat? = some f) : f.Fits v [year, month, day] := by
  have fields : f.fields = [⟨.year, 4, true⟩, ⟨.month, 2, true⟩, ⟨.day, 2, false⟩] := by
    cases standard
    rfl
  obtain ⟨years, months, days⟩ := Calendar.isDay_iff.mp valid
  have short := Calendar.daysInMonth_le year month
  have year4 : 0 ≤ year ∧ year < 10 ^ 4 := by omega
  have month2 : 0 ≤ month ∧ month < 10 ^ 2 := by omega
  have day2 : 0 ≤ day ∧ day < 10 ^ 2 := by omega
  rw [Format.Fits, fields]
  exact .cons ⟨answers .year year rfl, year4⟩ (.cons ⟨answers .month month rfl, month2⟩
    (.cons ⟨answers .day day rfl, day2⟩ .nil))

namespace Format

/-- **Texts of numbers sort as the numbers do.** In a format of numbers, the texts of values whose
numbers fit their fields are equally long, and the one comes before the other exactly if its numbers
do, from left to right. A number that fits can be written unless its field is so wide that it has
more digits than are ever written. So the standard texts of two dates of one kind sort as the fields
of their chain do, and those of calendar days, however they are given, as the days follow one
another. -/
theorem render_order :
    (∀ f : Format, (∀ g ∈ f.fields, g.isWord = false) →
      ∀ locale other v w ns ms, f.Fits v ns → f.Fits w ms →
        ((∃ text, f.render locale v = .ok text) ↔ ∀ n ∈ ns, isWritable n = true) ∧
        ∀ a b, f.render locale v = .ok a → f.render other w = .ok b →
          a.length = b.length ∧ (a < b ↔ ns < ms)) ∧
    (∀ d e : PeriodDate, d.kind = e.kind → ∃ f, d.kind.standardFormat? = some f ∧
      d.kind.chain? = some (f.fields.map Field.kind) ∧
      ∀ ns ms, f.Fits (.date d) ns → f.Fits (.date e) ms →
        ∃ a b, d.text = .ok a ∧ e.text = .ok b ∧ a.length = b.length ∧ (a < b ↔ ns < ms)) ∧
    ∀ year month day year' month' day', isDay year month day = true →
      isDay year' month' day' = true → ∃ f, Kind.day.standardFormat? = some f ∧
      ∀ locale other v w, Value.AnswersDay v year month day → Value.AnswersDay w year' month' day' →
        ∃ a b, f.render locale v = .ok a ∧ f.render other w = .ok b ∧ a.length = b.length ∧
          (a < b ↔ dayNumber year month day < dayNumber year' month' day') := by
  -- Standard formats are narrow, so that values whose numbers fit have texts in them.
  have texts {kind : Kind} {f : Format} (standard : kind.standardFormat? = some f)
      (locale other : Except Error Locale) {v w : Value} {ns ms : List Int} (fits : f.Fits v ns)
      (fitsToo : f.Fits w ms) : ∃ a b, f.render locale v = .ok a ∧ f.render other w = .ok b ∧
        a.length = b.length ∧ (a < b ↔ ns < ms) := by
    obtain ⟨-, fields⟩ := Kind.standardFormat?_fields standard
    have numeric (g : Field) (mem : g ∈ f.fields) : g.isWord = false := (fields g mem).1
    have narrow (g : Field) (mem : g ∈ f.fields) := (fields g mem).2
    obtain ⟨written, order⟩ := order_of_fits locale other numeric fits fitsToo
    obtain ⟨writtenToo, -⟩ := order_of_fits other other numeric fitsToo fitsToo
    obtain ⟨a, first⟩ := written.mpr (fits.isWritable narrow)
    obtain ⟨b, second⟩ := writtenToo.mpr (fitsToo.isWritable narrow)
    exact ⟨a, b, first, second, order a b first second⟩
  refine ⟨?_, ?_, ?_⟩
  · intro f numeric locale other v w ns ms
    exact order_of_fits locale other numeric
  · intro d e same
    obtain ⟨chain, found, -⟩ := d.exists_chain
    obtain ⟨-, f, -, standard, -, -⟩ := Kind.standardFormat?_of_chain found
    refine ⟨f, standard, (Kind.standardFormat?_fields standard).1, fun ns ms fits fitsToo => ?_⟩
    rw [PeriodDate.text, PeriodDate.text, Value.standardFormat_date standard,
      Value.standardFormat_date (same ▸ standard)]
    exact texts standard _ _ fits fitsToo
  · intro year month day year' month' day' valid validToo
    have chain : Kind.day.chain? = some [.year, .month, .day] := rfl
    obtain ⟨-, f, -, standard, -, -⟩ := Kind.standardFormat?_of_chain chain
    refine ⟨f, standard, fun locale other v w answers answersToo => ?_⟩
    rw [Calendar.dayNumber_lt_iff valid validToo]
    exact texts standard locale other (answers.fits valid standard)
      (answersToo.fits validToo standard)

/-- February comes before December although its day is the larger one, in a format that begins with
the year and names it twice, and in the standard format. A moment of the same day comes before
December too. -/
theorem render_order_february : ∃ (f standard : Format) (d e : PeriodDate),
    compile "yyyymmddyyyy" = .ok f ∧ Kind.day.standardFormat? = some standard ∧
    f.Fits (.date d) [2018, 2, 28, 2018] ∧ f.Fits (.date e) [2018, 12, 1, 2018] ∧
    f.render (.ok Locale.english) (.date d) = .ok "201802282018" ∧
    f.render (.ok Locale.english) (.date e) = .ok "201812012018" ∧
    "201802282018" < "201812012018" ∧
    (∃ a b, d.text = .ok a ∧ e.text = .ok b ∧ a < b) ∧
    ∃ a b, standard.render (.ok Locale.english)
        (.moment ⟨.time, 2018, 2, 28, 23, 59, 59⟩) = .ok a ∧
      standard.render (.ok Locale.english) (.date e) = .ok b ∧ a < b := by
  let f : Format := ⟨"yyyymmddyyyy", [.field ⟨.year, 4, false⟩, .field ⟨.month, 2, false⟩,
    .field ⟨.day, 2, false⟩, .field ⟨.year, 4, false⟩]⟩
  let d : PeriodDate := ⟨.day,
    { year := some ⟨2018, by decide⟩, month := some ⟨2, by decide⟩, day := some ⟨28, by decide⟩ },
    rfl⟩
  let e : PeriodDate := ⟨.day,
    { year := some ⟨2018, by decide⟩, month := some ⟨12, by decide⟩, day := some ⟨1, by decide⟩ },
    rfl⟩
  have fits : f.Fits (.date d) [2018, 2, 28, 2018] := .cons ⟨rfl, by decide⟩
    (.cons ⟨rfl, by decide⟩ (.cons ⟨rfl, by decide⟩ (.cons ⟨rfl, by decide⟩ .nil)))
  have fitsToo : f.Fits (.date e) [2018, 12, 1, 2018] := .cons ⟨rfl, by decide⟩
    (.cons ⟨rfl, by decide⟩ (.cons ⟨rfl, by decide⟩ (.cons ⟨rfl, by decide⟩ .nil)))
  have written : f.render (.ok Locale.english) (.date d) = .ok "201802282018" := rfl
  have writtenToo : f.render (.ok Locale.english) (.date e) = .ok "201812012018" := rfl
  obtain ⟨general, standardTexts, days⟩ := render_order
  obtain ⟨-, order⟩ := general f (by decide) (.ok Locale.english) (.ok Locale.english) _ _ _ _
    fits fitsToo
  obtain ⟨standard, found, -, dates⟩ := standardTexts d e rfl
  have valid : isDay 2018 2 28 = true := rfl
  have validToo : isDay 2018 12 1 = true := rfl
  have answers := Value.NamesDay.answersDay (.date d ⟨2018, by decide⟩ ⟨2, by decide⟩
    ⟨28, by decide⟩ rfl rfl) valid
  have answersToo := Value.NamesDay.answersDay (.date e ⟨2018, by decide⟩ ⟨12, by decide⟩
    ⟨1, by decide⟩ rfl rfl) validToo
  have moment := Value.NamesDay.answersDay (.moment ⟨.time, 2018, 2, 28, 23, 59, 59⟩) valid
  obtain ⟨a, b, first, second, -, less⟩ := dates [2018, 2, 28] [2018, 12, 1]
    (answers.fits valid found) (answersToo.fits validToo found)
  obtain ⟨own, again, ordered⟩ := days 2018 2 28 2018 12 1 valid validToo
  obtain rfl : standard = own := Option.some.inj (found.symm.trans again)
  obtain ⟨a', b', firstToo, secondToo, -, earlier⟩ :=
    ordered (.ok Locale.english) (.ok Locale.english) _ _ moment answersToo
  exact ⟨f, standard, d, e, rfl, found, fits, fitsToo, written, writtenToo,
    (order _ _ written writtenToo).2.mpr (by decide), ⟨a, b, first, second, less.mpr (by decide)⟩,
    a', b', firstToo, secondToo, earlier.mpr (by decide)⟩

end Format

end PeriodText
