import PeriodText.Proofs.Locale.Lookup
import PeriodText.Proofs.Session.Requests

/-!
# Names of months asked for

A word is asked for its month, and a month for its name. The word names the last month with a name
of the same folded form. So the name of a month names that month or a later one with the same folded
name, and the two styles of a locale have nothing to do with each other:
`Request.readMonth_greatest`.
-/

set_option autoImplicit false

namespace PeriodText

namespace Request

variable {s : Session} {argument : LocaleArgument} {l : Locale}

/-- The name of a month is that of the locale. -/
theorem answer_monthName (known : s.locale argument = .ok l) (style : NameStyle) (month : Int) :
    (monthName style month argument).answer s = l.monthName style month := by
  have first := run_locale argument s
  rw [known] at first
  exact answer_bind_ok first

/-- The month of a name is what the locale reads it as. -/
theorem answer_readMonth (known : s.locale argument = .ok l) (style : NameStyle) (word : Datum) :
    (readMonth style word argument).answer s =
      Locale.nameOf word >>= fun name => l.readMonth style name.toList none := by
  have first := run_locale argument s
  rw [known] at first
  refine (answer_bind_ok first).trans ?_
  cases Locale.nameOf word <;> rfl

/-- **Which month a word names.** It is the greatest month whose name has the folded form of the
word, and the word is unknown exactly if there is none, whatever the names are. So the name of a
month is always known, and it names a month that does not come before; it names the month itself
exactly if no later one has a name of the same folded form. And nothing depends on the names of the
other style. -/
theorem readMonth_greatest (known : s.locale argument = .ok l) (style : NameStyle) :
    (∀ word : String,
      (∀ month, (readMonth style (.text word) argument).answer s = .ok month ↔
        IsGreatest {m | l.Spells style word.toList m} month) ∧
      ((∃ e, (readMonth style (.text word) argument).answer s = .error e ∧
        e.family = .unknownMonth) ↔ ∀ m, ¬l.Spells style word.toList m)) ∧
    (∀ month : Nat, 1 ≤ month → month ≤ 12 → ∃ name found,
      (monthName style month argument).answer s = .ok name ∧
      (readMonth style (.text name) argument).answer s = .ok found ∧ month ≤ found ∧
      (found = month ↔ ∀ later, month < later → ¬l.Spells style name.toList later)) ∧
    ∀ (s' : Session) (argument' : LocaleArgument) (l' : Locale), s'.locale argument' = .ok l' →
      l'.name = l.name → l'.names style = l.names style →
      (∀ word, (readMonth style word argument').answer s' =
        (readMonth style word argument).answer s) ∧
      ∀ month, (monthName style month argument').answer s' =
        (monthName style month argument).answer s := by
  have read (word : String) : (readMonth style (.text word) argument).answer s =
      l.readMonth style word.toList none := answer_readMonth known style (.text word)
  refine ⟨fun word => ⟨fun month => ?_, ?_⟩, fun month first last => ?_, ?_⟩
  · rw [read, Locale.readMonth_eq_ok, Locale.month?_eq_some]
  · rw [read, Locale.readMonth_refused, Locale.month?_eq_none]
  · obtain ⟨name, named⟩ := Locale.exists_monthName.mpr
      (show 1 ≤ (month : Int) ∧ (month : Int) ≤ 12 by omega)
    have own : l.Spells style name.toList month := ⟨name, named, rfl⟩
    cases found : l.month? style name.toList with
    | none => exact absurd own (Locale.month?_eq_none.mp found month)
    | some m =>
      obtain ⟨spelled, greatest⟩ := Locale.month?_eq_some.mp found
      refine ⟨name, m, (answer_monthName known style month).trans named, ?_, greatest own, ?_⟩
      · rw [read, Locale.readMonth_eq_ok, found]
      · constructor
        · rintro rfl later after spells
          exact Nat.not_le_of_lt after (greatest spells)
        · intro none
          exact Nat.le_antisymm (Nat.not_lt.mp fun after => none m after spelled) (greatest own)
  · intro s' argument' l' known' sameName sameNames
    constructor
    · intro word
      rw [answer_readMonth known, answer_readMonth known']
      simp only [Locale.readMonth, Locale.suggestion?, Locale.month?_congr sameNames, sameName,
        sameNames]
    · intro month
      rw [answer_monthName known, answer_monthName known']
      simp only [Locale.monthName, sameName, sameNames]

/-- Where months are abbreviated by their initials, those of March and January name later months. -/
theorem readMonth_greatest_initials : ∃ l : Locale,
    l.abbreviations = ["J", "F", "M", "A", "M", "J", "J", "A", "S", "O", "N", "D"] ∧
    ({} : Session).locale (.given l) = .ok l ∧
    IsGreatest {m | l.Spells .abbreviated " j".toList m} 7 ∧
    ∃ found, (readMonth .abbreviated (.text "M") (.given l)).answer {} = .ok found ∧
      found ≠ 3 := by
  let l : Locale := ⟨"initials", Locale.english.months,
    ["J", "F", "M", "A", "M", "J", "J", "A", "S", "O", "N", "D"], rfl, rfl⟩
  have known : ({} : Session).locale (.given l) = .ok l := rfl
  obtain ⟨words, names, -⟩ := readMonth_greatest known .abbreviated
  have july : (readMonth .abbreviated (.text " j") (.given l)).answer {} = .ok 7 := by
    decide +kernel
  refine ⟨l, rfl, known, ((words " j").1 7).mp july, ?_⟩
  obtain ⟨name, found, named, read, -, same⟩ := names 3 (by decide) (by decide)
  obtain rfl : "M" = name := Except.ok.inj named
  refine ⟨found, read, fun march => ?_⟩
  exact same.mp march 5 (by decide) ⟨"M", rfl, rfl⟩

end Request

end PeriodText
