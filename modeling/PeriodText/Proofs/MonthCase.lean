import PeriodText.Proofs.MonthLookup
import PeriodText.Proofs.Text.Fold

/-!
# Words in another spelling

A word names the month that its folded form is kept for. Words that are canonically equivalent are
folded alike, so that they name the same month. A word in lower case is folded into the composition
of the folded word, and a kept form is folded into its own composition. So both are read as the word,
and as the month, exactly as far as the folded form is composed: `Request.readMonth_alike`. It need
not be, as lower case may leave something to compose: `Request.readMonth_alike_caron`.
-/

set_option autoImplicit false

namespace PeriodText

open Text (compose fold lower)

/-- Two answers are the same month, or both words are refused as unknown. -/
def SameMonth (a b : Except Error Nat) : Prop :=
  (∃ month, a = .ok month ∧ b = .ok month) ∨
    ∃ e e', a = .error e ∧ b = .error e' ∧ e.family = .unknownMonth ∧ e'.family = .unknownMonth

namespace Locale

variable {l : Locale} {style : NameStyle} {word other : List Char} {month : Nat}

/-- Two words are read alike exactly if they name the same month, or none. -/
theorem sameMonth_iff {site : Option Site} :
    SameMonth (l.readMonth style word site) (l.readMonth style other site) ↔
      l.month? style word = l.month? style other := by
  constructor
  · rintro (⟨month, first, second⟩ | ⟨e, e', first, second, family, family'⟩)
    · rw [readMonth_eq_ok.mp first, readMonth_eq_ok.mp second]
    · rw [readMonth_refused.mp ⟨e, first, family⟩, readMonth_refused.mp ⟨e', second, family'⟩]
  · intro same
    cases known : l.month? style other with
    | some month =>
      exact .inl ⟨month, readMonth_eq_ok.mpr (same.trans known), readMonth_eq_ok.mpr known⟩
    | none =>
      obtain ⟨e, first, family⟩ := readMonth_refused.mpr (same.trans known)
      obtain ⟨e', second, family'⟩ := readMonth_refused.mpr known
      exact .inr ⟨e, e', first, second, family, family'⟩

/-- What a word names depends on its folded form alone. -/
theorem month?_congr_fold (same : fold word = fold other) :
    l.month? style word = l.month? style other := by
  rw [month?, month?, same]

/-- No month is kept for a word exactly if it names none. -/
theorem month?_eq_none_iff_mem :
    l.month? style word = none ↔ ∀ m, (m, fold word) ∉ l.folded style := by
  rw [Option.eq_none_iff_forall_ne_some]
  exact forall_congr' fun m => not_congr month?_eq_some_iff_mem

/-- **A word in lower case names the same month exactly if the folded word is composed**, unless
neither of the two forms is kept. -/
theorem month?_lower_iff : l.month? style (lower word) = l.month? style word ↔
    compose (fold word) = fold word ∨
      ∀ m, (m, fold word) ∉ l.folded style ∧ (m, compose (fold word)) ∉ l.folded style := by
  constructor
  · intro same
    cases known : l.month? style word with
    | some m =>
      have lowered := month?_eq_some_iff_mem.mp (same.trans known)
      rw [Text.fold_lower] at lowered
      exact .inl (folded_unique lowered (month?_eq_some_iff_mem.mp known))
    | none =>
      have lowered := month?_eq_none_iff_mem.mp (same.trans known)
      rw [Text.fold_lower] at lowered
      exact .inr fun m => ⟨month?_eq_none_iff_mem.mp known m, lowered m⟩
  · rintro (composed | unknown)
    · exact month?_congr_fold ((Text.fold_lower word).trans composed)
    · rw [month?_eq_none_iff_mem.mpr fun m => (unknown m).1, month?_eq_none_iff_mem,
        Text.fold_lower]
      exact fun m => (unknown m).2

/-- **A kept form names its month exactly if it is composed.** -/
theorem month?_folded_iff {key : List Char} (kept : (month, key) ∈ l.folded style) :
    l.month? style key = some month ↔ compose key = key := by
  obtain ⟨name, -, rfl⟩ := mem_numbered.mp ((latest_sublist _).subset kept)
  rw [month?_eq_some_iff_mem, Text.fold_fold]
  constructor
  · intro mem
    exact folded_unique mem kept
  · intro composed
    rwa [composed]

end Locale

namespace Request

variable {s : Session} {argument : LocaleArgument} {l : Locale}

/-- The month of a text is what the locale reads it as. -/
theorem answer_readMonth_text (known : s.locale argument = .ok l) (style : NameStyle)
    (word : String) :
    (readMonth style (.text word) argument).answer s = l.readMonth style word.toList none :=
  answer_readMonth known style (.text word)

/-- **How far other spellings are read alike.** Words that are composed alike name the same month, or
none. A word and its lower case do exactly if the folded word is composed, or if neither the folded
word nor its composition is the folded name of a month. And the folded name under which a month is
kept names that month exactly if it is composed. -/
theorem readMonth_alike (known : s.locale argument = .ok l) (style : NameStyle) :
    (∀ word other : String, compose other.toList = compose word.toList →
      SameMonth ((readMonth style (.text other) argument).answer s)
        ((readMonth style (.text word) argument).answer s)) ∧
    (∀ word : String,
      SameMonth ((readMonth style (.text (.ofList (lower word.toList))) argument).answer s)
          ((readMonth style (.text word) argument).answer s) ↔
        compose (fold word.toList) = fold word.toList ∨
          ∀ m, (m, fold word.toList) ∉ l.folded style ∧
            (m, compose (fold word.toList)) ∉ l.folded style) ∧
    ∀ month key, (month, key) ∈ l.folded style →
      ((readMonth style (.text (.ofList key)) argument).answer s = .ok month ↔
        compose key = key) := by
  have read := answer_readMonth_text known style
  refine ⟨fun word other same => ?_, fun word => ?_, fun month key kept => ?_⟩
  · rw [read, read, Locale.sameMonth_iff]
    exact Locale.month?_congr_fold (Text.fold_congr same)
  · rw [read, read, Locale.sameMonth_iff, String.toList_ofList]
    exact Locale.month?_lower_iff
  · rw [read, Locale.readMonth_eq_ok, String.toList_ofList]
    exact Locale.month?_folded_iff kept

/-- The second month is read from its name with the accent apart, in capitals, and from the folded
name that it is kept under. -/
theorem readMonth_alike_february :
    let read (word : String) :=
      (readMonth .full (.text word) (.given Locale.french)).answer {}
    ({} : Session).locale (.given Locale.french) = .ok Locale.french ∧
      SameMonth (read "fe\u0301vrier") (read "février") ∧
      SameMonth (read (.ofList (lower "FÉVRIER".toList))) (read "FÉVRIER") ∧
      (2, "février".toList) ∈ Locale.french.folded .full ∧ read "février" = .ok 2 := by
  have known : ({} : Session).locale (.given Locale.french) = .ok Locale.french := rfl
  obtain ⟨equivalent, lowered, kept⟩ := readMonth_alike known .full
  have apart : compose "fe\u0301vrier".toList = compose "février".toList := by decide +kernel
  have composed : compose (fold "FÉVRIER".toList) = fold "FÉVRIER".toList := by decide +kernel
  have listed : (2, "février".toList) ∈ Locale.french.folded .full := by decide +kernel
  have key : compose "février".toList = "février".toList := by decide +kernel
  have february := (kept 2 _ listed).mpr key
  rw [String.ofList_toList] at february
  exact ⟨known, equivalent "février" "fe\u0301vrier" apart,
    (lowered "FÉVRIER").mpr (.inl composed), listed, february⟩

/-- The English locale, but with a caron over the J of January. -/
def withCaron : Locale where
  name := "caron"
  months := "J\u030canuary" :: Locale.english.months.tail
  abbreviations := Locale.english.abbreviations
  months_length := rfl
  abbreviations_length := rfl

/-- No capital J with a caron is composed, but the small one is. So a month whose name begins with
one is read from its name, but neither from the name in lower case nor from the folded name that it
is kept under. -/
theorem readMonth_alike_caron :
    let read (word : String) := (readMonth .full (.text word) (.given withCaron)).answer {}
    read "J\u030canuary" = .ok 1 ∧
      (∃ e, read (.ofList (lower "J\u030canuary".toList)) = .error e ∧ e.family = .unknownMonth) ∧
      ∃ key, (1, key) ∈ withCaron.folded .full ∧
        ∃ e, read (.ofList key) = .error e ∧ e.family = .unknownMonth := by
  intro read
  have named (word : String) : read word = withCaron.readMonth .full word.toList none :=
    answer_readMonth_text rfl .full word
  refine ⟨?_, ?_, "j\u030canuary".toList, by decide +kernel, ?_⟩
  · rw [named, Locale.readMonth_eq_ok]
    decide +kernel
  · rw [named, Locale.readMonth_refused, String.toList_ofList]
    decide +kernel
  · rw [named, Locale.readMonth_refused, String.toList_ofList]
    decide +kernel

end Request

end PeriodText
