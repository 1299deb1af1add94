import PeriodText.Error.Family
import PeriodText.Error.Message
import PeriodText.Proofs.Format.Marks
import Mathlib.Order.Nat

/-!
# Letters that stand for no field

Compilation can be told to take more characters for field letters than those that stand for one.
Such a character is a fault wherever the scan meets it bare. Whether it does can be said of the
pattern alone: a character is escaped if a backslash stands right before it that is not itself
escaped (`IsEscaped`), so of a row of backslashes only every second one escapes what follows it.

The scan jumps over an escaped character together with its backslash, so what is left of the pattern
then begins with a character that nothing escapes, and the characters after it are escaped in it as
they are in the whole (`isEscaped_pair`, `isEscaped_cons`). With that as the invariant, the first
bare unknown letter is the error, whatever stands to its right, and a pattern without one is
compiled as if no more letters were given: `compileWith_unknown`.
-/

set_option autoImplicit false

namespace PeriodText

namespace Format

/-! ## Escaped characters -/

/-- The character at a place is escaped: right before it stands a backslash that is not. -/
def IsEscaped (text : List Char) : (place : Nat) → Prop
  | 0 => False
  | place + 1 => text[place]? = some Token.escape ∧ ¬IsEscaped text place

/-- It can be told whether the character at a place is escaped. -/
instance decidableIsEscaped (text : List Char) :
    (place : Nat) → Decidable (IsEscaped text place)
  | 0 => isFalse id
  | place + 1 =>
    let _ := decidableIsEscaped text place
    inferInstanceAs (Decidable (_ ∧ _))

/-- At a place stands one of some characters, and it is not escaped. -/
def StandsBare (extra text : List Char) (place : Nat) : Prop :=
  ∃ c ∈ extra, text[place]? = some c ∧ ¬IsEscaped text place

/-- It can be told whether one of some characters stands bare at a place. -/
instance decidableStandsBare (extra text : List Char) : DecidablePred (StandsBare extra text) :=
  fun place => List.decidableBEx (fun c => text[place]? = some c ∧ ¬IsEscaped text place) extra

variable {extra : List Char}

/-- A character other than the backslash escapes nothing. -/
theorem isEscaped_cons {c : Char} (plain : c ≠ Token.escape) (text : List Char) (place : Nat) :
    IsEscaped (c :: text) (place + 1) ↔ IsEscaped text place := by
  induction place with
  | zero =>
    refine ⟨fun escaped => ?_, False.elim⟩
    exact absurd (Option.some.inj escaped.1) plain
  | succ place ih =>
    rw [IsEscaped, ih, List.getElem?_cons_succ]
    exact Iff.rfl

/-- After a backslash and the character that it escapes, a text is as if it began there. -/
theorem isEscaped_pair (d : Char) (text : List Char) (place : Nat) :
    IsEscaped (Token.escape :: d :: text) (place + 2) ↔ IsEscaped text place := by
  induction place with
  | zero =>
    refine ⟨fun escaped => ?_, False.elim⟩
    exact absurd ⟨rfl, id⟩ escaped.2
  | succ place ih =>
    rw [IsEscaped, ih, List.getElem?_cons_succ, List.getElem?_cons_succ]
    exact Iff.rfl

/-- The first character of a text is bare. -/
theorem standsBare_zero {c : Char} {text : List Char} :
    StandsBare extra (c :: text) 0 ↔ c ∈ extra := by
  constructor
  · rintro ⟨other, mem, here, -⟩
    rwa [Option.some.inj here]
  · intro mem
    exact ⟨c, mem, rfl, id⟩

/-- What stands bare after a character other than the backslash stands so without it. -/
theorem standsBare_cons {c : Char} (plain : c ≠ Token.escape) {text : List Char} {place : Nat} :
    StandsBare extra (c :: text) (place + 1) ↔ StandsBare extra text place := by
  unfold StandsBare
  rw [isEscaped_cons plain, List.getElem?_cons_succ]

/-- What stands bare after a backslash and the character that it escapes stands so without them. -/
theorem standsBare_pair {d : Char} {text : List Char} {place : Nat} :
    StandsBare extra (Token.escape :: d :: text) (place + 2) ↔ StandsBare extra text place := by
  unfold StandsBare
  rw [isEscaped_pair, List.getElem?_cons_succ, List.getElem?_cons_succ]

/-- The character after the backslash that begins a text does not stand bare. -/
theorem not_standsBare_escaped (text : List Char) :
    ¬StandsBare extra (Token.escape :: text) 1 := by
  rintro ⟨c, -, -, bare⟩
  exact bare ⟨rfl, id⟩

/-! ## The scan -/

/-- An unknown letter is refused where it stands. -/
theorem Scan.take_of_mem {c : Char} (mem : c ∈ extra) (unknown : Specifier.isLetter c = false)
    (s : Scan) (pattern : String) (position : Nat) :
    s.take extra pattern position c = .error (.pattern (.unknownLetter c position pattern)) := by
  have none : Specifier.ofLetter? c = none := by simpa [Specifier.isLetter] using unknown
  rw [take, none]
  exact if_pos (List.contains_iff_mem.mpr mem)

/-- Any other character is read as if no more letters were given. -/
theorem Scan.take_of_not_mem {c : Char} (other : c ∉ extra) (s : Scan) (pattern : String)
    (position : Nat) : s.take extra pattern position c = s.take [] pattern position c := by
  unfold take
  cases Specifier.ofLetter? c with
  | some specifier => rfl
  | none =>
    have absent : extra.contains c = false := by simpa using other
    simp only [absent, List.contains_nil]
    rfl

/-- **The first unknown letter that stands bare is the error**, whatever follows it. -/
theorem compileFrom_of_standsBare {text : List Char} {c : Char} {place : Nat}
    (unknown : ∀ c ∈ extra, Specifier.isLetter c = false ∧ c ≠ Token.escape)
    (here : text[place]? = some c) (bare : StandsBare extra text place)
    (first : ∀ earlier < place, ¬StandsBare extra text earlier) (pattern : String)
    (position : Nat) (s : Scan) : compileFrom extra pattern position s text =
      .error (.pattern (.unknownLetter c (position + place) pattern)) := by
  induction text using marked.induct generalizing place position s with
  | case1 => cases here
  | case2 d =>
    cases place with
    | succ place => cases here
    | zero =>
      cases here
      have mem := standsBare_zero.mp bare
      rw [compileFrom, Scan.take_of_mem mem (unknown c mem).1]
      rfl
  | case3 d rest ih =>
    cases place with
    | zero => exact absurd rfl (unknown _ (standsBare_zero.mp bare)).2
    | succ place =>
      cases place with
      | zero => exact absurd bare (not_standsBare_escaped _)
      | succ place =>
        have later := ih here (standsBare_pair.mp bare)
          (fun earlier le again => first (earlier + 2) (by omega) (standsBare_pair.mpr again))
          (position + 2) (s.takeLiteral d)
        rw [compileFrom, if_pos rfl, later, Nat.add_right_comm, Nat.add_assoc]
  | case4 d e rest plain ih =>
    rw [compileFrom, if_neg plain]
    cases place with
    | zero =>
      cases here
      have mem := standsBare_zero.mp bare
      rw [Scan.take_of_mem mem (unknown c mem).1]
      rfl
    | succ place =>
      have other : d ∉ extra := fun mem => first 0 (Nat.succ_pos _) (standsBare_zero.mpr mem)
      have later := ih here ((standsBare_cons plain).mp bare)
        (fun earlier le again =>
          first (earlier + 1) (Nat.succ_lt_succ le) ((standsBare_cons plain).mpr again))
        (position + 1) (s.takeMark (.ofChar d)).2
      rw [Scan.take_of_not_mem other, Scan.take_eq_takeMark]
      change (do
        let others ← compileFrom extra pattern (position + 1) (s.takeMark (.ofChar d)).2 (e :: rest)
        return (s.takeMark (.ofChar d)).1 ++ others) = _
      rw [later, Nat.add_right_comm, Nat.add_assoc]
      rfl

/-- Where no unknown letter stands bare, a pattern is compiled as if no more letters were given. -/
theorem compileFrom_of_not_standsBare {text : List Char}
    (known : ∀ place, ¬StandsBare extra text place) (pattern : String) (position : Nat)
    (s : Scan) :
    compileFrom extra pattern position s text = compileFrom [] pattern position s text := by
  induction text using marked.induct generalizing position s with
  | case1 => rw [compileFrom, compileFrom]
  | case2 d =>
    have other : d ∉ extra := fun mem => known 0 (standsBare_zero.mpr mem)
    rw [compileFrom, compileFrom, Scan.take_of_not_mem other]
  | case3 d rest ih =>
    rw [compileFrom, compileFrom, if_pos rfl, if_pos rfl]
    exact ih (fun place bare => known (place + 2) (standsBare_pair.mpr bare)) _ _
  | case4 d e rest plain ih =>
    have other : d ∉ extra := fun mem => known 0 (standsBare_zero.mpr mem)
    have later := ih fun place bare => known (place + 1) ((standsBare_cons plain).mpr bare)
    rw [compileFrom, compileFrom, if_neg plain, if_neg plain, Scan.take_of_not_mem other]
    simp only [later]

/-- **Unknown letters are reported exactly, and the first of them.** A pattern that is not empty is
refused for an invalid field letter exactly if one of the unknown letters stands bare in it. The
letter that is named is then the first such one, and the position is where it stands. Otherwise the
pattern is compiled, and as if no more letters were given. -/
theorem compileWith_unknown {extra : List Char} {pattern : String} (present : pattern ≠ "")
    (unknown : ∀ c ∈ extra, Specifier.isLetter c = false ∧ c ≠ Token.escape) :
    ((∃ e, compileWith extra pattern = .error e ∧ e.family = .invalidSpecifier) ↔
      ∃ place, StandsBare extra pattern.toList place) ∧
    (∀ e, compileWith extra pattern = .error e → ∃ c place,
      e = .pattern (.unknownLetter c place pattern) ∧ e.family = .invalidSpecifier ∧
      e.position? = some place ∧ pattern.toList[place]? = some c ∧
      IsLeast {place | StandsBare extra pattern.toList place} place) ∧
    ((∀ place, ¬StandsBare extra pattern.toList place) →
      ∃ f, compileWith extra pattern = .ok f ∧ compile pattern = .ok f) := by
  have refused (bare : ∃ place, StandsBare extra pattern.toList place) : ∃ c place,
      compileWith extra pattern = .error (.pattern (.unknownLetter c place pattern)) ∧
      pattern.toList[place]? = some c ∧
      IsLeast {place | StandsBare extra pattern.toList place} place := by
    obtain ⟨c, -, here, -⟩ := Nat.find_spec bare
    have fault := compileFrom_of_standsBare unknown here (Nat.find_spec bare)
      (fun _ earlier => Nat.find_min bare earlier) pattern 0 {}
    rw [Nat.zero_add] at fault
    refine ⟨c, Nat.find bare, ?_, here, Nat.isLeast_find bare⟩
    rw [compileWith, if_neg present, fault]
    rfl
  have compiled (none : ∀ place, ¬StandsBare extra pattern.toList place) :
      ∃ f, compileWith extra pattern = .ok f ∧ compile pattern = .ok f := by
    obtain ⟨f, done⟩ := exists_compile.mpr present
    refine ⟨f, ?_, done⟩
    rw [compileWith, if_neg present, compileFrom_of_not_standsBare none]
    rwa [compile, compileWith, if_neg present] at done
  have bare_of_error {e : Error} (error : compileWith extra pattern = .error e) :
      ∃ place, StandsBare extra pattern.toList place := by
    by_contra none
    obtain ⟨f, done, -⟩ := compiled (not_exists.mp none)
    rw [done] at error
    cases error
  refine ⟨⟨?_, fun bare => ?_⟩, fun e error => ?_, compiled⟩
  · rintro ⟨e, error, -⟩
    exact bare_of_error error
  · obtain ⟨c, place, error, -⟩ := refused bare
    exact ⟨_, error, rfl⟩
  · obtain ⟨c, place, again, here, least⟩ := refused (bare_of_error error)
    cases error.symm.trans again
    exact ⟨c, place, rfl, rfl, rfl, here, least⟩

/-- Of three letters the first is escaped, and so is the backslash before the second: that one is
reported, at its place in the pattern. -/
theorem compileWith_unknown_second : "yy\\X\\\\XX" ≠ "" ∧
    (∀ c ∈ ['X'], Specifier.isLetter c = false ∧ c ≠ Token.escape) ∧
    ∃ e, compileWith ['X'] "yy\\X\\\\XX" = .error e ∧ e.family = .invalidSpecifier ∧
      e.position? = some 6 := by
  have present : "yy\\X\\\\XX" ≠ "" := by decide
  have unknown : ∀ c ∈ ['X'], Specifier.isLetter c = false ∧ c ≠ Token.escape :=
    List.forall_mem_singleton.mpr (by decide)
  obtain ⟨refused, first, -⟩ := compileWith_unknown present unknown
  obtain ⟨e, error, family⟩ := refused.mpr ⟨6, by decide⟩
  obtain ⟨c, place, rfl, -, position, -, bare, least⟩ := first e error
  have le : place ≤ 6 := least (by decide : StandsBare _ _ 6)
  have later : ∀ earlier < 6, ¬StandsBare ['X'] "yy\\X\\\\XX".toList earlier := by decide
  have six : place = 6 := Nat.le_antisymm le (Nat.le_of_not_lt fun lt => later place lt bare)
  exact ⟨present, unknown, _, error, family, position.trans (congrArg some six)⟩

end Format

end PeriodText
