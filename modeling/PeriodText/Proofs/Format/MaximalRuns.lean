import PeriodText.Proofs.Format.Canonical
import Mathlib.Data.List.SplitBy

/-!
# Compilation in two passes

What a pattern is compiled into can be said without a scan. First its characters are marked, escapes
resolved. Then the marks are cut into their maximal runs, plain characters with plain characters and
field letters with the same letter, and every run becomes a token: `tokensOfRuns`.

The tokens that compilation gives have the marks of the pattern (`marks_group`) and fit one another
(`formed_group`). In tokens that fit, the marks of a token are a maximal run, so the cut gives the
tokens back: `tokensOfRuns_runs`. And since tokens tell their marks, two patterns have the same
tokens only if they have the same marks.
-/

set_option autoImplicit false

namespace PeriodText

namespace Mark

/-- The character that the mark stands for, if it is plain. -/
def char? : Mark → Option Char
  | plain c => some c
  | letter _ => none

/-- The marks may stand in one run. -/
def joins : Mark → Mark → Bool
  | plain _, plain _ => true
  | letter a, letter b => a = b
  | _, _ => false

/-- The run is one of plain characters. -/
def isPlainRun (run : List Mark) : Bool := run.head?.any fun m => m.char?.isSome

/-- The run is one of a field letter. -/
def isLetterRun (run : List Mark) : Bool := run.head?.any fun m => m.char?.isNone

end Mark

namespace Format

/-- The maximal runs of marks. -/
def runs (marks : List Mark) : List (List Mark) := marks.splitBy Mark.joins

/-- The token of a run before the later runs: a literal of the plain characters, or a field as wide
as the run, fixed if the next run is one of plain characters and some later run one of a letter. -/
def tokenOfRun (run : List Mark) (later : List (List Mark)) : Option Token :=
  match run with
  | [] => none
  | .plain _ :: _ => some (.literal (run.filterMap Mark.char?))
  | .letter specifier :: _ =>
    some (.field ⟨specifier, run.length,
      later.head?.any Mark.isPlainRun && later.any Mark.isLetterRun⟩)

/-- The tokens of runs. -/
def tokensOfRuns : List (List Mark) → List Token
  | [] => []
  | run :: later => (tokenOfRun run later).toList ++ tokensOfRuns later

/-! ## Tokens tell their marks -/

/-- A mark that is put before tokens comes before their marks. -/
theorem marks_putMark (m : Mark) (tokens : List Token) :
    (putMark m tokens).flatMap Token.marks = m :: tokens.flatMap Token.marks := by
  cases m with
  | plain c =>
    cases apart : opensLiteral tokens with
    | false =>
      rw [putMark_plain c apart]
      rfl
    | true =>
      obtain ⟨text, rest, rfl⟩ := of_opensLiteral apart
      rfl
  | letter specifier =>
    cases apart : opensField specifier tokens with
    | false =>
      rw [putMark_letter specifier apart]
      rfl
    | true =>
      obtain ⟨f, rest, rfl, rfl⟩ := of_opensField apart
      rw [putMark, if_pos rfl]
      rfl

/-- The groups of marks have those marks. -/
theorem marks_group (marks : List Mark) : (group marks).flatMap Token.marks = marks := by
  induction marks with
  | nil => rfl
  | cons m marks ih =>
    have step := marks_putMark m (group marks)
    rwa [ih] at step

/-! ## The marks of a token are a maximal run -/

/-- A token that fits has marks. -/
theorem marks_ne_nil {t : Token} {rest : List Token} (fits : t.Fits rest) : t.marks ≠ [] := by
  cases t with
  | literal text => simpa [Token.marks] using fits.1
  | field f =>
    have present : f.width ≠ 0 := Nat.pos_iff_ne_zero.mp fits.1
    simpa [Token.marks] using present

/-- The marks of one token may stand in one run. -/
theorem joins_of_mem_marks {t : Token} {a b : Mark} (first : a ∈ t.marks) (second : b ∈ t.marks) :
    a.joins b = true := by
  cases t with
  | literal text =>
    obtain ⟨c, -, rfl⟩ := List.mem_map.mp first
    obtain ⟨d, -, rfl⟩ := List.mem_map.mp second
    rfl
  | field f =>
    rw [(List.mem_replicate.mp first).2, (List.mem_replicate.mp second).2]
    exact decide_eq_true rfl

/-- The marks of two tokens that fit may not stand in one run. -/
theorem not_joins_of_fits {t next : Token} {rest : List Token} (fits : t.Fits (next :: rest))
    {a b : Mark} (first : a ∈ t.marks) (second : b ∈ next.marks) : a.joins b = false := by
  cases t with
  | literal text =>
    obtain ⟨c, -, rfl⟩ := List.mem_map.mp first
    cases next with
    | literal other => cases fits.2
    | field g =>
      rw [(List.mem_replicate.mp second).2]
      rfl
  | field f =>
    rw [(List.mem_replicate.mp first).2]
    cases next with
    | literal text =>
      obtain ⟨c, -, rfl⟩ := List.mem_map.mp second
      rfl
    | field g =>
      rw [(List.mem_replicate.mp second).2]
      have other : g.specifier ≠ f.specifier := by simpa [opensField] using fits.2.1
      exact decide_eq_false other.symm

/-- Where tokens fit, the last mark of one and the first of the next do not stand in one run. -/
theorem isChain_marks {tokens : List Token} (formed : Formed tokens) :
    (tokens.map Token.marks).IsChain fun run next =>
      ∃ last first, (run.getLast last).joins (next.head first) = false := by
  induction tokens with
  | nil => exact .nil
  | cons t tokens ih =>
    cases tokens with
    | nil => exact .singleton _
    | cons next tokens =>
      refine List.isChain_cons_cons.mpr ⟨⟨marks_ne_nil formed.1, marks_ne_nil formed.2.1, ?_⟩,
        ih formed.2⟩
      exact not_joins_of_fits formed.1 (List.getLast_mem _) (List.head_mem _)

/-- **The marks of tokens that fit are cut into those of each token.** -/
theorem runs_marks {tokens : List Token} (formed : Formed tokens) :
    runs (tokens.flatMap Token.marks) = tokens.map Token.marks := by
  rw [runs, List.flatMap_def]
  refine List.splitBy_flatten ?_ ?_ (isChain_marks formed)
  · intro empty
    obtain ⟨t, mem, none⟩ := List.mem_map.mp empty
    obtain ⟨before, rest, rfl⟩ := List.append_of_mem mem
    exact marks_ne_nil formed.of_append.1 none
  · intro run mem
    obtain ⟨t, -, rfl⟩ := List.mem_map.mp mem
    exact (List.pairwise_of_forall_mem_list fun _ first _ second =>
      joins_of_mem_marks first second).isChain

/-! ## Runs become the tokens -/

/-- The marks of a literal are a run of plain characters. -/
theorem isRun_literal {text : List Char} (present : text ≠ []) :
    Mark.isPlainRun (Token.literal text).marks = true ∧
      Mark.isLetterRun (Token.literal text).marks = false := by
  cases text with
  | nil => exact absurd rfl present
  | cons c rest => exact ⟨rfl, rfl⟩

/-- The marks of a field are a run of its letter. -/
theorem isRun_field {f : Field} (present : 1 ≤ f.width) :
    Mark.isPlainRun (Token.field f).marks = false ∧
      Mark.isLetterRun (Token.field f).marks = true := by
  obtain ⟨specifier, width, fixed⟩ := f
  cases width with
  | zero => cases present
  | succ width => exact ⟨rfl, rfl⟩

/-- Tokens fix the width of a field before them exactly if their first run is one of plain
characters and some run is one of a letter. -/
theorem anchors_eq {tokens : List Token} (formed : Formed tokens) :
    anchors tokens = ((tokens.map Token.marks).head?.any Mark.isPlainRun &&
      (tokens.map Token.marks).any Mark.isLetterRun) := by
  cases tokens with
  | nil => rfl
  | cons t tokens =>
    cases t with
    | field f =>
      have run := (isRun_field formed.1.1).1
      simp only [anchors, List.map_cons, List.head?_cons, Option.any_some, run, Bool.false_and]
    | literal text =>
      obtain ⟨plain, noLetter⟩ := isRun_literal formed.1.1
      simp only [List.map_cons, List.head?_cons, Option.any_some, plain, Bool.true_and,
        List.any_cons, noLetter, Bool.false_or]
      cases tokens with
      | nil => rfl
      | cons next tokens =>
        cases next with
        | literal other => cases formed.1.2
        | field g =>
          have run := (isRun_field formed.2.1.1).2
          simp only [anchors, List.map_cons, List.any_cons, run, Bool.true_or]

/-- The run of a token that fits becomes the token. -/
theorem tokenOfRun_marks {t : Token} {tokens : List Token} (formed : Formed (t :: tokens)) :
    tokenOfRun t.marks (tokens.map Token.marks) = some t := by
  cases t with
  | literal text =>
    cases text with
    | nil => exact absurd rfl formed.1.1
    | cons c rest =>
      have chars : ((c :: rest).map Mark.plain).filterMap Mark.char? = c :: rest := by
        rw [List.filterMap_map]
        exact List.filterMap_some
      exact congrArg (some ∘ Token.literal) chars
  | field f =>
    obtain ⟨⟨present, -, fixed⟩, others⟩ := formed
    obtain ⟨specifier, width, isFixed⟩ := f
    dsimp only at fixed present
    rw [fixed, anchors_eq others]
    cases width with
    | zero => cases present
    | succ width =>
      have length : (List.replicate (width + 1) (Mark.letter specifier)).length = width + 1 :=
        List.length_replicate
      simp only [Token.marks, List.replicate_succ, tokenOfRun] at length ⊢
      rw [length]

/-- **The runs of the marks of tokens that fit become the tokens.** -/
theorem tokensOfRuns_runs {tokens : List Token} (formed : Formed tokens) :
    tokensOfRuns (runs (tokens.flatMap Token.marks)) = tokens := by
  rw [runs_marks formed]
  induction tokens with
  | nil => rfl
  | cons t tokens ih =>
    rw [List.map_cons, tokensOfRuns, tokenOfRun_marks formed, ih formed.2]
    rfl

/-- **Compilation in one pass equals compilation in two.** A pattern that is not empty is compiled
into the tokens of the maximal runs of its marks. So two patterns are compiled into the same tokens
exactly if they have the same marks. -/
theorem compile_eq_tokensOfRuns {pattern : String} (present : pattern ≠ "") :
    (∃ f, compile pattern = .ok f ∧ f.tokens = tokensOfRuns (runs (marked pattern.toList))) ∧
    ∀ other : String, other ≠ "" → ∃ f g, compile pattern = .ok f ∧ compile other = .ok g ∧
      (f.tokens = g.tokens ↔ marked pattern.toList = marked other.toList) := by
  have runs_group (marks : List Mark) : tokensOfRuns (runs marks) = group marks := by
    have back := tokensOfRuns_runs (formed_group marks)
    rwa [marks_group] at back
  refine ⟨⟨_, compile_eq_group present, (runs_group _).symm⟩, fun other presentToo => ?_⟩
  refine ⟨_, _, compile_eq_group present, compile_eq_group presentToo, ?_, ?_⟩
  · intro same
    have marks := congrArg (List.flatMap Token.marks) same
    rwa [marks_group, marks_group] at marks
  · intro same
    exact congrArg group same

/-- A month of two digits and a day, with a hyphen between them, escaped or not. -/
theorem compile_eq_tokensOfRuns_hyphen :
    "mm\\-d" ≠ "" ∧ ∃ f g, compile "mm\\-d" = .ok f ∧ compile "mm-d" = .ok g ∧
      f.tokens = g.tokens ∧
      f.tokens = [.field ⟨.month, 2, true⟩, .literal ['-'], .field ⟨.day, 1, false⟩] := by
  have present : "mm\\-d" ≠ "" := by decide
  obtain ⟨⟨f, compiled, tokens⟩, alike⟩ := compile_eq_tokensOfRuns present
  obtain ⟨f', g, again, other, same⟩ := alike "mm-d" (by decide)
  obtain rfl : f = f' := Except.ok.inj (compiled.symm.trans again)
  refine ⟨present, f, g, compiled, other, same.mpr (by decide), ?_⟩
  rw [tokens]
  decide

end Format

end PeriodText
