import PeriodText.Format

/-!
# Marked patterns

A pattern can be read without regard to tokens: each of its characters, escapes resolved, is
marked as a field letter or as a plain character. Grouping the marks then gives the tokens: equal
field letters that stand together are one field, plain characters that stand together are one
literal, and a field is fixed exactly when a literal and then a field follow.

`compileFrom_eq_group` is the agreement of the two: compilation in one pass, which holds back the
last run and the literal text after it, gives the groups of the marks. The invariant is that what
is held back stands for the marks that were read and are not yet tokens, `Scan.marks`.
-/

set_option autoImplicit false

namespace PeriodText

/-- A character of a pattern, its escapes resolved. -/
inductive Mark where
  | letter (specifier : Specifier)
  | plain (c : Char)
  deriving DecidableEq, Repr

namespace Mark

/-- The mark of a character that nothing escapes. -/
def ofChar (c : Char) : Mark :=
  match Specifier.ofLetter? c with
  | some specifier => letter specifier
  | none => plain c

end Mark

/-- The marks that a token is made of. -/
def Token.marks : Token → List Mark
  | .field f => List.replicate f.width (.letter f.specifier)
  | .literal text => text.map .plain

namespace Format

/-- The marks of a pattern. -/
def marked : List Char → List Mark
  | [] => []
  | [c] => [.ofChar c]
  | c :: d :: rest =>
    if c = Token.escape then .plain d :: marked rest else .ofChar c :: marked (d :: rest)

/-! ## Groups -/

/-- Tokens that fix the width of a field before them: a literal and then a field. -/
def anchors : List Token → Bool
  | .literal _ :: .field _ :: _ => true
  | _ => false

/-- The tokens begin with a field of the specifier. -/
def opensField (specifier : Specifier) : List Token → Bool
  | .field f :: _ => f.specifier = specifier
  | _ => false

/-- The tokens begin with a literal. -/
def opensLiteral : List Token → Bool
  | .literal _ :: _ => true
  | _ => false

/-- Tokens with a mark put before them: it joins the first token or becomes a token. -/
def putMark : Mark → List Token → List Token
  | .plain c, .literal text :: rest => .literal (c :: text) :: rest
  | .plain c, tokens => .literal [c] :: tokens
  | .letter specifier, .field f :: rest =>
    if f.specifier = specifier then .field { f with width := f.width + 1 } :: rest
    else .field ⟨specifier, 1, false⟩ :: .field f :: rest
  | .letter specifier, tokens => .field ⟨specifier, 1, anchors tokens⟩ :: tokens

/-- Tokens with some marks put before them. -/
def putMarks (marks : List Mark) (tokens : List Token) : List Token := marks.foldr putMark tokens

/-- The tokens of a list of marks. -/
def group (marks : List Mark) : List Token := putMarks marks []

/-- Tokens that begin with a literal. -/
theorem of_opensLiteral {tokens : List Token} (opens : opensLiteral tokens = true) :
    ∃ text rest, tokens = .literal text :: rest := by
  unfold opensLiteral at opens
  split at opens
  · next text rest => exact ⟨text, rest, rfl⟩
  · cases opens

/-- Tokens that begin with a field of a specifier. -/
theorem of_opensField {specifier : Specifier} {tokens : List Token}
    (opens : opensField specifier tokens = true) :
    ∃ f rest, tokens = .field f :: rest ∧ f.specifier = specifier := by
  unfold opensField at opens
  split at opens
  · next f rest => exact ⟨f, rest, rfl, of_decide_eq_true opens⟩
  · cases opens

theorem putMarks_append (marks others : List Mark) (tokens : List Token) :
    putMarks (marks ++ others) tokens = putMarks marks (putMarks others tokens) :=
  List.foldr_append

theorem group_append (marks others : List Mark) :
    group (marks ++ others) = putMarks marks (group others) := putMarks_append marks others []

/-- A plain character before tokens that begin with no literal is a literal of its own. -/
theorem putMark_plain {tokens : List Token} (c : Char) (apart : opensLiteral tokens = false) :
    putMark (.plain c) tokens = .literal [c] :: tokens := by
  cases tokens with
  | nil => rfl
  | cons t rest =>
    cases t with
    | field f => rfl
    | literal text => cases apart

/-- A field letter before tokens that begin with no field of it is a field of its own. -/
theorem putMark_letter {tokens : List Token} (specifier : Specifier)
    (apart : opensField specifier tokens = false) :
    putMark (.letter specifier) tokens = .field ⟨specifier, 1, anchors tokens⟩ :: tokens := by
  cases tokens with
  | nil => rfl
  | cons t rest =>
    cases t with
    | field f =>
      have other : f.specifier ≠ specifier := by simpa [opensField] using apart
      simp only [putMark, if_neg other, anchors]
    | literal text => rfl

/-- A literal's marks before tokens that begin with no literal are that literal. -/
theorem putMarks_literal {text : List Char} {tokens : List Token} (present : text ≠ [])
    (apart : opensLiteral tokens = false) :
    putMarks (Token.literal text).marks tokens = .literal text :: tokens := by
  induction text with
  | nil => exact absurd rfl present
  | cons c rest ih =>
    cases rest with
    | nil => exact putMark_plain c apart
    | cons d rest =>
      have others := ih (by simp)
      simp only [Token.marks, putMarks, List.map_cons, List.foldr_cons] at others ⊢
      rw [others, putMark]

/-- The marks of a run before tokens that begin with no field of its letter are one field, fixed
if the tokens anchor it. -/
theorem putMarks_run {specifier : Specifier} {width : Nat} {tokens : List Token}
    (present : 1 ≤ width) (apart : opensField specifier tokens = false) :
    putMarks (List.replicate width (.letter specifier)) tokens =
      .field ⟨specifier, width, anchors tokens⟩ :: tokens := by
  induction width with
  | zero => omega
  | succ width ih =>
    cases width with
    | zero => exact putMark_letter specifier apart
    | succ width =>
      have others := ih (by omega)
      simp only [putMarks, List.replicate_succ, List.foldr_cons] at others ⊢
      rw [others, putMark, if_pos rfl]

/-- Marks that begin with a field letter begin a field of it. -/
theorem group_letter (specifier : Specifier) (marks : List Mark) :
    ∃ f rest, group (.letter specifier :: marks) = .field f :: rest ∧
      f.specifier = specifier := by
  show ∃ f rest, putMark (.letter specifier) (group marks) = .field f :: rest ∧ _
  cases apart : opensField specifier (group marks) with
  | false => exact ⟨_, _, putMark_letter specifier apart, rfl⟩
  | true =>
    obtain ⟨f, rest, tokens, same⟩ := of_opensField apart
    rw [tokens, putMark, if_pos same]
    exact ⟨_, rest, rfl, same⟩

/-! ## The single pass -/

namespace Scan

/-- The marks that the state of a scan stands for. -/
def marks (s : Scan) : List Mark :=
  (match s.pending with
    | some run => List.replicate run.width (.letter run.specifier)
    | none => []) ++ s.literal.map .plain

/-- The pending run is not empty. -/
def IsProper (s : Scan) : Prop := ∀ run, s.pending = some run → 1 ≤ run.width

/-- Read a mark. -/
def takeMark (s : Scan) : Mark → List Token × Scan
  | .letter specifier => s.takeLetter specifier
  | .plain c => ([], s.takeLiteral c)

/-- A character that nothing escapes is read as its mark. -/
theorem take_eq_takeMark (s : Scan) (pattern : String) (position : Nat) (c : Char) :
    s.take [] pattern position c = .ok (s.takeMark (.ofChar c)) := by
  unfold take Mark.ofChar
  cases Specifier.ofLetter? c <;> rfl

/-- The marks of a state before tokens that begin with no literal are the flushed state, its field
fixed if literal text and then a field follow it. -/
theorem putMarks_marks {s : Scan} (proper : s.IsProper) (tokens : List Token)
    (noLiteral : opensLiteral tokens = false)
    (noField : s.literal = [] → ∀ run, s.pending = some run →
      opensField run.specifier tokens = false) :
    putMarks s.marks tokens =
      s.flush (!s.literal.isEmpty && anchors (.literal [] :: tokens)) ++ tokens := by
  obtain ⟨pending, literal⟩ := s
  rw [marks, putMarks_append]
  cases literal with
  | nil =>
    cases pending with
    | none => rfl
    | some run =>
      have unanchored : anchors tokens = false := by
        cases tokens with
        | nil => rfl
        | cons t rest =>
          cases t with
          | field f => rfl
          | literal text => cases noLiteral
      simp only [List.map_nil, putMarks, List.foldr_nil]
      exact (putMarks_run (proper run rfl) (noField rfl run rfl)).trans (by
        simp only [unanchored, flush, List.isEmpty_nil, Bool.not_true, Bool.false_and, if_true,
          List.append_nil, List.cons_append, List.nil_append])
  | cons c rest =>
    have body :
        putMarks (Token.literal (c :: rest)).marks tokens = .literal (c :: rest) :: tokens :=
      putMarks_literal (List.cons_ne_nil c rest) noLiteral
    rw [Token.marks] at body
    simp only [body]
    cases pending with
    | none => rfl
    | some run =>
      refine (putMarks_run (proper run rfl) rfl).trans ?_
      cases tokens with
      | nil => rfl
      | cons t others => cases t <;> rfl

/-- A state is flushed into the groups of its marks at the end of a pattern. -/
theorem group_marks {s : Scan} (proper : s.IsProper) : group s.marks = s.flush false := by
  have flushed := putMarks_marks proper [] rfl (fun _ _ _ => rfl)
  have unanchored : anchors [.literal []] = false := rfl
  rw [group, flushed, unanchored, Bool.and_false, List.append_nil]

/-- A field letter that does not widen the pending run flushes the state. -/
theorem group_marks_letter {s : Scan} (proper : s.IsProper) (specifier : Specifier)
    (marks : List Mark)
    (other : s.literal = [] → ∀ run, s.pending = some run → run.specifier ≠ specifier) :
    group (s.marks ++ .letter specifier :: marks) =
      s.flush (!s.literal.isEmpty) ++ group (.letter specifier :: marks) := by
  obtain ⟨f, rest, first, same⟩ := group_letter specifier marks
  rw [group_append, first]
  have noField : s.literal = [] → ∀ run, s.pending = some run →
      opensField run.specifier (.field f :: rest) = false := by
    intro none run pending
    have distinct := other none run pending
    simpa [opensField, same] using fun h => distinct h.symm
  have flushed := putMarks_marks proper (.field f :: rest) rfl noField
  simpa only [anchors, Bool.and_true] using flushed

/-- All that reading a field letter can do: widen the pending run that it directly follows, or
flush the state and begin a run. -/
theorem takeLetter_cases (s : Scan) (specifier : Specifier) :
    (∃ run, s = { pending := some run } ∧ run.specifier = specifier ∧
      s.takeLetter specifier = ([], { pending := some { run with width := run.width + 1 } })) ∨
    ((s.literal = [] → ∀ run, s.pending = some run → run.specifier ≠ specifier) ∧
      s.takeLetter specifier =
        (s.flush (!s.literal.isEmpty), { pending := some ⟨specifier, 1⟩ })) := by
  obtain ⟨pending, literal⟩ := s
  cases literal with
  | nil =>
    cases pending with
    | none => exact .inr ⟨fun _ _ pending => (nomatch pending), rfl⟩
    | some run =>
      by_cases same : run.specifier = specifier
      · exact .inl ⟨run, rfl, same, if_pos same⟩
      · exact .inr ⟨by rintro - _ ⟨⟩; exact same, if_neg same⟩
  | cons c rest => exact .inr ⟨fun empty => (nomatch empty), by cases pending <;> rfl⟩

/-- Reading a mark keeps the pending run from being empty. -/
theorem IsProper.takeMark {s : Scan} (proper : s.IsProper) (m : Mark) :
    (s.takeMark m).2.IsProper := by
  cases m with
  | plain c => exact proper
  | letter specifier =>
    intro run pending
    rcases s.takeLetter_cases specifier with ⟨before, _, _, step⟩ | ⟨_, step⟩
    · simp only [Scan.takeMark, step, Option.some.injEq] at pending
      subst pending
      exact Nat.le_add_left 1 _
    · simp only [Scan.takeMark, step, Option.some.injEq] at pending
      subst pending
      exact Nat.le_refl 1

/-- **One step of the scan**: the tokens it gives, before the groups of what it holds back and of
the marks still to come, are the groups of what it held back before, of its mark and of those. -/
theorem takeMark_group {s : Scan} (proper : s.IsProper) (m : Mark) (marks : List Mark) :
    (s.takeMark m).1 ++ group ((s.takeMark m).2.marks ++ marks) =
      group (s.marks ++ m :: marks) := by
  cases m with
  | plain c =>
    simp only [takeMark, takeLiteral, Scan.marks, List.map_append, List.map_cons, List.map_nil,
      List.append_assoc, List.cons_append, List.nil_append]
  | letter specifier =>
    rcases s.takeLetter_cases specifier with ⟨run, rfl, same, step⟩ | ⟨other, step⟩
    · simp only [takeMark, step, List.nil_append, Scan.marks, List.map_nil, List.append_nil,
        List.replicate_succ', List.append_assoc, List.singleton_append, same]
    · have flushed := group_marks_letter proper specifier marks other
      simp only [takeMark, step]
      exact flushed.symm

end Scan

/-- **The single pass gives the groups of the marks**: of those that the state holds back, and of
those of the text that is left. -/
theorem compileFrom_eq_group (pattern : String) (position : Nat) {s : Scan} (proper : s.IsProper)
    (text : List Char) :
    compileFrom [] pattern position s text = .ok (group (s.marks ++ marked text)) := by
  induction text using marked.induct generalizing position s with
  | case1 =>
    rw [compileFrom, marked, List.append_nil, Scan.group_marks proper]
  | case2 c =>
    have flushed := Scan.group_marks (proper.takeMark (.ofChar c))
    have step := Scan.takeMark_group proper (.ofChar c) []
    rw [List.append_nil, flushed] at step
    rw [compileFrom, Scan.take_eq_takeMark]
    exact congrArg Except.ok step
  | case3 d rest ih =>
    have step := Scan.takeMark_group proper (.plain d) (marked rest)
    rw [compileFrom, if_pos rfl, marked, if_pos rfl, ← step]
    exact ih (position + 2) (proper.takeMark (.plain d))
  | case4 c d rest plain ih =>
    have step := Scan.takeMark_group proper (.ofChar c) (marked (d :: rest))
    rw [compileFrom, if_neg plain, Scan.take_eq_takeMark, marked, if_neg plain, ← step]
    change (do
      let others ← compileFrom [] pattern (position + 1) (s.takeMark (.ofChar c)).2 (d :: rest)
      return (s.takeMark (.ofChar c)).1 ++ others) = _
    rw [ih (position + 1) (proper.takeMark _)]
    rfl

/-- Every pattern but the empty one is compiled, into the groups of its marks. -/
theorem compile_eq_group {pattern : String} (present : pattern ≠ "") :
    compile pattern = .ok ⟨pattern, group (marked pattern.toList)⟩ := by
  have start : ({} : Scan).IsProper := by rintro _ ⟨⟩
  have tokens := compileFrom_eq_group pattern 0 start pattern.toList
  rw [compile, compileWith, if_neg present, tokens]
  rfl

/-- A format that is compiled has a pattern, and its tokens are the groups of the marks. -/
theorem tokens_of_compile {pattern : String} {f : Format} (compiled : compile pattern = .ok f) :
    pattern ≠ "" ∧ f.pattern = pattern ∧ f.tokens = group (marked pattern.toList) := by
  by_cases empty : pattern = ""
  · simp [compile, compileWith, empty] at compiled
  · rw [compile_eq_group empty] at compiled
    cases compiled
    exact ⟨empty, rfl, rfl⟩

/-- Every pattern but the empty one is compiled. -/
theorem exists_compile {pattern : String} : (∃ f, compile pattern = .ok f) ↔ pattern ≠ "" := by
  constructor
  · rintro ⟨f, compiled⟩
    exact (tokens_of_compile compiled).1
  · intro present
    exact ⟨_, compile_eq_group present⟩

end Format

end PeriodText
