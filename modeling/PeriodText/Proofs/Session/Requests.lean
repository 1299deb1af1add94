import PeriodText.Session

/-!
# The answers of requests

A request is run in a session and leaves a session. What a request with a compiled format answers
is what the functions without a session answer, for the locale that the session has for the
request's argument; and all that it leaves behind is notices, which no answer depends on.
-/

set_option autoImplicit false

namespace PeriodText

/-- What the request answers in a session. -/
def Request.answer {α : Type} (request : Request α) (s : Session) : Except Error α :=
  (request.run s).1

namespace Session

variable (s : Session) (argument : LocaleArgument)

/-- The session after asking for the locale of an argument a number of times. -/
def asked (times : Nat) : Session := s.noted (s.localeNotices argument times)

/-- Asking for a locale does not change the locales. -/
theorem locale_asked (times : Nat) (other : LocaleArgument) :
    (s.asked argument times).locale other = s.locale other := rfl

end Session

namespace Request

variable {α β : Type}

/-! ## One request after another -/

/-- A request after one that is answered is run in the session that the first leaves. -/
theorem run_bind_ok {request : Request α} {next : α → Request β} {s t : Session} {a : α}
    (first : request.run s = (.ok a, t)) : (request >>= next).run s = (next a).run t := by
  have sequence : (request >>= next).run s =
      (ExceptT.bindCont next (request.run s).1) (request.run s).2 := rfl
  rw [sequence, first]
  rfl

/-- A request that fails is the last one. -/
theorem run_bind_error {request : Request α} {next : α → Request β} {s t : Session} {e : Error}
    (first : request.run s = (.error e, t)) : (request >>= next).run s = (.error e, t) := by
  have sequence : (request >>= next).run s =
      (ExceptT.bindCont next (request.run s).1) (request.run s).2 := rfl
  rw [sequence, first]
  rfl

/-- After a request that is answered, the next one answers. -/
theorem answer_bind_ok {request : Request α} {next : α → Request β} {s t : Session} {a : α}
    (first : request.run s = (.ok a, t)) : (request >>= next).answer s = (next a).answer t :=
  congrArg Prod.fst (run_bind_ok first)

/-- After a request that is refused, there is no other answer. -/
theorem answer_bind_error {request : Request α} {next : α → Request β} {s : Session} {e : Error}
    (refused : request.answer s = .error e) : (request >>= next).answer s = .error e := by
  cases first : request.run s with
  | mk answer t =>
    rw [Request.answer, first] at refused
    obtain rfl : answer = .error e := refused
    exact congrArg Prod.fst (run_bind_error first)

/-- A request that may fail, attempted, does not. -/
theorem run_attempt (request : Request α) (s : Session) :
    (attempt request).run s = (.ok (request.run s).1, (request.run s).2) := rfl

/-! ## Locales -/

theorem run_locale (argument : LocaleArgument) (s : Session) :
    (locale argument).run s = (s.locale argument, s.asked argument 1) := rfl

theorem run_defaultLocaleName (s : Session) : defaultLocaleName.run s =
    (.ok (s.registry.defaultName s.environment), s.asked .default 1) := rfl

/-! ## Requests with a compiled format -/

variable (f : Format) (v : Value) (argument : LocaleArgument) (s : Session)

theorem run_render : (render f v argument).run s =
    (f.render (s.locale argument) v,
      s.asked argument (f.queriesToRender (s.locale argument) v)) := rfl

theorem run_formatValue : (formatValue v (.compiled f) argument).run s =
    (f.render (s.locale argument) v,
      s.asked argument (f.queriesToRender (s.locale argument) v)) := run_render f v argument s

theorem run_readFields (text : String) : (readFields f text argument).run s =
    (f.read (s.locale argument) text,
      s.asked argument (f.queriesToRead (s.locale argument) text)) := rfl

theorem run_parse (kind : Option Kind) (text : String) : (parse f kind text argument).run s =
    (f.parse (s.locale argument) kind text,
      s.asked argument (f.queriesToRead (s.locale argument) text)) := by
  unfold parse Format.parse
  cases answer : f.read (s.locale argument) text with
  | error e =>
    refine run_bind_error ?_
    rw [run_readFields, answer]
  | ok values =>
    refine (run_bind_ok ?_).trans rfl
    rw [run_readFields, answer]

/-- Reading a text as a period of a kind is reading it with the kind that the argument gives. -/
theorem run_parsePeriod {kind : KindArgument} {target : Option Kind}
    (resolved : kind.resolve = .ok target) (text : String) :
    (parsePeriod (.text text) (.compiled f) kind argument).run s =
      (f.parse (s.locale argument) target text,
        s.asked argument (f.queriesToRead (s.locale argument) text)) := by
  have first : (ofExcept kind.resolve).run s = (.ok target, s) := by
    rw [resolved]
    rfl
  exact (run_bind_ok first).trans (run_parse f argument s target text)

theorem answer_formatValue :
    (formatValue v (.compiled f) argument).answer s = f.render (s.locale argument) v :=
  congrArg Prod.fst (run_formatValue f v argument s)

theorem answer_parsePeriod {kind : KindArgument} {target : Option Kind}
    (resolved : kind.resolve = .ok target) (text : String) :
    (parsePeriod (.text text) (.compiled f) kind argument).answer s =
      f.parse (s.locale argument) target text :=
  congrArg Prod.fst (run_parsePeriod f argument s resolved text)

/-- A text is read as a period if the kind is one and the text is read in the format. -/
theorem answer_parsePeriod_eq_ok {kind : KindArgument} {text : String} {r : Resolved} :
    (parsePeriod (.text text) (.compiled f) kind argument).answer s = .ok r ↔
      ∃ target, kind.resolve = .ok target ∧ f.parse (s.locale argument) target text = .ok r := by
  cases asked : kind.resolve with
  | ok target =>
    rw [answer_parsePeriod f argument s asked]
    simp
  | error e =>
    have refused : (ofExcept kind.resolve).run s = (.error e, s) := by
      rw [asked]
      rfl
    have failed : (ofExcept kind.resolve >>= fun target => parse f target text argument).run s =
        (.error e, s) := run_bind_error refused
    have whole : (parsePeriod (.text text) (.compiled f) kind argument).answer s = .error e :=
      congrArg Prod.fst failed
    rw [whole]
    simp

/-- A value that is written comes back as what its text is read as. -/
theorem answer_roundTrip {kind : KindArgument} {target : Option Kind}
    (resolved : kind.resolve = .ok target) {text : String}
    (written : f.render (s.locale argument) v = .ok text) :
    (roundTrip v (.compiled f) kind argument).answer s =
      .ok ⟨text, f.parse (s.locale argument) target text,
        (f.parse (s.locale argument) target text).toOption.any fun r => r.toValue.equal v⟩ := by
  have first := run_formatValue f v argument s
  rw [written] at first
  unfold answer roundTrip
  rw [run_bind_ok first]
  have second := run_attempt (parsePeriod (.text text) (.compiled f) kind argument)
    (s.asked argument (f.queriesToRender (s.locale argument) v))
  rw [run_parsePeriod f argument _ resolved, Session.locale_asked] at second
  rw [run_bind_ok second]
  rfl

end Request

end PeriodText
