import PeriodText.Proofs.Session.Refinement

/-!
# Registered locales in a session

What questions about locales are answered after any steps of a session: operations of every kind,
and questions, in any order. The locales known by then are the built-in ones and those that were
registered, in that order, and the registry is the one of these put one after another
(`Session.registry_through`). So a name stands for the last known locale of it, and a name that no
known locale has stands for none; the default is a known name at all times.

A locale that cannot be registered leaves no trace, and one that can be touches the questions about
its own name alone: `Session.locales_known`.
-/

set_option autoImplicit false

namespace PeriodText

/-! ## Questions -/

/-- A question about locales. -/
inductive LocaleQuestion where
  | locale (argument : LocaleArgument)
  | names
  | defaultName
  | monthName (style : NameStyle) (month : Int) (argument : LocaleArgument)
  | readMonth (style : NameStyle) (word : Datum) (argument : LocaleArgument)

/-- What a question about locales is answered. -/
inductive LocaleReply where
  | locale (l : Locale)
  | names (names : List String)
  | name (name : String)
  | month (month : Nat)

namespace LocaleQuestion

/-- The question as a request to a session. -/
def request : LocaleQuestion → Request LocaleReply
  | locale argument => do
    let l ← Request.locale argument
    return .locale l
  | names => do
    let s ← get
    return .names s.registry.names
  | defaultName => do
    let name ← Request.defaultLocaleName
    return .name name
  | monthName style month argument => do
    let name ← Request.monthName style month argument
    return .name name
  | readMonth style word argument => do
    let month ← Request.readMonth style word argument
    return .month month

/-- What the question is answered, as a function of the locales. -/
def reply (e : Locales) : LocaleQuestion → Except Error LocaleReply
  | locale argument => (e.get argument).map LocaleReply.locale
  | names => .ok (.names e.registry.names)
  | defaultName => .ok (.name (e.registry.defaultName e.environment))
  | monthName style month argument =>
    (e.get argument >>= fun l => l.monthName style month).map LocaleReply.name
  | readMonth style word argument =>
    (e.get argument >>= fun l => Locale.nameOf word >>= fun name =>
      l.readMonth style name.toList none).map LocaleReply.month

/-- What the question names the locale by that it asks about. -/
def argument? : LocaleQuestion → Option LocaleArgument
  | locale argument => some argument
  | monthName _ _ argument => some argument
  | readMonth _ _ argument => some argument
  | names => none
  | defaultName => none

/-- The answers are the same, or in both the name is unknown. Such an error lists the names that
are known, so it is not the same error. -/
def SameAnswer (name : String) (a b : Except Error LocaleReply) : Prop :=
  a = b ∨ ∃ names others,
    a = .error (.unknownLocale name names) ∧ b = .error (.unknownLocale name others)

variable {P : RecentMap String Format → Prop}

/-- **A question computes its reply**, and leaves the locales as they are. -/
theorem computes_request (q : LocaleQuestion) : Request.Computes P q.request fun e => q.reply e := by
  have known (argument : LocaleArgument) :
      Request.Computes P (Request.locale argument) fun e => e.get argument :=
    fun s held => ⟨_, Request.run_locale argument s, rfl, held⟩
  cases q with
  | locale argument => exact (known argument).map LocaleReply.locale
  | names => exact fun s held => ⟨s, rfl, rfl, held⟩
  | defaultName => exact fun s held => ⟨_, rfl, rfl, held⟩
  | monthName style month argument =>
    exact ((known argument).bind fun l => Request.computes_ofExcept _).map LocaleReply.name
  | readMonth style word argument =>
    refine ((known argument).bind fun l => ?_).map LocaleReply.month
    exact (Request.computes_ofExcept _).bind fun name => Request.computes_ofExcept _

/-- In any session a question is answered by the locales. -/
theorem answer_eq (q : LocaleQuestion) (s : Session) :
    q.request.answer s = q.reply s.locales :=
  (q.computes_request (P := fun _ => True)).answer_eq trivial

/-- A question about a name is answered by what the name stands for. -/
theorem sameAnswer_of_find? {q : LocaleQuestion} {name : String} {e e' : Locales}
    (asks : q.argument? = some (.named name))
    (same : e'.registry.find? name = e.registry.find? name) :
    SameAnswer name (q.reply e') (q.reply e) := by
  have get (e : Locales) : e.get (.named name) = e.registry.get name := rfl
  cases q with
  | names | defaultName => cases asks
  | locale | monthName | readMonth =>
    cases asks
    simp only [reply, get, Registry.get, same]
    cases e.registry.find? name with
    | some l => exact .inl rfl
    | none => exact .inr ⟨_, _, rfl, rfl⟩

end LocaleQuestion

/-! ## Steps -/

/-- A step of a session. -/
inductive Step where
  | operation (op : Operation)
  | question (q : LocaleQuestion)

namespace Step

/-- The operation that the step is, if it is one. -/
def operation? : Step → Option Operation
  | operation op => some op
  | question _ => none

/-- The locale that the step registers, if it does. -/
def registered? : Step → Option Locale
  | operation (.registerLocale name months abbreviations) =>
    (Locale.ofData name months abbreviations).toOption
  | _ => none

/-- The name that the environment asks for after the step. -/
def environment (before : Option String) : Step → Option String
  | operation (.setEnvironment name) => name
  | _ => before

end Step

/-- The session after steps. -/
def Session.through (s : Session) : List Step → Session
  | [] => s
  | .operation op :: steps => through (op.request.run s).2 steps
  | .question q :: steps => through (q.request.run s).2 steps

/-- The built-in locales and those that steps have registered, the last one last. -/
def Locale.known (steps : List Step) : List Locale :=
  [Locale.english, Locale.french, Locale.german, Locale.spanish] ++ steps.filterMap Step.registered?

/-- A locale made from data has the name it is given. -/
theorem Locale.name_of_ofData {name : String} {months abbreviations : Datum} {l : Locale}
    (made : Locale.ofData name months abbreviations = .ok l) : l.name = name := by
  obtain ⟨monthItems, -, made⟩ := bind_eq_ok.mp made
  obtain ⟨abbreviationItems, -, made⟩ := bind_eq_ok.mp made
  dsimp only at made
  split at made
  · cases made
  · obtain ⟨monthNames, -, made⟩ := bind_eq_ok.mp made
    obtain ⟨abbreviationNames, -, made⟩ := bind_eq_ok.mp made
    unfold ofNames at made
    split at made
    · cases made
      rfl
    · cases made

/-- The built-in locales are the ones put first. -/
theorem Registry.builtin_eq :
    builtin = ofLocales [Locale.english, Locale.french, Locale.german, Locale.spanish] := by
  decide +kernel

namespace Session

/-- Questions leave the locales to the operations. -/
theorem locales_through (steps : List Step) {s : Session}
    (faithful : s.cache.Faithful Format.compile) :
    (s.through steps).locales = s.locales.after (steps.filterMap Step.operation?) ∧
      (s.through steps).cache.Faithful Format.compile := by
  induction steps generalizing s with
  | nil => exact ⟨rfl, faithful⟩
  | cons step steps ih =>
    cases step with
    | operation op =>
      obtain ⟨t, run, moved, still⟩ := op.refines_step faithful
      have later := ih still
      rw [moved] at later
      rw [through, run]
      exact later
    | question q =>
      obtain ⟨t, run, kept, still⟩ := q.computes_request s faithful
      have later := ih still
      rw [kept] at later
      rw [through, run]
      exact later

end Session

/-- **The locales after steps**: those that were registered are put one after another, and the
environment asks for what it was last set to. -/
theorem Locales.after_steps (steps : List Step) (e : Locales) :
    (e.after (steps.filterMap Step.operation?)).registry =
        (steps.filterMap Step.registered?).foldl (fun r l => r.put l) e.registry ∧
      (e.after (steps.filterMap Step.operation?)).environment =
        steps.foldl Step.environment e.environment := by
  induction steps generalizing e with
  | nil => exact ⟨rfl, rfl⟩
  | cons step steps ih =>
    cases step with
    | question q => exact ih e
    | operation op =>
      cases op with
      | registerLocale name months abbreviations =>
        have later := ih ((Operation.registerLocale name months abbreviations).next e)
        revert later
        simp only [Operation.next, List.filterMap_cons, Step.operation?, Step.registered?,
          List.foldl_cons, Step.environment, Locales.after]
        cases Locale.ofData name months abbreviations with
        | error failure => exact id
        | ok l => exact id
      | setEnvironment name => exact ih ⟨name, e.registry⟩
      | getFormat | clearCache | formatPeriod | parsePeriod | formatSeries | parseSeries =>
        exact ih e

/-- **The registry of a session** is the one of the known locales, put one after another. -/
theorem Session.registry_through (environment : Option String) (steps : List Step) :
    let s : Session := Session.through { environment } steps
    s.registry = Registry.ofLocales (Locale.known steps) ∧
      s.environment = steps.foldl Step.environment environment ∧
      s.cache.Faithful Format.compile := by
  intro s
  have fresh : ({ environment } : Session).cache.Faithful Format.compile :=
    RecentMap.faithful_empty _
  obtain ⟨locales, faithful⟩ := locales_through steps fresh
  obtain ⟨registry, asked⟩ := Locales.after_steps steps ({ environment } : Session).locales
  rw [← locales] at registry asked
  refine ⟨?_, asked, faithful⟩
  have builtin : ({ environment } : Session).locales.registry = Registry.builtin := rfl
  rw [builtin, Registry.builtin_eq] at registry
  rw [Locale.known, Registry.ofLocales, List.foldl_append]
  exact registry

/-! ## One registration -/

/-- **Registering a locale** fails and leaves the session as it is, or puts a locale of the name into
the registry. -/
theorem Operation.registerLocale_cases (name : String) (months abbreviations : Datum)
    (s : Session) :
    let registration := Operation.registerLocale name months abbreviations
    (∃ e, registration.request.run s = (.error e, s)) ∨
      ∃ l, l.name = name ∧ registration.request.answer s = .ok (.locale l) ∧
        (registration.request.run s).2.locales = ⟨s.environment, s.registry.put l⟩ := by
  simp only [Operation.request, Request.registerLocale, Request.answer]
  cases made : Locale.ofData name months abbreviations with
  | error e => exact .inl ⟨e, rfl⟩
  | ok l => exact .inr ⟨l, Locale.name_of_ofData made, rfl, rfl⟩

/-- A registration touches the questions about its own name alone. -/
theorem Operation.sameAnswer_registerLocale {name : String} (months abbreviations : Datum)
    (s : Session) {q : LocaleQuestion} {other : String}
    (asks : q.argument? = some (.named other)) (apart : other ≠ name) :
    LocaleQuestion.SameAnswer other
      (q.request.answer ((Operation.registerLocale name months abbreviations).request.run s).2)
      (q.request.answer s) := by
  rcases Operation.registerLocale_cases name months abbreviations s with
    ⟨e, failed⟩ | ⟨l, rfl, -, moved⟩
  · rw [failed]
    exact .inl rfl
  · rw [LocaleQuestion.answer_eq, LocaleQuestion.answer_eq, moved]
    apply LocaleQuestion.sameAnswer_of_find? asks
    show (s.registry.put l).find? other = s.registry.find? other
    rw [Registry.find?_put, if_neg apart]

/-! ## What is known -/

/-- A name is answered with the locale registered under it. -/
theorem LocaleQuestion.answer_named (name : String) (s : Session) :
    (locale (.named name)).request.answer s = match s.registry.find? name with
      | some l => .ok (.locale l)
      | none => .error (.unknownLocale name s.registry.names) := by
  rw [answer_eq]
  show (s.registry.get name).map LocaleReply.locale = _
  unfold Registry.get
  cases s.registry.find? name <;> rfl

/-- **What is known of locales.** Take a session after any steps.

A name stands for the last locale that was registered under it, else for the built-in one, and is
unknown otherwise. So the built-in names stay known. A locale that cannot be registered changes no
answer to any question or operation, and registering one changes no answer to a question about
another name. The names are listed in order, each once. The default is the name that the environment
asks for if that is not empty and is known, English otherwise, and can always be had. -/
theorem Session.locales_known (environment : Option String) (steps : List Step) :
    let s : Session := Session.through { environment } steps
    let known := Locale.known steps
    (∀ name, (LocaleQuestion.locale (.named name)).request.answer s =
      match Registry.lastNamed name known with
      | some l => .ok (.locale l)
      | none => .error (.unknownLocale name s.registry.names)) ∧
    (∀ name ∈ ["english", "french", "german", "spanish"],
      ∃ l, (LocaleQuestion.locale (.named name)).request.answer s = .ok (.locale l)) ∧
    (∀ name months abbreviations,
      let registration := Operation.registerLocale name months abbreviations
      let t := (registration.request.run s).2
      (∀ e, registration.request.answer s = .error e →
        (∀ q : LocaleQuestion, q.request.answer t = q.request.answer s) ∧
          ∀ op : Operation, op.request.answer t = op.request.answer s) ∧
      ∀ (q : LocaleQuestion) (other : String), q.argument? = some (.named other) → other ≠ name →
        LocaleQuestion.SameAnswer other (q.request.answer t) (q.request.answer s)) ∧
    (∃ names, LocaleQuestion.names.request.answer s = .ok (.names names) ∧
      names.Pairwise (· < ·) ∧ ∀ name, name ∈ names ↔ name ∈ known.map (·.name)) ∧
    ∃ name, LocaleQuestion.defaultName.request.answer s = .ok (.name name) ∧
      name ∈ known.map (·.name) ∧
      (name = match steps.foldl Step.environment environment with
        | some asked => if asked ≠ "" ∧ asked ∈ known.map (·.name) then asked else "english"
        | none => "english") ∧
      ∃ l, (LocaleQuestion.locale .default).request.answer s = .ok (.locale l) := by
  intro s known
  obtain ⟨registry, asked, -⟩ :
      s.registry = Registry.ofLocales known ∧ s.environment = _ ∧ _ :=
    Session.registry_through environment steps
  have found (name : String) : s.registry.find? name = Registry.lastNamed name known := by
    rw [registry]
    exact Registry.find?_ofLocales known name
  have has (name : String) : s.registry.has name = true ↔ name ∈ known.map (·.name) := by
    rw [registry]
    exact Registry.has_ofLocales
  have builtin (name : String) (mem : name ∈ ["english", "french", "german", "spanish"]) :
      s.registry.has name = true :=
    (has name).mpr (List.mem_append_left _ mem)
  refine ⟨?_, ?_, ?_, ?_, ?_⟩
  · intro name
    rw [LocaleQuestion.answer_named, found]
  · intro name mem
    obtain ⟨l, stands⟩ := Option.isSome_iff_exists.mp (builtin name mem)
    exact ⟨l, by rw [LocaleQuestion.answer_named, stands]⟩
  · intro name months abbreviations registration t
    refine ⟨fun e failed => ?_, fun q other =>
      Operation.sameAnswer_registerLocale months abbreviations s⟩
    have same : t = s := by
      rcases Operation.registerLocale_cases name months abbreviations s with
        ⟨other, run⟩ | ⟨l, -, done, -⟩
      · exact congrArg Prod.snd run
      · cases failed.symm.trans done
    rw [same]
    exact ⟨fun q => rfl, fun op => rfl⟩
  · refine ⟨s.registry.names, LocaleQuestion.answer_eq _ s, Registry.pairwise_names ?_, fun name =>
      Registry.mem_names.trans (has name)⟩
    rw [registry]
    exact Registry.nodup_keys_ofLocales known
  · have rooted : s.registry.has Registry.fallback = true := builtin "english" (by simp)
    obtain ⟨l, given⟩ := Registry.exists_get_default rooted s.environment
    refine ⟨s.registry.defaultName s.environment, LocaleQuestion.answer_eq _ s,
      (has _).mp (Registry.has_defaultName rooted _), ?_, l, ?_⟩
    · rw [Registry.defaultName_eq, asked]
      simp only [has]
      rfl
    · rw [LocaleQuestion.answer_eq]
      show (s.registry.get (s.registry.defaultName s.environment)).map LocaleReply.locale = _
      rw [given]
      rfl

end PeriodText
