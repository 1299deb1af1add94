import PeriodText.Proofs.Answer
import PeriodText.Proofs.Session.Requests

/-!
# Requests that compute a function

Besides its arguments, an answer depends on the locales of the moment alone: the default locale that
the environment asks for, and the registered ones. A request computes a function of the locales if
that is what it answers in every session, and if it leaves the locales as they are
(`Request.Computes`). Requests that follow one another, cell after cell of a series as well, compute
the functions one after another.

What is held of the cache is a parameter: nothing need be for requests that look no pattern up.
-/

set_option autoImplicit false

namespace PeriodText

/-- What answers depend on besides the arguments of a request. -/
structure Locales where
  /-- The default locale that is asked for. -/
  environment : Option String := none
  registry : Registry := Registry.builtin

/-- The locale that an argument stands for. -/
def Locales.get (e : Locales) (argument : LocaleArgument) : Except Error Locale :=
  e.registry.resolve e.environment argument

/-- The locales of a session. -/
def Session.locales (s : Session) : Locales := ⟨s.environment, s.registry⟩

/-! ## Requests that compute a function -/

namespace Request

variable {α β : Type} {P : RecentMap String Format → Prop}

/-- In a session whose cache is as said, the request answers what the function gives for the
locales, and leaves the locales as they are and the cache as said. -/
def Computes (P : RecentMap String Format → Prop) (request : Request α)
    (answer : Locales → Except Error α) : Prop :=
  ∀ s, P s.cache → ∃ t, request.run s = (answer s.locales, t) ∧ t.locales = s.locales ∧ P t.cache

/-- A request answers what it computes. -/
theorem Computes.answer_eq {request : Request α} {answer : Locales → Except Error α}
    (computes : Computes P request answer) {s : Session} (held : P s.cache) :
    request.answer s = answer s.locales := by
  obtain ⟨t, run, -⟩ := computes s held
  rw [Request.answer, run]

/-- What is computed may be put in another way. -/
theorem Computes.congr {request : Request α} {answer other : Locales → Except Error α}
    (computes : Computes P request answer) (same : ∀ e, answer e = other e) :
    Computes P request other := by
  rwa [← funext same]

theorem computes_ofExcept (answer : Except Error α) :
    Computes P (ofExcept answer) fun _ => answer :=
  fun s held => ⟨s, rfl, rfl, held⟩

theorem computes_pure (a : α) : Computes P (pure a) fun _ => .ok a :=
  fun s held => ⟨s, rfl, rfl, held⟩

theorem computes_throw (e : Error) : Computes P (throw e : Request α) fun _ => .error e :=
  fun s held => ⟨s, rfl, rfl, held⟩

theorem computes_note (notices : List Notice) : Computes P (note notices) fun _ => .ok () :=
  fun s held => ⟨s.noted notices, rfl, rfl, held⟩

/-- **Requests one after another compute the functions one after another.** The second one may rely
on what the first can answer. -/
theorem Computes.bind_of {request : Request α} {answer : Locales → Except Error α}
    {next : α → Request β} {answers : α → Locales → Except Error β}
    (first : Computes P request answer)
    (second : ∀ a, (∃ e, answer e = .ok a) → Computes P (next a) (answers a)) :
    Computes P (request >>= next) fun e => answer e >>= fun a => answers a e := by
  intro s held
  obtain ⟨t, run, kept, still⟩ := first s held
  dsimp only
  cases given : answer s.locales with
  | error e =>
    rw [given] at run
    exact ⟨t, run_bind_error run, kept, still⟩
  | ok a =>
    rw [given] at run
    obtain ⟨u, later, keptToo, stillToo⟩ := second a ⟨_, given⟩ t still
    refine ⟨u, ?_, keptToo.trans kept, stillToo⟩
    rw [run_bind_ok run, later, kept]
    rfl

theorem Computes.bind {request : Request α} {answer : Locales → Except Error α}
    {next : α → Request β} {answers : α → Locales → Except Error β}
    (first : Computes P request answer) (second : ∀ a, Computes P (next a) (answers a)) :
    Computes P (request >>= next) fun e => answer e >>= fun a => answers a e :=
  first.bind_of fun a _ => second a

/-- A function of what is answered is computed with it. -/
theorem Computes.map {request : Request α} {answer : Locales → Except Error α}
    (computes : Computes P request answer) (f : α → β) :
    Computes P (do
      let a ← request
      return f a) fun e => (answer e).map f :=
  (computes.bind fun a => computes_pure (f a)).congr fun e => bind_ok_eq_map (answer e) f

/-- A request that is attempted computes the answer as it is. -/
theorem Computes.attempt {request : Request α} {answer : Locales → Except Error α}
    (computes : Computes P request answer) :
    Computes P (attempt request) fun e => .ok (answer e) := by
  intro s held
  obtain ⟨t, run, kept, still⟩ := computes s held
  refine ⟨t, ?_, kept, still⟩
  rw [run_attempt, run]

/-- Requests for the items of a list compute the functions of the items. -/
theorem Computes.mapM {request : α → Request β} {answer : α → Locales → Except Error β}
    (each : ∀ a, Computes P (request a) (answer a)) (items : List α) :
    Computes P (items.mapM request) fun e => items.mapM fun a => answer a e := by
  induction items with
  | nil => exact computes_pure []
  | cons a items ih =>
    simp only [List.mapM_cons]
    exact (each a).bind fun b => ih.bind fun others => computes_pure (b :: others)

end Request

end PeriodText
