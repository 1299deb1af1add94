import PeriodText.Proofs.Format.Marks
import PeriodText.Proofs.RecentMap.Recency
import PeriodText.Proofs.Session.Refinement

/-!
# The cache of a session

What an operation does to the cache is one of three things: it looks one pattern up, it empties the
cache, or it leaves the cache as it is (`Operation.cache_run`). So the cache is the one of these
steps alone (`Session.cache_after`), and the history of the steps says all of it: how many look-ups
there were, how many patterns are kept, and which of them the next look-up finds
(`Session.cache_recency`).

A format that is found is not only equal to the one that was stored: it is that one. To say so, each
format is numbered by the step that compiles it. The cache of numbered formats takes the same steps,
and the cache of the session is what is left of it without the numbers.
-/

set_option autoImplicit false

namespace PeriodText

/-! ## Steps of a cache -/

/-- What an operation does to the cache. -/
inductive CacheStep where
  /-- A pattern is looked up. What is no text is looked up in vain. -/
  | lookup (pattern : Datum)
  /-- The cache is emptied. -/
  | clear

/-- The datum as a pattern that can be compiled. -/
def Datum.pattern? : Datum → Option String
  | .text p => if p = "" then none else some p
  | _ => none

/-- The empty pattern cannot be compiled. -/
theorem Datum.pattern?_ne_empty {d : Datum} {p : String} (compiled : d.pattern? = some p) :
    p ≠ "" := by
  unfold pattern? at compiled
  split at compiled
  · split at compiled
    · cases compiled
    · next text present =>
      cases compiled
      exact present
  · cases compiled

/-- A compiled pattern, numbered by the step that compiles it. -/
def Format.numbered (number : Nat) (pattern : String) : Except Error (Nat × Format) :=
  (compile pattern).map (number, ·)

/-- A numbered format without its number is the format of its pattern. -/
theorem Format.compile_eq_numbered (number : Nat) (p : String) :
    compile p = (numbered number p).map Prod.snd := by
  rw [numbered]
  cases compile p <;> rfl

namespace CacheStep

variable {ν μ : Type}

/-- The cache after the step. -/
def next (make : String → Except Error ν) (m : RecentMap String ν) : CacheStep → RecentMap String ν
  | lookup (.text p) => (m.fetch cacheBound make p).2
  | lookup _ => m.miss
  | clear => {}

/-- What a look-up gives, with its pattern. -/
def outcome? (make : String → Except Error ν) (m : RecentMap String ν) : Datum → Option (String × ν)
  | .text p => (m.fetch cacheBound make p).1.toOption.map (p, ·)
  | _ => none

/-! A history is a list of steps, the latest first. What a step compiles may depend on how many steps
there were before it. -/

/-- What was looked up since the cache was emptied, the latest first. -/
def lookups : List CacheStep → List Datum
  | [] => []
  | lookup d :: earlier => d :: lookups earlier
  | clear :: _ => []

/-- The cache after a history. -/
def cacheAfter (make : Nat → String → Except Error ν) : List CacheStep → RecentMap String ν
  | [] => {}
  | step :: earlier => step.next (make earlier.length) (cacheAfter make earlier)

/-- What the look-ups gave since the cache was emptied, the latest first. -/
def given (make : Nat → String → Except Error ν) : List CacheStep → List (String × ν)
  | [] => []
  | lookup d :: earlier =>
    (outcome? (make earlier.length) (cacheAfter make earlier) d).toList ++ given make earlier
  | clear :: _ => []

/-- The steps of a cache do not depend on what its values are. -/
theorem cacheAfter_map {f : ν → μ} {make : Nat → String → Except Error ν}
    {make' : Nat → String → Except Error μ}
    (alike : ∀ number p, make' number p = (make number p).map f) (history : List CacheStep) :
    cacheAfter make' history = (cacheAfter make history).map f := by
  induction history with
  | nil => rfl
  | cons step earlier ih =>
    rw [cacheAfter, cacheAfter, ih]
    cases step with
    | clear => rfl
    | lookup d =>
      cases d with
      | text p => exact congrArg Prod.snd (RecentMap.fetch_map (alike earlier.length) _ _ p)
      | absent | flag | integer | real | list => rfl

/-- **Each look-up is counted once** until the cache is emptied. -/
theorem hits_add_misses (make : Nat → String → Except Error ν) (history : List CacheStep) :
    (cacheAfter make history).hits + (cacheAfter make history).misses =
      (lookups history).length := by
  induction history with
  | nil => rfl
  | cons step earlier ih =>
    cases step with
    | clear => rfl
    | lookup d =>
      rw [cacheAfter, lookups, List.length_cons, ← ih]
      cases d with
      | text p => exact RecentMap.hits_add_misses_fetch _ _ _ p
      | absent | flag | integer | real | list => rfl

section

variable {make : Nat → String → Except Error ν}
  (total : ∀ number p, (∃ value, make number p = .ok value) ↔ p ≠ "")
include total

/-- The empty pattern is never stored, so looking it up is a miss and nothing else. -/
theorem fetch_empty {m : RecentMap String ν} {log : List (String × ν)} {looked : List Datum}
    (recalls : m.Recalls cacheBound log) (keys : log.map (·.1) = looked.filterMap Datum.pattern?)
    (number : Nat) :
    ∃ e, make number "" = .error e ∧ m.fetch cacheBound (make number) "" = (.error e, m.miss) := by
  have found : m.find? "" = none := by
    rw [← Option.not_isSome_iff_eq_none, recalls.isSome_find?, keys]
    rintro ⟨later, earlier, split, -⟩
    have listed : "" ∈ looked.filterMap Datum.pattern? := by simp [split]
    obtain ⟨d, -, compiled⟩ := List.mem_filterMap.mp listed
    exact Datum.pattern?_ne_empty compiled rfl
  cases made : make number "" with
  | error e => exact ⟨e, rfl, RecentMap.fetch_of_refused found made⟩
  | ok value => exact absurd rfl ((total _ _).mp ⟨value, made⟩)

/-- **The cache recalls what its look-ups gave**, and all of them gave something but those of what
cannot be compiled. -/
theorem recalls_given (history : List CacheStep) :
    (cacheAfter make history).Recalls cacheBound (given make history) ∧
      (given make history).map (·.1) = (lookups history).filterMap Datum.pattern? := by
  induction history with
  | nil => exact ⟨RecentMap.recalls_empty _, rfl⟩
  | cons step earlier ih =>
    obtain ⟨recalls, keys⟩ := ih
    cases step with
    | clear => exact ⟨RecentMap.recalls_empty _, rfl⟩
    | lookup d =>
      cases d with
      | absent | flag | integer | real | list => exact ⟨recalls, keys⟩
      | text p =>
        by_cases present : p = ""
        · subst present
          obtain ⟨e, -, missed⟩ := fetch_empty total recalls keys earlier.length
          simp only [cacheAfter, next, given, outcome?, missed, lookups, List.filterMap_cons,
            Datum.pattern?, if_pos, Except.toOption, Option.map_none, Option.toList_none,
            List.nil_append]
          exact ⟨recalls, keys⟩
        · obtain ⟨value, gave⟩ := (cacheAfter make earlier).exists_fetch cacheBound
            ((total earlier.length p).mpr present)
          -- Both logs grow by the pattern, whether it is found or compiled.
          have later := recalls.fetch gave
          simp only [cacheAfter, next, given, outcome?, gave, lookups, List.filterMap_cons,
            Datum.pattern?, if_neg present, Except.toOption, Option.map_some,
            Option.toList_some, List.singleton_append, List.map_cons, keys]
          exact ⟨later, trivial⟩

/-- **A look-up of a pattern** is a hit if the pattern is recent, and gives what its last look-up gave.
Otherwise it is a miss, and gives what is made of the pattern now. -/
theorem lookup_cases {p : String} (present : p ≠ "") (history : List CacheStep) :
    let m := cacheAfter make history
    let recent := RecentMap.IsRecent cacheBound p ((lookups history).filterMap Datum.pattern?)
    ∃ value,
      (recent ∧ (given make history).lookup p = some value ∧
        m.fetch cacheBound (make history.length) p = (.ok value, m.touch p value)) ∨
      (¬recent ∧ make history.length p = .ok value ∧
        m.fetch cacheBound (make history.length) p = (.ok value, m.store cacheBound p value)) := by
  intro m recent
  obtain ⟨recalls, keys⟩ := recalls_given total history
  have hit : (m.find? p).isSome ↔ recent := by
    rw [recalls.isSome_find?, keys]
  cases found : m.find? p with
  | some value =>
    obtain ⟨later, earlier, split, fresh, -⟩ := recalls.find?_eq_some.mp found
    have last : (given make history).lookup p = some value := by
      rw [split, List.lookup_append, lookup_eq_none_iff.mpr fresh, List.lookup_cons_self]
      rfl
    exact ⟨value, .inl ⟨hit.mp (by rw [found]; rfl), last, RecentMap.fetch_of_some found⟩⟩
  | none =>
    obtain ⟨value, made⟩ := (total history.length p).mpr present
    have missed : ¬recent := by
      rw [← hit, found]
      exact Bool.false_ne_true
    exact ⟨value, .inr ⟨missed, made, RecentMap.fetch_of_made found made⟩⟩

end

/-! ## Numbered formats -/

/-- Numbered or not, every pattern but the empty one is compiled. -/
theorem exists_numbered (number : Nat) (p : String) :
    (∃ value, Format.numbered number p = .ok value) ↔ p ≠ "" := by
  rw [← Format.exists_compile]
  constructor
  · rintro ⟨value, made⟩
    obtain ⟨f, compiled, -⟩ := map_eq_ok.mp made
    exact ⟨f, compiled⟩
  · rintro ⟨f, compiled⟩
    exact ⟨(number, f), map_eq_ok.mpr ⟨f, compiled, rfl⟩⟩

/-- What was given was compiled at an earlier step. -/
theorem number_lt {history : List CacheStep} {entry : String × Nat × Format}
    (mem : entry ∈ given Format.numbered history) : entry.2.1 < history.length := by
  induction history with
  | nil => cases mem
  | cons step earlier ih =>
    cases step with
    | clear => cases mem
    | lookup d =>
      rcases List.mem_append.mp mem with now | before
      · cases d with
        | absent | flag | integer | real | list => cases now
        | text p =>
          obtain ⟨value, gave, rfl⟩ := Option.map_eq_some_iff.mp (Option.mem_toList.mp now)
          by_cases present : p = ""
          · subst present
            obtain ⟨recalls, keys⟩ := recalls_given exists_numbered earlier
            obtain ⟨e, -, missed⟩ := fetch_empty exists_numbered recalls keys earlier.length
            rw [missed] at gave
            cases gave
          · obtain ⟨last, ⟨-, known, run⟩ | ⟨-, made, run⟩⟩ :=
              lookup_cases exists_numbered present earlier
            · rw [run] at gave
              cases gave
              apply Nat.lt_succ_of_lt
              exact ih (mem_of_lookup known)
            · rw [run] at gave
              cases gave
              obtain ⟨f, -, rfl⟩ := map_eq_ok.mp made
              exact Nat.lt_succ_self _
      · exact Nat.lt_succ_of_lt (ih before)

end CacheStep

/-! ## Operations -/

namespace Request

variable {α β : Type}

/-- The request leaves the cache as it is. -/
def KeepsCache (request : Request α) : Prop := ∀ s, (request.run s).2.cache = s.cache

/-- A request keeps the cache if it computes a function whatever is held of the cache. -/
theorem keepsCache_of_computes {request : Request α} {answer : Locales → Except Error α}
    (computes : ∀ P, Computes P request answer) : request.KeepsCache := by
  intro s
  obtain ⟨t, run, -, kept⟩ := computes (· = s.cache) s rfl
  rw [run]
  exact kept

/-- What follows a request and keeps the cache does not undo what the request did to it. -/
theorem cache_bind {request : Request α} {next : α → Request β} (keeps : ∀ a, (next a).KeepsCache)
    (s : Session) : ((request >>= next).run s).2.cache = (request.run s).2.cache := by
  cases first : request.run s with
  | mk answer t =>
    cases answer with
    | error e => rw [run_bind_error first]
    | ok a => rw [run_bind_ok first, keeps a]

/-- A pattern that is looked up is answered by the cache. -/
theorem answer_format_text (p : String) (s : Session) :
    (format (.text p)).answer s = (s.cache.fetch cacheBound Format.compile p).1 := rfl

end Request

/-- What the format asks of the cache. -/
def FormatArgument.lookup? : FormatArgument → Option CacheStep
  | .datum (.text p) => some (.lookup (.text p))
  | _ => none

namespace Operation

/-- What the operation does to the cache, if it does anything. -/
def cacheStep? : Operation → Option CacheStep
  | getFormat (.list _) => none
  | getFormat pattern => some (.lookup pattern)
  | clearCache => some .clear
  | formatPeriod _ format _ => format.lookup?
  | parsePeriod (.text _) format _ _ => format.lookup?
  | formatSeries _ format _ => format.lookup?
  | parseSeries _ format _ _ errors => match CellErrors.ofDatum errors with
    | .ok _ => format.lookup?
    | .error _ => none
  | _ => none

/-- A format whose look-up leaves the cache as it is. -/
theorem computes_formatOf_of_still {P : RecentMap String Format → Prop} {format : FormatArgument}
    (still : format.lookup? = none) :
    Request.Computes P (Request.formatOf format) fun _ => Stateless.formatOf format := by
  cases format with
  | compiled f => exact Request.computes_pure f
  | datum d =>
    cases d with
    | text p => cases still
    | absent | flag | integer | real | list => exact Request.computes_throw _

/-- A format that is looked up is given by its pattern. -/
theorem eq_text_of_lookup? {format : FormatArgument} {step : CacheStep}
    (looks : format.lookup? = some step) :
    ∃ p, format = .datum (.text p) ∧ step = .lookup (.text p) := by
  unfold FormatArgument.lookup? at looks
  split at looks
  · next p => exact ⟨p, rfl, (Option.some.inj looks).symm⟩
  · cases looks

/-- The operation leaves the cache as it is, or empties it, or looks a pattern up and from then on
leaves the cache as it is. -/
inductive CacheUse (op : Operation) : Prop where
  | still (step : op.cacheStep? = none) (keeps : op.request.KeepsCache)
  | clear (same : op = clearCache)
  | lookup (d : Datum) (next : Format → Request Reply) (step : op.cacheStep? = some (.lookup d))
      (hashable : ∀ items, d ≠ .list items) (request : op.request = Request.format d >>= next)
      (keeps : ∀ f, (next f).KeepsCache)

/-- An operation that is given a format looks the pattern up, if the format is given by one. -/
theorem CacheUse.of_format {op : Operation} {format : FormatArgument}
    (step : op.cacheStep? = format.lookup?)
    (still : (∀ P, Request.Computes P (Request.formatOf format)
      fun _ => Stateless.formatOf format) → op.request.KeepsCache)
    (first : ∀ p, format = .datum (.text p) → ∃ next : Format → Request Reply,
      op.request = Request.format (.text p) >>= next ∧ ∀ f, (next f).KeepsCache) :
    op.CacheUse := by
  cases looks : format.lookup? with
  | none => exact .still (step.trans looks) (still fun P => computes_formatOf_of_still looks)
  | some asked =>
    obtain ⟨p, given, rfl⟩ := eq_text_of_lookup? looks
    obtain ⟨next, request, keeps⟩ := first p given
    refine .lookup (.text p) next (step.trans looks) ?_ request keeps
    intro items impossible
    cases impossible

/-- **What an operation does to the cache**, in one of three ways. -/
theorem cacheUse (op : Operation) : op.CacheUse := by
  cases op with
  | clearCache => exact .clear rfl
  | setEnvironment name => exact .still rfl fun s => rfl
  | registerLocale name months abbreviations =>
    refine .still rfl fun s => ?_
    simp only [request, Request.registerLocale]
    cases Locale.ofData name months abbreviations <;> rfl
  | getFormat pattern =>
    have keeps (f : Format) : (pure (.format f) : Request Reply).KeepsCache := fun s => rfl
    cases pattern with
    | list items => exact .still rfl fun s => rfl
    | absent | flag | integer | real | text =>
      refine .lookup _ _ rfl ?_ rfl keeps
      intro items impossible
      cases impossible
  | formatPeriod v format argument =>
    have computes {f : FormatArgument} (look : ∀ P, Request.Computes P (Request.formatOf f)
        fun _ => Stateless.formatOf f) : (formatPeriod v f argument).request.KeepsCache :=
      Request.keepsCache_of_computes fun P =>
        (Request.computes_formatValue (look P) v argument).map Reply.text
    refine .of_format rfl computes ?_
    rintro p rfl
    refine ⟨fun f => (formatPeriod v (.compiled f) argument).request, ?_, fun f => computes
      fun P => Request.computes_pure f⟩
    exact bind_assoc _ _ _
  | parsePeriod source format kind argument =>
    have computes {f : FormatArgument} (look : ∀ P, Request.Computes P (Request.formatOf f)
        fun _ => Stateless.formatOf f) : (parsePeriod source f kind argument).request.KeepsCache :=
      Request.keepsCache_of_computes fun P =>
        (Request.computes_parsePeriod (look P) source kind argument).map Reply.period
    cases source with
    | absent | flag | integer | real | list => exact .still rfl fun s => rfl
    | text text =>
      refine .of_format rfl computes ?_
      rintro p rfl
      refine ⟨fun f => (parsePeriod (.text text) (.compiled f) kind argument).request, ?_,
        fun f => computes fun P => Request.computes_pure f⟩
      exact bind_assoc _ _ _
  | formatSeries column format argument =>
    have computes {f : FormatArgument} (look : ∀ P, Request.Computes P (Request.formatOf f)
        fun _ => Stateless.formatOf f) : (formatSeries column f argument).request.KeepsCache :=
      Request.keepsCache_of_computes fun P =>
        (Request.computes_formatSeries (look P) column argument).map Reply.texts
    refine .of_format rfl computes ?_
    rintro p rfl
    refine ⟨fun f => (formatSeries column (.compiled f) argument).request, ?_, fun f => computes
      fun P => Request.computes_pure f⟩
    simp only [request, Request.formatSeries, Request.formatOf, map_eq_pure_bind, bind_assoc,
      pure_bind]
  | parseSeries column format kind argument errors =>
    have computes {f : FormatArgument} (look : ∀ P, Request.Computes P (Request.formatOf f)
        fun _ => Stateless.formatOf f) :
        (parseSeries column f kind argument errors).request.KeepsCache :=
      Request.keepsCache_of_computes fun P =>
        (Request.computes_parseSeries (look P) column kind argument errors).map Reply.periods
    cases mode : CellErrors.ofDatum errors with
    | error e =>
      refine .still (by simp only [cacheStep?, mode]) fun s => ?_
      simp only [request, Request.parseSeries, mode]
      rfl
    | ok found =>
      have done : Request.ofExcept (.ok found) = pure found := rfl
      refine .of_format (by simp only [cacheStep?, mode]) computes ?_
      rintro p rfl
      refine ⟨fun f => (parseSeries column (.compiled f) kind argument errors).request, ?_,
        fun f => computes fun P => Request.computes_pure f⟩
      simp only [request, Request.parseSeries, Request.formatOf, mode, done, bind_assoc, pure_bind]

/-- **One operation** takes the cache a step further. -/
theorem cache_run (op : Operation) (s : Session) :
    (op.request.run s).2.cache =
      (op.cacheStep?.map (CacheStep.next Format.compile s.cache)).getD s.cache := by
  cases op.cacheUse with
  | still step keeps =>
    rw [step, keeps]
    rfl
  | clear same =>
    subst same
    rfl
  | lookup d next step hashable request keeps =>
    rw [step, request, Request.cache_bind keeps]
    cases d with
    | list items => exact absurd rfl (hashable items)
    | absent | flag | integer | real | text => rfl

/-- An operation fails if the pattern that it looks up is refused. -/
theorem answer_of_refused {op : Operation} {d : Datum} {s : Session} {e : Error}
    (step : op.cacheStep? = some (.lookup d))
    (refused : (Request.format d).answer s = .error e) : op.request.answer s = .error e := by
  cases op.cacheUse with
  | still none keeps =>
    rw [step] at none
    cases none
  | clear same =>
    subst same
    cases step
  | lookup other next asked hashable request keeps =>
    rw [step] at asked
    cases asked
    rw [request]
    exact Request.answer_bind_error refused

end Operation

/-- **The cache after operations** is the one of what they did to it. -/
theorem Session.cache_after (ops : List Operation) {s : Session} {history : List CacheStep}
    (before : s.cache = CacheStep.cacheAfter (fun _ => Format.compile) history) :
    (s.after ops).cache = CacheStep.cacheAfter (fun _ => Format.compile)
      ((ops.filterMap Operation.cacheStep?).reverse ++ history) := by
  induction ops generalizing s history with
  | nil => exact before
  | cons op ops ih =>
    have now := op.cache_run s
    rw [after, List.filterMap_cons]
    cases step : op.cacheStep? with
    | none =>
      rw [step] at now
      exact ih (now.trans before)
    | some step =>
      rw [step, before] at now
      rw [List.reverse_cons, List.append_assoc]
      exact ih now

/-- **The cache of a session is one of the patterns looked up last.** Take a session after any
operations, with what was looked up since the cache was last emptied, the latest first.

Every look-up was a hit or a miss. As many patterns are kept as were looked up, up to the bound. The
next look-up of a pattern, by whatever operation, is a hit exactly if the pattern was looked up
before and fewer others than the bound were after that. The empty pattern is refused, and that is
counted as a miss and changes nothing else.

With the formats numbered by the step that compiles them, a hit gives the one that the last look-up
of the pattern gave, and a miss one that has not been given before. -/
theorem Session.cache_recency (environment : Option String) (ops : List Operation) :
    let s : Session := Session.after { environment } ops
    let history := (ops.filterMap Operation.cacheStep?).reverse
    let lookups := CacheStep.lookups history
    let patterns := lookups.filterMap Datum.pattern?
    let objects := CacheStep.cacheAfter Format.numbered history
    let given := CacheStep.given Format.numbered history
    s.cache.hits + s.cache.misses = lookups.length ∧
    s.cache.size = min cacheBound patterns.toFinset.card ∧
    (∀ (op : Operation) (p : String), op.cacheStep? = some (.lookup (.text p)) → p ≠ "" →
      let t := (op.request.run s).2
      (RecentMap.IsRecent cacheBound p patterns ∧
        t.cache.hits = s.cache.hits + 1 ∧ t.cache.misses = s.cache.misses) ∨
      (¬RecentMap.IsRecent cacheBound p patterns ∧
        t.cache.hits = s.cache.hits ∧ t.cache.misses = s.cache.misses + 1)) ∧
    (∀ op : Operation, op.cacheStep? = some (.lookup (.text "")) →
      op.request.answer s = .error (.pattern .empty) ∧
      (op.request.run s).2.cache = s.cache.miss) ∧
    s.cache = objects.map Prod.snd ∧
    ∀ p ≠ "", ∃ number f, (Request.format (.text p)).answer s = .ok f ∧
      (objects.fetch cacheBound (Format.numbered history.length) p).1 = .ok (number, f) ∧
      (RecentMap.IsRecent cacheBound p patterns → given.lookup p = some (number, f)) ∧
      (¬RecentMap.IsRecent cacheBound p patterns → ∀ entry ∈ given, entry.2.1 < number) := by
  intro s history lookups patterns objects given
  have fresh : ({ environment } : Session).cache =
      CacheStep.cacheAfter (fun _ => Format.compile) [] := rfl
  have cache := Session.cache_after ops fresh
  rw [List.append_nil] at cache
  have total (_ : Nat) (p : String) : (∃ f, Format.compile p = .ok f) ↔ p ≠ "" :=
    Format.exists_compile
  obtain ⟨recalls, keys⟩ := CacheStep.recalls_given total history
  rw [← cache] at recalls
  have erased : s.cache = objects.map Prod.snd := by
    rw [cache]
    exact CacheStep.cacheAfter_map Format.compile_eq_numbered history
  refine ⟨?_, ?_, ?_, ?_, erased, ?_⟩
  · rw [cache]
    exact CacheStep.hits_add_misses _ history
  · rw [recalls.size_eq, RecentMap.distinctKeys, keys]
  · intro op p step present t
    have moved : t.cache = (s.cache.fetch cacheBound Format.compile p).2 := by
      rw [op.cache_run, step]
      rfl
    obtain ⟨f, ⟨recent, -, run⟩ | ⟨old, -, run⟩⟩ := CacheStep.lookup_cases total present history
    · rw [← cache] at run
      rw [moved, run]
      exact .inl ⟨recent, rfl, rfl⟩
    · rw [← cache] at run
      rw [moved, run]
      exact .inr ⟨old, rfl, rfl⟩
  · intro op step
    obtain ⟨e, refused, run⟩ := CacheStep.fetch_empty total recalls keys 0
    cases refused
    refine ⟨?_, ?_⟩
    · apply op.answer_of_refused step
      rw [Request.answer_format_text, run]
    · rw [op.cache_run, step]
      exact congrArg Prod.snd run
  · intro p present
    have answer : (Request.format (.text p)).answer s =
        (objects.fetch cacheBound (Format.numbered history.length) p).1.map Prod.snd := by
      rw [Request.answer_format_text, erased, RecentMap.fetch_map (Format.compile_eq_numbered _)]
    obtain ⟨⟨number, f⟩, ⟨recent, last, run⟩ | ⟨old, made, run⟩⟩ :=
      CacheStep.lookup_cases CacheStep.exists_numbered present history
    · refine ⟨number, f, ?_, congrArg Prod.fst run, fun _ => last, fun old => absurd recent old⟩
      rw [answer, run]
      rfl
    · refine ⟨number, f, ?_, congrArg Prod.fst run, fun recent => absurd recent old, ?_⟩
      · rw [answer, run]
        rfl
      · intro _ entry mem
        obtain ⟨g, -, same⟩ := map_eq_ok.mp made
        cases same
        exact CacheStep.number_lt mem

end PeriodText
