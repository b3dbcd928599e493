import ChannelAccess.Config
import ChannelAccess.Proofs.Text.Denotation
import ChannelAccess.Proofs.Text.Parts

/-!
# What an environment comes to

A configuration takes each of its parts from one variable. Two of them can spoil the whole:
a text that names no backend, which is reported first, and a database address that is
missing or not UTF-8. Every other part has a default, which stands in for a variable that is
absent or not UTF-8, and for a text that denotes no number where one is needed.
-/

namespace ChannelAccess

set_option autoImplicit false

open ChannelAccess.Text

namespace CacheBackend

def keyword : CacheBackend → String
  | .shared => "redis"
  | .inProcess => "memory"

/-- A text names a backend by its keyword, in letters of either case and with white space around it.
-/
def NamedBy (backend : CacheBackend) (source : String) : Prop :=
  ∃ core, HasCore source.toList core ∧ core.map Char.toLower = backend.keyword.toList

theorem spelling_eq_iff (source name : String) :
    spelling source = name ↔
      ∃ core, HasCore source.toList core ∧ core.map Char.toLower = name.toList := by
  rw [spelling, ← String.toList_inj, String.toList_ofList]
  simp only [has_core_iff, exists_eq_left']

theorem of_text_eq_some_iff (source : String) (backend : CacheBackend) :
    ofText? source = some backend ↔ backend.NamedBy source := by
  rw [NamedBy, ← spelling_eq_iff, ofText?]
  cases backend with
  | shared => by_cases redis : spelling source = "redis" <;> simp [redis, keyword]
  | inProcess =>
      by_cases redis : spelling source = "redis" <;> simp [redis, keyword]

end CacheBackend

namespace Config

/-- A part that is a text: that of its variable, as it is, or a default. -/
inductive TextOr (default : String) : Option EnvironmentValue → String → Prop where
  | own (text : String) : TextOr default (some (.text text)) text
  | absent : TextOr default none default
  | undecodable (bytes : List UInt8) : TextOr default (some (.undecodable bytes)) default

/-- A variable gives a number if its text is a numeral of one that fits a word and is of use. -/
def Gives (useful : Nat → Bool) (value : Option EnvironmentValue) (number : Nat) : Prop :=
  ∃ text, value = some (.text text) ∧ Denotes 10 text.toList number ∧ number < 2 ^ 64 ∧
    useful number = true

inductive NumberOr (useful : Nat → Bool) (default : Nat) (value : Option EnvironmentValue) :
    Nat → Prop where
  | own (number : Nat) (given : Gives useful value number) : NumberOr useful default value number
  | default (nothing : ∀ number, ¬Gives useful value number) :
      NumberOr useful default value default

inductive BackendOr : Option EnvironmentValue → CacheBackend → Prop where
  | own (text : String) (backend : CacheBackend) (named : backend.NamedBy text) :
      BackendOr (some (.text text)) backend
  | absent : BackendOr none .shared
  | undecodable (bytes : List UInt8) : BackendOr (some (.undecodable bytes)) .shared

/-- What an environment is to come to. The backend is looked at before the database. -/
inductive Verdict (environment : Environment) : Except ConfigError Config → Prop where
  | unknownBackend (text : String) (core : List Char)
      (given : environment "PERMISSION_CACHE_BACKEND" = some (.text text))
      (trimmed : HasCore text.toList core)
      (unknown : ∀ backend : CacheBackend, ¬backend.NamedBy text) :
      Verdict environment (.error (.unknownBackend (String.ofList (core.map Char.toLower))))
  | databaseMissing (backend : CacheBackend)
      (known : BackendOr (environment "PERMISSION_CACHE_BACKEND") backend)
      (absent : environment "DATABASE_URL" = none) :
      Verdict environment (.error .databaseMissing)
  | databaseUndecodable (backend : CacheBackend) (bytes : List UInt8)
      (known : BackendOr (environment "PERMISSION_CACHE_BACKEND") backend)
      (given : environment "DATABASE_URL" = some (.undecodable bytes)) :
      Verdict environment (.error (.databaseUndecodable bytes))
  | accepted (config : Config)
      (database : environment "DATABASE_URL" = some (.text config.databaseUrl))
      (cache : TextOr "redis://localhost:6379" (environment "REDIS_URL") config.cacheUrl)
      (backend : BackendOr (environment "PERMISSION_CACHE_BACKEND") config.cacheBackend)
      (seconds : NumberOr (fun _ => true) 60 (environment "PERMISSION_CACHE_TTL_SECS")
        config.cacheSeconds)
      (scope : TextOr "canis:perm" (environment "PERMISSION_CACHE_PREFIX") config.cacheScope)
      (capacity : NumberOr (0 < ·) 1024 (environment "INVALIDATION_QUEUE_CAPACITY")
        config.queueCapacity) :
      Verdict environment (.ok config)

section Parts

variable (environment : Environment) (name : String)

theorem text_of_eq_some_iff (text : String) :
    textOf environment name = some text ↔ environment name = some (.text text) := by
  unfold textOf
  rcases environment name with _ | _ | _ <;> simp

theorem text_or_iff (default text : String) :
    TextOr default (environment name) text ↔ (textOf environment name).getD default = text := by
  unfold textOf
  generalize environment name = value
  constructor
  · intro given
    cases given <;> rfl
  · rintro rfl
    rcases value with _ | text | bytes
    · exact .absent
    · exact .own text
    · exact .undecodable bytes

theorem gives_iff (useful : Nat → Bool) (number : Nat) :
    Gives useful (environment name) number ↔
      (numberOf environment name).filter useful = some number := by
  have read (text : String) : readBelow 10 wordBound text.toList = some number ↔
      Denotes 10 text.toList number ∧ number < 2 ^ 64 :=
    read_below_eq_some_iff (by decide) (by decide) (by decide) text.toList number
  rw [Option.filter_eq_some_iff, numberOf, Option.bind_eq_some_iff]
  simp only [text_of_eq_some_iff, read]
  constructor
  · rintro ⟨text, given, denotes, fits, use⟩
    exact ⟨⟨text, given, denotes, fits⟩, use⟩
  · rintro ⟨⟨text, given, denotes, fits⟩, use⟩
    exact ⟨text, given, denotes, fits, use⟩

theorem number_or_iff (useful : Nat → Bool) (default number : Nat) :
    NumberOr useful default (environment name) number ↔
      ((numberOf environment name).filter useful).getD default = number := by
  cases given : (numberOf environment name).filter useful with
  | none =>
      have nothing : ∀ other, ¬Gives useful (environment name) other := by
        intro other
        simp [gives_iff, given]
      constructor
      · rintro (⟨_, gives⟩ | _)
        · exact absurd gives (nothing number)
        · rfl
      · rintro rfl
        exact .default nothing
  | some own =>
      have gives : Gives useful (environment name) own := (gives_iff ..).mpr given
      constructor
      · rintro (⟨_, other⟩ | nothing)
        · rw [gives_iff, given] at other
          exact Option.some.inj other
        · exact absurd gives (nothing own)
      · rintro rfl
        exact .own own gives

end Parts

variable (environment : Environment)

theorem backend_of_eq_ok_iff (backend : CacheBackend) :
    backendOf environment = .ok backend ↔
      BackendOr (environment "PERMISSION_CACHE_BACKEND") backend := by
  unfold backendOf textOf
  generalize environment "PERMISSION_CACHE_BACKEND" = value
  constructor
  · intro read
    rcases value with _ | text | bytes
    · obtain rfl := Except.ok.inj read
      exact .absent
    · cases named : CacheBackend.ofText? text with
      | none => simp [named] at read
      | some own =>
          simp only [named, Except.ok.injEq] at read
          subst read
          exact .own text own ((CacheBackend.of_text_eq_some_iff text own).mp named)
    · obtain rfl := Except.ok.inj read
      exact .undecodable bytes
  · intro given
    cases given with
    | own text _ named => simp [(CacheBackend.of_text_eq_some_iff text backend).mpr named]
    | absent => rfl
    | undecodable bytes => rfl

theorem backend_of_eq_error_iff (problem : ConfigError) :
    backendOf environment = .error problem ↔
      ∃ text core, environment "PERMISSION_CACHE_BACKEND" = some (.text text) ∧
        HasCore text.toList core ∧ (∀ backend : CacheBackend, ¬backend.NamedBy text) ∧
        problem = .unknownBackend (String.ofList (core.map Char.toLower)) := by
  simp only [has_core_iff, exists_and_left, exists_eq_left', ← CacheBackend.of_text_eq_some_iff]
  unfold backendOf textOf
  generalize environment "PERMISSION_CACHE_BACKEND" = value
  rcases value with _ | text | bytes
  · simp
  · cases named : CacheBackend.ofText? text with
    | none => simp [named, CacheBackend.spelling, eq_comm]
    | some own => simp [named]
  · simp

theorem database_of_eq_ok_iff (text : String) :
    databaseOf environment = .ok text ↔ environment "DATABASE_URL" = some (.text text) := by
  unfold databaseOf
  rcases environment "DATABASE_URL" with _ | _ | _ <;> simp

theorem database_of_eq_error_iff (problem : ConfigError) :
    databaseOf environment = .error problem ↔
      environment "DATABASE_URL" = none ∧ problem = .databaseMissing ∨
        ∃ bytes, environment "DATABASE_URL" = some (.undecodable bytes) ∧
          problem = .databaseUndecodable bytes := by
  unfold databaseOf
  rcases environment "DATABASE_URL" with _ | _ | _ <;> simp [eq_comm]

theorem of_environment_eq :
    ofEnvironment environment =
      match backendOf environment with
      | .error problem => .error problem
      | .ok backend =>
          match databaseOf environment with
          | .error problem => .error problem
          | .ok database => .ok {
              databaseUrl := database
              cacheUrl := (textOf environment "REDIS_URL").getD "redis://localhost:6379"
              cacheBackend := backend
              cacheSeconds := (numberOf environment "PERMISSION_CACHE_TTL_SECS").getD 60
              cacheScope := (textOf environment "PERMISSION_CACHE_PREFIX").getD "canis:perm"
              queueCapacity :=
                ((numberOf environment "INVALIDATION_QUEUE_CAPACITY").filter (0 < ·)).getD
                  1024 } := by
  unfold ofEnvironment
  cases backendOf environment with
  | error problem => rfl
  | ok backend => cases databaseOf environment <;> rfl

theorem of_environment_eq_ok_iff (config : Config) :
    ofEnvironment environment = .ok config ↔
      environment "DATABASE_URL" = some (.text config.databaseUrl) ∧
      TextOr "redis://localhost:6379" (environment "REDIS_URL") config.cacheUrl ∧
      BackendOr (environment "PERMISSION_CACHE_BACKEND") config.cacheBackend ∧
      NumberOr (fun _ => true) 60 (environment "PERMISSION_CACHE_TTL_SECS") config.cacheSeconds ∧
      TextOr "canis:perm" (environment "PERMISSION_CACHE_PREFIX") config.cacheScope ∧
      NumberOr (0 < ·) 1024 (environment "INVALIDATION_QUEUE_CAPACITY") config.queueCapacity := by
  obtain ⟨database, cache, backend, seconds, scope, capacity⟩ := config
  have every : (numberOf environment "PERMISSION_CACHE_TTL_SECS").filter (fun _ => true) =
      numberOf environment "PERMISSION_CACHE_TTL_SECS" := by
    cases numberOf environment "PERMISSION_CACHE_TTL_SECS" <;> rfl
  rw [of_environment_eq, text_or_iff, text_or_iff, number_or_iff, number_or_iff,
    ← backend_of_eq_ok_iff, ← database_of_eq_ok_iff, every]
  cases backendOf environment with
  | error problem => simp
  | ok own =>
      cases databaseOf environment with
      | error problem => simp
      | ok url => simp [and_left_comm]

theorem of_environment_eq_error_iff (problem : ConfigError) :
    ofEnvironment environment = .error problem ↔
      backendOf environment = .error problem ∨
        ∃ backend, backendOf environment = .ok backend ∧
          databaseOf environment = .error problem := by
  rw [of_environment_eq]
  cases backendOf environment with
  | error other => simp
  | ok backend => cases databaseOf environment <;> simp

theorem of_environment_eq_iff (result : Except ConfigError Config) :
    ofEnvironment environment = result ↔ Verdict environment result := by
  cases result with
  | ok config =>
      rw [of_environment_eq_ok_iff]
      constructor
      · rintro ⟨database, cache, backend, seconds, scope, capacity⟩
        exact .accepted config database cache backend seconds scope capacity
      · intro verdict
        cases verdict with
        | accepted _ database cache backend seconds scope capacity =>
            exact ⟨database, cache, backend, seconds, scope, capacity⟩
  | error problem =>
      rw [of_environment_eq_error_iff]
      simp only [backend_of_eq_error_iff, backend_of_eq_ok_iff, database_of_eq_error_iff]
      constructor
      · rintro (⟨text, core, given, trimmed, unknown, rfl⟩ | ⟨backend, known, faulty⟩)
        · exact .unknownBackend text core given trimmed unknown
        · obtain ⟨absent, rfl⟩ | ⟨bytes, given, rfl⟩ := faulty
          · exact .databaseMissing backend known absent
          · exact .databaseUndecodable backend bytes known given
      · intro verdict
        cases verdict with
        | unknownBackend text core given trimmed unknown =>
            exact .inl ⟨text, core, given, trimmed, unknown, rfl⟩
        | databaseMissing backend known absent =>
            exact .inr ⟨backend, known, .inl ⟨absent, rfl⟩⟩
        | databaseUndecodable backend bytes known given =>
            exact .inr ⟨backend, known, .inr ⟨bytes, given, rfl⟩⟩

theorem exists_backend_or_iff (value : Option EnvironmentValue) :
    (∃ backend, BackendOr value backend) ↔
      ¬∃ text, value = some (.text text) ∧ ∀ backend : CacheBackend, ¬backend.NamedBy text := by
  constructor
  · rintro ⟨backend, known⟩ ⟨text, rfl, unknown⟩
    cases known with
    | own _ _ named => exact unknown backend named
  · intro noneUnknown
    rcases value with _ | text | bytes
    · exact ⟨_, .absent⟩
    · by_contra none
      exact noneUnknown ⟨text, rfl, fun backend named => none ⟨backend, .own text backend named⟩⟩
    · exact ⟨_, .undecodable bytes⟩

theorem accepted_iff :
    (∃ config, ofEnvironment environment = .ok config) ↔
      (∃ backend, BackendOr (environment "PERMISSION_CACHE_BACKEND") backend) ∧
        ∃ text, environment "DATABASE_URL" = some (.text text) := by
  rw [of_environment_eq]
  simp only [← backend_of_eq_ok_iff, ← database_of_eq_ok_iff]
  cases backendOf environment with
  | error problem => simp
  | ok backend => cases databaseOf environment <;> simp

theorem refused_iff :
    (∃ problem, ofEnvironment environment = .error problem) ↔
      (∃ text, environment "PERMISSION_CACHE_BACKEND" = some (.text text) ∧
        ∀ backend : CacheBackend, ¬backend.NamedBy text) ∨
      ∀ text, environment "DATABASE_URL" ≠ some (.text text) := by
  have otherwise : (∃ problem, ofEnvironment environment = .error problem) ↔
      ¬∃ config, ofEnvironment environment = .ok config := by
    cases ofEnvironment environment <;> simp
  rw [otherwise, accepted_iff, exists_backend_or_iff, not_and_or, not_not, not_exists]

theorem parts_of_own_variables :
    ∃ (database cache : Option EnvironmentValue → String)
      (backend : Option EnvironmentValue → CacheBackend)
      (seconds : Option EnvironmentValue → Nat) (scope : Option EnvironmentValue → String)
      (capacity : Option EnvironmentValue → Nat),
      ∀ environment config, ofEnvironment environment = .ok config →
        config = {
          databaseUrl := database (environment "DATABASE_URL")
          cacheUrl := cache (environment "REDIS_URL")
          cacheBackend := backend (environment "PERMISSION_CACHE_BACKEND")
          cacheSeconds := seconds (environment "PERMISSION_CACHE_TTL_SECS")
          cacheScope := scope (environment "PERMISSION_CACHE_PREFIX")
          queueCapacity := capacity (environment "INVALIDATION_QUEUE_CAPACITY") } := by
  refine ⟨fun value => (textOf (fun _ => value) "").getD "",
    fun value => (textOf (fun _ => value) "").getD "redis://localhost:6379",
    fun value => (backendOf fun _ => value).toOption.getD .shared,
    fun value => (numberOf (fun _ => value) "").getD 60,
    fun value => (textOf (fun _ => value) "").getD "canis:perm",
    fun value => ((numberOf (fun _ => value) "").filter (0 < ·)).getD 1024, ?_⟩
  intro environment config accepted
  rw [of_environment_eq] at accepted
  cases backend : backendOf environment with
  | error problem => simp [backend] at accepted
  | ok own =>
      cases database : databaseOf environment with
      | error problem => simp [backend, database] at accepted
      | ok url =>
          simp only [backend, database, Except.ok.injEq] at accepted
          subst accepted
          have backendAlone : backendOf (fun _ => environment "PERMISSION_CACHE_BACKEND") =
              .ok own := backend
          have databaseAlone : textOf (fun _ => environment "DATABASE_URL") "" = some url :=
            (text_of_eq_some_iff ..).mpr ((database_of_eq_ok_iff ..).mp database)
          simp only [backendAlone, databaseAlone]
          rfl

/-- Every environment comes to exactly one verdict. It is refused exactly if its backend is a text
that names none, or its database is missing or not UTF-8. What is accepted takes each part from that
part's own variable. -/
theorem configuration_told_by_environment :
    (∀ environment result, ofEnvironment environment = result ↔ Verdict environment result) ∧
    (∀ environment, (∃ problem, ofEnvironment environment = .error problem) ↔
      (∃ text, environment "PERMISSION_CACHE_BACKEND" = some (.text text) ∧
        ∀ backend : CacheBackend, ¬backend.NamedBy text) ∨
      ∀ text, environment "DATABASE_URL" ≠ some (.text text)) ∧
    ∃ (database cache : Option EnvironmentValue → String)
      (backend : Option EnvironmentValue → CacheBackend)
      (seconds : Option EnvironmentValue → Nat) (scope : Option EnvironmentValue → String)
      (capacity : Option EnvironmentValue → Nat),
      ∀ environment config, ofEnvironment environment = .ok config →
        config = {
          databaseUrl := database (environment "DATABASE_URL")
          cacheUrl := cache (environment "REDIS_URL")
          cacheBackend := backend (environment "PERMISSION_CACHE_BACKEND")
          cacheSeconds := seconds (environment "PERMISSION_CACHE_TTL_SECS")
          cacheScope := scope (environment "PERMISSION_CACHE_PREFIX")
          queueCapacity := capacity (environment "INVALIDATION_QUEUE_CAPACITY") } :=
  ⟨of_environment_eq_iff, refused_iff, parts_of_own_variables⟩

end Config

end ChannelAccess
