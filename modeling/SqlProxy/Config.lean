import SqlProxy.Base.Integers

/-! `config/config.cpp`: the settings that come from the environment. A variable is `none` when
it is not set. -/
namespace SqlProxy.Config
open ByteText

def minPort : Int := 1
def maxPort : Int := 65535

inductive PortSource where
  | default | environment
  deriving DecidableEq

/-- Port and source mean something only when `valid`, the error only when not. -/
structure PortResolution where
  valid : Bool
  port : UInt16
  source : PortSource
  error : Bytes
  deriving DecidableEq

/-- `std::from_chars` into an `int`. -/
def intFromChars (text : Bytes) : FromChars := fromChars (-2147483648) 2147483647 text

def invalidPort (error : Bytes) : PortResolution := ⟨false, 0, .environment, error⟩

def resolvePort (portEnvValue : Option Bytes) (defaultPort : UInt16 := 8080) : PortResolution :=
  match portEnvValue with
  | none => ⟨true, defaultPort, .default, []⟩
  | some raw =>
    if raw.isEmpty then invalidPort (ascii "PORT environment variable is set but empty")
    else
      let result := intFromChars raw
      match result.parsed, result.rest with
      | .ok parsed, [] =>
        if parsed < minPort ∨ parsed > maxPort then
          invalidPort (ascii "PORT value '" ++ raw ++ ascii "' is out of range (" ++
            integer minPort ++ ascii "-" ++ integer maxPort ++ ascii ")")
        else ⟨true, UInt16.ofNat parsed.toNat, .environment, []⟩
      | _, _ =>
        invalidPort (ascii "PORT value '" ++ raw ++ ascii "' is not a valid integer")

def defaultStatementTimeoutMs : Int := 5000
def maxStatementTimeoutMs : Int := 600000

/-- The connection string may hold a password. -/
structure DatabaseConfig where
  connectionString : Bytes := []
  statementTimeoutMs : Int := 5000
  deriving DecidableEq

structure DatabaseConfigResolution where
  valid : Bool := false
  config : DatabaseConfig := {}
  error : Bytes := []
  deriving DecidableEq

def databaseUrlMissing : Bytes :=
  ascii "DATABASE_URL environment variable is required but not set"

def timeoutEmpty : Bytes := ascii "DB_STATEMENT_TIMEOUT_MS is set but empty"

def timeoutNotInteger : Bytes := ascii "DB_STATEMENT_TIMEOUT_MS is not a valid integer"

def timeoutOutOfRange : Bytes :=
  ascii "DB_STATEMENT_TIMEOUT_MS is out of range (1-" ++ integer maxStatementTimeoutMs ++ ascii ")"

def resolveDatabaseConfig (databaseUrl statementTimeoutMs : Option Bytes) :
    DatabaseConfigResolution :=
  match databaseUrl with
  | none | some [] => { error := databaseUrlMissing }
  | some url =>
    let out : DatabaseConfigResolution := { config := { connectionString := url } }
    match statementTimeoutMs with
    | none =>
      { out with
        valid := true
        config := { out.config with statementTimeoutMs := defaultStatementTimeoutMs } }
    | some raw =>
      if raw.isEmpty then { out with error := timeoutEmpty }
      else
        let result := intFromChars raw
        match result.parsed, result.rest with
        | .ok parsed, [] =>
          if parsed ≤ 0 ∨ parsed > maxStatementTimeoutMs then
            { out with error := timeoutOutOfRange }
          else
            { out with
              valid := true
              config := { out.config with statementTimeoutMs := parsed } }
        | _, _ => { out with error := timeoutNotInteger }

/-- Whether a text is a numeral from one to `high`, beside what `std::from_chars` makes of it. -/
inductive Reading (high : Nat) (raw : Bytes) : FromChars → Prop where
  | number (n : Nat) (hn : 1 ≤ n ∧ n ≤ high) (h : IsNumeral raw n) :
      Reading high raw ⟨.ok n, []⟩
  | outOfRange (parsed : Int) (hrange : parsed < 1 ∨ high < parsed)
      (h : ∀ n, 1 ≤ n ∧ n ≤ high → ¬ IsNumeral raw n) : Reading high raw ⟨.ok parsed, []⟩
  | trailing (parsed : Int) (c : UInt8) (rest : Bytes)
      (h : ∀ n, 1 ≤ n ∧ n ≤ high → ¬ IsNumeral raw n) : Reading high raw ⟨.ok parsed, c :: rest⟩
  | invalid (e : CharsError) (rest : Bytes) (h : ∀ n, 1 ≤ n ∧ n ≤ high → ¬ IsNumeral raw n) :
      Reading high raw ⟨.error e, rest⟩

theorem reading_intFromChars {high : Nat} (hhigh : high < 2147483648) (raw : Bytes) :
    Reading high raw (intFromChars raw) := by
  have hnumeral {n : Nat} (hn : 1 ≤ n ∧ n ≤ high) :
      (intFromChars raw).parsed = .ok (n : Int) ∧ (intFromChars raw).rest = [] ↔
        IsNumeral raw n := by
    unfold intFromChars
    rw [fromChars_positive (by omega), Int.toNat_natCast]
    constructor
    · exact fun h => h.2
    · exact fun h => ⟨by omega, h⟩
  generalize intFromChars raw = result at hnumeral ⊢
  obtain ⟨parsed, rest⟩ := result
  cases parsed with
  | error e =>
    refine .invalid e rest fun n hn h => ?_
    cases ((hnumeral hn).mpr h).1
  | ok parsed =>
    cases rest with
    | cons c rest =>
      refine .trailing parsed c rest fun n hn h => ?_
      cases ((hnumeral hn).mpr h).2
    | nil =>
      by_cases hrange : 1 ≤ parsed ∧ parsed ≤ high
      · have hparsed : parsed = (parsed.toNat : Int) := by omega
        have hn : 1 ≤ parsed.toNat ∧ parsed.toNat ≤ high := by omega
        have h := (hnumeral hn).mp ⟨congrArg Except.ok hparsed, rfl⟩
        rw [hparsed]
        exact .number parsed.toNat hn h
      · refine .outOfRange parsed (by omega) fun n hn h => ?_
        have hsame := Except.ok.inj ((hnumeral hn).mpr h).1
        omega

/-- A value of `PORT` is a numeral in range and gives that port, or gives an error. -/
inductive PortRead (raw : Bytes) : PortResolution → Prop where
  | named (n : Nat) (hn : 1 ≤ n ∧ n ≤ 65535) (h : IsNumeral raw n) :
      PortRead raw ⟨true, UInt16.ofNat n, .environment, []⟩
  | refused (error : Bytes) (he : error ≠ []) (h : ∀ n, 1 ≤ n ∧ n ≤ 65535 → ¬ IsNumeral raw n) :
      PortRead raw (invalidPort error)

theorem portRead_resolvePort (raw : Bytes) (defaultPort : UInt16) :
    PortRead raw (resolvePort (some raw) defaultPort) := by
  by_cases hempty : raw = []
  · subst hempty
    exact .refused _ (by decide) fun n _ h => h.ne_nil rfl
  · have hraw : raw.isEmpty = false := by simpa using hempty
    have hreading := reading_intFromChars (show 65535 < 2147483648 by decide) raw
    simp only [resolvePort, hraw, Bool.false_eq_true, if_false]
    generalize intFromChars raw = result at hreading
    have hmessage (text rest : Bytes) : ascii "PORT value '" ++ text ++ rest ≠ [] := by
      simp [ascii]
    cases hreading with
    | number n hn h =>
      have hin : ¬ ((n : Int) < minPort ∨ (n : Int) > maxPort) := by
        simp only [minPort, maxPort]
        omega
      simp only [hin, if_false, Int.toNat_natCast]
      exact .named n hn h
    | outOfRange parsed hrange h =>
      have hout : parsed < minPort ∨ parsed > maxPort := hrange
      simp only [hout, if_true]
      refine .refused _ ?_ h
      simp only [List.append_assoc]
      rw [← List.append_assoc]
      exact hmessage _ _
    | trailing parsed c rest h => exact .refused _ (hmessage _ _) h
    | invalid e rest h => exact .refused _ (hmessage _ _) h

/-- The port is the one `PORT` names, and the default while it is not set; every value that is
no numeral of a port is an error. -/
theorem resolvePort_spec (portEnvValue : Option Bytes) (defaultPort : UInt16) :
    ((resolvePort portEnvValue defaultPort).valid = true ↔ portEnvValue = none ∨
      ∃ raw n, portEnvValue = some raw ∧ IsNumeral raw n ∧ 1 ≤ n ∧ n ≤ 65535) ∧
    (portEnvValue = none →
      resolvePort portEnvValue defaultPort = ⟨true, defaultPort, .default, []⟩) ∧
    (∀ raw n, portEnvValue = some raw → IsNumeral raw n → 1 ≤ n ∧ n ≤ 65535 →
      resolvePort portEnvValue defaultPort = ⟨true, UInt16.ofNat n, .environment, []⟩) ∧
    ((resolvePort portEnvValue defaultPort).valid = false ↔
      (resolvePort portEnvValue defaultPort).error ≠ []) := by
  cases portEnvValue with
  | none => simp [resolvePort]
  | some raw =>
    have hread := portRead_resolvePort raw defaultPort
    generalize resolvePort (some raw) defaultPort = resolution at hread
    cases hread with
    | named n hn h =>
      refine ⟨⟨fun _ => .inr ⟨raw, n, rfl, h, hn⟩, fun _ => rfl⟩, nofun, ?_, by simp⟩
      intro raw' m hraw hm _
      cases hraw
      rw [← numeral_of_isNumeral h, ← numeral_of_isNumeral hm]
    | refused error he h =>
      refine ⟨⟨nofun, ?_⟩, nofun, ?_, ⟨fun _ => he, fun _ => rfl⟩⟩
      · rintro (hnone | ⟨raw', n, hraw, hn, hrange⟩)
        · cases hnone
        · cases hraw
          exact absurd hn (h n hrange)
      · intro raw' n hraw hn hrange
        cases hraw
        exact absurd hn (h n hrange)

/-- All that is ever said about the database settings: no text holds a value. -/
def databaseErrors : List Bytes :=
  [databaseUrlMissing, timeoutEmpty, timeoutNotInteger, timeoutOutOfRange]

/-- The same for the timeout, beside a connection string. -/
inductive TimeoutRead (url : Bytes) : Option Bytes → DatabaseConfigResolution → Prop where
  | unset : TimeoutRead url none ⟨true, ⟨url, defaultStatementTimeoutMs⟩, []⟩
  | named {raw : Bytes} (n : Nat) (hn : 1 ≤ n ∧ n ≤ 600000) (h : IsNumeral raw n) :
      TimeoutRead url (some raw) ⟨true, ⟨url, n⟩, []⟩
  | refused {raw : Bytes} (error : Bytes) (he : error ∈ databaseErrors)
      (h : ∀ n, 1 ≤ n ∧ n ≤ 600000 → ¬ IsNumeral raw n) :
      TimeoutRead url (some raw) ⟨false, ⟨url, 5000⟩, error⟩

theorem timeoutRead_resolveDatabaseConfig {url : Bytes} (hurl : url ≠ [])
    (statementTimeoutMs : Option Bytes) :
    TimeoutRead url statementTimeoutMs
      (resolveDatabaseConfig (some url) statementTimeoutMs) := by
  obtain ⟨c, url, rfl⟩ := List.exists_cons_of_ne_nil hurl
  cases statementTimeoutMs with
  | none => exact .unset
  | some raw =>
    by_cases hempty : raw = []
    · subst hempty
      exact .refused _ (by simp [databaseErrors]) fun n _ h => h.ne_nil rfl
    · have hraw : raw.isEmpty = false := by simpa using hempty
      have hreading := reading_intFromChars (show 600000 < 2147483648 by decide) raw
      simp only [resolveDatabaseConfig, hraw, Bool.false_eq_true, if_false]
      generalize intFromChars raw = result at hreading
      cases hreading with
      | number n hn h =>
        have hin : ¬ ((n : Int) ≤ 0 ∨ (n : Int) > maxStatementTimeoutMs) := by
          simp only [maxStatementTimeoutMs]
          omega
        simp only [hin, if_false]
        exact .named n hn h
      | outOfRange parsed hrange h =>
        have hout : parsed ≤ 0 ∨ parsed > maxStatementTimeoutMs := by
          simp only [maxStatementTimeoutMs]
          omega
        simp only [hout, if_true]
        exact .refused _ (by simp [databaseErrors]) h
      | trailing parsed c rest h => exact .refused _ (by simp [databaseErrors]) h
      | invalid e rest h => exact .refused _ (by simp [databaseErrors]) h

theorem resolveDatabaseConfig_missing {databaseUrl : Option Bytes}
    (h : ∀ url, databaseUrl = some url → url = []) (statementTimeoutMs : Option Bytes) :
    resolveDatabaseConfig databaseUrl statementTimeoutMs = { error := databaseUrlMissing } := by
  cases databaseUrl with
  | none => rfl
  | some url =>
    rw [h url rfl]
    rfl

/-- What a database configuration is good for: there is something to connect to, and every
statement has a time limit of at most ten minutes. -/
structure Usable (config : DatabaseConfig) : Prop where
  url : config.connectionString ≠ []
  timeout : 1 ≤ config.statementTimeoutMs ∧ config.statementTimeoutMs ≤ 600000

/-- The database configuration is valid exactly when there is a connection string and the
timeout is not set or a numeral in range. Then it is usable; else the error is one of four fixed
texts. -/
theorem resolveDatabaseConfig_spec (databaseUrl statementTimeoutMs : Option Bytes) :
    ((resolveDatabaseConfig databaseUrl statementTimeoutMs).valid = true ↔
      (∃ url, databaseUrl = some url ∧ url ≠ []) ∧ (statementTimeoutMs = none ∨
        ∃ raw n, statementTimeoutMs = some raw ∧ IsNumeral raw n ∧ 1 ≤ n ∧ n ≤ 600000)) ∧
    ((resolveDatabaseConfig databaseUrl statementTimeoutMs).valid = true →
      Usable (resolveDatabaseConfig databaseUrl statementTimeoutMs).config ∧
      databaseUrl =
        some (resolveDatabaseConfig databaseUrl statementTimeoutMs).config.connectionString ∧
      ∀ raw, statementTimeoutMs = some raw → IsNumeral raw
        (resolveDatabaseConfig databaseUrl statementTimeoutMs).config.statementTimeoutMs.toNat) ∧
    ((resolveDatabaseConfig databaseUrl statementTimeoutMs).valid = false →
      (resolveDatabaseConfig databaseUrl statementTimeoutMs).error ∈ databaseErrors) := by
  by_cases hurl : ∃ url, databaseUrl = some url ∧ url ≠ []
  · obtain ⟨url, rfl, hne⟩ := hurl
    have hread := timeoutRead_resolveDatabaseConfig hne statementTimeoutMs
    generalize resolveDatabaseConfig (some url) statementTimeoutMs = resolution at hread
    cases hread with
    | unset =>
      refine ⟨⟨fun _ => ⟨⟨url, rfl, hne⟩, .inl rfl⟩, fun _ => rfl⟩, fun _ => ?_, nofun⟩
      have htimeout : 1 ≤ defaultStatementTimeoutMs ∧ defaultStatementTimeoutMs ≤ 600000 := by
        decide
      exact ⟨⟨hne, htimeout⟩, rfl, nofun⟩
    | @named raw n hn h =>
      refine ⟨⟨fun _ => ⟨⟨url, rfl, hne⟩, .inr ⟨raw, n, rfl, h, hn⟩⟩, fun _ => rfl⟩, fun _ => ?_,
        nofun⟩
      have htimeout : 1 ≤ (n : Int) ∧ (n : Int) ≤ 600000 := by omega
      refine ⟨⟨hne, htimeout⟩, rfl, ?_⟩
      intro raw' hraw
      cases hraw
      rwa [Int.toNat_natCast]
    | refused error he h =>
      refine ⟨⟨nofun, ?_⟩, nofun, fun _ => he⟩
      rintro ⟨-, hnone | ⟨raw, n, hraw, hn, hrange⟩⟩
      · cases hnone
      · cases hraw
        exact absurd hn (h n hrange)
  · have hmissing : ∀ url, databaseUrl = some url → url = [] := by
      intro url hsome
      by_contra hne
      exact hurl ⟨url, hsome, hne⟩
    rw [resolveDatabaseConfig_missing hmissing]
    exact ⟨⟨nofun, fun h => absurd h.1 hurl⟩, nofun, fun _ => List.mem_cons_self⟩

/-- Nothing but the connection string itself depends on what the connection string is. -/
theorem resolveDatabaseConfig_url {url url' : Bytes} (hurl : url ≠ []) (hurl' : url' ≠ [])
    (statementTimeoutMs : Option Bytes) :
    resolveDatabaseConfig (some url') statementTimeoutMs =
      { resolveDatabaseConfig (some url) statementTimeoutMs with
        config :=
          { (resolveDatabaseConfig (some url) statementTimeoutMs).config with
            connectionString := url' } } := by
  obtain ⟨c, url, rfl⟩ := List.exists_cons_of_ne_nil hurl
  obtain ⟨c', url', rfl⟩ := List.exists_cons_of_ne_nil hurl'
  cases statementTimeoutMs with
  | none => rfl
  | some raw =>
    simp only [resolveDatabaseConfig]
    by_cases hempty : raw.isEmpty = true
    · simp only [hempty, if_true]
    · simp only [hempty, Bool.false_eq_true, if_false]
      generalize intFromChars raw = result
      obtain ⟨parsed, rest⟩ := result
      cases parsed with
      | error e => rfl
      | ok parsed =>
        cases rest with
        | nil =>
          by_cases hout : parsed ≤ 0 ∨ parsed > maxStatementTimeoutMs
          · simp only [hout, if_true]
          · simp only [hout, if_false]
        | cons c rest => rfl

example : (resolvePort (some (ascii "0080"))).port = 80 ∧
    (resolvePort (some (ascii "+80"))).valid = false := by decide +kernel

end SqlProxy.Config
