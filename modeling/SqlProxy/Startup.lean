import SqlProxy.Base.CallProgram
import SqlProxy.Config

/-! `main.cpp` with `HttpServer::run`: from the environment of the process to its exit code. -/
namespace SqlProxy.Startup
open ByteText CallProgram Config

/-- What the process does while it starts: lines of its log, the audit file, and the server with
the database that its service is wired to. -/
inductive HostCall where
  | info (text : Bytes)
  | error (text : Bytes)
  | openAudit (path : Bytes)
  | listen (database : DatabaseConfig) (port : UInt16)
  deriving DecidableEq

/-- `listen` returns when the server is stopped, or false if it cannot bind. -/
abbrev HostCall.Reply : HostCall → Type
  | .listen _ _ => Bool
  | _ => Unit

abbrev Host := CallProgram HostCall HostCall.Reply Empty

def askHost (c : HostCall) : Host c.Reply := perform c

def info (text : Bytes) : Host Unit := askHost (.info text)
def error (text : Bytes) : Host Unit := askHost (.error text)
def openAudit (path : Bytes) : Host Unit := askHost (.openAudit path)
def listen (database : DatabaseConfig) (port : UInt16) : Host Bool :=
  askHost (.listen database port)

def defaultAuditLogPath : Bytes := ascii "audit.jsonl"

def resolveAuditLogPath (getenv : Bytes → Option Bytes) : Bytes :=
  match getenv (ascii "AUDIT_LOG_PATH") with
  | some (c :: configured) => c :: configured
  | _ => defaultAuditLogPath

/-- `HttpServer::run`. -/
def run (database : DatabaseConfig) (port : UInt16) : Host Bool := do
  info (ascii "HTTP server listening on port " ++ integer port.toNat)
  listen database port

def startupFailed (reason : Bytes) : Host Int := do
  error (ascii "Startup failed: " ++ reason)
  pure 1

def portSourceText : PortSource → Bytes
  | .environment => ascii "PORT env var"
  | .default => ascii "default"

def main (getenv : Bytes → Option Bytes) : Host Int :=
  let portResolution := resolvePort (getenv (ascii "PORT"))
  if !portResolution.valid then startupFailed portResolution.error
  else
    let databaseResolution := resolveDatabaseConfig (getenv (ascii "DATABASE_URL"))
      (getenv (ascii "DB_STATEMENT_TIMEOUT_MS"))
    if !databaseResolution.valid then startupFailed databaseResolution.error
    else do
      info (ascii "Starting sql-proxy-service (port source: " ++
        portSourceText portResolution.source ++ ascii ")")
      openAudit (resolveAuditLogPath getenv)
      let cleanExit ← run databaseResolution.config portResolution.port
      if !cleanExit then do
        error (ascii "HTTP server failed to bind to port " ++ integer portResolution.port.toNat)
        pure 1
      else pure 0

/-- A host on which some ports can be bound. -/
def answers (binds : UInt16 → Bool) : (c : HostCall) → Except Empty c.Reply
  | .listen _ port => .ok (binds port)
  | .info _ | .error _ | .openAudit _ => .ok ()

section Runs
variable (getenv : Bytes → Option Bytes) (binds : UInt16 → Bool)

def hostCalls : List HostCall := ((main getenv).trace (answers binds)).map Event.call

def exitCode : Except Empty Int := (main getenv).result (answers binds)

end Runs

/-- A numeral in range, or the default where the variable is not set. -/
inductive Names (high default : Nat) : Option Bytes → Nat → Prop where
  | unset : Names high default none default
  | numeral {raw : Bytes} {n : Nat} (h : IsNumeral raw n) (hn : 1 ≤ n ∧ n ≤ high) :
      Names high default (some raw) n

/-- What an environment has to say for the service to start. -/
structure Settings where
  port : Nat
  url : Bytes
  timeoutMs : Nat

structure Configured (getenv : Bytes → Option Bytes) (settings : Settings) : Prop where
  port : Names 65535 8080 (getenv (ascii "PORT")) settings.port
  url : getenv (ascii "DATABASE_URL") = some settings.url
  url_ne_nil : settings.url ≠ []
  timeout : Names 600000 5000 (getenv (ascii "DB_STATEMENT_TIMEOUT_MS")) settings.timeoutMs

section Specs
variable {getenv : Bytes → Option Bytes} (binds : UInt16 → Bool)

theorem hostCalls_failed {reason : Bytes} (h : main getenv = startupFailed reason) :
    hostCalls getenv binds = [.error (ascii "Startup failed: " ++ reason)] ∧
      exitCode getenv binds = .ok 1 := by
  rw [hostCalls, exitCode, h]
  exact ⟨rfl, rfl⟩

/-- What is left to do when the server has returned. -/
def exitWith (port : UInt16) (cleanExit : Bool) : Host Int :=
  if !cleanExit then do
    error (ascii "HTTP server failed to bind to port " ++ integer port.toNat)
    pure 1
  else pure 0

/-- What the process does when it starts. -/
theorem hostCalls_started {port : UInt16} {source : PortSource} {database : DatabaseConfig}
    {perror derror : Bytes}
    (hport : resolvePort (getenv (ascii "PORT")) = ⟨true, port, source, perror⟩)
    (hdatabase : resolveDatabaseConfig (getenv (ascii "DATABASE_URL"))
      (getenv (ascii "DB_STATEMENT_TIMEOUT_MS")) = ⟨true, database, derror⟩) :
    hostCalls getenv binds =
      [.info (ascii "Starting sql-proxy-service (port source: " ++ portSourceText source ++
          ascii ")"),
        .openAudit (resolveAuditLogPath getenv),
        .info (ascii "HTTP server listening on port " ++ integer port.toNat),
        .listen database port] ++
      (if binds port then []
        else [.error (ascii "HTTP server failed to bind to port " ++ integer port.toNat)]) ∧
    exitCode getenv binds = .ok (if binds port then 0 else 1) := by
  have hcalls : hostCalls getenv binds =
      [.info (ascii "Starting sql-proxy-service (port source: " ++ portSourceText source ++
          ascii ")"),
        .openAudit (resolveAuditLogPath getenv),
        .info (ascii "HTTP server listening on port " ++ integer port.toNat),
        .listen database port] ++
      ((exitWith port (binds port)).trace (answers binds)).map Event.call := by
    unfold hostCalls main
    rw [hport, hdatabase]
    rfl
  have hexit : exitCode getenv binds = (exitWith port (binds port)).result (answers binds) := by
    unfold exitCode main
    rw [hport, hdatabase]
    rfl
  rw [hcalls, hexit]
  cases binds port with
  | true => exact ⟨rfl, rfl⟩
  | false => exact ⟨rfl, rfl⟩

def sourceOf (value : Option Bytes) : PortSource :=
  if value.isSome then .environment else .default

theorem names_port {value : Option Bytes} {n : Nat} (h : Names 65535 8080 value n) :
    resolvePort value = ⟨true, UInt16.ofNat n, sourceOf value, []⟩ := by
  cases h with
  | unset => rfl
  | @numeral raw n h hn =>
    have hread := portRead_resolvePort raw 8080
    generalize resolvePort (some raw) 8080 = resolution at hread
    cases hread with
    | named m hm hraw =>
      rw [(numeral_of_isNumeral hraw).symm.trans (numeral_of_isNumeral h)]
      rfl
    | refused _ _ hno => exact absurd h (hno n hn)

theorem names_le {high default : Nat} {value : Option Bytes} {n : Nat}
    (h : Names high default value n) (hdefault : default ≤ high) : n ≤ high := by
  cases h with
  | unset => exact hdefault
  | numeral _ hn => exact hn.2

theorem port_of_valid {value : Option Bytes} (h : (resolvePort value).valid = true) :
    ∃ n, Names 65535 8080 value n := by
  cases value with
  | none => exact ⟨8080, .unset⟩
  | some raw =>
    have hread := portRead_resolvePort raw 8080
    generalize resolvePort (some raw) 8080 = resolution at hread h
    cases hread with
    | named n hn hraw => exact ⟨n, .numeral hraw hn⟩
    | refused => cases h

theorem port_error {value : Option Bytes} (h : (resolvePort value).valid = false) :
    (resolvePort value).error ≠ [] := by
  cases value with
  | none => cases h
  | some raw =>
    have hread := portRead_resolvePort raw 8080
    generalize resolvePort (some raw) 8080 = resolution at hread h
    cases hread with
    | named => cases h
    | refused error he => exact he

theorem url_missing {url : Option Bytes} (h : ¬ ∃ url', url = some url' ∧ url' ≠ []) :
    ∀ url', url = some url' → url' = [] := by
  intro url' hsome
  by_contra hne
  exact h ⟨url', hsome, hne⟩

theorem names_database {url : Bytes} (hurl : url ≠ []) {value : Option Bytes} {n : Nat}
    (h : Names 600000 5000 value n) :
    resolveDatabaseConfig (some url) value = ⟨true, ⟨url, n⟩, []⟩ := by
  have hread := timeoutRead_resolveDatabaseConfig hurl value
  generalize resolveDatabaseConfig (some url) value = resolution at hread
  cases h with
  | unset =>
    cases hread
    rfl
  | numeral h hn =>
    cases hread with
    | named m hm hraw =>
      rw [(numeral_of_isNumeral hraw).symm.trans (numeral_of_isNumeral h)]
    | refused _ _ hno => exact absurd h (hno n hn)

theorem database_of_valid {url value : Option Bytes}
    (h : (resolveDatabaseConfig url value).valid = true) :
    ∃ url' n, url = some url' ∧ url' ≠ [] ∧ Names 600000 5000 value n := by
  by_cases hurl : ∃ url', url = some url' ∧ url' ≠ []
  · obtain ⟨url', rfl, hne⟩ := hurl
    have hread := timeoutRead_resolveDatabaseConfig hne value
    generalize resolveDatabaseConfig (some url') value = resolution at hread h
    cases hread with
    | unset => exact ⟨url', 5000, rfl, hne, .unset⟩
    | named n hn hraw => exact ⟨url', n, rfl, hne, .numeral hraw hn⟩
    | refused => cases h
  · rw [resolveDatabaseConfig_missing (url_missing hurl)] at h
    cases h

theorem database_error {url value : Option Bytes}
    (h : (resolveDatabaseConfig url value).valid = false) :
    (resolveDatabaseConfig url value).error ∈ databaseErrors := by
  by_cases hurl : ∃ url', url = some url' ∧ url' ≠ []
  · obtain ⟨url', rfl, hne⟩ := hurl
    have hread := timeoutRead_resolveDatabaseConfig hne value
    generalize resolveDatabaseConfig (some url') value = resolution at hread h
    cases hread with
    | unset => cases h
    | named => cases h
    | refused error he => exact he
  · rw [resolveDatabaseConfig_missing (url_missing hurl)]
    exact List.mem_cons_self

end Specs

/-- What the process does with its settings until the server returns. -/
def launched (getenv : Bytes → Option Bytes) (settings : Settings) : List HostCall :=
  [.info (ascii "Starting sql-proxy-service (port source: " ++
      portSourceText (sourceOf (getenv (ascii "PORT"))) ++ ascii ")"),
    .openAudit (resolveAuditLogPath getenv),
    .info (ascii "HTTP server listening on port " ++ integer settings.port),
    .listen ⟨settings.url, settings.timeoutMs⟩ (UInt16.ofNat settings.port)]

/-- Where the environment has what is needed, the process listens once, with these settings, and
its exit code tells whether the port could be bound. Else it says what is wrong and exits with a
failure. -/
theorem main_spec (getenv : Bytes → Option Bytes) (binds : UInt16 → Bool) :
    (∀ settings, Configured getenv settings →
      if binds (UInt16.ofNat settings.port) then
        hostCalls getenv binds = launched getenv settings ∧ exitCode getenv binds = .ok 0
      else
        hostCalls getenv binds = launched getenv settings ++
          [.error (ascii "HTTP server failed to bind to port " ++ integer settings.port)] ∧
        exitCode getenv binds = .ok 1) ∧
    ((¬ ∃ settings, Configured getenv settings) → ∃ reason, reason ≠ [] ∧
      hostCalls getenv binds = [.error (ascii "Startup failed: " ++ reason)] ∧
      exitCode getenv binds = .ok 1) := by
  constructor
  · intro settings h
    have hport := names_port h.port
    have hdatabase := names_database h.url_ne_nil h.timeout
    rw [← h.url] at hdatabase
    have hle := names_le h.port (by decide)
    have hnumber : (UInt16.ofNat settings.port).toNat = settings.port :=
      UInt16.toNat_ofNat_of_lt' (Nat.lt_succ_of_le hle)
    obtain ⟨hcalls, hexit⟩ := hostCalls_started binds hport hdatabase
    rw [hnumber] at hcalls
    rw [hcalls, hexit]
    split_ifs
    · exact ⟨rfl, rfl⟩
    · exact ⟨rfl, rfl⟩
  · intro hno
    cases hport : (resolvePort (getenv (ascii "PORT"))).valid with
    | false =>
      have hmain : main getenv = startupFailed (resolvePort (getenv (ascii "PORT"))).error := by
        simp [main, hport]
      obtain ⟨hcalls, hexit⟩ := hostCalls_failed binds hmain
      exact ⟨_, port_error hport, hcalls, hexit⟩
    | true =>
      cases hdatabase : (resolveDatabaseConfig (getenv (ascii "DATABASE_URL"))
          (getenv (ascii "DB_STATEMENT_TIMEOUT_MS"))).valid with
      | false =>
        have hmain : main getenv = startupFailed (resolveDatabaseConfig
            (getenv (ascii "DATABASE_URL")) (getenv (ascii "DB_STATEMENT_TIMEOUT_MS"))).error := by
          simp [main, hport, hdatabase]
        obtain ⟨hcalls, hexit⟩ := hostCalls_failed binds hmain
        have hfixed : ∀ reason ∈ databaseErrors, reason ≠ [] := by decide +kernel
        exact ⟨_, hfixed _ (database_error hdatabase), hcalls, hexit⟩
      | true =>
        obtain ⟨port, hnamed⟩ := port_of_valid hport
        obtain ⟨url, timeoutMs, hurl, hne, htimeout⟩ := database_of_valid hdatabase
        exact absurd ⟨⟨port, url, timeoutMs⟩, hnamed, hurl, hne, htimeout⟩ hno

/-- What an operator sees of a call. The connection string goes to the driver alone. -/
def visible : HostCall → HostCall
  | .listen database port => .listen { database with connectionString := [] } port
  | c => c

/-- A resolution without its connection string. -/
def DatabaseConfigResolution.hidden (resolution : DatabaseConfigResolution) :
    DatabaseConfigResolution :=
  { resolution with config := { resolution.config with connectionString := [] } }

open DatabaseConfigResolution in
/-- Whether there is a connection string can be told from what the settings come to, and nothing
else about it. -/
theorem hidden_resolve {url url' : Option Bytes} (value : Option Bytes)
    (hset : (∃ u, url = some u ∧ u ≠ []) ↔ ∃ u, url' = some u ∧ u ≠ []) :
    hidden (resolveDatabaseConfig url value) = hidden (resolveDatabaseConfig url' value) := by
  by_cases hurl : ∃ u, url = some u ∧ u ≠ []
  · obtain ⟨u', hu', hne'⟩ := hset.mp hurl
    obtain ⟨u, hu, hne⟩ := hurl
    rw [hu, hu', resolveDatabaseConfig_url hne hne']
    rfl
  · have hurl' : ¬ ∃ u, url' = some u ∧ u ≠ [] := fun h => hurl (hset.mpr h)
    rw [resolveDatabaseConfig_missing (url_missing hurl),
      resolveDatabaseConfig_missing (url_missing hurl')]

/-- Two processes that fail for one reason cannot be told apart. -/
theorem visible_failed {getenv getenv' : Bytes → Option Bytes} (binds : UInt16 → Bool)
    {reason : Bytes} (h : main getenv = startupFailed reason)
    (h' : main getenv' = startupFailed reason) :
    (hostCalls getenv binds).map visible = (hostCalls getenv' binds).map visible ∧
      exitCode getenv binds = exitCode getenv' binds := by
  obtain ⟨hcalls, hexit⟩ := hostCalls_failed binds h
  obtain ⟨hcalls', hexit'⟩ := hostCalls_failed binds h'
  rw [hcalls, hcalls', hexit, hexit']
  exact ⟨rfl, rfl⟩

/-- The log, the files and the exit code are the same whatever connection string is set. -/
theorem main_url_secret (getenv getenv' : Bytes → Option Bytes) (binds : UInt16 → Bool)
    (hsame : ∀ name, name ≠ ascii "DATABASE_URL" → getenv name = getenv' name)
    (hset : (∃ url, getenv (ascii "DATABASE_URL") = some url ∧ url ≠ []) ↔
      ∃ url, getenv' (ascii "DATABASE_URL") = some url ∧ url ≠ []) :
    (hostCalls getenv binds).map visible = (hostCalls getenv' binds).map visible ∧
      exitCode getenv binds = exitCode getenv' binds := by
  have hport := hsame (ascii "PORT") (by decide +kernel)
  have htimeout := hsame (ascii "DB_STATEMENT_TIMEOUT_MS") (by decide +kernel)
  have hpath : resolveAuditLogPath getenv = resolveAuditLogPath getenv' := by
    rw [resolveAuditLogPath, hsame (ascii "AUDIT_LOG_PATH") (by decide +kernel)]
    rfl
  have hdatabase := hidden_resolve (getenv (ascii "DB_STATEMENT_TIMEOUT_MS")) hset
  cases hresolved : resolvePort (getenv (ascii "PORT")) with
  | mk valid port source perror =>
    have hresolved' := hport ▸ hresolved
    cases valid with
    | false =>
      have hmain : main getenv = startupFailed perror := by simp [main, hresolved]
      have hmain' : main getenv' = startupFailed perror := by simp [main, hresolved']
      exact visible_failed binds hmain hmain'
    | true =>
      cases hd : resolveDatabaseConfig (getenv (ascii "DATABASE_URL"))
          (getenv (ascii "DB_STATEMENT_TIMEOUT_MS")) with
      | mk valid database derror =>
        cases hd' : resolveDatabaseConfig (getenv' (ascii "DATABASE_URL"))
            (getenv (ascii "DB_STATEMENT_TIMEOUT_MS")) with
        | mk valid' database' derror' =>
          rw [hd, hd'] at hdatabase
          obtain ⟨rfl, hconfig, rfl⟩ := DatabaseConfigResolution.mk.inj hdatabase
          rw [htimeout] at hd'
          cases valid with
          | false =>
            have hmain : main getenv = startupFailed derror := by simp [main, hresolved, hd]
            have hmain' : main getenv' = startupFailed derror := by simp [main, hresolved', hd']
            exact visible_failed binds hmain hmain'
          | true =>
            obtain ⟨hcalls, hexit⟩ := hostCalls_started binds hresolved hd
            obtain ⟨hcalls', hexit'⟩ := hostCalls_started binds hresolved' hd'
            have hlisten : visible (.listen database port) = visible (.listen database' port) :=
              congrArg (fun config => HostCall.listen config port) hconfig
            rw [hcalls, hcalls', hexit, hexit', hpath]
            simp only [List.map_append, List.map_cons, List.map_nil, hlisten, and_self]

/-- An environment with nothing but a connection string. -/
def withUrl (url : Bytes) (name : Bytes) : Option Bytes :=
  if name = ascii "DATABASE_URL" then some url else none

theorem main_url_secret_passwords :
    (hostCalls (withUrl (ascii "postgresql://proxy:hunter2@db/shop")) fun _ => true).map visible =
        (hostCalls (withUrl (ascii "postgresql://localhost")) fun _ => true).map visible ∧
      exitCode (withUrl (ascii "postgresql://proxy:hunter2@db/shop")) (fun _ => true) =
        exitCode (withUrl (ascii "postgresql://localhost")) fun _ => true := by
  refine main_url_secret _ _ _ ?_ ⟨fun _ => ?_, fun _ => ?_⟩
  · intro name hname
    simp [withUrl, hname]
  · exact ⟨_, if_pos rfl, by decide +kernel⟩
  · exact ⟨_, if_pos rfl, by decide +kernel⟩

end SqlProxy.Startup
