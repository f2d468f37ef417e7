import SqlProxy.Base.Machine
import Mathlib.Data.List.Flatten
import Mathlib.Logic.Function.Basic
import Mathlib.Logic.Relation

/-! Any number of clients run call programs on one machine, which has one mutex. Programs that
do all they do between taking the mutex and giving it back are served one after another:
whatever the order of steps, the machine and the clients end up as if whole programs had run. -/
namespace Monitor
open CallProgram

/-- What a call does to the mutex. -/
inductive Use where
  | acquire | release | other
  deriving DecidableEq

section Defs
variable (κ : Type) (ρ : κ → Type) (ε α σ ι J : Type)

/-- A program under way: the calls it has been answered, and what is left of it. -/
structure Running where
  job : J
  past : List (Event κ ρ ε)
  rest : CallProgram κ ρ ε α

/-- A program that has ended, with its calls. -/
structure Completed where
  job : J
  events : List (Event κ ρ ε)
  result : Except ε α

structure Client where
  running : Option (Running κ ρ ε α J) := none
  completed : List (Completed κ ρ ε α J) := []

structure System where
  owner : Option ι := none
  state : σ
  clients : ι → Client κ ρ ε α J := fun _ => {}

end Defs

variable {κ : Type} {ρ : κ → Type} {ε α σ ι J : Type}

/-- How the mutex passes when client `i` makes a call of some use. -/
inductive Passes (i : ι) : Use → Option ι → Option ι → Prop
  | acquire : Passes i .acquire none (some i)
  | release (owner : Option ι) : Passes i .release owner none
  | other (owner : Option ι) : Passes i .other owner owner

section Steps
variable [DecidableEq ι] (use : κ → Use) (m : Machine κ ρ ε σ) (program : J → CallProgram κ ρ ε α)

def System.put (s : System κ ρ ε α σ ι J) (i : ι) (client : Client κ ρ ε α J) :
    System κ ρ ε α σ ι J :=
  { s with clients := Function.update s.clients i client }

/-- Client `i`, which is under way, gets an answer, or has come to its end. -/
inductive Advance (i : ι) : System κ ρ ε α σ ι J → System κ ρ ε α σ ι J → Prop
  | answer {s : System κ ρ ε α σ ι J} {j : J} {past : List (Event κ ρ ε)} {c : κ}
      {next : Except ε (ρ c) → CallProgram κ ρ ε α}
      (h : (s.clients i).running = some ⟨j, past, .call c next⟩) {owner : Option ι}
      (hp : Passes i (use c) s.owner owner) {r : Except ε (ρ c)} {state : σ}
      (hm : m s.state c r state) :
      Advance i s (System.put ⟨owner, state, s.clients⟩ i
        { s.clients i with running := some ⟨j, past ++ [⟨c, r⟩], next r⟩ })
  | finish {s : System κ ρ ε α σ ι J} {j : J} {past : List (Event κ ρ ε)}
      {result : Except ε α} (h : (s.clients i).running = some ⟨j, past, .done result⟩) :
      Advance i s (s.put i ⟨none, (s.clients i).completed ++ [⟨j, past, result⟩]⟩)

inductive Step : System κ ρ ε α σ ι J → System κ ρ ε α σ ι J → Prop
  | start {s : System κ ρ ε α σ ι J} (i : ι) (j : J) (h : (s.clients i).running = none) :
      Step s (s.put i { s.clients i with running := some ⟨j, [], program j⟩ })
  | advance {s s' : System κ ρ ε α σ ι J} {i : ι} (h : Advance use m i s s') : Step s s'

def Steps : System κ ρ ε α σ ι J → System κ ρ ε α σ ι J → Prop :=
  Relation.ReflTransGen (Step use m program)

/-- The states under every order of steps, from a machine in state `init`. -/
def Reachable (init : σ) (s : System κ ρ ε α σ ι J) : Prop :=
  Steps use m program { state := init } s

end Steps

/-! The discipline. -/

inductive Phase where
  | before | inside | after

def Possible (m : Machine κ ρ ε σ) (c : κ) (r : Except ε (ρ c)) : Prop := ∃ s s', m s c r s'

/-- Nothing is called before the mutex is taken, and nothing after it is given back. -/
def Sectioned (use : κ → Use) (m : Machine κ ρ ε σ) : Phase → CallProgram κ ρ ε α → Prop
  | .before, .done _ => True
  | .before, .call c next =>
    use c = .acquire ∧ ∀ r, Possible m c r → Sectioned use m .inside (next r)
  | .inside, .done _ => False
  | .inside, .call c next =>
    use c = .other ∧ (∀ r, Possible m c r → Sectioned use m .inside (next r)) ∨
      use c = .release ∧ ∀ r, Possible m c r → Sectioned use m .after (next r)
  | .after, .done _ => True
  | .after, .call _ _ => False

section Discipline
variable {β : Type} {use : κ → Use} {m : Machine κ ρ ε σ}

/-- A program that leaves the mutex alone. -/
def Free (use : κ → Use) : CallProgram κ ρ ε α → Prop
  | .done _ => True
  | .call c next => use c = .other ∧ ∀ r, Free use (next r)

/-- Calls in the order of a rank leave the mutex alone between the ranks of its calls. -/
theorem free_of_ranked [Inhabited ε] {rank : κ → Nat} {n k : Nat} {p : CallProgram κ ρ ε α}
    (h : p.Ranked rank n k) (hfree : ∀ c, n ≤ rank c → rank c < k → use c = .other) :
    Free use p := by
  have hle (p : CallProgram κ ρ ε α) : ∀ n, p.Ranked rank n k → n ≤ k := by
    induction p with
    | done r => exact fun n h => h
    | call c next ih =>
      intro n h
      have hrest := ih (.error default) _ (h.2 (.error default))
      have hfirst := h.1
      omega
  induction p generalizing n with
  | done r => trivial
  | call c next ih =>
    have hlt := hle _ _ (h.2 (.error default))
    refine ⟨hfree c h.1 (by omega), fun r => ih r (h.2 r) fun c' hc' => hfree c' ?_⟩
    have hfirst := h.1
    omega

/-- A program that leaves the mutex alone, and then gives it back on every way out. -/
theorem sectioned_ensuring {p : CallProgram κ ρ ε α} {c : κ} {next : Except ε (ρ c) →
    CallProgram κ ρ ε Unit} (hp : Free use p) (hc : use c = .release)
    (hnext : ∀ r, ∃ r', next r = .done r') :
    Sectioned use m .inside (p.ensuring (.call c next)) := by
  induction p with
  | done r =>
    refine .inr ⟨hc, fun reply _ => ?_⟩
    change Sectioned use m .after ((next reply).bind fun _ => .done r)
    obtain ⟨r', hr'⟩ := hnext reply
    rw [hr']
    cases r' <;> trivial
  | call c' next' ih => exact .inl ⟨hp.1, fun r _ => ih r (hp.2 r)⟩

/-- What is made of the result when the mutex has been given back. -/
theorem sectioned_bind {phase : Phase} {p : CallProgram κ ρ ε α} {f : α → CallProgram κ ρ ε β}
    (hp : Sectioned use m phase p) (hbefore : phase = .before → ∀ r, p ≠ .done r)
    (hf : ∀ a, ∃ r, f a = .done r) : Sectioned use m phase (p >>= f) := by
  change Sectioned use m phase (p.bind f)
  induction p generalizing phase with
  | done r =>
    cases phase with
    | before => exact absurd rfl (hbefore rfl r)
    | inside => exact absurd hp id
    | after =>
      cases r with
      | error e => trivial
      | ok a =>
        obtain ⟨r, hr⟩ := hf a
        change Sectioned use m .after (f a)
        rw [hr]
        trivial
  | call c next ih =>
    cases phase with
    | before => exact ⟨hp.1, fun r hr => ih r (hp.2 r hr) nofun⟩
    | after => exact absurd hp id
    | inside =>
      obtain ⟨hc, hnext⟩ | ⟨hc, hnext⟩ := hp
      · exact .inl ⟨hc, fun r hr => ih r (hnext r hr) nofun⟩
      · exact .inr ⟨hc, fun r hr => ih r (hnext r hr) nofun⟩

end Discipline

/-! The order. -/

/-- A program that has run, and whose. -/
structure Served (κ : Type) (ρ : κ → Type) (ε α ι J : Type) where
  client : ι
  job : J
  events : List (Event κ ρ ε)
  result : Except ε α

def Served.completed (e : Served κ ρ ε α ι J) : Completed κ ρ ε α J := ⟨e.job, e.events, e.result⟩

/-- Whole programs, one after another. -/
inductive Serial (m : Machine κ ρ ε σ) (program : J → CallProgram κ ρ ε α) (init : σ) :
    List (Served κ ρ ε α ι J) → σ → Prop
  | nil : Serial m program init [] init
  | snoc {l : List (Served κ ρ ε α ι J)} {s s' : σ} (h : Serial m program init l s)
      (e : Served κ ρ ε α ι J) (hpath : Path (program e.job) e.events (.done e.result))
      (hrun : Run m s e.events s') : Serial m program init (l ++ [e]) s'

theorem Serial.single {m : Machine κ ρ ε σ} {program : J → CallProgram κ ρ ε α} {init s : σ}
    (i : ι) {j : J} {es : List (Event κ ρ ε)} {result : Except ε α}
    (hpath : Path (program j) es (.done result)) (hrun : Run m init es s) :
    Serial m program init [⟨i, j, es, result⟩] s :=
  .snoc .nil ⟨i, j, es, result⟩ hpath hrun

/-- What only has to return, of a program that has made its calls. -/
def returning : Option (Running κ ρ ε α J) → List (Completed κ ρ ε α J)
  | some ⟨j, past, .done result⟩ => if past.isEmpty then [] else [⟨j, past, result⟩]
  | _ => []

/-- What a client has had done. Programs that made no call are left out. -/
def Client.done (client : Client κ ρ ε α J) : List (Completed κ ρ ε α J) :=
  client.completed.filter (fun done => !done.events.isEmpty) ++ returning client.running

/-- All that a client has been answered. -/
def Client.events (client : Client κ ρ ε α J) : List (Event κ ρ ε) :=
  client.completed.flatMap Completed.events ++ client.running.elim [] Running.past

section Order
variable [DecidableEq ι] (use : κ → Use) (m : Machine κ ρ ε σ) (program : J → CallProgram κ ρ ε α)

/-- Where a program under way stands. -/
inductive Stands (i : ι) (owner : Option ι) : Running κ ρ ε α J → Prop
  | before {j : J} {rest : CallProgram κ ρ ε α} (hrest : rest = program j)
      (h : Sectioned use m .before rest) (ho : owner ≠ some i) : Stands i owner ⟨j, [], rest⟩
  | inside {j : J} {past : List (Event κ ρ ε)} {rest : CallProgram κ ρ ε α} (hne : past ≠ [])
      (hpath : Path (program j) past rest) (h : Sectioned use m .inside rest)
      (ho : owner = some i) : Stands i owner ⟨j, past, rest⟩
  | after {j : J} {past : List (Event κ ρ ε)} {result : Except ε α} (hne : past ≠ [])
      (hpath : Path (program j) past (.done result)) (ho : owner ≠ some i) :
      Stands i owner ⟨j, past, .done result⟩

/-- The programs of `l`, one after another, lead to where the system is, but for the program
that has the mutex; and every client has had done what `l` says. -/
structure Linearized (init : σ) (s : System κ ρ ε α σ ι J) (l : List (Served κ ρ ε α ι J)) :
    Prop where
  idle : ∀ i, (s.clients i).running = none → s.owner ≠ some i
  stands : ∀ i run, (s.clients i).running = some run → Stands use m program i s.owner run
  paths : ∀ i, ∀ done ∈ (s.clients i).completed,
    Path (program done.job) done.events (.done done.result)
  serial : ∃ mid, Serial m program init l mid ∧ (s.owner = none → mid = s.state) ∧
    ∀ i run, s.owner = some i → (s.clients i).running = some run → Run m mid run.past s.state
  done : ∀ i, (l.filter fun e => e.client = i).map Served.completed = (s.clients i).done

/-- All that has happened since the start: the programs of `l`, one after another, which are what
the clients have had done, and behind them the calls of the program that has the mutex. Programs
that end without a call are in no order. -/
structure History (init : σ) (s : System κ ρ ε α σ ι J) (l : List (Served κ ρ ε α ι J))
    (es : List (Event κ ρ ε)) : Prop where
  runs : ∃ mid, Serial m program init l mid ∧ Run m mid es s.state
  done : ∀ i, (l.filter fun e => e.client = i).map Served.completed = (s.clients i).done
  free : s.owner = none → es = []
  owned : ∀ i, s.owner = some i → ∃ run, (s.clients i).running = some run ∧ run.past = es ∧
    Path (program run.job) es run.rest
  others : ∀ i run, (s.clients i).running = some run → s.owner ≠ some i →
    run.past = [] ∨ ∃ result, run.rest = .done result
  silent : ∀ i, ∀ done ∈ (s.clients i).completed, done.events = [] →
    program done.job = .done done.result

end Order

section Proofs
variable [DecidableEq ι] {use : κ → Use} {m : Machine κ ρ ε σ} {program : J → CallProgram κ ρ ε α}
  {init : σ} {s s' : System κ ρ ε α σ ι J} {l : List (Served κ ρ ε α ι J)} {i : ι}

theorem put_self {client : Client κ ρ ε α J} : (s.put i client).clients i = client :=
  Function.update_self _ _ _

theorem put_other {client : Client κ ρ ε α J} {k : ι} (h : k ≠ i) :
    (s.put i client).clients k = s.clients k :=
  Function.update_of_ne h _ _

theorem linearized_init : Linearized use m program init
    ({ state := init } : System κ ρ ε α σ ι J) [] where
  idle i _ h := by cases h
  stands i run h := by cases h
  paths i done h := by cases h
  serial := ⟨init, .nil, fun _ => rfl, fun i run h => by cases h⟩
  done i := rfl

/-- What holds of the changed client and of all others holds of every client. -/
theorem forall_put {P : ι → Client κ ρ ε α J → Prop} {client : Client κ ρ ε α J}
    (hi : P i client) (hne : ∀ k, k ≠ i → P k (s.clients k)) (k : ι) :
    P k ((s.put i client).clients k) := by
  by_cases hki : k = i
  · subst hki
    rw [put_self]
    exact hi
  · rw [put_other hki]
    exact hne k hki

theorem returning_fresh (j : J) (p : CallProgram κ ρ ε α) :
    returning (some (⟨j, [], p⟩ : Running κ ρ ε α J)) = [] := by
  cases p <;> rfl

theorem returning_inside {j : J} {past : List (Event κ ρ ε)} {p : CallProgram κ ρ ε α}
    (h : Sectioned use m .inside p) : returning (some (⟨j, past, p⟩ : Running κ ρ ε α J)) = [] := by
  cases p with
  | done r => exact absurd h id
  | call c next => rfl

theorem returning_done {j : J} {past : List (Event κ ρ ε)} {result : Except ε α}
    (h : past ≠ []) :
    returning (some (⟨j, past, .done result⟩ : Running κ ρ ε α J)) = [⟨j, past, result⟩] := by
  have hpast : past.isEmpty = false := by simpa using h
  simp [returning, hpast]

omit [DecidableEq ι] in
theorem mem_returning {running : Option (Running κ ρ ε α J)} {done : Completed κ ρ ε α J} :
    done ∈ returning running ↔
      running = some ⟨done.job, done.events, .done done.result⟩ ∧ done.events ≠ [] := by
  obtain ⟨job, events, result⟩ := done
  constructor
  · intro h
    unfold returning at h
    split at h
    · split_ifs at h with hpast
      · cases h
      · cases List.mem_singleton.mp h
        exact ⟨rfl, by simpa using hpast⟩
    · cases h
  · rintro ⟨rfl, hne⟩
    rw [returning_done hne]
    exact List.mem_singleton_self _

/-- A step of a client that has not the mutex and does not take it, on the same machine. -/
theorem Linearized.put (h : Linearized use m program init s l) {client : Client κ ρ ε α J}
    (ho : s.owner ≠ some i)
    (hstands : ∀ run, client.running = some run → Stands use m program i s.owner run)
    (hpaths : ∀ done ∈ client.completed, Path (program done.job) done.events (.done done.result))
    (hdone : client.done = (s.clients i).done) :
    Linearized use m program init (s.put i client) l where
  idle := forall_put (P := fun k client => client.running = none → s.owner ≠ some k)
    (fun _ => ho) fun k _ => h.idle k
  stands := forall_put (P := fun k client => ∀ run, client.running = some run →
    Stands use m program k s.owner run) hstands fun k _ => h.stands k
  paths := forall_put (P := fun _ client => ∀ done ∈ client.completed,
    Path (program done.job) done.events (.done done.result)) hpaths fun k _ => h.paths k
  serial := by
    obtain ⟨mid, hserial, hfree, howned⟩ := h.serial
    refine ⟨mid, hserial, hfree, ?_⟩
    refine forall_put (P := fun k client => ∀ run, s.owner = some k → client.running = some run →
      Run m mid run.past s.state) ?_ fun k _ => howned k
    intro run howner
    exact absurd howner ho
  done := forall_put (P := fun k client => (l.filter fun e => e.client = k).map Served.completed =
    client.done) ((h.done i).trans hdone.symm) fun k _ => h.done k

theorem Linearized.start (h : Linearized use m program init s l) {j : J}
    (hj : Sectioned use m .before (program j)) (hi : (s.clients i).running = none) :
    Linearized use m program init
      (s.put i { s.clients i with running := some ⟨j, [], program j⟩ }) l := by
  have ho := h.idle i hi
  refine h.put ho ?_ (h.paths i) ?_
  · intro run hrun
    cases hrun
    exact .before rfl hj ho
  · simp only [Client.done, hi, returning_fresh]
    rfl

theorem Linearized.finish (h : Linearized use m program init s l) {j : J}
    {past : List (Event κ ρ ε)} {result : Except ε α}
    (hi : (s.clients i).running = some ⟨j, past, .done result⟩) :
    Linearized use m program init
      (s.put i ⟨none, (s.clients i).completed ++ [⟨j, past, result⟩]⟩) l := by
  have hstands := h.stands i _ hi
  have hnone : ∀ run : Running κ ρ ε α J, none = some run → Stands use m program i s.owner run :=
    nofun
  have hpath : Path (program j) past (.done result) := by
    cases hstands with
    | before hrest =>
      rw [← hrest]
      exact .nil _
    | inside _ hpath => exact hpath
    | after _ hpath => exact hpath
  have hpaths : ∀ done ∈ (s.clients i).completed ++ [⟨j, past, result⟩],
      Path (program done.job) done.events (.done done.result) := by
    intro done hdone
    cases List.mem_append.mp hdone with
    | inl hdone => exact h.paths i done hdone
    | inr hdone =>
      rw [List.mem_singleton.mp hdone]
      exact hpath
  have hdone : (⟨none, (s.clients i).completed ++ [⟨j, past, result⟩]⟩ :
      Client κ ρ ε α J).done = (s.clients i).done := by
    simp only [Client.done, hi, List.filter_append]
    by_cases hpast : past = []
    · subst hpast
      simp [returning]
    · simp [returning, hpast]
  have ho : s.owner ≠ some i := by
    cases hstands with
    | before _ _ ho => exact ho
    | inside _ _ hinside => exact absurd hinside id
    | after _ _ ho => exact ho
  exact h.put ho hnone hpaths hdone

omit [DecidableEq ι] in
theorem Stands.of_not_owner {owner owner' : Option ι} {run : Running κ ρ ε α J}
    (h : Stands use m program i owner run) (ho : owner ≠ some i) (ho' : owner' ≠ some i) :
    Stands use m program i owner' run := by
  cases h with
  | before hrest h _ => exact .before hrest h ho'
  | inside _ _ _ howner => exact absurd howner ho
  | after hne hpath _ => exact .after hne hpath ho'

/-- An answer to client `i` while no other client has the mutex, before or after. -/
theorem Linearized.answered (h : Linearized use m program init s l)
    {new : List (Served κ ρ ε α ι J)} {run : Running κ ρ ε α J} {owner : Option ι} {state : σ}
    (hothers : ∀ k, k ≠ i → s.owner ≠ some k ∧ owner ≠ some k)
    (hstands : Stands use m program i owner run)
    (hserial : ∃ mid, Serial m program init (l ++ new) mid ∧ (owner = none → mid = state) ∧
      (owner = some i → Run m mid run.past state))
    (hnew : ∀ e ∈ new, e.client = i)
    (hdone : returning (s.clients i).running = [])
    (hdone' : returning (some run) = new.map Served.completed) :
    Linearized use m program init (System.put ⟨owner, state, s.clients⟩ i
      { s.clients i with running := some run }) (l ++ new) where
  idle := by
    refine forall_put (P := fun k client => client.running = none → owner ≠ some k) nofun ?_
    exact fun k hk _ => (hothers k hk).2
  stands := by
    refine forall_put (P := fun k client => ∀ run, client.running = some run →
      Stands use m program k owner run) ?_ ?_
    · intro run' hrun
      cases hrun
      exact hstands
    · intro k hk run' hrun
      exact (h.stands k run' hrun).of_not_owner (hothers k hk).1 (hothers k hk).2
  paths := forall_put (P := fun _ client => ∀ done ∈ client.completed,
    Path (program done.job) done.events (.done done.result)) (h.paths i) fun k _ => h.paths k
  serial := by
    obtain ⟨mid, hl, hfree, howned⟩ := hserial
    refine ⟨mid, hl, hfree, ?_⟩
    refine forall_put (P := fun k client => ∀ run, owner = some k → client.running = some run →
      Run m mid run.past state) ?_ ?_
    · intro run' howner hrun
      cases hrun
      exact howned howner
    · intro k hk run' howner
      exact absurd howner (hothers k hk).2
  done := by
    refine forall_put (P := fun k client => ((l ++ new).filter fun e => e.client = k).map
      Served.completed = client.done) ?_ ?_
    · have hall : (new.filter fun e => e.client = i) = new := by simpa using hnew
      have hbefore := h.done i
      rw [Client.done, hdone, List.append_nil] at hbefore
      rw [List.filter_append, List.map_append, hall, hbefore, Client.done, hdone']
    · intro k hk
      have hnone : (new.filter fun e => e.client = k) = [] := by
        rw [List.filter_eq_nil_iff]
        intro e he
        simpa [hnew e he] using Ne.symm hk
      rw [List.filter_append, hnone, List.append_nil]
      exact h.done k

section Answer
variable {j : J} {past : List (Event κ ρ ε)} {c : κ} {next : Except ε (ρ c) → CallProgram κ ρ ε α}
  {r : Except ε (ρ c)} {state : σ}

/-- The free mutex is taken: the program starts where the last one left the machine. -/
theorem Linearized.acquire (h : Linearized use m program init s l)
    (hi : (s.clients i).running = some ⟨j, past, .call c next⟩) (hfree : s.owner = none)
    (hm : m s.state c r state) :
    Linearized use m program init (System.put ⟨some i, state, s.clients⟩ i
      { s.clients i with running := some ⟨j, past ++ [⟨c, r⟩], next r⟩ }) (l ++ []) := by
  obtain ⟨mid, hserial, hmid, -⟩ := h.serial
  cases h.stands i _ hi with
  | inside _ _ _ ho =>
    rw [hfree] at ho
    cases ho
  | before hrest hbefore _ =>
    have hinside := hbefore.2 r ⟨s.state, state, hm⟩
    have hpath : Path (program j) [⟨c, r⟩] (next r) := by
      rw [← hrest]
      exact .cons r (.nil _)
    refine h.answered ?_ (.inside (by simp) hpath hinside rfl) ⟨mid, ?_, nofun, fun _ => ?_⟩ nofun
      (by rw [hi]; rfl) (returning_inside hinside)
    · intro k hk
      refine ⟨by simp [hfree], ?_⟩
      intro hik
      exact hk (Option.some.inj hik).symm
    · rwa [List.append_nil]
    · rw [hmid hfree]
      exact .cons hm (.nil state)

/-- A call while the mutex is held. -/
theorem Linearized.hold (h : Linearized use m program init s l)
    (hi : (s.clients i).running = some ⟨j, past, .call c next⟩) (hc : use c = .other)
    (hm : m s.state c r state) :
    Linearized use m program init (System.put ⟨s.owner, state, s.clients⟩ i
      { s.clients i with running := some ⟨j, past ++ [⟨c, r⟩], next r⟩ }) (l ++ []) := by
  obtain ⟨mid, hserial, -, howned⟩ := h.serial
  cases h.stands i _ hi with
  | before _ hbefore _ => cases hc.symm.trans hbefore.1
  | inside hne hpath hinside ho =>
    obtain ⟨-, hnext⟩ | ⟨hrelease, -⟩ := hinside
    · have hinside := hnext r ⟨s.state, state, hm⟩
      refine h.answered ?_ (.inside (by simp) (hpath.snoc r) hinside ho)
        ⟨mid, ?_, ?_, fun _ => (howned i _ ho hi).snoc hm⟩ nofun (by rw [hi]; rfl)
        (returning_inside hinside)
      · intro k hk
        have hnot : s.owner ≠ some k := by
          rw [ho]
          exact fun hik => hk (Option.some.inj hik).symm
        exact ⟨hnot, hnot⟩
      · rwa [List.append_nil]
      · intro hnone
        rw [hnone] at ho
        cases ho
    · cases hc.symm.trans hrelease

/-- The mutex is given back, and the program is the last that was served. -/
theorem Linearized.release (h : Linearized use m program init s l)
    (hi : (s.clients i).running = some ⟨j, past, .call c next⟩) (hc : use c = .release)
    (hm : m s.state c r state) :
    ∃ result, Linearized use m program init (System.put ⟨none, state, s.clients⟩ i
      { s.clients i with running := some ⟨j, past ++ [⟨c, r⟩], next r⟩ })
      (l ++ [⟨i, j, past ++ [⟨c, r⟩], result⟩]) := by
  obtain ⟨mid, hserial, -, howned⟩ := h.serial
  cases h.stands i _ hi with
  | before _ hbefore _ => cases hc.symm.trans hbefore.1
  | inside hne hpath hinside ho =>
    obtain ⟨hother, -⟩ | ⟨-, hnext⟩ := hinside
    · cases hc.symm.trans hother
    · have hafter := hnext r ⟨s.state, state, hm⟩
      have hpath' := hpath.snoc r
      cases hlast : next r with
      | call c' next' =>
        rw [hlast] at hafter
        exact absurd hafter id
      | done result =>
        rw [hlast] at hpath'
        have hne' : past ++ [⟨c, r⟩] ≠ [] := by simp
        refine ⟨result, h.answered ?_ (.after hne' hpath' nofun) ⟨state, ?_, fun _ => rfl, nofun⟩ ?_
          (by rw [hi]; rfl) (returning_done hne')⟩
        · intro k hk
          refine ⟨?_, nofun⟩
          rw [ho]
          exact fun hik => hk (Option.some.inj hik).symm
        · exact hserial.snoc _ hpath' ((howned i _ ho hi).snoc hm)
        · intro e he
          rw [List.mem_singleton.mp he]

end Answer

/-- A step adds at most one program to those that were served, behind them. -/
theorem Linearized.step (hprogram : ∀ j, Sectioned use m .before (program j))
    (h : Linearized use m program init s l) (hstep : Step use m program s s') :
    ∃ new, Linearized use m program init s' (l ++ new) := by
  cases hstep with
  | start i j hi =>
    refine ⟨[], ?_⟩
    rw [List.append_nil]
    exact h.start (hprogram j) hi
  | @advance _ i hadvance =>
    cases hadvance with
    | finish hi =>
      refine ⟨[], ?_⟩
      rw [List.append_nil]
      exact h.finish hi
    | @answer j past c next hi owner hp r state hm =>
      generalize hc : use c = u at hp
      generalize ho : s.owner = o at hp
      cases hp with
      | acquire => exact ⟨[], h.acquire hi ho hm⟩
      | release =>
        obtain ⟨result, hreleased⟩ := h.release hi hc hm
        exact ⟨_, hreleased⟩
      | other =>
        rw [← ho]
        exact ⟨[], h.hold hi hc hm⟩

theorem Linearized.steps (hprogram : ∀ j, Sectioned use m .before (program j))
    (h : Linearized use m program init s l) (hsteps : Steps use m program s s') :
    ∃ new, Linearized use m program init s' (l ++ new) := by
  induction hsteps with
  | refl => exact ⟨[], by rwa [List.append_nil]⟩
  | tail _ hstep ih =>
    obtain ⟨new, hnew⟩ := ih
    obtain ⟨new', hnew'⟩ := hnew.step hprogram hstep
    rw [List.append_assoc] at hnew'
    exact ⟨_, hnew'⟩

/-- Every state that is reached is one that whole programs, served one after another, lead to. -/
theorem linearized_of_reachable (hprogram : ∀ j, Sectioned use m .before (program j))
    (h : Reachable use m program init s) : ∃ l, Linearized use m program init s l := by
  obtain ⟨l, hl⟩ := linearized_init.steps hprogram h
  exact ⟨_, hl⟩

omit [DecidableEq ι] in
/-- What whole programs do one after another is a run of the machine. -/
theorem Serial.run {s : σ} (h : Serial m program init l s) :
    Run m init (l.flatMap Served.events) s := by
  induction h with
  | nil => exact .nil init
  | snoc _ e _ hrun ih =>
    rw [List.flatMap_append, List.flatMap_singleton]
    exact ih.append hrun

omit [DecidableEq ι] in
theorem Serial.exists_run {s : σ} (h : Serial m program init l s) {e : Served κ ρ ε α ι J}
    (he : e ∈ l) :
    ∃ s₁ s₂, Path (program e.job) e.events (.done e.result) ∧ Run m s₁ e.events s₂ := by
  induction h with
  | nil => cases he
  | snoc _ f hpath hrun ih =>
    cases List.mem_append.mp he with
    | inl he => exact ih he
    | inr he =>
      rw [List.mem_singleton.mp he]
      exact ⟨_, _, hpath, hrun⟩

theorem Linearized.history (h : Linearized use m program init s l) :
    ∃ es, History m program init s l es := by
  obtain ⟨mid, hserial, hfree, howned⟩ := h.serial
  have hothers : ∀ i run, (s.clients i).running = some run → s.owner ≠ some i →
      run.past = [] ∨ ∃ result, run.rest = .done result := by
    intro i run hi ho
    cases h.stands i run hi with
    | before => exact .inl rfl
    | inside _ _ _ howner => exact absurd howner ho
    | after => exact .inr ⟨_, rfl⟩
  have hsilent : ∀ i, ∀ done ∈ (s.clients i).completed, done.events = [] →
      program done.job = .done done.result := by
    intro i done hdone hnil
    have hpath := h.paths i done hdone
    rw [hnil] at hpath
    generalize program done.job = p at hpath
    cases hpath
    rfl
  cases ho : s.owner with
  | none =>
    refine ⟨[], ⟨mid, hserial, ?_⟩, h.done, fun _ => rfl, ?_, hothers, hsilent⟩
    · rw [hfree ho]
      exact .nil s.state
    · intro i hi
      cases ho.symm.trans hi
  | some i =>
    cases hi : (s.clients i).running with
    | none => exact absurd ho (h.idle i hi)
    | some run =>
      have hrun := howned i run ho hi
      refine ⟨run.past, ⟨mid, hserial, hrun⟩, h.done, ?_, ?_, hothers, hsilent⟩
      · intro hnone
        cases ho.symm.trans hnone
      · intro k hk
        cases Option.some.inj (ho.symm.trans hk)
        refine ⟨run, hi, rfl, ?_⟩
        cases h.stands i run hi with
        | before _ _ howner => exact absurd ho howner
        | after _ _ howner => exact absurd ho howner
        | inside _ hpath => exact hpath

/-- Every state that is reached has its history, and a later state has a longer one. -/
theorem history_of_reachable (hprogram : ∀ j, Sectioned use m .before (program j))
    (h : Reachable use m program init s) :
    ∃ l es, History m program init s l es ∧ ∀ s', Steps use m program s s' →
      ∃ new es', History m program init s' (l ++ new) es' := by
  obtain ⟨l, hl⟩ := linearized_of_reachable hprogram h
  obtain ⟨es, hes⟩ := hl.history
  refine ⟨l, es, hes, fun s' hsteps => ?_⟩
  obtain ⟨new, hnew⟩ := hl.steps hprogram hsteps
  exact ⟨new, hnew.history⟩

namespace History
variable {es : List (Event κ ρ ε)}

/-- All of it is one run of the machine. -/
theorem run (h : History m program init s l es) :
    Run m init (l.flatMap Served.events ++ es) s.state := by
  obtain ⟨mid, hserial, hrun⟩ := h.runs
  exact hserial.run.append hrun

/-- A program that has ended has been served, if it made a call. -/
theorem served (h : History m program init s l es) {done : Completed κ ρ ε α J}
    (hdone : done ∈ (s.clients i).completed) (hne : done.events ≠ []) :
    ∃ e ∈ l, e.client = i ∧ e.completed = done := by
  have hmem : done ∈ (s.clients i).done :=
    List.mem_append_left _ (List.mem_filter.mpr ⟨hdone, by simpa using hne⟩)
  rw [← h.done i] at hmem
  obtain ⟨e, he, heq⟩ := List.mem_map.mp hmem
  obtain ⟨hl, hclient⟩ := List.mem_filter.mp he
  exact ⟨e, hl, of_decide_eq_true hclient, heq⟩

theorem mem_events (h : History m program init s l es) {done : Completed κ ρ ε α J}
    (hdone : done ∈ (s.clients i).completed) {e : Event κ ρ ε} (he : e ∈ done.events) :
    e ∈ l.flatMap Served.events := by
  obtain ⟨entry, hentry, -, rfl⟩ := h.served hdone (List.ne_nil_of_mem he)
  exact List.mem_flatMap.mpr ⟨entry, hentry, he⟩

/-- A program that was served has made a call, and is one that its client has had done. -/
theorem mem_done (h : History m program init s l es) {e : Served κ ρ ε α ι J} (he : e ∈ l) :
    e.events ≠ [] ∧ e.completed ∈ (s.clients e.client).done := by
  have hmem : e.completed ∈ (s.clients e.client).done := by
    rw [← h.done e.client]
    exact List.mem_map_of_mem (List.mem_filter.mpr ⟨he, decide_eq_true rfl⟩)
  refine ⟨fun hnil => ?_, hmem⟩
  cases List.mem_append.mp hmem with
  | inl hdone =>
    have hne := (List.mem_filter.mp hdone).2
    simp [Served.completed, hnil] at hne
  | inr hreturning => exact (mem_returning.mp hreturning).2 hnil

/-- Whatever was answered was answered to some client. -/
theorem exists_client (h : History m program init s l es) {e : Event κ ρ ε}
    (he : e ∈ l.flatMap Served.events ++ es) : ∃ i, e ∈ (s.clients i).events := by
  cases List.mem_append.mp he with
  | inl he =>
    obtain ⟨entry, hentry, he⟩ := List.mem_flatMap.mp he
    refine ⟨entry.client, ?_⟩
    cases List.mem_append.mp (h.mem_done hentry).2 with
    | inl hdone =>
      exact List.mem_append_left _ (List.mem_flatMap.mpr ⟨_, (List.mem_filter.mp hdone).1, he⟩)
    | inr hreturning =>
      refine List.mem_append_right _ ?_
      rw [(mem_returning.mp hreturning).1]
      exact he
  | inr he =>
    cases ho : s.owner with
    | none =>
      rw [h.free ho] at he
      cases he
    | some i =>
      obtain ⟨run, hrunning, rfl, -⟩ := h.owned i ho
      refine ⟨i, List.mem_append_right _ ?_⟩
      rw [hrunning]
      exact he

/-- What is read off the events of the programs of one client is part, in the same order, of
what is read off those of all. -/
theorem sublist {β : Type} (h : History m program init s l es) {f : List (Event κ ρ ε) → List β}
    (hf : f [] = []) (i : ι) :
    ((s.clients i).completed.flatMap fun done => f done.events).Sublist
      (l.flatMap fun e => f e.events) := by
  have hskip (list : List (Completed κ ρ ε α J)) :
      (list.flatMap fun done => f done.events) =
        (list.filter fun done => !done.events.isEmpty).flatMap fun done => f done.events := by
    induction list with
    | nil => rfl
    | cons done list ih =>
      rw [List.flatMap_cons, List.filter_cons, ih]
      cases hevents : done.events with
      | nil => simp [hf]
      | cons e es => simp [hevents]
  have hmine : ((s.clients i).done.flatMap fun done => f done.events) =
      (l.filter fun e => e.client = i).flatMap fun e => f e.events := by
    rw [← h.done i, List.flatMap_map]
    rfl
  have hall : ((l.filter fun e => e.client = i).flatMap fun e => f e.events).Sublist
      (l.flatMap fun e => f e.events) := List.filter_sublist.flatMap _
  rw [hskip]
  refine List.Sublist.trans ?_ (hmine ▸ hall)
  rw [Client.done, List.flatMap_append]
  exact List.sublist_append_left _ _

/-- What a client has had done is a run of its program. -/
theorem completed_run (h : History m program init s l es) {done : Completed κ ρ ε α J}
    (hdone : done ∈ (s.clients i).completed) :
    ∃ s₁ s₂, Path (program done.job) done.events (.done done.result) ∧
      Run m s₁ done.events s₂ := by
  by_cases hne : done.events = []
  · rw [h.silent i done hdone hne, hne]
    exact ⟨init, init, .nil _, .nil init⟩
  · obtain ⟨mid, hserial, -⟩ := h.runs
    obtain ⟨e, he, -, rfl⟩ := h.served hdone hne
    exact hserial.exists_run he

end History

/-- The programs of a client that were started since it had completed `before`, and the answers
they have had. -/
structure Since (program : J → CallProgram κ ρ ε α) (Q : (c : κ) → Except ε (ρ c) → Prop)
    (before : List (Completed κ ρ ε α J)) (client : Client κ ρ ε α J) : Prop where
  running : ∀ run, client.running = some run → Path (program run.job) run.past run.rest ∧
    ∀ e ∈ run.past, Q e.call e.reply
  completed : ∃ new, client.completed = before ++ new ∧ ∀ done ∈ new,
    Path (program done.job) done.events (.done done.result) ∧ ∀ e ∈ done.events, Q e.call e.reply

theorem Step.invariant {I : σ → Prop}
    (hI : ∀ state c r state', I state → m state c r state' → I state') (hs : I s.state)
    (hstep : Step use m program s s') : I s'.state := by
  cases hstep with
  | start => exact hs
  | advance hadvance =>
    cases hadvance with
    | answer _ _ hm => exact hI _ _ _ _ hs hm
    | finish => exact hs

/-- What every call keeps, the system keeps. -/
theorem Steps.invariant {I : σ → Prop}
    (hI : ∀ state c r state', I state → m state c r state' → I state') (hs : I s.state)
    (hsteps : Steps use m program s s') : I s'.state := by
  induction hsteps with
  | refl => exact hs
  | tail _ hstep ih => exact hstep.invariant hI ih

theorem Since.step {I : σ → Prop} {Q : (c : κ) → Except ε (ρ c) → Prop}
    (hQ : ∀ state c r state', I state → m state c r state' → Q c r)
    {before : List (Completed κ ρ ε α J)} (hs : I s.state)
    (h : Since program Q before (s.clients i)) (hstep : Step use m program s s') :
    Since program Q before (s'.clients i) := by
  cases hstep with
  | start k j hk =>
    by_cases hki : i = k
    · subst hki
      rw [put_self]
      refine ⟨fun run hrun => ?_, h.completed⟩
      cases hrun
      exact ⟨.nil _, List.forall_mem_nil _⟩
    · rw [put_other hki]
      exact h
  | @advance _ k hadvance =>
    cases hadvance with
    | @answer j past c next hk owner hp r state hm =>
      by_cases hki : i = k
      · subst hki
        rw [put_self]
        obtain ⟨hpath, hpast⟩ := h.running _ hk
        refine ⟨fun run hrun => ?_, h.completed⟩
        cases hrun
        have hlast : ∀ e ∈ [(⟨c, r⟩ : Event κ ρ ε)], Q e.call e.reply :=
          List.forall_mem_singleton.mpr (hQ _ _ _ _ hs hm)
        exact ⟨hpath.snoc r, List.forall_mem_append.mpr ⟨hpast, hlast⟩⟩
      · rw [put_other hki]
        exact h
    | @finish j past result hk =>
      by_cases hki : i = k
      · subst hki
        rw [put_self]
        obtain ⟨new, hnew, hall⟩ := h.completed
        refine ⟨nofun, new ++ [⟨j, past, result⟩], ?_, ?_⟩
        · rw [hnew, List.append_assoc]
        · exact List.forall_mem_append.mpr ⟨hall, List.forall_mem_singleton.mpr (h.running _ hk)⟩
      · rw [put_other hki]
        exact h

/-- What every answer from now on meets, those meet that an idle client gets from now on. -/
theorem Steps.since {I : σ → Prop} {Q : (c : κ) → Except ε (ρ c) → Prop}
    (hI : ∀ state c r state', I state → m state c r state' → I state')
    (hQ : ∀ state c r state', I state → m state c r state' → Q c r)
    (hs : I s.state) (hi : (s.clients i).running = none) (hsteps : Steps use m program s s') :
    Since program Q (s.clients i).completed (s'.clients i) := by
  induction hsteps with
  | refl =>
    refine ⟨fun run hrun => ?_, [], (List.append_nil _).symm, List.forall_mem_nil _⟩
    cases hi.symm.trans hrun
  | tail hsteps hstep ih => exact ih.step hQ (Steps.invariant hI hs hsteps) hstep

/-- Who has the mutex when only client `i` is under way. -/
def Phase.owner (i : ι) : Phase → Option ι
  | .inside => some i
  | .before | .after => none

theorem put_again {owner owner' : Option ι} {state state' : σ}
    {clients : ι → Client κ ρ ε α J} {client client' : Client κ ρ ε α J} :
    System.put ⟨owner', state', (System.put ⟨owner, state, clients⟩ i client).clients⟩ i client' =
      System.put ⟨owner', state', clients⟩ i client' := by
  simp [System.put]

/-- How the mutex passes when client `i` makes calls in a row. -/
inductive Hands (use : κ → Use) (i : ι) : Option ι → List (Event κ ρ ε) → Option ι → Prop
  | nil (owner : Option ι) : Hands use i owner [] owner
  | cons {c : κ} {r : Except ε (ρ c)} {owner owner₁ owner₂ : Option ι}
      {es : List (Event κ ρ ε)} (h : Passes i (use c) owner owner₁)
      (rest : Hands use i owner₁ es owner₂) : Hands use i owner (⟨c, r⟩ :: es) owner₂

section Client
variable {completed : List (Completed κ ρ ε α J)} {j : J} {past : List (Event κ ρ ε)}

theorem start_step (program : J → CallProgram κ ρ ε α) (j : J)
    (hi : s.clients i = ⟨none, completed⟩) :
    Step use m program s (s.put i ⟨some ⟨j, [], program j⟩, completed⟩) := by
  have hstep : Step use m program s _ := .start i j (by rw [hi])
  rwa [hi] at hstep

theorem finish_step {result : Except ε α}
    (hi : s.clients i = ⟨some ⟨j, past, .done result⟩, completed⟩) :
    Step use m program s (s.put i ⟨none, completed ++ [⟨j, past, result⟩]⟩) := by
  have hstep : Step use m program s _ := .advance (.finish (by rw [hi]))
  rwa [hi] at hstep

/-- A client makes the calls that the mutex and the machine allow it, and the others wait. -/
theorem steps_of_path (program : J → CallProgram κ ρ ε α) {es : List (Event κ ρ ε)}
    {p q : CallProgram κ ρ ε α} {owner : Option ι} {mid : σ} (hpath : Path p es q)
    (hrun : Run m s.state es mid) (hands : Hands use i s.owner es owner)
    (hi : s.clients i = ⟨some ⟨j, past, p⟩, completed⟩) :
    Steps use m program s
      (System.put ⟨owner, mid, s.clients⟩ i ⟨some ⟨j, past ++ es, q⟩, completed⟩) := by
  induction hpath generalizing s past with
  | nil p =>
    cases hrun
    cases hands
    have hsame : s = System.put ⟨s.owner, s.state, s.clients⟩ i
        ⟨some ⟨j, past ++ [], p⟩, completed⟩ := by
      obtain ⟨owner, state, clients⟩ := s
      rw [List.append_nil, ← hi]
      simp [System.put]
    rw [← hsame]
    exact .refl
  | @cons c next r es q _ ih =>
    cases hrun with
    | @cons _ state _ _ _ _ hc hrest =>
      cases hands with
      | @cons _ _ _ owner₁ _ _ hpass hlater =>
        have hstep : Step use m program s (System.put ⟨owner₁, state, s.clients⟩ i _) :=
          .advance (.answer (by rw [hi]) hpass hc)
        rw [hi] at hstep
        have hsteps := ih hrest hlater (s := System.put ⟨owner₁, state, s.clients⟩ i
          ⟨some ⟨j, past ++ [⟨c, r⟩], next r⟩, completed⟩) put_self
        rw [put_again, List.append_assoc] at hsteps
        exact .head hstep hsteps

end Client

omit [DecidableEq ι] in
/-- A program that keeps the discipline has the mutex until it gives it back. -/
theorem hands_of_sectioned (i : ι) {phase : Phase} {p : CallProgram κ ρ ε α}
    {es : List (Event κ ρ ε)} {result : Except ε α} {state mid : σ} (hp : Sectioned use m phase p)
    (hpath : Path p es (.done result)) (hrun : Run m state es mid) :
    Hands use i (phase.owner i) es none := by
  induction p generalizing phase state es with
  | done r =>
    obtain ⟨rfl, -⟩ := hpath.of_done
    cases phase with
    | inside => exact absurd hp id
    | before => exact .nil none
    | after => exact .nil none
  | call c next ih =>
    cases hpath with
    | @cons _ _ r es _ rest =>
      cases hrun with
      | @cons _ state₁ _ _ _ _ hc hrest =>
        have hpossible : Possible m c r := ⟨state, state₁, hc⟩
        cases phase with
        | after => exact absurd hp id
        | before =>
          have hlater := ih r (hp.2 r hpossible) rest hrest
          refine .cons ?_ hlater
          rw [hp.1]
          exact .acquire
        | inside =>
          obtain ⟨huse, hnext⟩ | ⟨huse, hnext⟩ := hp
          · have hlater := ih r (hnext r hpossible) rest hrest
            refine .cons ?_ hlater
            rw [huse]
            exact .other _
          · have hlater := ih r (hnext r hpossible) rest hrest
            refine .cons ?_ hlater
            rw [huse]
            exact .release _

/-- What each client has completed after whole programs one after another. -/
def completedOf (l : List (Served κ ρ ε α ι J)) (i : ι) :
    List (Completed κ ρ ε α J) :=
  (l.filter fun e => e.client = i).map Served.completed

/-- Any order of whole programs can come about. -/
theorem Serial.reachable (hprogram : ∀ j, Sectioned use m .before (program j)) {mid : σ}
    (h : Serial m program init l mid) :
    Reachable use m program init
      ({ state := mid, clients := fun i => { completed := completedOf l i } } :
        System κ ρ ε α σ ι J) := by
  induction h with
  | nil => exact .refl
  | @snoc l state mid h e hpath hrun ih =>
    obtain ⟨i, j, es, result⟩ := e
    let clients : ι → Client κ ρ ε α J := fun k => { completed := completedOf l k }
    have hstart := ih.tail (start_step (i := i) program j rfl)
    have hsteps := steps_of_path (i := i) program hpath hrun
      (hands_of_sectioned i (hprogram j) hpath hrun)
      (s := System.put ⟨none, state, clients⟩ i ⟨some ⟨j, [], program j⟩, completedOf l i⟩) put_self
    rw [put_again, List.nil_append] at hsteps
    have hfinish := (hstart.trans hsteps).tail (finish_step (i := i) put_self)
    rw [put_again] at hfinish
    have hclients : (fun k => { completed := completedOf (l ++ [⟨i, j, es, result⟩]) k }) =
        Function.update clients i { completed := completedOf l i ++ [⟨j, es, result⟩] } := by
      funext k
      by_cases hk : k = i
      · subst hk
        simp [completedOf, Served.completed]
      · have hik : i ≠ k := fun h => hk h.symm
        simp [clients, completedOf, hk, hik]
    rw [hclients]
    simpa [System.put, clients, Reachable, Steps] using hfinish

/-- A call that leaves the mutex alone is made by the client that has it. -/
theorem Linearized.owner_of_other (h : Linearized use m program init s l) {j : J}
    {past : List (Event κ ρ ε)} {c : κ} {next : Except ε (ρ c) → CallProgram κ ρ ε α}
    (hi : (s.clients i).running = some ⟨j, past, .call c next⟩) (hc : use c = .other) :
    s.owner = some i := by
  cases h.stands i _ hi with
  | before _ hbefore => cases hc.symm.trans hbefore.1
  | inside _ _ _ ho => exact ho

/-- The calls of all clients, in the order in which they were answered. -/
theorem calls_of_reachable (h : Reachable use m program init s) :
    ∃ calls : List (ι × Event κ ρ ε), Run m init (calls.map Prod.snd) s.state ∧
      ∀ i, (calls.filter fun call => call.1 = i).map Prod.snd = (s.clients i).events := by
  induction h with
  | refl => exact ⟨[], .nil init, fun i => rfl⟩
  | tail _ hstep ih =>
    obtain ⟨calls, hrun, hcalls⟩ := ih
    cases hstep with
    | start i j hi =>
      refine ⟨calls, hrun, forall_put (P := fun k client =>
        (calls.filter fun call => call.1 = k).map Prod.snd = client.events) ?_ fun k _ => hcalls k⟩
      rw [hcalls i]
      simp [Client.events, hi]
    | @advance _ i hadvance =>
      cases hadvance with
      | @finish j past result hi =>
        refine ⟨calls, hrun, forall_put (P := fun k client =>
          (calls.filter fun call => call.1 = k).map Prod.snd = client.events) ?_
          fun k _ => hcalls k⟩
        rw [hcalls i]
        simp [Client.events, hi]
      | @answer j past c next hi owner hp r state hm =>
        let call : ι × Event κ ρ ε := (i, ⟨c, r⟩)
        refine ⟨calls ++ [call], ?_, forall_put (P := fun k client =>
          ((calls ++ [call]).filter fun call => call.1 = k).map Prod.snd = client.events) ?_
          fun k hk => ?_⟩
        · rw [List.map_append]
          exact hrun.snoc hm
        · rw [List.filter_append, List.map_append, hcalls i]
          simp [call, Client.events, hi]
        · have hik : i ≠ k := fun h => hk h.symm
          rw [List.filter_append, List.map_append, hcalls k]
          simp [call, hik]

/-- Clients of which two have asked so far. -/
def pair (a b : ι) (client client' : Client κ ρ ε α J) : ι → Client κ ρ ε α J :=
  Function.update (Function.update (fun _ => {}) a client) b client'

section Pair
variable {a b : ι} {client client' client'' : Client κ ρ ε α J} {owner : Option ι} {state : σ}

theorem pair_second : pair a b client client' b = client' := Function.update_self _ _ _

theorem pair_first (hab : a ≠ b) : pair a b client client' a = client := by
  rw [pair, Function.update_of_ne hab, Function.update_self]

theorem pair_others (ha : i ≠ a) (hb : i ≠ b) : pair a b client client' i = {} := by
  rw [pair, Function.update_of_ne hb, Function.update_of_ne ha]

theorem put_second : System.put ⟨owner, state, pair a b client client'⟩ b client'' =
    ⟨owner, state, pair a b client client''⟩ := by
  simp [System.put, pair]

theorem put_first (hab : a ≠ b) : System.put ⟨owner, state, pair a b client client'⟩ a client'' =
    ⟨owner, state, pair a b client'' client'⟩ := by
  simp only [System.put, pair]
  rw [Function.update_comm hab.symm, Function.update_idem]

/-- Client `b` asks while client `a` has the mutex. When it has it and has made some calls, `a`,
which has been answered, has asked again and waits. -/
theorem pair_reachable (hprogram : ∀ j, Sectioned use m .before (program j)) (hab : a ≠ b)
    {j k : J} (j' : J) {e : Event κ ρ ε} {es fs : List (Event κ ρ ε)} {result : Except ε α}
    {rest : CallProgram κ ρ ε α} {mid : σ}
    (hpath : Path (program j) (e :: es) (.done result)) (hrun : Run m init (e :: es) mid)
    (hpath' : Path (program k) fs rest) (hrun' : Run m mid fs state)
    (hands : Hands use b none fs (some b)) :
    ∃ s, Reachable use m program init s ∧ s.owner = some b ∧ s.state = state ∧
      s.clients a = ⟨some ⟨j', [], program j'⟩, [⟨j, e :: es, result⟩]⟩ ∧
      s.clients b = ⟨some ⟨k, fs, rest⟩, []⟩ ∧ ∀ i, i ≠ a → i ≠ b → s.clients i = {} := by
  have hnobody : ({ state := init } : System κ ρ ε α σ ι J) = ⟨none, init, pair a b {} {}⟩ := by
    simp [pair]
  have hwhole : Hands use a none (e :: es) none := hands_of_sectioned a (hprogram j) hpath hrun
  have hsends : Step use m program ⟨none, init, pair a b {} {}⟩ _ :=
    start_step program j (pair_first hab)
  rw [put_first hab] at hsends
  generalize hp : program j = p at hpath hsends
  cases hpath with
  | @cons c next r _ _ hrest =>
    cases hrun with
    | @cons _ state₁ _ _ _ _ hc hlater =>
      cases hwhole with
      | @cons _ _ _ owner₁ _ _ hpass hpasses =>
        let sent : Client κ ρ ε α J := ⟨some ⟨j, [], .call c next⟩, []⟩
        let taken : Client κ ρ ε α J := ⟨some ⟨j, [⟨c, r⟩], next r⟩, []⟩
        let asked : Client κ ρ ε α J := ⟨some ⟨k, [], program k⟩, []⟩
        let ended : Client κ ρ ε α J := ⟨some ⟨j, ⟨c, r⟩ :: es, .done result⟩, []⟩
        let idle : Client κ ρ ε α J := ⟨none, [⟨j, ⟨c, r⟩ :: es, result⟩]⟩
        let again : Client κ ρ ε α J :=
          ⟨some ⟨j', [], program j'⟩, [⟨j, ⟨c, r⟩ :: es, result⟩]⟩
        have htakes : Steps use m program ⟨none, init, pair a b sent {}⟩ _ :=
          steps_of_path program (.cons r (.nil _)) (.cons hc (.nil _)) (.cons hpass (.nil _))
            (pair_first hab)
        rw [put_first hab] at htakes
        have hasks : Step use m program ⟨owner₁, state₁, pair a b taken {}⟩ _ :=
          start_step program k pair_second
        rw [put_second] at hasks
        have hserves : Steps use m program ⟨owner₁, state₁, pair a b taken asked⟩ _ :=
          steps_of_path program hrest hlater hpasses (pair_first hab)
        rw [put_first hab] at hserves
        have hanswers : Step use m program ⟨none, mid, pair a b ended asked⟩ _ :=
          finish_step (pair_first hab)
        rw [put_first hab] at hanswers
        have hagain : Step use m program ⟨none, mid, pair a b idle asked⟩ _ :=
          start_step program j' (pair_first hab)
        rw [put_first hab] at hagain
        have hgoes : Steps use m program ⟨none, mid, pair a b again asked⟩ _ :=
          steps_of_path program hpath' hrun' hands pair_second
        rw [put_second] at hgoes
        have hsteps := Relation.ReflTransGen.head hsends (htakes.trans (.head hasks
          (hserves.trans (.head hanswers (.head hagain hgoes)))))
        rw [← hnobody] at hsteps
        exact ⟨_, hsteps, rfl, rfl, pair_first hab, pair_second, fun _ => pair_others⟩

end Pair

/-- Where every call has an answer, a system with a program under way can go on: the mutex is
free, or the program that has it can make its next call. -/
theorem Linearized.not_stuck (h : Linearized use m program init s l)
    (htotal : ∀ state c, ∃ r state', m state c r state') {run : Running κ ρ ε α J}
    (hi : (s.clients i).running = some run) : ∃ k s', Advance use m k s s' := by
  have hgo (k : ι) (j : J) (past : List (Event κ ρ ε)) (c : κ)
      (next : Except ε (ρ c) → CallProgram κ ρ ε α) (owner : Option ι)
      (hk : (s.clients k).running = some ⟨j, past, .call c next⟩)
      (hp : Passes k (use c) s.owner owner) : ∃ k s', Advance use m k s s' := by
    obtain ⟨r, state, hm⟩ := htotal s.state c
    exact ⟨k, _, .answer hk hp hm⟩
  cases ho : s.owner with
  | none =>
    cases h.stands i run hi with
    | inside _ _ _ howner =>
      rw [ho] at howner
      cases howner
    | after _ _ _ => exact ⟨i, _, .finish hi⟩
    | @before j rest _ hbefore _ =>
      cases rest with
      | done result => exact ⟨i, _, .finish hi⟩
      | call c next =>
        refine hgo i j [] c next (some i) hi ?_
        rw [ho, hbefore.1]
        exact .acquire
  | some k =>
    cases hk : (s.clients k).running with
    | none => exact absurd ho (h.idle k hk)
    | some run' =>
      cases h.stands k run' hk with
      | before _ _ howner => exact absurd ho howner
      | after _ _ howner => exact absurd ho howner
      | @inside j past rest _ _ hinside _ =>
        cases rest with
        | done result => exact absurd hinside id
        | call c next =>
          obtain ⟨hother, -⟩ | ⟨hrelease, -⟩ := hinside
          · refine hgo k j past c next s.owner hk ?_
            rw [hother]
            exact .other _
          · refine hgo k j past c next none hk ?_
            rw [hrelease]
            exact .release _

end Proofs
end Monitor
