import SqlProxy.Base.Monitor
import Mathlib.Data.List.Forall2

/-! Two machines side by side, and programs that go on alike on them: what each calls belongs to
what the other calls, for as long as the answers belong together. What shows of clients that run
such programs is the same on both machines, in every order of steps. -/
namespace CallProgram
variable {κ : Type} {ρ : κ → Type} {ε α α' β β' σ τ : Type}

/-- Values that `R` relates, or the same exception. -/
inductive Both (R : α → α' → Prop) : Except ε α → Except ε α' → Prop
  | ok {a : α} {a' : α'} (h : R a a') : Both R (.ok a) (.ok a')
  | error (e : ε) : Both R (.error e) (.error e)

/-- The calls that are made at the same time, and the answers to them that belong together. -/
structure Pairing (κ : Type) (ρ : κ → Type) (ε : Type) where
  calls : κ → κ → Prop
  replies (c c' : κ) : Except ε (ρ c) → Except ε (ρ c') → Prop

def Pairing.swap (k : Pairing κ ρ ε) : Pairing κ ρ ε where
  calls c' c := k.calls c c'
  replies c' c r' r := k.replies c c' r r'

/-- Programs that make such calls, after whatever such answers, and end as `R` has it. -/
inductive Lockstep (k : Pairing κ ρ ε) (R : Except ε α → Except ε α' → Prop) :
    CallProgram κ ρ ε α → CallProgram κ ρ ε α' → Prop
  | done {r : Except ε α} {r' : Except ε α'} (h : R r r') : Lockstep k R (.done r) (.done r')
  | call {c c' : κ} (hc : k.calls c c') {next : Except ε (ρ c) → CallProgram κ ρ ε α}
      {next' : Except ε (ρ c') → CallProgram κ ρ ε α'}
      (h : ∀ r r', k.replies c c' r r' → Lockstep k R (next r) (next' r')) :
      Lockstep k R (.call c next) (.call c' next')

/-- Whatever `m` does, `m'` can do beside it. -/
def Follows (k : Pairing κ ρ ε) (S : σ → τ → Prop) (m : Machine κ ρ ε σ) (m' : Machine κ ρ ε τ) :
    Prop :=
  ∀ s t c c' r s', S s t → k.calls c c' → m s c r s' →
    ∃ r' t', m' t c' r' t' ∧ k.replies c c' r r' ∧ S s' t'

section Rules
variable {k : Pairing κ ρ ε} {Q : α → α' → Prop}

theorem Both.refl {Q : α → α → Prop} (hQ : ∀ a, Q a a) : ∀ r : Except ε α, Both Q r r
  | .ok a => .ok (hQ a)
  | .error e => .error e

theorem Both.swap {r : Except ε α} {r' : Except ε α'} (h : Both Q r r') :
    Both (fun a' a => Q a a') r' r := by
  cases h with
  | ok h => exact .ok h
  | error e => exact .error e

namespace Lockstep

theorem perform {c c' : κ} {R : Except ε (ρ c) → Except ε (ρ c') → Prop} (hc : k.calls c c')
    (h : ∀ r r', k.replies c c' r r' → R r r') :
    Lockstep k R (CallProgram.perform c) (CallProgram.perform c') :=
  .call hc fun r r' hr => .done (h r r' hr)

theorem bind_of {p : CallProgram κ ρ ε α} {p' : CallProgram κ ρ ε α'}
    {f : α → CallProgram κ ρ ε β} {f' : α' → CallProgram κ ρ ε β'}
    {R : Except ε β → Except ε β' → Prop} (h : Lockstep k (Both Q) p p')
    (hf : ∀ a a', Q a a' → Lockstep k R (f a) (f' a')) (he : ∀ e, R (.error e) (.error e)) :
    Lockstep k R (p >>= f) (p' >>= f') := by
  change Lockstep k R (p.bind f) (p'.bind f')
  induction h with
  | done h =>
    cases h with
    | ok h => exact hf _ _ h
    | error e => exact .done (he e)
  | call hc _ ih => exact .call hc ih

theorem bind {p : CallProgram κ ρ ε α} {p' : CallProgram κ ρ ε α'}
    {f : α → CallProgram κ ρ ε β} {f' : α' → CallProgram κ ρ ε β'} {T : β → β' → Prop}
    (h : Lockstep k (Both Q) p p') (hf : ∀ a a', Q a a' → Lockstep k (Both T) (f a) (f' a')) :
    Lockstep k (Both T) (p >>= f) (p' >>= f') :=
  h.bind_of hf .error

theorem catching {p : CallProgram κ ρ ε α} {p' : CallProgram κ ρ ε α'}
    {handler : ε → CallProgram κ ρ ε α} {handler' : ε → CallProgram κ ρ ε α'}
    (h : Lockstep k (Both Q) p p') (hh : ∀ e, Lockstep k (Both Q) (handler e) (handler' e)) :
    Lockstep k (Both Q) (p.catching handler) (p'.catching handler') := by
  induction h with
  | done h =>
    cases h with
    | ok h => exact .done (.ok h)
    | error e => exact hh e
  | call hc _ ih => exact .call hc ih

theorem ensuring {p : CallProgram κ ρ ε α} {p' : CallProgram κ ρ ε α'}
    {last : CallProgram κ ρ ε Unit} (h : Lockstep k (Both Q) p p')
    (hlast : Lockstep k (Both Eq) last last) :
    Lockstep k (Both Q) (p.ensuring last) (p'.ensuring last) := by
  induction h with
  | done h => exact hlast.bind fun _ _ _ => .done h
  | call hc _ ih => exact .call hc ih

theorem swap {R : Except ε α → Except ε α' → Prop} {p : CallProgram κ ρ ε α}
    {p' : CallProgram κ ρ ε α'} (h : Lockstep k R p p') :
    Lockstep k.swap (fun r' r => R r r') p' p := by
  induction h with
  | done h => exact .done h
  | @call c c' hc _ _ _ ih =>
    have hswapped : k.swap.calls c' c := hc
    exact .call hswapped fun r' r hr => ih r r' hr

/-- A run on the one machine has one beside it on the other. -/
theorem executes {S : σ → τ → Prop} {m : Machine κ ρ ε σ} {m' : Machine κ ρ ε τ}
    {R : Except ε α → Except ε α' → Prop} (hm : Follows k S m m') {p : CallProgram κ ρ ε α}
    {p' : CallProgram κ ρ ε α'} (h : Lockstep k R p p') {s s' : σ} {t : τ} {r : Except ε α}
    (hs : S s t) (hexec : Executes m p s r s') :
    ∃ r' t', Executes m' p' t r' t' ∧ R r r' ∧ S s' t' := by
  induction h generalizing s t with
  | done h =>
    obtain ⟨rfl, rfl⟩ := executes_done.mp hexec
    exact ⟨_, t, executes_done.mpr ⟨rfl, rfl⟩, h, hs⟩
  | call hc _ ih =>
    obtain ⟨reply, s₁, hcall, hrest⟩ := executes_call.mp hexec
    obtain ⟨reply', t₁, hcall', hreplies, hs₁⟩ := hm _ _ _ _ _ _ hs hc hcall
    obtain ⟨r', t', hrest', hresults, hs'⟩ := ih _ _ hreplies hs₁ hrest
    exact ⟨r', t', executes_call.mpr ⟨reply', t₁, hcall', hrest'⟩, hresults, hs'⟩

end Lockstep
end Rules
end CallProgram

namespace Monitor
open CallProgram

/-- Systems that show the same, and that go on to show the same whichever of them moves. -/
def Bisimilar {X Y V : Type} (step : X → X → Prop) (step' : Y → Y → Prop) (view : X → V)
    (view' : Y → V) (x : X) (y : Y) : Prop :=
  ∃ beside : X → Y → Prop, beside x y ∧ ∀ x y, beside x y → view x = view' y ∧
    (∀ x₁, step x x₁ → ∃ y₁, step' y y₁ ∧ beside x₁ y₁) ∧
    ∀ y₁, step' y y₁ → ∃ x₁, step x x₁ ∧ beside x₁ y₁

variable {κ : Type} {ρ : κ → Type} {ε α σ τ ι J : Type}

section Defs
variable (k : Pairing κ ρ ε) (twins : J → J → Prop) (R : Except ε α → Except ε α → Prop)

structure Running.Beside (run run' : Running κ ρ ε α J) : Prop where
  job : twins run.job run'.job
  calls : List.Forall₂ k.calls (run.past.map Event.call) (run'.past.map Event.call)
  rest : Lockstep k R run.rest run'.rest

structure Completed.Beside (done done' : Completed κ ρ ε α J) : Prop where
  job : twins done.job done'.job
  calls : List.Forall₂ k.calls (done.events.map Event.call) (done'.events.map Event.call)
  result : R done.result done'.result

structure Client.Beside (client client' : Client κ ρ ε α J) : Prop where
  running : Option.Rel (Running.Beside k twins R) client.running client'.running
  completed : List.Forall₂ (Completed.Beside k twins R) client.completed client'.completed

/-- Systems of clients with jobs that belong together, as far as one another. -/
structure System.Beside (S : σ → τ → Prop) (s : System κ ρ ε α σ ι J)
    (t : System κ ρ ε α τ ι J) : Prop where
  owner : s.owner = t.owner
  state : S s.state t.state
  clients : ∀ i, Client.Beside k twins R (s.clients i) (t.clients i)

/-- The steps of a system in which only jobs such as `P` are under way. -/
def StepOf [DecidableEq ι] (use : κ → Use) (m : Machine κ ρ ε σ)
    (program : J → CallProgram κ ρ ε α) (P : J → Prop) (s s' : System κ ρ ε α σ ι J) : Prop :=
  Step use m program s s' ∧ ∀ i run, (s'.clients i).running = some run → P run.job

end Defs

section Proofs
variable {k : Pairing κ ρ ε} {twins : J → J → Prop} {R : Except ε α → Except ε α → Prop}
  {S : σ → τ → Prop} {client client' : Client κ ρ ε α J} {run run' : Running κ ρ ε α J}

theorem Running.Beside.swap (h : Running.Beside k twins R run run') :
    Running.Beside k.swap (fun j' j => twins j j') (fun r' r => R r r') run' run :=
  ⟨h.job, h.calls.flip, h.rest.swap⟩

theorem Client.Beside.swap (h : Client.Beside k twins R client client') :
    Client.Beside k.swap (fun j' j => twins j j') (fun r' r => R r r') client' client where
  running := by
    have hrunning := h.running
    generalize client.running = running, client'.running = running' at hrunning
    cases hrunning with
    | some hrun => exact .some hrun.swap
    | none => exact .none
  completed := h.completed.flip.imp fun _ _ hdone => ⟨hdone.job, hdone.calls.flip, hdone.result⟩

theorem System.Beside.swap {s : System κ ρ ε α σ ι J} {t : System κ ρ ε α τ ι J}
    (h : System.Beside k twins R S s t) :
    System.Beside k.swap (fun j' j => twins j j') (fun r' r => R r r') (fun t s => S s t) t s :=
  ⟨h.owner.symm, h.state, fun i => (h.clients i).swap⟩

theorem Client.Beside.idle (h : Client.Beside k twins R client client')
    (hidle : client.running = none) : client'.running = none := by
  have hrunning := h.running
  rw [hidle] at hrunning
  generalize client'.running = running' at hrunning
  cases hrunning
  rfl

theorem Client.Beside.under_way (h : Client.Beside k twins R client client')
    (hrun : client.running = some run) :
    ∃ run', client'.running = some run' ∧ Running.Beside k twins R run run' := by
  have hrunning := h.running
  rw [hrun] at hrunning
  generalize client'.running = running' at hrunning
  cases hrunning with
  | some hbeside => exact ⟨_, rfl, hbeside⟩

variable [DecidableEq ι] {use : κ → Use} {m : Machine κ ρ ε σ} {m' : Machine κ ρ ε τ}
  {program : J → CallProgram κ ρ ε α} {P P' : J → Prop} {s s₁ : System κ ρ ε α σ ι J}
  {t : System κ ρ ε α τ ι J} {i : ι}

theorem System.Beside.put {owner : Option ι} {state : σ} {state' : τ}
    (hclients : ∀ i, Client.Beside k twins R (s.clients i) (t.clients i)) (hstate : S state state')
    (hclient : Client.Beside k twins R client client') :
    System.Beside k twins R S (System.put ⟨owner, state, s.clients⟩ i client)
      (System.put ⟨owner, state', t.clients⟩ i client') where
  owner := rfl
  state := hstate
  clients i' := by
    by_cases hsame : i' = i
    · subst hsame
      rw [put_self, put_self]
      exact hclient
    · rw [put_other hsame, put_other hsame]
      exact hclients i'

/-- A step of the one system has one beside it of the other. -/
theorem System.Beside.step (huse : ∀ c c', k.calls c c' → use c = use c') (hm : Follows k S m m')
    (hprogram : ∀ j j', twins j j' → Lockstep k R (program j) (program j'))
    (hP : ∀ j, P j → ∃ j', twins j j') (hP' : ∀ j j', twins j j' → P' j')
    (h : System.Beside k twins R S s t) (hstep : StepOf use m program P s s₁) :
    ∃ t₁, StepOf use m' program P' t t₁ ∧ System.Beside k twins R S s₁ t₁ := by
  obtain ⟨hstep, hjobs⟩ := hstep
  obtain ⟨t₁, ht₁, hbeside⟩ :
      ∃ t₁, Step use m' program t t₁ ∧ System.Beside k twins R S s₁ t₁ := by
    obtain ⟨owner, state, clients⟩ := t
    obtain ⟨rfl, hstate, hclients⟩ := h
    cases hstep with
    | start i j hi =>
      have hj : P j := hjobs i ⟨j, [], program j⟩ (by rw [put_self])
      obtain ⟨j', hj'⟩ := hP j hj
      refine ⟨_, .start i j' ((hclients i).idle hi), .put hclients hstate ?_⟩
      exact ⟨.some ⟨hj', .nil, hprogram j j' hj'⟩, (hclients i).completed⟩
    | @advance _ i hadvance =>
      cases hadvance with
      | @answer j past c next hi owner' hp r state₁ hc =>
        obtain ⟨⟨j', past', rest'⟩, hi', hjob, hpast, hrest⟩ := (hclients i).under_way hi
        cases hrest with
        | @call _ c' hcalls _ next' hnext =>
          obtain ⟨r', state₁', hc', hreplies, hstate₁⟩ := hm _ _ _ _ _ _ hstate hcalls hc
          rw [huse c c' hcalls] at hp
          refine ⟨_, .advance (.answer hi' hp hc'), .put hclients hstate₁ ?_⟩
          have hcalled : List.Forall₂ k.calls (past.map Event.call ++ [c])
              (past'.map Event.call ++ [c']) := List.rel_append hpast (.cons hcalls .nil)
          refine ⟨.some ⟨hjob, ?_, hnext r r' hreplies⟩, (hclients i).completed⟩
          rw [List.map_append, List.map_append]
          exact hcalled
      | @finish j past result hi =>
        obtain ⟨⟨j', past', rest'⟩, hi', hjob, hpast, hrest⟩ := (hclients i).under_way hi
        cases hrest with
        | @done _ result' hresult =>
          have hdone : Completed.Beside k twins R ⟨j, past, result⟩ ⟨j', past', result'⟩ :=
            ⟨hjob, hpast, hresult⟩
          refine ⟨_, .advance (.finish hi'), .put hclients hstate ⟨.none, ?_⟩⟩
          exact List.rel_append (hclients i).completed (.cons hdone .nil)
  refine ⟨t₁, ⟨ht₁, fun i run' hrun' => ?_⟩, hbeside⟩
  obtain ⟨run, -, hrun⟩ := (hbeside.clients i).swap.under_way hrun'
  exact hP' _ _ hrun.job

/-- Machines each of which follows the other make systems that nobody can tell apart who sees
no more than stands in both. -/
theorem bisimilar_of_follows (huse : ∀ c c', k.calls c c' → use c = use c')
    (hforth : Follows k S m m') (hback : Follows k.swap (fun t s => S s t) m' m)
    (hprogram : ∀ j j', twins j j' → Lockstep k R (program j) (program j'))
    (hP : ∀ j, P j ↔ ∃ j', twins j j') (hP' : ∀ j', P' j' ↔ ∃ j, twins j j') {V : Type}
    {view : System κ ρ ε α σ ι J → V} {view' : System κ ρ ε α τ ι J → V}
    (hview : ∀ s t, System.Beside k twins R S s t → view s = view' t) {init : σ} {init' : τ}
    (h : S init init') :
    Bisimilar (StepOf use m program P) (StepOf use m' program P') view view' { state := init }
      { state := init' } := by
  refine ⟨System.Beside k twins R S, ⟨rfl, h, fun i => ⟨.none, .nil⟩⟩, fun s t hbeside => ?_⟩
  refine ⟨hview s t hbeside, fun s₁ hstep => ?_, fun t₁ hstep => ?_⟩
  · exact hbeside.step huse hforth hprogram (fun j => (hP j).mp)
      (fun j j' hj => (hP' j').mpr ⟨j, hj⟩) hstep
  · obtain ⟨s₁, hs₁, hnext⟩ := hbeside.swap.step (fun c' c hc => (huse c c' hc).symm) hback
      (fun j' j hj => (hprogram j j' hj).swap) (fun j' => (hP' j').mp)
      (fun j' j hj => (hP j).mpr ⟨j', hj⟩) hstep
    exact ⟨s₁, hs₁, hnext.swap⟩

/-! What a client shows. -/

/-- The jobs of a client, the calls made for each, and what it came to; not the answers. -/
structure Seen (κ ε α J : Type) where
  running : Option (J × List κ)
  completed : List (J × List κ × Except ε α)

def Client.seen (client : Client κ ρ ε α J) : Seen κ ε α J where
  running := client.running.map fun run => (run.job, run.past.map Event.call)
  completed := client.completed.map fun done =>
    (done.job, done.events.map Event.call, done.result)

/-- Where only what is the same belongs together, the clients show the same. -/
theorem Client.Beside.seen (hjobs : ∀ j j', twins j j' → j = j')
    (hcalls : ∀ c c', k.calls c c' → c = c') (hresults : ∀ r r', R r r' → r = r')
    (h : Client.Beside k twins R client client') : client.seen = client'.seen := by
  have hsame {l l' : List κ} (h : List.Forall₂ k.calls l l') : l = l' :=
    List.forall₂_eq_eq_eq ▸ h.imp hcalls
  obtain ⟨running, completed⟩ := client
  obtain ⟨running', completed'⟩ := client'
  obtain ⟨hrunning, hcompleted⟩ := h
  simp only at hrunning hcompleted
  unfold Client.seen
  congr 1
  · cases hrunning with
    | none => rfl
    | some hrun => simp only [Option.map_some, hjobs _ _ hrun.job, hsame hrun.calls]
  · induction hcompleted with
    | nil => rfl
    | cons hdone _ ih =>
      simp only [List.map_cons, hjobs _ _ hdone.job, hsame hdone.calls, hresults _ _ hdone.result, ih]

end Proofs
end Monitor
