import Mathlib.Data.List.Basic

/-! Programs that call an environment and may throw. A program is the tree of its
calls, so one term has both a whole-run meaning (`result`, `trace`) and a
step-by-step meaning (`Path`) in which other programs may act between two calls. -/

/-- `κ` are the calls, `ρ c` what call `c` returns, `ε` the exceptions, which the
program itself and every call may throw. -/
inductive CallProgram (κ : Type) (ρ : κ → Type) (ε α : Type) where
  | done (r : Except ε α)
  | call (c : κ) (next : Except ε (ρ c) → CallProgram κ ρ ε α)

namespace CallProgram
variable {κ : Type} {ρ : κ → Type} {ε α β : Type}

def bind : CallProgram κ ρ ε α → (α → CallProgram κ ρ ε β) → CallProgram κ ρ ε β
  | .done (.ok a), f => f a
  | .done (.error e), _ => .done (.error e)
  | .call c next, f => .call c fun r => (next r).bind f

/-- `try p catch (e) handler e`. -/
def catching : CallProgram κ ρ ε α → (ε → CallProgram κ ρ ε α) → CallProgram κ ρ ε α
  | .done (.ok a), _ => .done (.ok a)
  | .done (.error e), handler => handler e
  | .call c next, handler => .call c fun r => (next r).catching handler

/-- Run `last` on both ways out of `p`, as a destructor does, and keep what `p` gave. -/
def ensuring : CallProgram κ ρ ε α → CallProgram κ ρ ε Unit → CallProgram κ ρ ε α
  | .done r, last => last.bind fun _ => .done r
  | .call c next, last => .call c fun r => (next r).ensuring last

instance : Monad (CallProgram κ ρ ε) where
  pure a := .done (.ok a)
  bind := bind

/-- One call; what it throws is thrown on. -/
def perform (c : κ) : CallProgram κ ρ ε (ρ c) := .call c .done

def lift (r : Except ε α) : CallProgram κ ρ ε α := .done r

structure Event (κ : Type) (ρ : κ → Type) (ε : Type) where
  call : κ
  reply : Except ε (ρ call)

section Run
variable (h : (c : κ) → Except ε (ρ c))

/-- What the program returns or throws when every call `c` is answered by `h c`. -/
def result : CallProgram κ ρ ε α → Except ε α
  | .done r => r
  | .call c next => (next (h c)).result

/-- The calls made, with their answers, in order. -/
def trace : CallProgram κ ρ ε α → List (Event κ ρ ε)
  | .done _ => []
  | .call c next => ⟨c, h c⟩ :: (next (h c)).trace

@[simp] theorem result_done (r : Except ε α) : (done r : CallProgram κ ρ ε α).result h = r := rfl

@[simp] theorem trace_done (r : Except ε α) : (done r : CallProgram κ ρ ε α).trace h = [] := rfl

@[simp] theorem result_call (c : κ) (next : Except ε (ρ c) → CallProgram κ ρ ε α) :
    (call c next).result h = (next (h c)).result h := rfl

@[simp] theorem trace_call (c : κ) (next : Except ε (ρ c) → CallProgram κ ρ ε α) :
    (call c next).trace h = ⟨c, h c⟩ :: (next (h c)).trace h := rfl

@[simp] theorem result_pure (a : α) :
    (pure a : CallProgram κ ρ ε α).result h = .ok a := rfl

@[simp] theorem trace_pure (a : α) : (pure a : CallProgram κ ρ ε α).trace h = [] := rfl

@[simp] theorem result_perform (c : κ) : (perform c : CallProgram κ ρ ε (ρ c)).result h = h c := rfl

@[simp] theorem trace_perform (c : κ) :
    (perform c : CallProgram κ ρ ε (ρ c)).trace h = [⟨c, h c⟩] := rfl

@[simp] theorem result_lift (r : Except ε α) : (lift r : CallProgram κ ρ ε α).result h = r := rfl

@[simp] theorem trace_lift (r : Except ε α) : (lift r : CallProgram κ ρ ε α).trace h = [] := rfl

theorem result_bind (p : CallProgram κ ρ ε α) (f : α → CallProgram κ ρ ε β) :
    (p >>= f).result h = (p.result h).bind fun a => (f a).result h := by
  change (p.bind f).result h = _
  induction p with
  | done r => cases r <;> rfl
  | call c next ih => exact ih (h c)

theorem trace_bind (p : CallProgram κ ρ ε α) (f : α → CallProgram κ ρ ε β) :
    (p >>= f).trace h = p.trace h ++
      match p.result h with
      | .ok a => (f a).trace h
      | .error _ => [] := by
  change (p.bind f).trace h = _
  induction p with
  | done r => cases r <;> simp [bind]
  | call c next ih => simpa [bind] using ih (h c)

theorem result_catching (p : CallProgram κ ρ ε α) (handler : ε → CallProgram κ ρ ε α) :
    (p.catching handler).result h =
      match p.result h with
      | .ok a => .ok a
      | .error e => (handler e).result h := by
  induction p with
  | done r => cases r <;> rfl
  | call c next ih => exact ih (h c)

theorem trace_catching (p : CallProgram κ ρ ε α) (handler : ε → CallProgram κ ρ ε α) :
    (p.catching handler).trace h = p.trace h ++
      match p.result h with
      | .ok _ => []
      | .error e => (handler e).trace h := by
  induction p with
  | done r => cases r <;> simp [catching]
  | call c next ih => simpa [catching] using ih (h c)

theorem result_ensuring (p : CallProgram κ ρ ε α) (last : CallProgram κ ρ ε Unit) :
    (p.ensuring last).result h = (last.result h).bind fun _ => p.result h := by
  induction p with
  | done r => exact result_bind h last fun _ => .done r
  | call c next ih => exact ih (h c)

theorem trace_ensuring (p : CallProgram κ ρ ε α) (last : CallProgram κ ρ ε Unit) :
    (p.ensuring last).trace h = p.trace h ++ last.trace h := by
  induction p with
  | done r =>
    change (last >>= fun _ => done r).trace h = _
    rw [trace_bind]
    cases last.result h <;> simp
  | call c next ih => simpa [ensuring] using ih (h c)

end Run

/-- `Path p es q`: after the calls `es` have been answered, `q` is left of `p`. -/
inductive Path : CallProgram κ ρ ε α → List (Event κ ρ ε) → CallProgram κ ρ ε α → Prop where
  | nil (p : CallProgram κ ρ ε α) : Path p [] p
  | cons {c : κ} {next : Except ε (ρ c) → CallProgram κ ρ ε α} (r : Except ε (ρ c))
      {es : List (Event κ ρ ε)} {q : CallProgram κ ρ ε α} (rest : Path (next r) es q) :
      Path (.call c next) (⟨c, r⟩ :: es) q

theorem Path.snoc {p : CallProgram κ ρ ε α} {es : List (Event κ ρ ε)} {c : κ}
    {next : Except ε (ρ c) → CallProgram κ ρ ε α} (h : Path p es (.call c next))
    (r : Except ε (ρ c)) : Path p (es ++ [⟨c, r⟩]) (next r) := by
  generalize hq : (CallProgram.call c next) = q at h
  induction h with
  | nil p => subst hq; exact .cons r (.nil _)
  | cons r' rest ih => exact .cons r' (ih hq)

theorem Path.split {p q : CallProgram κ ρ ε α} {es fs : List (Event κ ρ ε)}
    (h : Path p (es ++ fs) q) : ∃ mid, Path p es mid ∧ Path mid fs q := by
  induction es generalizing p with
  | nil => exact ⟨p, .nil p, h⟩
  | cons e es ih =>
    cases h with
    | cons r rest =>
      obtain ⟨mid, hfirst, hlast⟩ := ih rest
      exact ⟨mid, .cons r hfirst, hlast⟩

/-- A path whose answers `h` would have given is the front of the run against `h`. -/
theorem Path.run {h : (c : κ) → Except ε (ρ c)} {p q : CallProgram κ ρ ε α}
    {es : List (Event κ ρ ε)} (hpath : Path p es q) (hes : ∀ e ∈ es, h e.call = e.reply) :
    p.trace h = es ++ q.trace h ∧ p.result h = q.result h := by
  induction hpath with
  | nil p => exact ⟨rfl, rfl⟩
  | @cons c next r es q rest ih =>
    have hc : h c = r := hes ⟨c, r⟩ List.mem_cons_self
    obtain ⟨htrace, hresult⟩ := ih fun e he => hes e (List.mem_cons_of_mem _ he)
    rw [trace_call, result_call, hc, htrace]
    exact ⟨rfl, hresult⟩

theorem Path.of_run (h : (c : κ) → Except ε (ρ c)) (p : CallProgram κ ρ ε α) :
    Path p (p.trace h) (.done (p.result h)) := by
  induction p with
  | done r => exact .nil _
  | call c next ih => exact .cons (h c) (ih (h c))

/-! Programs that make their calls in the order of a rank, so none of them twice. -/
section Ranked
variable {rank : κ → Nat} {n m k : Nat}

/-- The calls of `p` have ascending ranks, from `n` on and below `m`. -/
def Ranked (rank : κ → Nat) : CallProgram κ ρ ε α → Nat → Nat → Prop
  | .done _, n, m => n ≤ m
  | .call c next, n, m => n ≤ rank c ∧ ∀ r, (next r).Ranked rank (rank c + 1) m

theorem Ranked.mono {p : CallProgram κ ρ ε α} (h : p.Ranked rank n m) (hk : m ≤ k) :
    p.Ranked rank n k := by
  induction p generalizing n with
  | done r => exact Nat.le_trans h hk
  | call c next ih => exact ⟨h.1, fun r => ih r (h.2 r)⟩

theorem Ranked.from_le {p : CallProgram κ ρ ε α} (h : p.Ranked rank m k) (hn : n ≤ m) :
    p.Ranked rank n k := by
  cases p with
  | done r => exact Nat.le_trans hn h
  | call c next => exact ⟨Nat.le_trans hn h.1, h.2⟩

theorem Ranked.bind {p : CallProgram κ ρ ε α} {f : α → CallProgram κ ρ ε β}
    (hp : p.Ranked rank n m) (hf : ∀ a, (f a).Ranked rank m k) (hk : m ≤ k) :
    (p >>= f).Ranked rank n k := by
  change (p.bind f).Ranked rank n k
  induction p generalizing n with
  | done r => cases r with
    | ok a => exact (hf a).from_le hp
    | error e => exact Nat.le_trans hp hk
  | call c next ih => exact ⟨hp.1, fun r => ih r (hp.2 r)⟩

theorem Ranked.catching {p : CallProgram κ ρ ε α} {handler : ε → CallProgram κ ρ ε α}
    (hp : p.Ranked rank n m) (hh : ∀ e, (handler e).Ranked rank m k) (hk : m ≤ k) :
    (p.catching handler).Ranked rank n k := by
  induction p generalizing n with
  | done r => cases r with
    | ok a => exact Nat.le_trans hp hk
    | error e => exact (hh e).from_le hp
  | call c next ih => exact ⟨hp.1, fun r => ih r (hp.2 r)⟩

theorem Ranked.ensuring {p : CallProgram κ ρ ε α} {last : CallProgram κ ρ ε Unit}
    (hp : p.Ranked rank n m) (hl : last.Ranked rank m k) :
    (p.ensuring last).Ranked rank n k := by
  induction p generalizing n with
  | done r =>
    have hend : ∀ l : CallProgram κ ρ ε Unit, ∀ i, l.Ranked rank i k →
        (l.bind fun _ => .done r).Ranked rank i k := by
      intro l
      induction l with
      | done s => cases s <;> exact fun i h => h
      | call c next ih => exact fun i h => ⟨h.1, fun s => ih s _ (h.2 s)⟩
    exact hend last n (hl.from_le hp)
  | call c next ih => exact ⟨hp.1, fun r => ih r (hp.2 r)⟩

theorem Path.ranked {p q : CallProgram κ ρ ε α} {es : List (Event κ ρ ε)} (h : Path p es q)
    (hp : p.Ranked rank n m) :
    es.Pairwise (fun e f => rank e.call < rank f.call) ∧ ∀ e ∈ es, n ≤ rank e.call := by
  induction h generalizing n with
  | nil p => exact ⟨.nil, by simp⟩
  | @cons c next r es q rest ih =>
    obtain ⟨hpair, hle⟩ := ih (hp.2 r)
    refine ⟨List.pairwise_cons.mpr ⟨fun e he => hle e he, hpair⟩, ?_⟩
    intro e he
    rcases List.mem_cons.mp he with rfl | he
    · exact hp.1
    · have := hle e he
      have := hp.1
      omega

end Ranked

/-- The answers that events gave, and `other` for the calls they do not hold. -/
def answersOf [DecidableEq κ] (other : (c : κ) → Except ε (ρ c)) :
    List (Event κ ρ ε) → (c : κ) → Except ε (ρ c)
  | [], c => other c
  | e :: es, c => if h : e.call = c then h ▸ e.reply else answersOf other es c

theorem answersOf_mem [DecidableEq κ] {rank : κ → Nat} (other : (c : κ) → Except ε (ρ c))
    {es : List (Event κ ρ ε)} (hes : es.Pairwise fun e f => rank e.call < rank f.call)
    {e : Event κ ρ ε} (he : e ∈ es) : answersOf other es e.call = e.reply := by
  induction es with
  | nil => simp at he
  | cons f es ih =>
    obtain ⟨hf, hrest⟩ := List.pairwise_cons.mp hes
    rcases List.mem_cons.mp he with rfl | he
    · simp [answersOf]
    · have hne : f.call ≠ e.call := by
        intro heq
        have := hf e he
        rw [heq] at this
        omega
      rw [answersOf, dif_neg hne]
      exact ih hrest he

theorem answersOf_induction [DecidableEq κ] {P : (c : κ) → Except ε (ρ c) → Prop}
    {other : (c : κ) → Except ε (ρ c)} {es : List (Event κ ρ ε)} (hother : ∀ c, P c (other c))
    (hes : ∀ e ∈ es, P e.call e.reply) (c : κ) : P c (answersOf other es c) := by
  induction es with
  | nil => exact hother c
  | cons e es ih =>
    unfold answersOf
    by_cases h : e.call = c
    · subst h
      simpa using hes e List.mem_cons_self
    · rw [dif_neg h]
      exact ih fun f hf => hes f (List.mem_cons_of_mem _ hf)

end CallProgram
