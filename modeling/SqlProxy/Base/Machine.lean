import SqlProxy.Base.CallProgram

/-! Call programs on a machine: a state from which every call is answered, in one way, in
several or in none, and what holds when a program has run to its end. -/
namespace CallProgram
variable {κ : Type} {ρ : κ → Type} {ε α β σ τ : Type}

/-- `m s c r s'`: in state `s` the call `c` may be answered with `r`, which leads to `s'`. -/
abbrev Machine (κ : Type) (ρ : κ → Type) (ε σ : Type) :=
  σ → (c : κ) → Except ε (ρ c) → σ → Prop

/-- Calls answered in a row. -/
inductive Run (m : Machine κ ρ ε σ) : σ → List (Event κ ρ ε) → σ → Prop where
  | nil (s : σ) : Run m s [] s
  | cons {s s₁ s₂ : σ} {c : κ} {r : Except ε (ρ c)} {es : List (Event κ ρ ε)}
      (h : m s c r s₁) (rest : Run m s₁ es s₂) : Run m s (⟨c, r⟩ :: es) s₂

/-- The program runs to its end: from `s` it leaves `r` and the state `s'`. -/
def Executes (m : Machine κ ρ ε σ) (p : CallProgram κ ρ ε α) (s : σ) (r : Except ε α)
    (s' : σ) : Prop :=
  ∃ es, Path p es (.done r) ∧ Run m s es s'

section Runs
variable {m : Machine κ ρ ε σ} {s s' s'' : σ} {es fs : List (Event κ ρ ε)}

theorem Run.append (h : Run m s es s') (h' : Run m s' fs s'') : Run m s (es ++ fs) s'' := by
  induction h with
  | nil s => exact h'
  | cons hc _ ih => exact .cons hc (ih h')

theorem Run.snoc {c : κ} {r : Except ε (ρ c)} (h : Run m s es s') (hc : m s' c r s'') :
    Run m s (es ++ [⟨c, r⟩]) s'' :=
  h.append (.cons hc (.nil s''))

end Runs

/-- The machine with a record of its events. -/
def recording (m : Machine κ ρ ε σ) : Machine κ ρ ε (σ × List (Event κ ρ ε)) :=
  fun s c r s' => m s.1 c r s'.1 ∧ s'.2 = s.2 ++ [⟨c, r⟩]

theorem Run.recording {m : Machine κ ρ ε σ} {s s' : σ} {es : List (Event κ ρ ε)}
    (h : Run m s es s') (past : List (Event κ ρ ε)) :
    Run (recording m) (s, past) es (s', past ++ es) := by
  induction h generalizing past with
  | nil s =>
    rw [List.append_nil]
    exact .nil _
  | @cons s s₁ s₂ c r es hc _ ih =>
    have hrest := ih (past ++ [⟨c, r⟩])
    rw [List.append_assoc] at hrest
    have hfirst : CallProgram.recording m (s, past) c r (s₁, past ++ [⟨c, r⟩]) := ⟨hc, rfl⟩
    exact .cons hfirst hrest

theorem Path.of_done {r : Except ε α} {es : List (Event κ ρ ε)} {q : CallProgram κ ρ ε α}
    (h : Path (.done r) es q) : es = [] ∧ q = .done r := by
  cases h
  exact ⟨rfl, rfl⟩

section Executes
variable {m : Machine κ ρ ε σ} {s s' : σ}

theorem executes_done {x r : Except ε α} : Executes m (.done x) s r s' ↔ r = x ∧ s' = s := by
  constructor
  · rintro ⟨es, hpath, hrun⟩
    obtain ⟨rfl, hr⟩ := hpath.of_done
    cases hr
    cases hrun
    exact ⟨rfl, rfl⟩
  · rintro ⟨rfl, rfl⟩
    exact ⟨[], .nil _, .nil _⟩

theorem executes_call {c : κ} {next : Except ε (ρ c) → CallProgram κ ρ ε α} {r : Except ε α} :
    Executes m (.call c next) s r s' ↔ ∃ reply s₁, m s c reply s₁ ∧
      Executes m (next reply) s₁ r s' := by
  constructor
  · rintro ⟨es, hpath, hrun⟩
    cases hpath with
    | cons reply rest =>
      cases hrun with
      | cons hc hrest => exact ⟨reply, _, hc, _, rest, hrest⟩
  · rintro ⟨reply, s₁, hc, es, rest, hrest⟩
    exact ⟨_, .cons reply rest, .cons hc hrest⟩

end Executes

/-! The weakest precondition. -/

/-- Whatever the answers, `post` holds of what `p` returns or throws and of the state it
leaves. -/
def wp (m : Machine κ ρ ε σ) : CallProgram κ ρ ε α → (Except ε α → σ → Prop) → σ → Prop
  | .done r, post, s => post r s
  | .call c next, post, s => ∀ r s', m s c r s' → (next r).wp m post s'

/-- `f` takes over from a value, and an exception passes. -/
def onOk (f : α → σ → Prop) (post : Except ε β → σ → Prop) : Except ε α → σ → Prop
  | .ok a => f a
  | .error e => post (.error e)

/-- `handler` takes over from an exception, and a value passes. -/
def onError (handler : ε → σ → Prop) (post : Except ε α → σ → Prop) : Except ε α → σ → Prop
  | .ok a => post (.ok a)
  | .error e => handler e

section Wp
variable {m : Machine κ ρ ε σ} {s : σ}

@[simp] theorem onOk_ok (f : α → σ → Prop) (post : Except ε β → σ → Prop) (a : α) :
    onOk f post (.ok a) s ↔ f a s := .rfl

theorem wp_mono {p : CallProgram κ ρ ε α} {post post' : Except ε α → σ → Prop}
    (hpost : ∀ r s, post r s → post' r s) (h : p.wp m post s) : p.wp m post' s := by
  induction p generalizing s with
  | done r => exact hpost r s h
  | call c next ih => exact fun r s' hc => ih r (h r s' hc)

theorem wp_bind (p : CallProgram κ ρ ε α) (f : α → CallProgram κ ρ ε β)
    (post : Except ε β → σ → Prop) :
    (p >>= f).wp m post s ↔ p.wp m (onOk (fun a => (f a).wp m post) post) s := by
  change (p.bind f).wp m post s ↔ _
  induction p generalizing s with
  | done r => cases r <;> exact .rfl
  | call c next ih => exact forall_congr' fun r => forall₂_congr fun s' _ => ih r

theorem wp_catching (p : CallProgram κ ρ ε α) (handler : ε → CallProgram κ ρ ε α)
    (post : Except ε α → σ → Prop) :
    (p.catching handler).wp m post s ↔
      p.wp m (onError (fun e => (handler e).wp m post) post) s := by
  induction p generalizing s with
  | done r => cases r <;> exact .rfl
  | call c next ih => exact forall_congr' fun r => forall₂_congr fun s' _ => ih r

theorem wp_ensuring (p : CallProgram κ ρ ε α) (last : CallProgram κ ρ ε Unit)
    (post : Except ε α → σ → Prop) :
    (p.ensuring last).wp m post s ↔
      p.wp m (fun r => last.wp m (onOk (fun _ => post r) post)) s := by
  induction p generalizing s with
  | done r => exact wp_bind last (fun _ => .done r) post
  | call c next ih => exact forall_congr' fun r => forall₂_congr fun s' _ => ih r

/-- The weakest precondition speaks of the runs of the program, and of all of them. -/
theorem wp_iff {p : CallProgram κ ρ ε α} {post : Except ε α → σ → Prop} :
    p.wp m post s ↔ ∀ r s', Executes m p s r s' → post r s' := by
  induction p generalizing s with
  | done x =>
    constructor
    · intro h r s' hexec
      obtain ⟨rfl, rfl⟩ := executes_done.mp hexec
      exact h
    · intro h
      exact h x s (executes_done.mpr ⟨rfl, rfl⟩)
  | call c next ih =>
    constructor
    · intro h r s' hexec
      obtain ⟨reply, s₁, hc, hrest⟩ := executes_call.mp hexec
      exact (ih reply).mp (h reply s₁ hc) r s' hrest
    · intro h reply s₁ hc
      refine (ih reply).mpr fun r s' hrest => ?_
      exact h r s' (executes_call.mpr ⟨reply, s₁, hc, hrest⟩)

/-- A run of the program, with its events, meets what was shown of the recording machine. -/
theorem wp_recording {p : CallProgram κ ρ ε α} {post : Except ε α → σ × List (Event κ ρ ε) → Prop}
    (h : p.wp (recording m) post (s, [])) {es : List (Event κ ρ ε)} {r : Except ε α} {s' : σ}
    (hpath : Path p es (.done r)) (hrun : Run m s es s') : post r (s', es) :=
  wp_iff.mp h r (s', es) ⟨es, hpath, hrun.recording []⟩

end Wp
end CallProgram
