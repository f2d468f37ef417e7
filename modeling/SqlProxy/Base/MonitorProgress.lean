import SqlProxy.Base.Monitor
import Mathlib.Algebra.Order.BigOperators.Group.Finset
import Mathlib.Data.Set.Finite.Basic

/-! Programs of bounded length on a machine with one mutex. When no more are started, those under
way come to their end, and in every order of steps. -/
namespace Monitor
open CallProgram
open scoped BigOperators
variable {κ : Type} {ρ : κ → Type} {ε α σ ι J : Type} [DecidableEq ι]

/-- Steps in a row that start nothing, and the clients that take them. -/
inductive Advances (use : κ → Use) (m : Machine κ ρ ε σ) :
    List ι → System κ ρ ε α σ ι J → System κ ρ ε α σ ι J → Prop
  | nil (s : System κ ρ ε α σ ι J) : Advances use m [] s s
  | cons {i : ι} {movers : List ι} {s s₁ s' : System κ ρ ε α σ ι J} (h : Advance use m i s s₁)
      (rest : Advances use m movers s₁ s') : Advances use m (i :: movers) s s'

/-- The steps that a client has still to make at most, where no program makes more than `k`
calls. The last step is the return. -/
def Client.left (k : Nat) (client : Client κ ρ ε α J) : Nat :=
  match client.running with
  | none => 0
  | some run => k + 1 - run.past.length

section Progress
variable {use : κ → Use} {m : Machine κ ρ ε σ} {program : J → CallProgram κ ρ ε α} {init : σ}
  {s s' : System κ ρ ε α σ ι J} {l : List (Served κ ρ ε α ι J)} {i : ι} {k : Nat}

omit [DecidableEq ι] in
theorem Stands.path {owner : Option ι} {run : Running κ ρ ε α J}
    (h : Stands use m program i owner run) : Path (program run.job) run.past run.rest := by
  cases h with
  | before hrest => exact hrest ▸ .nil _
  | inside _ hpath => exact hpath
  | after _ hpath => exact hpath

omit [DecidableEq ι] in
theorem Client.left_le (client : Client κ ρ ε α J) : client.left k ≤ k + 1 := by
  unfold Client.left
  cases client.running with
  | none => exact Nat.zero_le _
  | some run => exact Nat.sub_le _ _

/-- A step is taken by a client under way, and leaves the others alone. -/
theorem Advance.frame (hstep : Advance use m i s s') :
    (s.clients i).running ≠ none ∧ ∀ i', i' ≠ i → s'.clients i' = s.clients i' := by
  cases hstep with
  | answer hi => exact ⟨by simp [hi], fun i' hne => put_other hne⟩
  | finish hi => exact ⟨by simp [hi], fun i' hne => put_other hne⟩

/-- It puts no client under way. -/
theorem running_of_advance {i' : ι} (hstep : Advance use m i s s')
    (h : (s'.clients i').running ≠ none) : (s.clients i').running ≠ none := by
  obtain ⟨hi, hothers⟩ := hstep.frame
  by_cases hsame : i' = i
  · rw [hsame]
    exact hi
  · rwa [hothers i' hsame] at h

/-- It brings the client that takes it nearer to its end. -/
theorem left_advance (hbound : ∀ j es rest, Path (program j) es rest → es.length ≤ k)
    (h : Linearized use m program init s l) (hstep : Advance use m i s s') :
    (s'.clients i).left k + 1 ≤ (s.clients i).left k := by
  cases hstep with
  | @answer j past c next hi owner hp r state hm =>
    have hpath := (h.stands i _ hi).path.snoc r
    have hlength := hbound _ _ _ hpath
    rw [List.length_append, List.length_singleton] at hlength
    rw [put_self]
    simp only [Client.left, hi, List.length_append, List.length_singleton]
    change past.length + 1 ≤ k at hlength
    omega
  | @finish j past result hi =>
    have hlength := hbound _ _ _ (h.stands i _ hi).path
    rw [put_self]
    simp only [Client.left, hi]
    change past.length ≤ k at hlength
    omega

/-- No client takes more steps than it has left. -/
theorem Advances.count_le (hprogram : ∀ j, Sectioned use m .before (program j))
    (hbound : ∀ j es rest, Path (program j) es rest → es.length ≤ k) {movers : List ι}
    (hsteps : Advances use m movers s s') (h : Linearized use m program init s l) (i : ι) :
    movers.count i + (s'.clients i).left k ≤ (s.clients i).left k := by
  induction hsteps generalizing l with
  | nil => simp
  | @cons i' movers s s₁ s' hstep _ ih =>
    obtain ⟨new, hnew⟩ := h.step hprogram (.advance hstep)
    have hrest := ih hnew
    by_cases hsame : i' = i
    · subst hsame
      have hless := left_advance hbound h hstep
      rw [List.count_cons_self]
      omega
    · have hi := hstep.frame.2 i (Ne.symm hsame)
      rw [hi] at hrest
      rwa [List.count_cons_of_ne hsame]

theorem Advances.mem_running {movers : List ι} (hsteps : Advances use m movers s s')
    (hi : i ∈ movers) : (s.clients i).running ≠ none := by
  induction hsteps with
  | nil => cases hi
  | cons hstep _ ih =>
    cases List.mem_cons.mp hi with
    | inl hi => exact hi ▸ hstep.frame.1
    | inr hi => exact running_of_advance hstep (ih hi)

theorem Advances.steps {movers : List ι} (h : Advances use m movers s s') :
    Steps use m program s s' := by
  induction h with
  | nil => exact .refl
  | cons hstep _ ih => exact .head (.advance hstep) ih

/-- At any time only so many programs are under way. -/
theorem finite_running (h : Reachable use m program init s) :
    {i | (s.clients i).running ≠ none}.Finite := by
  induction h with
  | refl => simp
  | tail _ hstep ih =>
    cases hstep with
    | start i j hi =>
      refine (Set.Finite.insert i ih).subset fun i' hi' => ?_
      by_cases hsame : i' = i
      · exact .inl hsame
      · rw [Set.mem_ofPred_eq, put_other hsame] at hi'
        exact .inr hi'
    | advance hadvance => exact ih.subset fun i' => running_of_advance hadvance

/-- Where every call has an answer and no program makes more than `k` calls, every program under
way takes at most `k + 1` steps, and when nothing can go on they have all come to their end. -/
theorem Reachable.ends (hprogram : ∀ j, Sectioned use m .before (program j))
    (hbound : ∀ j es rest, Path (program j) es rest → es.length ≤ k)
    (htotal : ∀ state c, ∃ r state', m state c r state') (h : Reachable use m program init s) :
    ∃ clients : Finset ι, (∀ i, i ∈ clients ↔ (s.clients i).running ≠ none) ∧
      ∀ movers s', Advances use m movers s s' →
        (∀ i, movers.count i ≤ k + 1) ∧ (∀ i ∈ movers, i ∈ clients) ∧
        movers.length ≤ clients.card * (k + 1) ∧
        ((∀ i s'', ¬ Advance use m i s' s'') → ∀ i, (s'.clients i).running = none) := by
  have hfinite := finite_running h
  obtain ⟨l, hl⟩ := linearized_of_reachable hprogram h
  refine ⟨hfinite.toFinset, fun i => hfinite.mem_toFinset, fun movers s' hsteps => ?_⟩
  have heach : ∀ i, movers.count i ≤ k + 1 := by
    intro i
    have hcount := hsteps.count_le hprogram hbound hl i
    have hleft := (s.clients i).left_le (k := k)
    omega
  have hmovers : ∀ i ∈ movers, i ∈ hfinite.toFinset :=
    fun i hi => hfinite.mem_toFinset.mpr (hsteps.mem_running hi)
  refine ⟨heach, hmovers, ?_, ?_⟩
  · have hall : ∀ i ∈ (movers : Multiset ι), i ∈ hfinite.toFinset := hmovers
    calc
      movers.length = ∑ i ∈ hfinite.toFinset, movers.count i := by
        simpa using (Multiset.sum_count_eq_card hall).symm
      _ ≤ _ := Finset.sum_le_card_nsmul _ _ _ fun i _ => heach i
  · intro hstuck i
    by_contra hi
    obtain ⟨run, hrun⟩ := Option.ne_none_iff_exists'.mp hi
    obtain ⟨l', hl'⟩ := linearized_of_reachable hprogram (h.trans hsteps.steps)
    obtain ⟨i', s'', hnext⟩ := hl'.not_stuck htotal hrun
    exact hstuck i' s'' hnext

end Progress
end Monitor
