import KernelGuise.Proofs.Course

/-!
# Sessions

Several launches on one kernel, one after another. Each starts in the state in which the one before it left the kernel, unless
something else has changed that state in between (`Turn.drift`). A launch either makes no call at all or takes the course of a run
(`Launch.trace_cases`), and the log of a session begins with the trace of its first launch (`log_cons`).
-/

namespace KernelGuise

variable {κ τ σ α β : Type}

namespace Kernel

/-- The same kernel, with each question recorded together with the state in which it is put. -/
def traced (k : Kernel κ τ σ) : Kernel (σ × Call) τ σ := k.watched Prod.mk

/-- A run that is traced records the questions of its course. -/
theorem Course.traced_calls {k : Kernel κ τ σ} {request : Request} {v : Invocation} {s : σ} {talk : List (σ × Call)}
    {o : Outcome κ σ (Except Failure τ)} (h : Course k request v s talk o) :
    (k.traced.run request v s).calls = talk := by
  rw [traced, (h.watched Prod.mk).2.1, List.map_id'']
  exact fun _ => rfl

end Kernel

namespace Launch

/-- The invocation that a launch makes, unless its command line names no command. -/
def invocation? : Launch → Option Invocation
  | .invocation _ v => some v
  | .commandLine _ line => (Invocation.ofCommandLine line).toOption
  | .onLinux v => some v

/-- The questions that a launch puts to a kernel, each with the state in which it is put. -/
def trace (l : Launch) (k : Kernel κ τ σ) (s : σ) : List (σ × Call) := (l.on k.traced s).calls

/-- A launch that makes an invocation is the run of it. -/
theorem on_of_some {l : Launch} {v : Invocation} (h : l.invocation? = some v) (k : Kernel κ τ σ) :
    l.on k = k.run l.request v := by
  cases l with
  | invocation request v' =>
    cases h
    rfl
  | onLinux v' =>
    cases h
    rfl
  | commandLine request line =>
    rcases line with _ | ⟨program, _ | ⟨command, args⟩⟩
    · cases h
    · cases h
    · cases h
      rfl

/-- A launch that makes no invocation ends at once, with the usage, and leaves the kernel alone. -/
theorem on_of_none {l : Launch} (h : l.invocation? = none) (k : Kernel κ τ σ) (s : σ) :
    l.on k s = ⟨.error .usage, [], s⟩ := by
  cases l with
  | invocation request v' => cases h
  | onLinux v' => cases h
  | commandLine request line =>
    rcases line with _ | ⟨program, _ | ⟨command, args⟩⟩
    · rfl
    · rfl
    · cases h

/-- A launch makes no call and leaves the kernel's state as it is, or it takes the course of a run. -/
theorem trace_cases (l : Launch) (k : Kernel κ τ σ) (s : σ) :
    (l.trace k s = [] ∧ (l.on k s).state = s) ∨
      ∃ v, l.invocation? = some v ∧ k.Course l.request v s (l.trace k s) (l.on k s) := by
  cases hv : l.invocation? with
  | none =>
    left
    rw [trace, on_of_none hv, on_of_none hv]
    exact ⟨rfl, rfl⟩
  | some v =>
    obtain ⟨talk, h⟩ := k.run_course l.request v s
    right
    refine ⟨v, rfl, ?_⟩
    rw [trace, on_of_some hv, on_of_some hv, h.traced_calls]
    exact h

/-- Watching a launch changes neither what it comes to nor the state that it leaves. -/
theorem answer_on_traced (l : Launch) (k : Kernel κ τ σ) (s : σ) : (l.on k.traced s).answer = (l.on k s).answer := by
  cases hv : l.invocation? with
  | none => rw [on_of_none hv, on_of_none hv]; rfl
  | some v =>
    obtain ⟨talk, h⟩ := k.run_course l.request v s
    rw [on_of_some hv, on_of_some hv]
    exact (h.watched Prod.mk).1

end Launch

/-- One turn of a session: a launch, or something else that changes the kernel's state. -/
inductive Turn (σ : Type) where
  /-- A launch. -/
  | launch (l : Launch)
  /-- What others do to the kernel. -/
  | drift (change : σ → σ)

namespace Kernel

/-- The launches of a session, in order, each with the state in which it starts. -/
def starts (k : Kernel κ τ σ) : List (Turn σ) → σ → List (Launch × σ)
  | [], _ => []
  | .drift change :: turns, s => k.starts turns (change s)
  | .launch l :: turns, s => (l, s) :: k.starts turns (l.on k s).state

/-- All questions of launches that follow each other directly, each with the state in which it is put. -/
def log (k : Kernel κ τ σ) (launches : List Launch) (s : σ) : List (σ × Call) :=
  ((launches.mapM (Launch.on k.traced)) s).calls

end Kernel

/-- Computations on a list, one after another: the first, then the rest from where it ended. -/
theorem Recorded.mapM_cons_run (f : α → Recorded κ σ β) (x : α) (xs : List α) (s : σ) :
    ((x :: xs).mapM f) s =
      ⟨(f x s).value :: (xs.mapM f (f x s).state).value, (f x s).record ++ (xs.mapM f (f x s).state).record,
        (xs.mapM f (f x s).state).state⟩ := by
  simp [List.mapM_cons]

namespace Kernel

@[simp] theorem log_nil (k : Kernel κ τ σ) (s : σ) : k.log [] s = [] := rfl

/-- The log of a session begins with the trace of its first launch. -/
theorem log_cons (k : Kernel κ τ σ) (l : Launch) (launches : List Launch) (s : σ) :
    k.log (l :: launches) s = l.trace k s ++ k.log launches (l.on k s).state := by
  have hs : (l.on k.traced s).state = (l.on k s).state := congrArg Prod.snd (l.answer_on_traced k s)
  rw [log, Recorded.mapM_cons_run, hs]
  exact List.filterMap_append

end Kernel

end KernelGuise
