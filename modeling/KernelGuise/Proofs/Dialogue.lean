import KernelGuise.Proofs.Session

/-!
# What is asked of a kernel

The questions of a run form one of four words, and the kernel's answers choose the word. Here the kernel is any that always comes
back (`Kernel κ Empty σ`); its answers may depend on all that it was asked before. A run asks what the kernel reports; it puts the
request, whole, when that was answered and the name reported is not the label; it asks for the command with its arguments when the
request was not needed or was taken; and it fails with the last answer. The questions of several runs are their words one after
another (`Dialogues`).
-/

namespace KernelGuise.Kernel

variable {κ σ : Type}

/-- The same kernel, with each question recorded as it is put. -/
def asked (k : Kernel κ Empty σ) : Kernel Call Empty σ := k.watched fun _ c => c

/-- What one run asks of a kernel, how it fails, and the state in which it leaves the kernel. -/
inductive Dialogue (k : Kernel κ Empty σ) (request : Request) (v : Invocation) (s : σ) : List Call → Failure → σ → Prop where
  /-- The kernel does not say what it reports: nothing more is asked. -/
  | queryFails {s₁ : σ} {cause : IoError} (hq : (k.queryIdentity s).answer = (.error cause, s₁)) :
      Dialogue k request v s [.query] (.query cause) s₁
  /-- It reports another name than the label and refuses the request: nothing more is asked. -/
  | requestFails {s₁ s₂ : σ} {i : Identity} {cause : IoError} (hq : (k.queryIdentity s).answer = (.ok i, s₁))
      (hn : i.sysname.beforeNul ≠ (Bytes.ofString request.label).beforeNul)
      (hp : (k.requestPersonality request s₁).answer = (.error cause, s₂)) :
      Dialogue k request v s [.query, .personality request] (.toggle cause) s₂
  /-- It reports the label: the command is asked for at once. -/
  | execFails {s₁ s₂ : σ} {i : Identity} {cause : IoError} (hq : (k.queryIdentity s).answer = (.ok i, s₁))
      (hn : i.sysname.beforeNul = (Bytes.ofString request.label).beforeNul)
      (hx : (k.exec (v.command :: v.args) s₁).answer = (.error cause, s₂)) :
      Dialogue k request v s [.query, .exec (v.command :: v.args)] (.exec cause) s₂
  /-- It reports another name and takes the request: the command is asked for next. -/
  | execFailsAfterRequest {s₁ s₂ s₃ : σ} {i : Identity} {cause : IoError}
      (hq : (k.queryIdentity s).answer = (.ok i, s₁))
      (hn : i.sysname.beforeNul ≠ (Bytes.ofString request.label).beforeNul)
      (hp : (k.requestPersonality request s₁).answer = (.ok (), s₂))
      (hx : (k.exec (v.command :: v.args) s₂).answer = (.error cause, s₃)) :
      Dialogue k request v s [.query, .personality request, .exec (v.command :: v.args)] (.exec cause) s₃

/-- What several runs ask of one kernel: a dialogue each, which starts where the one before it ended. -/
inductive Dialogues (k : Kernel κ Empty σ) : List (Request × Invocation) → σ → List (List Call × Failure) → σ → Prop where
  | nil (s : σ) : Dialogues k [] s [] s
  | cons {request : Request} {v : Invocation} {runs : List (Request × Invocation)} {s s₁ s₂ : σ} {word : List Call}
      {failure : Failure} {dialogues : List (List Call × Failure)} (hd : k.Dialogue request v s word failure s₁)
      (hs : Dialogues k runs s₁ dialogues s₂) : Dialogues k ((request, v) :: runs) s ((word, failure) :: dialogues) s₂

/-- The course of a run is a dialogue: its questions are the word, and its value is the failure. -/
theorem Course.dialogue {k : Kernel κ Empty σ} {request : Request} {v : Invocation} {s : σ} {talk : List (σ × Call)}
    {o : Outcome κ σ (Except Failure Empty)} (h : k.Course request v s talk o) :
    ∃ failure, k.Dialogue request v s (talk.map Prod.snd) failure o.state ∧ o.value = .error failure := by
  cases h with
  | unanswered hq => exact ⟨_, .queryFails (by rw [hq]; rfl), rfl⟩
  | refused hq hd hp =>
    have hn := (Identity.decision_eq_toggle_iff _ _).mp hd
    exact ⟨_, .requestFails (by rw [hq]; rfl) hn (by rw [hp]; rfl), rfl⟩
  | @borne s₁ s₂ i answer _ _ hq hd hx =>
    have hn := (Identity.decision_eq_skip_iff _ _).mp hd
    cases answer with
    | error cause => exact ⟨_, .execFails (by rw [hq]; rfl) hn (congrArg Outcome.answer hx), rfl⟩
    | ok after => exact after.elim
  | @taken s₁ s₂ s₃ i answer _ _ _ hq hd hp hx =>
    have hn := (Identity.decision_eq_toggle_iff _ _).mp hd
    cases answer with
    | error cause =>
      exact ⟨_, .execFailsAfterRequest (by rw [hq]; rfl) hn (by rw [hp]; rfl) (congrArg Outcome.answer hx), rfl⟩
    | ok after => exact after.elim

/-- One run asks the word of a dialogue and comes to its failure, watched or not. -/
theorem exists_dialogue (k : Kernel κ Empty σ) (request : Request) (v : Invocation) (s : σ) :
    ∃ word failure, k.Dialogue request v s word failure (k.run request v s).state ∧
      (k.asked.run request v s).calls = word ∧ (k.run request v s).value = .error failure ∧
      (k.asked.run request v s).answer = (k.run request v s).answer := by
  obtain ⟨talk, h⟩ := k.run_course request v s
  obtain ⟨failure, hd, hv⟩ := h.dialogue
  obtain ⟨ha, hc, -⟩ := h.watched fun _ c => c
  exact ⟨talk.map Prod.snd, failure, hd, hc, hv, ha⟩

/-- Any number of runs on any kernel that always comes back ask exactly the words of their dialogues, one after another, and each
run fails as its dialogue says. -/
theorem questions_of_runs (k : Kernel κ Empty σ) (runs : List (Request × Invocation)) (s : σ) :
    ∃ dialogues s', k.Dialogues runs s dialogues s' ∧
      ((runs.mapM fun r => k.asked.run r.1 r.2) s).calls = (dialogues.map Prod.fst).flatten ∧
      ((runs.mapM fun r => k.run r.1 r.2) s).answer = (dialogues.map fun d => .error d.2, s') := by
  induction runs generalizing s with
  | nil => exact ⟨[], s, .nil s, rfl, rfl⟩
  | cons r runs ih =>
    obtain ⟨word, failure, hd, hc, hv, ha⟩ := k.exists_dialogue r.1 r.2 s
    obtain ⟨dialogues, s', hs, hcs, has⟩ := ih (k.run r.1 r.2 s).state
    have hstate : (k.asked.run r.1 r.2 s).state = (k.run r.1 r.2 s).state := congrArg Prod.snd ha
    refine ⟨(word, failure) :: dialogues, s', .cons hd hs, ?_, ?_⟩
    · rw [Recorded.mapM_cons_run, hstate, List.map_cons, List.flatten_cons, ← hc, ← hcs]
      exact List.filterMap_append
    · rw [Recorded.mapM_cons_run]
      simp only [Outcome.answer, Prod.mk.injEq] at has ⊢
      rw [hv, has.1, has.2]
      exact ⟨rfl, rfl⟩

end KernelGuise.Kernel
