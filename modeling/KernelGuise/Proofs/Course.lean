import KernelGuise.Launch

/-!
# The course of a run

What a launch says to a kernel, what it records and where it ends, read off the kernel's own answers. A run takes one of four
courses (`run_course`): the kernel does not say what it reports, it refuses the request, it bears the label already, or it takes
the request. All that holds of every run follows from these four.

`talk` is what an observer notes of a run: each question with the state in which it is put. The observer changes nothing
(`Course.watched`).
-/

namespace KernelGuise

namespace Outcome

variable {κ σ α : Type}

/-- What a computation answers: its value, and the state that it leaves. -/
def answer (o : Outcome κ σ α) : α × σ := (o.value, o.state)

end Outcome

namespace Kernel

variable {κ κ' τ σ : Type} {k : Kernel κ τ σ} {request : Request} {v : Invocation}

/-! ## The three steps -/

/-- A query that fails ends the probe, and nothing is said. -/
theorem probe_of_error {s s₁ : σ} {cause : IoError} {asked : List (Entry κ)}
    (h : k.queryIdentity s = ⟨.error cause, asked, s₁⟩) : k.probe s = ⟨.error (.query cause), asked, s₁⟩ := by
  simp [probe, probeFor, h]

/-- What a query tells is said once it is told. -/
theorem probe_of_ok {s s₁ : σ} {i : Identity} {asked : List (Entry κ)} (h : k.queryIdentity s = ⟨.ok i, asked, s₁⟩) :
    k.probe s = ⟨.ok i, asked ++ [.event (.ofProbe i)], s₁⟩ := by
  simp [probe, probeFor, h]

/-- A label that is borne already is not requested, and that is said. -/
theorem ensure_of_skip {i : Identity} (s : σ) (h : i.decision request.label = .skip) :
    k.ensure i request s = ⟨.ok .skip, [.event (.alreadyMatches i.shownSysname)], s⟩ := by
  simp [ensure, ensureFor, h]

/-- The event that announces a request about an identity. -/
def announcement (i : Identity) (request : Request) : Event :=
  .requesting i.shownSysname request.channel request.subcommand request.activation

/-- A request is announced before it is put; when it is refused, that is the failure. -/
theorem ensure_of_refused {s s₁ : σ} {i : Identity} {cause : IoError} {told : List (Entry κ)}
    (h : i.decision request.label = .toggle) (hp : k.requestPersonality request s = ⟨.error cause, told, s₁⟩) :
    k.ensure i request s = ⟨.error (.toggle cause), .event (announcement i request) :: told, s₁⟩ := by
  simp [ensure, ensureFor, announcement, h, hp]

/-- A request is announced before it is put, also when it is taken. -/
theorem ensure_of_taken {s s₁ : σ} {i : Identity} {told : List (Entry κ)}
    (h : i.decision request.label = .toggle) (hp : k.requestPersonality request s = ⟨.ok (), told, s₁⟩) :
    k.ensure i request s = ⟨.ok .toggle, .event (announcement i request) :: told, s₁⟩ := by
  simp [ensure, ensureFor, announcement, h, hp]

/-- The command is named before it is started, and the kernel's answer is the outcome. -/
theorem transfer_run {s s₁ : σ} {answer : Except IoError τ} {started : List (Entry κ)}
    (h : k.exec v.argv s = ⟨answer, started, s₁⟩) :
    k.transfer v s = ⟨answer.mapError .exec, .event (.replacing v.argv) :: started, s₁⟩ := by
  cases answer with
  | error cause =>
    rw [show (Except.error cause : Except IoError τ).mapError Failure.exec = .error (.exec cause) from rfl]
    simp [transfer, transferFor, h]
  | ok after =>
    rw [show (Except.ok after : Except IoError τ).mapError Failure.exec = .ok after from rfl]
    simp [transfer, transferFor, h]

/-! ## The four courses -/

/-- How a run goes from a state, told by the kernel's answers: the questions put to the kernel, each with the state in which it
is put, and what the run comes to. -/
inductive Course (k : Kernel κ τ σ) (request : Request) (v : Invocation) (s : σ) :
    List (σ × Call) → Outcome κ σ (Except Failure τ) → Prop where
  /-- The kernel does not say what it reports. -/
  | unanswered {s₁ : σ} {cause : IoError} {asked : List (Entry κ)}
      (hq : k.queryIdentity s = ⟨.error cause, asked, s₁⟩) :
      Course k request v s [(s, .query)] ⟨.error (.query cause), asked, s₁⟩
  /-- The kernel reports another name and refuses the request. -/
  | refused {s₁ s₂ : σ} {i : Identity} {cause : IoError} {asked told : List (Entry κ)}
      (hq : k.queryIdentity s = ⟨.ok i, asked, s₁⟩) (hd : i.decision request.label = .toggle)
      (hp : k.requestPersonality request s₁ = ⟨.error cause, told, s₂⟩) :
      Course k request v s [(s, .query), (s₁, .personality request)]
        ⟨.error (.toggle cause), asked ++ .event (.ofProbe i) :: .event (announcement i request) :: told, s₂⟩
  /-- The kernel reports the label already. -/
  | borne {s₁ s₂ : σ} {i : Identity} {answer : Except IoError τ} {asked started : List (Entry κ)}
      (hq : k.queryIdentity s = ⟨.ok i, asked, s₁⟩) (hd : i.decision request.label = .skip)
      (hx : k.exec v.argv s₁ = ⟨answer, started, s₂⟩) :
      Course k request v s [(s, .query), (s₁, .exec v.argv)]
        ⟨answer.mapError .exec, asked ++ .event (.ofProbe i) :: .event (.alreadyMatches i.shownSysname) ::
          .event (.settled .skip request.label) :: .event (.replacing v.argv) :: started, s₂⟩
  /-- The kernel reports another name and takes the request. -/
  | taken {s₁ s₂ s₃ : σ} {i : Identity} {answer : Except IoError τ} {asked told started : List (Entry κ)}
      (hq : k.queryIdentity s = ⟨.ok i, asked, s₁⟩) (hd : i.decision request.label = .toggle)
      (hp : k.requestPersonality request s₁ = ⟨.ok (), told, s₂⟩) (hx : k.exec v.argv s₂ = ⟨answer, started, s₃⟩) :
      Course k request v s [(s, .query), (s₁, .personality request), (s₂, .exec v.argv)]
        ⟨answer.mapError .exec, asked ++ .event (.ofProbe i) :: .event (announcement i request) :: told ++
          .event (.settled .toggle request.label) :: .event (.replacing v.argv) :: started, s₃⟩

/-- A course that the kernel's answers allow is the one that the run takes. -/
theorem Course.run_eq {s : σ} {talk : List (σ × Call)} {o : Outcome κ σ (Except Failure τ)}
    (h : Course k request v s talk o) : k.run request v s = o := by
  cases h with
  | unanswered hq =>
    simp [k.run_eq, probe_of_error hq]
  | refused hq hd hp =>
    simp [k.run_eq, probe_of_ok hq, ensure_of_refused hd hp]
  | borne hq hd hx =>
    simp [k.run_eq, probe_of_ok hq, ensure_of_skip _ hd, transfer_run hx]
  | taken hq hd hp hx =>
    simp [k.run_eq, probe_of_ok hq, ensure_of_taken hd hp, transfer_run hx]

/-- Every run takes one of the four courses. -/
theorem exists_course (k : Kernel κ τ σ) (request : Request) (v : Invocation) (s : σ) :
    ∃ talk o, Course k request v s talk o := by
  rcases hq : k.queryIdentity s with ⟨answer, asked, s₁⟩
  cases answer with
  | error cause => exact ⟨_, _, .unanswered hq⟩
  | ok i =>
    cases hd : i.decision request.label with
    | skip =>
      rcases hx : k.exec v.argv s₁ with ⟨answer, started, s₂⟩
      exact ⟨_, _, .borne hq hd hx⟩
    | toggle =>
      rcases hp : k.requestPersonality request s₁ with ⟨answer, told, s₂⟩
      cases answer with
      | error cause => exact ⟨_, _, .refused hq hd hp⟩
      | ok _ =>
        rcases hx : k.exec v.argv s₂ with ⟨answer, started, s₃⟩
        exact ⟨_, _, .taken hq hd hp hx⟩

/-- A run takes a course, and comes to what the course comes to. -/
theorem run_course (k : Kernel κ τ σ) (request : Request) (v : Invocation) (s : σ) :
    ∃ talk, Course k request v s talk (k.run request v s) := by
  obtain ⟨talk, o, h⟩ := exists_course k request v s
  exact ⟨talk, h.run_eq ▸ h⟩

/-- The commands that a run asks for have the argument vector of its invocation. -/
theorem Course.argv_of_exec {s s' : σ} {talk : List (σ × Call)} {o : Outcome κ σ (Except Failure τ)} {argv : List Bytes}
    (h : Course k request v s talk o) (hm : (s', .exec argv) ∈ talk) : argv = v.argv := by
  cases h with
  | unanswered hq => simp at hm
  | refused hq hd hp => simp at hm
  | borne hq hd hx =>
    simp only [List.mem_cons, Prod.mk.injEq, reduceCtorEq, and_false, List.not_mem_nil, or_false, false_or] at hm
    exact Call.exec.inj hm.2
  | taken hq hd hp hx =>
    simp only [List.mem_cons, Prod.mk.injEq, reduceCtorEq, and_false, List.not_mem_nil, or_false, false_or] at hm
    exact Call.exec.inj hm.2

/-! ## The observer -/

/-- A query that is watched is noted once and answered the same. -/
theorem watched_queryIdentity (note : σ → Call → κ') {s s₁ : σ} {answer : Except IoError Identity} {asked : List (Entry κ)}
    (h : k.queryIdentity s = ⟨answer, asked, s₁⟩) :
    (k.watched note).queryIdentity s =
      ⟨answer, .call (note s .query) :: (asked.filterMap Entry.event?).map .event, s₁⟩ := by
  simp [watched, Outcome.events, h]

/-- A request that is watched is noted once and answered the same. -/
theorem watched_requestPersonality (note : σ → Call → κ') {s s₁ : σ} {answer : Except IoError Unit} {told : List (Entry κ)}
    (h : k.requestPersonality request s = ⟨answer, told, s₁⟩) :
    (k.watched note).requestPersonality request s =
      ⟨answer, .call (note s (.personality request)) :: (told.filterMap Entry.event?).map .event, s₁⟩ := by
  simp [watched, Outcome.events, h]

/-- The start of a command that is watched is noted once and answered the same. -/
theorem watched_exec (note : σ → Call → κ') {s s₁ : σ} {argv : List Bytes} {answer : Except IoError τ}
    {started : List (Entry κ)} (h : k.exec argv s = ⟨answer, started, s₁⟩) :
    (k.watched note).exec argv s =
      ⟨answer, .call (note s (.exec argv)) :: (started.filterMap Entry.event?).map .event, s₁⟩ := by
  simp [watched, Outcome.events, h]

/-- A run that is watched is the same run: it comes to the same value and state and says the same, and the observer notes the
talk. -/
theorem Course.watched {s : σ} {talk : List (σ × Call)} {o : Outcome κ σ (Except Failure τ)}
    (h : Course k request v s talk o) (note : σ → Call → κ') :
    ((k.watched note).run request v s).answer = o.answer ∧
      ((k.watched note).run request v s).calls = talk.map (fun q => note q.1 q.2) ∧
      ((k.watched note).run request v s).events = o.events := by
  cases h with
  | unanswered hq =>
    rw [(Course.unanswered (watched_queryIdentity note hq)).run_eq]
    simp [Outcome.answer, Outcome.calls, Outcome.events, List.filterMap_cons]
  | refused hq hd hp =>
    rw [(Course.refused (watched_queryIdentity note hq) hd (watched_requestPersonality note hp)).run_eq]
    simp [Outcome.answer, Outcome.calls, Outcome.events, List.filterMap_cons]
  | borne hq hd hx =>
    rw [(Course.borne (watched_queryIdentity note hq) hd (watched_exec note hx)).run_eq]
    simp [Outcome.answer, Outcome.calls, Outcome.events, List.filterMap_cons]
  | taken hq hd hp hx =>
    rw [(Course.taken (watched_queryIdentity note hq) hd (watched_requestPersonality note hp)
      (watched_exec note hx)).run_eq]
    simp [Outcome.answer, Outcome.calls, Outcome.events, List.filterMap_cons]

end Kernel
end KernelGuise
