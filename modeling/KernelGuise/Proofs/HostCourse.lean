import KernelGuise.Host.Kernel
import KernelGuise.Proofs.Session

/-!
# The course of a run on a host

What a run asks of a C library and how it ends, read off what the library returns. A run first settles the identity (`Settles`),
which takes one call or two, and then starts the command; it ends at the first of these that fails (`Course`). Every run takes
such a course (`exists_course`).

There is one error number for all calls, and a call that succeeds may leave anything in it. `Sets` says what a library owes: a call
that fails sets the number. Then a run that fails reports the number of the call that failed, and none that another call has left
(`first_failure_reported`).
-/

namespace KernelGuise

namespace Libc

variable {τ σ : Type}

/-- The library sets the error number whenever a call fails: `number` is what each call sets, in the state in which it is made.
What a call that succeeds leaves there is open. -/
structure Sets (c : Libc τ σ) (number : SystemCall → σ → Int32) : Prop where
  uname : ∀ s, (c.uname s).1.1 < 0 → c.errno (c.uname s).2 = number .uname s
  prctl : ∀ option arg2 arg3 arg4 arg5 s, (c.prctl option arg2 arg3 arg4 arg5 s).1 < 0 →
    c.errno (c.prctl option arg2 arg3 arg4 arg5 s).2 = number (.prctl option arg2 arg3 arg4 arg5) s
  execvp : ∀ file argv s, (c.execvp file argv s).1 = none →
    c.errno (c.execvp file argv s).2 = number (.execvp file argv) s

/-- The error number that each call leaves, failed or not. -/
def left (c : Libc τ σ) : SystemCall → σ → Int32
  | .uname, s => c.errno (c.uname s).2
  | .prctl option arg2 arg3 arg4 arg5, s => c.errno (c.prctl option arg2 arg3 arg4 arg5 s).2
  | .execvp file argv, s => c.errno (c.execvp file argv s).2

/-- Any library sets the numbers that its calls leave. -/
theorem sets_left (c : Libc τ σ) : c.Sets c.left where
  uname _ _ := rfl
  prctl _ _ _ _ _ _ _ := rfl
  execvp _ _ _ _ := rfl

/-- The failure of a command with a NUL in it, found before any call. -/
def nulFound : IoError := .custom .invalidInput "nul byte found in provided data"

variable {c : Libc τ σ} {number : SystemCall → σ → Int32} {request : Request} {v : Invocation} {s s₁ s₂ : σ}
  {ret : Int32} {names : Utsname}

/-! ## The three answers -/

/-- A query that fails is answered with the error number right after it. -/
theorem queryIdentity_of_neg (hu : c.uname s = ((ret, names), s₁)) (hr : ret < 0) :
    c.kernel.queryIdentity s = ⟨.error (.os (c.errno s₁)), [.call .uname], s₁⟩ := by
  simp [kernel, kernelFor, queryIdentity, lastError, hu, hr]

/-- A query that does not fail is answered with the names in the buffer. -/
theorem queryIdentity_of_nonneg (hu : c.uname s = ((ret, names), s₁)) (hr : 0 ≤ ret) :
    c.kernel.queryIdentity s = ⟨.ok names.identity, [.call .uname], s₁⟩ := by
  have hn : ¬ret < 0 := Int32.not_lt.mpr hr
  simp [kernel, kernelFor, queryIdentity, hu, hn]

/-- A request that fails is answered with the error number right after it. -/
theorem requestPersonality_of_neg
    (hp : c.prctl request.channel request.subcommand request.activation 0 0 s = (ret, s₁)) (hr : ret < 0) :
    c.kernel.requestPersonality request s =
      ⟨.error (.os (c.errno s₁)), [.call (.prctl request.channel request.subcommand request.activation 0 0)], s₁⟩ := by
  simp [kernel, kernelFor, requestPersonality, lastError, hp, hr]

/-- A request that does not fail is taken, whatever is returned. -/
theorem requestPersonality_of_nonneg
    (hp : c.prctl request.channel request.subcommand request.activation 0 0 s = (ret, s₁)) (hr : 0 ≤ ret) :
    c.kernel.requestPersonality request s =
      ⟨.ok (), [.call (.prctl request.channel request.subcommand request.activation 0 0)], s₁⟩ := by
  have hn : ¬ret < 0 := Int32.not_lt.mpr hr
  simp [kernel, kernelFor, requestPersonality, hp, hn]

/-- A NUL in the command is found before any call. -/
theorem exec_of_nul (s : σ) (hn : ∃ a ∈ v.argv, 0 ∈ a) :
    c.kernel.exec v.argv s = ⟨.error nulFound, [.event (.starting v.command)], s⟩ := by
  have ha : 0 ∈ v.command ∨ ∃ a ∈ v.args, 0 ∈ a := by simpa [Invocation.argv] using hn
  simp [kernel, kernelFor, execFor, Invocation.argv, ha, nulFound]

/-- A command that comes back is answered with the error number right after it. -/
theorem exec_of_none (hn : ∀ a ∈ v.argv, 0 ∉ a) (hx : c.execvp v.command v.argv s = (none, s₁)) :
    c.kernel.exec v.argv s = ⟨.error (.os (c.errno s₁)),
      [.event (.starting v.command), .call (.execvp v.command v.argv)], s₁⟩ := by
  have ha : ¬(0 ∈ v.command ∨ ∃ a ∈ v.args, 0 ∈ a) := by simpa [Invocation.argv] using hn
  rw [Invocation.argv] at hx ⊢
  simp [kernel, kernelFor, execFor, ha, hx, lastError]

/-- A command that takes over leaves behind what it leaves. -/
theorem exec_of_some {after : τ} (hn : ∀ a ∈ v.argv, 0 ∉ a) (hx : c.execvp v.command v.argv s = (some after, s₁)) :
    c.kernel.exec v.argv s = ⟨.ok after,
      [.event (.starting v.command), .call (.execvp v.command v.argv)], s₁⟩ := by
  have ha : ¬(0 ∈ v.command ∨ ∃ a ∈ v.args, 0 ∈ a) := by simpa [Invocation.argv] using hn
  rw [Invocation.argv] at hx ⊢
  simp [kernel, kernelFor, execFor, ha, hx]

/-! ## The course -/

/-- The identity is settled: the calls that it takes, each with the state in which it is made, and the state after them. -/
inductive Settles (c : Libc τ σ) (request : Request) (s : σ) : List (σ × SystemCall) → σ → Prop where
  /-- The host reports the label already. -/
  | borne {s₁ : σ} {ret : Int32} {names : Utsname} (hu : c.uname s = ((ret, names), s₁)) (hr : 0 ≤ ret)
      (hn : names.sysname.read = (Bytes.ofString request.label).beforeNul) : Settles c request s [(s, .uname)] s₁
  /-- It reports another name, and its control call takes the request's three numbers. -/
  | taken {s₁ s₂ : σ} {ret ret' : Int32} {names : Utsname} (hu : c.uname s = ((ret, names), s₁)) (hr : 0 ≤ ret)
      (hn : names.sysname.read ≠ (Bytes.ofString request.label).beforeNul)
      (hp : c.prctl request.channel request.subcommand request.activation 0 0 s₁ = (ret', s₂)) (hr' : 0 ≤ ret') :
      Settles c request s
        [(s, .uname), (s₁, .prctl request.channel request.subcommand request.activation 0 0)] s₂

/-- How a run goes on a host, told by what the C library returns: the calls made, each with the state in which it is made, and
what the run comes to. -/
inductive Course (c : Libc τ σ) (number : SystemCall → σ → Int32) (request : Request) (v : Invocation) (s : σ) :
    List (σ × SystemCall) → Except Failure τ → Prop where
  /-- The host does not tell its names. -/
  | untold {s₁ : σ} {ret : Int32} {names : Utsname} (hu : c.uname s = ((ret, names), s₁)) (hr : ret < 0) :
      Course c number request v s [(s, .uname)] (.error (.query (.os (number .uname s))))
  /-- It tells another name than the label, and its control call refuses the request's three numbers. -/
  | refused {s₁ s₂ : σ} {ret ret' : Int32} {names : Utsname} (hu : c.uname s = ((ret, names), s₁)) (hr : 0 ≤ ret)
      (hn : names.sysname.read ≠ (Bytes.ofString request.label).beforeNul)
      (hp : c.prctl request.channel request.subcommand request.activation 0 0 s₁ = (ret', s₂)) (hr' : ret' < 0) :
      Course c number request v s
        [(s, .uname), (s₁, .prctl request.channel request.subcommand request.activation 0 0)]
        (.error (.toggle (.os (number (.prctl request.channel request.subcommand request.activation 0 0) s₁))))
  /-- The identity is settled, and a NUL is found in the command or in one of its arguments: no further call is made. -/
  | cut {before : List (σ × SystemCall)} {s' : σ} (hs : c.Settles request s before s') (hn : ∃ a ∈ v.argv, 0 ∈ a) :
      Course c number request v s before (.error (.exec nulFound))
  /-- The identity is settled, and the command does not start. -/
  | unstarted {before : List (σ × SystemCall)} {s' s'' : σ} (hs : c.Settles request s before s')
      (hn : ∀ a ∈ v.argv, 0 ∉ a) (hx : c.execvp v.command v.argv s' = (none, s'')) :
      Course c number request v s (before ++ [(s', .execvp v.command v.argv)])
        (.error (.exec (.os (number (.execvp v.command v.argv) s'))))
  /-- The identity is settled, and the command takes over. -/
  | started {before : List (σ × SystemCall)} {s' s'' : σ} {after : τ} (hs : c.Settles request s before s')
      (hn : ∀ a ∈ v.argv, 0 ∉ a) (hx : c.execvp v.command v.argv s' = (some after, s'')) :
      Course c number request v s (before ++ [(s', .execvp v.command v.argv)]) (.ok after)

/-- Once the identity is settled, a run comes to what the start of its command comes to. -/
theorem Settles.run {before : List (σ × SystemCall)} {s' s'' : σ} {answer : Except IoError τ}
    {started : List (Entry SystemCall)} (hs : c.Settles request s before s')
    (hx : c.kernel.exec v.argv s' = ⟨answer, started, s''⟩) :
    (c.kernel.run request v s).value = answer.mapError .exec ∧
      (c.kernel.run request v s).calls = before.map Prod.snd ++ started.filterMap Entry.call? := by
  cases hs with
  | @borne _ ret names hu hr hn =>
    have hd := (names.decision_eq_skip_iff_read request.label).mpr hn
    rw [(Kernel.Course.borne (queryIdentity_of_nonneg hu hr) hd hx).run_eq]
    simp [Outcome.calls, List.filterMap_cons]
  | @taken _ _ ret ret' names hu hr hn hp hr' =>
    have hd := (names.decision_eq_toggle_iff_read request.label).mpr hn
    rw [(Kernel.Course.taken (queryIdentity_of_nonneg hu hr) hd (requestPersonality_of_nonneg hp hr') hx).run_eq]
    simp [Outcome.calls, List.filterMap_cons]

/-- Once the identity is settled, the start of the command decides on the course. -/
theorem Settles.exists_course (h : c.Sets number) {before : List (σ × SystemCall)} {s' : σ}
    (hs : c.Settles request s before s') :
    ∃ trace, c.Course number request v s trace (c.kernel.run request v s).value ∧
      (c.kernel.run request v s).calls = trace.map Prod.snd := by
  by_cases hn : ∃ a ∈ v.argv, 0 ∈ a
  · obtain ⟨hv, hc⟩ := hs.run (exec_of_nul s' hn)
    refine ⟨before, ?_, ?_⟩
    · rw [hv]
      exact .cut hs hn
    · simpa [List.filterMap_cons] using hc
  · have hn' : ∀ a ∈ v.argv, 0 ∉ a := fun a ha h0 => hn ⟨a, ha, h0⟩
    refine ⟨before ++ [(s', .execvp v.command v.argv)], ?_⟩
    rcases hx : c.execvp v.command v.argv s' with ⟨_ | after, s''⟩
    · obtain ⟨hv, hc⟩ := hs.run (exec_of_none hn' hx)
      have he := h.execvp v.command v.argv s'
      rw [hx] at he
      rw [hv, he rfl]
      exact ⟨.unstarted hs hn' hx, by simpa [List.filterMap_cons] using hc⟩
    · obtain ⟨hv, hc⟩ := hs.run (exec_of_some hn' hx)
      rw [hv]
      exact ⟨.started hs hn' hx, by simpa [List.filterMap_cons] using hc⟩

/-- Every run on a host takes a course, and makes its calls. -/
theorem exists_course (h : c.Sets number) (request : Request) (v : Invocation) (s : σ) :
    ∃ trace, c.Course number request v s trace (c.kernel.run request v s).value ∧
      (c.kernel.run request v s).calls = trace.map Prod.snd := by
  rcases hu : c.uname s with ⟨⟨ret, names⟩, s₁⟩
  by_cases hr : ret < 0
  · have he := h.uname s
    rw [hu] at he
    have hk : c.kernel.Course request v s _ _ := .unanswered (queryIdentity_of_neg hu hr)
    rw [hk.run_eq, he hr]
    exact ⟨_, .untold hu hr, rfl⟩
  · have hr := Int32.not_lt.mp hr
    by_cases hn : names.sysname.read = (Bytes.ofString request.label).beforeNul
    · exact (Settles.borne hu hr hn).exists_course h
    · rcases hp : c.prctl request.channel request.subcommand request.activation 0 0 s₁ with ⟨ret', s₂⟩
      by_cases hr' : ret' < 0
      · have hd := (names.decision_eq_toggle_iff_read request.label).mpr hn
        have he := h.prctl request.channel request.subcommand request.activation 0 0 s₁
        rw [hp] at he
        have hk : c.kernel.Course request v s _ _ :=
          .refused (queryIdentity_of_nonneg hu hr) hd (requestPersonality_of_neg hp hr')
        rw [hk.run_eq, he hr']
        exact ⟨_, .refused hu hr hn hp hr', rfl⟩
      · exact (Settles.taken hu hr hn hp (Int32.not_lt.mp hr')).exists_course h

/-! ## The failure reported -/

/-- The error number in a failure is the one that the last call set. -/
theorem Course.code_eq {trace : List (σ × SystemCall)} {failure : Failure} {code : Int32}
    (hc : c.Course number request v s trace (.error failure)) (hf : failure.cause? = some (.os code)) :
    ∃ q, trace.getLast? = some q ∧ code = number q.2 q.1 := by
  cases hc with
  | untold hu hr =>
    cases hf
    exact ⟨_, rfl, rfl⟩
  | refused hu hr hn hp hr' =>
    cases hf
    exact ⟨_, rfl, rfl⟩
  | cut hs hn => cases hf
  | unstarted hs hn hx =>
    cases hf
    exact ⟨_, List.getLast?_concat, rfl⟩

/-- On a host whose calls set the error number when they fail, the first failure is the one reported, whatever the calls before it
have left there. A NUL in the command or its arguments counts only once the identity is settled; an error number that is reported
is the one of the last call made; and no run asks for a command without a name. -/
theorem first_failure_reported (h : c.Sets number) (request : Request) (v : Invocation) (s : σ) :
    ∃ trace, c.Course number request v s trace (c.kernel.run request v s).value ∧
      (c.kernel.run request v s).calls = trace.map Prod.snd ∧
      (∀ failure code, (c.kernel.run request v s).value = .error failure → failure.cause? = some (.os code) →
        ∃ q, trace.getLast? = some q ∧ code = number q.2 q.1) ∧
      ∀ q ∈ (c.kernel.traced.run request v s).calls, q.2 ≠ .exec [] := by
  obtain ⟨trace, hc, hcalls⟩ := exists_course h request v s
  refine ⟨trace, hc, hcalls, ?_, ?_⟩
  · intro failure code hv hf
    rw [hv] at hc
    exact hc.code_eq hf
  · rintro ⟨s', call⟩ hq he
    obtain ⟨talk, hk⟩ := c.kernel.run_course request v s
    rw [hk.traced_calls] at hq
    obtain rfl : call = .exec [] := he
    exact List.cons_ne_nil v.command v.args (hk.argv_of_exec hq).symm

/-- A host that tells its names, refuses every request and starts no command. Each call leaves a number of its own, and so does the
one that succeeds. Its state is the error number. -/
def refusing : Libc UInt8 Int32 where
  uname _ := ((0, .store (.named (Bytes.ofString "Maestro"))), 5)
  prctl _ _ _ _ _ _ := (-22, 22)
  execvp _ _ _ := (none, 2)
  errno errno := errno

/-- What the calls of the refusing host set when they fail. -/
def refusingNumber : SystemCall → Int32 → Int32
  | .uname, _ => 14
  | .prctl _ _ _ _ _, _ => 22
  | .execvp _ _, _ => 2

/-- The refusing host sets the error number whenever a call fails. -/
theorem refusing_sets : refusing.Sets refusingNumber where
  uname _ h := absurd (show (0 : Int32) < 0 from h) (by decide)
  prctl _ _ _ _ _ _ _ := rfl
  execvp _ _ _ _ := rfl

/-- A NUL in an argument does not hide that the request is refused, and the number reported is that of the refusal. -/
theorem first_failure_reported_refused :
    refusing.Sets refusingNumber ∧
      (refusing.kernel.run .linux ⟨Bytes.ofString "ls", [[0]]⟩ 0).value = .error (.toggle (.os 22)) ∧
      ∃ (trace : List (Int32 × SystemCall)) (q : Int32 × SystemCall),
        (refusing.kernel.run .linux ⟨Bytes.ofString "ls", [[0]]⟩ 0).calls = trace.map Prod.snd ∧
        trace.getLast? = some q ∧ 22 = refusingNumber q.2 q.1 := by
  obtain ⟨trace, -, hcalls, hcode, -⟩ := first_failure_reported refusing_sets .linux ⟨Bytes.ofString "ls", [[0]]⟩ 0
  have hv : (refusing.kernel.run .linux ⟨Bytes.ofString "ls", [[0]]⟩ 0).value = .error (.toggle (.os 22)) := by rfl
  obtain ⟨q, hq, hn⟩ := hcode _ _ hv rfl
  exact ⟨refusing_sets, hv, trace, q, hcalls, hq, hn⟩

end Libc

end KernelGuise
