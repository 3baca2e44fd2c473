import KernelGuise.Proofs.ReportedName

/-!
# Command lines and invocations

A command line is the program's own name and the argument vector of one invocation, or it is too short to name a command
(`Invocation.commandLine_cases`). So command lines that name a command correspond to invocations, up to the program's name: each
is read as the invocation whose argument vector follows that name, element by element, and to run it is to run the invocation
(`Kernel.run_of_commandLine`).
-/

namespace KernelGuise

namespace Invocation

/-- An invocation is told by its argument vector. -/
theorem argv_inj {v w : Invocation} : v.argv = w.argv ↔ v = w := by
  cases v
  cases w
  simp [argv]

/-- An invocation is read back from its argument vector, with any name before it. -/
theorem ofCommandLine_cons_argv (program : Bytes) (v : Invocation) : ofCommandLine (program :: v.argv) = .ok v :=
  rfl

/-- A command line is a name and the argument vector of an invocation, or it has less than two elements. -/
theorem commandLine_cases (line : List Bytes) : (∃ program v, line = program :: argv v) ∨ line.length < 2 := by
  match line with
  | [] => exact .inr (by decide)
  | [_] => exact .inr (Nat.lt_succ_self 1)
  | program :: command :: args => exact .inl ⟨program, ⟨command, args⟩, rfl⟩

theorem length_cons_argv (program : Bytes) (v : Invocation) : 2 ≤ (program :: v.argv).length := by
  simp [argv]

/-- A command line of less than two elements names no command. -/
theorem ofCommandLine_of_short {line : List Bytes} (h : line.length < 2) : ofCommandLine line = .error .usage := by
  match line, h with
  | [], _ => rfl
  | [_], _ => rfl

/-- A command line is read exactly when it has two elements or more. -/
theorem exists_ofCommandLine_iff (line : List Bytes) : (∃ v, ofCommandLine line = .ok v) ↔ 2 ≤ line.length := by
  rcases commandLine_cases line with ⟨program, v, rfl⟩ | h
  · exact ⟨fun _ => length_cons_argv program v, fun _ => ⟨v, ofCommandLine_cons_argv program v⟩⟩
  · rw [ofCommandLine_of_short h]
    constructor
    · rintro ⟨v, hv⟩
      cases hv
    · intro hl
      omega

/-- A command line is read as the invocation whose argument vector is all of it but the program's name. -/
theorem ofCommandLine_eq_ok_iff (line : List Bytes) (v : Invocation) : ofCommandLine line = .ok v ↔ v.argv = line.tail := by
  rcases commandLine_cases line with ⟨program, w, rfl⟩ | h
  · rw [ofCommandLine_cons_argv, List.tail_cons, argv_inj, Except.ok.injEq]
    exact eq_comm
  · have hl : v.argv.length ≠ line.tail.length := by
      simp only [argv, List.length_cons, List.length_tail]
      omega
    rw [ofCommandLine_of_short h]
    exact ⟨nofun, fun ha => absurd (congrArg List.length ha) hl⟩

end Invocation

namespace Kernel

variable {κ τ σ : Type} {k : Kernel κ τ σ} {request : Request} {s : σ}

/-- A run fails at the kernel, never for want of a command. -/
theorem value_run_ne_usage (k : Kernel κ τ σ) (request : Request) (v : Invocation) (s : σ) :
    (k.run request v s).value ≠ .error .usage := by
  obtain ⟨talk, hc⟩ := k.run_course request v s
  generalize k.run request v s = o at hc
  cases hc with
  | unanswered => nofun
  | refused => nofun
  | @borne _ _ _ answer => cases answer <;> nofun
  | @taken _ _ _ _ answer => cases answer <;> nofun

/-- A command line runs as the invocation that it names. -/
theorem runCommandLine_cons_argv (k : Kernel κ τ σ) (request : Request) (program : Bytes) (v : Invocation) :
    k.runCommandLine request (program :: v.argv) = k.run request v :=
  rfl

/-- A command line that names no command comes to the usage, and the kernel is left alone. -/
theorem runCommandLine_of_short (k : Kernel κ τ σ) (request : Request) {line : List Bytes} (h : line.length < 2) (s : σ) :
    k.runCommandLine request line s = ⟨.error .usage, [], s⟩ := by
  rw [runCommandLine, runCommandLineFor, Invocation.ofCommandLine_of_short h]
  rfl

/-- No other command line comes to the usage. -/
theorem value_runCommandLine_eq_usage_iff (k : Kernel κ τ σ) (request : Request) (line : List Bytes) (s : σ) :
    (k.runCommandLine request line s).value = .error .usage ↔ line.length < 2 := by
  rcases Invocation.commandLine_cases line with ⟨program, v, rfl⟩ | h
  · have hl := Invocation.length_cons_argv program v
    rw [runCommandLine_cons_argv]
    exact ⟨fun hu => absurd hu (k.value_run_ne_usage request v s), fun h => by omega⟩
  · rw [k.runCommandLine_of_short request h]
    exact ⟨fun _ => h, fun _ => rfl⟩

/-- The commands asked for are what follows the program's name, whole. -/
theorem argv_of_commandLine {line : List Bytes} {s' : σ} {argv : List Bytes}
    (hm : (s', .exec argv) ∈ (Launch.commandLine request line).trace k s) : argv = line.tail := by
  rcases (Launch.commandLine request line).trace_cases k s with ⟨ht, -⟩ | ⟨v, hv, hc⟩
  · rw [ht] at hm
    cases hm
  · have ha := hc.argv_of_exec hm
    rcases Invocation.commandLine_cases line with ⟨program, w, rfl⟩ | h
    · obtain rfl : w = v := Option.some.inj hv
      exact ha
    · rw [Launch.invocation?, Invocation.ofCommandLine_of_short h] at hv
      cases hv

/-- Command lines and invocations correspond, on any kernel and for any request. An invocation is read back from its argument vector
with a name before it, and that command line runs as the invocation does, with the same calls, events, result and state. Every
other command line has less than two elements: it is the one kind that comes to the usage, and the kernel is left alone. A longer
one is read as the one invocation whose argument vector it is but for the name, and no other vector is asked for. -/
theorem run_of_commandLine (k : Kernel κ τ σ) (request : Request) (s : σ) :
    (∀ program v, Invocation.ofCommandLine (program :: v.argv) = .ok v ∧
        k.runCommandLine request (program :: v.argv) s = k.run request v s) ∧
      ∀ line : List Bytes,
        ((∃ v, Invocation.ofCommandLine line = .ok v) ↔ 2 ≤ line.length) ∧
        (∀ v, Invocation.ofCommandLine line = .ok v ↔ v.argv = line.tail) ∧
        (line.length < 2 →
          Invocation.ofCommandLine line = .error .usage ∧ k.runCommandLine request line s = ⟨.error .usage, [], s⟩) ∧
        ((k.runCommandLine request line s).value = .error .usage ↔ line.length < 2) ∧
        ∀ s' argv, (s', .exec argv) ∈ (Launch.commandLine request line).trace k s → argv = line.tail := by
  constructor
  · intro program v
    exact ⟨Invocation.ofCommandLine_cons_argv program v, by rw [runCommandLine_cons_argv]⟩
  · intro line
    refine ⟨Invocation.exists_ofCommandLine_iff line, Invocation.ofCommandLine_eq_ok_iff line, ?_,
      k.value_runCommandLine_eq_usage_iff request line s, ?_⟩
    · intro h
      exact ⟨Invocation.ofCommandLine_of_short h, k.runCommandLine_of_short request h s⟩
    · intro s' argv hm
      exact argv_of_commandLine hm

/-- A command without a name and an argument that looks like an option are asked for as they stand; a program's name alone comes
to the usage. -/
theorem run_of_commandLine_options :
    [Bytes.ofString "mocklinux"].length < 2 ∧
      ((rehearsal id).runCommandLine .linux [Bytes.ofString "mocklinux"] (Bytes.ofString "Linux", 0)).value = .error .usage ∧
      ((Bytes.ofString "Linux", 0), .exec [[], Bytes.ofString "--"]) ∈
        (Launch.commandLine .linux [Bytes.ofString "mocklinux", [], Bytes.ofString "--"]).trace (rehearsal id)
          (Bytes.ofString "Linux", 0) ∧
      [[], Bytes.ofString "--"] = [Bytes.ofString "mocklinux", [], Bytes.ofString "--"].tail := by
  obtain ⟨-, hall⟩ := run_of_commandLine (rehearsal id) .linux (Bytes.ofString "Linux", 0)
  obtain ⟨-, -, hshort, -, -⟩ := hall [Bytes.ofString "mocklinux"]
  have hl : [Bytes.ofString "mocklinux"].length < 2 := by decide
  obtain ⟨-, -, -, -, hexec⟩ := hall [Bytes.ofString "mocklinux", [], Bytes.ofString "--"]
  have hm : ((Bytes.ofString "Linux", 0), Call.exec [[], Bytes.ofString "--"]) ∈
      (Launch.commandLine .linux [Bytes.ofString "mocklinux", [], Bytes.ofString "--"]).trace (rehearsal id)
        (Bytes.ofString "Linux", 0) := by decide
  refine ⟨hl, ?_, hm, hexec _ _ hm⟩
  rw [(hshort hl).2]

end Kernel
end KernelGuise
