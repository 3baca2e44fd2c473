import KernelGuise.Proofs.ErrorText
import KernelGuise.Proofs.Hearing
import KernelGuise.Proofs.HostCourse

/-!
# The whole program

What can be told of the program from outside, when only errors are heard. No event is an error, and so no event is written. Without
a command the program reports its usage and calls nothing. With one, what the C library returns decides which calls are made
(`Program.trace`), and either the command takes over, and then the program has written nothing, or the program ends with status 1
and one line that names the last call made and tells its error number (`Program.Tells`).
-/

namespace KernelGuise

/-- The name under which a call is reported. -/
def SystemCall.operation : SystemCall → String
  | .uname => "uname"
  | .prctl _ _ _ _ _ => "prctl"
  | .execvp _ _ => "exec"

namespace Program

variable {σ : Type} {c : Libc UInt8 σ} {number : SystemCall → σ → Int32} {command : Bytes} {args : List Bytes} {s : σ}

/-! ## With a command -/

/-- The host reports another name than Linux, and so is asked to pass as Linux. -/
def Asks (c : Libc UInt8 σ) (s : σ) : Prop :=
  0 ≤ (c.uname s).1.1 ∧ (c.uname s).1.2.sysname.read ≠ Bytes.ofString "Linux"

instance (c : Libc UInt8 σ) (s : σ) : Decidable (Asks c s) := inferInstanceAs (Decidable (_ ∧ _))

/-- The host reports its name, and takes the request if there is one: the command is started. -/
def Starts (c : Libc UInt8 σ) (s : σ) : Prop :=
  0 ≤ (c.uname s).1.1 ∧ (Asks c s → 0 ≤ (c.prctl 1297306706 0 1 0 0 (c.uname s).2).1)

instance (c : Libc UInt8 σ) (s : σ) : Decidable (Starts c s) := inferInstanceAs (Decidable (_ ∧ (_ → _)))

/-- The state in which the command is started. -/
def startState (c : Libc UInt8 σ) (s : σ) : σ :=
  if Asks c s then (c.prctl 1297306706 0 1 0 0 (c.uname s).2).2 else (c.uname s).2

/-- The calls that the program makes for a command, each with the state in which it is made. -/
def trace (c : Libc UInt8 σ) (command : Bytes) (args : List Bytes) (s : σ) : List (σ × SystemCall) :=
  [(s, .uname)] ++ (if Asks c s then [((c.uname s).2, .prctl 1297306706 0 1 0 0)] else []) ++
    (if Starts c s then [(startState c s, .execvp command (command :: args))] else [])

/-- What can be told of the program when a command is given. -/
structure Tells (c : Libc UInt8 σ) (number : SystemCall → σ → Int32) (command : Bytes) (args : List Bytes) (s : σ)
    (r : Report) : Prop where
  /-- Each call is made at most once and in its place. -/
  calls : r.calls = (trace c command args s).map Prod.snd
  /-- Standard output is left to the command. -/
  stdout : r.stdout = ""
  /-- A command that takes over leaves its own status, and the program has written nothing. -/
  takenOver : ∀ status, Starts c s → (c.execvp command (command :: args) (startState c s)).1 = some status →
    r.status = status ∧ r.stderr = ""
  /-- Otherwise the program fails, and writes which call was the last and what error number it set. -/
  failed : (Starts c s → (c.execvp command (command :: args) (startState c s)).1 = none) →
    r.status = 1 ∧ ∃ q, (trace c command args s).getLast? = some q ∧
      r.stderr = "mocklinux: " ++ q.2.operation ++ ": error: " ++ (IoError.os (number q.2 q.1)).text ++ "\n"

/-- The label that the program asks for has no NUL in it. -/
theorem beforeNul_linux : (Bytes.ofString Request.linux.label).beforeNul = Bytes.ofString "Linux" := by
  decide

/-- The program asks when the query does not fail and the name is not its label. -/
theorem asks_iff {s₁ : σ} {ret : Int32} {names : Utsname} (hu : c.uname s = ((ret, names), s₁)) :
    Asks c s ↔ 0 ≤ ret ∧ names.sysname.read ≠ (Bytes.ofString Request.linux.label).beforeNul := by
  rw [Asks, hu, beforeNul_linux]

/-- The command is started when the query does not fail, nor the request if there is one. -/
theorem starts_iff {s₁ : σ} {ret : Int32} {names : Utsname} (hu : c.uname s = ((ret, names), s₁)) :
    Starts c s ↔ 0 ≤ ret ∧ (Asks c s → 0 ≤ (c.prctl 1297306706 0 1 0 0 s₁).1) := by
  rw [Starts, hu]

/-- A host that does not tell its names is asked nothing more. -/
theorem trace_of_untold {s₁ : σ} {ret : Int32} {names : Utsname} (hu : c.uname s = ((ret, names), s₁)) (hr : ret < 0) :
    ¬Starts c s ∧ trace c command args s = [(s, .uname)] := by
  have hn : ¬0 ≤ ret := Int32.not_le.mpr hr
  have ha : ¬Asks c s := fun h => hn ((asks_iff hu).mp h).1
  have hst : ¬Starts c s := fun h => hn ((starts_iff hu).mp h).1
  refine ⟨hst, ?_⟩
  rw [trace, if_neg ha, if_neg hst]
  rfl

/-- A host that refuses the request is asked for no command. -/
theorem trace_of_refused {s₁ s₂ : σ} {ret ret' : Int32} {names : Utsname} (hu : c.uname s = ((ret, names), s₁)) (hr : 0 ≤ ret)
    (hn : names.sysname.read ≠ (Bytes.ofString Request.linux.label).beforeNul)
    (hp : c.prctl 1297306706 0 1 0 0 s₁ = (ret', s₂)) (hr' : ret' < 0) :
    ¬Starts c s ∧ trace c command args s = [(s, .uname), (s₁, .prctl 1297306706 0 1 0 0)] := by
  have ha : Asks c s := (asks_iff hu).mpr ⟨hr, hn⟩
  have hst : ¬Starts c s := by
    intro h
    have hp0 := ((starts_iff hu).mp h).2 ha
    rw [hp] at hp0
    exact Int32.not_le.mpr hr' hp0
  refine ⟨hst, ?_⟩
  rw [trace, if_pos ha, if_neg hst, hu]
  rfl

/-- Once the identity is settled, the command is started in the state then, as the last call. -/
theorem trace_of_settles {before : List (σ × SystemCall)} {s' : σ} (hs : c.Settles .linux s before s') :
    Starts c s ∧ startState c s = s' ∧
      trace c command args s = before ++ [(s', .execvp command (command :: args))] := by
  cases hs with
  | borne hu hr hn =>
    have ha : ¬Asks c s := fun h => ((asks_iff hu).mp h).2 hn
    have hst : Starts c s := (starts_iff hu).mpr ⟨hr, fun h => absurd h ha⟩
    have hss : startState c s = s' := by rw [startState, if_neg ha, hu]
    refine ⟨hst, hss, ?_⟩
    rw [trace, if_neg ha, if_pos hst, hss]
    rfl
  | @taken s₁ _ ret ret' names hu hr hn hp hr' =>
    have hp' : c.prctl 1297306706 0 1 0 0 s₁ = (ret', s') := hp
    have ha : Asks c s := (asks_iff hu).mpr ⟨hr, hn⟩
    have hst : Starts c s := (starts_iff hu).mpr ⟨hr, fun _ => by rw [hp']; exact hr'⟩
    have hss : startState c s = s' := by rw [startState, if_pos ha, hu, hp']
    refine ⟨hst, hss, ?_⟩
    rw [trace, if_pos ha, if_pos hst, hss, hu]
    rfl

/-- A failure other than the usage is reported under the program's name. -/
theorem line_of_ne_usage {failure : Failure} (hu : failure ≠ .usage) :
    failure.line = "mocklinux: " ++ failure.message ++ "\n" := by
  have hl : failure.line = programName ++ ": " ++ failure.message ++ "\n" := by
    cases failure with
    | usage => exact absurd rfl hu
    | query => rfl
    | toggle => rfl
    | exec => rfl
  have hp : programName ++ ": " = "mocklinux: " := by decide
  rw [hl, hp]

/-- A failure other than the usage is reported on one line: the program, then the call and the error. -/
theorem line_of_message {failure : Failure} {call : SystemCall} {cause : IoError} (hu : failure ≠ .usage)
    (hm : failure.message = call.operation ++ ": error: " ++ cause.text) :
    failure.line = "mocklinux: " ++ call.operation ++ ": error: " ++ cause.text ++ "\n" := by
  simp only [line_of_ne_usage hu, hm, String.append_assoc]

/-- A run that fails, and whose failure names the last call and its number, is told as such. -/
theorem tells_of_error {calls : List (σ × SystemCall)} {failure : Failure} {q : σ × SystemCall}
    (ht : trace c command args s = calls)
    (hx : Starts c s → (c.execvp command (command :: args) (startState c s)).1 = none) (hq : calls.getLast? = some q)
    (hu : failure ≠ .usage) (hm : failure.message = q.2.operation ++ ": error: " ++ (IoError.os (number q.2 q.1)).text) :
    Tells c number command args s
      ⟨status (.error failure), "", written .err (ending (.error failure)), calls.map Prod.snd⟩ where
  calls := by rw [ht]
  stdout := rfl
  takenOver status hst hs := by
    rw [hx hst] at hs
    cases hs
  failed _ := by
    refine ⟨rfl, q, by rw [ht]; exact hq, ?_⟩
    rw [← line_of_message hu hm, written_ending_error]

/-- What is told of the program is its course. -/
theorem tells_of_course {calls : List (σ × SystemCall)} {value : Except Failure UInt8}
    (hc : c.Course number .linux ⟨command, args⟩ s calls value) (hn : ∀ a ∈ command :: args, 0 ∉ a) :
    Tells c number command args s ⟨status value, "", written .err (ending value), calls.map Prod.snd⟩ := by
  cases hc with
  | untold hu hr =>
    obtain ⟨hst, ht⟩ := trace_of_untold hu hr
    exact tells_of_error ht (fun h => absurd h hst) rfl nofun rfl
  | refused hu hr hne hp hr' =>
    obtain ⟨hst, ht⟩ := trace_of_refused hu hr hne hp hr'
    exact tells_of_error ht (fun h => absurd h hst) rfl nofun rfl
  | cut hs hnul =>
    obtain ⟨a, ha, h0⟩ := hnul
    exact absurd h0 (hn a ha)
  | unstarted hs hnul hx =>
    obtain ⟨-, hss, ht⟩ := trace_of_settles hs
    refine tells_of_error ht (fun _ => ?_) List.getLast?_concat nofun rfl
    rw [hss]
    exact congrArg Prod.fst hx
  | @started before s' _ after hs hnul hx =>
    obtain ⟨hst, hss, ht⟩ := trace_of_settles hs
    have hx' : (c.execvp command (command :: args) (startState c s)).1 = some after := by
      rw [hss]
      exact congrArg Prod.fst hx
    refine ⟨by rw [ht]; rfl, rfl, ?_, ?_⟩
    · intro status _ hstatus
      obtain rfl : after = status := Option.some.inj (hx'.symm.trans hstatus)
      exact ⟨rfl, rfl⟩
    · intro hnone
      rw [hnone hst] at hx'
      cases hx'

/-- The whole program, on a host whose calls set the error number when they fail, for a listener who hears errors at most. With no
command it makes no call, writes its usage and ends with status 1. With one, and no NUL in the command line, `Tells` says what can
be told of it; and the text that it writes of an error number is of no other number. -/
theorem report_of_program {l : Listener} (hl : ∀ e, l.hears e = true → e.level = .error) (h : c.Sets number) (program : Bytes)
    (s : σ) :
    report l c [program] s = ⟨1, "", "usage: mocklinux <cmd> [args...]\n", []⟩ ∧
      (∀ command args, (∀ a ∈ command :: args, 0 ∉ a) →
        Tells c number command args s (report l c (program :: command :: args) s)) ∧
      ∀ a b, (IoError.os a).text = (IoError.os b).text → a = b := by
  have hn : ∀ e, l.hears e = false := fun e => Bool.eq_false_iff.mpr fun he => e.level_ne_error (hl e he)
  refine ⟨?_, ?_, fun a b => IoError.text_os_inj.mp⟩
  · rw [report_of_unheard fun e _ => hn e]
    rfl
  · intro command args hnul
    obtain ⟨calls, hc, hcalls⟩ := c.exists_course h .linux ⟨command, args⟩ s
    have hrun : run c (program :: command :: args) s = c.kernel.run .linux ⟨command, args⟩ s := rfl
    rw [report_of_unheard fun e _ => hn e, hrun, hcalls]
    exact tells_of_course hc hnul

/-- A listener who hears errors alone, and puts a message down as it is. -/
def errorsOnly : Listener := ⟨fun e => e.level = .error, Event.message⟩

/-- On the host that refuses every request, the program reports the request and its error number; the number that the query left
is not seen. -/
theorem report_of_program_refused :
    (∀ e, errorsOnly.hears e = true → e.level = .error) ∧ Libc.refusing.Sets Libc.refusingNumber ∧
      report errorsOnly Libc.refusing [Bytes.ofString "mocklinux", Bytes.ofString "ls"] 0 =
        ⟨1, "", "mocklinux: prctl: error: Invalid argument (os error 22)\n", [.uname, .prctl 1297306706 0 1 0 0]⟩ := by
  have hl : ∀ e, errorsOnly.hears e = true → e.level = .error := fun _ => of_decide_eq_true
  obtain ⟨-, h, -⟩ := report_of_program hl Libc.refusing_sets (Bytes.ofString "mocklinux") 0
  have ht := h (Bytes.ofString "ls") [] (by decide)
  have hst : ¬Starts Libc.refusing 0 := by decide
  have htrace : trace Libc.refusing (Bytes.ofString "ls") [] 0 = [(0, .uname), (5, .prctl 1297306706 0 1 0 0)] := by decide
  obtain ⟨hstatus, q, hq, hline⟩ := ht.failed fun h => absurd h hst
  have hcalls := ht.calls
  have hout := ht.stdout
  rw [htrace] at hq hcalls
  obtain rfl : (5, SystemCall.prctl 1297306706 0 1 0 0) = q := Option.some.inj hq
  refine ⟨hl, Libc.refusing_sets, ?_⟩
  rcases hr : report errorsOnly Libc.refusing [Bytes.ofString "mocklinux", Bytes.ofString "ls"] 0 with
    ⟨status, out, err, calls⟩
  rw [hr] at hstatus hline hcalls hout
  rw [Report.mk.injEq]
  exact ⟨hstatus, hout, hline, hcalls⟩

end Program
end KernelGuise
