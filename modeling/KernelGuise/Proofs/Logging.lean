import KernelGuise.Proofs.Chronicle
import KernelGuise.Proofs.WholeProgram

/-!
# What logging changes

Who listens is no matter to a run. The program ends with the same status and makes the same calls, and writes the lines of the events
that are heard in front of what it writes when none is (`report_of_listener`). That is one line at most (`Program.Closes`): a host's
failures are error numbers and the NUL found in a command (`Libc.cause_of_error`), and none of their texts breaks a line.

No line is lost when a command takes over. The start of a command is the last entry of the record (`Libc.record_of_execvp`), so
that all that is to be written is written before.
-/

namespace KernelGuise

/-! ## Hosts -/

namespace Libc

variable {τ σ : Type} {c : Libc τ σ} {request : Request} {v : Invocation} {s : σ}

/-- A run on a host fails with an error number, or for a NUL in its command. -/
theorem cause_of_error {failure : Failure} (hv : (c.kernel.run request v s).value = .error failure) :
    ∃ cause, failure.cause? = some cause ∧ ((∃ code, cause = .os code) ∨ cause = nulFound) := by
  obtain ⟨calls, hc, -⟩ := c.exists_course c.sets_left request v s
  rw [hv] at hc
  cases hc with
  | untold => exact ⟨_, rfl, .inl ⟨_, rfl⟩⟩
  | refused => exact ⟨_, rfl, .inl ⟨_, rfl⟩⟩
  | cut => exact ⟨_, rfl, .inr rfl⟩
  | unstarted => exact ⟨_, rfl, .inl ⟨_, rfl⟩⟩

/-- The message of a run that fails on a host is on one line. -/
theorem oneLine_message {failure : Failure} (hv : (c.kernel.run request v s).value = .error failure) :
    OneLine failure.message := by
  refine Failure.oneLine_message fun cause hc => ?_
  obtain ⟨cause', hc', hcause⟩ := cause_of_error hv
  obtain rfl : cause = cause' := Option.some.inj (hc.symm.trans hc')
  rcases hcause with ⟨code, rfl⟩ | rfl
  · exact IoError.oneLine_os code
  · decide

/-- A run whose command takes over has called for the command. -/
theorem execvp_of_ok {after : τ} (hv : (c.kernel.run request v s).value = .ok after) :
    .execvp v.command v.argv ∈ (c.kernel.run request v s).calls := by
  obtain ⟨calls, hc, hcalls⟩ := c.exists_course c.sets_left request v s
  rw [hv] at hc
  cases hc with
  | started => simp [hcalls]

/-- The record of a run ends with the call for its command, once both events that name the command are told. -/
theorem record_of_execvp {file : Bytes} {argv : List Bytes} (hm : .execvp file argv ∈ (c.kernel.run request v s).calls) :
    ∃ before, (c.kernel.run request v s).record = before ++ [.call (.execvp file argv)] ∧
      .event (.replacing argv) ∈ before ∧ .event (.starting file) ∈ before := by
  -- A record that holds the call ends with all that is recorded of the command.
  have hlast : ∀ front, (c.kernel.run request v s).record =
        front ++ [.event (.replacing v.argv)] ++ Wording.host (.exec v.argv) →
      .call (.execvp file argv) ∈ Wording.host (.exec v.argv) →
      ∃ before, (c.kernel.run request v s).record = before ++ [.call (.execvp file argv)] ∧
        .event (.replacing argv) ∈ before ∧ .event (.starting file) ∈ before := by
    intro front hr hx
    obtain ⟨program, hcall, hw⟩ := Wording.host_of_call_mem hx
    obtain ⟨rfl, rfl⟩ := SystemCall.execvp.inj hcall
    exact ⟨front ++ [.event (.replacing v.argv), .event (.starting file)], by simp [hr, hw], by simp, by simp⟩
  obtain ⟨talk, hc⟩ := c.kernel.run_course request v s
  have hk := hc.chronicle (.host c)
  rw [Outcome.mem_calls] at hm
  generalize (c.kernel.run request v s).record = record at hk hm hlast ⊢
  generalize (c.kernel.run request v s).value = value at hk
  cases hk with
  | unanswered => simp [Wording.host] at hm
  | refused => simp [Wording.host] at hm
  | @borne _ _ i =>
    exact hlast (Wording.host .query ++ [.event (.ofProbe i), .event (.alreadyMatches i.shownSysname),
      .event (.settled .skip request.label)]) (by simp) (by simpa [Wording.host] using hm)
  | @taken _ _ _ i =>
    exact hlast (Wording.host .query ++ [.event (.ofProbe i), .event (Kernel.announcement i request)] ++
      Wording.host (.personality request) ++ [.event (.settled .toggle request.label)])
      (by simp [Kernel.announcement]) (by simpa [Wording.host] using hm)

end Libc

/-! ## The program -/

/-- A report with a text written to standard error before all else. -/
def Report.following (r : Report) (text : String) : Report := { r with stderr := text ++ r.stderr }

namespace Program

variable {σ α : Type} {c : Libc UInt8 σ} {commandLine : List Bytes} {s : σ}

/-- What the program writes about how its run came out: nothing once a command has taken over, and one line when it failed. -/
inductive Closes : Except Failure UInt8 → String → Prop where
  | takenOver (status : UInt8) : Closes (.ok status) ""
  | usage : Closes (.error .usage) "usage: mocklinux <cmd> [args...]\n"
  | failed {failure : Failure} (hu : failure ≠ .usage) (hl : OneLine failure.message) :
      Closes (.error failure) ("mocklinux: " ++ failure.message ++ "\n")

/-- Of more events more lines are written, and those of the fewer stand among them in the same order. -/
theorem lines_sublist {f g : Hearing} (h : ∀ e, f e = true → g e = true) (line : Event → String)
    (o : Outcome SystemCall σ α) : (lines ⟨f, line⟩ o).Sublist (lines ⟨g, line⟩ o) := by
  have hf : o.events.filter f = (o.events.filter g).filter f := by
    rw [List.filter_filter]
    refine List.filter_congr fun e _ => ?_
    cases he : f e with
    | false => rfl
    | true => simp [h e he]
  unfold lines
  rw [hf]
  exact List.filter_sublist.map _

/-- For a listener who has stopped listening, only how the run came out is written. -/
theorem report_deaf (l : Listener) (c : Libc UInt8 σ) (commandLine : List Bytes) (s : σ) :
    report l.deaf c commandLine s = ⟨status (run c commandLine s).value, "",
      written .err (ending (run c commandLine s).value), (run c commandLine s).calls⟩ :=
  report_of_unheard fun _ _ => rfl

/-- The lines of the events that are heard stand in front, and nothing else depends on the listener. -/
theorem report_eq_deaf (l : Listener) (c : Libc UInt8 σ) (commandLine : List Bytes) (s : σ) :
    report l c commandLine s =
      (report l.deaf c commandLine s).following (String.join (lines l (run c commandLine s))) := by
  rw [report_deaf, Report.following, ← stderr_report, ← status_report l, ← calls_report l, ← stdout_report l c commandLine s]

/-- A command line names a command and is run as such, or it names none, and then nothing is done. -/
theorem run_cases (c : Libc UInt8 σ) (commandLine : List Bytes) (s : σ) :
    run c commandLine s = ⟨.error .usage, [], s⟩ ∨ ∃ v, run c commandLine s = c.kernel.run .linux v s := by
  match commandLine with
  | [] => exact .inl rfl
  | [_] => exact .inl rfl
  | _ :: command :: args => exact .inr ⟨⟨command, args⟩, rfl⟩

/-- When no event is heard at most one line is written. -/
theorem closes_ending (c : Libc UInt8 σ) (commandLine : List Bytes) (s : σ) :
    Closes (run c commandLine s).value (written .err (ending (run c commandLine s).value)) := by
  rcases run_cases c commandLine s with h | ⟨v, h⟩
  · rw [h]
    exact .usage
  · rw [h]
    cases hv : (c.kernel.run .linux v s).value with
    | ok status => exact .takenOver status
    | error failure =>
      have hu : failure ≠ .usage := by
        rintro rfl
        obtain ⟨cause, hc, -⟩ := Libc.cause_of_error hv
        cases hc
      rw [written_ending_error, line_of_ne_usage hu]
      exact .failed hu (Libc.oneLine_message hv)

/-- The record of the program ends with the call for its command, if there is one. -/
theorem record_of_execvp {file : Bytes} {argv : List Bytes} (hm : .execvp file argv ∈ (run c commandLine s).calls) :
    ∃ before, (run c commandLine s).record = before ++ [.call (.execvp file argv)] ∧
      .event (.replacing argv) ∈ before ∧ .event (.starting file) ∈ before := by
  rcases run_cases c commandLine s with h | ⟨v, h⟩
  · rw [h] at hm
    cases hm
  · rw [h] at hm ⊢
    exact Libc.record_of_execvp hm

/-- When a command is called for, both events that name it have happened, and every line is written before the call. After it
comes nothing but the failure of the call. -/
theorem acts_of_execvp {file : Bytes} {argv : List Bytes} (hm : .execvp file argv ∈ (run c commandLine s).calls) :
    .replacing argv ∈ (run c commandLine s).events ∧ .starting file ∈ (run c commandLine s).events ∧
      ∀ l : Listener, ∃ before, acts l (runFor l.hears c commandLine s) =
          before ++ .call (.execvp file argv) :: ending (run c commandLine s).value ∧
        before.filterMap (Act.writes? .err) = lines l (run c commandLine s) := by
  obtain ⟨before, hr, hreplacing, hstarting⟩ := record_of_execvp hm
  refine ⟨Outcome.mem_events.mpr ?_, Outcome.mem_events.mpr ?_, fun l => ?_⟩
  · rw [hr]
    exact List.mem_append_left _ hreplacing
  · rw [hr]
    exact List.mem_append_left _ hstarting
  · -- Whatever is missed, the call stays the last entry.
    have hrecord : ((run c commandLine s).heard l.hears).record =
        before.filter (Entry.isHeard l.hears) ++ [.call (.execvp file argv)] := by
      simp [Outcome.heard, hr, Entry.isHeard]
    have hevents := Outcome.events_heard l.hears (run c commandLine s)
    rw [Outcome.events, hrecord] at hevents
    rw [runFor_eq_heard]
    refine ⟨(before.filter (Entry.isHeard l.hears)).map (act l), ?_, ?_⟩
    · rw [acts, hrecord, List.map_append, List.append_assoc]
      rfl
    · rw [filterMap_writes?_act, lines, ← hevents]
      simp [List.filterMap_cons]

/-- A command that takes over was called for. -/
theorem execvp_of_ok {status : UInt8} (hv : (run c commandLine s).value = .ok status) :
    ∃ file argv, .execvp file argv ∈ (run c commandLine s).calls := by
  rcases run_cases c commandLine s with h | ⟨v, h⟩
  · rw [h] at hv
    cases hv
  · rw [h] at hv ⊢
    exact ⟨v.command, v.argv, Libc.execvp_of_ok hv⟩

/-- Whoever listens, the run comes to the same value and state, and its record is the full one, less the events that are missed. So
the program ends with the same status, leaves standard output alone and makes the same calls; it writes the lines of the events
that are heard in their order, and then what it writes when none is heard, at most one line. Of fewer events fewer lines are
written, and these in the same order. When the program calls for a command, it has written every line before the call; a command
that takes over was called for, and the call is the last act. -/
theorem report_of_listener (c : Libc UInt8 σ) (commandLine : List Bytes) (s : σ) :
    (∀ hears, runFor hears c commandLine s = (run c commandLine s).heard hears) ∧
      (∀ l, report l c commandLine s =
        (report l.deaf c commandLine s).following (String.join (lines l (run c commandLine s)))) ∧
      (∀ l : Listener, Closes (run c commandLine s).value (report l.deaf c commandLine s).stderr) ∧
      (∀ (line : Event → String) (f g : Hearing), (∀ e, f e = true → g e = true) →
        (lines ⟨f, line⟩ (run c commandLine s)).Sublist (lines ⟨g, line⟩ (run c commandLine s))) ∧
      (∀ file argv, .execvp file argv ∈ (run c commandLine s).calls →
        .replacing argv ∈ (run c commandLine s).events ∧ .starting file ∈ (run c commandLine s).events ∧
          ∀ l : Listener, ∃ before, acts l (runFor l.hears c commandLine s) =
              before ++ .call (.execvp file argv) :: ending (run c commandLine s).value ∧
            before.filterMap (Act.writes? .err) = lines l (run c commandLine s)) ∧
      ∀ status, (run c commandLine s).value = .ok status →
        ending (run c commandLine s).value = [] ∧ ∃ file argv, .execvp file argv ∈ (run c commandLine s).calls := by
  refine ⟨fun hears => runFor_eq_heard hears c commandLine s, fun l => report_eq_deaf l c commandLine s, ?_, ?_, ?_, ?_⟩
  · intro l
    rw [report_deaf]
    exact closes_ending c commandLine s
  · exact fun line f g h => lines_sublist h line _
  · exact fun file argv hm => acts_of_execvp hm
  · intro status hv
    refine ⟨?_, execvp_of_ok hv⟩
    rw [hv]
    rfl

/-- A host that takes every request and starts every command, which then ends with status 7. -/
def yielding : Libc UInt8 Unit where
  uname _ := ((0, .store (.named (Bytes.ofString "Maestro"))), ())
  prctl _ _ _ _ _ _ := (0, ())
  execvp _ _ _ := (some 7, ())
  errno _ := 0

/-- On the host that yields to the command, the call is the last act, and the messages of all events are written before it; when
only the debug events are heard, a part of these. -/
theorem report_of_listener_yielding :
    (run yielding [Bytes.ofString "mocklinux", Bytes.ofString "ls"] ()).value = .ok 7 ∧
      (lines ⟨fun e => e.level = .debug, Event.message⟩
          (run yielding [Bytes.ofString "mocklinux", Bytes.ofString "ls"] ())).Sublist
        (lines ⟨.everything, Event.message⟩ (run yielding [Bytes.ofString "mocklinux", Bytes.ofString "ls"] ())) ∧
      ∃ before, acts ⟨.everything, Event.message⟩
            (runFor .everything yielding [Bytes.ofString "mocklinux", Bytes.ofString "ls"] ()) =
          before ++ [.call (.execvp (Bytes.ofString "ls") [Bytes.ofString "ls"])] ∧
        before.filterMap (Act.writes? .err) =
          lines ⟨.everything, Event.message⟩ (run yielding [Bytes.ofString "mocklinux", Bytes.ofString "ls"] ()) := by
  obtain ⟨-, -, -, hsub, hcall, hok⟩ := report_of_listener yielding [Bytes.ofString "mocklinux", Bytes.ofString "ls"] ()
  have hv : (run yielding [Bytes.ofString "mocklinux", Bytes.ofString "ls"] ()).value = .ok 7 := by decide
  obtain ⟨hend, -⟩ := hok 7 hv
  obtain ⟨-, -, hall⟩ := hcall (Bytes.ofString "ls") [Bytes.ofString "ls"] (by decide)
  obtain ⟨before, hacts, hlines⟩ := hall ⟨.everything, Event.message⟩
  rw [hend] at hacts
  exact ⟨hv, hsub _ _ _ fun _ _ => rfl, before, hacts, hlines⟩

end Program
end KernelGuise
