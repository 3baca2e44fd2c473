import KernelGuise.Program.Report

/-!
# Listening to a run

Who listens has no part in a run. What is recorded for a listener is what is recorded with everything heard, less the events that
are missed (`Outcome.heard`): the value and the state are the same, and so are the calls. This holds of what computations are made
of (`Recorded.heard_bind`, `Recorded.heard_emit`), hence of each step, of the run (`Kernel.heard_run`), of the kernel of a host
(`Libc.heard_kernel`) and of the whole program (`Program.runFor_eq_heard`).
-/

namespace KernelGuise

variable {κ τ σ α β : Type}

/-- An entry is kept for a listener when it is a call, or an event that is heard. -/
def Entry.isHeard (hears : Hearing) : Entry κ → Bool
  | .call _ => true
  | .event e => hears e

namespace Outcome

/-- The same outcome with the events left out that a listener misses. -/
def heard (hears : Hearing) (o : Outcome κ σ α) : Outcome κ σ α :=
  { o with record := o.record.filter (Entry.isHeard hears) }

/-- No call is missed. -/
theorem calls_heard (hears : Hearing) (o : Outcome κ σ α) : (o.heard hears).calls = o.calls := by
  simp only [calls, heard, List.filterMap_filter]
  refine congrArg (List.filterMap · o.record) (funext fun entry => ?_)
  cases entry with
  | call c => rfl
  | event e => cases he : hears e <;> simp [Entry.isHeard, he]

/-- The events that are heard keep their order. -/
theorem events_heard (hears : Hearing) (o : Outcome κ σ α) : (o.heard hears).events = o.events.filter hears := by
  simp only [events, heard, List.filterMap_filter, List.filter_filterMap]
  refine congrArg (List.filterMap · o.record) (funext fun entry => ?_)
  cases entry with
  | call c => rfl
  | event e => cases he : hears e <;> simp [Entry.isHeard, he, Option.filter_some]

end Outcome

namespace Recorded

/-- A computation as it is recorded for a listener. -/
def heard (hears : Hearing) (x : Recorded κ σ α) : Recorded κ σ α := fun s => (x s).heard hears

variable {hears : Hearing}

/-- A value at hand is recorded for no one. -/
theorem heard_pure (a : α) : (Pure.pure a : Recorded κ σ α).heard hears = Pure.pure a := rfl

/-- What follows a computation starts from the same value and state, whoever listens. -/
theorem heard_bind {x x' : Recorded κ σ α} {f f' : α → Recorded κ σ β} (hx : x.heard hears = x')
    (hf : ∀ a, (f a).heard hears = f' a) : (x >>= f).heard hears = x' >>= f' := by
  rw [← hx, ← funext hf]
  funext s
  simp only [heard, Outcome.heard, bind_run, List.filter_append]

/-- What is said is recorded if it is heard. -/
theorem heard_emit (e : Event) : (emit .everything e : Recorded κ σ Unit).heard hears = emit hears e := by
  funext s
  cases he : hears e <;> simp [heard, Outcome.heard, Entry.isHeard, he]

/-- A call is recorded for everyone. -/
theorem heard_perform (c : κ) (act : σ → α × σ) : (perform c act).heard hears = perform c act := rfl

/-- A look at the state is recorded for no one. -/
theorem heard_inspect (look : σ → α) : (inspect look : Recorded κ σ α).heard hears = inspect look := rfl

end Recorded

open Recorded

namespace Kernel

/-- A kernel whose own words are recorded for a listener. -/
def heard (hears : Hearing) (k : Kernel κ τ σ) : Kernel κ τ σ where
  queryIdentity := k.queryIdentity.heard hears
  requestPersonality request := (k.requestPersonality request).heard hears
  exec argv := (k.exec argv).heard hears

variable (k : Kernel κ τ σ) (hears : Hearing)

/-- A probe for a listener is the probe, less what is missed. -/
theorem heard_probe : k.probe.heard hears = (k.heard hears).probeFor hears := by
  refine heard_bind rfl fun answer => ?_
  cases answer with
  | error cause => exact heard_pure _
  | ok identity => exact heard_bind (heard_emit _) fun _ => heard_pure _

/-- So is what settles the label. -/
theorem heard_ensure (current : Identity) (request : Request) :
    (k.ensure current request).heard hears = (k.heard hears).ensureFor hears current request := by
  unfold ensure ensureFor
  cases current.decision request.label with
  | skip => exact heard_bind (heard_emit _) fun _ => heard_pure _
  | toggle =>
    refine heard_bind (heard_emit _) fun _ => heard_bind rfl fun answer => ?_
    cases answer <;> exact heard_pure _

/-- So is the start of the command. -/
theorem heard_transfer (v : Invocation) : (k.transfer v).heard hears = (k.heard hears).transferFor hears v := by
  refine heard_bind (heard_emit _) fun _ => heard_bind rfl fun answer => ?_
  cases answer <;> exact heard_pure _

/-- A run for a listener is the run, less what is missed: so is each of its steps, and each starts from the same state. -/
theorem heard_run (request : Request) (v : Invocation) :
    (k.run request v).heard hears = (k.heard hears).runFor hears request v := by
  refine heard_bind (k.heard_probe hears) fun answer => ?_
  cases answer with
  | error failure => exact heard_pure _
  | ok identity =>
    refine heard_bind (k.heard_ensure hears identity request) fun answer => ?_
    cases answer with
    | error failure => exact heard_pure _
    | ok decision => exact heard_bind (heard_emit _) fun _ => k.heard_transfer hears v

/-- A command line is run for a listener as its invocation is, if it has one. -/
theorem heard_runCommandLine (request : Request) (line : List Bytes) :
    (k.runCommandLine request line).heard hears = (k.heard hears).runCommandLineFor hears request line := by
  unfold runCommandLine runCommandLineFor
  cases Invocation.ofCommandLine line with
  | error failure => exact heard_pure _
  | ok v => exact k.heard_run hears request v

end Kernel

namespace Libc

variable (c : Libc τ σ) (hears : Hearing)

/-- The error number is told to no one. -/
theorem heard_lastError : c.lastError.heard hears = c.lastError := heard_inspect _

/-- A query says nothing. -/
theorem heard_queryIdentity : c.queryIdentity.heard hears = c.queryIdentity := by
  refine heard_bind (heard_perform _ _) fun answer => ?_
  dsimp only
  split
  · exact heard_bind (c.heard_lastError hears) fun _ => heard_pure _
  · exact heard_pure _

/-- A request says nothing. -/
theorem heard_requestPersonality (request : Request) :
    (c.requestPersonality request).heard hears = c.requestPersonality request := by
  refine heard_bind (heard_perform _ _) fun ret => ?_
  split
  · exact heard_bind (c.heard_lastError hears) fun _ => heard_pure _
  · exact heard_pure _

/-- The start of a command is announced to those who hear it. -/
theorem heard_exec (argv : List Bytes) : (c.execFor .everything argv).heard hears = c.execFor hears argv := by
  cases argv with
  | nil => exact heard_pure _
  | cons program args =>
    refine heard_bind (heard_emit _) fun _ => ?_
    split
    · exact heard_pure _
    · refine heard_bind (heard_perform _ _) fun answer => ?_
      cases answer with
      | some after => exact heard_pure _
      | none => exact heard_bind (c.heard_lastError hears) fun _ => heard_pure _

/-- The kernel of a host for a listener is the kernel of the host, less what is missed. -/
theorem heard_kernel : c.kernel.heard hears = c.kernelFor hears := by
  unfold Kernel.heard kernel kernelFor
  rw [heard_queryIdentity, funext (c.heard_requestPersonality hears), funext (c.heard_exec hears)]

end Libc

namespace Program

/-- The program for a listener comes to the same value and state, and its record is the full one, less what is missed. -/
theorem runFor_eq_heard (hears : Hearing) (c : Libc UInt8 σ) (commandLine : List Bytes) (s : σ) :
    runFor hears c commandLine s = (run c commandLine s).heard hears := by
  have h : ((c.kernelFor .everything).runCommandLineFor .everything .linux commandLine).heard hears =
      (c.kernelFor hears).runCommandLineFor hears .linux commandLine := by
    rw [← c.heard_kernel hears]
    exact c.kernel.heard_runCommandLine hears .linux commandLine
  exact (congrFun h s).symm

/-! ## What is seen from outside -/

variable {l : Listener} {c : Libc UInt8 σ} {commandLine : List Bytes} {s : σ}

/-- The lines of the events that a listener hears, in the order in which these happened. -/
def lines (l : Listener) (o : Outcome SystemCall σ α) : List String := (o.events.filter l.hears).map l.line

/-- What is written first comes first. -/
theorem written_append (stream : Stream) (first second : List Act) :
    written stream (first ++ second) = written stream first ++ written stream second := by
  rw [written, List.filterMap_append, String.join_append]
  rfl

/-- Acts make the calls of the record, whatever is written in between. -/
theorem filterMap_call?_act (l : Listener) (record : List (Entry SystemCall)) :
    (record.map (act l)).filterMap Act.call? = record.filterMap Entry.call? := by
  rw [List.filterMap_map]
  refine congrArg (List.filterMap · record) (funext fun entry => ?_)
  cases entry <;> rfl

/-- What is written to standard error along a record is the lines of its events, in order. -/
theorem filterMap_writes?_act (l : Listener) (record : List (Entry SystemCall)) :
    (record.map (act l)).filterMap (Act.writes? .err) = (record.filterMap Entry.event?).map l.line := by
  rw [List.filterMap_map, List.map_filterMap]
  refine congrArg (List.filterMap · record) (funext fun entry => ?_)
  cases entry <;> rfl

/-- No act writes to standard output. -/
theorem filterMap_writes?_out (l : Listener) (o : Outcome SystemCall σ (Except Failure UInt8)) :
    (acts l o).filterMap (Act.writes? .out) = [] := by
  rw [List.filterMap_eq_nil_iff]
  intro a ha
  rcases List.mem_append.mp ha with ha | ha
  · obtain ⟨entry, -, rfl⟩ := List.mem_map.mp ha
    cases entry <;> rfl
  · cases hv : o.value with
    | ok status => simp [hv, ending] at ha
    | error failure =>
      obtain rfl : a = .write .err failure.line := by simpa [hv, ending] using ha
      rfl

/-- A run that fails closes with the line of its failure. -/
theorem written_ending_error (failure : Failure) : written .err (ending (.error failure)) = failure.line :=
  String.empty_append

/-- The last act calls nothing. -/
theorem filterMap_call?_ending (value : Except Failure UInt8) : (ending value).filterMap Act.call? = [] := by
  cases value <;> rfl

/-- The status is that of the run. -/
theorem status_report (l : Listener) (c : Libc UInt8 σ) (commandLine : List Bytes) (s : σ) :
    (report l c commandLine s).status = status (run c commandLine s).value := by
  rw [report, runFor_eq_heard]
  rfl

/-- Standard output is left to the command. -/
theorem stdout_report (l : Listener) (c : Libc UInt8 σ) (commandLine : List Bytes) (s : σ) :
    (report l c commandLine s).stdout = "" := by
  rw [report, written, filterMap_writes?_out, String.join_nil]

/-- The calls are those of the run. -/
theorem calls_report (l : Listener) (c : Libc UInt8 σ) (commandLine : List Bytes) (s : σ) :
    (report l c commandLine s).calls = (run c commandLine s).calls := by
  rw [report, acts, List.filterMap_append, filterMap_call?_act, filterMap_call?_ending, List.append_nil, runFor_eq_heard]
  exact Outcome.calls_heard l.hears _

/-- What the listener hears is written first, and how the run came out is written last. -/
theorem stderr_report (l : Listener) (c : Libc UInt8 σ) (commandLine : List Bytes) (s : σ) :
    (report l c commandLine s).stderr =
      String.join (lines l (run c commandLine s)) ++ written .err (ending (run c commandLine s).value) := by
  have hw : ((runFor l.hears c commandLine s).record.map (act l)).filterMap (Act.writes? .err) =
      lines l (run c commandLine s) := by
    rw [filterMap_writes?_act, runFor_eq_heard]
    exact congrArg (List.map l.line) (Outcome.events_heard l.hears _)
  have hr : (report l c commandLine s).stderr =
      written .err ((runFor l.hears c commandLine s).record.map (act l)) ++
        written .err (ending (runFor l.hears c commandLine s).value) := written_append .err _ _
  rw [hr, written, hw, runFor_eq_heard]
  rfl

/-- For a listener who hears nothing of a run, the program makes the calls of the run and writes how it came out. -/
theorem report_of_unheard (h : ∀ e ∈ (run c commandLine s).events, l.hears e = false) :
    report l c commandLine s = ⟨status (run c commandLine s).value, "",
      written .err (ending (run c commandLine s).value), (run c commandLine s).calls⟩ := by
  have hl : lines l (run c commandLine s) = [] := by
    rw [lines, List.filter_eq_nil_iff.mpr fun e hm => by simp [h e hm], List.map_nil]
  have herr := stderr_report l c commandLine s
  rw [hl, String.join_nil, String.empty_append] at herr
  rw [← status_report l, ← calls_report l, ← herr, ← stdout_report l c commandLine s]

end Program

end KernelGuise
