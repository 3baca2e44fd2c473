import KernelGuise.Proofs.CommandLine
import KernelGuise.Proofs.Logging

/-!
# What a reported failure tells

The message of a failure begins with a heading that names the operation, and the error's own text follows to the end
(`Failure.message_eq`). No heading begins another, nor does one begin the usage, so a message is read back from its front
(`Failure.readMessage`), whatever the text imitates. The line that reports a failure puts the program's name before the message and
ends the line after it; it is read back as well (`Failure.readLine`). What is read back is the operation that failed and the text of
its error, or nothing when no command was given (`Failure.told`), and no more than that is in a message or in a line.
-/

namespace KernelGuise

def Stage.heading : Stage → String
  | .query => "uname: error: "
  | .request => "prctl: error: "
  | .exec => "exec: error: "

namespace Failure

/-- What a failure tells: the operation that failed and the text of its error, or nothing when no command was given. -/
def told : Failure → Option (Stage × String)
  | .usage => none
  | .query cause => some (.query, cause.text)
  | .toggle cause => some (.request, cause.text)
  | .exec cause => some (.exec, cause.text)

/-- Reads a message: the operation whose heading it begins with, and the text that follows. -/
def readMessage (text : String) : Option (Stage × String) :=
  [Stage.query, .request, .exec].findSome? fun stage =>
    (stage.heading.toList.isPrefixOf? text.toList).map fun rest => (stage, String.ofList rest)

/-- Reads a line that reports a failure: the message that stands between the program's name and the end of the line. -/
def readLine (text : String) : Option (Stage × String) :=
  ("mocklinux: ".toList.isPrefixOf? text.toList).bind fun rest => readMessage (String.ofList rest.dropLast)

/-! ## Messages and lines -/

/-- A message is the heading of the operation and the text of the error, or the usage. -/
theorem message_eq (f : Failure) :
    f.message = match f.told with
      | none => "usage: mocklinux <cmd> [args...]"
      | some (stage, text) => stage.heading ++ text := by
  cases f <;> rfl

/-- A line is the message under the program's name; the usage stands alone. -/
theorem line_eq (f : Failure) :
    f.line = match f.told with
      | none => "usage: mocklinux <cmd> [args...]\n"
      | some (stage, text) => "mocklinux: " ++ (stage.heading ++ text) ++ "\n" := by
  cases f <;> rfl

/-- A heading is found at the front, and no other heading is. -/
theorem readMessage_heading (stage : Stage) (text : String) : readMessage (stage.heading ++ text) = some (stage, text) := by
  have hr : readMessage (stage.heading ++ text) = some (stage, String.ofList text.toList) := by
    unfold readMessage
    rw [String.toList_append]
    -- The headings differ in their first letters, so that the text is not looked at.
    cases stage <;> rfl
  rw [hr, String.ofList_toList]

/-- The message is found between the program's name and the end of the line, whatever it holds. -/
theorem readLine_message (message : String) : readLine ("mocklinux: " ++ message ++ "\n") = readMessage message := by
  have hp : "mocklinux: ".toList.isPrefixOf? ("mocklinux: ".toList ++ (message.toList ++ ['\n'])) =
      some (message.toList ++ ['\n']) := rfl
  have hl : ("mocklinux: " ++ message ++ "\n").toList = "mocklinux: ".toList ++ (message.toList ++ ['\n']) := by
    rw [String.toList_append, String.toList_append, List.append_assoc]
    rfl
  rw [readLine, hl, hp, Option.bind_some, List.dropLast_concat, String.ofList_toList]

/-- What a failure tells is read back from its message. -/
theorem readMessage_message (f : Failure) : readMessage f.message = f.told := by
  rw [message_eq]
  cases ht : f.told with
  | none => decide
  | some t => exact readMessage_heading t.1 t.2

/-- What a failure tells is read back from its line. -/
theorem readLine_line (f : Failure) : readLine f.line = f.told := by
  rw [line_eq]
  cases ht : f.told with
  | none => decide
  | some t => exact (readLine_message _).trans (readMessage_heading t.1 t.2)

/-- Two messages are equal exactly when they tell the same. -/
theorem message_eq_iff (f g : Failure) : f.message = g.message ↔ f.told = g.told := by
  constructor
  · intro h
    rw [← readMessage_message, h, readMessage_message]
  · intro h
    rw [message_eq, message_eq, h]

/-- Two lines are equal exactly when they tell the same. -/
theorem line_eq_iff (f g : Failure) : f.line = g.line ↔ f.told = g.told := by
  constructor
  · intro h
    rw [← readLine_line, h, readLine_line]
  · intro h
    rw [line_eq, line_eq, h]

end Failure

/-! ## Runs that fail -/

namespace Kernel

variable {κ τ σ : Type} {k : Kernel κ τ σ} {request : Request} {v : Invocation} {s : σ} {talk : List (σ × Call)}
  {o : Outcome κ σ (Except Failure τ)}

/-- The kernel answers a question with an error, in the state in which it is put. -/
def Fails (k : Kernel κ τ σ) : σ × Call → IoError → Prop
  | (s, .query), cause => (k.queryIdentity s).value = .error cause
  | (s, .personality request), cause => (k.requestPersonality request s).value = .error cause
  | (s, .exec argv), cause => (k.exec argv s).value = .error cause

/-- A command that is not started fails with the kernel's answer. -/
theorem cause_of_mapError_exec {answer : Except IoError τ} {failure : Failure}
    (h : answer.mapError .exec = .error failure) : ∃ cause, answer = .error cause ∧ failure = .exec cause := by
  cases answer with
  | error cause =>
    cases h
    exact ⟨cause, rfl, rfl⟩
  | ok after => cases h

/-- A run that fails tells of its last question, and of the error that the kernel answered it with. -/
theorem Course.fails (hc : k.Course request v s talk o) {failure : Failure} (hv : o.value = .error failure) :
    ∃ q cause, talk.getLast? = some q ∧ k.Fails q cause ∧ failure.told = some (q.2.stage, cause.text) := by
  cases hc with
  | @unanswered _ cause _ hq =>
    cases hv
    exact ⟨_, cause, rfl, congrArg Outcome.value hq, rfl⟩
  | @refused _ _ _ cause _ _ hq hd hp =>
    cases hv
    exact ⟨_, cause, rfl, congrArg Outcome.value hp, rfl⟩
  | borne hq hd hx =>
    obtain ⟨cause, rfl, rfl⟩ := cause_of_mapError_exec hv
    exact ⟨_, cause, rfl, congrArg Outcome.value hx, rfl⟩
  | taken hq hd hp hx =>
    obtain ⟨cause, rfl, rfl⟩ := cause_of_mapError_exec hv
    exact ⟨_, cause, rfl, congrArg Outcome.value hx, rfl⟩

/-- What a command line that fails tells: nothing when it names no command, and else the last question and its error. -/
theorem told_of_commandLine {commandLine : List Bytes} {failure : Failure}
    (hv : (k.runCommandLine request commandLine s).value = .error failure) :
    (commandLine.length < 2 ∧ failure.told = none) ∨
      ∃ q cause, ((Launch.commandLine request commandLine).trace k s).getLast? = some q ∧ k.Fails q cause ∧
        failure.told = some (q.2.stage, cause.text) := by
  rcases Invocation.commandLine_cases commandLine with ⟨program, v, rfl⟩ | h
  · right
    obtain ⟨talk, hc⟩ := k.run_course request v s
    have ht : (Launch.commandLine request (program :: v.argv)).trace k s = talk := hc.traced_calls
    rw [ht]
    exact hc.fails hv
  · left
    rw [k.runCommandLine_of_short request h] at hv
    cases hv
    exact ⟨h, rfl⟩

end Kernel

namespace Program

variable {σ : Type}

/-- A run that fails writes the line of its failure and nothing else, when no event of it is heard. -/
theorem stderr_of_error {l : Listener} {c : Libc UInt8 σ} {commandLine : List Bytes} {s : σ} {failure : Failure}
    (hv : (run c commandLine s).value = .error failure) (he : ∀ e ∈ (run c commandLine s).events, l.hears e = false) :
    (report l c commandLine s).stderr = failure.line := by
  rw [report_of_unheard he, hv]
  exact written_ending_error failure

end Program

namespace Failure

/-- A failure is told without ambiguity. Two messages are equal exactly when they are about one operation and one text, or both
are the usage, and so are two lines of the program; both are read back, whatever the text. What is read from the line of a run that
fails, on any kernel, is the last question that the run put and the text of the error that the kernel answered, or nothing when
there was no command. When no event of such a run is heard, the program writes just this line, and it is read from what is written. -/
theorem told_of_output :
    (∀ f g : Failure, f.message = g.message ↔ f.told = g.told) ∧
      (∀ f g : Failure, f.line = g.line ↔ f.told = g.told) ∧
      (∀ f : Failure, readMessage f.message = f.told ∧ readLine f.line = f.told) ∧
      (∀ {κ τ σ : Type} (k : Kernel κ τ σ) (request : Request) (commandLine : List Bytes) (s : σ) (failure : Failure),
        (k.runCommandLine request commandLine s).value = .error failure →
          (commandLine.length < 2 ∧ readLine failure.line = none) ∨
            ∃ q cause, ((Launch.commandLine request commandLine).trace k s).getLast? = some q ∧ k.Fails q cause ∧
              readLine failure.line = some (q.2.stage, cause.text)) ∧
      ∀ {σ : Type} (l : Listener) (c : Libc UInt8 σ) (commandLine : List Bytes) (s : σ) (failure : Failure),
        (Program.run c commandLine s).value = .error failure →
        (∀ e ∈ (Program.run c commandLine s).events, l.hears e = false) →
          (Program.report l c commandLine s).stderr = failure.line ∧
            readLine (Program.report l c commandLine s).stderr = failure.told := by
  refine ⟨message_eq_iff, line_eq_iff, fun f => ⟨readMessage_message f, readLine_line f⟩, ?_, ?_⟩
  · intro κ τ σ k request commandLine s failure hv
    rw [readLine_line]
    exact Kernel.told_of_commandLine hv
  · intro σ l c commandLine s failure hv he
    have hw := Program.stderr_of_error hv he
    exact ⟨hw, by rw [hw, readLine_line]⟩

/-- An error whose text imitates the report of another failure, and the usage after it. -/
def imitation : IoError := .custom .other "mocklinux: exec: error: \nusage: mocklinux <cmd> [args...]\n"

/-- A kernel that tells nothing but the imitation. -/
def imitating : Kernel Call Empty Unit :=
  .ofAnswers (fun _ => (.error imitation, ())) (fun _ _ => (.error imitation, ())) (fun _ _ => (.error imitation, ()))

/-- A query that fails is told as such whatever its error imitates, and a refused request of the program is read from what is
written to a listener who hears no debug events. -/
theorem told_of_output_imitated :
    (imitating.runCommandLine .linux [[], []] ()).value = .error (.query imitation) ∧
      (∃ q cause, ((Launch.commandLine .linux [[], []]).trace imitating ()).getLast? = some q ∧ imitating.Fails q cause ∧
        readLine (query imitation).line = some (q.2.stage, cause.text)) ∧
      (Program.run Libc.refusing [[], []] 0).value = .error (.toggle (.os 22)) ∧
      readLine (Program.report ⟨fun e => e.level = .trace, Event.message⟩ Libc.refusing [[], []] 0).stderr =
        some (.request, (IoError.os 22).text) := by
  obtain ⟨-, -, -, hkernel, hprogram⟩ := told_of_output
  have hq : (imitating.runCommandLine .linux [[], []] ()).value = .error (.query imitation) := rfl
  have hp : (Program.run Libc.refusing [[], []] 0).value = .error (.toggle (.os 22)) := by rfl
  have he : ∀ e ∈ (Program.run Libc.refusing [[], []] 0).events, decide (e.level = .trace) = false := by decide
  refine ⟨hq, ?_, hp, (hprogram ⟨fun e => e.level = .trace, Event.message⟩ Libc.refusing [[], []] 0 _ hp he).2⟩
  rcases hkernel imitating .linux [[], []] () _ hq with ⟨hl, -⟩ | h
  · exact absurd hl (by decide)
  · exact h

end Failure
end KernelGuise
