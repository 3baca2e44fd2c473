import KernelGuise.Proofs.ErrorText
import KernelGuise.Proofs.HostCourse
import KernelGuise.Proofs.Quoting
import KernelGuise.Proofs.ShownName

/-!
# Events among calls

The record of a run, calls and events in one order. Each event stands right where its step is: the identity is told once the
query is answered, a request is announced right before it is put, the decision is told once it holds, and the command is named
before it is asked for, after which nothing more is said (`Chronicle`). This is told of kernels that say nothing of their own,
where the record holds the questions put to them, and of hosts, where it holds the calls of the C library (`Worded`).

So the log alone tells how a run went. Its messages tell which questions were put and at which one the run ended
(`questions_of_messages`), and its events tell the questions themselves, up to the label of a request
(`questions_of_events`). An event is known by the message and the fields that are logged of it (`Event.logged_injective`).
-/

namespace KernelGuise

variable {κ τ σ : Type}

/-! ## What a kernel enters in a record -/

/-- What a kernel enters in a record when a question is put to it. -/
abbrev Wording (κ : Type) := Call → List (Entry κ)

namespace Wording

/-- The question, and nothing else. -/
def plain : Wording Call := fun q => [.call q]

/-- The calls of a C library. The start of a program is announced first, and is not called for when a NUL would cut it short. -/
def host : Wording SystemCall
  | .query => [.call .uname]
  | .personality r => [.call (.prctl r.channel r.subcommand r.activation 0 0)]
  | .exec [] => []
  | .exec (program :: args) =>
    .event (.starting program) ::
      if ∃ a ∈ program :: args, 0 ∈ a then [] else [.call (.execvp program (program :: args))]

/-- A command with a NUL in it is announced only. -/
theorem host_of_nul {program : Bytes} {args : List Bytes} (hn : ∃ a ∈ program :: args, 0 ∈ a) :
    host (.exec (program :: args)) = [.event (.starting program)] := by
  rw [host, if_pos hn]

/-- A command without a NUL is announced and called for. -/
theorem host_of_clean {program : Bytes} {args : List Bytes} (hn : ¬∃ a ∈ program :: args, 0 ∈ a) :
    host (.exec (program :: args)) = [.event (.starting program), .call (.execvp program (program :: args))] := by
  rw [host, if_neg hn]

def Starts (w : Wording κ) (call : κ) : Prop := ∃ argv, .call call ∈ w (.exec argv)

/-- The call that starts a program comes right after it is announced, and nothing comes after the call. -/
theorem host_of_call_mem {call : SystemCall} {argv : List Bytes} (h : .call call ∈ host (.exec argv)) :
    ∃ program, call = .execvp program argv ∧ host (.exec argv) = [.event (.starting program), .call call] := by
  cases argv with
  | nil => simp [host] at h
  | cons program args =>
    by_cases hn : ∃ a ∈ program :: args, 0 ∈ a
    · rw [host_of_nul hn] at h
      simp at h
    · rw [host_of_clean hn] at h ⊢
      obtain rfl : call = .execvp program (program :: args) := by simpa using h
      exact ⟨program, rfl, rfl⟩

/-- On a host a command is started by one kind of call. -/
theorem exists_of_host_starts {call : SystemCall} (h : host.Starts call) : ∃ file argv, call = .execvp file argv := by
  obtain ⟨argv, hm⟩ := h
  obtain ⟨program, hc, -⟩ := host_of_call_mem hm
  exact ⟨program, argv, hc⟩

end Wording

/-- The kernels whose records are told here: any that says nothing of its own, with the questions recorded as they are put to it,
and any host. -/
inductive Worded : {κ τ σ : Type} → Kernel κ τ σ → Wording κ → Prop where
  | silent {κ τ σ : Type} (k : Kernel κ τ σ) (h : ∀ e, ¬k.Says e) : Worded (k.watched fun _ q => q) .plain
  | host {τ σ : Type} (c : Libc τ σ) : Worded c.kernel .host

namespace Worded

variable {k : Kernel κ τ σ} {w : Wording κ}

/-- A query is recorded in the kernel's wording. -/
theorem record_query (hk : Worded k w) (s : σ) : (k.queryIdentity s).record = w .query := by
  cases hk with
  | silent k h =>
    have he : (k.queryIdentity s).events = [] := List.eq_nil_iff_forall_not_mem.mpr fun e hm => h e (.inl ⟨s, hm⟩)
    simp [Kernel.watched, he, Wording.plain]
  | host c =>
    rcases hu : c.uname s with ⟨⟨ret, names⟩, s₁⟩
    by_cases hr : ret < 0
    · rw [Libc.queryIdentity_of_neg hu hr]
      rfl
    · rw [Libc.queryIdentity_of_nonneg hu (Int32.not_lt.mp hr)]
      rfl

theorem record_personality (hk : Worded k w) (request : Request) (s : σ) :
    (k.requestPersonality request s).record = w (.personality request) := by
  cases hk with
  | silent k h =>
    have he : (k.requestPersonality request s).events = [] :=
      List.eq_nil_iff_forall_not_mem.mpr fun e hm => h e (.inr (.inl ⟨request, s, hm⟩))
    simp [Kernel.watched, he, Wording.plain]
  | host c =>
    rcases hp : c.prctl request.channel request.subcommand request.activation 0 0 s with ⟨ret, s₁⟩
    by_cases hr : ret < 0
    · rw [Libc.requestPersonality_of_neg hp hr]
      rfl
    · rw [Libc.requestPersonality_of_nonneg hp (Int32.not_lt.mp hr)]
      rfl

theorem record_exec (hk : Worded k w) (v : Invocation) (s : σ) : (k.exec v.argv s).record = w (.exec v.argv) := by
  cases hk with
  | silent k h =>
    have he : (k.exec v.argv s).events = [] :=
      List.eq_nil_iff_forall_not_mem.mpr fun e hm => h e (.inr (.inr ⟨v.argv, s, hm⟩))
    simp [Kernel.watched, he, Wording.plain]
  | host c =>
    by_cases hn : ∃ a ∈ v.argv, 0 ∈ a
    · rw [Libc.exec_of_nul s hn]
      exact (Wording.host_of_nul hn).symm
    · have hn' : ∀ a ∈ v.argv, 0 ∉ a := fun a ha h0 => hn ⟨a, ha, h0⟩
      rcases hx : c.execvp v.command v.argv s with ⟨_ | after, s₁⟩
      · rw [Libc.exec_of_none hn' hx]
        exact (Wording.host_of_clean hn).symm
      · rw [Libc.exec_of_some hn' hx]
        exact (Wording.host_of_clean hn).symm

theorem asked_eq (hk : Worded k w) {s s₁ : σ} {answer : Except IoError Identity} {asked : List (Entry κ)}
    (hq : k.queryIdentity s = ⟨answer, asked, s₁⟩) : asked = w .query := by
  have h := hk.record_query s
  rw [hq] at h
  exact h

theorem told_eq (hk : Worded k w) {request : Request} {s s₁ : σ} {answer : Except IoError Unit} {told : List (Entry κ)}
    (hp : k.requestPersonality request s = ⟨answer, told, s₁⟩) : told = w (.personality request) := by
  have h := hk.record_personality request s
  rw [hp] at h
  exact h

theorem started_eq (hk : Worded k w) {v : Invocation} {s s₁ : σ} {answer : Except IoError τ} {started : List (Entry κ)}
    (hx : k.exec v.argv s = ⟨answer, started, s₁⟩) : started = w (.exec v.argv) := by
  have h := hk.record_exec v s
  rw [hx] at h
  exact h

/-- A query and a request are one call each, and start no command. -/
theorem query_eq (hk : Worded k w) : ∃ call, w .query = [.call call] ∧ ¬w.Starts call := by
  cases hk with
  | silent k h => exact ⟨.query, rfl, by simp [Wording.Starts, Wording.plain]⟩
  | host c =>
    refine ⟨.uname, rfl, ?_⟩
    intro hs
    obtain ⟨file, argv, he⟩ := Wording.exists_of_host_starts hs
    cases he

/-- A request is one call, whatever it asks for, and starts no command. -/
theorem personality_eq (hk : Worded k w) (request : Request) :
    ∃ call, w (.personality request) = [.call call] ∧ ¬w.Starts call := by
  cases hk with
  | silent k h => exact ⟨.personality request, rfl, by simp [Wording.Starts, Wording.plain]⟩
  | host c =>
    refine ⟨_, rfl, ?_⟩
    intro hs
    obtain ⟨file, argv, he⟩ := Wording.exists_of_host_starts hs
    cases he

/-- The start of a command is at most one call, and what is said of it is said before. -/
theorem exec_eq (hk : Worded k w) (argv : List Bytes) :
    ∃ (said : List Event) (call : Option κ), w (.exec argv) = said.map .event ++ call.toList.map .call ∧
      ∀ e ∈ said, ∃ program, e = .starting program := by
  cases hk with
  | silent k h => exact ⟨[], some (.exec argv), rfl, by simp⟩
  | host c =>
    cases argv with
    | nil => exact ⟨[], none, rfl, by simp⟩
    | cons program args =>
      by_cases hn : ∃ a ∈ program :: args, 0 ∈ a
      · exact ⟨[.starting program], none, Wording.host_of_nul hn, by simp⟩
      · exact ⟨[.starting program], some (.execvp program (program :: args)), Wording.host_of_clean hn, by simp⟩

end Worded

/-! ## The record of a run -/

namespace Kernel

/-- How a run is recorded, told by the kernel's answers, and what the run comes to. -/
inductive Chronicle (k : Kernel κ τ σ) (w : Wording κ) (request : Request) (v : Invocation) (s : σ) :
    List (Entry κ) → Except Failure τ → Prop where
  /-- The query fails, and nothing is said. -/
  | unanswered {s₁ : σ} {cause : IoError} (hq : (k.queryIdentity s).answer = (.error cause, s₁)) :
      Chronicle k w request v s (w .query) (.error (.query cause))
  /-- The identity is told and does not bear the label; the request is announced and put, and fails. -/
  | refused {s₁ s₂ : σ} {i : Identity} {cause : IoError} (hq : (k.queryIdentity s).answer = (.ok i, s₁))
      (hd : i.decision request.label = .toggle)
      (hp : (k.requestPersonality request s₁).answer = (.error cause, s₂)) :
      Chronicle k w request v s
        (w .query ++ [.event (.ofProbe i),
          .event (.requesting i.shownSysname request.channel request.subcommand request.activation)] ++
          w (.personality request))
        (.error (.toggle cause))
  /-- The identity is told and bears the label: that is said in place of a request. The command is named and asked for. -/
  | borne {s₁ s₂ : σ} {i : Identity} {answer : Except IoError τ} (hq : (k.queryIdentity s).answer = (.ok i, s₁))
      (hd : i.decision request.label = .skip) (hx : (k.exec v.argv s₁).answer = (answer, s₂)) :
      Chronicle k w request v s
        (w .query ++ [.event (.ofProbe i), .event (.alreadyMatches i.shownSysname),
          .event (.settled .skip request.label), .event (.replacing v.argv)] ++ w (.exec v.argv))
        (answer.mapError .exec)
  /-- The identity is told and does not bear the label; the request is announced, put and taken. The command is named and asked
  for. -/
  | taken {s₁ s₂ s₃ : σ} {i : Identity} {answer : Except IoError τ} (hq : (k.queryIdentity s).answer = (.ok i, s₁))
      (hd : i.decision request.label = .toggle) (hp : (k.requestPersonality request s₁).answer = (.ok (), s₂))
      (hx : (k.exec v.argv s₂).answer = (answer, s₃)) :
      Chronicle k w request v s
        (w .query ++ [.event (.ofProbe i),
          .event (.requesting i.shownSysname request.channel request.subcommand request.activation)] ++
          w (.personality request) ++ [.event (.settled .toggle request.label), .event (.replacing v.argv)] ++
          w (.exec v.argv))
        (answer.mapError .exec)

variable {k : Kernel κ τ σ} {w : Wording κ} {request : Request} {v : Invocation} {s : σ} {talk : List (σ × Call)}
  {o : Outcome κ σ (Except Failure τ)}

/-- The course of a run is recorded in the kernel's wording. -/
theorem Course.chronicle (hc : k.Course request v s talk o) (hk : Worded k w) :
    k.Chronicle w request v s o.record o.value := by
  cases hc with
  | unanswered hq =>
    rw [hk.asked_eq hq]
    exact .unanswered (by rw [hq]; rfl)
  | refused hq hd hp =>
    rw [hk.asked_eq hq, hk.told_eq hp]
    have h : k.Chronicle w request v s _ _ := .refused (by rw [hq]; rfl) hd (by rw [hp]; rfl)
    simpa [announcement] using h
  | borne hq hd hx =>
    rw [hk.asked_eq hq, hk.started_eq hx]
    have h : k.Chronicle w request v s _ _ := .borne (by rw [hq]; rfl) hd (congrArg Outcome.answer hx)
    simpa using h
  | taken hq hd hp hx =>
    rw [hk.asked_eq hq, hk.told_eq hp, hk.started_eq hx]
    have h : k.Chronicle w request v s _ _ :=
      .taken (by rw [hq]; rfl) hd (by rw [hp]; rfl) (congrArg Outcome.answer hx)
    simpa [announcement] using h

/-- Nothing is recorded after the call that starts the command. -/
theorem Chronicle.pairwise {record : List (Entry κ)} {value : Except Failure τ}
    (h : k.Chronicle w request v s record value) (hk : Worded k w) :
    record.Pairwise fun e _ => ∀ call, e = .call call → ¬w.Starts call := by
  obtain ⟨query, hq, hqs⟩ := hk.query_eq
  obtain ⟨personality, hp, hps⟩ := hk.personality_eq request
  obtain ⟨said, call, hx, -⟩ := hk.exec_eq v.argv
  have hstart : (w (.exec v.argv)).Pairwise fun e _ => ∀ call, e = .call call → ¬w.Starts call := by
    rw [hx]
    cases call <;> simp [List.pairwise_append, List.pairwise_map, List.pairwise_of_forall]
  cases h with
  | unanswered => simp [hq]
  | refused => simp [hq, hp, hqs]
  | borne => simp [hq, hqs, hstart]
  | taken => simp [hq, hp, hqs, hps, hstart]

end Kernel

/-! ## What is logged of an event -/

theorem Decision.name_inj {d d' : Decision} : d.name = d'.name ↔ d = d' := by
  cases d <;> cases d' <;> decide

/-- What is logged of an event: its message, and its fields by name. -/
def Event.logged (hidden : Char → Bool) (e : Event) : String × List (String × String) := (e.message, e.fields hidden)

/-- An event is known by what is logged of it. The message tells which event it is, and the fields tell the rest. -/
theorem Event.logged_injective (hidden : Char → Bool) : Function.Injective (Event.logged hidden) := by
  intro e e' h
  obtain ⟨hm, hf⟩ := Prod.mk.inj h
  -- No two messages are the same, and so the second event is made like the first.
  cases e <;> cases e' <;> simp only [message, String.reduceEq] at hm
  -- Each text among the fields is of one value only.
  all_goals
    simp only [fields, List.cons.injEq, Prod.mk.injEq, and_true, true_and, toString_int_inj, Nat.toString_eq_repr, Nat.repr_inj,
      Int32.toInt_inj, UInt64.toNat_inj, Decision.name_inj, Quoted.quotedList_inj, Quoted.quoted_inj] at hf
    simp only [hf]

/-! ## What the log tells -/

/-- The three questions, without what they are about. -/
inductive Stage where
  | query
  | request
  | exec
  deriving DecidableEq, Repr

namespace Call

def stage : Call → Stage
  | .query => .query
  | .personality _ => .request
  | .exec _ => .exec

/-- A question without the label that a request is for: no event before the request is taken tells it. -/
def unlabelled : Call → Call
  | .personality request => .personality { request with label := "" }
  | q => q

theorem stage_unlabelled (q : Call) : q.unlabelled.stage = q.stage := by
  cases q <;> rfl

end Call

/-- The question that a message announces. -/
def Stage.ofMessage? (message : String) : Option Stage :=
  if message = "requesting personality" then some .request
  else if message = "replacing process image" then some .exec
  else none

/-- The question that an event announces, without a label. -/
def Event.question? : Event → Option Call
  | .requesting _ channel subcommand activation => some (.personality ⟨"", channel, subcommand, activation⟩)
  | .replacing argv => some (.exec argv)
  | _ => none

/-- What kind of question an event announces is told by its message. -/
theorem Event.map_stage_question? (e : Event) : e.question?.map Call.stage = Stage.ofMessage? e.message := by
  cases e <;> rfl

/-- The question at which a run ended: the one that failed, or the command that took over. -/
def Stage.ended? : Except Failure τ → Option Stage
  | .error .usage => none
  | .error (.query _) => some .query
  | .error (.toggle _) => some .request
  | .error (.exec _) => some .exec
  | .ok _ => some .exec

namespace Kernel

variable {k : Kernel κ τ σ} {w : Wording κ} {request : Request} {v : Invocation} {s : σ} {talk : List (σ × Call)}
  {o : Outcome κ σ (Except Failure τ)}

def questions (k : Kernel κ τ σ) (request : Request) (v : Invocation) (s : σ) : List Call :=
  (k.traced.run request v s).calls.map Prod.snd

/-- What is said when a command is asked for announces no question. -/
theorem filterMap_question?_exec (hk : Worded k w) (argv : List Bytes) :
    ((w (.exec argv)).filterMap Entry.event?).filterMap Event.question? = [] := by
  obtain ⟨said, call, hx, hs⟩ := hk.exec_eq argv
  have hq : said.filterMap Event.question? = [] := by
    rw [List.filterMap_eq_nil_iff]
    intro e he
    obtain ⟨program, rfl⟩ := hs e he
    rfl
  rw [hx]
  cases call <;> simp [List.filterMap_map, hq]

/-- The questions of a run can be read off its events, up to labels. -/
theorem Course.unlabelled_eq (hc : k.Course request v s talk o) (hk : Worded k w) :
    talk.map (fun q => q.2.unlabelled) = .query :: o.events.filterMap Event.question? := by
  obtain ⟨query, hq, -⟩ := hk.query_eq
  obtain ⟨personality, hp, -⟩ := hk.personality_eq request
  have hx := filterMap_question?_exec hk v.argv
  cases hc with
  | unanswered hqa =>
    rw [hk.asked_eq hqa, hq]
    rfl
  | refused hqa hd hpa =>
    rw [hk.asked_eq hqa, hk.told_eq hpa, hq, hp]
    rfl
  | borne hqa hd hxa =>
    rw [hk.asked_eq hqa, hk.started_eq hxa, hq]
    simp only [Outcome.events, List.filterMap_cons, List.cons_append, List.nil_append,
      Entry.event?_call, Entry.event?_event, hx]
    rfl
  | taken hqa hd hpa hxa =>
    rw [hk.asked_eq hqa, hk.told_eq hpa, hk.started_eq hxa, hq, hp]
    simp only [Outcome.events, List.filterMap_cons, List.cons_append, List.nil_append,
      Entry.event?_call, Entry.event?_event, hx]
    rfl

/-- A run ends at the last of its questions. -/
theorem Course.ended_eq (hc : k.Course request v s talk o) :
    (talk.map fun q => q.2.stage).getLast? = Stage.ended? o.value := by
  cases hc with
  | unanswered => rfl
  | refused => rfl
  | @borne _ _ _ answer => cases answer <;> rfl
  | @taken _ _ _ _ answer => cases answer <;> rfl

/-- The questions of a run are those of its course. -/
theorem Course.questions_eq (hc : k.Course request v s talk o) :
    k.questions request v s = talk.map Prod.snd := by
  rw [Kernel.questions, hc.traced_calls]

/-- The calls of a run are those of its questions. -/
theorem Course.calls_eq (hc : k.Course request v s talk o) (hk : Worded k w) :
    o.calls = talk.flatMap fun q => (w q.2).filterMap Entry.call? := by
  cases hc with
  | unanswered hq =>
    rw [hk.asked_eq hq]
    simp [Outcome.calls]
  | refused hq hd hp =>
    rw [hk.asked_eq hq, hk.told_eq hp]
    simp [Outcome.calls, List.filterMap_cons]
  | borne hq hd hx =>
    rw [hk.asked_eq hq, hk.started_eq hx]
    simp [Outcome.calls, List.filterMap_cons]
  | taken hq hd hp hx =>
    rw [hk.asked_eq hq, hk.told_eq hp, hk.started_eq hx]
    simp [Outcome.calls, List.filterMap_cons]

/-- The calls of a run are those that its questions are worded in. -/
theorem calls_run (hk : Worded k w) (request : Request) (v : Invocation) (s : σ) :
    (k.run request v s).calls = (k.questions request v s).flatMap fun q => (w q).filterMap Entry.call? := by
  obtain ⟨talk, hc⟩ := k.run_course request v s
  rw [hc.calls_eq hk, hc.questions_eq, List.flatMap_map]

/-- The messages of a run tell which questions were put, and at which it ended. -/
theorem questions_of_messages (hk : Worded k w) (request : Request) (v : Invocation) (s : σ) :
    (k.questions request v s).map Call.stage =
        .query :: ((k.run request v s).events.map Event.message).filterMap Stage.ofMessage? ∧
      ((k.questions request v s).map Call.stage).getLast? = Stage.ended? (k.run request v s).value := by
  obtain ⟨talk, hc⟩ := k.run_course request v s
  have hq := hc.unlabelled_eq hk
  have he := hc.ended_eq
  rw [hc.questions_eq, List.map_map]
  refine ⟨?_, he⟩
  have hs : talk.map (Call.stage ∘ Prod.snd) = (talk.map fun q => q.2.unlabelled).map Call.stage := by
    rw [List.map_map]
    exact List.map_congr_left fun q _ => (Call.stage_unlabelled q.2).symm
  have hf : (fun e : Event => e.question?.map Call.stage) = Stage.ofMessage? ∘ Event.message :=
    funext Event.map_stage_question?
  rw [hs, hq, List.map_cons, List.map_filterMap, List.filterMap_map, hf]
  rfl

/-- The events of a run tell its questions, up to labels. -/
theorem questions_of_events (hk : Worded k w) (request : Request) (v : Invocation) (s : σ) :
    (k.questions request v s).map Call.unlabelled = .query :: (k.run request v s).events.filterMap Event.question? := by
  obtain ⟨talk, hc⟩ := k.run_course request v s
  rw [hc.questions_eq, List.map_map]
  exact hc.unlabelled_eq hk

/-- The record of a run, on a kernel that says nothing of its own or on a host, is one of four words, which the kernel's answers
choose, and nothing stands in it after the call that starts the command. Its calls are those of the questions put. Two runs with
the same messages, on any two such kernels, put questions of the same kinds and end at the same one; two runs with the same events
put the same questions, up to labels, and two runs of which the same is logged, message for message and field for field, have the
same events. -/
theorem record_of_run (hk : Worded k w) (request : Request) (v : Invocation) (s : σ) :
    k.Chronicle w request v s (k.run request v s).record (k.run request v s).value ∧
      ((k.run request v s).record.Pairwise fun e _ => ∀ call, e = .call call → ¬w.Starts call) ∧
      ((k.run request v s).calls = (k.questions request v s).flatMap fun q => (w q).filterMap Entry.call?) ∧
      ∀ {κ' τ' σ' : Type} {k' : Kernel κ' τ' σ'} {w' : Wording κ'}, Worded k' w' →
        ∀ (request' : Request) (v' : Invocation) (s' : σ'),
          ((k.run request v s).events.map Event.message = (k'.run request' v' s').events.map Event.message →
            (k.questions request v s).map Call.stage = (k'.questions request' v' s').map Call.stage ∧
              Stage.ended? (k.run request v s).value = Stage.ended? (k'.run request' v' s').value) ∧
          ((k.run request v s).events = (k'.run request' v' s').events →
            (k.questions request v s).map Call.unlabelled = (k'.questions request' v' s').map Call.unlabelled) ∧
          ∀ hidden, (k.run request v s).events.map (Event.logged hidden) =
              (k'.run request' v' s').events.map (Event.logged hidden) →
            (k.run request v s).events = (k'.run request' v' s').events := by
  obtain ⟨talk, hc⟩ := k.run_course request v s
  have hr := hc.chronicle hk
  refine ⟨hr, hr.pairwise hk, calls_run hk request v s, ?_⟩
  intro κ' τ' σ' k' w' hk' request' v' s'
  refine ⟨?_, ?_, fun hidden hl => List.map_injective_iff.mpr (Event.logged_injective hidden) hl⟩
  · intro hm
    obtain ⟨hs, he⟩ := questions_of_messages hk request v s
    obtain ⟨hs', he'⟩ := questions_of_messages hk' request' v' s'
    have hss : (k.questions request v s).map Call.stage = (k'.questions request' v' s').map Call.stage := by
      rw [hs, hs', hm]
    exact ⟨hss, by rw [← he, ← he', hss]⟩
  · intro he
    rw [questions_of_events hk, questions_of_events hk', he]

/-- A kernel that is rehearsed with and a host say the same when both refuse, and both runs end at the request. -/
theorem record_of_run_refused :
    Worded ((rehearsal id).watched fun _ q => q) .plain ∧ Worded Libc.refusing.kernel .host ∧
      (((rehearsal id).watched fun _ q => q).run .linux ⟨[], []⟩ (Bytes.ofString "Maestro", 1)).events.map Event.message =
        (Libc.refusing.kernel.run .linux ⟨[1], []⟩ 0).events.map Event.message ∧
      Stage.ended? (((rehearsal id).watched fun _ q => q).run .linux ⟨[], []⟩ (Bytes.ofString "Maestro", 1)).value =
        Stage.ended? (Libc.refusing.kernel.run .linux ⟨[1], []⟩ 0).value := by
  have hk : Worded ((rehearsal id).watched fun _ q => q) .plain := .silent _ fun _ => not_says_ofAnswers
  have hk' : Worded Libc.refusing.kernel .host := .host _
  obtain ⟨-, -, -, h⟩ := record_of_run hk .linux ⟨[], []⟩ (Bytes.ofString "Maestro", 1)
  obtain ⟨hm, -⟩ := h hk' .linux ⟨[1], []⟩ 0
  have he : (((rehearsal id).watched fun _ q => q).run .linux ⟨[], []⟩ (Bytes.ofString "Maestro", 1)).events.map
      Event.message = (Libc.refusing.kernel.run .linux ⟨[1], []⟩ 0).events.map Event.message := by decide
  exact ⟨hk, hk', he, (hm he).2⟩

end Kernel
end KernelGuise
