import KernelGuise.Proofs.Session

/-!
# The name that a kernel reports

Statements about a kernel that reports a system name of its own: what it answers to a query is that name, and a request that it
takes makes the name the request's label. Nothing is assumed of when it fails.

Every command is asked for while the name is the label of its launch (`Course.exec_named`), whatever a refused request or others
leave of the name. When nothing but an accepted request changes the name, requests are never redundant: one is made exactly when
the name differs from the label (`Course.request_iff`), and over a session no more are accepted than the labels change, and one
(`Keeps.countP_accepts_le`).
-/

namespace KernelGuise

variable {κ τ σ : Type}

/-- The system name that a launch wants to be reported, as far as it counts. -/
def Launch.wanted (l : Launch) : Bytes := (Bytes.ofString l.request.label).beforeNul

def Call.isRequest : Call → Bool
  | .personality _ => true
  | _ => false

namespace Kernel

/-- The kernel reports `name`: it answers with that name, an accepted request makes the label the name, and neither a query nor a
command that is asked for changes it. What a refused request leaves of the name is open. -/
structure Reports (k : Kernel κ τ σ) (name : σ → Bytes) : Prop where
  answered : ∀ s i, (k.queryIdentity s).value = .ok i → i.sysname = name s
  query : ∀ s, name (k.queryIdentity s).state = name s
  taken : ∀ request s, (k.requestPersonality request s).value = .ok () →
    name (k.requestPersonality request s).state = Bytes.ofString request.label
  exec : ∀ argv s, name (k.exec argv s).state = name s

/-- The kernel reports `name`, and a refused request leaves the name as it is. -/
structure Keeps (k : Kernel κ τ σ) (name : σ → Bytes) : Prop extends Reports k name where
  refused : ∀ request s cause, (k.requestPersonality request s).value = .error cause →
    name (k.requestPersonality request s).state = name s

/-- A question is a request that the kernel takes. -/
def accepts (k : Kernel κ τ σ) : σ × Call → Bool
  | (s, .personality request) => (k.requestPersonality request s).value.isOk
  | _ => false

/-- How often a list of names changes from one name to the next. -/
def changes (names : List Bytes) : Nat := (names.zip names.tail).countP fun p => p.1 != p.2

theorem changes_cons_cons (a b : Bytes) (names : List Bytes) :
    changes (a :: b :: names) = (if a = b then 0 else 1) + changes (b :: names) := by
  by_cases h : a = b <;> simp [changes, h, Nat.add_comm]

variable {k : Kernel κ τ σ} {name : σ → Bytes} {request : Request} {v : Invocation} {s : σ} {talk : List (σ × Call)}
  {o : Outcome κ σ (Except Failure τ)}

/-- A kernel for rehearsals: it reports its name, refuses as many requests as it is told to, with what that leaves of the name,
and starts no command. -/
def rehearsal (spoiled : Bytes → Bytes) : Kernel Call Empty (Bytes × Nat) :=
  .ofAnswers (fun s => (.ok (.named s.1), s))
    (fun request s => match s.2 with
      | 0 => (.ok (), (Bytes.ofString request.label, 0))
      | n + 1 => (.error (.os 1), (spoiled s.1, n)))
    (fun _ s => (.error (.os 2), s))

/-- A kernel for rehearsals reports its name, whatever a refused request leaves of it. -/
theorem rehearsal_reports (spoiled : Bytes → Bytes) : (rehearsal spoiled).Reports Prod.fst where
  answered s i h := by
    cases h
    rfl
  query _ := rfl
  taken request s h := by
    obtain ⟨bs, n⟩ := s
    cases n with
    | zero => rfl
    | succ n => cases h
  exec _ _ := rfl

/-- A kernel for rehearsals keeps its name when refused requests spoil nothing. -/
theorem rehearsal_keeps : (rehearsal id).Keeps Prod.fst where
  toReports := rehearsal_reports id
  refused request s cause h := by
    obtain ⟨bs, n⟩ := s
    cases n with
    | zero => cases h
    | succ n => rfl

/-! ## The name after an answer -/

/-- A query leaves the name as it is. -/
theorem Reports.name_after_query (h : k.Reports name) {s₁ : σ} {answer : Except IoError Identity} {asked : List (Entry κ)}
    (hq : k.queryIdentity s = ⟨answer, asked, s₁⟩) : name s₁ = name s := by
  have hs := h.query s
  rw [hq] at hs
  exact hs

theorem Reports.name_after_exec (h : k.Reports name) {s₁ : σ} {argv : List Bytes} {answer : Except IoError τ}
    {started : List (Entry κ)} (hx : k.exec argv s = ⟨answer, started, s₁⟩) : name s₁ = name s := by
  have hs := h.exec argv s
  rw [hx] at hs
  exact hs

/-- A request that is taken leaves its label as the name. -/
theorem Reports.name_after_taken (h : k.Reports name) {s₁ : σ} {told : List (Entry κ)}
    (hp : k.requestPersonality request s = ⟨.ok (), told, s₁⟩) : name s₁ = Bytes.ofString request.label := by
  have hs := h.taken request s (by rw [hp])
  rw [hp] at hs
  exact hs

/-- A request that is refused leaves the name as it is. -/
theorem Keeps.name_after_refused (h : k.Keeps name) {s₁ : σ} {cause : IoError} {told : List (Entry κ)}
    (hp : k.requestPersonality request s = ⟨.error cause, told, s₁⟩) : name s₁ = name s := by
  have hs := h.refused request s cause (by rw [hp])
  rw [hp] at hs
  exact hs

/-- What is decided about an answer is decided about the name reported. -/
theorem Reports.name_of_skip (h : k.Reports name) {s₁ : σ} {i : Identity} {asked : List (Entry κ)}
    (hq : k.queryIdentity s = ⟨.ok i, asked, s₁⟩) (hd : i.decision request.label = .skip) :
    (name s).beforeNul = (Bytes.ofString request.label).beforeNul := by
  rw [← h.answered s i (by rw [hq])]
  exact (i.decision_eq_skip_iff _).mp hd

/-- A request is decided only while the name is another. -/
theorem Reports.name_of_toggle (h : k.Reports name) {s₁ : σ} {i : Identity} {asked : List (Entry κ)}
    (hq : k.queryIdentity s = ⟨.ok i, asked, s₁⟩) (hd : i.decision request.label = .toggle) :
    (name s).beforeNul ≠ (Bytes.ofString request.label).beforeNul := by
  rw [← h.answered s i (by rw [hq])]
  exact (i.decision_eq_toggle_iff _).mp hd

/-! ## Commands under the label -/

/-- A run asks for a command only while the name reported is the label. -/
theorem Course.exec_named (hc : k.Course request v s talk o) (h : k.Reports name) {s' : σ} {argv : List Bytes}
    (hm : (s', .exec argv) ∈ talk) : (name s').holds (Bytes.ofString request.label) = true := by
  rw [Bytes.holds_iff]
  cases hc with
  | unanswered hq => simp at hm
  | refused hq hd hp => simp at hm
  | borne hq hd hx =>
    simp only [List.mem_cons, Prod.mk.injEq, reduceCtorEq, and_false, List.not_mem_nil, or_false, false_or] at hm
    rw [hm.1, h.name_after_query hq]
    exact h.name_of_skip hq hd
  | taken hq hd hp hx =>
    simp only [List.mem_cons, Prod.mk.injEq, reduceCtorEq, and_false, List.not_mem_nil, or_false, false_or] at hm
    rw [hm.1, h.name_after_taken hp]

/-- In every session, with any changes of the kernel's state between the launches, each command is asked for while the name
reported is the label of its launch. -/
theorem exec_under_label (h : k.Reports name) (turns : List (Turn σ)) (s : σ) :
    ∀ run ∈ k.starts turns s, ∀ s' argv, (s', .exec argv) ∈ run.1.trace k run.2 →
      (name s').holds (Bytes.ofString run.1.request.label) = true := by
  induction turns generalizing s with
  | nil => intro run hr; simp [starts] at hr
  | cons turn turns ih =>
    cases turn with
    | drift change => exact ih (change s)
    | launch l =>
      intro run hr s' argv hm
      rcases List.mem_cons.mp hr with rfl | hr
      · rcases l.trace_cases k s with ⟨ht, -⟩ | ⟨v, -, hc⟩
        · rw [ht] at hm
          simp at hm
        · exact hc.exec_named h hm
      · exact ih _ run hr s' argv hm

/-- A listing, as if on Linux. -/
def listing : Launch := .onLinux ⟨Bytes.ofString "ls", []⟩

/-- The first launch is refused, which spoils the name; others change it once more; the second launch is accepted. -/
theorem exec_under_label_rehearsed :
    (rehearsal (List.take 2)).Reports Prod.fst ∧
      ((Bytes.ofString "Linux", 0), .exec [Bytes.ofString "ls"]) ∈
        listing.trace (rehearsal (List.take 2)) (Bytes.ofString "Plan 9", 0) ∧
      (Bytes.ofString "Linux").holds (Bytes.ofString "Linux") = true := by
  have hr : (listing, (Bytes.ofString "Plan 9", 0)) ∈ (rehearsal (List.take 2)).starts
      [.launch listing, .drift fun s => (Bytes.ofString "Plan 9", s.2), .launch listing] (Bytes.ofString "Maestro", 1) := by
    decide
  have hm : ((Bytes.ofString "Linux", 0), Call.exec [Bytes.ofString "ls"]) ∈
      listing.trace (rehearsal (List.take 2)) (Bytes.ofString "Plan 9", 0) := by decide
  exact ⟨rehearsal_reports _, hm, exec_under_label (rehearsal_reports _) _ _ _ hr _ _ hm⟩

/-! ## Requests of one launch -/

/-- A trace answers its query. -/
def Answered (k : Kernel κ τ σ) (trace : List (σ × Call)) : Prop :=
  ∃ s i, (s, Call.query) ∈ trace ∧ (k.queryIdentity s).value = .ok i

/-- A run makes a request exactly when its query is answered and the name reported is not the label. -/
theorem Course.request_iff (hc : k.Course request v s talk o) (h : k.Reports name) :
    (∃ q ∈ talk, q.2.isRequest = true) ↔
      k.Answered talk ∧ (name s).beforeNul ≠ (Bytes.ofString request.label).beforeNul := by
  cases hc with
  | @unanswered s₁ cause asked hq =>
    constructor
    · rintro ⟨q, hm, hr⟩
      rw [List.mem_singleton.mp hm] at hr
      simp [Call.isRequest] at hr
    · rintro ⟨⟨s', i, hm, hi⟩, -⟩
      simp only [List.mem_singleton, Prod.mk.injEq, and_true] at hm
      rw [hm, hq] at hi
      simp at hi
  | @refused s₁ _ _ _ _ _ hq hd hp =>
    exact ⟨fun _ => ⟨⟨s, _, by simp, by rw [hq]⟩, h.name_of_toggle hq hd⟩,
      fun _ => ⟨(s₁, .personality request), by simp, rfl⟩⟩
  | borne hq hd hx =>
    have hn := h.name_of_skip hq hd
    simp [Call.isRequest, hn]
  | @taken s₁ _ _ _ _ _ _ _ hq hd hp hx =>
    exact ⟨fun _ => ⟨⟨s, _, by simp, by rw [hq]⟩, h.name_of_toggle hq hd⟩,
      fun _ => ⟨(s₁, .personality request), by simp, rfl⟩⟩

/-- A run leaves the name as it was and has no request accepted, or has the only one it makes accepted, which was needed, and
leaves the label as the name. -/
theorem Course.settles (hc : k.Course request v s talk o) (h : k.Keeps name) :
    (talk.countP k.accepts = 0 ∧ name o.state = name s) ∨
      (talk.countP k.accepts = 1 ∧ (name s).beforeNul ≠ (Bytes.ofString request.label).beforeNul ∧
        name o.state = Bytes.ofString request.label) := by
  cases hc with
  | unanswered hq => exact .inl ⟨rfl, h.name_after_query hq⟩
  | refused hq hd hp =>
    have hn := (h.name_after_refused hp).trans (h.name_after_query hq)
    exact .inl ⟨by simp [accepts, hp, Except.isOk, Except.toBool], hn⟩
  | borne hq hd hx => exact .inl ⟨rfl, (h.name_after_exec hx).trans (h.name_after_query hq)⟩
  | taken hq hd hp hx =>
    have hn := (h.name_after_exec hx).trans (h.name_after_taken hp)
    exact .inr ⟨by simp [accepts, hp, Except.isOk, Except.toBool], h.name_of_toggle hq hd, hn⟩

/-- A launch makes a request exactly when its query is answered and the name is not the one it wants. -/
theorem Reports.request_iff (h : k.Reports name) (l : Launch) (s : σ) :
    (∃ q ∈ l.trace k s, q.2.isRequest = true) ↔ k.Answered (l.trace k s) ∧ (name s).beforeNul ≠ l.wanted := by
  rcases l.trace_cases k s with ⟨ht, -⟩ | ⟨v, -, hc⟩
  · simp [ht, Answered]
  · exact hc.request_iff h

/-- A launch has no request accepted and leaves the name, or has one accepted, which was needed, and leaves its label. -/
theorem Keeps.settles (h : k.Keeps name) (l : Launch) (s : σ) :
    ((l.trace k s).countP k.accepts = 0 ∧ name (l.on k s).state = name s) ∨
      ((l.trace k s).countP k.accepts = 1 ∧ (name s).beforeNul ≠ l.wanted ∧
        name (l.on k s).state = Bytes.ofString l.request.label) := by
  rcases l.trace_cases k s with ⟨ht, hs⟩ | ⟨v, -, hc⟩
  · exact .inl ⟨by rw [ht]; rfl, by rw [hs]⟩
  · exact hc.settles h

/-! ## Requests of a session -/

/-- A session has no more requests accepted than its labels change, and one more if the first of them is not the name reported at
the start. -/
theorem Keeps.countP_accepts_le (h : k.Keeps name) (l : Launch) (launches : List Launch) (s : σ) :
    (k.log (l :: launches) s).countP k.accepts ≤
      (if (name s).beforeNul = l.wanted then 0 else 1) + changes ((l :: launches).map Launch.wanted) := by
  induction launches generalizing l s with
  | nil =>
    rw [log_cons, log_nil, List.append_nil]
    rcases h.settles l s with ⟨hc, -⟩ | ⟨hc, hn, -⟩
    · omega
    · rw [hc, if_neg hn]
      omega
  | cons l' launches ih =>
    have ih' := ih l' (l.on k s).state
    rw [log_cons, List.countP_append, List.map_cons, List.map_cons, changes_cons_cons]
    rw [List.map_cons] at ih'
    rcases h.settles l s with ⟨hc, hs⟩ | ⟨hc, hn, hs⟩
    · -- the name is still `name s`: it differs from the next label only if it, or the next label, differs from this one
      rw [hs] at ih'
      by_cases h1 : (name s).beforeNul = l.wanted
      · rw [h1] at ih' ⊢
        simp only [if_true]
        omega
      · rw [if_neg h1]
        split at ih' <;> omega
    · have hw : (name (l.on k s).state).beforeNul = l.wanted := by rw [hs]; rfl
      rw [hw] at ih'
      rw [if_neg hn]
      omega

/-- Once the name is what all launches want, no request is made any more. -/
theorem Keeps.not_request_of_mem_log (h : k.Keeps name) {launches : List Launch} {s : σ}
    (hw : ∀ l ∈ launches, (name s).beforeNul = l.wanted) : ∀ q ∈ k.log launches s, q.2.isRequest = false := by
  induction launches generalizing s with
  | nil => intro q hq; simp at hq
  | cons l launches ih =>
    intro q hq
    have hl := hw l List.mem_cons_self
    rw [log_cons, List.mem_append] at hq
    rcases hq with hq | hq
    · cases hr : q.2.isRequest with
      | false => rfl
      | true => exact absurd hl ((h.request_iff l s).mp ⟨q, hq, hr⟩).2
    · rcases h.settles l s with ⟨-, hs⟩ | ⟨-, hn, -⟩
      · exact ih (fun l' hl' => by rw [hs]; exact hw l' (List.mem_cons_of_mem l hl')) q hq
      · exact absurd hl hn

/-- No request follows an accepted one in a run. -/
theorem Course.pairwise_talk (hc : k.Course request v s talk o) :
    talk.Pairwise fun q q' => k.accepts q = true → q'.2.isRequest = false := by
  cases hc <;> simp [accepts, Call.isRequest]

/-- When all launches want the same name, no request follows an accepted one. -/
theorem Keeps.pairwise_log (h : k.Keeps name) {launches : List Launch}
    (hw : ∀ l ∈ launches, ∀ l' ∈ launches, l.wanted = l'.wanted) (s : σ) :
    (k.log launches s).Pairwise fun q q' => k.accepts q = true → q'.2.isRequest = false := by
  induction launches generalizing s with
  | nil => exact List.Pairwise.nil
  | cons l launches ih =>
    rw [log_cons, List.pairwise_append]
    refine ⟨?_, ih (fun l₁ h₁ l₂ h₂ => hw l₁ (List.mem_cons_of_mem l h₁) l₂ (List.mem_cons_of_mem l h₂)) _, ?_⟩
    · rcases l.trace_cases k s with ⟨ht, -⟩ | ⟨v, -, hc⟩
      · rw [ht]
        exact List.Pairwise.nil
      · exact hc.pairwise_talk
    · intro q hq q' hq' hacc
      rcases h.settles l s with ⟨hc, -⟩ | ⟨-, -, hs⟩
      · exact absurd hacc (List.countP_eq_zero.mp hc q hq)
      · refine h.not_request_of_mem_log (fun l' hl' => ?_) q' hq'
        rw [hs]
        exact hw l List.mem_cons_self l' (List.mem_cons_of_mem l hl')

/-- Names that are all the same never change. -/
theorem changes_eq_zero {names : List Bytes} (h : ∀ a ∈ names, ∀ b ∈ names, a = b) : changes names = 0 := by
  refine List.countP_eq_zero.mpr fun p hp => ?_
  obtain ⟨ha, hb⟩ := List.of_mem_zip hp
  simp [h p.1 ha p.2 (List.mem_of_mem_tail hb)]

/-- On a kernel whose name changes by accepted requests alone, no request is redundant. Whatever fails, a launch makes one exactly
when its query is answered and the name then reported is not its label. In all, no more requests are accepted than one and the
number of times that the label changes from one launch to the next. When the label stays the same, at most one is accepted, and no
request is made after it. -/
theorem requests_of_session (h : k.Keeps name) (launches : List Launch) (s : σ) :
    (∀ run ∈ k.starts (launches.map .launch) s, (∃ q ∈ run.1.trace k run.2, q.2.isRequest = true) ↔
      k.Answered (run.1.trace k run.2) ∧ (name run.2).beforeNul ≠ run.1.wanted) ∧
    (k.log launches s).countP k.accepts ≤ 1 + changes (launches.map Launch.wanted) ∧
    ((∀ l ∈ launches, ∀ l' ∈ launches, l.wanted = l'.wanted) →
      (k.log launches s).countP k.accepts ≤ 1 ∧
      (k.log launches s).Pairwise fun q q' => k.accepts q = true → q'.2.isRequest = false) := by
  have hle : (k.log launches s).countP k.accepts ≤ 1 + changes (launches.map Launch.wanted) := by
    cases launches with
    | nil => exact Nat.zero_le _
    | cons l launches =>
      have := h.countP_accepts_le l launches s
      split at this <;> omega
  refine ⟨fun run _ => h.request_iff run.1 run.2, hle, fun hw => ⟨?_, h.pairwise_log hw s⟩⟩
  rw [changes_eq_zero] at hle
  · exact hle
  · intro a ha b hb
    obtain ⟨l, hl, rfl⟩ := List.mem_map.mp ha
    obtain ⟨l', hl', rfl⟩ := List.mem_map.mp hb
    exact hw l hl l' hl'

/-- Four launches: the label changes twice, as a NUL ends the label of the second, which so is still the first. -/
def fourLaunches : List Launch :=
  [listing, .invocation { Request.linux with label := "Linux\x00x" } ⟨[], []⟩,
    .invocation { Request.linux with label := "Plan 9" } ⟨[], []⟩, listing]

/-- One request is refused, and three are accepted while the label changes twice. -/
theorem requests_of_session_rehearsed :
    (rehearsal id).Keeps Prod.fst ∧
      ((rehearsal id).log fourLaunches (Bytes.ofString "Maestro", 1)).countP (rehearsal id).accepts = 3 ∧
      3 ≤ 1 + changes (fourLaunches.map Launch.wanted) := by
  have hc : ((rehearsal id).log fourLaunches (Bytes.ofString "Maestro", 1)).countP (rehearsal id).accepts = 3 := by decide
  have h := (requests_of_session rehearsal_keeps fourLaunches (Bytes.ofString "Maestro", 1)).2.1
  rw [hc] at h
  exact ⟨rehearsal_keeps, hc, h⟩

end Kernel
end KernelGuise
