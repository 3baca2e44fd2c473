import KernelGuise.Proofs.Session

/-!
# Identities ensured one after another

Several identities, each with the request that goes with it, are ensured one after another on one kernel (`Kernel.ensureAll`).
What is then asked of the kernel is exactly the requests that are due, those whose label is not the system name of their identity,
and the kernel is left as if these had been put to it and nothing else (`Kernel.ensureAll_like_requestAll`). So nothing is
remembered from one identity to the next: what each comes to depends on the kernel's own answer to its own request
(`Kernel.Ensured`), and which requests are put depends on no answer at all.
-/

namespace KernelGuise

/-! ## Computations on a list -/

namespace Recorded

variable {κ κ' σ α β : Type}

theorem calls_mapM_cons (f : α → Recorded κ σ β) (x : α) (xs : List α) (s : σ) :
    ((x :: xs).mapM f s).calls = (f x s).calls ++ (xs.mapM f (f x s).state).calls := by
  rw [mapM_cons_run]
  exact List.filterMap_append

theorem length_value_mapM (f : α → Recorded κ σ β) (xs : List α) (s : σ) : (xs.mapM f s).value.length = xs.length := by
  induction xs generalizing s with
  | nil => rfl
  | cons x xs ih => rw [mapM_cons_run, List.length_cons, ih, List.length_cons]

/-- The value at a place is that of its computation, in the state in which those before it end. -/
theorem getElem?_value_mapM (f : α → Recorded κ σ β) (xs : List α) (x : α) (ys : List α) (s : σ) :
    ((xs ++ x :: ys).mapM f s).value[xs.length]? = some (f x (xs.mapM f s).state).value := by
  induction xs generalizing s with
  | nil =>
    rw [List.nil_append, mapM_cons_run]
    rfl
  | cons x' xs ih =>
    rw [List.cons_append, mapM_cons_run, mapM_cons_run]
    exact ih (f x' s).state

/-- Each value is that of some element, in some state. -/
theorem exists_of_mem_mapM {f : α → Recorded κ σ β} {xs : List α} {s : σ} {y : β} (h : y ∈ (xs.mapM f s).value) :
    ∃ x ∈ xs, ∃ s', y = (f x s').value := by
  induction xs generalizing s with
  | nil => cases h
  | cons x xs ih =>
    rw [mapM_cons_run] at h
    rcases List.mem_cons.mp h with rfl | h
    · exact ⟨x, List.mem_cons_self, s, rfl⟩
    · obtain ⟨x', hx', hy⟩ := ih h
      exact ⟨x', List.mem_cons_of_mem x hx', hy⟩

/-- Computations that answer alike one by one answer alike on a list, whatever each of them records. -/
theorem answer_mapM_congr {f : α → Recorded κ σ β} {g : α → Recorded κ' σ β} (h : ∀ x s, (f x s).answer = (g x s).answer)
    (xs : List α) (s : σ) : (xs.mapM f s).answer = (xs.mapM g s).answer := by
  induction xs generalizing s with
  | nil => rfl
  | cons x xs ih =>
    obtain ⟨hv, hs⟩ := Prod.mk.inj (h x s)
    obtain ⟨hvs, hss⟩ := Prod.mk.inj (ih (g x s).state)
    rw [mapM_cons_run, mapM_cons_run, hs]
    unfold Outcome.answer
    rw [hv, hvs, hss]

end Recorded

/-! ## Requests that are due -/

/-- A request is due for an identity whose system name is not the label. -/
def Request.Due (request : Request) (i : Identity) : Prop :=
  i.sysname.beforeNul ≠ (Bytes.ofString request.label).beforeNul

instance (request : Request) (i : Identity) : Decidable (request.Due i) := inferInstanceAs (Decidable (_ ≠ _))

/-- The requests that are due, in order, of some identities, each with the request that goes with it. -/
def dueRequests (pairs : List (Identity × Request)) : List Request :=
  (pairs.filter fun p => p.2.Due p.1).map Prod.snd

section

variable {i : Identity} {request : Request}

/-- A request that is due is decided to be made. -/
theorem Request.Due.decision_eq (h : request.Due i) : i.decision request.label = .toggle :=
  (i.decision_eq_toggle_iff request.label).mpr h

/-- A request that is not due is decided to be left out. -/
theorem Request.decision_of_not_due (h : ¬request.Due i) : i.decision request.label = .skip :=
  (i.decision_eq_skip_iff request.label).mpr (Decidable.not_not.mp h)

theorem dueRequests_cons_of_due (h : request.Due i) (pairs : List (Identity × Request)) :
    dueRequests ((i, request) :: pairs) = request :: dueRequests pairs := by
  simp [dueRequests, h]

theorem dueRequests_cons_of_not_due (h : ¬request.Due i) (pairs : List (Identity × Request)) :
    dueRequests ((i, request) :: pairs) = dueRequests pairs := by
  simp [dueRequests, h]

/-- The requests that are due of two lists are those of the first, then those of the second. -/
theorem dueRequests_append (pairs pairs' : List (Identity × Request)) :
    dueRequests (pairs ++ pairs') = dueRequests pairs ++ dueRequests pairs' := by
  simp [dueRequests]

end

namespace Kernel

variable {κ τ σ : Type}

/-- Several requests ensured one after another, each given its identity. -/
def ensureAll (k : Kernel κ τ σ) (pairs : List (Identity × Request)) : Recorded κ σ (List (Except Failure Decision)) :=
  pairs.mapM fun p => k.ensure p.1 p.2

/-- Several requests put one after another, and nothing else. -/
def requestAll (k : Kernel κ τ σ) (requests : List Request) : Recorded κ σ (List (Except IoError Unit)) :=
  requests.mapM k.requestPersonality

/-- The questions put to a kernel while requests are ensured one after another, in order. -/
def ensureQuestions (k : Kernel κ τ σ) (pairs : List (Identity × Request)) (s : σ) : List Call :=
  (k.traced.ensureAll pairs s).calls.map Prod.snd

/-- What one request comes to on a kernel, given an identity. -/
inductive Ensured (k : Kernel κ τ σ) (i : Identity) (request : Request) (s : σ) : Except Failure Decision → Prop where
  /-- The request is not due. -/
  | borne (hn : ¬request.Due i) : Ensured k i request s (.ok .skip)
  /-- The request is due, and the kernel takes it. -/
  | taken (hn : request.Due i) (hp : (k.requestPersonality request s).value = .ok ()) :
      Ensured k i request s (.ok .toggle)
  /-- The request is due, and the kernel refuses it. -/
  | refused {cause : IoError} (hn : request.Due i) (hp : (k.requestPersonality request s).value = .error cause) :
      Ensured k i request s (.error (.toggle cause))

variable {k : Kernel κ τ σ} {i : Identity} {request : Request}

/-! ## One identity -/

/-- A request that is due is announced and put, and comes to what the kernel answers it. -/
theorem ensure_of_due (hn : request.Due i) {s s₁ : σ} {answer : Except IoError Unit} {told : List (Entry κ)}
    (hp : k.requestPersonality request s = ⟨answer, told, s₁⟩) :
    k.ensure i request s =
      ⟨(answer.mapError .toggle).map fun _ => .toggle, .event (announcement i request) :: told, s₁⟩ := by
  cases answer with
  | error cause => exact ensure_of_refused hn.decision_eq hp
  | ok _ => exact ensure_of_taken hn.decision_eq hp

/-- A request that is not due leaves the kernel alone. -/
theorem ensure_of_not_due (k : Kernel κ τ σ) (hn : ¬request.Due i) (s : σ) :
    k.ensure i request s = ⟨.ok .skip, [.event (.alreadyMatches i.shownSysname)], s⟩ :=
  ensure_of_skip s (Request.decision_of_not_due hn)

/-- What is ensured comes out in one of the three ways. -/
theorem ensured (k : Kernel κ τ σ) (i : Identity) (request : Request) (s : σ) :
    k.Ensured i request s (k.ensure i request s).value := by
  by_cases hn : request.Due i
  · rcases hp : k.requestPersonality request s with ⟨answer, told, s₁⟩
    rw [ensure_of_due hn hp]
    cases answer with
    | error cause => exact .refused hn (by rw [hp])
    | ok _ => exact .taken hn (by rw [hp])
  · rw [k.ensure_of_not_due hn]
    exact .borne hn

/-- Watching a kernel changes neither the result nor the state that is left. -/
theorem answer_ensure_traced (k : Kernel κ τ σ) (i : Identity) (request : Request) (s : σ) :
    (k.traced.ensure i request s).answer = (k.ensure i request s).answer := by
  by_cases hn : request.Due i
  · rcases hp : k.requestPersonality request s with ⟨answer, told, s₁⟩
    rw [traced, ensure_of_due hn hp, ensure_of_due hn (watched_requestPersonality Prod.mk hp)]
    rfl
  · rw [k.ensure_of_not_due hn, k.traced.ensure_of_not_due hn]
    rfl

/-- What a request comes to, if the kernel would take it, is the decision. -/
theorem Ensured.eq_of_ok {s : σ} {result : Except Failure Decision} (h : k.Ensured i request s result)
    (ha : (k.requestPersonality request s).value = .ok ()) : result = .ok (i.decision request.label) := by
  cases h with
  | borne hn => rw [Request.decision_of_not_due hn]
  | taken hn hp => rw [hn.decision_eq]
  | refused hn hp =>
    rw [ha] at hp
    cases hp

/-! ## Any number of identities -/

/-- A kernel is asked the requests that are due, and is left as these leave it. -/
theorem ensureAll_like_requestAll (k : Kernel κ τ σ) (pairs : List (Identity × Request)) (s : σ) :
    (k.ensureAll pairs s).calls = (k.requestAll (dueRequests pairs) s).calls ∧
      (k.ensureAll pairs s).state = (k.requestAll (dueRequests pairs) s).state := by
  unfold ensureAll requestAll
  induction pairs generalizing s with
  | nil => exact ⟨rfl, rfl⟩
  | cons p pairs ih =>
    obtain ⟨i, request⟩ := p
    obtain ⟨ihc, ihs⟩ := ih (k.ensure i request s).state
    rw [Recorded.calls_mapM_cons, Recorded.mapM_cons_run, ihc, ihs]
    -- A request that is due is put on both sides, and one that is not due on neither.
    by_cases hn : request.Due i
    · rcases hp : k.requestPersonality request s with ⟨answer, told, s₁⟩
      rw [dueRequests_cons_of_due hn, Recorded.calls_mapM_cons, Recorded.mapM_cons_run, ensure_of_due hn hp, hp]
      exact ⟨rfl, rfl⟩
    · rw [dueRequests_cons_of_not_due hn, k.ensure_of_not_due hn]
      exact ⟨rfl, rfl⟩

/-- Each request that is put is one question, whole. -/
theorem calls_requestAll_traced (k : Kernel κ τ σ) (requests : List Request) (s : σ) :
    (k.traced.requestAll requests s).calls.map Prod.snd = requests.map .personality := by
  unfold requestAll
  induction requests generalizing s with
  | nil => rfl
  | cons request requests ih =>
    have hone : (k.traced.requestPersonality request s).calls.map Prod.snd = [.personality request] := by
      simp [traced, watched, Outcome.calls]
    rw [Recorded.calls_mapM_cons, List.map_append, hone, ih]
    rfl

/-- The questions are the requests that are due, whatever the kernel answers. -/
theorem ensureQuestions_eq (k : Kernel κ τ σ) (pairs : List (Identity × Request)) (s : σ) :
    k.ensureQuestions pairs s = (dueRequests pairs).map .personality := by
  rw [ensureQuestions, (k.traced.ensureAll_like_requestAll pairs s).1, calls_requestAll_traced]

/-- The result for an identity is what its request comes to in the state that the requests due before it leave. -/
theorem ensured_of_ensureAll (k : Kernel κ τ σ) (before : List (Identity × Request)) (i : Identity) (request : Request)
    (after : List (Identity × Request)) (s : σ) :
    ∃ result, (k.ensureAll (before ++ (i, request) :: after) s).value[before.length]? = some result ∧
      k.Ensured i request (k.requestAll (dueRequests before) s).state result := by
  rw [← (k.ensureAll_like_requestAll before s).2]
  exact ⟨_, Recorded.getElem?_value_mapM _ before (i, request) after s, k.ensured i request _⟩

/-- One observation, made any number of times on a kernel that takes the requests, comes to one decision. -/
theorem ensureAll_of_same {pairs : List (Identity × Request)} {i : Identity} {label : String}
    (ho : ∀ p ∈ pairs, p.1 = i ∧ p.2.label = label)
    (ha : ∀ p ∈ pairs, ∀ s, (k.requestPersonality p.2 s).value = .ok ()) (s : σ) :
    (k.ensureAll pairs s).value = List.replicate pairs.length (.ok (i.decision label)) := by
  refine List.eq_replicate_iff.mpr ⟨Recorded.length_value_mapM _ _ _, ?_⟩
  intro result hr
  obtain ⟨p, hp, s', rfl⟩ := Recorded.exists_of_mem_mapM hr
  obtain ⟨hi, hl⟩ := ho p hp
  rw [(k.ensured p.1 p.2 s').eq_of_ok (ha p hp s'), hi, hl]

/-- One observation, made any number of times, makes a request each time or never. -/
theorem dueRequests_of_same {pairs : List (Identity × Request)} {i : Identity} {label : String}
    (ho : ∀ p ∈ pairs, p.1 = i ∧ p.2.label = label) :
    dueRequests pairs = match i.decision label with
      | .skip => []
      | .toggle => pairs.map Prod.snd := by
  unfold dueRequests
  cases hd : i.decision label with
  | skip =>
    have hn := (i.decision_eq_skip_iff label).mp hd
    have hf : pairs.filter (fun p => p.2.Due p.1) = [] := by
      refine List.filter_eq_nil_iff.mpr fun p hp => ?_
      obtain ⟨hi, hl⟩ := ho p hp
      simp [Request.Due, hi, hl, hn]
    rw [hf]
    rfl
  | toggle =>
    have hn := (i.decision_eq_toggle_iff label).mp hd
    have hf : pairs.filter (fun p => p.2.Due p.1) = pairs := by
      refine List.filter_eq_self.mpr fun p hp => ?_
      obtain ⟨hi, hl⟩ := ho p hp
      simp [Request.Due, hi, hl, hn]
    rw [hf]

/-- Ensuring keeps no memory. Of any kernel, whatever it answers, the requests that are due are asked in order, one call each and
whole, and nothing else; each result is what its own request comes to, answered in the state that the requests due before it leave;
so one observation, made any number of times on a kernel that takes the requests, comes to one decision and makes as many requests
or none; and what is asked later is the same whatever was ensured and answered before, and even of another kernel. -/
theorem requests_of_ensures (k : Kernel κ τ σ) (pairs : List (Identity × Request)) (s : σ) :
    k.ensureQuestions pairs s = (dueRequests pairs).map .personality ∧
      (k.traced.ensureAll pairs s).answer = (k.ensureAll pairs s).answer ∧
      (k.ensureAll pairs s).value.length = pairs.length ∧
      (∀ before i request after, pairs = before ++ (i, request) :: after →
        ∃ result, (k.ensureAll pairs s).value[before.length]? = some result ∧
          k.Ensured i request (k.requestAll (dueRequests before) s).state result) ∧
      (∀ i label, (∀ p ∈ pairs, p.1 = i ∧ p.2.label = label) →
        (k.ensureQuestions pairs s = match i.decision label with
          | .skip => []
          | .toggle => pairs.map fun p => .personality p.2) ∧
        ((∀ p ∈ pairs, ∀ s', (k.requestPersonality p.2 s').value = .ok ()) →
          (k.ensureAll pairs s).value = List.replicate pairs.length (.ok (i.decision label)))) ∧
      ∀ before after, pairs = before ++ after → ∀ {κ' τ' σ' : Type} (k' : Kernel κ' τ' σ') (s' : σ'),
        k.ensureQuestions pairs s = k.ensureQuestions before s ++ k'.ensureQuestions after s' := by
  have hw : ∀ (p : Identity × Request) s', (k.traced.ensure p.1 p.2 s').answer = (k.ensure p.1 p.2 s').answer :=
    fun p => k.answer_ensure_traced p.1 p.2
  refine ⟨k.ensureQuestions_eq pairs s, Recorded.answer_mapM_congr hw pairs s, Recorded.length_value_mapM _ pairs s,
    ?_, ?_, ?_⟩
  · rintro before i request after rfl
    exact k.ensured_of_ensureAll before i request after s
  · intro i label ho
    refine ⟨?_, fun ha => ensureAll_of_same ho ha s⟩
    rw [ensureQuestions_eq, dueRequests_of_same ho]
    cases i.decision label with
    | skip => rfl
    | toggle => exact List.map_map
  · rintro before after rfl κ' τ' σ' k' s'
    rw [ensureQuestions_eq, ensureQuestions_eq, ensureQuestions_eq, dueRequests_append, List.map_append]

/-- A kernel that takes every request and then reports its label. -/
def obliging : Kernel Call Empty Bytes :=
  .ofAnswers (fun name => (.ok (.named name), name)) (fun request _ => (.ok (), Bytes.ofString request.label))
    (fun _ name => (.error (.os 2), name))

/-- Three times the name is given as Maestro, and three requests are made, though the kernel bears the label after the first. -/
theorem requests_of_ensures_obliging :
    (∀ request s, (obliging.requestPersonality request s).value = .ok ()) ∧
      (obliging.ensureAll (List.replicate 3 (.named (Bytes.ofString "Maestro"), .linux)) []).value =
        [.ok .toggle, .ok .toggle, .ok .toggle] ∧
      obliging.ensureQuestions (List.replicate 3 (.named (Bytes.ofString "Maestro"), .linux)) [] =
        [.personality .linux, .personality .linux, .personality .linux] := by
  have ha : ∀ request s, (obliging.requestPersonality request s).value = .ok () := fun _ _ => rfl
  have ho : ∀ p ∈ List.replicate 3 (Identity.named (Bytes.ofString "Maestro"), Request.linux),
      p.1 = .named (Bytes.ofString "Maestro") ∧ p.2.label = linuxLabel := by
    intro p hp
    rw [(List.mem_replicate.mp hp).2]
    exact ⟨rfl, rfl⟩
  have hd : (Identity.named (Bytes.ofString "Maestro")).decision linuxLabel = .toggle := by decide
  obtain ⟨-, -, -, -, hsame, -⟩ :=
    requests_of_ensures obliging (List.replicate 3 (.named (Bytes.ofString "Maestro"), .linux)) []
  obtain ⟨hq, hv⟩ := hsame _ _ ho
  have hv' := hv fun p _ s' => ha p.2 s'
  rw [hd] at hq hv'
  exact ⟨ha, hv', hq⟩

end Kernel
end KernelGuise
