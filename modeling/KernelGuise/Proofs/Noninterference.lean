import KernelGuise.Proofs.HostCourse

/-!
# What a run depends on

A run on a host takes little from it: whether the query fails, whether the system name is the label, whether the request fails and
what the start of the command comes to, each failure with its error number. Two runs that get the same answers in this sense
(`Libc.Alike`), on any two hosts and with any two labels, make the same calls, come to the same value and say the same
(`Libc.run_depends_on_answers`). All else that a host tells, and the label itself, is seen in the names of events only
(`Outcome.SameButNames`).
-/

namespace KernelGuise

variable {κ τ σ σ' α : Type}

/-! ## Records without names -/

/-- An event without the names that it tells: those of the identity that was found, and the label. -/
def Event.nameless : Event → Event
  | .probed _ _ _ => .probed "" "" ""
  | .alreadyMatches _ => .alreadyMatches ""
  | .requesting _ channel subcommand activation => .requesting "" channel subcommand activation
  | .settled decision _ => .settled decision ""
  | .replacing argv => .replacing argv
  | .starting program => .starting program

theorem Event.message_nameless (e : Event) : e.nameless.message = e.message := by
  cases e <;> rfl

def Entry.nameless : Entry κ → Entry κ
  | .call c => .call c
  | .event e => .event e.nameless

theorem Entry.call?_nameless (e : Entry κ) : e.nameless.call? = e.call? := by
  cases e <;> rfl

theorem Entry.event?_nameless (e : Entry κ) : e.nameless.event? = e.event?.map Event.nameless := by
  cases e <;> rfl

namespace Outcome

/-- Two computations come to the same value, and what they record on the way differs in names only. -/
structure SameButNames (o : Outcome κ σ α) (o' : Outcome κ σ' α) : Prop where
  value : o.value = o'.value
  record : o.record.map Entry.nameless = o'.record.map Entry.nameless

/-- The calls of a record are there without its names too. -/
theorem calls_eq_filterMap_nameless (o : Outcome κ σ α) :
    o.calls = (o.record.map Entry.nameless).filterMap Entry.call? := by
  have hc : Entry.call? ∘ (Entry.nameless : Entry κ → Entry κ) = Entry.call? := funext Entry.call?_nameless
  rw [List.filterMap_map, hc]
  rfl

/-- The messages of a record are there without its names too. -/
theorem messages_eq_filterMap_nameless (o : Outcome κ σ α) :
    o.events.map Event.message = ((o.record.map Entry.nameless).filterMap Entry.event?).map Event.message := by
  have he : (fun e : Entry κ => (e.nameless.event?).map Event.message) = fun e => e.event?.map Event.message := by
    funext e
    rw [e.event?_nameless, Option.map_map]
    exact congrArg (fun f => e.event?.map f) (funext Event.message_nameless)
  rw [List.filterMap_map, events, List.map_filterMap, List.map_filterMap, ← he]
  rfl

variable {o : Outcome κ σ α} {o' : Outcome κ σ' α}

/-- Records that differ in names only have the same calls. -/
theorem SameButNames.calls (h : o.SameButNames o') : o.calls = o'.calls := by
  rw [calls_eq_filterMap_nameless, h.record, ← calls_eq_filterMap_nameless]

/-- Records that differ in names only have the same messages. -/
theorem SameButNames.messages (h : o.SameButNames o') : o.events.map Event.message = o'.events.map Event.message := by
  rw [messages_eq_filterMap_nameless, h.record, ← messages_eq_filterMap_nameless]

end Outcome

namespace Libc

/-! ## The answers of a host -/

/-- What a call that tells a failure by a negative return has failed with, if it has: the error number right after it. -/
def fault? (c : Libc τ σ) (ret : Int32) (s : σ) : Option Int32 := if ret < 0 then some (c.errno s) else none

def queryFault? (c : Libc τ σ) (s : σ) : Option Int32 := c.fault? (c.uname s).1.1 (c.uname s).2

/-- The control call of a request: what is returned, and the state after it. -/
def control (c : Libc τ σ) (r : Request) : σ → Int32 × σ := c.prctl r.channel r.subcommand r.activation 0 0

def requestFault? (c : Libc τ σ) (r : Request) (s : σ) : Option Int32 := c.fault? (c.control r s).1 (c.control r s).2

/-- What the start of a command comes to: what the command leaves behind, or the error number right after the call. -/
def startAnswer (c : Libc τ σ) (v : Invocation) (s : σ) : Except Int32 τ :=
  match c.execvp v.command v.argv s with
  | (some after, _) => .ok after
  | (none, s₁) => .error (c.errno s₁)

/-- The name in the first field of the buffer is the label, each up to its first NUL. -/
def Bears (c : Libc τ σ) (label : String) (s : σ) : Prop :=
  (c.uname s).1.2.sysname.bytes.beforeNul = (Bytes.ofString label).beforeNul

instance (c : Libc τ σ) (label : String) (s : σ) : Decidable (c.Bears label s) := inferInstanceAs (Decidable (_ = _))

/-- The state in which the command is started, once the identity is settled. -/
def settledState (c : Libc τ σ) (r : Request) (s : σ) : σ :=
  if c.Bears r.label s then (c.uname s).2 else (c.control r (c.uname s).2).2

/-- Two hosts give the same answers along a run, as far as they are asked. -/
structure Alike (c : Libc τ σ) (c' : Libc τ σ') (r r' : Request) (v : Invocation) (s : σ) (s' : σ') : Prop where
  /-- Both queries fail, with the same error number, or neither does. -/
  query : c.queryFault? s = c'.queryFault? s'
  /-- Where they do not fail, both names are the label asked for or neither is. -/
  name : c.queryFault? s = none → (c.Bears r.label s ↔ c'.Bears r'.label s')
  /-- Where a request is made, both fail, with the same error number, or neither does. -/
  request : c.queryFault? s = none → ¬c.Bears r.label s →
    c.requestFault? r (c.uname s).2 = c'.requestFault? r' (c'.uname s').2
  /-- Where the command is started, it leaves the same behind, or both starts fail with the same error number. -/
  start : c.queryFault? s = none → (¬c.Bears r.label s → c.requestFault? r (c.uname s).2 = none) →
    (∀ a ∈ v.argv, 0 ∉ a) → c.startAnswer v (c.settledState r s) = c'.startAnswer v (c'.settledState r' s')

variable {c : Libc τ σ} {c' : Libc τ σ'} {r r' : Request} {v : Invocation} {s : σ} {s' : σ'} {code : Int32}

/-- A call fails by a negative return only. -/
theorem fault?_eq_none_iff {ret : Int32} : c.fault? ret s = none ↔ 0 ≤ ret := by
  by_cases h : ret < 0
  · simp [fault?, h, Int32.not_le]
  · simp [fault?, h, Int32.not_lt.mp h]

/-- A call that fails does so with the error number right after it. -/
theorem fault?_eq_some_iff {ret : Int32} : c.fault? ret s = some code ↔ ret < 0 ∧ c.errno s = code := by
  by_cases h : ret < 0 <;> simp [fault?, h]

/-- A host that bears a label is decided to do so, from what is read of its buffer. -/
theorem decision_eq_skip_iff_bears (label : String) :
    (c.uname s).1.2.identity.decision label = .skip ↔ c.Bears label s := by
  rw [Utsname.decision_eq_skip_iff_read, NameField.read_eq_beforeNul, Bears]

/-- A host that does not bear a label is decided to be asked for it. -/
theorem decision_eq_toggle_of_not_bears {label : String} (h : ¬c.Bears label s) :
    (c.uname s).1.2.identity.decision label = .toggle := by
  cases hd : (c.uname s).1.2.identity.decision label with
  | skip => exact absurd ((decision_eq_skip_iff_bears label).mp hd) h
  | toggle => rfl

/-! ## A run from the answers -/

/-- A query is answered with what it fails with. -/
theorem queryIdentity_of_fault (hq : c.queryFault? s = some code) :
    c.kernel.queryIdentity s = ⟨.error (.os code), [.call .uname], (c.uname s).2⟩ := by
  obtain ⟨hr, rfl⟩ := fault?_eq_some_iff.mp hq
  exact queryIdentity_of_neg rfl hr

theorem queryIdentity_of_no_fault (hq : c.queryFault? s = none) :
    c.kernel.queryIdentity s = ⟨.ok (c.uname s).1.2.identity, [.call .uname], (c.uname s).2⟩ :=
  queryIdentity_of_nonneg rfl (fault?_eq_none_iff.mp hq)

/-- The call that a request makes. -/
def controlCall (r : Request) : SystemCall := .prctl r.channel r.subcommand r.activation 0 0

/-- A request is answered with what it fails with. -/
theorem requestPersonality_of_fault (hp : c.requestFault? r s = some code) :
    c.kernel.requestPersonality r s = ⟨.error (.os code), [.call (controlCall r)], (c.control r s).2⟩ := by
  obtain ⟨hr, rfl⟩ := fault?_eq_some_iff.mp hp
  exact requestPersonality_of_neg rfl hr

theorem requestPersonality_of_no_fault (hp : c.requestFault? r s = none) :
    c.kernel.requestPersonality r s = ⟨.ok (), [.call (controlCall r)], (c.control r s).2⟩ :=
  requestPersonality_of_nonneg rfl (fault?_eq_none_iff.mp hp)

/-- A start that is answered alike comes out alike and is recorded alike. With a NUL in the command there is none. -/
theorem exec_alike (hx : (∀ a ∈ v.argv, 0 ∉ a) → c.startAnswer v s = c'.startAnswer v s') :
    ∃ answer started s₁ s₁', c.kernel.exec v.argv s = ⟨answer, started, s₁⟩ ∧
      c'.kernel.exec v.argv s' = ⟨answer, started, s₁'⟩ := by
  by_cases hn : ∃ a ∈ v.argv, 0 ∈ a
  · exact ⟨_, _, s, s', exec_of_nul s hn, exec_of_nul s' hn⟩
  · have hn' : ∀ a ∈ v.argv, 0 ∉ a := fun a ha h0 => hn ⟨a, ha, h0⟩
    have ha := hx hn'
    rcases he : c.execvp v.command v.argv s with ⟨_ | after, s₁⟩ <;>
      rcases he' : c'.execvp v.command v.argv s' with ⟨_ | after', s₁'⟩ <;>
      simp only [startAnswer, he, he', Except.error.injEq, Except.ok.injEq, reduceCtorEq] at ha
    · exact ⟨_, _, s₁, s₁', exec_of_none hn' he, ha ▸ exec_of_none hn' he'⟩
    · exact ⟨_, _, s₁, s₁', exec_of_some hn' he, ha ▸ exec_of_some hn' he'⟩

theorem settledState_of_bears (hb : c.Bears r.label s) : c.settledState r s = (c.uname s).2 := if_pos hb

theorem settledState_of_not_bears (hb : ¬c.Bears r.label s) :
    c.settledState r s = (c.control r (c.uname s).2).2 := if_neg hb

/-! ## Two runs -/

/-- Two hosts that answer alike are run alike, whatever the labels. -/
theorem Alike.sameButNames {label : String} (h : c.Alike c' r { r with label } v s s') :
    (c.kernel.run r v s).SameButNames (c'.kernel.run { r with label } v s') := by
  cases hq : c.queryFault? s with
  | some code =>
    have hk : c.kernel.Course r v s _ _ := .unanswered (queryIdentity_of_fault hq)
    have hk' : c'.kernel.Course { r with label } v s' _ _ := .unanswered (queryIdentity_of_fault (h.query ▸ hq))
    rw [hk.run_eq, hk'.run_eq]
    exact ⟨rfl, rfl⟩
  | none =>
    have hi := queryIdentity_of_no_fault hq
    have hi' := queryIdentity_of_no_fault (h.query ▸ hq)
    by_cases hb : c.Bears r.label s
    · have hb' := (h.name hq).mp hb
      have hd := (decision_eq_skip_iff_bears r.label).mpr hb
      have hd' := (decision_eq_skip_iff_bears label).mpr hb'
      obtain ⟨answer, started, s₁, s₁', hx, hx'⟩ := exec_alike (h.start hq (absurd hb))
      rw [settledState_of_bears hb] at hx
      rw [settledState_of_bears hb'] at hx'
      have hk : c.kernel.Course r v s _ _ := .borne hi hd hx
      have hk' : c'.kernel.Course { r with label } v s' _ _ := .borne hi' hd' hx'
      rw [hk.run_eq, hk'.run_eq]
      exact ⟨rfl, rfl⟩
    · have hb' := mt (h.name hq).mpr hb
      have hd := decision_eq_toggle_of_not_bears hb
      have hd' := decision_eq_toggle_of_not_bears hb'
      have hp' := h.request hq hb
      cases hp : c.requestFault? r (c.uname s).2 with
      | some code =>
        have ht := requestPersonality_of_fault hp
        have ht' := requestPersonality_of_fault (hp' ▸ hp)
        have hk : c.kernel.Course r v s _ _ := .refused hi hd ht
        have hk' : c'.kernel.Course { r with label } v s' _ _ := .refused hi' hd' ht'
        rw [hk.run_eq, hk'.run_eq]
        exact ⟨rfl, rfl⟩
      | none =>
        have ht := requestPersonality_of_no_fault hp
        have ht' := requestPersonality_of_no_fault (hp' ▸ hp)
        obtain ⟨answer, started, s₁, s₁', hx, hx'⟩ := exec_alike (h.start hq fun _ => hp)
        rw [settledState_of_not_bears hb] at hx
        rw [settledState_of_not_bears hb'] at hx'
        have hk : c.kernel.Course r v s _ _ := .taken hi hd ht hx
        have hk' : c'.kernel.Course { r with label } v s' _ _ := .taken hi' hd' ht' hx'
        rw [hk.run_eq, hk'.run_eq]
        exact ⟨rfl, rfl⟩

/-- The same library, but for what its query tells. -/
def retold (c : Libc τ σ) (tell : Int32 × Utsname → Int32 × Utsname) : Libc τ σ :=
  { c with uname := fun s => (tell (c.uname s).1, (c.uname s).2) }

/-- A query may be told in any other words that fail when it fails, and that are the new label when it told the old one. -/
theorem alike_retold {label : String} {tell : Int32 × Utsname → Int32 × Utsname} (hf : ∀ a, (tell a).1 < 0 ↔ a.1 < 0)
    (hn : ∀ a, 0 ≤ a.1 → ((tell a).2.sysname.bytes.beforeNul = (Bytes.ofString label).beforeNul ↔
      a.2.sysname.bytes.beforeNul = (Bytes.ofString r.label).beforeNul)) :
    c.Alike (c.retold tell) r { r with label } v s s := by
  have hb : c.queryFault? s = none → (c.Bears r.label s ↔ (c.retold tell).Bears label s) := fun hq =>
    (hn (c.uname s).1 (fault?_eq_none_iff.mp hq)).symm
  refine ⟨?_, hb, fun _ _ => rfl, fun hq _ _ => ?_⟩
  · simp only [queryFault?, fault?, retold, hf]
  · have hs : c.settledState r s = (c.retold tell).settledState { r with label } s :=
      ite_congr (propext (hb hq)) (fun _ => rfl) fun _ => rfl
    rw [hs]
    rfl

/-- A run depends on nothing but the answers of the host, as far as it asks. When another host gives the same answers, a run there
for a request with the same three numbers and any label makes the same calls, comes to the same value, says the same in the same
places, and differs in the names that its events tell at most. So it is when a host tells its names in other words: the number that
its query returns, its release and machine, what follows a NUL in its buffer and the label itself are seen nowhere else. -/
theorem run_depends_on_answers (c : Libc τ σ) (r : Request) (v : Invocation) (s : σ) (label : String) :
    (∀ {σ' : Type} (c' : Libc τ σ') (s' : σ'), c.Alike c' r { r with label } v s s' →
      (c.kernel.run r v s).calls = (c'.kernel.run { r with label } v s').calls ∧
      (c.kernel.run r v s).value = (c'.kernel.run { r with label } v s').value ∧
      (c.kernel.run r v s).events.map Event.message = (c'.kernel.run { r with label } v s').events.map Event.message ∧
      (c.kernel.run r v s).SameButNames (c'.kernel.run { r with label } v s')) ∧
    ∀ tell : Int32 × Utsname → Int32 × Utsname, (∀ a, (tell a).1 < 0 ↔ a.1 < 0) →
      (∀ a, 0 ≤ a.1 → ((tell a).2.sysname.bytes.beforeNul = (Bytes.ofString label).beforeNul ↔
        a.2.sysname.bytes.beforeNul = (Bytes.ofString r.label).beforeNul)) →
      (c.kernel.run r v s).SameButNames ((c.retold tell).kernel.run { r with label } v s) := by
  constructor
  · intro σ' c' s' h
    have hs := h.sameButNames
    exact ⟨hs.calls, hs.value, hs.messages, hs⟩
  · intro tell hf hn
    exact (alike_retold hf hn).sameButNames

/-- A host that takes every request and starts no command. Its calls return a given number and leave it where the error number is,
and it tells the names given. -/
def taking (ret : Int32) (names : Identity) : Libc UInt8 Int32 where
  uname _ := ((ret, .store names), ret)
  prctl _ _ _ _ _ _ := (ret, ret)
  execvp _ _ _ := (none, 2)
  errno errno := errno

/-- Two hosts with other names, of which one has the label behind a NUL, and with other numbers: a run for two labels is the same on
both. And on one of them nothing changes when the query returns another number and tells another release and machine. -/
theorem run_depends_on_answers_elsewhere :
    ((taking 0 (.named (Bytes.ofString "Maestro"))).kernel.run .linux ⟨Bytes.ofString "ls", []⟩ 0).value =
        ((taking 7 ⟨Bytes.ofString "Plan\x00Inferno", [1], [0xFF]⟩).kernel.run { Request.linux with label := "Inferno" }
          ⟨Bytes.ofString "ls", []⟩ 0).value ∧
      ((taking 0 (.named (Bytes.ofString "Maestro"))).kernel.run .linux ⟨Bytes.ofString "ls", []⟩ 0).SameButNames
        (((taking 0 (.named (Bytes.ofString "Maestro"))).retold fun a =>
          (if a.1 < 0 then a.1 else 7, ⟨a.2.sysname, .store [1], .store [0xFF]⟩)).kernel.run .linux
            ⟨Bytes.ofString "ls", []⟩ 0) := by
  constructor
  · obtain ⟨h, -⟩ := run_depends_on_answers (taking 0 (.named (Bytes.ofString "Maestro"))) .linux
      ⟨Bytes.ofString "ls", []⟩ 0 "Inferno"
    obtain ⟨-, hv, -, -⟩ := h (taking 7 ⟨Bytes.ofString "Plan\x00Inferno", [1], [0xFF]⟩) 0
      ⟨by decide, by decide, by decide, fun _ _ _ => rfl⟩
    exact hv
  · obtain ⟨-, h⟩ := run_depends_on_answers (taking 0 (.named (Bytes.ofString "Maestro"))) .linux
      ⟨Bytes.ofString "ls", []⟩ 0 Request.linux.label
    refine h _ (fun a => ?_) fun a _ => Iff.rfl
    dsimp only
    split
    · rfl
    · simp_all

end Libc
end KernelGuise
