import KernelGuise.Proofs.ReportedName
import KernelGuise.Proofs.Utf8

/-!
# The name that is shown

A decision compares the bytes of a system name with those of a label; the events show the name as text. Up to the first NUL the
two agree: a request is skipped exactly when the text shown is the label and the bytes are those of a text
(`decision_eq_skip_iff_shown`). Bytes that belong to no character show as U+FFFD, so only a label that holds this character can be
shown while a request is made.
-/

namespace KernelGuise

open String (utf8EncodeChar)

/-- The characters of a text that count as a name: those before its first NUL. -/
def nameChars (text : String) : List Char := text.toList.takeWhile (· != '\x00')

/-- A byte string holds the UTF-8 form of a text and nothing else. -/
def Bytes.IsText (bs : Bytes) : Prop := ∃ cs : List Char, bs = cs.flatMap utf8EncodeChar

/-- The bytes of a label before its first NUL are those of its characters before it. -/
theorem Bytes.beforeNul_ofString (text : String) : (ofString text).beforeNul = (nameChars text).flatMap utf8EncodeChar :=
  Utf8.beforeNul_encode text.toList

/-- What is shown before the first NUL is what is shown of the bytes before theirs. -/
theorem nameChars_lossy (bs : Bytes) : nameChars (Utf8.lossy bs) = Utf8.lossyChars bs.beforeNul := by
  rw [nameChars, Utf8.lossy, String.toList_ofList, Utf8.takeWhile_lossyChars]

namespace Identity

/-- A request is skipped exactly when the label is the text shown, and the bytes that show so are those of a text. -/
theorem decision_eq_skip_iff_shown (i : Identity) (label : String) :
    i.decision label = .skip ↔ nameChars i.shownSysname = nameChars label ∧ i.sysname.beforeNul.IsText := by
  rw [decision_eq_skip_iff, Bytes.beforeNul_ofString, shownSysname, nameChars_lossy]
  constructor
  · intro h
    rw [h]
    exact ⟨Utf8.lossyChars_encode _, nameChars label, rfl⟩
  · rintro ⟨h, cs, hcs⟩
    rw [hcs, Utf8.lossyChars_encode] at h
    rw [hcs, h]

/-- What shows no U+FFFD before its first NUL is text up to there. -/
theorem isText_of_not_mem_nameChars {i : Identity} (h : '\uFFFD' ∉ nameChars i.shownSysname) : i.sysname.beforeNul.IsText := by
  rw [shownSysname, nameChars_lossy] at h
  exact ⟨_, (Utf8.flatMap_encode_lossyChars h).symm⟩

/-- A name that does not bear a label never shows as the label, unless the label holds a U+FFFD. -/
theorem nameChars_ne_of_toggle {i : Identity} {label : String} (hd : i.decision label = .toggle)
    (hl : '\uFFFD' ∉ nameChars label) : nameChars i.shownSysname ≠ nameChars label := by
  intro h
  have hs := (decision_eq_skip_iff_shown i label).mpr ⟨h, isText_of_not_mem_nameChars (h ▸ hl)⟩
  rw [hd] at hs
  cases hs

/-- With a U+FFFD in the label, another name may show as the label. -/
example : (Identity.named [0xFF]).decision "\uFFFD" = .toggle ∧
    nameChars (Identity.named [0xFF]).shownSysname = nameChars "\uFFFD" := by decide

end Identity

namespace Kernel

variable {κ τ σ : Type} {k : Kernel κ τ σ} {request : Request} {v : Invocation} {s : σ} {shown : String} {channel : Int32}
  {subcommand activation : UInt64}

/-- The kernel says something of its own along with some answer. -/
def Says (k : Kernel κ τ σ) (e : Event) : Prop :=
  (∃ s, e ∈ (k.queryIdentity s).events) ∨ (∃ request s, e ∈ (k.requestPersonality request s).events) ∨
    ∃ argv s, e ∈ (k.exec argv s).events

/-- An event along a query is the kernel's own. -/
theorem says_of_query {s₁ : σ} {answer : Except IoError Identity} {asked : List (Entry κ)} {e : Event}
    (hq : k.queryIdentity s = ⟨answer, asked, s₁⟩) (h : .event e ∈ asked) : k.Says e :=
  .inl ⟨s, Outcome.mem_events.mpr (by rw [hq]; exact h)⟩

theorem says_of_personality {s₁ : σ} {answer : Except IoError Unit} {told : List (Entry κ)} {e : Event}
    (hp : k.requestPersonality request s = ⟨answer, told, s₁⟩) (h : .event e ∈ told) : k.Says e :=
  .inr (.inl ⟨request, s, Outcome.mem_events.mpr (by rw [hp]; exact h)⟩)

theorem says_of_exec {s₁ : σ} {argv : List Bytes} {answer : Except IoError τ} {started : List (Entry κ)} {e : Event}
    (hx : k.exec argv s = ⟨answer, started, s₁⟩) (h : .event e ∈ started) : k.Says e :=
  .inr (.inr ⟨argv, s, Outcome.mem_events.mpr (by rw [hx]; exact h)⟩)

/-- A kernel that only answers says nothing. -/
theorem not_says_ofAnswers {query : σ → Except IoError Identity × σ} {personality : Request → σ → Except IoError Unit × σ}
    {exec : List Bytes → σ → Except IoError τ × σ} {e : Event} : ¬(ofAnswers query personality exec).Says e := by
  rintro (⟨s, h⟩ | ⟨request, s, h⟩ | ⟨argv, s, h⟩) <;> simp [ofAnswers, Outcome.mem_events] at h

/-- A request that is announced is made for a name that does not bear its label, and shows that name. -/
theorem announced_by_ensure {i : Identity}
    (h : .requesting shown channel subcommand activation ∈ (k.ensure i request s).events) :
    k.Says (.requesting shown channel subcommand activation) ∨
      ∃ i : Identity, i.decision request.label = .toggle ∧ shown = i.shownSysname := by
  rw [Outcome.mem_events] at h
  cases hd : i.decision request.label with
  | skip =>
    rw [ensure_of_skip s hd] at h
    simp at h
  | toggle =>
    rcases hp : k.requestPersonality request s with ⟨answer, told, s₁⟩
    have he : (k.ensure i request s).record = .event (announcement i request) :: told := by
      cases answer with
      | error cause => rw [ensure_of_refused hd hp]
      | ok _ => rw [ensure_of_taken hd hp]
    rw [he, List.mem_cons, Entry.event.injEq] at h
    rcases h with h | h
    · obtain ⟨rfl, -⟩ := Event.requesting.inj h
      exact .inr ⟨i, hd, rfl⟩
    · exact .inl (says_of_personality hp h)

/-- So is every request that is announced along a run. -/
theorem Course.announced {talk : List (σ × Call)} {o : Outcome κ σ (Except Failure τ)}
    (hc : k.Course request v s talk o) (h : .requesting shown channel subcommand activation ∈ o.events) :
    k.Says (.requesting shown channel subcommand activation) ∨
      ∃ i : Identity, i.decision request.label = .toggle ∧ shown = i.shownSysname := by
  rw [Outcome.mem_events] at h
  cases hc with
  | unanswered hq => exact .inl (says_of_query hq h)
  | @refused _ _ i _ _ _ hq hd hp =>
    simp only [List.mem_append, List.mem_cons, Entry.event.injEq, Event.ofProbe, reduceCtorEq, false_or] at h
    rcases h with h | h | h
    · exact .inl (says_of_query hq h)
    · obtain ⟨rfl, -⟩ := Event.requesting.inj h
      exact .inr ⟨i, hd, rfl⟩
    · exact .inl (says_of_personality hp h)
  | borne hq hd hx =>
    simp only [List.mem_append, List.mem_cons, Entry.event.injEq, Event.ofProbe, reduceCtorEq, false_or] at h
    rcases h with h | h
    · exact .inl (says_of_query hq h)
    · exact .inl (says_of_exec hx h)
  | @taken _ _ _ i _ _ _ _ hq hd hp hx =>
    simp only [List.mem_append, List.mem_cons, Entry.event.injEq, Event.ofProbe, reduceCtorEq, false_or] at h
    rcases h with (h | h | h) | h
    · exact .inl (says_of_query hq h)
    · obtain ⟨rfl, -⟩ := Event.requesting.inj h
      exact .inr ⟨i, hd, rfl⟩
    · exact .inl (says_of_personality hp h)
    · exact .inl (says_of_exec hx h)

/-- And along a launch. -/
theorem announced_by_launch {l : Launch} (h : .requesting shown channel subcommand activation ∈ (l.on k s).events) :
    k.Says (.requesting shown channel subcommand activation) ∨
      ∃ i : Identity, i.decision l.request.label = .toggle ∧ shown = i.shownSysname := by
  cases hv : l.invocation? with
  | none =>
    rw [Launch.on_of_none hv] at h
    simp [Outcome.events] at h
  | some v =>
    rw [Launch.on_of_some hv] at h
    obtain ⟨talk, hc⟩ := k.run_course l.request v s
    exact hc.announced h

/-- No request is announced with a name that reads as the label, unless the label holds a U+FFFD, or the kernel itself says that
one is made. -/
def Discerns (k : Kernel κ τ σ) (label : String) (es : List Event) : Prop :=
  ∀ shown channel subcommand activation, .requesting shown channel subcommand activation ∈ es →
    k.Says (.requesting shown channel subcommand activation) ∨ '\uFFFD' ∈ nameChars label ∨
      nameChars shown ≠ nameChars label

/-- Requests that are announced for names that do not bear the label are told apart from the label. -/
theorem discerns_of_announced {label : String} {es : List Event}
    (h : ∀ {shown channel subcommand activation}, .requesting shown channel subcommand activation ∈ es →
      k.Says (.requesting shown channel subcommand activation) ∨
        ∃ i : Identity, i.decision label = .toggle ∧ shown = i.shownSysname) : k.Discerns label es := by
  intro shown channel subcommand activation he
  rcases h he with hs | ⟨i, hd, rfl⟩
  · exact .inl hs
  · by_cases hl : '\uFFFD' ∈ nameChars label
    · exact .inr (.inl hl)
    · exact .inr (.inr (Identity.nameChars_ne_of_toggle hd hl))

/-- The text shown for an identity agrees with the decision taken on its bytes. What is skipped shows as the label, and what shows
as the label is skipped, unless the label holds a U+FFFD; so a request that is announced, for an identity at hand or along a
launch, shows another name than its label. -/
theorem shown_name_agrees (k : Kernel κ τ σ) (s : σ) (i : Identity) (label : String) :
    (i.decision label = .skip → nameChars i.shownSysname = nameChars label) ∧
    ('\uFFFD' ∉ nameChars label → nameChars i.shownSysname = nameChars label → i.decision label = .skip) ∧
    (∀ request, k.Discerns request.label (k.ensure i request s).events) ∧
    ∀ l : Launch, k.Discerns l.request.label (l.on k s).events := by
  refine ⟨fun hd => ((i.decision_eq_skip_iff_shown label).mp hd).1, fun hl h => ?_,
    fun request => discerns_of_announced announced_by_ensure, fun l => discerns_of_announced announced_by_launch⟩
  cases hd : i.decision label with
  | skip => rfl
  | toggle => exact absurd h (Identity.nameChars_ne_of_toggle hd hl)

/-- What follows a NUL is not compared and not shown; a name that breaks off shows as one. -/
theorem shown_name_agrees_rehearsed :
    (Identity.named (Bytes.ofString "Linux" ++ [0, 0xFF])).decision "Linux" = .skip ∧
      nameChars (Identity.named (Bytes.ofString "Linux" ++ [0, 0xFF])).shownSysname = nameChars "Linux" ∧
      .requesting "Lin\uFFFD" Request.linux.channel Request.linux.subcommand Request.linux.activation ∈
        ((Launch.onLinux ⟨[], []⟩).on (rehearsal id) (Bytes.ofString "Lin" ++ [0xE2, 0x82], 0)).events ∧
      nameChars "Lin\uFFFD" ≠ nameChars "Linux" := by
  have h := shown_name_agrees (rehearsal id) (Bytes.ofString "Lin" ++ [0xE2, 0x82], 0)
    (.named (Bytes.ofString "Linux" ++ [0, 0xFF])) "Linux"
  have hd : (Identity.named (Bytes.ofString "Linux" ++ [0, 0xFF])).decision "Linux" = .skip := by decide
  have he : .requesting "Lin\uFFFD" Request.linux.channel Request.linux.subcommand Request.linux.activation ∈
      ((Launch.onLinux ⟨[], []⟩).on (rehearsal id) (Bytes.ofString "Lin" ++ [0xE2, 0x82], 0)).events := by decide
  refine ⟨hd, h.1 hd, he, ?_⟩
  rcases h.2.2.2 (.onLinux ⟨[], []⟩) _ _ _ _ he with hs | hl | hn
  · exact absurd hs not_says_ofAnswers
  · exact absurd hl (by decide)
  · exact hn

end Kernel
end KernelGuise
