import KernelGuise.Proofs.Chronicle

/-!
# The last setting wins

A request is put together from settings. Each setting decides the label, and all but a label decide the three numbers as well
(`Request.label_set`, `Request.numbers_set`). So the request that settings make has the label of the last one
(`Request.label_ofSettings`) and the numbers of the last one that is no label (`Request.numbers_ofSettings`), or those of the
request to pass as Linux where there is none. A kernel whose name is not that label is asked for just this request.
-/

namespace KernelGuise

/-- The three numbers that a kernel is given. -/
def Request.numbers (r : Request) : Int32 × UInt64 × UInt64 := (r.channel, r.subcommand, r.activation)

namespace Setting

/-- The label after a setting, whatever was set before. -/
def labelAfter : Setting → String
  | .startOver => "Linux"
  | .label name => name
  | .request r => r.label

/-- The numbers after a setting, unless it leaves them as they are. -/
def numbersAfter? : Setting → Option (Int32 × UInt64 × UInt64)
  | .startOver => some (0x4d535452, 0, 1)
  | .label _ => none
  | .request r => some r.numbers

/-- The label of the last of some settings. -/
def lastLabel (settings : List Setting) : String := (settings.getLast?.map labelAfter).getD "Linux"

/-- The numbers of the last of some settings that decides them. -/
def lastNumbers (settings : List Setting) : Int32 × UInt64 × UInt64 :=
  (settings.filterMap numbersAfter?).getLast?.getD (0x4d535452, 0, 1)

end Setting

namespace Request

/-! ## One setting -/

theorem label_set (r : Request) (setting : Setting) : (r.set setting).label = setting.labelAfter := by
  cases setting <;> rfl

theorem numbers_set (r : Request) (setting : Setting) : (r.set setting).numbers = setting.numbersAfter?.getD r.numbers := by
  cases setting <;> rfl

/-! ## Any number of settings -/

/-- The last of some settings decides the label. -/
theorem label_foldl_set (r : Request) (settings : List Setting) :
    (settings.foldl set r).label = (settings.getLast?.map Setting.labelAfter).getD r.label := by
  induction settings generalizing r with
  | nil => rfl
  | cons setting settings ih =>
    rw [List.foldl_cons, ih, label_set, List.getLast?_cons]
    cases settings.getLast? <;> rfl

/-- The last of some settings that decides the numbers decides them. -/
theorem numbers_foldl_set (r : Request) (settings : List Setting) :
    (settings.foldl set r).numbers = (settings.filterMap Setting.numbersAfter?).getLast?.getD r.numbers := by
  induction settings generalizing r with
  | nil => rfl
  | cons setting settings ih =>
    rw [List.foldl_cons, ih, numbers_set]
    -- A label leaves the numbers to what was set before it; any other setting decides them.
    cases hn : setting.numbersAfter? with
    | none => rw [List.filterMap_cons_none hn, Option.getD_none]
    | some numbers =>
      rw [List.filterMap_cons_some hn, List.getLast?_cons, Option.getD_some]
      rfl

/-- A new request has the label of the last setting. -/
theorem label_ofSettings (settings : List Setting) : (ofSettings settings).label = Setting.lastLabel settings :=
  label_foldl_set linux settings

/-- A new request has the numbers of the last setting that decides them. -/
theorem numbers_ofSettings (settings : List Setting) : (ofSettings settings).numbers = Setting.lastNumbers settings :=
  numbers_foldl_set linux settings

/-- A kernel that reports another name than the label is asked for the request, once and whole. -/
theorem requests_of_run {κ τ σ : Type} {k : Kernel κ τ σ} {request : Request} {s : σ} {i : Identity}
    (hi : (k.queryIdentity s).value = .ok i) (hn : i.sysname.beforeNul ≠ (Bytes.ofString request.label).beforeNul)
    (v : Invocation) : (k.questions request v s).filter Call.isRequest = [.personality request] := by
  obtain ⟨talk, hc⟩ := k.run_course request v s
  rw [hc.questions_eq]
  generalize k.run request v s = o at hc
  have hd := (i.decision_eq_toggle_iff request.label).mpr hn
  cases hc with
  | unanswered hq =>
    rw [hq] at hi
    cases hi
  | refused => rfl
  | borne hq hd' =>
    rw [hq] at hi
    obtain rfl := Except.ok.inj hi
    rw [hd] at hd'
    cases hd'
  | taken => rfl

/-- The last setting wins. The label is that of the last setting, and the three numbers together are those of the last setting that
is no label; what no setting decides is as it is to pass as Linux. Every run of the request on a kernel that reports another name
than that label puts one request, with exactly these four values. -/
theorem request_of_settings (settings : List Setting) :
    (ofSettings settings).label = Setting.lastLabel settings ∧
      (ofSettings settings).numbers = Setting.lastNumbers settings ∧
      ∀ {κ τ σ : Type} (k : Kernel κ τ σ) (v : Invocation) (s : σ) (i : Identity), (k.queryIdentity s).value = .ok i →
        i.sysname.beforeNul ≠ (Bytes.ofString (Setting.lastLabel settings)).beforeNul →
        (k.questions (ofSettings settings) v s).filter Call.isRequest =
          [.personality ⟨Setting.lastLabel settings, (Setting.lastNumbers settings).1, (Setting.lastNumbers settings).2.1,
            (Setting.lastNumbers settings).2.2⟩] := by
  have hl := label_ofSettings settings
  have hnumbers := numbers_ofSettings settings
  refine ⟨hl, hnumbers, ?_⟩
  intro κ τ σ k v s i hi hn
  rw [← hl] at hn
  rw [requests_of_run hi hn v, ← hl, ← hnumbers]
  rfl

/-- Two requests with labels between them, then a label: the label is the last, the numbers are those of the second request. -/
def overlapping : List Setting :=
  [.request ⟨"Plan 9", 1, 2, 3⟩, .label "Haiku", .startOver, .request ⟨"Plan 9", 4, 5, 6⟩, .label "Maestro"]

theorem request_of_settings_overlapping :
    ((Kernel.rehearsal id).queryIdentity (Bytes.ofString "Plan 9", 0)).value = .ok (.named (Bytes.ofString "Plan 9")) ∧
      (Identity.named (Bytes.ofString "Plan 9")).sysname.beforeNul ≠
        (Bytes.ofString (Setting.lastLabel overlapping)).beforeNul ∧
      ((Kernel.rehearsal id).questions (ofSettings overlapping) ⟨Bytes.ofString "ls", []⟩
        (Bytes.ofString "Plan 9", 0)).filter Call.isRequest = [.personality ⟨"Maestro", 4, 5, 6⟩] := by
  have hi : ((Kernel.rehearsal id).queryIdentity (Bytes.ofString "Plan 9", 0)).value =
      .ok (.named (Bytes.ofString "Plan 9")) := rfl
  have hn : (Identity.named (Bytes.ofString "Plan 9")).sysname.beforeNul ≠
      (Bytes.ofString (Setting.lastLabel overlapping)).beforeNul := by decide
  have hl : Setting.lastLabel overlapping = "Maestro" := rfl
  have hnumbers : Setting.lastNumbers overlapping = (4, 5, 6) := rfl
  obtain ⟨-, -, hrun⟩ := request_of_settings overlapping
  have hq := hrun _ ⟨Bytes.ofString "ls", []⟩ _ _ hi hn
  rw [hl, hnumbers] at hq
  exact ⟨hi, hn, hq⟩

end Request
end KernelGuise
