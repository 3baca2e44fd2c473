import KernelGuise.Bytes
import KernelGuise.Failure
import Mathlib

/-!
# Texts of errors

What the texts of errors are like. An error number is told after its message, as the last word of the text, so that two numbers never
read the same (`IoError.text_os_inj`). Neither the messages of the table nor the numbers break a line, and so the texts of error
numbers are on one line (`IoError.oneLine_os`), as is the message of a failure whose error is (`Failure.oneLine_message`).
-/

namespace KernelGuise

/-! ## Numbers -/

/-- A number is written in digits, with a minus sign at most. -/
theorem isDigit_of_mem_toString {n : Int} {c : Char} (h : c ∈ (toString n).toList) : c = '-' ∨ c.isDigit = true := by
  rw [Int.toString_eq_repr, Int.repr_eq_if] at h
  split at h
  · rw [Nat.toList_repr] at h
    exact .inr (Nat.isDigit_of_mem_toDigits (by decide) (by decide) h)
  · rw [String.toList_append, List.mem_append, Nat.toList_repr] at h
    rcases h with h | h
    · exact .inl (List.mem_singleton.mp h)
    · exact .inr (Nat.isDigit_of_mem_toDigits (by decide) (by decide) h)

/-- A character that is no digit and no minus sign is in no number. -/
theorem notMem_toString (n : Int) {c : Char} (hs : c ≠ '-') (hd : c.isDigit = false) : c ∉ (toString n).toList := by
  intro hm
  rcases isDigit_of_mem_toString hm with h | h
  · exact hs h
  · rw [hd] at h
    cases h

/-- Two numbers never read the same. -/
theorem toString_int_inj {m n : Int} : toString m = toString n ↔ m = n := by
  rw [Int.toString_eq_repr, Int.toString_eq_repr, Int.repr_inj]

/-! ## The last word of a text -/

/-- The characters after the last blank of a text. -/
def lastWord (text : String) : List Char := text.toList.rtakeWhile (· ≠ ' ')

/-- What follows a blank and holds none is the last word, whatever comes before. -/
theorem lastWord_append (front : String) {word : List Char} (h : ' ' ∉ word) :
    lastWord (front ++ " " ++ String.ofList word) = word := by
  have hw : ∀ c ∈ word.reverse, decide (c ≠ ' ') = true := by
    intro c hc
    rw [decide_eq_true_eq]
    rintro rfl
    exact h (List.mem_reverse.mp hc)
  have hl : (front ++ " " ++ String.ofList word).toList.reverse = word.reverse ++ ' ' :: front.toList.reverse := by
    simp
  rw [lastWord, List.rtakeWhile, hl, List.takeWhile_append_of_pos hw, List.takeWhile_cons_of_neg (by decide),
    List.append_nil, List.reverse_reverse]

/-! ## Texts on one line -/

/-- A text that breaks no line. -/
def OneLine (text : String) : Prop := '\n' ∉ text.toList

instance (text : String) : Decidable (OneLine text) := inferInstanceAs (Decidable (_ ∉ _))

namespace OneLine

variable {a b : String}

/-- Two texts on one line make a text on one line. -/
theorem append (ha : OneLine a) (hb : OneLine b) : OneLine (a ++ b) := by
  unfold OneLine at ha hb ⊢
  rw [String.toList_append, List.mem_append]
  exact not_or.mpr ⟨ha, hb⟩

/-- The bytes of a text show whether it breaks a line. -/
theorem of_bytes (h : 10 ∉ a.toByteArray.data.toList) : OneLine a := by
  intro hm
  refine h ?_
  rw [← Bytes.toByteArray_ofString, List.data_toByteArray]
  exact List.mem_flatMap.mpr ⟨'\n', hm, by decide⟩

/-- A number is on one line. -/
theorem intToString (n : Int) : OneLine (toString n) := notMem_toString n (by decide) (by decide)

end OneLine

/-- The message of an error number is on one line, whether it has one in the table or not. -/
theorem Errno.oneLine_message (code : Int32) : OneLine (message code) := by
  -- The table is checked by its bytes, which need no decoding.
  have ht : ∀ p ∈ messages, 10 ∉ p.2.toByteArray.data.toList := by decide +kernel
  unfold message
  cases hl : messages.lookup code with
  | none => exact .append (by decide) (.intToString code.toInt)
  | some text =>
    obtain ⟨before, after, he, -⟩ := List.lookup_eq_some_iff.mp hl
    have hm : (code, text) ∈ messages := by
      rw [he]
      exact List.mem_append_right _ List.mem_cons_self
    exact .of_bytes (ht _ hm)

/-! ## Errors and failures -/

namespace IoError

/-- The text of an error number is on one line. -/
theorem oneLine_os (code : Int32) : OneLine (IoError.os code).text :=
  .append (.append (.append (Errno.oneLine_message code) (by decide)) (.intToString code.toInt)) (by decide)

/-- The last word of the text of an error number is the number, with the bracket after it. -/
theorem lastWord_text_os (code : Int32) : lastWord (IoError.os code).text = (toString code.toInt).toList ++ [')'] := by
  have hn : ' ' ∉ (toString code.toInt).toList ++ [')'] := by
    rw [List.mem_append]
    exact not_or.mpr ⟨notMem_toString code.toInt (by decide) (by decide), by decide⟩
  have ht : (IoError.os code).text =
      Errno.message code ++ " (os error" ++ " " ++ String.ofList ((toString code.toInt).toList ++ [')']) := by
    have hb : " (os error " = " (os error" ++ " " := by decide
    have hc : String.ofList [')'] = ")" := by decide
    rw [text, hb, String.ofList_append, String.ofList_toList, hc]
    simp only [String.append_assoc]
  rw [ht, lastWord_append _ hn]

/-- Two error numbers never read the same. -/
theorem text_os_inj {a b : Int32} : (IoError.os a).text = (IoError.os b).text ↔ a = b := by
  constructor
  · intro h
    have hw : (toString a.toInt).toList ++ [')'] = (toString b.toInt).toList ++ [')'] := by
      rw [← lastWord_text_os, h, lastWord_text_os]
    exact Int32.toInt_inj.mp (toString_int_inj.mp (String.toList_inj.mp (List.append_cancel_right hw)))
  · rintro rfl
    rfl

end IoError

/-- A message is on one line when the kernel's words are. -/
theorem Failure.oneLine_message {failure : Failure} (h : ∀ cause, failure.cause? = some cause → OneLine cause.text) :
    OneLine failure.message := by
  cases failure with
  | usage => decide
  | query cause => exact .append (by decide) (h cause rfl)
  | toggle cause => exact .append (by decide) (h cause rfl)
  | exec cause => exact .append (by decide) (h cause rfl)

end KernelGuise
