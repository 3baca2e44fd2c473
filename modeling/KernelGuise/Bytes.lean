/-!
# Byte strings

System names, commands and arguments are raw bytes: nothing promises that they are text, and a NUL may stand anywhere in
them. Here are the bytes of a text, the part of a byte string that counts where a NUL ends a name, and the comparison of a
fixed-width field with a name, which sees just that part (`Bytes.holds_iff`).
-/

namespace KernelGuise

/-- A byte string. -/
abbrev Bytes := List UInt8

namespace Bytes

/-- The bytes of a text in UTF-8. -/
def ofString (s : String) : Bytes := s.toList.flatMap String.utf8EncodeChar

/-- The bytes before the first NUL, all of them when there is none. -/
def beforeNul (bs : Bytes) : Bytes := bs.takeWhile (· != 0)

/-- A fixed-width field holds a name when the name's bytes and one NUL after them stand at its start, where the bytes past
the field's end count as NUL. The comparison ends at the first NUL that both sides share, so a NUL inside the name ends the
name there. -/
def holds : Bytes → Bytes → Bool
  | field, [] => field.headD 0 == 0
  | field, b :: name => field.headD 0 == b && (b == 0 || holds field.tail name)

/-- The bytes of a text are those that the text itself is made of. -/
theorem toByteArray_ofString (s : String) : (ofString s).toByteArray = s.toByteArray := by
  conv => rhs; rw [← String.ofList_toList (s := s)]
  rw [String.toByteArray_ofList]
  rfl

@[simp] theorem beforeNul_nil : beforeNul [] = [] := rfl

/-- A NUL ends what stands before it; any other byte belongs to it. -/
theorem beforeNul_cons (b : UInt8) (bs : Bytes) :
    beforeNul (b :: bs) = if b = 0 then [] else b :: beforeNul bs := by
  by_cases h : b = 0 <;> simp [beforeNul, h]

/-- Filling up with NUL does not change a name. -/
theorem beforeNul_append_replicate (bs : Bytes) (n : Nat) : beforeNul (bs ++ List.replicate n 0) = bs.beforeNul := by
  induction bs with
  | nil => cases n <;> simp [List.replicate_succ, beforeNul_cons]
  | cons b bs ih => by_cases h : b = 0 <;> simp [beforeNul_cons, h, ih]

/-- No NUL stands before the first one. -/
theorem zero_notMem_beforeNul (bs : Bytes) : 0 ∉ bs.beforeNul := by
  intro h
  have hb := List.all_eq_true.mp (List.all_takeWhile (p := (· != 0)) (l := bs)) 0 h
  simp at hb

theorem beforeNul_of_zero_notMem {bs : Bytes} (h : 0 ∉ bs) : bs.beforeNul = bs := by
  induction bs with
  | nil => rfl
  | cons b bs ih =>
    have hb : b ≠ 0 := fun e => h (e ▸ List.mem_cons_self)
    rw [beforeNul_cons, if_neg hb, ih fun hm => h (List.mem_cons_of_mem b hm)]

/-- What stands before the first NUL is a given name exactly when the name and a NUL after it begin the byte string, or the name
is all there is. -/
theorem beforeNul_eq_iff {bs name : Bytes} (hn : 0 ∉ name) :
    bs.beforeNul = name ↔ bs.take (name.length + 1) = name ++ [0] ∨ bs = name := by
  induction name generalizing bs with
  | nil =>
    cases bs with
    | nil => simp
    | cons c bs => by_cases hc : c = 0 <;> simp [beforeNul_cons, hc]
  | cons b name ih =>
    have hb : b ≠ 0 := fun e => hn (e ▸ List.mem_cons_self)
    have hname : 0 ∉ name := fun hm => hn (List.mem_cons_of_mem b hm)
    cases bs with
    | nil => simp
    | cons c bs =>
      by_cases hc : c = 0
      · simp [beforeNul_cons, hc, Ne.symm hb]
      · rw [beforeNul_cons, if_neg hc, List.cons.injEq, ih hname]
        simp [and_or_left]

/-- A field holds a name exactly when the two agree before their first NUL. -/
theorem holds_iff (field name : Bytes) : field.holds name = true ↔ field.beforeNul = name.beforeNul := by
  induction name generalizing field with
  | nil =>
    cases field with
    | nil => simp [holds]
    | cons c field => by_cases h : c = 0 <;> simp [holds, beforeNul_cons, h]
  | cons b name ih =>
    cases field with
    | nil =>
      by_cases h : b = 0
      · simp [holds, beforeNul_cons, h]
      · simp [holds, beforeNul_cons, h, Ne.symm h]
    | cons c field =>
      by_cases h : b = 0
      · by_cases h' : c = 0 <;> simp [holds, beforeNul_cons, h, h']
      · by_cases h' : c = 0
        · simp [holds, beforeNul_cons, h, h', Ne.symm h]
        · simp [holds, beforeNul_cons, h, h', ih]

end Bytes

end KernelGuise
