import DmxNet.Bytes.Cursor
import DmxNet.Proofs.Numeric.Digits

/-!
# Faults that state numbers

A fault states the numbers in its details when it is raised, and a number that is too long cannot be
stated. So what is raised if bytes are needed that are not there says how many, unless it is for the
size of that number (`Fault.shortage_eq`).
-/

namespace DmxNet

namespace Fault

theorem numberText_of_writable {n : Int} (h : Digits.writable n = true) :
    numberText n = .ok (Digits.decimal n) := if_pos h

theorem numberText_of_not_writable {n : Int} (h : ¬ Digits.writable n = true) :
    numberText n = .error (.invalid .unwritable) := if_neg h

end Fault

namespace Value

theorem plain_int (n : Int) : (Value.int n).plain = Fault.numberText n := by
  rw [plain, render]
  rfl

theorem plain_int_of_lt {n : Nat} (h : n < 65536) :
    (Value.int n).plain = .ok (Digits.decimal n) := by
  rw [plain_int, Fault.numberText_of_writable (Digits.writable_of_lt h)]

/-- Whatever number is to be logged, there is a line. -/
theorem exists_logged_int (n : Int) : ∃ s, (Value.int n).logged = .ok s := by
  rw [logged, plain_int, Fault.numberText]
  split_ifs
  · exact ⟨_, rfl⟩
  · exact ⟨_, rfl⟩

end Value

namespace Fault

/-! ### Shortage -/

theorem text_endOfInput (needed available : Int) :
    (endOfInput (.int needed) (.int available)).text = (do
      return "Unexpected end of datagram: needed " ++ (← numberText needed) ++ " bytes, " ++
        (← numberText available) ++ " available") := by
  rw [text, Value.plain_int, Value.plain_int]

variable {needed available : Nat}

/-- What is available is less than what is needed, so it can be written if that can. -/
theorem exists_text_endOfInput (h : available < needed) (hw : Digits.writable needed = true) :
    ∃ s, (endOfInput (.int needed) (.int available)).text = .ok s := by
  rw [text_endOfInput, numberText_of_writable hw,
    numberText_of_writable (Digits.writable_of_le h.le hw)]
  exact ⟨_, rfl⟩

/-- **What a shortage raises**: what is needed and what is available, or that the former is too long
a number to be written. -/
theorem shortage_eq (h : available < needed) :
    shortage needed available =
      if Digits.writable needed then .endOfInput (.int needed) (.int available)
      else .invalid .unwritable := by
  split_ifs with hw
  · obtain ⟨s, hs⟩ := exists_text_endOfInput h hw
    rw [shortage, raised, stated, hs]
    rfl
  · rw [shortage, raised, stated, text_endOfInput, numberText_of_not_writable hw]
    rfl

/-- If what is needed is a number of a few digits, then it is told. -/
theorem shortage_of_lt (h : available < needed) (hn : needed < 65536) :
    shortage needed available = .endOfInput (.int needed) (.int available) := by
  rw [shortage_eq h, if_pos (Digits.writable_of_lt hn)]

end Fault

end DmxNet
