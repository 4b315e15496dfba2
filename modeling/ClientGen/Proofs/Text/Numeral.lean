import Mathlib.Data.List.Basic

/-!
# Numerals behind names

A name that does not end in a digit can be told from a numeral written behind it. Numbered names
are therefore equal only where the names and the numbers are.
-/

namespace ClientGen.Text

theorem isDigit_of_mem_numeral {n : Nat} {c : Char} (h : c ∈ (toString n).toList) :
    c.isDigit = true := by
  rw [Nat.toString_eq_repr, Nat.toList_repr] at h
  exact Nat.isDigit_of_mem_toDigits (by omega) (by omega) h

theorem numeral_injective {m n : Nat} (h : (toString m).toList = (toString n).toList) : m = n := by
  rw [Nat.toString_eq_repr, Nat.toString_eq_repr, Nat.toList_repr, Nat.toList_repr] at h
  have hread := congrArg (fun digits => Nat.ofDigitChars 10 digits 0) h
  simpa using hread

theorem numeral_ne_nil (n : Nat) : (toString n).toList ≠ [] := by
  rw [Nat.toString_eq_repr, Nat.toList_repr]
  exact Nat.toDigits_ne_nil

def EndsPlain (name : String) : Prop :=
  ∃ stem c, name.toList = stem ++ [c] ∧ c.isDigit = false

theorem endsPlain_append (a : String) {b : String} (hb : EndsPlain b) : EndsPlain (a ++ b) := by
  obtain ⟨stem, c, hlist, hc⟩ := hb
  refine ⟨a.toList ++ stem, c, ?_, hc⟩
  rw [String.toList_append, hlist, List.append_assoc]

/-- Read from the right, a name with a numeral behind it gives the numeral up to the first
character that is no digit. -/
theorem takeWhile_numbered {name : String} (hname : EndsPlain name) (n : Nat) :
    (name ++ toString n).toList.reverse.takeWhile Char.isDigit = (toString n).toList.reverse := by
  obtain ⟨stem, c, hlist, hc⟩ := hname
  have hdigits : ∀ d ∈ (toString n).toList.reverse, d.isDigit = true := fun d hd =>
    isDigit_of_mem_numeral (List.mem_reverse.1 hd)
  rw [String.toList_append, List.reverse_append, List.takeWhile_append_of_pos hdigits, hlist]
  simp [hc]

theorem takeWhile_plain {name : String} (hname : EndsPlain name) :
    name.toList.reverse.takeWhile Char.isDigit = [] := by
  obtain ⟨stem, c, hlist, hc⟩ := hname
  rw [hlist]
  simp [hc]

theorem numbered_inj {a b : String} (ha : EndsPlain a) (hb : EndsPlain b) {m n : Nat}
    (h : a ++ toString m = b ++ toString n) : a = b ∧ m = n := by
  have hread := congrArg (fun s => s.toList.reverse.takeWhile Char.isDigit) h
  simp only [takeWhile_numbered ha, takeWhile_numbered hb, List.reverse_inj] at hread
  have hmn : m = n := numeral_injective hread
  subst hmn
  exact ⟨(String.append_left_inj _).1 h, rfl⟩

theorem numbered_ne_plain (a : String) {b : String} (ha : EndsPlain a) (hb : EndsPlain b)
    (n : Nat) : a ++ toString n ≠ b := by
  intro h
  have hread := congrArg (fun s => s.toList.reverse.takeWhile Char.isDigit) h
  simp only [takeWhile_numbered ha, takeWhile_plain hb, List.reverse_eq_nil_iff] at hread
  exact numeral_ne_nil n hread

end ClientGen.Text
